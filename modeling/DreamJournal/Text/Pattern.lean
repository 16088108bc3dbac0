import DreamJournal.Text.Basic

/-!
# Patterns and replacement

A search says, at one place of a text, how many characters it covers from there and what they
mean; a pattern is a search that says what stands in their stead. It sees the character before
the place, so that it can ask for the start of a line or of a word. `replaceAll` walks a text once
from left to right: wherever a pattern covers something, that is replaced and the walk goes on
behind it. A match therefore never begins inside an earlier one, but it may look back at a
character that an earlier one covered.

A pattern that covers no character is taken not to match.
-/
namespace DreamJournal.Text

/-- What was found at a place: how many characters it covers, and what it means. -/
structure Match (α : Type) where
  size : Nat
  value : α

/-- A search is asked at a place, given the character before it and the text from it on. -/
abbrev Finder (α : Type) := (before : Option Char) → (here : Text) → Option (Match α)

/-- A pattern is a search whose findings are replaced by texts. -/
abbrev Pattern := Finder Text

namespace Finder

variable {α : Type}

/-- The findings from a place on, `skip` characters of which an earlier one covers. -/
def findFrom (finder : Finder α) : (skip : Nat) → (before : Option Char) → Text → List α
  | _, _, [] => []
  | skip + 1, _, c :: rest => findFrom finder skip (some c) rest
  | 0, before, c :: rest =>
    match finder before (c :: rest) with
    | some ⟨size + 1, value⟩ => value :: findFrom finder size (some c) rest
    | _ => findFrom finder 0 (some c) rest

/-- The findings that do not overlap, from left to right. -/
def findAll (finder : Finder α) (t : Text) : List α := findFrom finder 0 none t

/-- Whether anything is found at the place between two parts of a text. -/
def MatchesAt (finder : Finder α) (before here : Text) : Prop :=
  ∃ found, finder before.getLast? here = some found ∧ 0 < found.size

/-- Whether anything is found anywhere in a text. -/
def OccursIn (finder : Finder α) (t : Text) : Prop :=
  ∃ before here, t = before ++ here ∧ here ≠ [] ∧ finder.MatchesAt before here

end Finder

namespace Pattern

/-- Replace the matches from a place on, `skip` characters of which an earlier match covers. -/
def replaceFrom (pattern : Pattern) : (skip : Nat) → (before : Option Char) → Text → Text
  | _, _, [] => []
  | skip + 1, _, c :: rest => replaceFrom pattern skip (some c) rest
  | 0, before, c :: rest =>
    match pattern before (c :: rest) with
    | some ⟨size + 1, replacement⟩ => replacement ++ replaceFrom pattern size (some c) rest
    | _ => c :: replaceFrom pattern 0 (some c) rest

/-- Replace every match, from left to right. -/
def replaceAll (pattern : Pattern) (t : Text) : Text := replaceFrom pattern 0 none t

end Pattern
end DreamJournal.Text
