import DreamJournal.Text.Pattern
import Mathlib.Data.List.Basic

/-!
# Patterns that shorten

A pattern shortens when each of its findings leaves less than it covers, and leaves that in order.
Replacing by such a pattern only deletes characters, so a text is either left alone or gets
shorter: this is what the rounds of the inline rules are paid with.
-/
namespace DreamJournal.Text

open scoped List

variable {pattern : Pattern} {t here covered rest value : Text} {size : Nat}

/-- A finding covers a part of the text in front, and leaves a shorter text that was in it. -/
structure Match.Shortens (found : Match Text) (here : Text) : Prop where
  within : found.size ≤ here.length
  kept : found.value <+ here.take found.size
  shorter : found.value.length < found.size

/-- All findings of a pattern shorten. -/
def Pattern.Shortens (pattern : Pattern) : Prop :=
  ∀ {before here found}, pattern before here = some found → found.Shortens here

/-- A finding described by the text it covers. -/
theorem Match.Shortens.of_covered (sized : covered.length = size) (kept : value <+ covered)
    (shorter : value.length < covered.length) :
    (⟨size, value⟩ : Match Text).Shortens (covered ++ rest) := by
  subst sized
  refine ⟨by simp, ?_, shorter⟩
  rwa [List.take_left]

/-- A finding that leaves nothing only has to stay within the text. -/
theorem Match.Shortens.of_size (given : 0 < size) (within : size ≤ here.length) :
    (⟨size, []⟩ : Match Text).Shortens here :=
  ⟨within, List.nil_sublist _, given⟩

namespace Pattern

/-! ## Behind a finding -/

/-- Behind what an earlier finding covers, a walk goes on as if it had come there by itself. -/
theorem replaceFrom_covered (pattern : Pattern) (before : Option Char) (front rest : Text) :
    pattern.replaceFrom front.length before (front ++ rest) =
      pattern.replaceFrom 0 (front.getLast?.or before) rest := by
  induction front generalizing before with
  | nil => rfl
  | cons c front ih =>
    rw [List.length_cons, List.cons_append, replaceFrom, ih]
    cases last : front.getLast? <;> simp [List.getLast?_cons, last]

/-- A finding is replaced, and the walk goes on behind it. -/
theorem replaceFrom_found {before : Option Char} {front : Text} (given : front ≠ [])
    (found : pattern before (front ++ rest) = some ⟨front.length, value⟩) :
    pattern.replaceFrom 0 before (front ++ rest) =
      value ++ pattern.replaceFrom 0 front.getLast? rest := by
  obtain ⟨c, front, rfl⟩ := List.exists_cons_of_ne_nil given
  rw [List.length_cons] at found
  rw [List.cons_append, replaceFrom, ← List.cons_append, found, List.getLast?_cons]
  dsimp only
  rw [replaceFrom_covered]
  cases last : front.getLast? <;> simp

/-! ## Findings that shorten -/

/-- Behind what an earlier finding covers, a text only loses characters. -/
theorem replaceFrom_sublist (shortens : pattern.Shortens) (skip : Nat) (before : Option Char)
    (t : Text) : pattern.replaceFrom skip before t <+ t.drop skip := by
  induction t generalizing skip before with
  | nil => simp [replaceFrom]
  | cons c rest ih =>
    cases skip with
    | succ skip =>
      rw [replaceFrom, List.drop_succ_cons]
      exact ih skip (some c)
    | zero =>
      rw [replaceFrom, List.drop_zero]
      split
      next size value returned =>
        have found := shortens returned
        have joined := found.kept.append (ih size (some c))
        rwa [← List.drop_succ_cons, List.take_append_drop] at joined
      next => exact (ih 0 (some c)).cons_cons c

theorem replaceAll_sublist (shortens : pattern.Shortens) (t : Text) : pattern.replaceAll t <+ t :=
  replaceFrom_sublist shortens 0 none t

/-- A replacement costs characters, and nothing behind it brings them back. -/
theorem length_replacement_lt (shortens : pattern.Shortens) {before : Option Char} {c : Char}
    (returned : pattern before (c :: rest) = some ⟨size + 1, value⟩) :
    (value ++ pattern.replaceFrom size (some c) rest).length < (c :: rest).length := by
  have within : size + 1 ≤ (c :: rest).length := (shortens returned).within
  have shorter : value.length < size + 1 := (shortens returned).shorter
  have behind : pattern.replaceFrom size (some c) rest <+ rest.drop size :=
    replaceFrom_sublist shortens size (some c) rest
  have kept := behind.length_le
  rw [List.length_drop] at kept
  simp only [List.length_append, List.length_cons] at within ⊢
  omega

/-- From a place on a text is left alone exactly when nothing is found at any place behind. -/
theorem replaceFrom_eq_self_iff (shortens : pattern.Shortens) (before : Option Char) (t : Text) :
    pattern.replaceFrom 0 before t = t ↔
      ∀ front here, t = front ++ here → here ≠ [] →
        ¬∃ found, pattern (front.getLast?.or before) here = some found ∧ 0 < found.size := by
  induction t generalizing before with
  | nil => simp [replaceFrom]
  | cons c rest ih =>
    rw [replaceFrom]
    split
    next size value returned =>
      refine iff_of_false (fun same => ?_) (fun absent => ?_)
      · have less : (value ++ pattern.replaceFrom size (some c) rest).length < (c :: rest).length :=
          length_replacement_lt shortens returned
        rw [same] at less
        exact Nat.lt_irrefl _ less
      · exact absent [] (c :: rest) rfl (List.cons_ne_nil c rest) ⟨_, returned, Nat.succ_pos size⟩
    next unfound =>
      rw [List.cons.injEq, ih (some c)]
      constructor
      · rintro ⟨_, later⟩ front here parts given
        cases front with
        | nil =>
          rintro ⟨⟨size, value⟩, returned, positive⟩
          obtain ⟨size, rfl⟩ := Nat.exists_eq_succ_of_ne_zero (Nat.ne_of_gt positive)
          obtain rfl := parts
          exact unfound size value returned
        | cons d front =>
          obtain ⟨rfl, rfl⟩ := List.cons.inj parts
          simpa [List.getLast?_cons] using later front here rfl given
      · refine fun absent => ⟨rfl, fun front here parts given => ?_⟩
        simpa [List.getLast?_cons] using absent (c :: front) here (by rw [parts]; rfl) given

/-- A pattern that shortens leaves alone the texts in which it does not occur, and no others. -/
theorem replaceAll_eq_self_iff (shortens : pattern.Shortens) (t : Text) :
    pattern.replaceAll t = t ↔ ¬pattern.OccursIn t := by
  rw [replaceAll, replaceFrom_eq_self_iff shortens]
  simp only [Option.or_none]
  constructor
  · rintro absent ⟨before, here, parts, given, found⟩
    exact absent before here parts given found
  · intro absent front here parts given found
    exact absent ⟨front, here, parts, given, found⟩

end Pattern
end DreamJournal.Text
