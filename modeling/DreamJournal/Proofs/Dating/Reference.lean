import DreamJournal.Dating.Strategies
import DreamJournal.Proofs.Text.Splitting
import Mathlib.Data.List.Infix

/-!
# Block references that spell a day

A caret with eight digits behind it, and not with more, is a token. Behind a token the search goes
on with the next character that is no part of it; as digits are no carets, no token is missed. The
first one that spells a day of the calendar gives the date, and each one in front of it is
complained of.
-/
namespace DreamJournal.Dating

variable {t digits front : Text} {lines impossible : List Text} {date : Date}

/-! ## Tokens -/

/-- The digits behind the caret with which a text begins, if they are eight. -/
def tokenAt? : Text → Option Text
  | '^' :: rest => if (leadingDigits rest).length = 8 then some (leadingDigits rest) else none
  | _ => none

theorem leadingDigits_append {behind : Text} (decimal : ∀ c ∈ digits, Text.isDecimal c = true)
    (ends : ∀ c ∈ behind.head?, Text.isDecimal c = false) :
    leadingDigits (digits ++ behind) = digits :=
  Text.takeWhile_run decimal ends

theorem tokenAt?_eq_some_iff : tokenAt? t = some digits ↔
    ∃ behind, t = '^' :: (digits ++ behind) ∧ digits.length = 8 ∧
      (∀ c ∈ digits, Text.isDecimal c = true) ∧
      ∀ c ∈ behind.head?, Text.isDecimal c = false := by
  constructor
  · intro found
    unfold tokenAt? at found
    split at found
    next rest =>
      split at found
      next eight =>
        obtain rfl := Option.some.inj found
        refine ⟨rest.dropWhile Text.isDecimal, ?_, eight, ?_, Text.head?_dropWhile rest⟩
        · rw [leadingDigits, List.takeWhile_append_dropWhile]
        · exact fun c member => List.mem_takeWhile_imp member
      next => cases found
    next => cases found
  · rintro ⟨behind, rfl, eight, decimal, ends⟩
    simp [tokenAt?, leadingDigits_append decimal ends, eight]

/-- The tokens of a line, from left to right. -/
def tokens (line : Text) : List Text := line.tails.filterMap tokenAt?

theorem tokenAt?_of_ne {c : Char} (other : c ≠ '^') (t : Text) : tokenAt? (c :: t) = none := by
  simp [tokenAt?, other]

theorem tokens_append (absent : '^' ∉ front) (t : Text) : tokens (front ++ t) = tokens t := by
  induction front with
  | nil => rfl
  | cons c front ih =>
    rw [List.mem_cons, not_or] at absent
    rw [List.cons_append, tokens, List.tails_cons,
      List.filterMap_cons_none (tokenAt?_of_ne (Ne.symm absent.1) _)]
    exact ih absent.2

/-- A token ends in front of the next one. -/
theorem tokens_token (found : tokenAt? ('^' :: t) = some digits) :
    tokens ('^' :: t) = digits :: tokens (t.drop 8) := by
  obtain ⟨behind, parts, eight, decimal, _⟩ := tokenAt?_eq_some_iff.mp found
  obtain rfl := (List.cons.inj parts).2
  have noCaret : '^' ∉ digits := by
    intro member
    have digit := decimal '^' member
    exact absurd digit (by decide)
  rw [tokens, List.tails_cons, List.filterMap_cons_some found, ← tokens, tokens_append noCaret,
    List.drop_left' eight]

theorem dateReference_eq (before : Option Char) (t : Text) :
    dateReference before t = (tokenAt? t).map fun digits => ⟨9, digits⟩ := by
  unfold dateReference
  split
  next rest =>
    dsimp only
    split
    next eight => simp [tokenAt?, eight]
    next other => simp [tokenAt?, other]
  next other =>
    -- nothing but a caret begins a token
    have nothing : tokenAt? t = none := by
      unfold tokenAt?
      split
      next rest => exact absurd rfl (other rest)
      next => rfl
    rw [nothing]
    rfl

theorem findFrom_eq (skip : Nat) (before : Option Char) (t : Text) :
    dateReference.findFrom skip before t = tokens (t.drop skip) := by
  induction t generalizing skip before with
  | nil => simp [Text.Finder.findFrom, tokens, tokenAt?]
  | cons c rest ih =>
    cases skip with
    | succ skip => exact ih skip (some c)
    | zero =>
      rw [Text.Finder.findFrom, dateReference_eq, List.drop_zero]
      cases found : tokenAt? (c :: rest) with
      | none =>
        rw [tokens, List.tails_cons, List.filterMap_cons_none found]
        exact ih 0 (some c)
      | some digits =>
        obtain ⟨behind, parts, _⟩ := tokenAt?_eq_some_iff.mp found
        obtain rfl := (List.cons.inj parts).1
        rw [tokens_token found]
        exact congrArg _ (ih 8 (some '^'))

/-- The search for references finds all tokens. -/
theorem findAll_eq (line : Text) : dateReference.findAll line = tokens line :=
  findFrom_eq 0 none line

/-! ## What a token spells -/

/-- A token is the year, month and day of a date. -/
def Spells (digits : Text) (date : Date) : Prop :=
  eightDigits digits = (date.year, date.month, date.day)

/-- A token spells no day of the calendar. -/
def IsImpossible (digits : Text) : Prop := ∀ date, ¬Spells digits date

/-- What is said of a token that spells no day. -/
def notADay (digits : Text) : Text :=
  let (year, month, day) := eightDigits digits
  Text.of "Block reference ^" ++ digits ++ Text.of ": " ++ Date.notADate year month day

/-- What a token comes to. -/
def ofToken (digits : Text) : Finding.Candidate :=
  let (year, month, day) := eightDigits digits
  Finding.candidate (Text.of "Block reference ^" ++ digits) year month day

theorem ofToken_day (spells : Spells digits date) : ofToken digits = .day date := by
  have real : Date.ofNumbers? date.year date.month date.day = some date := dif_pos date.real
  simp only [ofToken, show eightDigits digits = _ from spells, Finding.candidate, real]

theorem isImpossible_iff : IsImpossible digits ↔ ¬Date.IsReal (eightDigits digits).1
    (eightDigits digits).2.1 (eightDigits digits).2.2 := by
  constructor
  · exact fun none real => none ⟨_, _, _, real⟩ rfl
  · intro unreal date spells
    rw [show eightDigits digits = _ from spells] at unreal
    exact unreal date.real

theorem ofToken_impossible (none : IsImpossible digits) :
    ofToken digits = .impossible (notADay digits) := by
  simp only [ofToken, notADay, Finding.candidate, Date.ofNumbers?,
    dif_neg (isImpossible_iff.mp none)]

/-! ## The first token that spells a day -/

/-- The tokens on the first three of some lines. -/
def tokensIn (lines : List Text) : List Text := (lines.take 3).flatMap tokens

/-- The first token that spells a day, on the first three lines, spells this one, and these are the
tokens in front of it. -/
def FirstDay (lines impossible : List Text) (date : Date) : Prop :=
  ∃ digits later, tokensIn lines = impossible ++ digits :: later ∧ Spells digits date ∧
    ∀ other ∈ impossible, IsImpossible other

theorem fromBlockReference_eq (lines : List Text) :
    fromBlockReference lines =
      Finding.ofCandidates .blockReference ((tokensIn lines).map ofToken) := by
  rw [tokensIn, ← funext findAll_eq]
  rfl

theorem ofCandidates_behind (none : ∀ digits ∈ impossible, IsImpossible digits)
    (rest : List Finding.Candidate) :
    Finding.ofCandidates .blockReference (impossible.map ofToken ++ rest) =
      ⟨(Finding.ofCandidates .blockReference rest).date,
        impossible.map notADay ++ (Finding.ofCandidates .blockReference rest).complaints⟩ := by
  induction impossible with
  | nil => rfl
  | cons digits impossible ih =>
    have ⟨here, later⟩ := List.forall_mem_cons.mp none
    rw [List.map_cons, List.cons_append, ofToken_impossible here, Finding.ofCandidates, ih later]
    rfl

theorem fromBlockReference_day (first : FirstDay lines impossible date) :
    fromBlockReference lines = ⟨some (.ofDate date .blockReference), impossible.map notADay⟩ := by
  obtain ⟨digits, later, parts, spells, none⟩ := first
  rw [fromBlockReference_eq, parts, List.map_append, ofCandidates_behind none, List.map_cons,
    ofToken_day spells, Finding.ofCandidates, List.append_nil]

theorem fromBlockReference_none (none : ∀ digits ∈ tokensIn lines, IsImpossible digits) :
    fromBlockReference lines = ⟨Option.none, (tokensIn lines).map notADay⟩ := by
  rw [fromBlockReference_eq, ← List.append_nil ((tokensIn lines).map ofToken),
    ofCandidates_behind none]
  simp [Finding.ofCandidates, Finding.nothing]

/-- The diagnostic about a token that spells no day. -/
def invalid (source digits : Text) : Diagnostic := ⟨source, .dateInvalid, notADay digits, none⟩

/-- What block references come to: the day of the first token that spells one and a diagnostic about
each token in front of it, or diagnostics about all tokens. -/
inductive Referenced (lines : List Text) (source : Text) :
    Option ResolvedDate → List Diagnostic → Prop where
  | day {impossible : List Text} {date : Date} (first : FirstDay lines impossible date) :
    Referenced lines source (some (.ofDate date .blockReference)) (impossible.map (invalid source))
  | none (impossible : ∀ digits ∈ tokensIn lines, IsImpossible digits) :
    Referenced lines source Option.none ((tokensIn lines).map (invalid source))

theorem diagnostics_notADay (date : Option ResolvedDate) (impossible : List Text) (source : Text) :
    Finding.diagnostics ⟨date, impossible.map notADay⟩ source =
      impossible.map (invalid source) := by
  rw [Finding.diagnostics, List.map_map]
  rfl

theorem referenced (lines : List Text) (source : Text) :
    Referenced lines source (fromBlockReference lines).date
      ((fromBlockReference lines).diagnostics source) := by
  classical
  cases first : (tokensIn lines).find? fun digits => ∃ date, Spells digits date with
  | some digits =>
    obtain ⟨finds, impossible, later, parts, none⟩ := List.find?_eq_some_iff_append.mp first
    obtain ⟨date, spells⟩ := of_decide_eq_true finds
    have first : FirstDay lines impossible date := by
      refine ⟨digits, later, parts, spells, fun other member => ?_⟩
      simpa [IsImpossible] using none other member
    rw [fromBlockReference_day first, diagnostics_notADay]
    exact .day first
  | none =>
    have none : ∀ digits ∈ tokensIn lines, IsImpossible digits := by
      intro digits member
      simpa [IsImpossible] using List.find?_eq_none.mp first digits member
    rw [fromBlockReference_none none, diagnostics_notADay]
    exact .none none

end DreamJournal.Dating
