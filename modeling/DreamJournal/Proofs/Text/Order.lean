import DreamJournal.Proofs.Text.Letters
import Mathlib.Data.Char
import Mathlib.Data.List.Lex
import Mathlib.Order.Lattice

/-!
# Numerals in the order of texts

Texts are in order by their characters from the first on, and a text comes before all texts that it
begins. Among numerals of one width this is the order of the numbers: the first digit that differs
outweighs all that follow it.
-/
namespace DreamJournal.Text

variable {s t front back : Text} {m n width : Nat}

/-! ## Comparing -/

/-- The first items decide, or what follows them when they are the same. -/
theorem cons_le_cons_iff {α : Type} [LinearOrder α] {a b : α} {s t : List α} :
    a :: s ≤ b :: t ↔ a < b ∨ a = b ∧ s ≤ t := by
  rw [le_iff_lt_or_eq, List.cons_lt_cons_iff, List.cons.injEq, le_iff_lt_or_eq]
  tauto

theorem le_iff : le s t = true ↔ s ≤ t := by
  fun_induction le s t with
  | case1 t => simpa using not_lt.mp (List.not_lt_nil t)
  | case2 c s => simp
  | case3 c s t ih => simp [cons_le_cons_iff, ih]
  | case4 c s d t other =>
    -- characters are in order by their codes
    simp only [cons_le_cons_iff, other, false_and, or_false, decide_eq_true_eq]
    rfl

/-! ## Texts with beginnings of one length -/

/-- Behind beginnings of one length, the beginnings decide, or what follows them when they are the
same. -/
theorem append_lt_append_iff (same : front.length = back.length) :
    front ++ s < back ++ t ↔ front < back ∨ front = back ∧ s < t := by
  induction front generalizing back with
  | nil =>
    obtain rfl := List.length_eq_zero_iff.mp same.symm
    simp
  | cons c front ih =>
    cases back with
    | nil => cases same
    | cons d back =>
      rw [List.cons_append, List.cons_append, List.cons_lt_cons_iff, List.cons_lt_cons_iff,
        ih (Nat.succ.inj same), List.cons.injEq]
      tauto

theorem lt_append (given : t ≠ []) : s < s ++ t := by
  obtain ⟨c, rest, rfl⟩ := List.exists_cons_of_ne_nil given
  induction s with
  | nil => exact List.nil_lt_cons c rest
  | cons d s ih => exact List.cons_lt_cons_iff.mpr (.inr ⟨rfl, ih⟩)

/-! ## Numerals of one width -/

/-- A greater beginning makes a greater number, whatever digits follow. -/
theorem ofDigitChars_lt_of_lt (digits : ∀ c ∈ s, c.isDigit = true) (same : s.length = t.length)
    (less : m < n) : Nat.ofDigitChars 10 s m < Nat.ofDigitChars 10 t n := by
  induction s generalizing t m n with
  | nil =>
    obtain rfl := List.length_eq_zero_iff.mp same.symm
    exact less
  | cons c s ih =>
    cases t with
    | nil => cases same
    | cons d t =>
      have ⟨here, later⟩ := List.forall_mem_cons.mp digits
      have code := code_of_isDigit here
      rw [Nat.ofDigitChars_cons, Nat.ofDigitChars_cons]
      apply ih later (Nat.succ.inj same)
      -- the digit behind the smaller number is nine at most
      have zero : '0'.toNat = 0x30 := rfl
      omega

/-- Of two numerals of one width the earlier one is the smaller number. -/
theorem ofDigitChars_lt (digits : ∀ c ∈ s, c.isDigit = true) (same : s.length = t.length)
    (less : s < t) (n : Nat) : Nat.ofDigitChars 10 s n < Nat.ofDigitChars 10 t n := by
  induction s generalizing t n with
  | nil =>
    obtain rfl := List.length_eq_zero_iff.mp same.symm
    exact absurd less (lt_irrefl _)
  | cons c s ih =>
    cases t with
    | nil => cases same
    | cons d t =>
      have ⟨here, later⟩ := List.forall_mem_cons.mp digits
      rw [Nat.ofDigitChars_cons, Nat.ofDigitChars_cons]
      rcases List.cons_lt_cons_iff.mp less with first | ⟨rfl, behind⟩
      · apply ofDigitChars_lt_of_lt later (Nat.succ.inj same)
        have code := code_of_isDigit here
        have order : c.toNat < d.toNat := first
        have zero : '0'.toNat = 0x30 := rfl
        omega
      · exact ih later (Nat.succ.inj same) behind _

theorem ofDigitChars_padded (width n : Nat) : Nat.ofDigitChars 10 (padded width n) 0 = n := by
  rw [← decimalNumber_eq fun _ member => isDigit_of_mem_padded member, decimalNumber_padded]

theorem padded_inj : padded width m = padded width n ↔ m = n := by
  constructor
  · intro same
    rw [← ofDigitChars_padded width m, same, ofDigitChars_padded]
  · exact congrArg (padded width)

theorem lt_of_padded_lt (same : (padded width m).length = (padded width n).length)
    (less : padded width m < padded width n) : m < n := by
  have order := ofDigitChars_lt (fun _ member => isDigit_of_mem_padded member) same less 0
  rwa [ofDigitChars_padded, ofDigitChars_padded] at order

/-- Numbers whose numerals have one width are in order as these are. -/
theorem padded_lt_padded_iff (same : (padded width m).length = (padded width n).length) :
    padded width m < padded width n ↔ m < n := by
  refine ⟨lt_of_padded_lt same, fun less => ?_⟩
  -- otherwise the numerals are the same or stand the other way round
  rcases lt_trichotomy (padded width m) (padded width n) with before | equal | behind
  · exact before
  · have := padded_inj.mp equal
    omega
  · have := lt_of_padded_lt same.symm behind
    omega

end DreamJournal.Text
