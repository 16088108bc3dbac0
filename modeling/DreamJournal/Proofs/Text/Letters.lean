import DreamJournal.Callout.Marker
import DreamJournal.Text.Classes
import Mathlib.Algebra.Ring.Nat

/-!
# Letters and digits

The letters from A to Z and the decimal digits belong to no class of characters that the rules on
notes look for: they are no white space, end no line, quote nothing and mark nothing up. Numerals
made of digits are read back as the numbers that they were written for.
-/
namespace DreamJournal.Text

variable {c mark : Char} {t : Text}

theorem isAlpha_iff_code : c.isAlpha = true ↔
    (0x41 ≤ c.toNat ∧ c.toNat ≤ 0x5A) ∨ (0x61 ≤ c.toNat ∧ c.toNat ≤ 0x7A) := by
  have bounds : c.isAlpha = (decide ('A'.val ≤ c.val ∧ c.val ≤ 'Z'.val) ||
      (decide ('a'.val ≤ c.val) && decide (c.val ≤ 'z'.val))) := rfl
  rw [bounds]
  simp only [Bool.or_eq_true, Bool.and_eq_true, decide_eq_true_eq, UInt32.le_iff_toNat_le]
  exact Iff.rfl

theorem code_of_isAlpha (letter : c.isAlpha = true) :
    (0x41 ≤ c.toNat ∧ c.toNat ≤ 0x5A) ∨ (0x61 ≤ c.toNat ∧ c.toNat ≤ 0x7A) :=
  isAlpha_iff_code.mp letter

theorem code_of_isDigit (digit : c.isDigit = true) : 0x30 ≤ c.toNat ∧ c.toNat ≤ 0x39 :=
  Char.isDigit_iff_toNat.mp digit

/-- A letter or a digit has none of the codes up to the slash. -/
theorem code_of_isAlphanum (given : c.isAlphanum = true) :
    (0x30 ≤ c.toNat ∧ c.toNat ≤ 0x39) ∨ (0x41 ≤ c.toNat ∧ c.toNat ≤ 0x5A) ∨
      (0x61 ≤ c.toNat ∧ c.toNat ≤ 0x7A) := by
  rw [Char.isAlphanum, Bool.or_eq_true] at given
  rcases given with letter | digit
  · exact .inr (code_of_isAlpha letter)
  · exact .inl (code_of_isDigit digit)

theorem isAlphanum_of_isAlpha (letter : c.isAlpha = true) : c.isAlphanum = true := by
  simp [Char.isAlphanum, letter]

theorem isAlphanum_of_isDigit (digit : c.isDigit = true) : c.isAlphanum = true := by
  simp [Char.isAlphanum, digit]

theorem ne_of_isAlphanum (given : c.isAlphanum = true) (other : mark.isAlphanum = false) :
    c ≠ mark := by
  rintro rfl
  rw [given] at other
  cases other

theorem isBlank_of_isAlphanum (given : c.isAlphanum = true) : isBlank c = false := by
  -- the codes of white space lie below the digits or above the letters
  have code := code_of_isAlphanum given
  simp only [isBlank, Bool.or_eq_false_iff, Bool.and_eq_false_iff, decide_eq_false_iff_not,
    beq_eq_false_iff_ne]
  omega

theorem isLineBreak_of_isAlphanum (given : c.isAlphanum = true) : isLineBreak c = false := by
  have code := code_of_isAlphanum given
  simp only [isLineBreak, Bool.or_eq_false_iff, Bool.and_eq_false_iff, decide_eq_false_iff_not,
    beq_eq_false_iff_ne]
  omega

theorem isPart_of_isAlphanum (given : c.isAlphanum = true) : Marker.isPart c = false := by
  simp only [Marker.isPart, isGap, Bool.or_eq_false_iff, beq_eq_false_iff_ne]
  exact ⟨ne_of_isAlphanum given rfl, ne_of_isAlphanum given rfl, ne_of_isAlphanum given rfl⟩

theorem isGap_of_isAlphanum (given : c.isAlphanum = true) : isGap c = false := by
  have other := isPart_of_isAlphanum given
  rw [Marker.isPart, Bool.or_eq_false_iff] at other
  exact other.2

theorem isWordChar_of_isAlphanum (given : c.isAlphanum = true) : isWordChar c = true := by
  have code := code_of_isAlphanum given
  have plain : c.toNat < 0x80 := by omega
  rw [isWordChar, isLetterOrNumber, if_pos plain, given, Bool.or_true]

/-! ## Numerals -/

theorem decimalValue?_of_isDigit (digit : c.isDigit = true) :
    decimalValue? c = some (c.toNat - '0'.toNat) := by
  have code := code_of_isDigit digit
  have plain : c.toNat < 0x80 := by omega
  rw [decimalValue?, if_pos plain, if_pos digit]

theorem isDecimal_of_isDigit (digit : c.isDigit = true) : isDecimal c = true := by
  rw [isDecimal, decimalValue?_of_isDigit digit]
  rfl

theorem foldl_decimalValue (digits : ∀ c ∈ t, c.isDigit = true) (n : Nat) :
    t.foldl (fun n c => 10 * n + (decimalValue? c).getD 0) n = Nat.ofDigitChars 10 t n := by
  induction t generalizing n with
  | nil => rfl
  | cons c rest ih =>
    have ⟨here, later⟩ := List.forall_mem_cons.mp digits
    rw [List.foldl_cons, decimalValue?_of_isDigit here, ih later, Nat.ofDigitChars_cons,
      Option.getD_some]

/-- Plain digits spell the number that the standard library reads from them. -/
theorem decimalNumber_eq (digits : ∀ c ∈ t, c.isDigit = true) :
    decimalNumber t = Nat.ofDigitChars 10 t 0 :=
  foldl_decimalValue digits 0

theorem isDigit_of_mem_ofNat {n : Nat} (member : c ∈ ofNat n) : c.isDigit = true :=
  Nat.isDigit_of_mem_toDigits (by decide) (by decide) member

theorem isDigit_of_mem_padded {width n : Nat} (member : c ∈ padded width n) :
    c.isDigit = true := by
  rcases List.mem_append.mp member with zero | digit
  · rw [List.eq_of_mem_replicate zero]
    rfl
  · exact isDigit_of_mem_ofNat digit

theorem decimalNumber_padded (width n : Nat) : decimalNumber (padded width n) = n := by
  rw [decimalNumber_eq fun _ member => isDigit_of_mem_padded member, padded, ofNat,
    Nat.ofDigitChars_append, Nat.ofDigitChars_replicate_zero, Nat.mul_zero,
    Nat.ofDigitChars_ten_toDigits]

theorem ofNat_ne_nil (n : Nat) : ofNat n ≠ [] := by
  intro none
  have given := Nat.length_toDigits_pos (b := 10) (n := n)
  rw [← ofNat, none] at given
  exact absurd given (by decide)

theorem mem_ofInt {n : Int} (member : c ∈ ofInt n) : c = '-' ∨ c.isDigit = true := by
  unfold ofInt at member
  split at member
  · rcases List.mem_cons.mp member with sign | digit
    · exact .inl sign
    · exact .inr (isDigit_of_mem_ofNat digit)
  · exact .inr (isDigit_of_mem_ofNat member)

theorem ofInt_ne_nil (n : Int) : ofInt n ≠ [] := by
  unfold ofInt
  split
  · exact List.cons_ne_nil _ _
  · exact ofNat_ne_nil _

/-- A number with at most as many digits as the width is written in exactly that width. -/
theorem length_padded {width n : Nat} (given : 0 < width) (fits : n < 10 ^ width) :
    (padded width n).length = width := by
  have short : (ofNat n).length ≤ width := (Nat.length_toDigits_le_iff (by decide) given).mpr fits
  rw [padded, List.length_append, List.length_replicate]
  omega

end DreamJournal.Text
