import DreamJournal.Text.Case
import Mathlib.Data.List.Forall2

/-!
# A text in any case

A search without regard to case passes over a text letter by letter, so what it finds is as long as
what it looks for. For the first 128 characters the lower case form is made letter by letter too,
and a search for the lower case form of a text finds the text.
-/
namespace DreamJournal.Text

variable {c : Char} {start t rest : Text}

/-- Two texts are the same letter by letter, whatever the case of the letters. -/
def SameLetters (wanted found : Text) : Prop :=
  List.Forall₂ (fun w c => sameLetter w c = true) wanted found

theorem afterAnyCase?_eq_some_iff :
    afterAnyCase? start t = some rest ↔ ∃ found, t = found ++ rest ∧ SameLetters start found := by
  constructor
  · intro returned
    fun_induction afterAnyCase? start t with
    | case1 t => exact ⟨[], by simpa using returned, .nil⟩
    | case2 => cases returned
    | case3 s start c t same ih =>
      obtain ⟨found, rfl, letters⟩ := ih returned
      exact ⟨c :: found, rfl, .cons same letters⟩
    | case4 => cases returned
  · rintro ⟨found, rfl, letters⟩
    induction letters with
    | nil => rfl
    | cons same _ ih => rw [List.cons_append, afterAnyCase?, if_pos same, ih]

theorem afterAnyCase?_append (start rest : Text) :
    afterAnyCase? start (start ++ rest) = some rest := by
  refine afterAnyCase?_eq_some_iff.mpr ⟨start, rfl, List.forall₂_same.mpr fun c _ => ?_⟩
  simp [sameLetter]

/-! ## The first 128 characters -/

/-- A capital letter moves up by 32, and all else stays. -/
theorem toLower_cases (c : Char) :
    ((0x41 ≤ c.toNat ∧ c.toNat ≤ 0x5A) ∧ c.toLower.toNat = c.toNat + 0x20) ∨
      (¬(0x41 ≤ c.toNat ∧ c.toNat ≤ 0x5A) ∧ c.toLower = c) := by
  have bounds : (c.val ≥ 'A'.val ∧ c.val ≤ 'Z'.val) ↔ (0x41 ≤ c.toNat ∧ c.toNat ≤ 0x5A) := by
    simp only [ge_iff_le, UInt32.le_iff_toNat_le]
    exact Iff.rfl
  rw [← bounds]
  by_cases capital : c.val ≥ 'A'.val ∧ c.val ≤ 'Z'.val
  · refine .inl ⟨capital, ?_⟩
    have upper : c.toLower = ⟨c.val + ('a'.val - 'A'.val), _⟩ := dif_pos capital
    have moved : c.toLower.toNat = (c.toNat + 0x20) % 2 ^ 32 := by
      rw [upper]
      exact UInt32.toNat_add c.val ('a'.val - 'A'.val)
    have small := (bounds.mp capital).2
    omega
  · exact .inr ⟨capital, dif_neg capital⟩

theorem lowerChar_plain (plain : c.toNat < 0x80) : lowerChar c = c.toLower := if_pos plain

theorem lowerChar_lowerChar (plain : c.toNat < 0x80) : lowerChar (lowerChar c) = lowerChar c := by
  rw [lowerChar_plain plain]
  rcases toLower_cases c with ⟨capital, moved⟩ | ⟨_, same⟩
  · rw [lowerChar_plain (by omega)]
    -- what a capital letter moves to is no capital letter
    rcases toLower_cases c.toLower with ⟨again, _⟩ | ⟨_, stays⟩
    · omega
    · exact stays
  · rw [same, lowerChar_plain plain, same]

/-- The lower case form of a letter is the same letter. -/
theorem sameLetter_lowerChar (plain : c.toNat < 0x80) : sameLetter (lowerChar c) c = true := by
  simp [sameLetter, lowerChar_lowerChar plain]

theorem lowerFrom_plain (plain : ∀ c ∈ t, c.toNat < 0x80) (before : Text) :
    lowerFrom before t = t.map lowerChar := by
  induction t generalizing before with
  | nil => rfl
  | cons c t ih =>
    have ⟨here, later⟩ := List.forall_mem_cons.mp plain
    -- neither the sigma nor the dotted capital i is among these characters
    have noSigma : c ≠ 'Σ' := by
      rintro rfl
      exact absurd here (by decide)
    have noDot : c.toNat ≠ 0x130 := by omega
    simp [lowerFrom, noSigma, noDot, ih later]

theorem sameLetters_lower (plain : ∀ c ∈ t, c.toNat < 0x80) : SameLetters (lower t) t := by
  rw [lower, lowerFrom_plain plain, SameLetters, List.forall₂_map_left_iff, List.forall₂_same]
  exact fun c member => sameLetter_lowerChar (plain c member)

end DreamJournal.Text
