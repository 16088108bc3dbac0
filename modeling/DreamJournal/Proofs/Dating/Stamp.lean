import DreamJournal.Callout.Reference
import DreamJournal.Dating.Resolve
import DreamJournal.Proofs.Callout.Reference
import DreamJournal.Proofs.Dating.Reference
import DreamJournal.Proofs.Narrative.Lines
import DreamJournal.Proofs.Text.Letters
import DreamJournal.Proofs.Text.Splitting

/-!
# Dates in block references

A day is written as eight digits. Behind a caret they are read as that day, whatever else could
date the journal, and they are the name by which the journal is referred to.
-/
namespace DreamJournal

variable {c : Char} {t front : Text}

/-- The digits of year, month and day. -/
def Date.stamp (d : Date) : Text :=
  Text.padded 4 d.year ++ (Text.padded 2 d.month ++ Text.padded 2 d.day)

/-! ## Eight digits -/

namespace Date

theorem daysInMonth_le (year month : Nat) : daysInMonth year month ≤ 31 := by
  unfold daysInMonth
  split <;> (try split) <;> decide

/-- Year, month and day fit the widths that they are written in. -/
theorem stamp_widths (d : Date) : (Text.padded 4 d.year).length = 4 ∧
    (Text.padded 2 d.month).length = 2 ∧ (Text.padded 2 d.day).length = 2 := by
  obtain ⟨_, latest, _, lastMonth, _, lastDay⟩ := d.real
  have month := daysInMonth_le d.year d.month
  exact ⟨Text.length_padded (by decide) (by omega), Text.length_padded (by decide) (by omega),
    Text.length_padded (by decide) (by omega)⟩

theorem length_stamp (d : Date) : d.stamp.length = 8 := by
  obtain ⟨year, month, day⟩ := d.stamp_widths
  simp [stamp, year, month, day]

theorem isDigit_of_mem_stamp {d : Date} (member : c ∈ d.stamp) : c.isDigit = true := by
  simp only [stamp, List.mem_append] at member
  rcases member with year | month | day
  · exact Text.isDigit_of_mem_padded year
  · exact Text.isDigit_of_mem_padded month
  · exact Text.isDigit_of_mem_padded day

theorem stamp_ne_nil (d : Date) : d.stamp ≠ [] := by
  intro none
  have eight := d.length_stamp
  rw [none] at eight
  cases eight

end Date

theorem Dating.eightDigits_append {year month : Text} (four : year.length = 4)
    (two : month.length = 2) (day : Text) : eightDigits (year ++ (month ++ day)) =
      (Text.decimalNumber year, Text.decimalNumber month, Text.decimalNumber day) := by
  have later : (year ++ (month ++ day)).drop 4 = month ++ day := List.drop_left' four
  have last : (year ++ (month ++ day)).drop 6 = day := by
    rw [← List.drop_drop (i := 2) (j := 4), later]
    exact List.drop_left' two
  rw [eightDigits, later, last, List.take_left' two, List.take_left' four]

theorem Dating.eightDigits_stamp (d : Date) : eightDigits d.stamp = (d.year, d.month, d.day) := by
  obtain ⟨year, month, _⟩ := d.stamp_widths
  rw [Date.stamp, eightDigits_append year month]
  simp only [Text.decimalNumber_padded]

/-! ## Looking for them -/

namespace Dating

theorem tokens_stamp (absent : '^' ∉ front) (d : Date) :
    ∃ further, tokens (front ++ '^' :: d.stamp) = d.stamp :: further := by
  have decimal : ∀ c ∈ d.stamp, Text.isDecimal c = true :=
    fun c member => Text.isDecimal_of_isDigit (Date.isDigit_of_mem_stamp member)
  have found : tokenAt? ('^' :: d.stamp) = some d.stamp :=
    tokenAt?_eq_some_iff.mpr ⟨[], by rw [List.append_nil], d.length_stamp, decimal, by simp⟩
  exact ⟨_, (tokens_append absent _).trans (tokens_token found)⟩

theorem fromBlockReference_stamp (absent : '^' ∉ front) (d : Date) (more : List Text) :
    fromBlockReference ((front ++ '^' :: d.stamp) :: more) =
      ⟨some (.ofDate d .blockReference), []⟩ := by
  obtain ⟨further, found⟩ := tokens_stamp absent d
  have first : FirstDay ((front ++ '^' :: d.stamp) :: more) [] d := by
    refine ⟨d.stamp, further ++ (more.take 2).flatMap tokens, ?_, eightDigits_stamp d,
      List.forall_mem_nil _⟩
    rw [tokensIn, List.take_succ_cons, List.flatMap_cons, found]
    rfl
  exact fromBlockReference_day first

/-- A block reference on the first line settles the date, and nothing is complained of. -/
theorem resolve_stamp (absent : '^' ∉ front) (d : Date) (more : List Text)
    (fields : OrderedMap Text Text) (path source : Text) (line : Option Nat) (today : Date) :
    resolve ⟨(front ++ '^' :: d.stamp) :: more, fields, path⟩ source line today =
      (.ofDate d .blockReference, []) := by
  simp [resolve, findings, firstDate, fromBlockReference_stamp absent, Finding.diagnostics]

end Dating

/-! ## Names of references -/

namespace Reference

theorem name?_eq_none (absent : '^' ∉ t) : name? t = none := by
  rw [name?, Narrative.split?_eq_none absent]
  rfl

theorem name?_stamp (d : Date) : name? ('^' :: d.stamp) = some d.stamp := by
  have letter : ∀ c ∈ d.stamp, c.isAlphanum = true := fun c member =>
    Text.isAlphanum_of_isDigit (Date.isDigit_of_mem_stamp member)
  obtain ⟨first, rest, digits⟩ := List.exists_cons_of_ne_nil d.stamp_ne_nil
  have isName : IsName d.stamp :=
    ⟨⟨first, by rw [digits]; rfl, letter first (digits ▸ List.mem_cons_self)⟩,
      fun c member => by simp [isNamePart, letter c member]⟩
  have ends : EndsIn Text.isBlank ('^' :: d.stamp) [] d.stamp [] :=
    ⟨by simp, isName, by simp, by simp⟩
  exact ends.name?_eq

end Reference
end DreamJournal
