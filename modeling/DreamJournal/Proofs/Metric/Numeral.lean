import DreamJournal.Proofs.Metric.Segments
import DreamJournal.Proofs.Text.Classes

/-!
# Values that are numbers

A value of a metric is a number when it is a numeral with at most a sign in front, and not when it is
anything else that may stand for a number: a range, a fraction, an exponent, a placeholder. A numeral
without a point is a whole number, and it is read exactly, in any script and with any zeros in front,
as long as it has no more digits than are read.
-/
namespace DreamJournal.Metric

variable {raw sign size whole part digits : Text} {zeros : Nat} {n : Int}

/-- Decimal digits, of which there is at least one, with at most one point among them. -/
structure IsNumeral (size : Text) : Prop where
  chars : ∀ c ∈ size, c = '.' ∨ Text.isDecimal c = true
  points : size.count '.' ≤ 1
  given : ∃ c ∈ size, Text.isDecimal c = true

/-- A numeral with at most a sign in front, and any white space around them. -/
def IsNumber (raw : Text) : Prop :=
  ∃ sign ∈ [[], ['+'], ['-']], ∃ size, Text.trim raw = sign ++ size ∧ IsNumeral size

/-- Digits with the values of those of a count in decimal, and zeros in front. -/
def Spells (digits : Text) (zeros count : Nat) : Prop :=
  digits.map Text.decimalValue? =
    (List.replicate zeros '0' ++ Text.ofNat count).map Text.decimalValue?

/-- The signs that a whole number can be written with. -/
def signs (n : Int) : List Text := if n < 0 then [['-']] else [[], ['+']]

/-- A whole number in decimal that is short enough to be read, with white space around it. -/
def Writes (raw : Text) (n : Int) : Prop :=
  ∃ front sign zeros digits back, raw = front ++ (sign ++ digits) ++ back ∧
    (∀ c ∈ front, Text.isBlank c = true) ∧ (∀ c ∈ back, Text.isBlank c = true) ∧
    sign ∈ signs n ∧ Spells digits zeros n.natAbs ∧ digits.length ≤ digitLimit

/-! ## Numerals -/

theorem isDecimal_point : Text.isDecimal '.' = false := rfl

theorem isNumeral_whole_iff (plain : '.' ∉ size) :
    IsNumeral size ↔ size ≠ [] ∧ size.all Text.isDecimal = true := by
  rw [List.all_eq_true]
  constructor
  · intro numeral
    obtain ⟨c, member, -⟩ := numeral.given
    refine ⟨List.ne_nil_of_mem member, fun d inside => ?_⟩
    rcases numeral.chars d inside with rfl | decimal
    · exact absurd inside plain
    · exact decimal
  · rintro ⟨given, decimal⟩
    obtain ⟨c, member⟩ := List.exists_mem_of_ne_nil size given
    refine ⟨fun d inside => .inr (decimal d inside), ?_, c, member, decimal c member⟩
    rw [List.count_eq_zero_of_not_mem plain]
    exact Nat.zero_le 1

theorem isNumeral_pointed_iff (plain : '.' ∉ whole) : IsNumeral (whole ++ '.' :: part) ↔
    whole ++ part ≠ [] ∧ (whole ++ part).all Text.isDecimal = true := by
  have counted : (whole ++ '.' :: part).count '.' = part.count '.' + 1 := by
    rw [List.count_append, List.count_eq_zero_of_not_mem plain, List.count_cons_self, Nat.zero_add]
  have member (c : Char) : c ∈ whole ++ '.' :: part ↔ c = '.' ∨ c ∈ whole ++ part := by
    simp only [List.mem_append, List.mem_cons]
    tauto
  rw [List.all_eq_true]
  constructor
  · intro numeral
    -- the one point is taken already
    have plain' : '.' ∉ whole ++ part := by
      rw [List.mem_append, not_or]
      refine ⟨plain, List.count_eq_zero.mp ?_⟩
      have points := numeral.points
      omega
    have decimal : ∀ c ∈ whole ++ part, Text.isDecimal c = true := by
      intro c inside
      rcases numeral.chars c ((member c).mpr (.inr inside)) with rfl | decimal
      · exact absurd inside plain'
      · exact decimal
    obtain ⟨c, inside, isDigit⟩ := numeral.given
    rcases (member c).mp inside with rfl | among
    · rw [isDecimal_point] at isDigit
      cases isDigit
    · exact ⟨List.ne_nil_of_mem among, decimal⟩
  · rintro ⟨given, decimal⟩
    obtain ⟨c, among⟩ := List.exists_mem_of_ne_nil _ given
    refine ⟨fun d inside => ((member d).mp inside).imp_right (decimal d), ?_,
      c, (member c).mpr (.inr among), decimal c among⟩
    have plain' : '.' ∉ part := by
      intro inside
      have isDigit := decimal '.' (List.mem_append_right whole inside)
      rw [isDecimal_point] at isDigit
      cases isDigit
    rw [counted, List.count_eq_zero_of_not_mem plain']

theorem IsNumeral.unsigned (numeral : IsNumeral size) : ∀ c ∈ size.head?, c ≠ '+' ∧ c ≠ '-' := by
  intro c first
  rcases numeral.chars c (List.mem_of_head? first) with rfl | decimal
  · decide
  · constructor
    · rintro rfl
      exact absurd decimal (by decide)
    · rintro rfl
      exact absurd decimal (by decide)

/-- What stands behind the sign decides. -/
theorem isNumber_iff : IsNumber raw ↔ IsNumeral (signOf (Text.trim raw)).2 := by
  constructor
  · rintro ⟨sign, isSign, size, parts, numeral⟩
    rw [parts, signOf_signed isSign numeral.unsigned]
    exact numeral
  · intro numeral
    obtain ⟨sign, isSign, parts⟩ := exists_sign (Text.trim raw)
    exact ⟨sign, isSign, _, parts, numeral⟩

theorem mem_point_iff : '.' ∈ Text.trim raw ↔ '.' ∈ (signOf (Text.trim raw)).2 := by
  obtain ⟨sign, isSign, parts⟩ := exists_sign (Text.trim raw)
  have noPoint : '.' ∉ sign := by
    simp only [List.mem_cons, List.not_mem_nil, or_false] at isSign
    rcases isSign with rfl | rfl | rfl <;> decide
  conv_lhs => rw [parts, List.mem_append, or_iff_right noPoint]

/-! ## What is read -/

theorem isNoNumber_iff : (size.isEmpty || !size.all Text.isDecimal) = true ↔
    ¬(size ≠ [] ∧ size.all Text.isDecimal = true) := by
  rw [Bool.or_eq_true, List.isEmpty_iff, Bool.not_eq_true', ← Bool.not_eq_true, ne_eq, not_and_or,
    not_not]

/-- Whatever is not too long is read, as a number if it is one. -/
theorem number?_of_short (short : ¬IsOverlong raw) : ∃ result, number? raw = .ok result ∧
    (result.isSome = true ↔ IsNumber raw) ∧
    ((∃ n, result = some (.whole n)) ↔ IsNumber raw ∧ '.' ∉ Text.trim raw) := by
  rw [isNumber_iff, mem_point_iff]
  cases read : number? raw with
  | error fault => exact absurd ((number?_error_iff raw).mp ⟨fault, read⟩) short
  | ok result =>
    refine ⟨result, rfl, ?_⟩
    rw [number?] at read
    generalize signOf (Text.trim raw) = parts at read ⊢
    obtain ⟨negative, size⟩ := parts
    dsimp only at read ⊢
    split at read
    next cut =>
      have plain : '.' ∉ size := Text.not_mem_of_cut?_eq_none cut
      split at read
      next other =>
        rw [isNoNumber_iff, ← isNumeral_whole_iff plain] at other
        cases read
        simp [other]
      next numeral =>
        rw [isNoNumber_iff, ← isNumeral_whole_iff plain, not_not] at numeral
        -- a whole number with too many digits was no result
        split at read
        · cases read
        · cases read
          simp [numeral, plain]
    next whole part cut =>
      obtain ⟨rfl, plain⟩ := Text.cut?_eq_some_iff.mp cut
      split at read
      next other =>
        rw [isNoNumber_iff, ← isNumeral_pointed_iff plain] at other
        cases read
        simp [other]
      next numeral =>
        rw [isNoNumber_iff, ← isNumeral_pointed_iff plain, not_not] at numeral
        cases read
        simp [numeral]

/-! ## Whole numbers -/

theorem Spells.length_eq (spells : Spells digits zeros n.natAbs) :
    digits.length = zeros + (Text.ofNat n.natAbs).length := by
  have same := congrArg List.length spells
  simpa using same

theorem Spells.nonempty (spells : Spells digits zeros n.natAbs) : digits ≠ [] := by
  have given := List.length_pos_of_ne_nil (Text.ofNat_ne_nil n.natAbs)
  apply List.ne_nil_of_length_pos
  rw [spells.length_eq]
  omega

theorem padded_eq (zeros count : Nat) : List.replicate zeros '0' ++ Text.ofNat count =
    Text.padded (zeros + (Text.ofNat count).length) count := by
  rw [Text.padded]
  simp only [Nat.add_sub_cancel]

theorem Spells.decimal {count : Nat} (spells : Spells digits zeros count) :
    digits.all Text.isDecimal = true := by
  have values : ∀ value ∈ digits.map Text.decimalValue?, value.isSome = true := by
    rw [spells, padded_eq]
    intro value listed
    obtain ⟨c, member, rfl⟩ := List.mem_map.mp listed
    exact Text.isDecimal_of_isDigit (Text.isDigit_of_mem_padded member)
  exact List.all_eq_true.mpr fun c member => values _ (List.mem_map_of_mem member)

/-- The number that digits spell depends on their values only, and not on zeros in front. -/
theorem Spells.value {count : Nat} (spells : Spells digits zeros count) :
    Text.decimalNumber digits = count := by
  have byValues (t : Text) : Text.decimalNumber t =
      (t.map Text.decimalValue?).foldl (fun n value => 10 * n + value.getD 0) 0 := by
    rw [Text.decimalNumber, List.foldl_map]
  rw [byValues, spells, ← byValues, padded_eq, Text.decimalNumber_padded]

theorem mem_signs (isSign : sign ∈ signs n) :
    sign ∈ [[], ['+'], ['-']] ∧ (decide (sign = ['-']) = true ↔ n < 0) := by
  unfold signs at isSign
  split at isSign
  next negative =>
    obtain rfl := List.mem_singleton.mp isSign
    simp [negative]
  next positive =>
    simp only [List.mem_cons, List.not_mem_nil, or_false] at isSign
    rcases isSign with rfl | rfl <;> simp [positive]

theorem inked_of_signed (isSign : sign ∈ [[], ['+'], ['-']])
    (decimal : digits.all Text.isDecimal = true) :
    ∀ c ∈ sign ++ digits, Text.isBlank c = false := by
  intro c member
  rcases List.mem_append.mp member with inSign | inDigits
  · simp only [List.mem_cons, List.not_mem_nil, or_false] at isSign
    rcases isSign with rfl | rfl | rfl <;> simp at inSign <;> subst inSign <;> rfl
  · exact (Text.isBlank_of_isDecimal (List.all_eq_true.mp decimal c inDigits)).1

/-- A whole number is read as the number that was written. -/
theorem number?_of_writes (writes : Writes raw n) : number? raw = .ok (some (.whole n)) := by
  obtain ⟨front, sign, zeros, digits, back, rfl, frontBlank, backBlank, isSign, spells, short⟩ :=
    writes
  obtain ⟨isSign, negative⟩ := mem_signs isSign
  have trimmed : Text.trim (front ++ (sign ++ digits) ++ back) = sign ++ digits := by
    rw [Text.trim_append_blank backBlank, Text.trim_blank_append frontBlank,
      Text.trim_eq_self (inked_of_signed isSign spells.decimal)]
  have uncut : Text.cut? '.' digits = none := by
    refine Text.cut?_eq_none fun member => ?_
    have decimal := List.all_eq_true.mp spells.decimal _ member
    rw [isDecimal_point] at decimal
    cases decimal
  have value : (if decide (sign = ['-']) = true then -(n.natAbs : Int) else n.natAbs) = n := by
    simp only [negative]
    split <;> omega
  rw [number?, trimmed, signOf_signed isSign (unsigned_of_all_decimal spells.decimal)]
  simp only [uncut, spells.decimal, spells.value, value]
  simp [spells.nonempty, Nat.not_lt.mpr short]

/-- The plain way to write a whole number is one of them. -/
theorem writes_ofInt (short : (Text.ofNat n.natAbs).length ≤ digitLimit) :
    Writes (Text.ofInt n) n := by
  refine ⟨[], if n < 0 then ['-'] else [], 0, Text.ofNat n.natAbs, [], ?_, by simp, by simp, ?_,
    rfl, short⟩
  · unfold Text.ofInt
    split <;> simp
  · unfold signs
    split <;> simp

/-- Whatever is not too long is read: as a number exactly when it is a numeral with at most a sign in
front, and as a whole number exactly when there is also no point in it. In whatever way a whole number
is written in decimal, that number is read. -/
theorem number?_grammar (raw : Text) :
    (¬IsOverlong raw → ∃ result, number? raw = .ok result ∧
      (result.isSome = true ↔ IsNumber raw) ∧
      ((∃ n, result = some (.whole n)) ↔ IsNumber raw ∧ '.' ∉ Text.trim raw)) ∧
    ∀ n, Writes raw n → number? raw = .ok (some (.whole n)) :=
  ⟨number?_of_short, fun _ => number?_of_writes⟩

/-- A seven in another script, behind a plain zero. -/
def writtenSeven : Text := Text.of "\u2003+0\u0667\t"

theorem number?_grammar_seven :
    ¬IsOverlong writtenSeven ∧ Writes writtenSeven 7 ∧
      number? writtenSeven = .ok (some (.whole 7)) ∧
      ∃ result, number? writtenSeven = .ok result ∧
        (result.isSome = true ↔ IsNumber writtenSeven) ∧
        ((∃ n, result = some (.whole n)) ↔
          IsNumber writtenSeven ∧ '.' ∉ Text.trim writtenSeven) := by
  have short : ¬IsOverlong writtenSeven := by
    intro long
    exact absurd long.length_lt (by decide +kernel)
  have writes : Writes writtenSeven 7 :=
    ⟨['\u2003'], ['+'], 1, ['0', '\u0667'], ['\t'], rfl, List.all_eq_true.mp (by decide),
      List.all_eq_true.mp (by decide), by decide, by unfold Spells; decide +kernel, by decide⟩
  obtain ⟨grammar, wholes⟩ := number?_grammar writtenSeven
  exact ⟨short, writes, wholes 7 writes, grammar short⟩

example : number? (Text.of "-.5") = .ok (some (.real (Double.ofDecimal true 5 (-1)))) := by
  decide +kernel

example : ["", "+", ".", "1_000", "1/2", "3-4", "1e3", "0x10", "1.2.3"].map
    (fun t => number? (Text.of t)) = List.replicate 9 (.ok none) := by
  decide +kernel

end DreamJournal.Metric
