import DreamJournal.FrontMatter
import DreamJournal.Proofs.Dating.Stamp
import DreamJournal.Proofs.Text.Classes

/-!
# Days in the front matter

The values of front matter are texts by the time a day is looked for in them. A day, a time of day
and, from the year 1000 on, the number that its eight digits spell each leave a text from which that
day is read again: for a time it does not matter what stands behind the day.

What texts are read is said without the reading: two shapes, eight digits in a row and digits
between hyphens. The fields are tried in order, and one with the shape of a day that does not exist
is complained of and passed over.
-/
namespace DreamJournal

namespace Dating

variable {t value behind : Text} {shape : Nat × Nat × Nat} {date : Date}
  {fields : OrderedMap Text Text} {source : Text}

/-! ## The shapes of a day -/

/-- Four decimal digits, two, and two more, of any script. -/
structure Digits where
  year : Text
  month : Text
  day : Text
  widths : year.length = 4 ∧ month.length = 2 ∧ day.length = 2
  decimal : ∀ c ∈ year ++ (month ++ day), Text.isDecimal c = true

namespace Digits

def numbers (digits : Digits) : Nat × Nat × Nat :=
  (Text.decimalNumber digits.year, Text.decimalNumber digits.month, Text.decimalNumber digits.day)

/-- The digits in a row. -/
def compact (digits : Digits) : Text := digits.year ++ (digits.month ++ digits.day)

/-- The digits between hyphens. -/
def hyphened (digits : Digits) : Text :=
  digits.year ++ '-' :: (digits.month ++ '-' :: digits.day)

end Digits

/-- What may stand behind digits with hyphens: nothing, or a `T` or a space with more on the same
line. -/
inductive OnLine : Text → Prop where
  | nothing : OnLine []
  | more {mark : Char} {rest : Text} (isMark : mark = 'T' ∨ mark = ' ') (unbroken : '\n' ∉ rest) :
    OnLine (mark :: rest)

/-- A text with the shape of a day, and the numbers of that day, which need not exist. -/
inductive HasShape : Text → Nat × Nat × Nat → Prop where
  | compact {front behind : Text} (digits : Digits) (before : ∀ c ∈ front, Text.isBlank c = true)
    (after : ∀ c ∈ behind, Text.isBlank c = true) :
    HasShape (front ++ (digits.compact ++ behind)) digits.numbers
  | hyphened {front behind : Text} (digits : Digits) (before : ∀ c ∈ front, Text.isBlank c = true)
    (after : OnLine behind ∨ ∃ line, behind = line ++ ['\n'] ∧ OnLine line) :
    HasShape (front ++ (digits.hyphened ++ behind)) digits.numbers

theorem Digits.length_compact (digits : Digits) : digits.compact.length = 8 := by
  obtain ⟨year, month, day⟩ := digits.widths
  rw [compact, List.length_append, List.length_append, year, month, day]

theorem Digits.eightDigits_compact (digits : Digits) :
    eightDigits digits.compact = digits.numbers :=
  eightDigits_append digits.widths.1 digits.widths.2.1 digits.day

/-- Eight digits in a row are those of a year, a month and a day. -/
theorem exists_digits {row : Text} (eight : row.length = 8)
    (decimal : ∀ c ∈ row, Text.isDecimal c = true) : ∃ digits : Digits, digits.compact = row := by
  have whole : row.take 4 ++ ((row.drop 4).take 2 ++ (row.drop 4).drop 2) = row := by
    rw [List.take_append_drop, List.take_append_drop]
  have each : ∀ c ∈ row.take 4 ++ ((row.drop 4).take 2 ++ (row.drop 4).drop 2),
      Text.isDecimal c = true := by rwa [whole]
  refine ⟨⟨row.take 4, (row.drop 4).take 2, (row.drop 4).drop 2, ?_, each⟩, whole⟩
  simp [eight]

theorem compactShape?_eq_some_iff : compactShape? value = some shape ↔
    ∃ front behind, ∃ digits : Digits, value = front ++ (digits.compact ++ behind) ∧
      (∀ c ∈ front, Text.isBlank c = true) ∧ (∀ c ∈ behind, Text.isBlank c = true) ∧
      shape = digits.numbers := by
  constructor
  · intro found
    unfold compactShape? at found
    dsimp only at found
    split at found
    next given =>
      rw [Bool.and_eq_true, decide_eq_true_eq, List.all_eq_true] at given
      obtain ⟨front, behind, parts, before, after⟩ := Text.exists_trim value
      obtain ⟨digits, row⟩ := exists_digits given.1 given.2
      rw [← row] at parts found
      refine ⟨front, behind, digits, parts, before, after, ?_⟩
      rw [← digits.eightDigits_compact]
      exact (Option.some.inj found).symm
    next => cases found
  · rintro ⟨front, behind, digits, rfl, before, after, rfl⟩
    have inked : ∀ c ∈ digits.compact, Text.isBlank c = false :=
      fun c member => (Text.isBlank_of_isDecimal (digits.decimal c member)).1
    have trimmed : Text.trim (front ++ (digits.compact ++ behind)) = digits.compact := by
      rw [Text.trim_blank_append before, Text.trim_append_blank after, Text.trim_eq_self inked]
    have decimal : digits.compact.all Text.isDecimal = true := List.all_eq_true.mpr digits.decimal
    simp [compactShape?, trimmed, digits.length_compact, decimal, digits.eightDigits_compact]

theorem onLine_cons_iff {c : Char} {rest : Text} :
    OnLine (c :: rest) ↔ (c = 'T' ∨ c = ' ') ∧ '\n' ∉ rest := by
  constructor
  · intro onLine
    cases onLine with
    | more isMark unbroken => exact ⟨isMark, unbroken⟩
  · exact fun ⟨isMark, unbroken⟩ => .more isMark unbroken

theorem OnLine.unbroken (onLine : OnLine t) : '\n' ∉ t := by
  cases onLine with
  | nothing => exact List.not_mem_nil
  | more isMark unbroken =>
    rw [List.mem_cons, not_or]
    refine ⟨?_, unbroken⟩
    rintro rfl
    exact absurd isMark (by decide)

theorem mayFollowDate_append_break (line : Text) :
    mayFollowDate (line ++ ['\n']) = true ↔ OnLine line := by
  cases line with
  | nil => exact ⟨fun _ => .nothing, fun _ => rfl⟩
  | cons c rest => simp [mayFollowDate, onLine_cons_iff]

theorem mayFollowDate_append_other {c : Char} (other : c ≠ '\n') (line : Text) :
    mayFollowDate (line ++ [c]) = true ↔ OnLine (line ++ [c]) := by
  cases line with
  | nil => simp [mayFollowDate, onLine_cons_iff, other]
  | cons d rest => simp [mayFollowDate, onLine_cons_iff, other]

theorem mayFollowDate_iff : mayFollowDate t = true ↔
    OnLine t ∨ ∃ line, t = line ++ ['\n'] ∧ OnLine line := by
  rcases List.eq_nil_or_concat' t with rfl | ⟨line, c, rfl⟩
  · exact ⟨fun _ => .inl .nothing, fun _ => rfl⟩
  by_cases isBreak : c = '\n'
  · subst isBreak
    apply (mayFollowDate_append_break line).trans
    constructor
    · exact fun onLine => .inr ⟨line, rfl, onLine⟩
    · rintro (onLine | ⟨same, parts, onLine⟩)
      -- with a break at its end a text is on no line
      · exact absurd (List.mem_append_right line List.mem_cons_self) onLine.unbroken
      · rwa [List.append_cancel_right parts]
  · apply (mayFollowDate_append_other isBreak line).trans
    constructor
    · exact .inl
    · rintro (onLine | ⟨same, parts, _⟩)
      · exact onLine
      · exact absurd (List.singleton_inj.mp (List.append_inj_right' parts rfl)) isBreak

theorem isoShape?_eq_some_iff : isoShape? value = some shape ↔
    ∃ front behind, ∃ digits : Digits, value = front ++ (digits.hyphened ++ behind) ∧
      (∀ c ∈ front, Text.isBlank c = true) ∧
      (OnLine behind ∨ ∃ line, behind = line ++ ['\n'] ∧ OnLine line) ∧
      shape = digits.numbers := by
  constructor
  · intro found
    unfold isoShape? at found
    dsimp only at found
    split at found
    next => cases found
    next =>
      split at found
      next m n d e after parts =>
        split at found
        next given =>
          rw [Bool.and_eq_true, Bool.and_eq_true, List.all_eq_true, List.all_eq_true] at given
          obtain ⟨⟨year, others⟩, follows⟩ := given
          generalize line : value.dropWhile Text.isBlank = inked at parts year found
          have four : (inked.take 4).length = 4 := by
            have more := congrArg List.length parts
            rw [List.length_drop, List.length_cons] at more
            rw [List.length_take]
            omega
          have decimal : ∀ c ∈ inked.take 4 ++ ([m, n] ++ [d, e]), Text.isDecimal c = true := by
            intro c member
            rcases List.mem_append.mp member with first | later
            · exact year c first
            · exact others c later
          refine ⟨value.takeWhile Text.isBlank, after,
            ⟨inked.take 4, [m, n], [d, e], ⟨four, rfl, rfl⟩, decimal⟩, ?_,
            fun c member => List.mem_takeWhile_imp member, mayFollowDate_iff.mp follows,
            (Option.some.inj found).symm⟩
          have whole : inked.take 4 ++ inked.drop 4 = inked := List.take_append_drop 4 inked
          rw [parts, ← line] at whole
          calc value
              = value.takeWhile Text.isBlank ++ value.dropWhile Text.isBlank :=
                (List.takeWhile_append_dropWhile).symm
            _ = _ := by rw [← whole, line]; simp [Digits.hyphened]
        next => cases found
      next => cases found
  · rintro ⟨front, behind, digits, rfl, before, after, rfl⟩
    obtain ⟨year, month, day, ⟨four, two, last⟩, decimal⟩ := digits
    obtain ⟨m, n, rfl⟩ := List.length_eq_two.mp two
    obtain ⟨d, e, rfl⟩ := List.length_eq_two.mp last
    have ⟨years, others⟩ := List.forall_mem_append.mp decimal
    obtain ⟨first, rest, rfl⟩ := List.exists_cons_of_length_eq_add_one four
    have inked : Text.isBlank first = false :=
      (Text.isBlank_of_isDecimal (years first List.mem_cons_self)).1
    have dropped : (front ++ (Digits.hyphened ⟨first :: rest, [m, n], [d, e], ⟨four, two, last⟩,
        decimal⟩ ++ behind)).dropWhile Text.isBlank =
          first :: rest ++ '-' :: m :: n :: '-' :: d :: e :: behind := by
      rw [Text.dropWhile_run before (by rintro c ⟨⟩; exact inked)]
      simp [Digits.hyphened]
    have parts : (first :: rest ++ '-' :: m :: n :: '-' :: d :: e :: behind).take 4 = first :: rest ∧
        (first :: rest ++ '-' :: m :: n :: '-' :: d :: e :: behind).drop 4 =
          '-' :: m :: n :: '-' :: d :: e :: behind :=
      ⟨List.take_left' four, List.drop_left' four⟩
    have year : (first :: rest).all Text.isDecimal = true := List.all_eq_true.mpr years
    have monthDay : [m, n, d, e].all Text.isDecimal = true := List.all_eq_true.mpr others
    unfold isoShape?
    dsimp only
    rw [dropped, parts.1, parts.2]
    simp only [List.cons_append, year, monthDay, mayFollowDate_iff.mpr after]
    rfl

/-- Digits with hyphens are not taken for digits in a row. -/
theorem compactShape?_eq_none (hyphen : '-' ∈ value) : compactShape? value = none := by
  by_contra found
  obtain ⟨_, compact⟩ := Option.ne_none_iff_exists'.mp found
  obtain ⟨front, behind, digits, rfl, before, after, _⟩ := compactShape?_eq_some_iff.mp compact
  simp only [List.mem_append] at hyphen
  rcases hyphen with first | digit | last
  · exact absurd (before _ first) (by decide)
  · exact absurd (digits.decimal _ digit) (by decide)
  · exact absurd (after _ last) (by decide)

theorem valueShape?_eq_some_iff : valueShape? value = some shape ↔ HasShape value shape := by
  constructor
  · intro found
    unfold valueShape? at found
    split at found
    next numbers compact =>
      obtain rfl := Option.some.inj found
      obtain ⟨front, behind, digits, rfl, before, after, rfl⟩ := compactShape?_eq_some_iff.mp compact
      exact .compact digits before after
    next =>
      obtain ⟨front, behind, digits, rfl, before, after, rfl⟩ := isoShape?_eq_some_iff.mp found
      exact .hyphened digits before after
  · intro hasShape
    cases hasShape with
    | compact digits before after =>
      rw [valueShape?, compactShape?_eq_some_iff.mpr ⟨_, _, digits, rfl, before, after, rfl⟩]
    | hyphened digits before after =>
      rw [valueShape?, compactShape?_eq_none (by simp [Digits.hyphened])]
      exact isoShape?_eq_some_iff.mpr ⟨_, _, digits, rfl, before, after, rfl⟩

/-! ## The day that a value spells -/

/-- The day that is read from the text of a value, when it has the shape of one that exists. -/
def parsed? (value : Text) : Option Date :=
  (valueShape? value).bind fun (year, month, day) => Date.ofNumbers? year month day

theorem parsed?_eq_some_iff :
    parsed? value = some date ↔ HasShape value (date.year, date.month, date.day) := by
  constructor
  · intro read
    obtain ⟨⟨year, month, day⟩, shape, isDay⟩ := Option.bind_eq_some_iff.mp read
    obtain ⟨real, same⟩ := Option.dite_none_right_eq_some.mp isDay
    obtain rfl := Option.some.inj same
    exact valueShape?_eq_some_iff.mp shape
  · intro hasShape
    rw [parsed?, valueShape?_eq_some_iff.mpr hasShape]
    exact dif_pos date.real

/-- A field holds a day exactly when that day is read from its text. -/
theorem fieldCandidate_eq_day_iff {field : String} : fieldCandidate fields field = .day date ↔
    ∃ value, fields.get? (Text.of field) = some value ∧ parsed? value = some date := by
  have same : fieldCandidate fields field = .day date ↔
      (fields.get? (Text.of field)).bind parsed? = some date := by
    unfold fieldCandidate parsed?
    rw [← Option.bind_assoc]
    cases (fields.get? (Text.of field)).bind valueShape? with
    | none => simp
    | some shape =>
      obtain ⟨year, month, day⟩ := shape
      simp only [Finding.candidate, Option.bind_some]
      cases Date.ofNumbers? year month day with
      | none => simp
      | some other => simp
  exact same.trans Option.bind_eq_some_iff

end Dating

namespace Date

/-- The digits of a day. -/
def digits (d : Date) : Dating.Digits where
  year := Text.padded 4 d.year
  month := Text.padded 2 d.month
  day := Text.padded 2 d.day
  widths := d.stamp_widths
  decimal := fun _ member => Text.isDecimal_of_isDigit (isDigit_of_mem_stamp member)

theorem numbers_digits (d : Date) : d.digits.numbers = (d.year, d.month, d.day) := by
  simp only [Dating.Digits.numbers, digits, Text.decimalNumber_padded]

theorem iso_eq_hyphened (d : Date) : d.iso = d.digits.hyphened := by
  simp [iso, isoText, Dating.Digits.hyphened, digits]

end Date

namespace Dating

theorem parsed?_iso_append (d : Date) (onLine : OnLine behind) :
    parsed? (d.iso ++ behind) = some d := by
  have shape : HasShape ([] ++ (d.digits.hyphened ++ behind)) d.digits.numbers :=
    .hyphened d.digits (List.forall_mem_nil _) (.inl onLine)
  rw [d.numbers_digits, ← d.iso_eq_hyphened] at shape
  exact parsed?_eq_some_iff.mpr shape

theorem parsed?_stamp (d : Date) : parsed? d.stamp = some d := by
  have shape : HasShape ([] ++ (d.digits.compact ++ [])) d.digits.numbers :=
    .compact d.digits (List.forall_mem_nil _) (List.forall_mem_nil _)
  rw [d.numbers_digits, List.append_nil] at shape
  exact parsed?_eq_some_iff.mpr shape

/-! ## Values that stand for a day -/

/-- The values that stand for a day: the day itself, any time on it, and from the year 1000 on the
number with its eight digits. -/
inductive StandsFor (d : Date) : Datum → Prop where
  | day : StandsFor d (.date d)
  | moment {m : Moment} (on : m.date = d) : StandsFor d (.moment m)
  | number (late : 1000 ≤ d.year) :
    StandsFor d (.int ↑(d.year * 10000 + d.month * 100 + d.day))

end Dating

theorem Text.not_mem_padded {mark : Char} (other : mark.isDigit = false) (width n : Nat) :
    mark ∉ Text.padded width n := by
  intro member
  rw [Text.isDigit_of_mem_padded member] at other
  cases other

/-- The text of a moment is that of its day, a `T`, and more on the same line. -/
theorem Moment.exists_iso (m : Moment) :
    ∃ rest, m.iso = m.date.iso ++ 'T' :: rest ∧ '\n' ∉ rest := by
  have number := Text.not_mem_padded (show '\n'.isDigit = false from rfl)
  let fraction := if m.microsecond = 0 then [] else '.' :: Text.padded 6 m.microsecond
  refine ⟨Text.padded 2 m.hour ++ ':' :: (Text.padded 2 m.minute ++ ':' :: (Text.padded 2 m.second ++
    (fraction ++ (m.offset.map offsetText).getD []))), ?_, ?_⟩
  · simp [iso, text, fraction]
  · have noFraction : '\n' ∉ fraction := by
      unfold fraction
      split
      · exact List.not_mem_nil
      · simp [number]
    have noOffset : '\n' ∉ (m.offset.map offsetText).getD [] := by
      cases m.offset with
      | none => exact List.not_mem_nil
      | some minutes =>
        have noSign : '\n' ≠ if minutes < 0 then '-' else '+' := by split <;> decide
        simp [offsetText, number, noSign]
    simp [number, noFraction, noOffset]

theorem Text.padded_eq_ofNat {width n : Nat} (fits : width ≤ (Text.ofNat n).length) :
    Text.padded width n = Text.ofNat n := by
  rw [Text.padded, Nat.sub_eq_zero_of_le fits]
  rfl

theorem Text.padded_two {n : Nat} (two : n < 100) :
    Text.padded 2 n = Text.ofNat (n / 10) ++ Text.ofNat (n % 10) := by
  by_cases one : n < 10
  · have single : Text.ofNat n = [n.digitChar] := Nat.toDigits_of_lt_base one
    rw [Nat.div_eq_of_lt one, Nat.mod_eq_of_lt one, Text.padded, single]
    rfl
  · -- with two digits nothing is filled up
    have whole : Text.ofNat (n / 10) ++ Text.ofNat (n % 10) = Text.ofNat n := by
      rw [Text.ofNat, Text.ofNat, Nat.toDigits_append_toDigits (by decide) (by omega) (by omega),
        Nat.div_add_mod]
      rfl
    rw [whole]
    apply Text.padded_eq_ofNat
    rw [← whole, List.length_append]
    have first := List.length_pos_of_ne_nil (Text.ofNat_ne_nil (n / 10))
    have second := List.length_pos_of_ne_nil (Text.ofNat_ne_nil (n % 10))
    omega

/-- Two more digits behind a number. -/
theorem Text.ofNat_hundreds {n m : Nat} (given : 0 < n) (two : m < 100) :
    Text.ofNat (n * 100 + m) = Text.ofNat n ++ Text.padded 2 m := by
  have digits : n * 100 + m = 10 * (10 * n + m / 10) + m % 10 := by omega
  rw [Text.padded_two two, ← List.append_assoc, digits]
  simp only [Text.ofNat]
  rw [Nat.toDigits_append_toDigits (by decide) given (by omega),
    Nat.toDigits_append_toDigits (by decide) (by omega) (by omega)]

theorem Date.ofNat_stamp {d : Date} (late : 1000 ≤ d.year) :
    Text.ofNat (d.year * 10000 + d.month * 100 + d.day) = d.stamp := by
  obtain ⟨_, latest, _, lastMonth, _, lastDay⟩ := d.real
  have day := Date.daysInMonth_le d.year d.month
  have four : Text.padded 4 d.year = Text.ofNat d.year := by
    apply Text.padded_eq_ofNat
    by_contra short
    -- with three digits or fewer the year would be below 1000
    have least := (Nat.length_toDigits_le_iff (b := 10) (k := 3) (by decide) (by decide)).mp
      (Nat.le_of_lt_succ (Nat.lt_of_not_le short))
    omega
  have hundreds : d.year * 10000 + d.month * 100 + d.day =
      (d.year * 100 + d.month) * 100 + d.day := by omega
  rw [hundreds, Text.ofNat_hundreds (by omega) (by omega),
    Text.ofNat_hundreds (by omega) (by omega), ← four, List.append_assoc]
  rfl

namespace Dating

/-- A value that stands for a day leaves a text from which the day is read. -/
theorem exists_flatten {d : Date} {v : Datum} (stands : StandsFor d v) :
    ∃ t, FrontMatter.flatten v = .ok t ∧ parsed? t = some d := by
  cases stands with
  | day =>
    refine ⟨d.iso, rfl, ?_⟩
    rw [← List.append_nil d.iso]
    exact parsed?_iso_append d .nothing
  | @moment m on =>
    obtain ⟨rest, parts, unbroken⟩ := m.exists_iso
    refine ⟨m.iso, rfl, ?_⟩
    rw [parts, on]
    exact parsed?_iso_append d (.more (.inl rfl) unbroken)
  | number late =>
    have short : ¬digitLimit < d.stamp.length := by
      rw [d.length_stamp]
      decide
    refine ⟨d.stamp, ?_, parsed?_stamp d⟩
    rw [← Date.ofNat_stamp late] at short ⊢
    have known : (Datum.int ↑(d.year * 10000 + d.month * 100 + d.day)).isTooLong = false :=
      decide_eq_false short
    rw [Datum.int] at known ⊢
    rw [FrontMatter.flatten, FrontMatter.written, known]
    rfl

/-! ## The fields in order -/

/-- Fields without a day, and the diagnostics about them: one that holds no text with the shape of
a day is passed over in silence, and one with the shape of a day that does not exist is not. -/
inductive Passed (fields : OrderedMap Text Text) (source : Text) :
    List String → List Diagnostic → Prop where
  | nil : Passed fields source [] []
  | shapeless {field : String} {rest : List String} {told : List Diagnostic}
    (none : ∀ value ∈ fields.get? (Text.of field), ∀ shape, ¬HasShape value shape)
    (later : Passed fields source rest told) : Passed fields source (field :: rest) told
  | impossible {field : String} {rest : List String} {told : List Diagnostic} {value : Text}
    {year month day : Nat} (given : fields.get? (Text.of field) = some value)
    (shape : HasShape value (year, month, day)) (unreal : ¬Date.IsReal year month day)
    (later : Passed fields source rest told) :
    Passed fields source (field :: rest) (⟨source, .dateInvalid, Text.of "Front matter " ++
      Text.of field ++ Text.of ": " ++ Date.notADate year month day, none⟩ :: told)

/-- What some fields come to: the day of the first that holds one and the diagnostics about those
in front of it, or the diagnostics about all of them. -/
inductive FirstField (fields : OrderedMap Text Text) (source : Text) (names : List String) :
    Option ResolvedDate → List Diagnostic → Prop where
  | day {earlier later : List String} {field : String} {value : Text} {date : Date}
    {told : List Diagnostic} (split : names = earlier ++ field :: later)
    (passed : Passed fields source earlier told)
    (given : fields.get? (Text.of field) = some value)
    (shape : HasShape value (date.year, date.month, date.day)) :
    FirstField fields source names (some (.ofDate date .frontMatterField)) told
  | none {told : List Diagnostic} (passed : Passed fields source names told) :
    FirstField fields source names Option.none told

theorem Passed.append {earlier later : List String} {told further : List Diagnostic}
    (front : Passed fields source earlier told) (back : Passed fields source later further) :
    Passed fields source (earlier ++ later) (told ++ further) := by
  induction front with
  | nil => exact back
  | shapeless none _ ih => exact .shapeless none ih
  | impossible given shape unreal _ ih => exact .impossible given shape unreal ih

theorem FirstField.behind {earlier names : List String} {told further : List Diagnostic}
    {d : Option ResolvedDate} (passed : Passed fields source earlier told)
    (first : FirstField fields source names d further) :
    FirstField fields source (earlier ++ names) d (told ++ further) := by
  cases first with
  | day split between given shape =>
    rw [split, ← List.append_assoc]
    exact .day rfl (passed.append between) given shape
  | none rest => exact .none (passed.append rest)

theorem firstField (fields : OrderedMap Text Text) (source : Text) (names : List String) :
    FirstField fields source names
      (Finding.ofCandidates .frontMatterField (names.map (fieldCandidate fields))).date
      ((Finding.ofCandidates .frontMatterField (names.map (fieldCandidate fields))).diagnostics
        source) := by
  induction names with
  | nil => exact .none .nil
  | cons field names ih =>
    rw [List.map_cons]
    -- a field without the shape of a day, with that of a real one, or of one that does not exist
    cases found : (fields.get? (Text.of field)).bind valueShape? with
    | none =>
      have other : fieldCandidate fields field = .other := by rw [fieldCandidate, found]
      rw [other, Finding.ofCandidates]
      refine FirstField.behind (.shapeless (fun value given shape hasShape => ?_) .nil) ih
      rw [Option.mem_def.mp given, Option.bind_some, valueShape?_eq_some_iff.mpr hasShape] at found
      cases found
    | some shape =>
      obtain ⟨year, month, day⟩ := shape
      obtain ⟨value, given, shape⟩ := Option.bind_eq_some_iff.mp found
      have hasShape := valueShape?_eq_some_iff.mp shape
      by_cases real : Date.IsReal year month day
      · have isDay : fieldCandidate fields field = .day ⟨year, month, day, real⟩ :=
          fieldCandidate_eq_day_iff.mpr ⟨value, given, parsed?_eq_some_iff.mpr hasShape⟩
        rw [isDay, Finding.ofCandidates]
        exact .day (List.nil_append _).symm .nil given hasShape
      · have none : fieldCandidate fields field = .impossible (Text.of "Front matter " ++
            Text.of field ++ Text.of ": " ++ Date.notADate year month day) := by
          rw [fieldCandidate, found]
          simp only [Finding.candidate, Date.ofNumbers?, dif_neg real]
        rw [none, Finding.ofCandidates]
        exact FirstField.behind (.impossible given hasShape real .nil) ih

/-- A value that stands for a day leaves a text from which that day is read, and so does every text
that begins like that of a time on the day; the days of the fields are read in this way. The front
matter comes to the first of its two fields that holds a day. -/
theorem dated_by_fields :
    (∀ d v, StandsFor d v → ∃ t, FrontMatter.flatten v = .ok t ∧ parsed? t = some d) ∧
    (∀ (d : Date) (rest : Text), '\n' ∉ rest → parsed? (d.iso ++ 'T' :: rest) = some d) ∧
    (∀ fields field d, fieldCandidate fields field = .day d ↔
      ∃ t, fields.get? (Text.of field) = some t ∧ parsed? t = some d) ∧
    ∀ fields source, FirstField fields source ["created", "modified"] (fromFrontMatter fields).date
      ((fromFrontMatter fields).diagnostics source) := by
  refine ⟨fun d v stands => exists_flatten stands, fun d rest unbroken => ?_,
    fun fields field d => fieldCandidate_eq_day_iff, ?_⟩
  · exact parsed?_iso_append d (.more (.inl rfl) unbroken)
  · exact fun fields source => firstField fields source frontMatterFields

/-- A day that does not exist in the first field, and one that does in the second. -/
def februaryFields : OrderedMap Text Text :=
  [(Text.of "created", Text.of "2025-02-30"), (Text.of "modified", Text.of " 20250615")]

theorem dated_by_fields_june :
    (fromFrontMatter februaryFields).date = some ⟨2025, some 6, some 15, .frontMatterField⟩ ∧
      (fromFrontMatter februaryFields).diagnostics [] = [⟨[], .dateInvalid,
        Text.of "Front matter created: 2025-02-30 is not a valid date", none⟩] ∧
      FirstField februaryFields [] ["created", "modified"] (fromFrontMatter februaryFields).date
        ((fromFrontMatter februaryFields).diagnostics []) ∧
      (∃ t, FrontMatter.flatten (.int ↑(2025 * 10000 + 6 * 100 + 15 : Nat)) = .ok t ∧
        parsed? t = some ⟨2025, 6, 15, by decide⟩) ∧
      ∃ t, FrontMatter.flatten (.moment ⟨⟨2025, 6, 15, by decide⟩, 23, 59, 59, 5, some (-330)⟩) =
        .ok t ∧ parsed? t = some ⟨2025, 6, 15, by decide⟩ := by
  refine ⟨by decide +kernel, by decide +kernel, dated_by_fields.2.2.2 _ _, ?_, ?_⟩
  · exact dated_by_fields.1 ⟨2025, 6, 15, by decide⟩ _ (.number (by decide))
  · exact dated_by_fields.1 _ _ (.moment rfl)

end Dating
end DreamJournal
