import DreamJournal.Proofs.Dating.LongForm

/-!
# Dates in long form, in a header

A header may say anything in front of a date, as long as it has no digits and its last word ends
before the date begins; a weekday is a case of that. The search tries every place in front of the
date. From each of them a reading either fails, for it would need a digit before it comes to the
date, or takes what it has passed over for a weekday and reads the date itself. So the first finding
is the date, wherever it is found to begin.
-/
namespace DreamJournal.Dating

open scoped List

variable {a b t : Text} {c mark letter : Char} {more : Text} {found : LongDate}

/-! ## Text in front of a date -/

/-- What may stand in front of a date. -/
structure IsFront (a : Text) : Prop where
  noDigit : ∀ c ∈ a, Text.isDecimal c = false
  ends : ∀ c ∈ a.getLast?, Text.isWordChar c = false

theorem IsFront.of_suffix (front : IsFront a) (suffix : b <:+ a) : IsFront b := by
  obtain ⟨before, rfl⟩ := suffix
  refine ⟨fun c member => front.noDigit c (List.mem_append_right _ member), fun c last => ?_⟩
  apply front.ends c
  rw [List.getLast?_append, Option.mem_def.mp last]
  rfl

theorem IsFront.append (front : IsFront a) (next : IsFront b) : IsFront (a ++ b) := by
  constructor
  case noDigit =>
    intro c member
    exact (List.mem_append.mp member).elim (front.noDigit c) (next.noDigit c)
  case ends =>
    intro c last
    rw [List.getLast?_append] at last
    cases inNext : b.getLast? with
    | none =>
      rw [inNext, Option.none_or] at last
      exact front.ends c last
    | some d =>
      rw [inNext] at last
      exact next.ends c (inNext ▸ last)

/-! ## Passing over it

A run of letters that begins in front of a date ends there, and no mark or white space reaches into
the date, as the date begins with a letter. -/

/-- A text is the date with some of what stands in front of it. -/
def Reaches (a date t : Text) : Prop := ∃ b, b <:+ a ∧ t = b ++ date

theorem reaches_letters (front : IsFront a) (given : a ≠ []) (date : Text) :
    Reaches a date ((a ++ date).dropWhile Text.isLatinLetter) := by
  refine ⟨a.dropWhile Text.isLatinLetter, List.dropWhile_suffix _, ?_⟩
  rw [List.dropWhile_append]
  split
  next empty =>
    -- the last character is part of no word
    have letters := List.dropWhile_eq_nil_iff.mp (List.isEmpty_iff.mp empty)
    have last := List.getLast?_eq_some_getLast given
    have isWord := Text.isWordChar_of_isLatinLetter (letters _ (List.getLast_mem given))
    rw [front.ends _ last] at isWord
    cases isWord
  next => rfl

section Passing

variable (isLetter : Text.isLatinLetter letter = true)
include isLetter

theorem Reaches.afterOptional (reaches : Reaches a (letter :: more) t)
    (other : Text.isLatinLetter mark = false) :
    Reaches a (letter :: more) (afterOptional mark t) := by
  obtain ⟨b, suffix, rfl⟩ := reaches
  have differ : letter ≠ mark := by
    rintro rfl
    rw [isLetter] at other
    cases other
  cases b with
  | nil => exact ⟨[], suffix, by simp [Dating.afterOptional, differ]⟩
  | cons c rest =>
    rw [List.cons_append, Dating.afterOptional]
    split
    next => exact ⟨rest, (List.suffix_cons c rest).trans suffix, rfl⟩
    next => exact ⟨c :: rest, suffix, rfl⟩

theorem Reaches.afterBlanks? (reaches : Reaches a (letter :: more) t)
    (passed : afterBlanks? t = some b) : Reaches a (letter :: more) b := by
  have stops : ∀ c ∈ (letter :: more).head?, Text.isBlank c = false := by
    rintro _ ⟨⟩
    by_contra blank
    rw [Text.isLatinLetter_of_isBlank (Bool.of_not_eq_false blank)] at isLetter
    cases isLetter
  obtain ⟨front, suffix, rfl⟩ := reaches
  cases front with
  | nil =>
    obtain ⟨blank, _⟩ := Option.ite_none_right_eq_some.mp passed
    rw [stops letter rfl] at blank
    cases blank
  | cons c rest =>
    obtain ⟨_, same⟩ := Option.ite_none_right_eq_some.mp passed
    rw [← Option.some.inj same, List.append_eq, Text.dropWhile_append_of_ends stops]
    exact ⟨_, (List.dropWhile_suffix _).trans ((List.suffix_cons c rest).trans suffix), rfl⟩

end Passing

/-! ## Readings that begin in front of a date -/

/-- A reading needs a word, and a digit behind the dot and white space of the word. -/
theorem parts_of_monthDayYear? (read : monthDayYear? t = some found) :
    (∃ c ∈ t.head?, Text.isLatinLetter c = true) ∧
      ∃ days, afterBlanks? (afterOptional '.' (t.dropWhile Text.isLatinLetter)) = some days ∧
        ∃ c ∈ days.head?, Text.isDecimal c = true := by
  simp only [monthDayYear?, Option.bind_eq_bind, Option.bind_eq_some_iff,
    Option.ite_none_right_eq_some, Bool.and_eq_true, decide_eq_true_eq,
    Text.drop_length_takeWhile] at read
  obtain ⟨days, passed, _, _, ⟨⟨⟨⟨⟨⟨long, _⟩, given⟩, _⟩, _⟩, _⟩, _⟩, _⟩ := read
  have word := Text.exists_head_of_takeWhile (Nat.lt_of_lt_of_le (by decide) long)
  exact ⟨word, days, passed, Text.exists_head_of_takeWhile given⟩

theorem monthDayYear?_front (isLetter : Text.isLatinLetter letter = true) (front : IsFront a)
    (given : a ≠ []) : monthDayYear? (a ++ letter :: more) = none := by
  by_contra read
  obtain ⟨found, read⟩ := Option.ne_none_iff_exists'.mp read
  -- the day would begin in front of the date, where there are no digits, or with its first letter
  obtain ⟨_, days, passed, digit, first, decimal⟩ := parts_of_monthDayYear? read
  obtain ⟨b, suffix, rfl⟩ :=
    ((reaches_letters front given _).afterOptional isLetter (by decide)).afterBlanks?
      isLetter passed
  cases b with
  | nil =>
    obtain rfl := Option.some.inj first
    rw [Text.isDecimal_of_isLatinLetter isLetter] at decimal
    cases decimal
  | cons c rest =>
    obtain rfl := Option.some.inj first
    rw [front.noDigit c (suffix.subset List.mem_cons_self)] at decimal
    cases decimal

theorem weekdayStarts_lettered :
    ∀ start ∈ weekdayStarts, ∀ c ∈ Text.of start, c.isAlpha = true := by
  simp only [← List.all_eq_true]
  decide +kernel

/-- A weekday is a run of letters, with a dot, a comma and white space behind it. -/
theorem afterWeekday?_passes (passed : afterWeekday? t = some b) :
    afterBlanks? (afterOptional ',' (afterOptional '.' (t.dropWhile Text.isLatinLetter))) =
      some b := by
  obtain ⟨rest, name, behind⟩ := Option.bind_eq_some_iff.mp passed
  obtain ⟨start, listed, found⟩ := List.exists_of_findSome?_eq_some name
  obtain ⟨word, rfl, _, latin⟩ := Text.exists_of_afterAnyCase? (weekdayStarts_lettered start listed)
    found
  rwa [List.dropWhile_append_of_pos latin]

/-- In front of a date nothing is read, or the date behind something that is taken for a weekday. -/
theorem longDate?_front (isLetter : Text.isLatinLetter letter = true) (front : IsFront a)
    (given : a ≠ []) (reads : monthDayYear? (letter :: more) = some found) :
    longDate? (a ++ letter :: more) = none ∨ longDate? (a ++ letter :: more) = some found := by
  rw [longDate?, monthDayYear?_front isLetter front given]
  cases weekday : afterWeekday? (a ++ letter :: more) with
  | none => exact .inl rfl
  | some passed =>
    -- a weekday reaches no further than to the date, and if not so far, a digit is missing
    obtain ⟨b, suffix, rfl⟩ := (((reaches_letters front given _).afterOptional isLetter
      (by decide)).afterOptional isLetter (by decide)).afterBlanks? isLetter
        (afterWeekday?_passes weekday)
    rw [Option.bind_some]
    cases b with
    | nil =>
      rw [List.nil_append, reads]
      exact .inr rfl
    | cons c rest =>
      rw [monthDayYear?_front isLetter (front.of_suffix suffix) (List.cons_ne_nil c rest)]
      exact .inl rfl

/-- At the date itself no weekday is read, for behind its first word stands a digit. -/
theorem longDate?_fromMonth {date : Date} (form : LongForm date) {behind : Text}
    (ends : ∀ c ∈ behind.head?, Text.isWordChar c = false) :
    longDate? (form.fromMonth ++ behind) = some ⟨form.month, date.day, date.year, behind⟩ := by
  have none : (afterWeekday? (form.fromMonth ++ behind)).bind monthDayYear? = Option.none := by
    by_contra read
    obtain ⟨found, read⟩ := Option.ne_none_iff_exists'.mp read
    obtain ⟨b, weekday, second⟩ := Option.bind_eq_some_iff.mp read
    obtain ⟨⟨c, first, letter⟩, _⟩ := parts_of_monthDayYear? second
    have passed := afterWeekday?_passes weekday
    rw [form.afterBlanks?_fromMonth] at passed
    obtain rfl := Option.some.inj passed
    have decimal := form.head_day _ c first
    rw [Text.isDecimal_of_isLatinLetter letter] at decimal
    cases decimal
  rw [longDate?, none, form.monthDayYear?_fromMonth ends]

/-! ## The search -/

variable {before : Option Char} {rest behind : Text} {date : Date}

theorem longDate_of_apart (apart : ∀ c ∈ before, Text.isWordChar c = false) (here : Text) :
    longDate before here = (longDate? here).map fun date =>
      ⟨here.length - date.rest.length, (here.take (here.length - date.rest.length), date)⟩ := by
  cases before with
  | none => rfl
  | some c => simp [longDate, apart c rfl]

theorem longDate_in_word (isWord : Text.isWordChar c = true) (here : Text) :
    longDate (some c) here = none := by
  simp [longDate, isWord]

theorem exists_findFrom (apart : ∀ c ∈ before, Text.isWordChar c = false)
    (read : longDate? (c :: rest) = some found) (covers : found.rest.length < (c :: rest).length) :
    ∃ written later, longDate.findFrom 0 before (c :: rest) = (written, found) :: later := by
  obtain ⟨size, counted⟩ := Nat.exists_eq_add_of_lt covers
  have covered : (c :: rest).length - found.rest.length = size + 1 := by omega
  rw [Text.Finder.findFrom, longDate_of_apart apart, read, Option.map_some, covered]
  exact ⟨_, _, rfl⟩

theorem findFrom_none (none : longDate before (c :: rest) = Option.none) :
    longDate.findFrom 0 before (c :: rest) = longDate.findFrom 0 (some c) rest := by
  rw [Text.Finder.findFrom, none]

theorem LongForm.exists_letter (form : LongForm date) (behind : Text) : ∃ letter more,
    form.fromMonth ++ behind = letter :: more ∧ Text.isLatinLetter letter = true := by
  have given : 0 < form.month.length := Nat.lt_of_lt_of_le (by decide) form.length_month.1
  obtain ⟨letter, more, parts⟩ := List.exists_cons_of_length_pos given
  refine ⟨letter, more ++ form.behindMonth behind, ?_, ?_⟩
  · rw [form.fromMonth_append, parts, List.cons_append]
  · exact form.letters_month letter (parts ▸ List.mem_cons_self)

/-- The first finding of the search is the date, whatever stands in front of it. -/
theorem exists_first_finding (form : LongForm date)
    (ends : ∀ c ∈ behind.head?, Text.isWordChar c = false) (front : IsFront a)
    (apart : a = [] → ∀ c ∈ before, Text.isWordChar c = false) :
    ∃ written later, longDate.findFrom 0 before (a ++ (form.fromMonth ++ behind)) =
      (written, ⟨form.month, date.day, date.year, behind⟩) :: later := by
  obtain ⟨letter, more, parts, isLetter⟩ := form.exists_letter behind
  have reads := form.monthDayYear?_fromMonth ends
  have atDate := longDate?_fromMonth form ends
  have covers : behind.length < (letter :: more).length := by
    have inside : behind.length ≤ (form.behindMonth behind).length := by
      simp only [LongForm.behindMonth, LongForm.behindDay, List.length_append]
      omega
    rw [← parts, form.fromMonth_append, List.length_append]
    have long := form.length_month.1
    omega
  rw [parts] at reads atDate ⊢
  -- the character in front of the search is another one at each place
  induction a generalizing before with
  | nil => exact exists_findFrom (apart rfl) atDate covers
  | cons c rest ih =>
    have later : ∃ written later, longDate.findFrom 0 (some c) (rest ++ letter :: more) =
        (written, ⟨form.month, date.day, date.year, behind⟩) :: later := by
      apply ih (front.of_suffix (List.suffix_cons c rest))
      rintro rfl _ ⟨⟩
      exact front.ends c rfl
    rw [List.cons_append]
    by_cases word : ∀ c ∈ before, Text.isWordChar c = false
    · rcases longDate?_front isLetter front (List.cons_ne_nil c rest) reads with none | found
      · rwa [findFrom_none (by rw [longDate_of_apart word, ← List.cons_append, none]; rfl)]
      · -- what stands in front was taken for a weekday
        rw [List.cons_append] at found
        apply exists_findFrom word found
        rw [List.length_cons, List.length_append]
        exact Nat.lt_succ_of_lt (Nat.lt_add_left rest.length covers)
    · -- inside a word nothing is looked for
      simp only [not_forall, Bool.not_eq_false] at word
      obtain ⟨d, same, isWord⟩ := word
      obtain rfl := Option.mem_def.mp same
      rwa [findFrom_none (longDate_in_word isWord _)]

/-! ## Dates in headers -/

theorem LongForm.isFront (form : LongForm date) : IsFront form.front := by
  unfold LongForm.front
  cases form.weekday with
  | none => exact ⟨List.forall_mem_nil _, by rintro _ ⟨⟩⟩
  | some w =>
    rw [Option.map_some, Option.getD_some]
    constructor
    case noDigit =>
      intro c member
      simp only [Weekday.text, List.mem_append] at member
      rcases member with letter | dot | comma | blank
      · exact Text.isDecimal_of_isLatinLetter (Text.isLatinLetter_of_isAlpha (w.letters c letter))
      · rw [Text.eq_of_mem_mark? dot]
        rfl
      · rw [Text.eq_of_mem_mark? comma]
        rfl
      · exact Text.isDecimal_of_isBlank (w.spacing.blank c blank)
    case ends =>
      intro c last
      have inGap : c ∈ w.gap := by
        have whole : w.text = (w.name ++ (Text.mark? '.' w.dot ++ Text.mark? ',' w.comma)) ++ w.gap := by
          simp [Weekday.text]
        rw [whole, List.getLast?_append_of_ne_nil _ w.spacing.nonempty] at last
        exact List.mem_of_getLast? last
      exact Text.isWordChar_of_isBlank (w.spacing.blank c inGap)

/-- Every way of writing a date in long form is read as that date, and nothing is complained of:
behind any text without digits that does not end within a word, and in front of any text that does
not go on with the last one. -/
theorem fromLongDate_form (date : Date) (form : LongForm date) (front behind : Text)
    (noDigit : ∀ c ∈ front, Text.isDecimal c = false)
    (begins : ∀ c ∈ front.getLast?, Text.isWordChar c = false)
    (ends : ∀ c ∈ behind.head?, Text.isWordChar c = false) :
    fromLongDate (front ++ (form.text ++ behind)) = ⟨some (.ofDate date .headerDate), []⟩ := by
  have inFront : IsFront (front ++ form.front) := IsFront.append ⟨noDigit, begins⟩ form.isFront
  have nothing : front ++ form.front = [] → ∀ c ∈ (none : Option Char), Text.isWordChar c = false :=
    fun _ c given => absurd given (by simp)
  obtain ⟨written, later, found⟩ := exists_first_finding form ends inFront nothing
  have whole : front ++ (form.text ++ behind) =
      (front ++ form.front) ++ (form.fromMonth ++ behind) := by
    simp [LongForm.text]
  have real : Date.ofNumbers? date.year date.month date.day = some date := dif_pos date.real
  rw [fromLongDate, Text.Finder.findAll, whole, found, List.map_cons]
  simp only [form.monthNumber?_month, Finding.candidate, real, Finding.ofCandidates]

/-- A Sunday with everything that may be left out. -/
def sundayForm : LongForm ⟨2025, 6, 22, by decide⟩ where
  weekday := some {
    name := Text.of "SUNday"
    starts := ⟨"sun", by decide +kernel, by decide +kernel⟩
    letters := List.all_eq_true.mp rfl
    dot := true
    comma := true
    gap := [' ']
    spacing := ⟨by decide, List.all_eq_true.mp rfl⟩ }
  month := Text.of "jUn"
  isMonth := ⟨Text.of "jun", by decide +kernel, rfl⟩
  dot := true
  firstGap := Text.of "  "
  firstSpacing := ⟨by decide, List.all_eq_true.mp rfl⟩
  day := Text.of "22"
  isDay := ⟨⟨List.all_eq_true.mp rfl, by decide +kernel⟩, .inr rfl⟩
  ordinal := Text.of "ND"
  isOrdinal := .inr ⟨"nd", by decide +kernel, rfl⟩
  comma := true
  secondGap := Text.of "\t"
  secondSpacing := ⟨by decide, List.all_eq_true.mp rfl⟩
  year := Text.of "2025"
  isYear := ⟨⟨List.all_eq_true.mp rfl, by decide +kernel⟩, rfl⟩

theorem fromLongDate_form_sunday :
    sundayForm.text = Text.of "SUNday., jUn.  22ND,\t2025" ∧
      (∀ c ∈ Text.of "> [!journal-entry] Mon ", Text.isDecimal c = false) ∧
      fromLongDate (Text.of "> [!journal-entry] Mon " ++ (sundayForm.text ++ Text.of " ^20250623")) =
        ⟨some ⟨2025, some 6, some 22, .headerDate⟩, []⟩ := by
  have noDigit : ∀ c ∈ Text.of "> [!journal-entry] Mon ", Text.isDecimal c = false := by
    simp only [← Bool.not_eq_true', ← List.all_eq_true]
    decide
  exact ⟨by decide +kernel, noDigit,
    fromLongDate_form _ sundayForm _ _ noDigit (by rintro _ ⟨⟩; rfl) (by rintro _ ⟨⟩; rfl)⟩

end DreamJournal.Dating
