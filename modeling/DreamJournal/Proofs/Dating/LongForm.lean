import DreamJournal.Dating.Strategies
import DreamJournal.Proofs.Dating.Stamp
import DreamJournal.Proofs.Text.Classes

/-!
# The long form of a date

A date in long form is a word for the month, the day and the year, with white space between them,
a few marks that may be left out, and a weekday in front that may be left out too. Every way of
writing it is a `LongForm`. The digits may be of any script, the words in any case.

Read from its month on, a long form gives the word, the numbers and what stands behind it: the reader
takes the longest run of a class each time, and each part ends with a character that the class of the
next run does not share.
-/
namespace DreamJournal

namespace Text

/-- A word is another one, in any case of its letters. -/
def InAnyCase (name word : Text) : Prop := word.map Char.toLower = name

/-- At least one character, and nothing but white space. -/
structure IsSpacing (t : Text) : Prop where
  nonempty : t ≠ []
  blank : ∀ c ∈ t, isBlank c = true

/-- Decimal digits of any script that spell a number. -/
structure IsNumeral (digits : Text) (n : Nat) : Prop where
  decimal : ∀ c ∈ digits, isDecimal c = true
  value : decimalNumber digits = n

/-- A mark, or nothing in its place. -/
def mark? (mark : Char) (given : Bool) : Text := if given then [mark] else []

variable {name word digits t : Text} {c : Char} {n : Nat}

/-- What holds within a run holds of the character with which a text begins that begins with it. -/
theorem forall_head?_append {p : Char → Prop} {run : Text} (given : run ≠ [])
    (inside : ∀ c ∈ run, p c) (t : Text) : ∀ c ∈ (run ++ t).head?, p c := by
  obtain ⟨c, rest, rfl⟩ := List.exists_cons_of_ne_nil given
  rintro _ ⟨⟩
  exact inside c List.mem_cons_self

theorem isNumeral_padded (width n : Nat) : IsNumeral (padded width n) n where
  decimal := fun _ member => isDecimal_of_isDigit (isDigit_of_mem_padded member)
  value := decimalNumber_padded width n

theorem eq_of_mem_mark? {mark : Char} {given : Bool} (member : c ∈ mark? mark given) : c = mark := by
  cases given with
  | true => exact List.mem_singleton.mp member
  | false => exact absurd member List.not_mem_nil

theorem isAlpha_of_toLower (letter : c.toLower.isAlpha = true) : c.isAlpha = true := by
  rcases toLower_cases c with ⟨capital, _⟩ | ⟨_, same⟩
  · exact isAlpha_iff_code.mpr (.inl capital)
  · exact same ▸ letter

namespace InAnyCase

theorem letters (same : InAnyCase name word) (letters : ∀ c ∈ name, c.isAlpha = true) :
    ∀ c ∈ word, c.isAlpha = true := by
  intro c member
  exact isAlpha_of_toLower (letters _ (same ▸ List.mem_map_of_mem member))

theorem lower_eq (same : InAnyCase name word) (letters : ∀ c ∈ name, c.isAlpha = true) :
    lower word = name := by
  have plain : ∀ c ∈ word, c.toNat < 0x80 := by
    intro c member
    have code := code_of_isAlpha (same.letters letters c member)
    omega
  rw [lower, lowerFrom_plain plain, ← same]
  exact List.map_congr_left fun c member => lowerChar_plain (plain c member)

theorem sameLetters (same : InAnyCase name word) (letters : ∀ c ∈ name, c.isAlpha = true) :
    SameLetters name word := by
  have plain : ∀ c ∈ word, c.toNat < 0x80 := by
    intro c member
    have code := code_of_isAlpha (same.letters letters c member)
    omega
  rw [← same.lower_eq letters]
  exact sameLetters_lower plain

end InAnyCase
end Text

namespace Dating

open Text (InAnyCase IsSpacing IsNumeral mark?)

/-! ## Ways of writing a date -/

/-- The words for the months, in full and by three letters, and one of four letters. -/
def monthWords : List (Text × Nat) :=
  (monthNames.zipIdx 1).flatMap (fun (name, month) =>
    [(Text.of name, month), ((Text.of name).take 3, month)]) ++ [(Text.of "sept", 9)]

/-- A weekday in front of a date, in full or cut short. -/
structure Weekday where
  name : Text
  starts : ∃ start ∈ weekdayStarts, Text.of start <+: name.map Char.toLower
  letters : ∀ c ∈ name, c.isAlpha = true
  dot : Bool
  comma : Bool
  gap : Text
  spacing : IsSpacing gap

def Weekday.text (w : Weekday) : Text := w.name ++ (mark? '.' w.dot ++ (mark? ',' w.comma ++ w.gap))

/-- A date in long form. -/
structure LongForm (date : Date) where
  weekday : Option Weekday
  month : Text
  isMonth : ∃ small, (small, date.month) ∈ monthWords ∧ InAnyCase small month
  dot : Bool
  firstGap : Text
  firstSpacing : IsSpacing firstGap
  day : Text
  isDay : IsNumeral day date.day ∧ (day.length = 1 ∨ day.length = 2)
  ordinal : Text
  isOrdinal : ordinal = [] ∨ ∃ ending ∈ ordinalEndings, InAnyCase (Text.of ending) ordinal
  comma : Bool
  secondGap : Text
  secondSpacing : IsSpacing secondGap
  year : Text
  isYear : IsNumeral year date.year ∧ year.length = 4

namespace LongForm

variable {date : Date}

/-- A long form without its weekday. -/
def fromMonth (form : LongForm date) : Text :=
  form.month ++ (mark? '.' form.dot ++ (form.firstGap ++ (form.day ++ (form.ordinal ++
    (mark? ',' form.comma ++ (form.secondGap ++ form.year))))))

def front (form : LongForm date) : Text := (form.weekday.map Weekday.text).getD []

def text (form : LongForm date) : Text := form.front ++ form.fromMonth

end LongForm

/-! ## Reading the parts -/

variable {mark c : Char} {gap t : Text}

theorem afterOptional_mark? (mark : Char) (given : Bool) (other : ∀ c ∈ t.head?, c ≠ mark) :
    afterOptional mark (mark? mark given ++ t) = t := by
  cases given with
  | true => simp [mark?, afterOptional]
  | false =>
    cases t with
    | nil => rfl
    | cons c rest => simp [mark?, afterOptional, other c rfl]

theorem afterBlanks?_spacing (spacing : IsSpacing gap)
    (inked : ∀ c ∈ t.head?, Text.isBlank c = false) : afterBlanks? (gap ++ t) = some t := by
  obtain ⟨c, rest, rfl⟩ := List.exists_cons_of_ne_nil spacing.nonempty
  have ⟨here, later⟩ := List.forall_mem_cons.mp spacing.blank
  rw [List.cons_append, afterBlanks?, if_pos here, Text.dropWhile_run later inked]

theorem head_spacing (spacing : IsSpacing gap) (t : Text) :
    ∀ c ∈ (gap ++ t).head?, Text.isBlank c = true :=
  Text.forall_head?_append spacing.nonempty spacing.blank t

/-- Behind a word or a number stands a mark or white space. -/
theorem head_mark? (mark : Char) (given : Bool) (spacing : IsSpacing gap) (t : Text) :
    ∀ c ∈ (mark? mark given ++ (gap ++ t)).head?, c = mark ∨ Text.isBlank c = true := by
  cases given with
  | true =>
    rintro _ ⟨⟩
    exact .inl rfl
  | false => exact fun c first => .inr (head_spacing spacing t c first)

/-- A mark that may be missing is passed over, up to the white space behind it. -/
theorem afterOptional_spacing (given : Bool) (spacing : IsSpacing gap)
    (noBlank : Text.isBlank mark = false) (t : Text) :
    afterOptional mark (mark? mark given ++ (gap ++ t)) = gap ++ t := by
  apply afterOptional_mark?
  intro c first same
  have blank := head_spacing spacing t c first
  rw [same, noBlank] at blank
  cases blank

theorem ordinalEndings_lettered : ∀ ending ∈ ordinalEndings,
    (Text.of ending).length = 2 ∧ ∀ c ∈ Text.of ending, c.isAlpha = true := by
  simp only [← List.all_eq_true]
  decide +kernel

theorem afterOrdinal_eq_self (other : ∀ c ∈ t.head?, Text.isLatinLetter c = false) :
    afterOrdinal t = t := by
  have none : (ordinalEndings.findSome? fun ending => Text.afterAnyCase? (Text.of ending) t) =
      Option.none := by
    refine List.findSome?_eq_none_iff.mpr fun ending listed => ?_
    by_contra found
    obtain ⟨rest, found⟩ := Option.ne_none_iff_exists'.mp found
    -- an ending would begin with a letter
    obtain ⟨two, letters⟩ := ordinalEndings_lettered ending listed
    obtain ⟨word, rfl, long, latin⟩ := Text.exists_of_afterAnyCase? letters found
    obtain ⟨c, more, rfl⟩ := List.exists_cons_of_length_eq_add_one (long.trans two)
    have letter := latin c List.mem_cons_self
    rw [other c rfl] at letter
    cases letter
  rw [afterOrdinal, none, Option.getD_none]

theorem afterOrdinal_ending {ending : String} {found : Text} (listed : ending ∈ ordinalEndings)
    (same : InAnyCase (Text.of ending) found) (t : Text) : afterOrdinal (found ++ t) = t := by
  obtain ⟨two, letters⟩ := ordinalEndings_lettered ending listed
  have here : Text.afterAnyCase? (Text.of ending) (found ++ t) = some t :=
    Text.afterAnyCase?_eq_some_iff.mpr ⟨found, rfl, same.sameLetters letters⟩
  cases first : ordinalEndings.findSome? fun ending =>
      Text.afterAnyCase? (Text.of ending) (found ++ t) with
  | none =>
    have nothing := List.findSome?_eq_none_iff.mp first ending listed
    rw [here] at nothing
    cases nothing
  | some rest =>
    -- whichever ending is found first is as long as this one
    obtain ⟨other, among, passed⟩ := List.exists_of_findSome?_eq_some first
    obtain ⟨alsoTwo, lettered⟩ := ordinalEndings_lettered other among
    obtain ⟨word, parts, long, _⟩ := Text.exists_of_afterAnyCase? lettered passed
    have short : found.length = 2 := by
      rw [← two, ← same, List.length_map]
    have behind := List.append_inj_right parts (short.trans (long.trans alsoTwo).symm)
    rw [afterOrdinal, first, Option.getD_some, behind]

theorem mem_monthWords : ∀ month ∈ List.range' 1 12, month ∈ monthWords.map Prod.snd := by
  decide +kernel

theorem monthWords_small : ∀ small ∈ monthWords, InAnyCase small.1 small.1 := by
  unfold InAnyCase
  decide +kernel

theorem monthWords_lettered : ∀ small ∈ monthWords, monthNumber? small.1 = some small.2 ∧
    3 ≤ small.1.length ∧ small.1.length ≤ 9 ∧ ∀ c ∈ small.1, c.isAlpha = true := by
  simp only [← List.all_eq_true]
  decide +kernel

namespace LongForm

variable {date : Date} (form : LongForm date) {behind : Text}

theorem letters_month : ∀ c ∈ form.month, Text.isLatinLetter c = true := by
  obtain ⟨small, listed, same⟩ := form.isMonth
  obtain ⟨_, _, _, letters⟩ := monthWords_lettered _ listed
  exact fun c member => Text.isLatinLetter_of_isAlpha (same.letters letters c member)

theorem length_month : 3 ≤ form.month.length ∧ form.month.length ≤ 9 := by
  obtain ⟨small, listed, same⟩ := form.isMonth
  obtain ⟨_, long, short, _⟩ := monthWords_lettered _ listed
  have kept : form.month.length = small.length := by rw [← same, List.length_map]
  rw [kept]
  exact ⟨long, short⟩

theorem monthNumber?_month : monthNumber? (Text.lower form.month) = some date.month := by
  obtain ⟨small, listed, same⟩ := form.isMonth
  obtain ⟨number, _, _, letters⟩ := monthWords_lettered _ listed
  rw [same.lower_eq letters]
  exact number

/-- What stands behind the day, up to some text. -/
def behindDay (form : LongForm date) (behind : Text) : Text :=
  form.ordinal ++ (mark? ',' form.comma ++ (form.secondGap ++ (form.year ++ behind)))

def behindMonth (form : LongForm date) (behind : Text) : Text :=
  mark? '.' form.dot ++ (form.firstGap ++ (form.day ++ form.behindDay behind))

theorem fromMonth_append (behind : Text) :
    form.fromMonth ++ behind = form.month ++ form.behindMonth behind := by
  simp [fromMonth, behindMonth, behindDay]

theorem head_day (t : Text) : ∀ c ∈ (form.day ++ t).head?, Text.isDecimal c = true := by
  apply Text.forall_head?_append _ form.isDay.1.decimal
  apply List.ne_nil_of_length_pos
  have width := form.isDay.2
  omega

theorem head_year (t : Text) : ∀ c ∈ (form.year ++ t).head?, Text.isDecimal c = true := by
  apply Text.forall_head?_append _ form.isYear.1.decimal
  exact List.ne_nil_of_length_eq_add_one form.isYear.2

theorem head_behindMonth (behind : Text) :
    ∀ c ∈ (form.behindMonth behind).head?, Text.isLatinLetter c = false := by
  intro c first
  rcases head_mark? '.' form.dot form.firstSpacing _ c first with rfl | blank
  · decide
  · exact Text.isLatinLetter_of_isBlank blank

theorem head_behindDay (behind : Text) :
    ∀ c ∈ (form.behindDay behind).head?, Text.isDecimal c = false := by
  unfold behindDay
  rcases form.isOrdinal with none | ⟨ending, listed, same⟩
  · rw [none, List.nil_append]
    intro c first
    rcases head_mark? ',' form.comma form.secondSpacing _ c first with rfl | blank
    · decide
    · exact Text.isDecimal_of_isBlank blank
  · obtain ⟨two, letters⟩ := ordinalEndings_lettered ending listed
    have short : form.ordinal.length = 2 := by
      rw [← two, ← same, List.length_map]
    refine Text.forall_head?_append (List.ne_nil_of_length_eq_add_one short) (fun c member => ?_) _
    have letter := same.letters letters c member
    exact Text.isDecimal_of_isLatinLetter (Text.isLatinLetter_of_isAlpha letter)

theorem afterOptional_behindMonth (behind : Text) :
    afterOptional '.' (form.behindMonth behind) =
      form.firstGap ++ (form.day ++ form.behindDay behind) :=
  afterOptional_spacing form.dot form.firstSpacing (by decide) _

theorem afterBlanks?_firstGap (behind : Text) :
    afterBlanks? (form.firstGap ++ (form.day ++ form.behindDay behind)) =
      some (form.day ++ form.behindDay behind) := by
  apply afterBlanks?_spacing form.firstSpacing
  exact fun c first => (Text.isBlank_of_isDecimal (form.head_day _ c first)).1

/-- The ending of the day with its comma and white space, up to the year. -/
theorem afterBlanks?_behindDay (behind : Text) :
    afterBlanks? (afterOptional ',' (afterOrdinal (form.behindDay behind))) =
      some (form.year ++ behind) := by
  have year : afterBlanks? (form.secondGap ++ (form.year ++ behind)) = some (form.year ++ behind) := by
    apply afterBlanks?_spacing form.secondSpacing
    exact fun c first => (Text.isBlank_of_isDecimal (form.head_year _ c first)).1
  have marked := afterOptional_spacing form.comma form.secondSpacing
    (by decide : Text.isBlank ',' = false) (form.year ++ behind)
  rcases form.isOrdinal with none | ⟨ending, listed, same⟩
  · rw [behindDay, none, List.nil_append, afterOrdinal_eq_self, marked, year]
    intro c first
    rcases head_mark? ',' form.comma form.secondSpacing _ c first with rfl | blank
    · decide
    · exact Text.isLatinLetter_of_isBlank blank
  · rw [behindDay, afterOrdinal_ending listed same, marked, year]

/-- From its month on, a long form is read as it was written. -/
theorem monthDayYear?_fromMonth (ends : ∀ c ∈ behind.head?, Text.isWordChar c = false) :
    monthDayYear? (form.fromMonth ++ behind) =
      some ⟨form.month, date.day, date.year, behind⟩ := by
  obtain ⟨dayDigits, width⟩ := form.isDay
  obtain ⟨yearDigits, four⟩ := form.isYear
  -- the runs that are taken, one after the other
  have month : (form.month ++ form.behindMonth behind).takeWhile Text.isLatinLetter = form.month :=
    Text.takeWhile_run form.letters_month (form.head_behindMonth behind)
  have day : leadingDigits (form.day ++ form.behindDay behind) = form.day :=
    leadingDigits_append dayDigits.decimal (form.head_behindDay behind)
  have year : (form.year ++ behind).take 4 = form.year := List.take_left' four
  have rest : (form.year ++ behind).drop 4 = behind := List.drop_left' four
  rw [form.fromMonth_append, monthDayYear?, month, List.drop_left, form.afterOptional_behindMonth,
    form.afterBlanks?_firstGap]
  simp only [Option.bind_eq_bind, Option.bind_some]
  rw [day, List.drop_left, form.afterBlanks?_behindDay]
  simp only [Option.bind_some, year, rest, dayDigits.value, yearDigits.value]
  -- what is asked of them
  obtain ⟨long, short⟩ := form.length_month
  have oneOrTwo : 1 ≤ form.day.length ∧ form.day.length ≤ 2 := by omega
  have decimal : form.year.all Text.isDecimal = true := List.all_eq_true.mpr yearDigits.decimal
  have wordEnds : Text.isWordEnd behind = true := by
    cases behind with
    | nil => rfl
    | cons c rest => simp [Text.isWordEnd, ends c rfl]
  simp [long, short, oneOrTwo, four, decimal, wordEnds]

/-- Taken for a weekday, the month leaves the reader at the day. -/
theorem afterBlanks?_fromMonth (behind : Text) : afterBlanks? (afterOptional ',' (afterOptional '.'
    ((form.fromMonth ++ behind).dropWhile Text.isLatinLetter))) =
      some (form.day ++ form.behindDay behind) := by
  have noComma := afterOptional_spacing false form.firstSpacing (by decide : Text.isBlank ',' = false)
  rw [form.fromMonth_append, Text.dropWhile_run form.letters_month (form.head_behindMonth behind),
    form.afterOptional_behindMonth, ← form.afterBlanks?_firstGap behind]
  exact congrArg afterBlanks? (noComma (form.day ++ form.behindDay behind))

/-- Every day can be written so: with nothing that may be left out, and with single spaces. -/
theorem nonempty (date : Date) : Nonempty (LongForm date) := by
  have spacing : IsSpacing [' '] := ⟨by decide, List.all_eq_true.mp rfl⟩
  obtain ⟨fourDigits, _, twoDigits⟩ := date.stamp_widths
  obtain ⟨_, _, first, last, _⟩ := date.real
  have listed := mem_monthWords date.month (List.mem_range'_1.mpr ⟨first, by omega⟩)
  obtain ⟨⟨small, month⟩, isWord, same⟩ := List.mem_map.mp listed
  have isMonth : (small, date.month) ∈ monthWords ∧ InAnyCase small small :=
    ⟨same ▸ isWord, monthWords_small _ isWord⟩
  exact ⟨{
    weekday := none
    month := small
    isMonth := ⟨small, isMonth⟩
    dot := false
    firstGap := [' ']
    firstSpacing := spacing
    day := Text.padded 2 date.day
    isDay := ⟨Text.isNumeral_padded 2 date.day, .inr twoDigits⟩
    ordinal := []
    isOrdinal := .inl rfl
    comma := false
    secondGap := [' ']
    secondSpacing := spacing
    year := Text.padded 4 date.year
    isYear := ⟨Text.isNumeral_padded 4 date.year, fourDigits⟩ }⟩

end LongForm

end Dating
end DreamJournal
