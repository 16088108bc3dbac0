import DreamJournal.Dating.Resolved
import DreamJournal.Diagnostic
import DreamJournal.Text.Case
import DreamJournal.Text.Classes
import DreamJournal.Text.Pattern
import DreamJournal.Text.Quoted

/-!
# Strategies for finding a date

Each strategy looks at one source: the block references next to the header of a journal, the
long form of a date in the header, two fields of the front matter, and the path of the note. A
source may hold several candidates. One that has the shape of a date and is no day of the
calendar is reported and passed over, and the next one is tried; parts of different candidates
are never put together.

A strategy answers the first real date and the reports that it made on the way.
-/
namespace DreamJournal

open Text (Finder)

/-- What a strategy found, and the complaints about candidates that are no day. -/
structure Finding where
  date : Option ResolvedDate
  complaints : List Text

namespace Finding

def nothing : Finding := ⟨none, []⟩

/-- A candidate: a real date, a complaint, or nothing to speak of. -/
inductive Candidate where
  | day (date : Date)
  | impossible (complaint : Text)
  | other

/-- The first real date of some candidates and the complaints before it. -/
def ofCandidates (strategy : DateStrategy) : List Candidate → Finding
  | [] => nothing
  | .day date :: _ => ⟨some (.ofDate date strategy), []⟩
  | .impossible complaint :: rest =>
    let later := ofCandidates strategy rest
    { later with complaints := complaint :: later.complaints }
  | .other :: rest => ofCandidates strategy rest

/-- The complaints as diagnostics of a note. -/
def diagnostics (f : Finding) (source : Text) : List Diagnostic :=
  f.complaints.map fun complaint => ⟨source, .dateInvalid, complaint, none⟩

/-- The candidate with the given numbers, introduced by what it was found in. -/
def candidate (found : Text) (year month day : Nat) : Candidate :=
  match Date.ofNumbers? year month day with
  | some date => .day date
  | none => .impossible (found ++ Text.of ": " ++ Date.notADate year month day)

end Finding

/-- A run of decimal digits at the start of a text. -/
def leadingDigits (t : Text) : Text := t.takeWhile Text.isDecimal

namespace Dating

/-- Year, month and day of eight digits. -/
def eightDigits (digits : Text) : Nat × Nat × Nat :=
  (Text.decimalNumber (digits.take 4), Text.decimalNumber ((digits.drop 4).take 2),
    Text.decimalNumber (digits.drop 6))

/-- A caret and exactly eight digits. -/
def dateReference : Finder Text := fun _ here =>
  match here with
  | '^' :: rest =>
    let digits := leadingDigits rest
    if digits.length = 8 then some ⟨9, digits⟩ else none
  | _ => none

/-- The date of a block reference on the first three of the given lines. -/
def fromBlockReference (lines : List Text) : Finding :=
  Finding.ofCandidates .blockReference <|
    ((lines.take 3).flatMap dateReference.findAll).map fun token =>
      let (year, month, day) := eightDigits token
      Finding.candidate (Text.of "Block reference ^" ++ token) year month day

/-- The names of the months, from January on. -/
def monthNames : List String :=
  ["january", "february", "march", "april", "may", "june", "july", "august", "september",
    "october", "november", "december"]

/-- The month that a word in lower case names, in full, by three letters, or as `sept`. -/
def monthNumber? (word : Text) : Option Nat :=
  if word = Text.of "sept" then some 9
  else
    let isNamed := fun name => word = Text.of name || word = (Text.of name).take 3
    (monthNames.findIdx? isNamed).map (· + 1)

/-- The first three letters of the days of the week. -/
def weekdayStarts : List String := ["mon", "tue", "wed", "thu", "fri", "sat", "sun"]

/-- What follows an optional character. -/
def afterOptional (c : Char) (t : Text) : Text :=
  match t with
  | first :: rest => if first = c then rest else t
  | [] => []

/-- What follows white space; there must be some. -/
def afterBlanks? (t : Text) : Option Text :=
  match t with
  | c :: rest => if Text.isBlank c then some (rest.dropWhile Text.isBlank) else none
  | [] => none

/-- What follows the name of a weekday with its dot, its comma and white space. -/
def afterWeekday? (t : Text) : Option Text := do
  let rest ← weekdayStarts.findSome? fun start => Text.afterAnyCase? (Text.of start) t
  afterBlanks? (afterOptional ',' (afterOptional '.' (rest.dropWhile Text.isLatinLetter)))

/-- The endings of ordinal numbers. -/
def ordinalEndings : List String := ["st", "nd", "rd", "th"]

/-- What follows the ending of an ordinal number, where there is one. -/
def afterOrdinal (t : Text) : Text :=
  (ordinalEndings.findSome? fun ending => Text.afterAnyCase? (Text.of ending) t).getD t

/-- A date in long form: the word for the month, the day, the year, and the text that follows. -/
structure LongDate where
  month : Text
  day : Nat
  year : Nat
  rest : Text

/-- Month, day and year at the start of a text. -/
def monthDayYear? (t : Text) : Option LongDate := do
  let month := t.takeWhile Text.isLatinLetter
  let days ← afterBlanks? (afterOptional '.' (t.drop month.length))
  let day := leadingDigits days
  let years ← afterBlanks? (afterOptional ',' (afterOrdinal (days.drop day.length)))
  let year := years.take 4
  if 3 ≤ month.length && month.length ≤ 9 && 1 ≤ day.length && day.length ≤ 2 &&
      year.length = 4 && year.all Text.isDecimal && Text.isWordEnd (years.drop 4) then
    some ⟨month, Text.decimalNumber day, Text.decimalNumber year, years.drop 4⟩
  else none

/-- A date in long form at the start of a word, with or without a weekday in front. -/
def longDate? (t : Text) : Option LongDate :=
  match (afterWeekday? t).bind monthDayYear? with
  | some date => some date
  | none => monthDayYear? t

/-- A date in long form, together with its text. -/
def longDate : Finder (Text × LongDate) := fun before here =>
  match before.map Text.isWordChar with
  | some true => none
  | _ => (longDate? here).map fun date =>
      let size := here.length - date.rest.length
      ⟨size, (here.take size, date)⟩

/-- The date in a header, in long form. -/
def fromLongDate (header : Text) : Finding :=
  Finding.ofCandidates .headerDate <|
    (longDate.findAll header).map fun (written, date) =>
      match monthNumber? (Text.lower date.month) with
      | none => .other
      | some month =>
        Finding.candidate (Text.of "Header date " ++ Text.quoted written) date.year month date.day

/-- Year, month and day of a text with the shape `YYYYMMDD`, white space around it aside. -/
def compactShape? (value : Text) : Option (Nat × Nat × Nat) :=
  let digits := Text.trim value
  if digits.length = 8 && digits.all Text.isDecimal then some (eightDigits digits) else none

/-- Whether a text may follow a date: nothing, or a time or comment on the same line. -/
def mayFollowDate (t : Text) : Bool :=
  let line := match t.reverse with
    | '\n' :: before => before.reverse
    | _ => t
  match line with
  | [] => true
  | c :: rest => (c == 'T' || c == ' ') && !rest.contains '\n'

/-- Year, month and day of a text that begins with the shape `YYYY-MM-DD`. -/
def isoShape? (value : Text) : Option (Nat × Nat × Nat) :=
  let t := value.dropWhile Text.isBlank
  match t with
  | [] => none
  | _ =>
    let year := t.take 4
    match t.drop 4 with
    | '-' :: m :: n :: '-' :: d :: e :: after =>
      if year.all Text.isDecimal && [m, n, d, e].all Text.isDecimal && mayFollowDate after then
        some (Text.decimalNumber year, Text.decimalNumber [m, n], Text.decimalNumber [d, e])
      else none
    | _ => none

/-- Year, month and day of a front matter value, when it has one of the two shapes. -/
def valueShape? (value : Text) : Option (Nat × Nat × Nat) :=
  match compactShape? value with
  | some shape => some shape
  | none => isoShape? value

/-- The fields of the front matter that may hold a date, in the order in which they are tried. -/
def frontMatterFields : List String := ["created", "modified"]

/-- The candidate in one field of the front matter. -/
def fieldCandidate (frontMatter : OrderedMap Text Text) (field : String) : Finding.Candidate :=
  match (frontMatter.get? (Text.of field)).bind valueShape? with
  | some (year, month, day) =>
    Finding.candidate (Text.of "Front matter " ++ Text.of field) year month day
  | none => .other

/-- The date in the front matter. -/
def fromFrontMatter (frontMatter : OrderedMap Text Text) : Finding :=
  Finding.ofCandidates .frontMatterField (frontMatterFields.map (fieldCandidate frontMatter))

/-- A number of exactly four digits. -/
def fourDigits : Finder Nat := fun before here =>
  match before.map Text.isDecimal with
  | some true => none
  | _ =>
    let digits := leadingDigits here
    if digits.length = 4 then some ⟨4, Text.decimalNumber digits⟩ else none

/-- The first plausible year in a path. -/
def fromPath (path : Text) : Option ResolvedDate :=
  ((fourDigits.findAll path).find? fun year => 1900 ≤ year && year ≤ 2100).map fun year =>
    .ofYear year .pathInference

end Dating
end DreamJournal
