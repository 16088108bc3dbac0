import DreamJournal.Calendar

/-!
# Dates of entries

The date of an entry tells how it was found. Five strategies are tried in a fixed order, and two
of them are guesses: a year in the path of the note, which leaves month and day open, and the
day on which the note is read.

Dates are put in order by year, month and day, where an open month or day counts as zero. A year
alone therefore comes before every day of that year, as its text is the beginning of theirs.
-/
namespace DreamJournal

/-- How a date was found, in the order in which the ways are tried. -/
inductive DateStrategy where
  | blockReference
  | headerDate
  | frontMatterField
  | pathInference
  | fallbackToday
  deriving DecidableEq, Repr

namespace DateStrategy

def all : List DateStrategy :=
  [blockReference, headerDate, frontMatterField, pathInference, fallbackToday]

/-- The name of a strategy in reports. -/
def label : DateStrategy → String
  | blockReference => "block_reference"
  | headerDate => "explicit_header_date"
  | frontMatterField => "frontmatter_field"
  | pathInference => "path_inference"
  | fallbackToday => "fallback_today"

/-- The strategy with a name. -/
def ofLabel? (label : Text) : Option DateStrategy :=
  all.find? fun strategy => Text.of strategy.label = label

/-- The place of a strategy in the order in which they are tried. -/
def priority : DateStrategy → Nat
  | blockReference => 0
  | headerDate => 1
  | frontMatterField => 2
  | pathInference => 3
  | fallbackToday => 4

/-- Whether a date found in this way is a guess. -/
def isGuess : DateStrategy → Bool
  | pathInference | fallbackToday => true
  | _ => false

end DateStrategy

/-- A date, possibly open in month and day, and how it was found. -/
structure ResolvedDate where
  year : Nat
  month : Option Nat
  day : Option Nat
  strategy : DateStrategy
  deriving DecidableEq, Repr

namespace ResolvedDate

def ofDate (date : Date) (strategy : DateStrategy) : ResolvedDate :=
  ⟨date.year, some date.month, some date.day, strategy⟩

def ofYear (year : Nat) (strategy : DateStrategy) : ResolvedDate := ⟨year, none, none, strategy⟩

/-- The text of a date: the day, or the year alone when the day is open. -/
def iso (d : ResolvedDate) : Text :=
  match d.month, d.day with
  | some month, some day => Date.isoText d.year month day
  | _, _ => Text.padded 4 d.year

/-- Whether month or day is open. -/
def isPartial (d : ResolvedDate) : Bool := d.month.isNone || d.day.isNone

/-- The numbers by which dates are put in order. -/
def sortKey (d : ResolvedDate) : Nat × Nat × Nat := (d.year, d.month.getD 0, d.day.getD 0)

/-- The order of sort keys: by year, then month, then day. -/
def keyLe (a b : Nat × Nat × Nat) : Bool :=
  a.1 < b.1 || (a.1 = b.1 && (a.2.1 < b.2.1 || (a.2.1 = b.2.1 && a.2.2 ≤ b.2.2)))

/-- Whether one date does not come after another. -/
def le (a b : ResolvedDate) : Bool := keyLe a.sortKey b.sortKey

/-- The day, when month and day are known; then it may still be none. -/
def day? (d : ResolvedDate) : Except DateFault (Option Date) :=
  match d.month, d.day with
  | some month, some day => (Date.ofInts d.year month day).map some
  | _, _ => .ok none

end ResolvedDate
end DreamJournal
