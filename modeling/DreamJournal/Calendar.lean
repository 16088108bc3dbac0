import DreamJournal.Text.Basic

/-!
# Calendar dates

A date is a day that exists: the type holds a proof that year, month and day belong to the
Gregorian calendar, with years from 1 to 9999. A triple of numbers that is no day is refused for
the first of year, month and day that is out of range.
-/
namespace DreamJournal

namespace Date

def isLeapYear (year : Nat) : Bool := year % 4 = 0 && (year % 100 ≠ 0 || year % 400 = 0)

/-- How many days a month has; none for a number that is no month. -/
def daysInMonth (year month : Nat) : Nat :=
  match month with
  | 2 => if isLeapYear year then 29 else 28
  | 4 | 6 | 9 | 11 => 30
  | 1 | 3 | 5 | 7 | 8 | 10 | 12 => 31
  | _ => 0

/-- A day that exists. -/
def IsReal (year month day : Nat) : Prop :=
  1 ≤ year ∧ year ≤ 9999 ∧ 1 ≤ month ∧ month ≤ 12 ∧ 1 ≤ day ∧ day ≤ daysInMonth year month

instance (year month day : Nat) : Decidable (IsReal year month day) := by
  unfold IsReal; infer_instance

end Date

/-- A day of the calendar. -/
structure Date where
  year : Nat
  month : Nat
  day : Nat
  real : Date.IsReal year month day
  deriving DecidableEq, Repr

/-- Which part of a triple of numbers is out of range. -/
inductive DateFault where
  | year (value : Int)
  | month
  | day
  deriving DecidableEq, Repr

def DateFault.message : DateFault → Text
  | year value => Text.of "year " ++ Text.ofInt value ++ Text.of " is out of range"
  | month => Text.of "month must be in 1..12"
  | day => Text.of "day is out of range for month"

namespace Date

/-- The day with the given numbers, if it exists. -/
def ofNumbers? (year month day : Nat) : Option Date :=
  if real : IsReal year month day then some ⟨year, month, day, real⟩ else none

/-- The first part of a triple that is out of range. -/
def fault (year month : Int) : DateFault :=
  if year < 1 || 9999 < year then .year year
  else if month < 1 || 12 < month then .month
  else .day

/-- The day with the given numbers, or what is wrong with them. -/
def ofInts (year month day : Int) : Except DateFault Date :=
  match year, month, day with
  | .ofNat y, .ofNat m, .ofNat d =>
    match ofNumbers? y m d with
    | some date => .ok date
    | none => .error (fault year month)
  | _, _, _ => .error (fault year month)

/-- How many days lie between the first day of the calendar and this one. -/
def number (date : Date) : Nat :=
  let years := date.year - 1
  let months := (List.range' 1 (date.month - 1)).foldl
    (fun days month => days + daysInMonth date.year month) 0
  365 * years + years / 4 - years / 100 + years / 400 + months + (date.day - 1)

/-- Four digits for the year and two for month and day, between hyphens. -/
def isoText (year month day : Nat) : Text :=
  Text.padded 4 year ++ '-' :: Text.padded 2 month ++ '-' :: Text.padded 2 day

/-- The text of a day. -/
def iso (date : Date) : Text := isoText date.year date.month date.day

/-- A number with zeros in front up to a width that a minus sign counts towards. -/
def paddedInt (width : Nat) (n : Int) : Text :=
  if n < 0 then '-' :: Text.padded (width - 1) n.natAbs else Text.padded width n.natAbs

/-- What is said of numbers that are no day. -/
def notADate (year month day : Int) : Text :=
  paddedInt 4 year ++ '-' :: paddedInt 2 month ++ '-' :: paddedInt 2 day ++
    Text.of " is not a valid date"

end Date
end DreamJournal
