import DreamJournal.Calendar
import DreamJournal.Number.Basic
import DreamJournal.OrderedMap
import DreamJournal.Text.Quoted
import DreamJournal.Web

/-!
# Data of front matter and settings

Front matter and settings files hold data whose shape is known only when it is read: scalars of
several kinds, lists, sets and maps. `plain` is the text of a datum by itself and `quoted` its
text inside another one, where texts stand between quotes and dates are spelled out. The two
differ only for texts and dates.

Most data are trees. Where a collection holds itself, it and all collections around it are cells of
a web, and `opened` shows what such a collection holds, one level deep.
-/
namespace DreamJournal

/-- A time of day on a date, with its distance from universal time in minutes where given. -/
structure Moment where
  date : Date
  hour : Nat
  minute : Nat
  second : Nat
  microsecond : Nat
  offset : Option Int
  deriving DecidableEq, Repr

namespace Moment

/-- How many microseconds have passed since the first day of the calendar, by universal time where
the distance from it is given and by the clock otherwise. -/
def instant (m : Moment) : Int :=
  let minutes : Int := (m.date.number * 24 + m.hour) * 60 + m.minute
  ((minutes - m.offset.getD 0) * 60 + m.second) * 1000000 + m.microsecond

/-- Moments can be compared when both or neither give their distance from universal time. -/
def isComparable (m n : Moment) : Bool := m.offset.isSome == n.offset.isSome

/-- Whether two moments are the same point in time. -/
def same (m n : Moment) : Bool := m.isComparable n && m.instant == n.instant

/-- The distance from universal time, `+HH:MM`. -/
def offsetText (minutes : Int) : Text :=
  (if minutes < 0 then '-' else '+') ::
    (Text.padded 2 (minutes.natAbs / 60) ++ ':' :: Text.padded 2 (minutes.natAbs % 60))

/-- Date and time with a mark between them. A zero fraction of a second is left out. -/
def text (mark : Char) (m : Moment) : Text :=
  let fraction := if m.microsecond = 0 then [] else '.' :: Text.padded 6 m.microsecond
  m.date.iso ++ mark :: Text.padded 2 m.hour ++ ':' :: Text.padded 2 m.minute ++
    ':' :: Text.padded 2 m.second ++ fraction ++ (m.offset.map offsetText).getD []

/-- The standard form of a moment. -/
def iso (m : Moment) : Text := text 'T' m

/-- A span of minutes as days and seconds, spelled out. -/
def spanText (minutes : Int) : Text :=
  let days := minutes.fdiv 1440
  let seconds := minutes.fmod 1440 * 60
  let dayText := Text.of "days=" ++ Text.ofInt days
  let secondText := Text.of "seconds=" ++ Text.ofInt seconds
  let parts := if days = 0 then (if seconds = 0 then ['0'] else secondText)
    else if seconds = 0 then dayText else dayText ++ Text.of ", " ++ secondText
  Text.of "datetime.timedelta(" ++ parts ++ Text.of ")"

/-- The distance from universal time, spelled out. -/
def zoneText (minutes : Int) : Text :=
  if minutes = 0 then Text.of "datetime.timezone.utc"
  else Text.of "datetime.timezone(" ++ spanText minutes ++ Text.of ")"

/-- A moment spelled out. Seconds are left out when they and the fraction are zero. -/
def spelled (m : Moment) : Text :=
  let numbers := [m.date.year, m.date.month, m.date.day, m.hour, m.minute] ++
    (if m.microsecond ≠ 0 then [m.second, m.microsecond]
     else if m.second ≠ 0 then [m.second] else [])
  let zone := match m.offset with
    | some minutes => Text.of ", tzinfo=" ++ zoneText minutes
    | none => []
  Text.of "datetime.datetime(" ++ Text.join (Text.of ", ") (numbers.map Text.ofNat) ++ zone ++
    Text.of ")"

end Moment

/-- A datum. -/
inductive Datum where
  | null
  | bool (value : Bool)
  | number (value : Number)
  | text (value : Text)
  | bytes (value : List UInt8)
  | date (value : Date)
  | moment (value : Moment)
  | list (items : List Datum)
  | tuple (items : List Datum)
  /-- Distinct data, in the order in which they came. -/
  | set (items : List Datum)
  | map (entries : List (Datum × Datum))
  /-- A cell of a web with the given leaves. -/
  | web (cells : Web) (leaves : List Datum) (start : Nat)
  deriving Repr, Inhabited

namespace Datum

def int (n : Int) : Datum := number (.whole n)

def real (d : Double) : Datum := number (.real d)

/-- The name of the kind of a datum. -/
def kindName : Datum → String
  | null => "NoneType"
  | bool _ => "bool"
  | number (.whole _) => "int"
  | number (.real _) => "float"
  | text _ => "str"
  | bytes _ => "bytes"
  | date _ => "date"
  | moment _ => "datetime"
  | list _ => "list"
  | tuple _ => "tuple"
  | set _ => "set"
  | map _ => "dict"
  | web cells _ start => (cells.cell start).kindName

/-- The name of the kind of a datum where data are compared. -/
def comparedName : Datum → String
  | date _ => "datetime.date"
  | moment _ => "datetime.datetime"
  | other => other.kindName

/-- Whether a datum is neither zero nor empty nor nothing. -/
def isTrue : Datum → Bool
  | null => false
  | bool b => b
  | number n => !n.same (.whole 0)
  | text t => !t.isEmpty
  | bytes b => !b.isEmpty
  | date _ => true
  | moment _ => true
  | list items => !items.isEmpty
  | tuple items => !items.isEmpty
  | set items => !items.isEmpty
  | map entries => !entries.isEmpty
  | web cells _ start => !(cells.cell start).isEmpty

/-- A part of a web. -/
def part (cells : Web) (leaves : List Datum) : Web.Part → Datum
  | .leaf n => leaves.getD n null
  | .cell n => web cells leaves n

/-- A cell of a web as a collection, whose own parts may still be cells; other data are shown as
they are. -/
def opened : Datum → Datum
  | web cells leaves start =>
    match cells.cell start with
    | .list items => list (items.map (part cells leaves))
    | .tuple items => tuple (items.map (part cells leaves))
    | .set items => set (items.map fun item => leaves.getD item null)
    | .map entries =>
      map (entries.map fun (key, value) => (leaves.getD key null, part cells leaves value))
  | other => other

@[simp] theorem opened_null : null.opened = null := rfl

@[simp] theorem opened_list (items : List Datum) : (list items).opened = list items := rfl

@[simp] theorem opened_map (entries : List (Datum × Datum)) : (map entries).opened = map entries :=
  rfl

/-- The number that a datum stands for as a key; truth values count as one and zero. -/
def keyNumber? : Datum → Option Number
  | bool b => some (.whole (if b then 1 else 0))
  | number n => some n
  | _ => none

/-- Whether two data are the same key of a map. -/
def sameKey (a b : Datum) : Bool :=
  match a.keyNumber?, b.keyNumber? with
  | some m, some n => m.same n
  | none, none =>
    match a, b with
    | null, null => true
    | text s, text t => s == t
    | bytes s, bytes t => s == t
    | date d, date e => d == e
    | moment m, moment n => m.same n
    | _, _ => false
  | _, _ => false

/-- An entry with a text for its key. -/
def field (name : String) (value : Datum) : Datum × Datum := (text (Text.of name), value)

/-- The value under a key that is a text. -/
def lookup? (key : String) (entries : List (Datum × Datum)) : Option Datum :=
  (entries.find? fun entry => entry.1.sameKey (text (Text.of key))).map Prod.snd

/-- One octet between quotes. -/
def quoteByte (mark : Char) (b : UInt8) : Text :=
  if 0x7F ≤ b then '\\' :: 'x' :: Text.hexPadded 2 b.toNat
  else Text.quoteChar mark (Char.ofNat b.toNat)

/-- Octets between quotes. -/
def quotedBytes (bytes : List UInt8) : Text :=
  let mark := Text.quoteMark (bytes.map fun b => Char.ofNat b.toNat)
  'b' :: mark :: bytes.flatMap (quoteByte mark) ++ [mark]

/-- Items between commas. -/
def commaJoin (items : List Text) : Text := Text.join (Text.of ", ") items

mutual

/-- The text of a datum inside another one. -/
def quoted : Datum → Text
  | null => Text.of "None"
  | bool b => Text.of (if b then "True" else "False")
  | number n => n.toText
  | text t => Text.quoted t
  | bytes b => quotedBytes b
  | date d => Text.of "datetime.date(" ++ commaJoin ([d.year, d.month, d.day].map Text.ofNat) ++
      Text.of ")"
  | moment m => m.spelled
  | list items => '[' :: commaJoin (quotedAll items) ++ [']']
  | tuple items => '(' :: commaJoin (quotedAll items) ++ [')']
  | set items =>
    if items.isEmpty then Text.of "set()"
    else '\x7b' :: commaJoin (quotedAll items).reverse ++ ['\x7d']
  | map entries => '\x7b' :: commaJoin (quotedEntries entries) ++ ['\x7d']
  | web cells leaves start => cells.text (quotedAll leaves) start

def quotedAll : List Datum → List Text
  | [] => []
  | item :: rest => quoted item :: quotedAll rest

def quotedEntries : List (Datum × Datum) → List Text
  | [] => []
  | (key, value) :: rest => (quoted key ++ Text.of ": " ++ quoted value) :: quotedEntries rest

end

/-- The text of a datum by itself. -/
def plain : Datum → Text
  | text t => t
  | date d => d.iso
  | moment m => m.text ' '
  | other => other.quoted

mutual

/-- Whether a datum holds a whole number with more digits than are written. -/
def isTooLong : Datum → Bool
  | number (.whole n) => digitLimit < (Text.ofNat n.natAbs).length
  | list items => anyTooLong items
  | tuple items => anyTooLong items
  | set items => anyTooLong items
  | map entries => anyEntryTooLong entries
  | web cells leaves start => cells.anyInside (eachTooLong leaves) start
  | _ => false

def anyTooLong : List Datum → Bool
  | [] => false
  | item :: rest => isTooLong item || anyTooLong rest

def anyEntryTooLong : List (Datum × Datum) → Bool
  | [] => false
  | (key, value) :: rest => isTooLong key || isTooLong value || anyEntryTooLong rest

def eachTooLong : List Datum → List Bool
  | [] => []
  | item :: rest => isTooLong item :: eachTooLong rest

end

end Datum
end DreamJournal
