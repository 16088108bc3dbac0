import DreamJournal.Text.Basic

/-!
# Tags

A tag says what kind of value a node has. A scalar that is written plainly and has no tag gets
one from its text. The forms of the kinds exclude each other, but for numbers in groups of sixty,
where a point makes the difference.
-/
namespace DreamJournal.Yaml

inductive Tag where
  | null
  | bool
  | int
  | float
  | binary
  | timestamp
  | orderedMap
  | pairs
  | set
  | text
  | sequence
  | mapping
  /-- The key under which a mapping takes over the entries of others. -/
  | merge
  /-- The key under which a mapping stands for a scalar. -/
  | default
  | unknown
  deriving DecidableEq, Repr, Inhabited

namespace Tag

/-- What the names of the known tags begin with. -/
def known : Text := Text.of "tag:yaml.org,2002:"

def names : List (String × Tag) :=
  [("null", null), ("bool", bool), ("int", int), ("float", float), ("binary", binary),
    ("timestamp", timestamp), ("omap", orderedMap), ("pairs", pairs), ("set", set), ("str", text),
    ("seq", sequence), ("map", mapping), ("merge", merge), ("value", default)]

/-- The tag with a full name. -/
def ofName (name : Text) : Tag :=
  match Text.after? known name with
  | some short => ((names.find? fun entry => Text.of entry.1 = short).map Prod.snd).getD unknown
  | none => unknown

/-- Whether a node with the tag holds other nodes. -/
def isCollection : Tag → Bool
  | orderedMap | pairs | set | sequence | mapping => true
  | _ => false

def flagWords : List String :=
  ["yes", "Yes", "YES", "no", "No", "NO", "true", "True", "TRUE", "false", "False", "FALSE",
    "on", "On", "ON", "off", "Off", "OFF"]

def nullWords : List String := ["", "~", "null", "Null", "NULL"]

def isDigit (c : Char) : Bool := c.isDigit

def isDigitOrGap (c : Char) : Bool := c.isDigit || c == '_'

/-- What follows an optional sign. -/
def unsigned (t : Text) : Text :=
  match t with
  | '+' :: rest | '-' :: rest => rest
  | _ => t

/-- Digits with underscores behind the first of them. -/
def isDigits (t : Text) : Bool :=
  match t with
  | [] => false
  | c :: rest => c.isDigit && rest.all isDigitOrGap

/-- One digit, or two of which the first is at most five. -/
def isSixty (t : Text) : Bool :=
  match t with
  | [a] => a.isDigit
  | [a, b] => '0' ≤ a && a ≤ '5' && b.isDigit
  | _ => false

/-- Two or more groups of digits between colons, all but the first of them below sixty. -/
def isGroups (t : Text) : Bool :=
  match Text.splitOn ':' t with
  | first :: second :: rest => isDigits first && (second :: rest).all isSixty
  | _ => false

/-- A whole number: in base two, eight, sixteen or ten, or in groups of sixty. -/
def isInt (t : Text) : Bool :=
  match unsigned t with
  | ['0'] => true
  | '0' :: 'b' :: rest => !rest.isEmpty && rest.all fun c => c == '0' || c == '1' || c == '_'
  | '0' :: 'x' :: rest => !rest.isEmpty && rest.all fun c => (Text.hexDigit? c).isSome || c == '_'
  | '0' :: rest => !rest.isEmpty && rest.all fun c => ('0' ≤ c && c ≤ '7') || c == '_'
  | digits => isDigits digits || isGroups digits

/-- An exponent with its sign, or nothing. -/
def isExponent (t : Text) : Bool :=
  match t with
  | [] => true
  | mark :: sign :: digits =>
    (mark == 'e' || mark == 'E') && (sign == '+' || sign == '-') && !digits.isEmpty &&
      digits.all isDigit
  | _ => false

/-- Digits and underscores and then an exponent. -/
def isFraction (t : Text) : Bool := isExponent (t.dropWhile isDigitOrGap)

/-- A number with a point, or one that is not finite. -/
def isFloat (t : Text) : Bool :=
  let size := unsigned t
  let unsignedForm := match t with
    | '.' :: d :: rest => d.isDigit && isFraction rest
    | _ => false
  let signedForm := match Text.cut? '.' size with
    | some (whole, part) =>
      (isDigits whole && isFraction part) || (isGroups whole && part.all isDigitOrGap)
    | none => false
  unsignedForm || signedForm || [".inf", ".Inf", ".INF"].any (fun word => Text.of word = size) ||
    [".nan", ".NaN", ".NAN"].any (fun word => Text.of word = t)

/-- The parts of the text of a point in time. -/
structure TimeParts where
  year : Text
  month : Text
  day : Text
  /-- Hour, minute, second and the digits behind the point. -/
  time : Option (Text × Text × Text × Text)
  /-- Sign, hours and minutes of the distance from universal time. -/
  zone : Option (Char × Text × Text)
  deriving Repr

/-- One or two digits at the start of a text, as many as there are, and what follows. -/
def oneOrTwo? (t : Text) : Option (Text × Text) :=
  match t with
  | a :: b :: rest =>
    if a.isDigit then (if b.isDigit then some ([a, b], rest) else some ([a], b :: rest)) else none
  | [a] => if a.isDigit then some ([a], []) else none
  | [] => none

/-- Two digits behind a colon, and what follows. -/
def colonTwo? (t : Text) : Option (Text × Text) :=
  match t with
  | ':' :: a :: b :: rest => if a.isDigit && b.isDigit then some ([a, b], rest) else none
  | _ => none

/-- The distance from universal time; nothing else may follow. -/
def zone? (t : Text) : Option (Option (Char × Text × Text)) :=
  if t.isEmpty then some none
  else
    match t.dropWhile Text.isGap with
    | ['Z'] => some (some ('+', ['0'], []))
    | '+' :: rest => signed '+' rest
    | '-' :: rest => signed '-' rest
    | _ => none
where
  signed (sign : Char) (t : Text) : Option (Option (Char × Text × Text)) := do
    let (hours, rest) ← oneOrTwo? t
    match rest with
    | [] => some (some (sign, hours, []))
    | rest =>
      let (minutes, after) ← colonTwo? rest
      if after.isEmpty then some (some (sign, hours, minutes)) else none

/-- The time of day behind a date, and the distance from universal time. -/
def time? (t : Text) : Option ((Text × Text × Text × Text) × Option (Char × Text × Text)) := do
  let t ← match t with
    | 'T' :: rest | 't' :: rest => some rest
    | c :: rest => if Text.isGap c then some (rest.dropWhile Text.isGap) else none
    | [] => none
  let (hour, t) ← oneOrTwo? t
  let (minute, t) ← colonTwo? t
  let (second, t) ← colonTwo? t
  let (fraction, t) := match t with
    | '.' :: rest => (rest.takeWhile isDigit, rest.dropWhile isDigit)
    | _ => ([], t)
  some ((hour, minute, second, fraction), ← zone? t)

/-- The parts of a text with the form of a point in time. -/
def timeParts? (t : Text) : Option TimeParts := do
  let year := t.take 4
  if year.length ≠ 4 || !year.all isDigit then none
  match t.drop 4 with
  | '-' :: rest =>
    let (month, rest) ← oneOrTwo? rest
    match rest with
    | '-' :: rest =>
      let (day, rest) ← oneOrTwo? rest
      if rest.isEmpty then some ⟨year, month, day, none, none⟩
      else
        let (time, zone) ← time? rest
        some ⟨year, month, day, some time, zone⟩
    | _ => none
  | _ => none

/-- A date with all its digits, or a date with a time of day. -/
def isTimestamp (t : Text) : Bool :=
  match timeParts? t with
  | some parts => parts.time.isSome || (parts.month.length = 2 && parts.day.length = 2)
  | none => false

/-- The tag of a scalar that is written plainly. -/
def ofPlain (t : Text) : Tag :=
  if flagWords.any fun word => Text.of word = t then bool
  else if nullWords.any fun word => Text.of word = t then null
  else if isFloat t then float
  else if isInt t then int
  else if isTimestamp t then timestamp
  else if t = Text.of "<<" then merge
  else if t = ['='] then default
  else if t = ['!'] || t = ['&'] || t = ['*'] then unknown
  else text

end Tag
end DreamJournal.Yaml
