import DreamJournal.Settings.Fault

/-!
# Reading settings values

In a file that is written by hand the same value comes in several shapes: a flag as a truth
value, as zero or one or as a word, a number with or without quotes. Each reader accepts the
shapes that can only mean one thing and refuses all others.
-/
namespace DreamJournal.Datum

/-- The text of a datum inside a message. -/
def shown (d : Datum) : Except SettingsFault Text :=
  if d.isTooLong then .error .numberTooLong else .ok d.quoted

/-- The text that a datum stands for. -/
def written (d : Datum) : Except SettingsFault Text :=
  if d.isTooLong then .error .numberTooLong else .ok d.plain

/-- A callout name in the form of the kinds of callouts: lower case, with hyphens between words. -/
def calloutName (name : Text) : Text := Text.join ['-'] (Text.words (Text.lower (Text.trim name)))

def toCalloutName (d : Datum) : Except SettingsFault Text :=
  match d with
  | text name =>
    if Text.isAllBlank name then .error (.badCalloutName (Text.quoted name))
    else .ok (calloutName name)
  | other => do .error (.badCalloutName (← other.shown))

def flagWords : List (String × Bool) :=
  [("true", true), ("1", true), ("yes", true), ("on", true),
    ("false", false), ("0", false), ("no", false), ("off", false)]

/-- The flag that a datum means; nothing means none. -/
def toFlag? (d : Datum) : Except SettingsFault (Option Bool) :=
  match d with
  | null => .ok none
  | bool b => .ok (some b)
  | number n =>
    if n.same (.whole 0) then .ok (some false)
    else if n.same (.whole 1) then .ok (some true)
    else do .error (.numberAsFlag (← d.written))
  | text t =>
    match flagWords.find? fun entry => Text.of entry.1 = Text.lower t with
    | some (_, flag) => .ok (some flag)
    | none => .error (.textAsFlag t)
  | other => .ok (some other.isTrue)

/-- The number that octets spell. -/
def numberOfBytes? (octets : List UInt8) : Option Double :=
  if octets.all fun octet => octet < 0x80 then
    Double.ofText? (octets.map fun octet => Char.ofNat octet.toNat)
  else none

/-- The number that a datum means; nothing means none. -/
def toDouble? (d : Datum) : Except SettingsFault (Option Double) :=
  match d with
  | null => .ok none
  | bool b => .error (.flagAsNumber (bool b).plain)
  | number n =>
    match n.toDouble? with
    | some d => .ok (some d)
    | none => .error .numberTooLarge
  | text t =>
    match Double.ofText? t with
    | some d => .ok (some d)
    | none => .error (.notANumber (Text.quoted t))
  | bytes octets =>
    match numberOfBytes? octets with
    | some d => .ok (some d)
    | none => .error (.notANumber (bytes octets).quoted)
  | other => do .error (.notANumber (← other.shown))

/-- The count that a datum means; nothing means none. Counts are read in double precision. -/
def toCount? (d : Datum) : Except SettingsFault (Option Nat) := do
  match ← d.toDouble? with
  | none => .ok none
  | some .nan => .error .indefiniteCount
  | some (.infinity _) => .error .infiniteCount
  | some value =>
    match value.toInt? with
    | some (.ofNat n) => .ok (some n)
    | _ => .error (.notACount (← d.shown))

/-- All of some fields must be there and hold something. -/
def requireFields (entries : List (Datum × Datum)) : List Text → Except SettingsFault Unit
  | [] => .ok ()
  | field :: rest =>
    match (entries.find? fun entry => entry.1.sameKey (text field)).map Prod.snd with
    | none | some null | some (text []) => .error (.missingField field)
    | some _ => requireFields entries rest

end DreamJournal.Datum
