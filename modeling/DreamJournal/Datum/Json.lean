import DreamJournal.Datum

/-!
# Data as JSON

The form in which results are exported and details are logged. A document is laid out in one of
two ways: on one line, or with every item on a line of its own, indented by its depth. A style
also says whether all characters beyond ASCII are escaped. Lists and maps that hold nothing are
written without a break in either layout.

Numbers that are not finite have names of their own, which readers of such documents know.
Everything that has no form of its own is written as a text.
-/
namespace DreamJournal

namespace Json

/-- How a document is written. -/
structure Style where
  /-- How many spaces each level is indented by; none for a document on one line. -/
  indent : Option Nat
  asciiOnly : Bool
  deriving DecidableEq, Repr

/-- The style of details in a log. -/
def logged : Style := ⟨none, true⟩

/-- The style of exported results. -/
def exported (indent : Option Nat) : Style := ⟨indent, false⟩

/-- The control characters with letters of their own. -/
def letters : List (Char × Char) :=
  [('\n', 'n'), ('\r', 'r'), ('\t', 't'), ('\x0c', 'f'), ('\x08', 'b')]

/-- A code unit of sixteen bits by its hexadecimal digits. -/
def unit (n : Nat) : Text := '\\' :: 'u' :: Text.hexPadded 4 n

/-- A character by its code units: one, or two beyond the first 65536 code points. -/
def units (n : Nat) : Text :=
  if n < 0x10000 then unit n
  else unit (0xD800 + (n - 0x10000) / 0x400) ++ unit (0xDC00 + (n - 0x10000) % 0x400)

/-- A character between quotes. -/
def character (asciiOnly : Bool) (c : Char) : Text :=
  if c = '"' || c = '\\' then ['\\', c]
  else
    match letters.find? fun entry => entry.1 = c with
    | some (_, letter) => ['\\', letter]
    | none =>
      if c.toNat < 0x20 || (asciiOnly && 0x7F ≤ c.toNat) then units c.toNat else [c]

/-- A text between quotes. -/
def string (asciiOnly : Bool) (t : Text) : Text :=
  '"' :: t.flatMap (character asciiOnly) ++ ['"']

def number : Number → Text
  | .real .nan => Text.of "NaN"
  | .real (.infinity negative) => Text.of (if negative then "-Infinity" else "Infinity")
  | n => n.toText

/-- The text of a datum as the key of a map. -/
def keyText : Datum → Text
  | .null => Text.of "null"
  | .bool b => Text.of (if b then "true" else "false")
  | .number n => number n
  | other => other.plain

/-- A new line at a depth; nothing in a document on one line. -/
def lineAt (style : Style) (depth : Nat) : Text :=
  match style.indent with
  | some width => '\n' :: List.replicate (width * depth) ' '
  | none => []

/-- What separates the items at a depth. -/
def separator (style : Style) (depth : Nat) : Text :=
  match style.indent with
  | some _ => ',' :: lineAt style depth
  | none => [',', ' ']

/-- Written items between brackets. -/
def enclosed (style : Style) (depth : Nat) (opening closing : Char) (items : List Text) : Text :=
  if items.isEmpty then [opening, closing]
  else
    opening :: lineAt style (depth + 1) ++ Text.join (separator style (depth + 1)) items ++
      lineAt style depth ++ [closing]

end Json

namespace Datum

mutual

/-- The JSON document of a datum at a depth. -/
def jsonAt (style : Json.Style) (depth : Nat) : Datum → Text
  | null => Text.of "null"
  | bool b => Text.of (if b then "true" else "false")
  | number n => Json.number n
  | text t => Json.string style.asciiOnly t
  | list items => Json.enclosed style depth '[' ']' (jsonItems style (depth + 1) items)
  | tuple items => Json.enclosed style depth '[' ']' (jsonItems style (depth + 1) items)
  | map entries =>
    Json.enclosed style depth '\x7b' '\x7d' (jsonEntries style (depth + 1) entries)
  | other => Json.string style.asciiOnly other.plain

def jsonItems (style : Json.Style) (depth : Nat) : List Datum → List Text
  | [] => []
  | item :: rest => jsonAt style depth item :: jsonItems style depth rest

def jsonEntries (style : Json.Style) (depth : Nat) : List (Datum × Datum) → List Text
  | [] => []
  | (key, value) :: rest =>
    (Json.string style.asciiOnly (Json.keyText key) ++ Text.of ": " ++
      jsonAt style depth value) :: jsonEntries style depth rest

end

/-- The JSON document of a datum. -/
def toJson (style : Json.Style) (d : Datum) : Text := jsonAt style 0 d

end Datum
end DreamJournal
