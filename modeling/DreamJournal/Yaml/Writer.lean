import DreamJournal.Datum
import DreamJournal.Yaml.Cursor
import DreamJournal.Yaml.Tag

/-!
# Writing documents

Data are written as blocks: one entry or item on a line, with two columns of indentation for each
level; the items of a list under a key stand in the column of the key. A scalar is written
plainly when it then reads back as itself, else between single quotes, and between double quotes
when it holds characters that only an escape can write, or white space around a break.

Scalars are broken into lines at single spaces behind column 80.
-/
namespace DreamJournal.Yaml.Writer

/-- The column behind which lines are broken. -/
def width : Nat := 80

/-- How many columns one level takes up. -/
def levelColumns : Nat := 2

/-- The characters that end a line in a scalar; a carriage return is written as an escape. -/
def endsLine (c : Char) : Bool := c == '\n' || c == '\x85' || c == '\u2028' || c == '\u2029'

/-- A character that no plain or single quoted scalar can hold. -/
def needsEscape (c : Char) : Bool :=
  let n := c.toNat
  !(c == '\n' || (0x20 ≤ n && n ≤ 0x7E) || n == 0x85 ||
    (0xA0 ≤ n && n ≤ 0xFFFD && n ≠ 0xFEFF) || (0x10000 ≤ n && n < 0x10FFFF))

/-- Whether one character of a class is directly followed by one of another. -/
def anyPair (first second : Char → Bool) : Text → Bool
  | a :: b :: rest => (first a && second b) || anyPair first second (b :: rest)
  | _ => false

/-- Whether a text begins or ends with a character of a class. -/
def atEitherEnd (p : Char → Bool) (t : Text) : Bool :=
  (t.head?.map p).getD false || (t.getLast?.map p).getD false

/-- White space, or the end of the text. -/
def blankOrEnd (c : Option Char) : Bool :=
  match c with
  | none => true
  | some c => c == ' ' || c == '\t' || isBreak c || c == '\x00'

/-- Whether a text has a mark behind its first character that would end a plain scalar: a colon
in front of white space, or a number sign behind it. -/
def hasInnerMark : Text → Bool
  | a :: b :: rest =>
    (b == ':' && blankOrEnd rest.head?) || (b == '#' && blankOrEnd (some a)) ||
      hasInnerMark (b :: rest)
  | _ => false

/-- Whether a text begins with a mark of something other than a plain scalar. -/
def hasLeadingMark (t : Text) : Bool :=
  match t with
  | [] => false
  | c :: rest =>
    (Text.of "#,[]\x7b\x7d&*!|>'\"%@\x60").contains c ||
      ((c == '?' || c == ':' || c == '-') && blankOrEnd rest.head?) ||
      (Text.of "---").isPrefixOf t || (Text.of "...").isPrefixOf t

def isSpace (c : Char) : Bool := c == ' '

/-- Whether a text can stand between single quotes. -/
def canBeQuoted (t : Text) : Bool :=
  !(anyPair endsLine isSpace t || anyPair isSpace endsLine t || t.any needsEscape)

/-- Whether a text can be written plainly and reads back as a text. -/
def canBePlain (t : Text) : Bool :=
  Tag.ofPlain t == .text && canBeQuoted t && !t.any endsLine && !atEitherEnd isSpace t &&
    !hasLeadingMark t && !hasInnerMark t

def pad (columns : Nat) : Text := List.replicate columns ' '

/-- Neighbouring characters in runs: spaces, breaks and others. -/
def runs : Text → List Text
  | [] => []
  | c :: rest =>
    match runs rest with
    | (d :: run) :: more =>
      if (isSpace c == isSpace d) && (endsLine c == endsLine d) then (c :: d :: run) :: more
      else [c] :: (d :: run) :: more
    | _ => [[c]]

/-- A scalar without escapes from a column on, its lines indented. `double` gives what a character
is written as. -/
def foldRuns (indent : Nat) (double : Char → Text) (column : Nat) (first : Bool) :
    List Text → Text
  | [] => []
  | [] :: rest => foldRuns indent double column first rest
  | (c :: run) :: rest =>
    if isSpace c then
      if run.isEmpty && width < column && !first && !rest.isEmpty then
        '\n' :: pad indent ++ foldRuns indent double indent false rest
      else c :: run ++ foldRuns indent double (column + run.length + 1) false rest
    else if endsLine c then
      (if c == '\n' then ['\n'] else []) ++ c :: run ++ pad indent ++
        foldRuns indent double indent false rest
    else
      let written := (c :: run).flatMap double
      written ++ foldRuns indent double (column + written.length) false rest

/-- What stands for a character between single quotes. -/
def doubledQuote (c : Char) : Text := if c == '\'' then ['\'', '\''] else [c]

/-- The characters that have a letter of their own behind a backslash. -/
def escapeLetters : List (Char × Char) :=
  [('\x00', '0'), ('\x07', 'a'), ('\x08', 'b'), ('\t', 't'), ('\n', 'n'), ('\x0b', 'v'),
    ('\x0c', 'f'), ('\r', 'r'), ('\x1b', 'e'), ('"', '"'), ('\\', '\\'), ('\x85', 'N'),
    ('\xa0', '_'), ('\u2028', 'L'), ('\u2029', 'P')]

/-- Whether a character is written as an escape between double quotes. -/
def isEscaped (c : Char) : Bool :=
  let n := c.toNat
  c == '"' || c == '\\' || n == 0x2028 || n == 0x2029 || n == 0xFEFF ||
    !((0x20 ≤ n && n ≤ 0x7E) || (0xA0 ≤ n && n ≤ 0xFFFD))

def upperHex (digits n : Nat) : Text := (Text.hexPadded digits n).map Char.toUpper

/-- The escape for a character. -/
def escape (c : Char) : Text :=
  match escapeLetters.find? fun entry => entry.1 = c with
  | some (_, letter) => ['\\', letter]
  | none =>
    let n := c.toNat
    if n ≤ 0xFF then '\\' :: 'x' :: upperHex 2 n
    else if n ≤ 0xFFFF then '\\' :: 'u' :: upperHex 4 n
    else '\\' :: 'U' :: upperHex 8 n

/-- A scalar with escapes from a column on. `held` is what is not yet written of it, in reverse.
A line that is broken ends with a backslash, and a space that begins one has a backslash too. -/
def foldEscaped (indent column : Nat) (held : Text) (first : Bool) : Text → Text
  | [] => held.reverse
  | c :: rest =>
    let inside := !first && !rest.isEmpty
    let broken (space : Bool) : Text := '\\' :: '\n' :: pad indent ++ (if space then ['\\'] else [])
    let columnAfter (space : Bool) : Nat := if space then indent + 1 else indent
    if isEscaped c then
      let written := held.reverse ++ escape c
      let column := column + written.length
      if inside && width + 1 < column then
        let space := rest.head? == some ' '
        written ++ broken space ++ foldEscaped indent (columnAfter space) [] false rest
      else written ++ foldEscaped indent column [] false rest
    else if inside && (c == ' ' || held.isEmpty) && width < column + held.length then
      let space := c == ' '
      held.reverse ++ broken space ++ foldEscaped indent (columnAfter space) [c] false rest
    else foldEscaped indent column (c :: held) false rest

/-- A text as a scalar from a column on. -/
def textScalar (indent column : Nat) (t : Text) : Text :=
  if canBePlain t then foldRuns indent (fun c => [c]) column true (runs t)
  else if canBeQuoted t then
    '\'' :: foldRuns indent doubledQuote (column + 1) true (runs t) ++ ['\'']
  else '"' :: foldEscaped indent (column + 1) [] true t ++ ['"']

/-- A number of double precision. It always has a point. -/
def realScalar (d : Double) : Text :=
  match d with
  | .nan => Text.of ".nan"
  | .infinity negative => Text.of (if negative then "-.inf" else ".inf")
  | _ =>
    let t := d.toText
    match Text.cut? 'e' t with
    | some (digits, power) => if t.contains '.' then t else digits ++ Text.of ".0e" ++ power
    | none => t

/-- A datum that holds no other, from a column on. -/
def scalar (indent column : Nat) (d : Datum) : Text :=
  match d with
  | .null => Text.of "null"
  | .bool b => Text.of (if b then "true" else "false")
  | .number (.whole n) => Text.ofInt n
  | .number (.real d) => realScalar d
  | other => textScalar indent column other.plain

def joinAt (indent : Nat) (lines : List Text) : Text := Text.join ('\n' :: pad indent) lines

mutual

/-- What follows a key and its colon. -/
def afterKey (indent column : Nat) : Datum → Text
  | .list [] => Text.of " []"
  | .list (item :: rest) => '\n' :: pad indent ++ joinAt indent (items indent (item :: rest))
  | .map [] => Text.of " \x7b\x7d"
  | .map (entry :: rest) =>
    let inner := indent + levelColumns
    '\n' :: pad inner ++ joinAt inner (entries inner (entry :: rest))
  | other => ' ' :: scalar (indent + levelColumns) (column + 1) other

/-- What follows the hyphen of an item. -/
def afterHyphen (indent : Nat) : Datum → Text
  | .list [] => Text.of " []"
  | .list (item :: rest) =>
    ' ' :: joinAt (indent + levelColumns) (items (indent + levelColumns) (item :: rest))
  | .map [] => Text.of " \x7b\x7d"
  | .map (entry :: rest) =>
    ' ' :: joinAt (indent + levelColumns) (entries (indent + levelColumns) (entry :: rest))
  | other => ' ' :: scalar (indent + levelColumns) (indent + 2) other

/-- The items of a list, each with its hyphen. -/
def items (indent : Nat) : List Datum → List Text
  | [] => []
  | item :: rest => ('-' :: afterHyphen indent item) :: items indent rest

/-- The entries of a map. -/
def entries (indent : Nat) : List (Datum × Datum) → List Text
  | [] => []
  | (key, value) :: rest =>
    let name := scalar indent indent key
    (name ++ ':' :: afterKey indent (indent + name.length + 1) value) :: entries indent rest

end

end DreamJournal.Yaml.Writer

namespace DreamJournal.Yaml

/-- The document that holds the entries of a map. -/
def write (entries : List (Datum × Datum)) : Text :=
  Text.joinLines (Writer.entries 0 entries) ++ ['\n']

end DreamJournal.Yaml
