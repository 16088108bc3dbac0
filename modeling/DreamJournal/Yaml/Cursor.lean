import DreamJournal.Text.Basic

/-!
# Places in a document

A cursor is a place in a document: the text from there on, and where the place is, both as a
count of characters and as a line and a column. Indentation is a matter of columns, so all
reading moves cursors and never bare texts.
-/
namespace DreamJournal.Yaml

/-- A place in a document. -/
structure Cursor where
  rest : Text
  index : Nat
  line : Nat
  column : Nat
  deriving Repr

/-- A character that ends a line of a document. -/
def isBreak (c : Char) : Bool :=
  c == '\n' || c == '\r' || c == '\x85' || c == '\u2028' || c == '\u2029'

/-- A character that a document may hold. -/
def isPrintable (c : Char) : Bool :=
  let n := c.toNat
  n == 0x09 || n == 0x0A || n == 0x0D || (0x20 ≤ n && n ≤ 0x7E) || n == 0x85 ||
    (0xA0 ≤ n && n ≤ 0xD7FF) || (0xE000 ≤ n && n ≤ 0xFFFD) || 0x10000 ≤ n

namespace Cursor

/-- The beginning of a document. -/
def start (t : Text) : Cursor := ⟨t, 0, 0, 0⟩

def peek? (c : Cursor) : Option Char := c.rest.head?

/-- The character that follows after some others. -/
def peekAt? (c : Cursor) (n : Nat) : Option Char := c.rest[n]?

/-- Whether the next character is the given one. -/
def sees (c : Cursor) (wanted : Char) : Bool := c.rest.head? == some wanted

/-- Whether a line ends after some characters, or the document does. -/
def lineEndsAt (c : Cursor) (n : Nat) : Bool := ((c.peekAt? n).map isBreak).getD true

/-- Whether a line ends or a space follows after some characters. -/
def spaceAt (c : Cursor) (n : Nat) : Bool := c.lineEndsAt n || c.peekAt? n == some ' '

/-- Whether a line ends, or a space or a tab follows after some characters. -/
def blankAt (c : Cursor) (n : Nat) : Bool := c.spaceAt n || c.peekAt? n == some '\t'

/-- One character on. A byte order mark takes no column, and the two characters that end a line
together end one line. -/
def step (c : Cursor) : Cursor :=
  match c.rest with
  | [] => c
  | first :: rest =>
    if isBreak first && !(first == '\r' && rest.head? == some '\n') then
      ⟨rest, c.index + 1, c.line + 1, 0⟩
    else if first == '\uFEFF' then ⟨rest, c.index + 1, c.line, c.column⟩
    else ⟨rest, c.index + 1, c.line, c.column + 1⟩

/-- Some characters on. -/
def skip : Nat → Cursor → Cursor
  | 0, c => c
  | n + 1, c => skip n c.step

/-- The longest run of characters of a class, and the place behind it. -/
def takeWhile (c : Cursor) (p : Char → Bool) : Text × Cursor :=
  let run := c.rest.takeWhile p
  (run, c.skip run.length)

def skipWhile (c : Cursor) (p : Char → Bool) : Cursor := (c.takeWhile p).2

def skipSpaces (c : Cursor) : Cursor := c.skipWhile (· == ' ')

/-- A comment up to the end of its line. -/
def skipComment (c : Cursor) : Cursor :=
  if c.sees '#' then c.skipWhile fun ch => !isBreak ch else c

/-- The break at a place as it counts in a scalar, and the place behind it. All breaks but the
separators of lines and paragraphs count as line feeds. -/
def break? (c : Cursor) : Option (Char × Cursor) :=
  match c.rest with
  | '\r' :: '\n' :: _ => some ('\n', c.skip 2)
  | first :: _ =>
    if first == '\u2028' || first == '\u2029' then some (first, c.step)
    else if isBreak first then some ('\n', c.step)
    else none
  | [] => none

/-- Whether a line begins with the mark of the begin or the end of a document. -/
def seesMark (c : Cursor) (mark : Char) : Bool :=
  [mark, mark, mark].isPrefixOf c.rest && c.blankAt 3

def seesDocumentMark (c : Cursor) : Bool := c.seesMark '-' || c.seesMark '.'

end Cursor
end DreamJournal.Yaml
