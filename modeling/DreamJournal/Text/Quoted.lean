import DreamJournal.Text.Classes

/-!
# Quoted texts

The form in which messages show a text that came from a note. The text stands between single
quotes, or between double quotes when it holds a single quote and no double quote. The quote and
the backslash are escaped, the three common controls have letters, and every other character
that cannot be shown is written by its code point in two, four or eight hexadecimal digits.
-/
namespace DreamJournal.Text

/-- The quote that a text is shown in. -/
def quoteMark (t : Text) : Char := if t.contains '\'' && !t.contains '"' then '"' else '\''

/-- A code point written in the shortest of the three lengths. -/
def codeEscape (n : Nat) : Text :=
  if n ≤ 0xFF then '\\' :: 'x' :: hexPadded 2 n
  else if n ≤ 0xFFFF then '\\' :: 'u' :: hexPadded 4 n
  else '\\' :: 'U' :: hexPadded 8 n

/-- One character between the given quotes. -/
def quoteChar (mark c : Char) : Text :=
  if c = mark || c = '\\' then ['\\', c]
  else if c = '\t' then ['\\', 't']
  else if c = '\n' then ['\\', 'n']
  else if c = '\r' then ['\\', 'r']
  else if isShown c then [c]
  else codeEscape c.toNat

/-- A text as messages show it. -/
def quoted (t : Text) : Text :=
  let mark := quoteMark t
  mark :: t.flatMap (quoteChar mark) ++ [mark]

end DreamJournal.Text
