import DreamJournal.Text.Basic

/-!
# Ranges of code points

A class of characters is a list of closed ranges of code points. The ranges are written the way
the character database writes them, in hexadecimal with a hyphen between the ends, and are read
once when the library is loaded.
-/
namespace DreamJournal.Text

/-- The code points from `first` to `last`, both included. -/
structure CodeRange where
  first : Nat
  last : Nat

namespace CodeRange

def contains (range : CodeRange) (n : Nat) : Bool := range.first ≤ n && n ≤ range.last

/-- One entry, `first-last` or a single code point. -/
def read (entry : Text) : CodeRange :=
  match cut? '-' entry with
  | some (first, last) => ⟨hexValue first, hexValue last⟩
  | none => ⟨hexValue entry, hexValue entry⟩

/-- The entries of a table, row by row, separated by spaces. -/
def readAll (table : List String) : List CodeRange :=
  table.flatMap fun row => (splitOn ' ' (of row)).map read

/-- The range that holds a code point. -/
def find? (ranges : List CodeRange) (n : Nat) : Option CodeRange :=
  ranges.find? fun range => range.contains n

/-- Whether some range holds a code point. -/
def anyContains (ranges : List CodeRange) (n : Nat) : Bool :=
  ranges.any fun range => range.contains n

end CodeRange
end DreamJournal.Text
