import DreamJournal.Text.Ranges

/-!
# Expansions

A table that gives other characters for single ones. Its entries are written `source>target` in
hexadecimal, the characters of a target with hyphens between them.
-/
namespace DreamJournal.Text

/-- One character that becomes several. -/
structure Expansion where
  source : Nat
  target : Text

/-- One entry `source>target-target` of a table of expansions. -/
def Expansion.read (entry : Text) : Expansion :=
  let (source, target) := (cut? '>' entry).getD (entry, [])
  ⟨hexValue source, (splitOn '-' target).map fun digits => Char.ofNat (hexValue digits)⟩

/-- The entries of a table of expansions, row by row. -/
def Expansion.readAll (table : List String) : List Expansion :=
  table.flatMap fun row => (splitOn ' ' (of row)).map Expansion.read

/-- What a table of expansions makes of a code point that it lists. -/
def Expansion.find? (table : List Expansion) (n : Nat) : Option Text :=
  (table.find? fun entry => entry.source == n).map Expansion.target

end DreamJournal.Text
