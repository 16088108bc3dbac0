import DreamJournal.Text.Basic

/-!
# Collections that hold themselves

A collection may be named and then stand inside itself, directly or through others. Such
collections are no tree: they are the cells of a web, which have numbers, and a part of a cell is a
leaf or a cell, by its number. What the leaves are does not matter here.

A collection is written with all that it holds, but one that stands inside itself is cut off there:
three dots are left of it.
-/
namespace DreamJournal

namespace Web

/-- What a cell holds. -/
inductive Part where
  | leaf (n : Nat)
  | cell (n : Nat)
  deriving DecidableEq, Repr, Inhabited

/-- A collection. The items of a set and the keys of a map are leaves. -/
inductive Cell where
  | list (items : List Part)
  | tuple (items : List Part)
  | set (items : List Nat)
  | map (entries : List (Nat × Part))
  deriving DecidableEq, Repr, Inhabited

namespace Cell

def kindName : Cell → String
  | list _ => "list"
  | tuple _ => "tuple"
  | set _ => "set"
  | map _ => "dict"

def isEmpty : Cell → Bool
  | list items => items.isEmpty
  | tuple items => items.isEmpty
  | set items => items.isEmpty
  | map entries => entries.isEmpty

/-- All that a cell holds. -/
def parts : Cell → List Part
  | list items => items
  | tuple items => items
  | set items => items.map .leaf
  | map entries => entries.flatMap fun (key, value) => [.leaf key, value]

/-- The items of a list or tuple. -/
def items : Cell → List Part
  | list items => items
  | tuple items => items
  | set _ => []
  | map _ => []

end Cell

end Web

/-- Cells with the numbers of their places. -/
structure Web where
  cells : List Web.Cell
  deriving DecidableEq, Repr, Inhabited

namespace Web

/-- The cell with a number; an empty list beyond the last one. -/
def cell (web : Web) (n : Nat) : Cell := web.cells.getD n (.list [])

/-- The text of a part inside some cells. A cell is added to these once, so as much fuel as there
are cells is never used up. -/
def textInside (web : Web) (leaves : List Text) :
    (fuel : Nat) → (around : List Nat) → Part → Text
  | _, _, .leaf n => leaves.getD n []
  | 0, _, .cell _ => []
  | fuel + 1, around, .cell n =>
    let inside : Part → Text := textInside web leaves fuel (n :: around)
    let written (texts : List Text) : Text :=
      if around.contains n then Text.of "..." else Text.join (Text.of ", ") texts
    match web.cell n with
    | .list items => '[' :: written (items.map inside) ++ [']']
    | .tuple items => '(' :: written (items.map inside) ++ [')']
    | .set items =>
      if items.isEmpty then Text.of "set()"
      else '\x7b' :: written (items.map fun item => leaves.getD item []).reverse ++ ['\x7d']
    | .map entries =>
      '\x7b' :: written (entries.map fun (key, value) =>
        leaves.getD key [] ++ Text.of ": " ++ inside value) ++ ['\x7d']

/-- The text of a cell whose leaves have the given texts. -/
def text (web : Web) (leaves : List Text) (start : Nat) : Text :=
  web.textInside leaves (web.cells.length + 1) [] (.cell start)

/-- Whether a part is a marked leaf, or a cell known to hold one. -/
def Part.isMarked (leaves known : List Bool) : Part → Bool
  | .leaf n => leaves.getD n false
  | .cell n => known.getD n false

/-- For each cell, whether a marked leaf is at most so many steps away from it. -/
def marked (web : Web) (leaves : List Bool) : (steps : Nat) → List Bool
  | 0 => []
  | steps + 1 =>
    let known := web.marked leaves steps
    web.cells.map fun cell => cell.parts.any (Part.isMarked leaves known)

/-- Whether a marked leaf is anywhere in a cell. No way to one need be longer than there are
cells. -/
def anyInside (web : Web) (leaves : List Bool) (start : Nat) : Bool :=
  (web.marked leaves web.cells.length).getD start false

end Web
end DreamJournal
