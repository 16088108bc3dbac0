import DreamJournal.Text.Basic

/-!
# Paths

A path is its components, behind a root when it does not start from the working directory. Empty
components and single dots say nothing and are dropped when a path is read; two dots are kept,
as what they lead to depends on the folders. A path with no component at all is written as a
single dot.
-/
namespace DreamJournal

/-- A path to a file or folder. -/
structure Path where
  /-- The slashes in front: none, one, or exactly two, which are a root of their own. -/
  root : Text
  parts : List Text
  deriving DecidableEq, Repr

namespace Path

/-- The root of a text. More than two slashes count as one. -/
def rootOf (t : Text) : Text :=
  match t with
  | '/' :: '/' :: '/' :: _ => ['/']
  | '/' :: '/' :: _ => ['/', '/']
  | '/' :: _ => ['/']
  | _ => []

/-- Whether a component leads anywhere. -/
def isPart (part : Text) : Bool := !part.isEmpty && part != ['.']

/-- The path that a text spells. -/
def ofText (t : Text) : Path := ⟨rootOf t, (Text.splitOn '/' t).filter isPart⟩

/-- The text of a path. -/
def toText (p : Path) : Text :=
  if p.root.isEmpty && p.parts.isEmpty then ['.'] else p.root ++ Text.join ['/'] p.parts

/-- The path without its last component. -/
def parent (p : Path) : Path := { p with parts := p.parts.dropLast }

/-- A path continued by components. -/
def append (p : Path) (parts : List Text) : Path := { p with parts := p.parts ++ parts }

/-- The paths of all folders that a path leads through, its own parent last. -/
def ancestors (p : Path) : List Path :=
  (List.range p.parts.length).map fun count => { p with parts := p.parts.take count }

/-- The order of components, one after the other. -/
def partsLe : List Text → List Text → Bool
  | [], _ => true
  | _ :: _, [] => false
  | a :: s, b :: t => if a = b then partsLe s t else Text.le a b

end Path
end DreamJournal
