import DreamJournal.Callout.Header
import DreamJournal.Callout.Reference

/-!
# Callouts

The callouts of a note form a forest. A callout knows its header, the lines of the note that it
spans and every raw line behind its header, nested callouts included. Its depth counts the
callouts around it, whatever the number of quote markers on its header.

`walk` visits a callout and all that is nested in it, in the order of the note, by recursion on
the tree. `visits` does the same for a forest with an explicit stack, and also hands out the
path from the root; each step takes one callout from the stack, so the number of callouts bounds
the number of steps.
-/
namespace DreamJournal

/-- A callout and the callouts nested in it. -/
structure Callout where
  depth : Nat
  kind : Text
  metadataText : Option Text
  headerLine : Text
  title : Text
  /-- The raw lines behind the header, to the last that is not blank. -/
  body : List Text
  /-- The line of the header, counted from zero. -/
  start : Nat
  /-- The last line that is not blank, counted from zero. -/
  stop : Nat
  children : List Callout
  deriving Repr

namespace Callout

/-- The line of the header, counted from one. -/
def lineNumber (c : Callout) : Nat := c.start + 1

/-- The name under which other notes refer to the callout. -/
def reference? (c : Callout) : Option Text := Reference.name? c.title

/-- A callout spelled out, with its lines counted from one. -/
def spelled (c : Callout) : Text :=
  Text.of "<RawCallout(type=" ++ Text.quoted c.kind ++ Text.of ", depth=" ++ Text.ofNat c.depth ++
    Text.of ", lines=" ++ Text.ofNat c.lineNumber ++ '-' :: Text.ofNat (c.stop + 1) ++
    Text.of ", children=" ++ Text.ofNat c.children.length ++ Text.of ")>"

/-- The metadata behind the kind. -/
def metadata (c : Callout) : Metadata :=
  match c.metadataText with
  | some written => Metadata.ofSuffix written
  | none => []

mutual

/-- A callout and all that is nested in it, in the order of the note. -/
def walk : Callout → List Callout
  | ⟨depth, kind, metadataText, headerLine, title, body, start, stop, children⟩ =>
    ⟨depth, kind, metadataText, headerLine, title, body, start, stop, children⟩ ::
      walkAll children

/-- The callouts of a forest, in the order of the note. -/
def walkAll : List Callout → List Callout
  | [] => []
  | first :: rest => walk first ++ walkAll rest

end

/-- The first callout of a kind that is nested in this one. -/
def findNested? (c : Callout) (kind : Text) : Option Callout :=
  (walkAll c.children).find? fun nested => nested.kind = kind

/-- A callout together with the callouts around it, outermost first. -/
structure Visit where
  callout : Callout
  around : List Callout
  deriving Repr

/-- The callout directly around the visited one. -/
def Visit.parent? (v : Visit) : Option Callout := v.around.getLast?

/-- The nearest callout of a kind around the visited one. -/
def Visit.nearest? (v : Visit) (kind : Text) : Option Callout :=
  v.around.reverse.find? fun outer => outer.kind = kind

/-- Visit what waits on the stack, for at most `fuel` callouts. -/
def visitStack : (fuel : Nat) → (stack : List Visit) → List Visit
  | 0, _ => []
  | _ + 1, [] => []
  | fuel + 1, visit :: waiting =>
    let nested := visit.callout.children.map fun child =>
      (⟨child, visit.around ++ [visit.callout]⟩ : Visit)
    visit :: visitStack fuel (nested ++ waiting)

/-- Every callout of a forest with the callouts around it, in the order of the note. -/
def visits (roots : List Callout) : List Visit :=
  visitStack (walkAll roots).length (roots.map fun root => ⟨root, []⟩)

end Callout
end DreamJournal
