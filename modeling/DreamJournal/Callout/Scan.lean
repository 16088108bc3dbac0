import DreamJournal.Callout.Basic
import DreamJournal.Diagnostic

/-!
# Scanning a note

The scanner reads a note line by line and keeps the callouts that are still open, innermost
first. A header closes every open callout with at least as many markers and opens a new one
inside what remains. Any other quoted line closes the callouts with more markers than it has and
belongs to the rest. A line that is neither quoted nor blank closes everything. A blank line
belongs to all open callouts for the time being; when a callout is closed, the blank lines
behind its last line with content are dropped again.

Since a header closes whatever has as many markers, the marker counts of the open callouts grow
strictly from the outermost to the innermost, and closing from the innermost outward is enough.

A note is never refused. A header that skips levels is nested one level below the callout around
it, and a line that begins like a tag but is none is text; both give a warning.
-/
namespace DreamJournal

/-- What the scanner warns about. -/
inductive ScanWarning where
  /-- A header has more than one marker more than the callout around it. -/
  | skipsLevels (kind : Text) (outer markers depth : Nat)
  /-- A header outside any callout has more than one marker. -/
  | startsDeep (kind : Text) (markers : Nat)
  /-- A quoted line begins like a tag and is no header. -/
  | malformedTag (line : Text)
  deriving DecidableEq, Repr

/-- The words of a warning. -/
def ScanWarning.message : ScanWarning → Text
  | skipsLevels kind outer markers depth =>
    Text.of "Callout [!" ++ kind ++ Text.of "] skips quote levels (" ++ Text.ofNat outer ++
      Text.of " -> " ++ Text.ofNat markers ++ Text.of "); nested at depth " ++ Text.ofNat depth
  | startsDeep kind markers =>
    Text.of "Callout [!" ++ kind ++ Text.of "] opens at quote depth " ++ Text.ofNat markers ++
      Text.of " without an enclosing callout; treated as top-level"
  | malformedTag line =>
    Text.of "Malformed callout tag treated as text: " ++ Text.quoted (Text.trim line)

namespace Scan

/-- A callout that is still open. -/
structure Open where
  header : Header
  headerLine : Text
  depth : Nat
  start : Nat
  stop : Nat
  /-- The lines behind the header so far, latest first. -/
  body : List Text
  /-- The nested callouts that are closed, latest first. -/
  children : List Callout

/-- The finished callout. Blank lines behind the last line with content are dropped. -/
def Open.close (o : Open) : Callout where
  depth := o.depth
  kind := o.header.kind
  metadataText := o.header.metadata
  headerLine := o.headerLine
  title := o.header.title
  body := o.body.reverse.take (o.stop - o.start)
  start := o.start
  stop := o.stop
  children := o.children.reverse

/-- Let an open callout take a line with content. -/
def Open.takeLine (number : Nat) (line : Text) (o : Open) : Open :=
  { o with body := line :: o.body, stop := number }

/-- Let an open callout hold a blank line. -/
def Open.holdBlank (line : Text) (o : Open) : Open := { o with body := line :: o.body }

/-- How far a scan has come. -/
structure State where
  /-- The open callouts, innermost first. -/
  stack : List Open
  /-- The closed callouts outside any other, latest first. -/
  roots : List Callout
  /-- The warnings with their lines, counted from one, latest first. -/
  warnings : List (Nat × ScanWarning)

def State.initial : State := ⟨[], [], []⟩

/-- Close the innermost callouts while they have more markers than a limit, handing each to the
callout around it, or to the roots. -/
def closeDeeper (limit : Nat) : List Open → List Callout → List Open × List Callout
  | [], roots => ([], roots)
  | inner :: outer, roots =>
    if limit < inner.header.markers then
      match outer with
      | [] => ([], inner.close :: roots)
      | around :: rest =>
        closeDeeper limit ({ around with children := inner.close :: around.children } :: rest) roots
    else (inner :: outer, roots)
  termination_by stack => stack.length

/-- Close the callouts with more markers than a limit. -/
def State.closeTo (limit : Nat) (s : State) : State :=
  let (stack, roots) := closeDeeper limit s.stack s.roots
  { s with stack, roots }

def State.warn (number : Nat) (warning : ScanWarning) (s : State) : State :=
  { s with warnings := (number + 1, warning) :: s.warnings }

/-- What is to be said of a header below the callouts that remain open. -/
def placement? (stack : List Open) (header : Header) : Option ScanWarning :=
  match stack with
  | [] => if 1 < header.markers then some (.startsDeep header.kind header.markers) else none
  | around :: _ =>
    if around.header.markers + 1 < header.markers then
      some (.skipsLevels header.kind around.header.markers header.markers (around.depth + 1))
    else none

/-- Open the callout of a header. The header line belongs to the callouts around it. -/
def State.openCallout (number : Nat) (line : Text) (header : Header) (s : State) : State :=
  let s := s.closeTo (header.markers - 1)
  let s := match placement? s.stack header with
    | some warning => s.warn number warning
    | none => s
  let depth := match s.stack with
    | [] => 1
    | around :: _ => around.depth + 1
  { s with stack := ⟨header, line, depth, number, number, [], []⟩ ::
             s.stack.map (Open.takeLine number line) }

/-- Read one line. -/
def step (s : State) (number : Nat) (line : Text) : State :=
  if Text.isAllBlank line then { s with stack := s.stack.map (Open.holdBlank line) }
  else if Marker.count line = 0 then s.closeTo 0
  else
    match Header.ofLine? line with
    | some header => s.openCallout number line header
    | none =>
      let s := if Header.looksLikeTag (Marker.strip line) then s.warn number (.malformedTag line)
        else s
      let s := s.closeTo (Marker.count line)
      { s with stack := s.stack.map (Open.takeLine number line) }

/-- Read the lines from one on. -/
def run (s : State) (number : Nat) : List Text → State
  | [] => s
  | line :: rest => run (step s number line) (number + 1) rest

end Scan

/-- The callouts of a note and the warnings about its structure. -/
structure Scan where
  roots : List Callout
  /-- The warnings with their lines, counted from one, in order. -/
  warnings : List (Nat × ScanWarning)

/-- Scan the lines of a note. -/
def Scan.ofLines (lines : List Text) : Scan :=
  let s := (Scan.run .initial 0 lines).closeTo 0
  ⟨s.roots.reverse, s.warnings.reverse⟩

/-- Scan a note. -/
def Scan.ofText (note : Text) : Scan := Scan.ofLines (Text.lines note)

/-- The warnings of a scan as diagnostics of the note. -/
def Scan.diagnostics (scan : Scan) (source : Text) : List Diagnostic :=
  scan.warnings.map fun (line, warning) =>
    ⟨source, .structuralWarning, warning.message, some line⟩

end DreamJournal
