import DreamJournal.Text.Case
import DreamJournal.Yaml.Value

/-!
# Front matter

A note may begin with a block of data between two lines that hold nothing but three hyphens. The
block is a document of its own; what it holds has to be a map, and all of its values are taken as
texts. Keys are read in lower case, without white space around them.

A block that is not closed is no front matter, and the note is all body.
-/
namespace DreamJournal

/-- Why a note's front matter cannot be used. -/
inductive FrontMatterFault where
  | malformed
  | notAMapping (kind : String)
  /-- A scalar has the form of a value and is none, or a value has no text. -/
  | badValue (fault : Fault)
  deriving DecidableEq, Repr

namespace FrontMatterFault

def toFault : FrontMatterFault → Fault
  | malformed =>
    ⟨Text.of "FrontmatterError",
      Text.of "Cannot parse YAML front matter: the block is not well formed"⟩
  | notAMapping kind =>
    ⟨Text.of "FrontmatterError", Text.of "Front matter must be a mapping, got " ++ Text.of kind⟩
  | badValue fault => fault

/-- Whether the fault costs the front matter alone and not the note. -/
def isContained : FrontMatterFault → Bool
  | badValue _ => false
  | _ => true

end FrontMatterFault

namespace FrontMatter

/-- A line that opens or closes front matter. -/
def isFence (line : Text) : Bool := Text.trim line = ['-', '-', '-']

/-- The lines of a block and the lines behind its closing fence; none without such a fence. -/
def block? : List Text → Option (List Text × List Text)
  | [] => none
  | line :: rest =>
    if isFence line then some ([], rest)
    else (block? rest).map fun (inside, behind) => (line :: inside, behind)

/-- The front matter of some lines and the body behind it, blank lines in front of which are
dropped. -/
def splitLines (lines : List Text) : Text × List Text :=
  match lines with
  | [] => ([], [])
  | first :: rest =>
    match if isFence first then block? rest else none with
    | some (inside, behind) => (Text.joinLines inside, behind.dropWhile Text.isAllBlank)
    | none => ([], lines)

/-- The front matter of a note and the lines of its body. -/
def split (note : Text) : Text × List Text := splitLines (Text.lines note)

/-- What is done with data that hold a number with too many digits to be written. -/
def written (d : Datum) (t : Text) : Except FrontMatterFault Text :=
  if d.isTooLong then .error (.badValue (.badValue tooLongToWrite)) else .ok t

/-- The text of a part of a web whose leaves and maps have the given texts. A list that is deeper
than there are cells holds itself, and its text never ends. -/
def flattenPart (cells : Web) (leaf whole : Nat → Except FrontMatterFault Text) :
    (depth : Nat) → Web.Part → Except FrontMatterFault Text
  | _, .leaf n => leaf n
  | 0, .cell _ => .error (.badValue .endless)
  | depth + 1, .cell n =>
    let inside : Web.Part → Except FrontMatterFault Text := flattenPart cells leaf whole depth
    match cells.cell n with
    | .list items => do .ok (Datum.commaJoin (← items.mapM inside))
    | .tuple items => do .ok (Datum.commaJoin (← items.mapM inside))
    | .set _ => whole n
    | .map _ => whole n

mutual

/-- The text of a value. -/
def flatten : Datum → Except FrontMatterFault Text
  | .null => .ok []
  | .date d => .ok d.iso
  | .moment m => .ok m.iso
  | .bool b => .ok (Text.of (if b then "true" else "false"))
  | .list items => do .ok (Datum.commaJoin (← flattenAll items))
  | .tuple items => do .ok (Datum.commaJoin (← flattenAll items))
  | .number n => written (.number n) n.toText
  | .text t => .ok t
  | .bytes b => .ok (Datum.quotedBytes b)
  | .set items => written (.set items) (Datum.set items).plain
  | .map entries => written (.map entries) (Datum.map entries).plain
  | .web cells leaves start =>
    let texts := flattenEach leaves
    flattenPart cells (fun n => texts.getD n (.ok []))
      (fun n => written (.web cells leaves n) (Datum.web cells leaves n).plain)
      (cells.cells.length + 1) (.cell start)

def flattenAll : List Datum → Except FrontMatterFault (List Text)
  | [] => .ok []
  | item :: rest => do
    let text ← flatten item
    .ok (text :: (← flattenAll rest))

def flattenEach : List Datum → List (Except FrontMatterFault Text)
  | [] => []
  | item :: rest => flatten item :: flattenEach rest

end

/-- The fields of a map. Of fields whose keys become the same the last counts, in the place of
the first. -/
def fieldsOf : List (Datum × Datum) → OrderedMap Text Text →
    Except FrontMatterFault (OrderedMap Text Text)
  | [], known => .ok known
  | (key, value) :: rest, known => do
    let key ← written key key.plain
    let value ← flatten value
    fieldsOf rest (known.put (Text.lower (Text.trim key)) value)

/-- The fields of a block. -/
def ofBlock (block : Text) : Except FrontMatterFault (OrderedMap Text Text) :=
  if Text.isAllBlank block then .ok []
  else
    match Yaml.read block with
    | .error .malformed => .error .malformed
    | .error (.fault fault) => .error (.badValue fault)
    | .ok d =>
      match d.opened with
      | .null => .ok []
      | .map entries => fieldsOf entries []
      | other => .error (.notAMapping other.kindName)

/-- The fields of a note's front matter. -/
def ofNote (note : Text) : Except FrontMatterFault (OrderedMap Text Text) := ofBlock (split note).1

end FrontMatter
end DreamJournal
