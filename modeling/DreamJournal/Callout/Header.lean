import DreamJournal.Callout.Marker
import DreamJournal.Text.Quoted
import DreamJournal.OrderedMap
import DreamJournal.Text.Case

/-!
# Callout headers

A callout begins with a quoted line `> [!kind|metadata]+ title`. The kind is a name of letters,
digits, underscores and hyphens and is read in lower case; metadata and fold sign are optional;
the title is the rest of the line without the gaps around it.

The metadata is a list of flags and `key=value` items separated by commas or white space.
-/
namespace DreamJournal

/-- The parts of a callout header. -/
structure Header where
  /-- How many quote markers lead the line. -/
  markers : Nat
  kind : Text
  metadata : Option Text
  title : Text
  deriving DecidableEq, Repr

namespace Header

/-- A character that a kind can begin with. -/
def startsKind (c : Char) : Bool := c.isAlphanum || c == '_'

/-- A character that a kind can go on with. -/
def inKind (c : Char) : Bool := c.isAlphanum || c == '_' || c == '-'

/-- The title in what follows the tag. A title ends with its line, so a line feed can only be
the very last character. -/
def title? (tail : Text) : Option Text :=
  let unsigned :=
    match tail with
    | '+' :: rest | '-' :: rest => rest
    | _ => tail
  let written := unsigned.dropWhile Text.isGap
  let line := match written.reverse with
    | '\n' :: body => body.reverse
    | _ => written
  if line.contains '\n' then none else some (Text.trimEnd Text.isGap line)

/-- The metadata, if any, and what follows the tag, when the tag is closed after the kind. -/
def metadata? (tail : Text) : Option (Option Text × Text) :=
  match tail with
  | ']' :: rest => some (none, rest)
  | '|' :: rest => (Text.cut? ']' rest).map fun (metadata, after) => (some metadata, after)
  | _ => none

/-- Kind, metadata and title of a tag at the start of a text. -/
def tag? (t : Text) : Option (Text × Option Text × Text) :=
  match t with
  | '[' :: '!' :: c :: rest =>
    if startsKind c then do
      let (metadata, after) ← metadata? (rest.dropWhile inKind)
      let title ← title? after
      some (Text.lower (c :: rest.takeWhile inKind), metadata, title)
    else none
  | _ => none

/-- The header on a line, when the line is quoted and what follows the markers is a tag. -/
def ofLine? (line : Text) : Option Header :=
  if Marker.count line = 0 then none
  else (tag? (Marker.strip line)).map fun (kind, metadata, title) =>
    ⟨Marker.count line, kind, metadata, title⟩

/-- What is said of a line that holds no header. -/
def notAHeader (line : Text) : Text := Text.of "Not a callout opener: " ++ Text.quoted line

/-- Whether what follows the markers of a line begins like a tag. -/
def looksLikeTag (stripped : Text) : Bool :=
  match stripped with
  | '[' :: '!' :: _ => true
  | _ => false

end Header

/-- What a metadata item says of its key. -/
inductive MetadataValue where
  | flag
  | text (value : Text)
  deriving DecidableEq, Repr

/-- The items of a metadata suffix, in order. -/
abbrev Metadata := OrderedMap Text MetadataValue

namespace Metadata

def isSeparator (c : Char) : Bool := c == ',' || Text.isBlank c

/-- The items between separators. -/
def items (written : Text) : List Text :=
  Text.words (written.map fun c => if isSeparator c then ' ' else c)

/-- Take one item up. An item that begins with the equals sign has no key and says nothing. -/
def add (known : Metadata) (item : Text) : Metadata :=
  match Text.cut? '=' item with
  | none => known.put (Text.lower item) .flag
  | some ([], _) => known
  | some (key, value) => known.put (Text.lower key) (.text value)

/-- The metadata that a suffix spells. -/
def ofSuffix (written : Text) : Metadata := (items written).foldl add []

end Metadata
end DreamJournal
