import DreamJournal.Yaml.Error

/-!
# Tokens of a document

Indentation is turned into tokens of its own: a block begins where a line is indented deeper,
and ends where one is indented less.
-/
namespace DreamJournal.Yaml

/-- A line that begins with a percent sign. -/
inductive Directive where
  | version (major : Nat)
  | tagPrefix (handle start : Text)
  | reserved
  deriving DecidableEq, Repr

inductive Token where
  | directive (d : Directive)
  | documentStart
  | documentEnd
  | streamEnd
  | blockSequenceStart
  | blockMappingStart
  | blockEnd
  | flowSequenceStart
  | flowSequenceEnd
  | flowMappingStart
  | flowMappingEnd
  | blockEntry
  | flowEntry
  | key
  | value
  | reference (name : Text)
  | anchor (name : Text)
  | tag (handle : Option Text) (suffix : Text)
  | scalar (text : Text) (plain : Bool)
  /-- The document cannot be read any further. -/
  | broken (error : ReadError)
  deriving DecidableEq, Repr

end DreamJournal.Yaml
