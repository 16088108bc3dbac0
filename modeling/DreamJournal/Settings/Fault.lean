import DreamJournal.Datum
import DreamJournal.Fault
import DreamJournal.Metric.Definition
import DreamJournal.Narrative.Paragraphs

/-!
# What can be wrong with settings

Settings files are written by hand. Most mistakes in them are faults of the settings and are
reported as such. The others come from numbers that the library cannot take over: they are
infinite or no numbers, too large or too long, or they are keys that cannot be put in order.
-/
namespace DreamJournal

/-- Why data are no settings. Data are given as messages show them. -/
inductive SettingsFault where
  | notAMapping (what : String) (kind : String)
  | notAList (field kind : String)
  | missingField (field : Text)
  | badCalloutName (given : Text)
  | numberAsFlag (given : Text)
  | textAsFlag (given : Text)
  | flagAsNumber (given : Text)
  | notANumber (given : Text)
  | notACount (given : Text)
  | noFiles
  | badMode (given : Text)
  | badDefinition (fault : DefinitionFault)
  | duplicates (keys : List Text)
  | unknownField (field : Text)
  | infiniteCount
  | indefiniteCount
  | numberTooLarge
  | numberTooLong
  | keysNotInOrder (kind other : String)
  deriving DecidableEq, Repr

namespace SettingsFault

/-- Labels between brackets. -/
def labels (all : List String) : Text :=
  '[' :: Text.join (Text.of ", ") (all.map fun label => Text.quoted (Text.of label)) ++ [']']

/-- What is said of two data that cannot be compared, by the names of their kinds. -/
def notInOrder (kind other : String) : Text :=
  let times := ["datetime.date", "datetime.datetime"]
  if !(times.contains kind && times.contains other) then
    Text.of "'<' not supported between instances of '" ++ Text.of kind ++ Text.of "' and '" ++
      Text.of other ++ Text.of "'"
  else if kind = other then Text.of "can't compare offset-naive and offset-aware datetimes"
  else Text.of "can't compare datetime.datetime to datetime.date"

def message : SettingsFault → Text
  | notAMapping what kind => Text.of what ++ Text.of " must be a mapping, got " ++ Text.of kind
  | notAList field kind => Text.of field ++ Text.of " must be a list, got " ++ Text.of kind
  | missingField field => Text.of "Required field '" ++ field ++ Text.of "' missing or empty"
  | badCalloutName given => Text.of "Callout name must be a non-empty string, got " ++ given
  | numberAsFlag given => Text.of "Cannot convert numeric '" ++ given ++ Text.of "' to boolean"
  | textAsFlag given => Text.of "Cannot convert '" ++ given ++ Text.of "' to boolean"
  | flagAsNumber given => Text.of "Expected a number, got boolean " ++ given
  | notANumber given => Text.of "Expected a number, got " ++ given
  | notACount given => Text.of "Expected a non-negative integer, got " ++ given
  | noFiles => Text.of "max_files must be at least 1"
  | badMode given =>
    Text.of "paragraph_mode must be one of " ++
      labels (ParagraphMode.all.map ParagraphMode.label) ++ Text.of ", got " ++ given
  | badDefinition fault => fault.message
  | duplicates keys => Text.of "Duplicate metric definitions: " ++ Text.join (Text.of ", ") keys
  | unknownField field =>
    Text.of "EngineSettings.__init__() got an unexpected keyword argument " ++ Text.quoted field
  | infiniteCount => Text.of "cannot convert float infinity to integer"
  | indefiniteCount => Text.of "cannot convert float NaN to integer"
  | numberTooLarge => Text.of "int too large to convert to float"
  | numberTooLong => tooLongToWrite
  | keysNotInOrder kind other => notInOrder kind other

/-- The name of the kind of error in reports. -/
def kind : SettingsFault → String
  | infiniteCount | numberTooLarge => "OverflowError"
  | indefiniteCount | numberTooLong => "ValueError"
  | unknownField _ | keysNotInOrder _ _ => "TypeError"
  | _ => "ConfigError"

def toFault (f : SettingsFault) : Fault := ⟨Text.of f.kind, f.message⟩

end SettingsFault
end DreamJournal
