import DreamJournal.Files.Note
import DreamJournal.Settings.Data
import DreamJournal.Yaml.Value
import DreamJournal.Yaml.Writer

/-!
# Settings in files

Settings are kept in a file of their own. Reading it fails when the file cannot be read, when its
text is no document, and when the document describes no settings; writing settings and reading
them back gives the same settings.
-/
namespace DreamJournal

/-- Whether two bounds are the same number, or both are missing. -/
def sameBound (a b : Option Number) : Bool :=
  match a, b with
  | none, none => true
  | some m, some n => m.same n
  | _, _ => false

/-- Whether two definitions say the same; bounds are compared by value. -/
def MetricDefinition.sameAs (a b : MetricDefinition) : Bool :=
  a.name = b.name && sameBound a.minimum b.minimum && sameBound a.maximum b.maximum &&
    a.enabled = b.enabled && a.description = b.description && a.kind = b.kind

namespace Settings

/-- Whether two settings say the same. -/
def sameAs (a b : Settings) : Bool :=
  a.journalCallout = b.journalCallout && a.diaryCallout = b.diaryCallout &&
    a.metricsCallout = b.metricsCallout && a.paragraphMode = b.paragraphMode &&
    a.exclude = b.exclude && a.maxFiles = b.maxFiles &&
    a.metrics.length = b.metrics.length &&
    (a.metrics.zip b.metrics).all fun (d, e) => d.sameAs e

/-- What reading settings gave: the warning about fields that are not known, and the settings or
what is wrong with them. -/
structure Loaded where
  warning : Option Text
  settings : Except Fault Settings

/-- The settings that data describe, with the warning about them. -/
def loadedOf (d : Datum) : Loaded where
  warning := (unknownWarning? d).toOption.join
  settings := (ofDatum d).mapError SettingsFault.toFault

/-- The settings in a document; `path` is where the document was found. -/
def ofDocument (path : Path) (document : Text) : Loaded :=
  match Yaml.read document with
  | .error .malformed =>
    ⟨none, .error (.badSetting (Text.of "Invalid YAML in settings file " ++ path.toText ++
      Text.of ": the document is not well formed"))⟩
  | .error (.fault fault) => ⟨none, .error fault⟩
  | .ok d => loadedOf d

/-- The settings in a file; standard ones when there is none to read. -/
def load (files : Files) (path : Option Path) : Loaded :=
  match path with
  | none => ⟨none, .ok standard⟩
  | some path =>
    match files.readText path with
    | .error fault =>
      ⟨none, .error (.badSetting (Text.of "Cannot read settings file " ++ path.toText ++
        Text.of ": " ++ fault.message path))⟩
    | .ok document => ofDocument path document

/-- The document that describes settings. -/
def toDocument (s : Settings) : Except SettingsFault Text := s.entries?.map Yaml.write

end Settings
end DreamJournal
