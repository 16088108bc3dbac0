import DreamJournal.Settings.Basic

/-!
# Settings as data

Settings are read from a map and written to one. A field that is missing or holds nothing has
its standard value, and a field that is not known is passed over with a warning. What is written
reads back as the same settings: a bound that is a whole number is written as one, and a field
that has no value is left out.
-/
namespace DreamJournal

/-- The value of a field; nothing counts as no value. -/
def Datum.fieldValue? (entries : List (Datum × Datum)) (field : String) : Option Datum :=
  match Datum.lookup? field entries with
  | some .null => none
  | other => other

namespace MetricDefinition

/-- The definition that a datum describes. -/
def ofDatum (d : Datum) : Except SettingsFault MetricDefinition :=
  match d.opened with
  | .map entries => do
    Datum.requireFields entries [Text.of "name"]
    let enabled ← ((Datum.lookup? "enabled" entries).getD (.bool true)).toFlag?
    let name ← ((Datum.lookup? "name" entries).getD .null).written
    let minimum ← ((Datum.lookup? "min_value" entries).getD .null).toDouble?
    let maximum ← ((Datum.lookup? "max_value" entries).getD .null).toDouble?
    let description ← (Datum.fieldValue? entries "description").mapM Datum.written
    let kind ← (Datum.fieldValue? entries "type").mapM Datum.written
    let kind := match kind with
      | none => .ok MetricKind.number
      | some label =>
        let label := Text.lower (Text.trim label)
        match MetricKind.ofLabel? label with
        | some kind => .ok kind
        | none => .error (Text.quoted label)
    match MetricDefinition.ofParts (Text.trim name) (minimum.map .real) (maximum.map .real)
        (enabled.getD true) description kind with
    | .ok definition => .ok definition
    | .error fault => .error (.badDefinition fault)
  | other => .error (.notAMapping "Metric definition" other.kindName)

/-- A number as it is written: whole when it is whole. -/
def plainNumber : Number → Number
  | .whole n => .whole n
  | .real d =>
    match d.toInt? with
    | some n => .whole n
    | none => .real d

/-- The datum that describes a definition. -/
def toDatum (d : MetricDefinition) : Datum :=
  let field := Datum.field
  .map <|
    field "name" (.text d.name) ::
    (d.minimum.map fun n => field "min_value" (.number (plainNumber n))).toList ++
    (d.maximum.map fun n => field "max_value" (.number (plainNumber n))).toList ++
    [field "enabled" (.bool d.enabled)] ++
    (match d.description with
      | some (c :: rest) => [field "description" (.text (c :: rest))]
      | _ => []) ++
    (if d.isText then [field "type" (.text (Text.of d.kind.label))] else [])

/-- Whether a bound is too large for double precision; such a bound is not written. -/
def hasHugeBound (d : MetricDefinition) : Bool :=
  [d.minimum, d.maximum].any fun bound =>
    match bound with
    | some n => n.toDouble?.isNone
    | none => false

/-- The datum that describes a definition, when its bounds can be written. -/
def toDatum? (d : MetricDefinition) : Except SettingsFault Datum :=
  if d.hasHugeBound then .error .numberTooLarge else .ok d.toDatum

end MetricDefinition

namespace Settings

/-- The names of all fields. -/
def fields : List String :=
  ["journal_callout", "diary_callout", "metrics_callout", "metrics", "paragraph_mode", "exclude",
    "max_files"]

/-- Whether one key comes before another, when the two can be compared. -/
def keyLe? (a b : Datum) : Option Bool :=
  match a.keyNumber?, b.keyNumber? with
  | some m, some n => some (!n.less m)
  | none, none =>
    match a, b with
    | .text s, .text t => some (Text.le s t)
    | .bytes s, .bytes t => some (decide (s ≤ t))
    | .date d, .date e => some (Text.le d.iso e.iso)
    | .moment m, .moment n =>
      if m.isComparable n then some (decide (m.instant ≤ n.instant)) else none
    | _, _ => none
  | _, _ => none

/-- Keys in order, if all of them can be compared with the first. -/
def sortKeys (keys : List Datum) : Except SettingsFault (List Datum) :=
  match keys with
  | [] => .ok []
  | first :: rest =>
    match rest.find? fun key => (keyLe? key first).isNone with
    | some key => .error (.keysNotInOrder key.comparedName first.comparedName)
    | none => .ok (keys.mergeSort fun a b => (keyLe? a b).getD true)

/-- The warning about fields that are not known. -/
def unknownWarning? (d : Datum) : Except SettingsFault (Option Text) :=
  match d.opened with
  | .map entries => do
    let known (key : Datum) : Bool := fields.any fun field => key.sameKey (.text (Text.of field))
    let unknown ← sortKeys ((entries.map Prod.fst).filter fun key => !known key)
    if unknown.isEmpty then .ok none
    else
      let names ← unknown.mapM Datum.written
      .ok (some (Text.of "Ignoring unknown settings keys: " ++ Text.join (Text.of ", ") names))
  | _ => .ok none

/-- The patterns that a datum lists; a single one needs no list. -/
def excludeOf (d : Datum) : Except SettingsFault (List Text) :=
  match d.opened with
  | .text pattern => .ok [pattern]
  | .list patterns => patterns.mapM Datum.written
  | other => .error (.notAList "exclude" other.kindName)

def metricsOf (d : Datum) : Except SettingsFault (List MetricDefinition) :=
  match d.opened with
  | .list items => items.mapM MetricDefinition.ofDatum
  | other => .error (.notAList "metrics" other.kindName)

def maxFilesOf (d : Datum) : Except SettingsFault Int := do
  match ← d.toCount? with
  | none | some 0 => .error .noFiles
  | some n => .ok n

/-- The parts of settings that the entries of a map give. -/
def draftOf (entries : List (Datum × Datum)) : Except SettingsFault Draft := do
  let value := Datum.fieldValue? entries
  let start : Draft := {}
  let metrics ← (value "metrics").mapM metricsOf
  let paragraphMode ← (value "paragraph_mode").mapM Datum.written
  let exclude ← (value "exclude").mapM excludeOf
  let maxFiles ← (value "max_files").mapM maxFilesOf
  .ok { journalCallout := (value "journal_callout").getD start.journalCallout
        diaryCallout := (value "diary_callout").getD start.diaryCallout
        metricsCallout := (value "metrics_callout").getD start.metricsCallout
        metrics := metrics.getD start.metrics
        paragraphMode := (paragraphMode.map fun label => .text (Text.lower (Text.trim label))).getD
          start.paragraphMode
        exclude := exclude.getD start.exclude
        maxFiles := maxFiles }

/-- The settings that a datum describes. -/
def ofDatum (d : Datum) : Except SettingsFault Settings :=
  match d.opened with
  | .null => .ok standard
  | .map entries => do
    let _ ← unknownWarning? d
    ofDraft (← draftOf entries)
  | other => .error (.notAMapping "Settings" other.kindName)

/-- The entries of the map that describes settings. -/
def entries (s : Settings) : List (Datum × Datum) :=
  let field := Datum.field
  [field "journal_callout" (.text s.journalCallout),
    field "diary_callout" (.text s.diaryCallout),
    field "metrics_callout" (.text s.metricsCallout),
    field "paragraph_mode" (.text (Text.of s.paragraphMode.label)),
    field "exclude" (.list (s.exclude.map .text)),
    field "metrics" (.list (s.metrics.map MetricDefinition.toDatum))] ++
    (s.maxFiles.map fun n => field "max_files" (.int n)).toList

/-- The datum that describes settings. -/
def toDatum (s : Settings) : Datum := .map s.entries

/-- The entries that describe settings, when the bounds of all metrics can be written. -/
def entries? (s : Settings) : Except SettingsFault (List (Datum × Datum)) :=
  if s.metrics.any MetricDefinition.hasHugeBound then .error .numberTooLarge else .ok s.entries

/-- Parts of settings with one of them replaced. Nothing in place of a count is no limit, and a
text in place of a list of patterns stands for its characters. -/
def Draft.override (draft : Draft) (name : Text) (value : Datum) : Except SettingsFault Draft :=
  match String.ofList name, value with
  | "journal_callout", value => .ok { draft with journalCallout := value }
  | "diary_callout", value => .ok { draft with diaryCallout := value }
  | "metrics_callout", value => .ok { draft with metricsCallout := value }
  | "paragraph_mode", value => .ok { draft with paragraphMode := value }
  | "metrics", value => do .ok { draft with metrics := ← metricsOf value }
  | "exclude", .text t => .ok { draft with exclude := t.map fun c => [c] }
  | "exclude", value => do .ok { draft with exclude := ← excludeOf value }
  | "max_files", .null => .ok { draft with maxFiles := none }
  | "max_files", .number (.whole n) => .ok { draft with maxFiles := some n }
  | "max_files", value => do .ok { draft with maxFiles := some (← maxFilesOf value) }
  | _, _ => .error (.unknownField name)

/-- Settings with some fields replaced. A replacement that is nothing changes nothing. -/
def withOverrides (s : Settings) (changes : List (Text × Datum)) :
    Except SettingsFault Settings := do
  let given := changes.filter fun change => !(change.2 matches .null)
  ofDraft (← given.foldlM (fun draft change => draft.override change.1 change.2) s.draft)

end Settings
end DreamJournal
