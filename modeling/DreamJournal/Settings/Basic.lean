import DreamJournal.Metric.Standard
import DreamJournal.Settings.Coercion

/-!
# Settings

How callouts are named in a collection of notes, which metrics are known, how narratives keep
their paragraphs and which notes are left out.

All settings are built by `Settings.ofDraft`, from parts that are not yet checked. No two
definitions have the same key; this is part of the type, so that looking a definition up never
depends on which of two is found.
-/
namespace DreamJournal

structure Settings where
  /-- The kind of callout around a day. -/
  journalCallout : Text
  /-- The kind of callout around a dream. -/
  diaryCallout : Text
  /-- The kind of callout around the metrics of a dream. -/
  metricsCallout : Text
  metrics : List MetricDefinition
  paragraphMode : ParagraphMode
  /-- Patterns of notes and folders that are left out. -/
  exclude : List Text
  /-- How many notes are taken from a folder; a count below zero leaves that many out. -/
  maxFiles : Option Int
  distinct : (metrics.map MetricDefinition.key).Nodup
  deriving Repr, DecidableEq

namespace Settings

/-- Parts of settings that are not yet checked. -/
structure Draft where
  journalCallout : Datum := .text (Text.of "journal-entry")
  diaryCallout : Datum := .text (Text.of "dream-diary")
  metricsCallout : Datum := .text (Text.of "dream-metrics")
  metrics : List MetricDefinition := MetricDefinition.standard
  paragraphMode : Datum := .text (Text.of ParagraphMode.joined.label)
  exclude : List Text := []
  maxFiles : Option Int := none

/-- The members of a list that are there more than once, in order and each once. -/
def duplicates (keys : List Text) : List Text :=
  ((keys.filter fun key => 1 < keys.count key).eraseDups).mergeSort Text.le

/-- The mode that a datum names. -/
def modeOf (d : Datum) : Except SettingsFault ParagraphMode :=
  match d with
  | .text label =>
    match ParagraphMode.ofLabel? label with
    | some mode => .ok mode
    | none => .error (.badMode (Text.quoted label))
  | other => do .error (.badMode (← other.shown))

/-- The settings with the given parts, if they are good. -/
def ofDraft (draft : Draft) : Except SettingsFault Settings := do
  let journalCallout ← draft.journalCallout.toCalloutName
  let diaryCallout ← draft.diaryCallout.toCalloutName
  let metricsCallout ← draft.metricsCallout.toCalloutName
  let paragraphMode ← modeOf draft.paragraphMode
  if distinct : (draft.metrics.map MetricDefinition.key).Nodup then
    .ok { journalCallout, diaryCallout, metricsCallout, metrics := draft.metrics, paragraphMode,
          exclude := draft.exclude, maxFiles := draft.maxFiles, distinct }
  else .error (.duplicates (duplicates (draft.metrics.map MetricDefinition.key)))

/-- The settings when nothing is configured. -/
def standard : Settings where
  journalCallout := Text.of "journal-entry"
  diaryCallout := Text.of "dream-diary"
  metricsCallout := Text.of "dream-metrics"
  metrics := MetricDefinition.standard
  paragraphMode := .joined
  exclude := []
  maxFiles := none
  distinct := by decide +kernel

/-- The parts of settings. -/
def draft (s : Settings) : Draft where
  journalCallout := .text s.journalCallout
  diaryCallout := .text s.diaryCallout
  metricsCallout := .text s.metricsCallout
  metrics := s.metrics
  paragraphMode := .text (Text.of s.paragraphMode.label)
  exclude := s.exclude
  maxFiles := s.maxFiles

/-- The first definition with the key of a name. -/
def definition? (s : Settings) (name : Text) : Option MetricDefinition :=
  s.metrics.find? fun d => d.key = Metric.key name

end Settings
end DreamJournal
