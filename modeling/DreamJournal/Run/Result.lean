import DreamJournal.Run.Basic
import DreamJournal.Settings.Data

/-!
# Results

The result of a run as data: its outcome with advice, its counts, the settings it used, the
entries in the order of their dates, the collected numbers with their summaries, and all
diagnostics. This is what is exported.
-/
namespace DreamJournal

open Datum (field)

/-- A map whose keys are texts, as data. -/
def Datum.ofOrdered {α : Type} (f : α → Datum) (m : OrderedMap Text α) : Datum :=
  .map (m.map fun (key, value) => (.text key, f value))

def Datum.ofOption {α : Type} (f : α → Datum) (o : Option α) : Datum := (o.map f).getD .null

def Metric.toDatum (m : Metric) : Datum :=
  .map [field "name" (.text m.name), field "raw" (.text m.raw),
    field "numeric" (.ofOption .number m.numeric), field "configured" (.bool m.configured)]

def MetadataValue.toDatum : MetadataValue → Datum
  | flag => .bool true
  | text t => .text t

def Entry.toDatum (e : Entry) : Datum :=
  .map [field "date" (.text e.date.iso),
    field "date_strategy" (.text (Text.of e.date.strategy.label)),
    field "low_confidence_date" (.bool e.date.strategy.isGuess),
    field "title" (.text e.title), field "content" (.text e.content),
    field "source_file" (.text e.source), field "source_anchor" (.text e.anchor),
    field "word_count" (.int e.wordCount),
    field "metrics" (.ofOrdered Metric.toDatum e.metrics),
    field "callout_metadata" (.ofOrdered MetadataValue.toDatum e.metadata)]

def Summary.toDatum (s : Summary) : Datum :=
  .map [field "count" (.int s.count), field "total" (.number s.total),
    field "mean" (.real s.mean), field "minimum" (.number s.minimum),
    field "maximum" (.number s.maximum)]

def Diagnostic.toDatum (d : Diagnostic) : Datum :=
  .map [field "source" (.text d.source), field "kind" (.text (Text.of d.kind.label)),
    field "severity" (.text (Text.of d.severity.label)), field "message" (.text d.message),
    field "line" (.ofOption (fun n => .int n) d.line)]

/-- Why a result cannot be given as data. -/
inductive ResultFault where
  | settings (fault : SettingsFault)
  | summary (fault : SummaryError)
  deriving DecidableEq, Repr

def ResultFault.toFault : ResultFault → Fault
  | settings fault => fault.toFault
  | summary .oppositeInfinities => .badValue SummaryError.oppositeInfinities.message
  | summary fault => .tooLarge fault.message

namespace Run

/-- The summaries of the collected numbers. -/
def summaries (run : Run) : Except ResultFault (OrderedMap Text Summary) :=
  run.aggregate.summaries.mapError .summary

/-- The result of a run that was finished at some moment after some time. -/
def toDatum (run : Run) (now : Moment) (seconds : Double) : Except ResultFault Datum := do
  let settings ← run.settings.entries?.mapError .settings
  let summaries ← run.summaries
  .ok <| .map [field "generated_at" (.text now.iso),
    field "outcome" (.text (Text.of run.outcome.label)),
    field "guidance" (.text (run.outcome.guidance run.settings)),
    field "stats" (.map (run.tally.fields seconds)),
    field "settings" (.map settings),
    field "entries" (.list (run.sortedEntries.map Entry.toDatum)),
    field "aggregate" (.ofOrdered (fun ns => .list (ns.map .number)) run.aggregate),
    field "summary" (.ofOrdered Summary.toDatum summaries),
    field "diagnostics" (.list (run.diagnostics.map Diagnostic.toDatum))]

end Run
end DreamJournal
