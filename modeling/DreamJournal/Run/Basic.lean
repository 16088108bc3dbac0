import DreamJournal.Files.Path
import DreamJournal.Metric.Aggregate
import DreamJournal.Note.Basic
import DreamJournal.Run.Outcome

/-!
# Runs

A run takes up notes one after the other. Each note is a step: it was extracted, or it could not
be read, or it was given up. A step adds to what the run holds and to what it has counted, and
nothing that one step adds depends on another; so a note that fails costs itself alone.

After each step the run reports its progress. When it is finished its entries are put in the
order of their dates, those of one date in the order in which they came.
-/
namespace DreamJournal

/-- What became of one note. -/
inductive Step where
  | extracted (found : NoteExtraction)
  | unread (source : Text) (fault : Fault)
  | givenUp (source : Text) (fault : Fault)
  deriving Repr

namespace Step

/-- The note of a step. -/
def source : Step → Text
  | extracted found => found.source
  | unread source _ => source
  | givenUp source _ => source

/-- The entries that a step adds. -/
def entries : Step → List Entry
  | extracted found => found.entries
  | _ => []

/-- The diagnostics that a step adds. -/
def diagnostics : Step → List Diagnostic
  | extracted found => found.diagnostics
  | unread source fault => [⟨source, .fileReadFailed, fault.line, none⟩]
  | givenUp source fault => [⟨source, .fileParseFailed, fault.line, none⟩]

/-- A tally with what a step adds to it. -/
def count (t : Tally) : Step → Tally
  | extracted found =>
    { files := t.files + 1
      errors := t.errors + Diagnostic.count .entryFailed found.diagnostics
      journals := t.journals + found.journals
      diaries := t.diaries + found.diaries
      metricsCallouts := t.metricsCallouts + found.metricsCallouts
      entries := t.entries + found.entries.length }
  | unread _ _ | givenUp _ _ => { t with files := t.files + 1, errors := t.errors + 1 }

/-- The step of a note that is read with a reader. -/
def ofNote (settings : Settings) (today : Date) (read : Path → Except Fault Text)
    (path : Path) : Step :=
  match read path with
  | .error fault => unread path.toText fault
  | .ok note =>
    match Note.extract settings today path.toText note with
    | .error fault => givenUp path.toText fault
    | .ok found => extracted found

end Step

/-- What a run reports after a step. -/
structure Progress where
  source : Text
  files : Nat
  /-- How many files there will be. -/
  total : Int
  entries : Int
  callouts : Int
  deriving DecidableEq, Repr

/-- What a run holds. -/
structure Run where
  settings : Settings
  total : Int
  entries : List Entry
  aggregate : Aggregate
  diagnostics : List Diagnostic
  tally : Tally
  /-- The reports so far, oldest first. -/
  progress : List Progress
  deriving Repr

namespace Run

/-- A run before its first step. -/
def start (settings : Settings) (total : Int) : Run :=
  ⟨settings, total, [], [], [], .zero, []⟩

/-- Collect the numbers of an entry. -/
def collect (settings : Settings) (a : Aggregate) (e : Entry) : Aggregate :=
  a.addEntry (MetricDefinition.aggregatedNames settings.metrics) e.metrics e.wordCount

/-- Take a step. -/
def take (run : Run) (step : Step) : Run :=
  let tally := step.count run.tally
  { run with
    entries := run.entries ++ step.entries
    aggregate := step.entries.foldl (collect run.settings) run.aggregate
    diagnostics := run.diagnostics ++ step.diagnostics
    tally
    progress := run.progress ++
      [⟨step.source, tally.files, run.total, tally.entries, tally.callouts⟩] }

/-- Take steps. -/
def takeAll (run : Run) (steps : List Step) : Run := steps.foldl take run

/-- What a run has found so far. -/
def outcome (run : Run) : Outcome := .ofTally run.tally

/-- The entries in the order of their dates. -/
def sortedEntries (run : Run) : List Entry :=
  run.entries.mergeSort fun a b => a.date.le b.date

/-- A run over some notes. -/
def ofNotes (settings : Settings) (today : Date) (read : Path → Except Fault Text)
    (notes : List Path) : Run :=
  (start settings notes.length).takeAll (notes.map (Step.ofNote settings today read))

end Run
end DreamJournal
