import DreamJournal.Log.Basic
import DreamJournal.Run.Result

/-!
# Records of a run

What a run writes to the log: its start with the settings, every step, and its end with what was
counted. The diagnostics of a note come before the record of the note itself; the fault of a note
that failed is recorded as an error.
-/
namespace DreamJournal

open Datum (field)

/-- The records of a step. -/
def Step.records (step : Step) : Log :=
  step.diagnostics.map Log.diagnostic ++
    match step with
    | .extracted found =>
      [Log.debug (Text.of "File extracted")
        [field "file" (.text found.source), field "entries" (.int found.entries.length)]]
    | .unread source fault | .givenUp source fault =>
      Log.error fault [field "file" (.text source)] true

namespace Run

/-- The record of a start. -/
def startRecord (settings : Settings) (files : Nat) : LogRecord :=
  Log.operation (Text.of "extraction_start")
    [field "files" (.int files), field "settings" settings.toDatum]

/-- The record of an end. -/
def endRecord (run : Run) (seconds : Double) : LogRecord :=
  Log.operation (Text.of "extraction_complete")
    (run.tally.fields seconds ++
      [field "outcome" (.text (Text.of run.outcome.label)),
        field "diagnostics" (.int run.diagnostics.length)])

end Run
end DreamJournal
