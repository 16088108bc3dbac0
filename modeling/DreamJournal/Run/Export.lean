import DreamJournal.Datum.Json
import DreamJournal.Files.Basic
import DreamJournal.Log.Basic
import DreamJournal.Run.Result

/-!
# Exported results

A result is exported as one JSON document that ends with a line feed. The folder of the file is
made when it is not there.
-/
namespace DreamJournal

/-- Why a result is not exported. -/
inductive ExportFault where
  | noResult (fault : ResultFault)
  /-- The file or its folder, `place`, cannot be used. -/
  | unwritable (path place : Path) (fault : FileFault)
  deriving DecidableEq, Repr

def ExportFault.toFault : ExportFault → Fault
  | noResult fault => fault.toFault
  | unwritable path place fault =>
    ⟨Text.of "ExportError", Text.of "Cannot write JSON export " ++ path.toText ++ Text.of ": " ++
      fault.message place⟩

namespace Run

/-- The document of a result. -/
def document (run : Run) (indent : Option Nat) (now : Moment) (seconds : Double) :
    Except ResultFault Text := do
  let result ← run.toDatum now seconds
  .ok (result.toJson (Json.exported indent) ++ ['\n'])

/-- The files with the result of a run written to one of them. -/
def writeTo (run : Run) (files : Files) (path : Path) (indent : Option Nat) (now : Moment)
    (seconds : Double) : Except ExportFault Files := do
  let document ← (run.document indent now seconds).mapError .noResult
  let files ← (files.makeFolder path.parent).mapError (.unwritable path path.parent)
  (files.write path (Text.encode document)).mapError (.unwritable path path)

/-- The record of an export. -/
def exportRecord (run : Run) (path : Path) : LogRecord :=
  Log.operation (Text.of "json_exported")
    [Datum.field "path" (.text path.toText),
      Datum.field "entries" (.int run.entries.length)]

end Run
end DreamJournal
