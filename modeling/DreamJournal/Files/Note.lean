import DreamJournal.Fault
import DreamJournal.Files.Basic
import DreamJournal.Text.Repair

/-!
# Reading notes

A note is read in three steps: its octets become a text, every kind of line end becomes a line
feed, and the traces of the programs that wrote it are taken out. Only the first step can fail.
-/
namespace DreamJournal

/-- Why a file cannot be read as a text. -/
inductive ReadFault where
  | unusable (fault : FileFault)
  | undecodable (fault : Text.DecodeError)
  deriving DecidableEq, Repr

/-- What is said of a file that cannot be read. -/
def ReadFault.message (path : Path) : ReadFault → Text
  | unusable fault => fault.message path
  | undecodable fault => fault.message

namespace Files

/-- The text of a file, with line feeds for line ends. -/
def readText (files : Files) (path : Path) : Except ReadFault Text :=
  match files.read path with
  | .error fault => .error (.unusable fault)
  | .ok octets =>
    match Text.decode octets with
    | .error fault => .error (.undecodable fault)
    | .ok t => .ok (Text.lineFeeds t)

/-- The text of a note. -/
def readNote (files : Files) (path : Path) : Except Fault Text :=
  match files.readText path with
  | .ok t => .ok (Text.repaired t)
  | .error fault =>
    .error ⟨Text.of "NoteReadError",
      Text.of "Cannot read note " ++ path.toText ++ Text.of ": " ++ fault.message path⟩

end Files
end DreamJournal
