import DreamJournal.CommandLine.Work

/-!
# Starting a settings file

The standard settings are written to a file, for the user to change. A file that is there already
is kept, unless the user insists.
-/
namespace DreamJournal.Starting

open Datum (field)

/-- The record of settings that were written. -/
def record (path : Path) : LogRecord :=
  Log.operation (Text.of "settings_written") [field "path" (.text path.toText)]

/-- Why an existing file is kept. -/
def alreadyThere (path : Path) : Text :=
  Text.of "⚠️  " ++ path.toText ++ Text.of " already exists (use --force to overwrite)"

/-- The files with the standard settings written to one of them. -/
def writeTo (files : Files) (path : Path) : Except Fault Files := do
  let document ← Settings.standard.toDocument.mapError SettingsFault.toFault
  let files ← (files.makeFolder path.parent).mapError fun fault => fault.toFault path.parent
  (files.write path (Text.encode document)).mapError fun fault => fault.toFault path

/-- Write the standard settings to a file. -/
def run (output : Text) (force : Bool) (files : Files) : Work :=
  let path := Path.ofText output
  let work := Work.begin files none
  if (files.at? path).isSome && !force then { work with ending := .refused (alreadyThere path) }
  else
    match writeTo files path with
    | .error fault => work.fail fault
    | .ok files =>
      { work.shows (shownLine (Text.of "✅ Default settings written to " ++ path.toText)) with
        files, log := [record path] }

/-- What an error of the command is recorded with. -/
def context (output : Text) : List (Datum × Datum) :=
  [field "operation" (.text (Text.of "init-config")), field "output" (.text output)]

end DreamJournal.Starting
