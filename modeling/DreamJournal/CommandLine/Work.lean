import DreamJournal.CommandLine.Command
import DreamJournal.Log.Written
import DreamJournal.Settings.Stored

/-!
# Carrying out a command

What a command shows, what it logs, which files there are afterwards and how it ended. A command
that failed is recorded as an error, and the user sees the error behind what was shown before.
-/
namespace DreamJournal

/-- What a command finds around it. -/
structure Surroundings where
  files : Files
  today : Date
  now : Moment
  logTime : LogTime
  /-- How long the command takes, in seconds. -/
  seconds : Double

/-- How a command ended. -/
inductive Ending where
  | done
  /-- The command was not carried out, for a reason that is no error. -/
  | refused (reason : Text)
  | failed (fault : Fault)
  deriving DecidableEq, Repr

/-- What a command did. -/
structure Work where
  /-- What was shown. -/
  shown : Text
  /-- Warnings that belong to no log. -/
  warnings : Text
  log : Log
  files : Files
  ending : Ending

/-- A line that is shown. -/
def shownLine (t : Text) : Text := t ++ ['\n']

namespace Work

/-- The settings in the named file, or else in the usual one, or else the standard ones. -/
def settingsFor (files : Files) (config : Option Text) : Settings.Loaded :=
  match config with
  | some written => Settings.load files (some (Path.ofText written))
  | none =>
    let usual := Path.ofText settingsFile
    if files.isFile usual then Settings.load files (some usual) else Settings.load files none

/-- The work of a command before it has shown anything. -/
def begin (files : Files) (warning : Option Text) : Work :=
  ⟨[], (warning.map shownLine).getD [], [], files, .done⟩

/-- The work of a command that failed. -/
def fail (work : Work) (fault : Fault) : Work := { work with ending := .failed fault }

/-- The work of a command that showed more. -/
def shows (work : Work) (more : Text) : Work := { work with shown := work.shown ++ more }

end Work

/-- What is left of a command: its exit code, what it showed and said, and the files. -/
structure Console where
  exitCode : Nat
  shown : Text
  said : Text
  files : Files

/-- The component under which commands log. -/
def component : Text := Text.of "oneiro"

/-- Finish a command: write its log, and say how it ended. -/
def Work.finish (work : Work) (around : Surroundings) (general : General)
    (context : List (Datum × Datum)) : Console :=
  let (log, message, exitCode) :=
    match work.ending with
    | .done => (work.log, [], 0)
    | .refused reason => (work.log, shownLine reason, 1)
    | .failed fault =>
      let (records, message) := Log.commandError fault context true general.verbose
      (work.log ++ records, shownLine message, 1)
  let base := Path.ofText general.logFolder
  let written := (log.write work.files base component around.logTime).toOption
  ⟨exitCode, work.shown, work.warnings ++ log.console component around.logTime ++ message,
    written.getD work.files⟩

end DreamJournal
