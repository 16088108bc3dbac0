import DreamJournal.Files.Basic
import DreamJournal.Log.Basic

/-!
# Written logs

A record is written with the time, the name of its channel and its level in front. In files the
time has a date, and the kind and the number of the record follow the level. The records of a
component make up one file; the errors among them are also appended to a file that all
components share.
-/
namespace DreamJournal

/-- A time as logs show it. -/
structure LogTime where
  date : Text
  clock : Text
  deriving DecidableEq, Repr

/-- Time in front of all others, from which times are counted. -/
def LogTime.epoch : LogTime := ⟨Text.of "1970-01-01", Text.of "00:00:00"⟩

namespace LogRecord

/-- The name of the channel of a record. -/
def channel (component : Text) (r : LogRecord) : Text :=
  Text.of "oneiro." ++ component ++ (if r.isError then Text.of ".errors" else [])

/-- Parts of a line with hyphens between them. -/
def dashed (parts : List Text) : Text := Text.join (Text.of " - ") parts

/-- The record as the console shows it. -/
def consoleLine (component : Text) (time : LogTime) (r : LogRecord) : Text :=
  dashed [time.clock, r.channel component, Text.of r.level.label, r.message] ++ ['\n']

/-- The record as it is written to a file, under its number. -/
def fileLine (component : Text) (time : LogTime) (number : Nat) (r : LogRecord) : Text :=
  let site := '[' :: Text.of r.site ++ ':' :: Text.ofNat number ++ [']']
  dashed [time.date ++ ' ' :: time.clock, r.channel component, Text.of r.level.label, site,
    r.message] ++ ['\n']

end LogRecord

namespace Log

/-- What the console shows of a log. -/
def console (log : Log) (component : Text) (time : LogTime) : Text :=
  (log.filter fun r => r.level.isShown).flatMap fun r => r.consoleLine component time

/-- The lines of some records of a log, each under its number in the whole log. -/
def fileLines (log : Log) (component : Text) (time : LogTime) (keep : LogRecord → Bool) : Text :=
  (log.zipIdx 1).flatMap fun (r, number) =>
    if keep r then r.fileLine component time number else []

/-- The folder of all logs of operations. -/
def folder (base : Path) : Path := base.append [Text.of "operations"]

/-- The file of a component. -/
def componentFile (base : Path) (component : Text) : Path :=
  (folder base).append [component ++ Text.of ".log"]

/-- The file that holds the errors of all components. -/
def errorFile (base : Path) : Path := (folder base).append [Text.of "errors.log"]

/-- Append a text to a file, which is made when it is not there. -/
def appendTo (files : Files) (path : Path) (t : Text) : Except FileFault Files := do
  let old := (files.read path).toOption.getD []
  files.write path (old ++ Text.encode t)

/-- The files with a log written to those of its component. -/
def write (log : Log) (files : Files) (base : Path) (component : Text) (time : LogTime) :
    Except FileFault Files := do
  let files ← files.makeFolder (folder base)
  let files ← appendTo files (componentFile base component)
    (log.fileLines component time fun _ => true)
  appendTo files (errorFile base) (log.fileLines component time LogRecord.isError)

end Log
end DreamJournal
