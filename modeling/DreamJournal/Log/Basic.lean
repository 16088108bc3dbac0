import DreamJournal.Datum.Json
import DreamJournal.Diagnostic
import DreamJournal.Fault

/-!
# Logs

What a component does is recorded: operations with their details, the diagnostics of notes, and
errors with their context and trace. Errors are records of a channel of their own; they are kept
in a file of their own and in that of the component. Records of warnings and errors are also
shown on the console.

A record only says what was logged; when and under which component is said when it is written.
-/
namespace DreamJournal

open Datum (field)

/-- How grave a record is. -/
inductive LogLevel where
  | debug
  | info
  | warning
  | error
  deriving DecidableEq, Repr

namespace LogLevel

def label : LogLevel → String
  | debug => "DEBUG"
  | info => "INFO"
  | warning => "WARNING"
  | error => "ERROR"

/-- Whether records of a level are shown on the console. -/
def isShown : LogLevel → Bool
  | warning | error => true
  | _ => false

end LogLevel

/-- One record of a log. -/
structure LogRecord where
  level : LogLevel
  /-- The name of the kind of record. -/
  site : String
  message : Text
  deriving DecidableEq, Repr

/-- Whether a record belongs to the channel of errors. -/
def LogRecord.isError (r : LogRecord) : Bool := r.level = .error

/-- The records of a component, oldest first. -/
abbrev Log := List LogRecord

namespace Log

/-- A message with details behind it, if there are any. -/
def detailed (start message : Text) (details : List (Datum × Datum)) : Text :=
  let plain := start ++ Text.of " - " ++ message
  if details.isEmpty then plain
  else plain ++ Text.of ": " ++ (Datum.map details).toJson Json.logged

/-- A named operation. -/
def operation (name : Text) (details : List (Datum × Datum)) : LogRecord :=
  ⟨.info, "log_operation",
    Text.of "OPERATION - " ++ name ++ Text.of ": " ++ (Datum.map details).toJson Json.logged⟩

def debug (message : Text) (details : List (Datum × Datum)) : LogRecord :=
  ⟨.debug, "log_debug", detailed (Text.of "DEBUG") message details⟩

def info (message : Text) (details : List (Datum × Datum)) : LogRecord :=
  ⟨.info, "log_info", detailed (Text.of "INFO") message details⟩

def warning (message : Text) (details : List (Datum × Datum)) : LogRecord :=
  ⟨.warning, "log_warning", detailed (Text.of "WARNING") message details⟩

/-- A diagnostic of a note. -/
def diagnostic (d : Diagnostic) : LogRecord :=
  let line : Datum := (d.line.map fun n => Datum.int n).getD .null
  ⟨.warning, "log_diagnostic", detailed (Text.of "DIAGNOSTIC") (Text.of d.kind.label)
    [field "source" (.text d.source), field "line" line, field "message" (.text d.message)]⟩

/-- The trace of a fault that ended some work. Of one that was only noted there is none. -/
def traceText (fault : Fault) (ended : Bool) : Text :=
  if ended then Text.of "Traceback (most recent call last):\n" ++ fault.line ++ ['\n']
  else Text.of "NoneType: None\n"

/-- One entry of a context. -/
def contextText (entry : Datum × Datum) : Text := entry.1.plain ++ '=' :: entry.2.plain

/-- An error with its context and trace. -/
def error (fault : Fault) (context : List (Datum × Datum)) (ended : Bool) : Log :=
  let record (message : Text) : LogRecord := ⟨.error, "log_error", message⟩
  record (Text.of "ERROR - " ++ fault.line) ::
    (if context.isEmpty then []
     else [record (Text.of "Context: " ++ Datum.commaJoin (context.map contextText))]) ++
    [record (Text.of "Traceback:\n" ++ traceText fault ended)]

/-- The message that a user sees of an error. -/
def userMessage (fault : Fault) : Text := Text.of "❌ " ++ fault.line

/-- An error of a command: its records, and the message that the user sees, with the trace if
that is asked for. -/
def commandError (fault : Fault) (context : List (Datum × Datum)) (ended showTrace : Bool) :
    Log × Text :=
  let context := if context.isEmpty then [field "source" (.text (Text.of "cli"))] else context
  let message := userMessage fault
  (error fault context ended,
    if showTrace then message ++ Text.of "\n\n" ++ traceText fault ended else message)

end Log
end DreamJournal
