import DreamJournal.Text.Basic

/-!
# Faults

What reports and logs say of an error that ended some piece of work: the name of its kind and
its message. Every part of the library has errors of its own; each becomes a fault when it is
reported.
-/
namespace DreamJournal

/-- An error as reports show it. -/
structure Fault where
  kind : Text
  message : Text
  deriving DecidableEq, Repr

namespace Fault

/-- Kind and message on one line. -/
def line (f : Fault) : Text := f.kind ++ Text.of ": " ++ f.message

/-- A value was not acceptable to an operation. -/
def badValue (message : Text) : Fault := ⟨Text.of "ValueError", message⟩

/-- A number was too large for an operation. -/
def tooLarge (message : Text) : Fault := ⟨Text.of "OverflowError", message⟩

/-- An operation went on without end. -/
def endless : Fault :=
  ⟨Text.of "RecursionError", Text.of "maximum recursion depth exceeded"⟩

/-- A settings file or a setting was not acceptable. -/
def badSetting (message : Text) : Fault := ⟨Text.of "ConfigError", message⟩

end Fault
end DreamJournal
