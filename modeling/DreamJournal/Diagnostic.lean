import DreamJournal.OrderedMap
import DreamJournal.Text.Basic

/-!
# Diagnostics

Nothing that is wrong with a note stops a run. Each problem becomes a diagnostic that says where
it was seen, what kind of problem it is and, where known, on which line. The kinds are closed:
three of them mean that data was lost, the others are warnings.
-/
namespace DreamJournal

/-- What went wrong. -/
inductive DiagnosticKind where
  | structuralWarning
  | orphanCallout
  | frontMatterInvalid
  | dateInvalid
  | dateUnresolved
  | contentBoundaryMissing
  | metricMalformed
  | metricOutOfRange
  | fileReadFailed
  | fileParseFailed
  | entryFailed
  deriving DecidableEq, Repr

/-- How grave a problem is. -/
inductive Severity where
  | warning
  | error
  deriving DecidableEq, Repr

def Severity.label : Severity → String
  | .warning => "warning"
  | .error => "error"

namespace DiagnosticKind

/-- Every kind, in the order in which reports list them. -/
def all : List DiagnosticKind :=
  [structuralWarning, orphanCallout, frontMatterInvalid, dateInvalid, dateUnresolved,
    contentBoundaryMissing, metricMalformed, metricOutOfRange, fileReadFailed, fileParseFailed,
    entryFailed]

/-- The name of a kind in reports and logs. -/
def label : DiagnosticKind → String
  | structuralWarning => "structural_warning"
  | orphanCallout => "orphan_callout"
  | frontMatterInvalid => "frontmatter_invalid"
  | dateInvalid => "date_invalid"
  | dateUnresolved => "date_unresolved"
  | contentBoundaryMissing => "content_boundary_missing"
  | metricMalformed => "metric_malformed"
  | metricOutOfRange => "metric_out_of_range"
  | fileReadFailed => "file_read_failed"
  | fileParseFailed => "file_parse_failed"
  | entryFailed => "entry_failed"

/-- The kind with a name. -/
def ofLabel? (label : Text) : Option DiagnosticKind :=
  all.find? fun kind => Text.of kind.label = label

/-- A skipped file or entry is an error, everything else a warning. -/
def severity : DiagnosticKind → Severity
  | fileReadFailed | fileParseFailed | entryFailed => .error
  | _ => .warning

end DiagnosticKind

/-- One recorded problem. -/
structure Diagnostic where
  /-- The path of the note, or `path#anchor` for a problem with one entry. -/
  source : Text
  kind : DiagnosticKind
  message : Text
  /-- The line in the note, counted from one, where it is known. -/
  line : Option Nat
  deriving DecidableEq, Repr

namespace Diagnostic

def severity (d : Diagnostic) : Severity := d.kind.severity

/-- The diagnostics of one kind. -/
def ofKind (kind : DiagnosticKind) (ds : List Diagnostic) : List Diagnostic :=
  ds.filter fun d => d.kind = kind

/-- How many diagnostics there are of one kind. -/
def count (kind : DiagnosticKind) (ds : List Diagnostic) : Nat := (ofKind kind ds).length

/-- How many diagnostics there are of each kind that occurs, first seen first. -/
def countsByKind (ds : List Diagnostic) : OrderedMap DiagnosticKind Nat :=
  ds.foldl (fun counts d => counts.alter d.kind fun n => n.getD 0 + 1) []

/-- Whether some data was lost. -/
def anyError (ds : List Diagnostic) : Bool := ds.any fun d => d.severity = .error

end Diagnostic
end DreamJournal
