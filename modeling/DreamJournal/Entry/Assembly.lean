import DreamJournal.Entry.Dream
import DreamJournal.Fault
import DreamJournal.Metric.Extraction
import DreamJournal.Narrative.Title

/-!
# Assembling an entry

The narrative of a dream is what its diary says in front of the metrics; the metrics come from
the metrics callout. A dream fails to become an entry when it has neither a title nor a
narrative, or when a metric is a whole number with too many digits. Whatever was reported before
it failed stays reported.
-/
namespace DreamJournal

/-- Why a dream is no entry. -/
inductive EntryFault where
  | tooManyDigits (fault : TooManyDigits)
  | nothingThere (kind : Text) (line : Nat)
  deriving DecidableEq, Repr

def EntryFault.toFault : EntryFault → Fault
  | tooManyDigits fault => .badValue fault.message
  | nothingThere kind line =>
    ⟨Text.of "EntryAssemblyError", Text.of "[!" ++ kind ++ Text.of "] at line " ++
      Text.ofNat line ++ Text.of " has no title and no content"⟩

/-- What became of a dream. -/
structure Assembly where
  diagnostics : List Diagnostic
  entry : Except EntryFault Entry

namespace Dream

/-- The narrative of a dream. -/
def content (d : Dream) (settings : Settings) : Text :=
  Narrative.clean settings.metricsCallout settings.paragraphMode (Text.joinLines d.diary.body)

/-- What reading the metrics of a dream gave. -/
def metricsRead (d : Dream) (settings : Settings) : Metric.Extraction :=
  match d.metrics with
  | some callout => Metric.extract settings.metrics (Metric.textOfCallout callout)
  | none => ⟨[], [], none⟩

/-- What is said of the metrics of a dream. -/
def metricsDiagnostics (d : Dream) (settings : Settings) (source : Text) : List Diagnostic :=
  match d.metrics with
  | some callout => (d.metricsRead settings).diagnostics (d.reference source) callout.lineNumber
  | none =>
    Narrative.boundaryDiagnostics settings.metricsCallout false (d.reference source)
      d.diary.lineNumber

/-- Whether a dream has neither a title nor a narrative. -/
def isVoid (d : Dream) (settings : Settings) : Bool :=
  (d.content settings).isEmpty && Text.isAllBlank d.diary.title

/-- The entry of a dream. -/
def entry (d : Dream) (settings : Settings) (source : Text) (date : ResolvedDate) :
    Except EntryFault Entry :=
  match (d.metricsRead settings).ended with
  | some fault => .error (.tooManyDigits fault)
  | none =>
    if d.isVoid settings then .error (.nothingThere d.diary.kind d.diary.lineNumber)
    else
      let content := d.content settings
      .ok { date, content, source
            title := Narrative.title d.diary.title
            anchor := d.anchor
            metrics := (d.metricsRead settings).metrics
            wordCount := Narrative.wordCount content
            metadata := d.diary.metadata }

/-- Assemble the entry of a dream. A failure is reported last. -/
def assemble (d : Dream) (settings : Settings) (source : Text) (date : ResolvedDate) :
    Assembly :=
  let entry := d.entry settings source date
  let failure : List Diagnostic :=
    match entry with
    | .ok _ => []
    | .error fault =>
      [⟨d.reference source, .entryFailed, fault.toFault.line, some d.diary.lineNumber⟩]
  ⟨d.metricsDiagnostics settings source ++ failure, entry⟩

end Dream
end DreamJournal
