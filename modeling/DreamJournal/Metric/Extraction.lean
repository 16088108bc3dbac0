import DreamJournal.Callout.Basic
import DreamJournal.Diagnostic
import DreamJournal.Metric.Basic
import DreamJournal.Metric.Definition

/-!
# Reading metrics

The text of a metrics callout is read segment by segment. Every segment that is not blank either
becomes a metric or is reported: as malformed when it has no name or no value, or when a segment
before it has the same name. A number outside the bounds of its definition is reported and kept.

Reading ends at a whole number with too many digits. What was reported up to there stays
reported.
-/
namespace DreamJournal

namespace Metric

/-- A line of a callout without quote markers, callout tag and block reference. -/
def bareLine (line : Text) : Text :=
  let t := Text.trim (Marker.strip line)
  let untagged :=
    match t with
    | '[' :: '!' :: rest =>
      match Text.cut? ']' rest with
      | some (_, '+' :: after) | some (_, '-' :: after) => after
      | some (_, after) => after
      | none => t
    | _ => t
  Text.trim (Reference.remove untagged)

/-- The metrics text of some raw lines. -/
def textOfLines (lines : List Text) : Text :=
  Text.joinLines ((lines.map bareLine).filter fun line => !line.isEmpty)

/-- The metrics text of a callout: its title and what follows. -/
def textOfCallout (c : Callout) : Text := textOfLines (c.title :: c.body)

/-- What reading some segments gave. -/
structure Extraction where
  metrics : OrderedMap Text Metric
  /-- Kinds and messages of the reports, in order. -/
  reports : List (DiagnosticKind × Text)
  /-- Why reading ended early, if it did. -/
  ended : Option TooManyDigits
  deriving Repr

/-- A report in front of those of an extraction. -/
def Extraction.reportFirst (e : Extraction) (kind : DiagnosticKind) (message : Text) : Extraction :=
  { e with reports := (kind, message) :: e.reports }

/-- The number that the value of a metric counts as; none under a definition for texts. -/
def numberUnder? (definition : Option MetricDefinition) (raw : Text) :
    Except TooManyDigits (Option Number) :=
  match definition with
  | some d => if d.isText then .ok none else number? raw
  | none => number? raw

/-- The report on a number outside the bounds of its definition. -/
def rangeReport? (definition : Option MetricDefinition) (raw : Text) (numeric : Option Number) :
    Option Text :=
  match definition, numeric with
  | some d, some n =>
    if d.inRange n then none
    else some (Text.of "Metric '" ++ d.name ++ Text.of "' value " ++ raw ++ Text.of " outside " ++
      d.rangeText)
  | _, _ => none

def duplicate (display raw : Text) : Text :=
  Text.of "Duplicate metric '" ++ display ++ Text.of "' ignored (value " ++ Text.quoted raw ++
    Text.of ")"

/-- Read segments when some metrics are known already. -/
def extractFrom (definitions : List MetricDefinition) (known : OrderedMap Text Metric) :
    List Text → Extraction
  | [] => ⟨known, [], none⟩
  | segment :: rest =>
    match ofSegment segment with
    | .error fault =>
      (extractFrom definitions known rest).reportFirst .metricMalformed fault.message
    | .ok (name, raw) =>
      let definition := MetricDefinition.lookup? definitions name
      let display := (definition.map MetricDefinition.name).getD name
      if known.has display then
        (extractFrom definitions known rest).reportFirst .metricMalformed (duplicate display raw)
      else
        match numberUnder? definition raw with
        | .error tooMany => ⟨known, [], some tooMany⟩
        | .ok numeric =>
          let metric : Metric := ⟨display, raw, numeric, definition.isSome⟩
          let later := extractFrom definitions (known ++ [(display, metric)]) rest
          match rangeReport? definition raw numeric with
          | some message => later.reportFirst .metricOutOfRange message
          | none => later

/-- Read a metrics text. -/
def extract (definitions : List MetricDefinition) (t : Text) : Extraction :=
  extractFrom definitions [] (segments t)

/-- The reports as diagnostics of an entry. -/
def Extraction.diagnostics (e : Extraction) (source : Text) (line : Option Nat) :
    List Diagnostic :=
  e.reports.map fun (kind, message) => ⟨source, kind, message, line⟩

end Metric

/-- The names under which values enter the statistics of a run. -/
def MetricDefinition.aggregatedNames (definitions : List MetricDefinition) : List Text :=
  (definitions.filter MetricDefinition.isAggregated).map MetricDefinition.name

end DreamJournal
