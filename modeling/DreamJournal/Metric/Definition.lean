import DreamJournal.Number.Basic
import DreamJournal.Text.Quoted

/-!
# Metric definitions

A definition tells what a metric is called, which values are expected and whether its values
enter the statistics of a run. Names are compared by their keys: one space between words and no
difference between upper and lower case.

The word count of an entry is computed and has the name of a metric; no definition may take it.
This and the order of the bounds are part of the type.
-/
namespace DreamJournal

/-- What the values of a metric are: numbers that are read and checked, or texts that are kept
as they are written. -/
inductive MetricKind where
  | number
  | text
  deriving DecidableEq, Repr

namespace MetricKind

def all : List MetricKind := [number, text]

def label : MetricKind → String
  | number => "number"
  | text => "text"

def ofLabel? (label : Text) : Option MetricKind := all.find? fun kind => Text.of kind.label = label

end MetricKind

namespace Metric

/-- The form of a metric's name by which it is found. -/
def key (name : Text) : Text := Text.fold (Text.oneSpaced name)

/-- The name under which the computed word count of entries is collected. -/
def wordCountName : Text := Text.of "Word Count"

/-- Whether the least value, where there is one, lies above the greatest. -/
def boundsCross (minimum maximum : Option Number) : Bool :=
  match minimum, maximum with
  | some least, some greatest => greatest.less least
  | _, _ => false

/-- A name and bounds that a definition may have. -/
def IsAcceptable (name : Text) (minimum maximum : Option Number) : Prop :=
  Text.isAllBlank name = false ∧ key name ≠ key wordCountName ∧ boundsCross minimum maximum = false

instance (name : Text) (minimum maximum : Option Number) :
    Decidable (IsAcceptable name minimum maximum) := by
  unfold IsAcceptable; infer_instance

end Metric

/-- A metric that is known beforehand. -/
structure MetricDefinition where
  name : Text
  minimum : Option Number
  maximum : Option Number
  /-- Whether its values enter the statistics of a run. -/
  enabled : Bool
  description : Option Text
  kind : MetricKind
  acceptable : Metric.IsAcceptable name minimum maximum
  deriving DecidableEq, Repr

/-- Why there is no such definition. -/
inductive DefinitionFault where
  | noName
  | reserved (name : Text)
  /-- What was given instead of a kind, as messages show it. -/
  | unknownKind (name given : Text)
  | crossedBounds (name minimum maximum : Text)
  deriving DecidableEq, Repr

def DefinitionFault.message : DefinitionFault → Text
  | noName => Text.of "Metric name cannot be empty"
  | reserved name =>
    Text.of "Metric name '" ++ name ++ Text.of "' is reserved for the computed word count"
  | unknownKind name given =>
    let labels := MetricKind.all.map fun kind => Text.quoted (Text.of kind.label)
    Text.of "Metric '" ++ name ++ Text.of "': type must be one of [" ++
      Text.join (Text.of ", ") labels ++ Text.of "], got " ++ given
  | crossedBounds name minimum maximum =>
    Text.of "Metric '" ++ name ++ Text.of "': min_value " ++ minimum ++ Text.of " > max_value " ++
      maximum

/-- The text of a bound. -/
def boundText (bound : Option Number) : Text := (bound.map Number.toText).getD (Text.of "None")

namespace MetricDefinition

/-- The definition with the given parts. The kind may be missing; then it is given as messages
show it. -/
def ofParts (name : Text) (minimum maximum : Option Number) (enabled : Bool)
    (description : Option Text) (kind : Except Text MetricKind) :
    Except DefinitionFault MetricDefinition :=
  if Text.isAllBlank name then .error .noName
  else if Metric.key name = Metric.key Metric.wordCountName then .error (.reserved name)
  else
    match kind with
    | .error given => .error (.unknownKind name given)
    | .ok kind =>
      if acceptable : Metric.IsAcceptable name minimum maximum then
        .ok { name, minimum, maximum, enabled, description, kind, acceptable }
      else .error (.crossedBounds name (boundText minimum) (boundText maximum))

def key (d : MetricDefinition) : Text := Metric.key d.name

def isText (d : MetricDefinition) : Bool := d.kind = .text

/-- Whether values of the metric enter the statistics of a run. -/
def isAggregated (d : MetricDefinition) : Bool := d.enabled && !d.isText

/-- Whether a value lies within the bounds. A value that compares with no number does. -/
def inRange (d : MetricDefinition) (value : Number) : Bool :=
  let below := (d.minimum.map fun least => value.less least).getD false
  let above := (d.maximum.map fun greatest => greatest.less value).getD false
  !below && !above

/-- The bounds between brackets. -/
def rangeText (d : MetricDefinition) : Text :=
  '[' :: boundText d.minimum ++ Text.of ", " ++ boundText d.maximum ++ [']']

/-- The definition of a name: the last of those with its key. -/
def lookup? (definitions : List MetricDefinition) (name : Text) : Option MetricDefinition :=
  definitions.reverse.find? fun d => d.key = Metric.key name

end MetricDefinition
end DreamJournal
