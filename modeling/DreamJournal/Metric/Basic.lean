import DreamJournal.Number.Basic
import DreamJournal.Text.Quoted

/-!
# Metrics of an entry

A metrics callout holds `Name: value` pairs. A value that is a plain decimal number, a sign and
one point allowed, is read as one: exactly, when it has no point. Every other value is kept as
it is written. Digits of any script are digits.
-/
namespace DreamJournal

/-- One declared metric. -/
structure Metric where
  /-- The name of its definition, or else the name as written. -/
  name : Text
  /-- The value as written. -/
  raw : Text
  /-- The number that the value is, if it is one that counts. -/
  numeric : Option Number
  /-- Whether the metric has a definition. -/
  configured : Bool
  deriving DecidableEq, Repr

namespace Metric

/-- The sign of a number and what follows it. -/
def signOf (t : Text) : Bool × Text :=
  match t with
  | '-' :: rest => (true, rest)
  | '+' :: rest => (false, rest)
  | _ => (false, t)

/-- The number that a value is. A whole number may have too many digits to be read. -/
def number? (written : Text) : Except TooManyDigits (Option Number) :=
  let (negative, size) := signOf (Text.trim written)
  match Text.cut? '.' size with
  | none =>
    if size.isEmpty || !size.all Text.isDecimal then .ok none
    else if digitLimit < size.length then .error ⟨size.length⟩
    else
      let n : Int := Text.decimalNumber size
      .ok (some (.whole (if negative then -n else n)))
  | some (whole, part) =>
    if (whole ++ part).isEmpty || !(whole ++ part).all Text.isDecimal then .ok none
    else
      let digits := Text.decimalNumber (whole ++ part)
      .ok (some (.real (Double.ofDecimal negative digits (-(part.length : Int)))))

/-- Why a segment of a metrics text is no metric. -/
inductive SegmentFault where
  | noColon (segment : Text)
  | noName (segment : Text)
  | noValue (name : Text)
  deriving DecidableEq, Repr

def SegmentFault.message : SegmentFault → Text
  | noColon segment => Text.of "Metric segment has no ':' separator: " ++ Text.quoted segment
  | noName segment => Text.of "Metric segment has an empty name: " ++ Text.quoted segment
  | noValue name => Text.of "Metric '" ++ name ++ Text.of "' has no value"

/-- Name and value of a segment: what stands before and after its first colon. -/
def ofSegment (segment : Text) : Except SegmentFault (Text × Text) :=
  match Text.cut? ':' segment with
  | none => .error (.noColon segment)
  | some (before, after) =>
    let name := Text.oneSpaced before
    let value := Text.trim after
    if name.isEmpty then .error (.noName segment)
    else if value.isEmpty then .error (.noValue name)
    else .ok (name, value)

/-- The segments of a metrics text: pieces of lines between commas, the blank ones left out. -/
def segments (t : Text) : List Text :=
  (((Text.lines t).flatMap (Text.splitOn ',')).map Text.trim).filter fun segment =>
    !segment.isEmpty

end Metric
end DreamJournal
