import DreamJournal.Metric.Basic
import DreamJournal.Metric.Definition
import DreamJournal.Number.Summary
import DreamJournal.OrderedMap

/-!
# Collected metrics

The numbers of a run, metric by metric, each in the order of the entries. Only the numbers of
metrics that a definition admits are collected, and the word count of every entry under its own
name.
-/
namespace DreamJournal

/-- Numbers by the names of metrics, the names in the order in which they first came. -/
abbrev Aggregate := OrderedMap Text (List Number)

namespace Aggregate

/-- Collect one number. -/
def add (a : Aggregate) (name : Text) (value : Number) : Aggregate :=
  OrderedMap.alter a name fun values => values.getD [] ++ [value]

/-- Collect the number of a metric, if it has one and its name is among those that count. -/
def addMetric (names : List Text) (a : Aggregate) (entry : Text × Metric) : Aggregate :=
  match entry.2.numeric with
  | some value => if names.contains entry.1 && entry.2.configured then a.add entry.1 value else a
  | none => a

/-- Collect the numbers of an entry and its word count. -/
def addEntry (a : Aggregate) (names : List Text) (metrics : OrderedMap Text Metric)
    (wordCount : Nat) : Aggregate :=
  (metrics.foldl (addMetric names) a).add Metric.wordCountName (.whole wordCount)

/-- The numbers under a name. -/
def values (a : Aggregate) (name : Text) : List Number := (OrderedMap.get? a name).getD []

/-- The summaries of all metrics that have numbers. -/
def summaries : Aggregate → Except SummaryError (OrderedMap Text Summary)
  | [] => .ok []
  | (_, []) :: rest => summaries rest
  | (name, first :: more) :: rest => do
    let summary ← Summary.ofList first more
    .ok ((name, summary) :: (← summaries rest))

end Aggregate
end DreamJournal
