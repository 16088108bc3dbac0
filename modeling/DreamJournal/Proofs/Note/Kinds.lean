import DreamJournal.Note.Basic
import DreamJournal.Proofs.Metric.Reading
import Mathlib.Data.List.Basic

/-!
# Which part of a note reports what

Every part that complains about a note has kinds of diagnostics of its own. So the diagnostics of
one kind can be counted where they arise, and all other parts count as nothing.
-/
namespace DreamJournal

namespace Diagnostic

variable {kind : DiagnosticKind} {kinds : List DiagnosticKind} {ds : List Diagnostic}

theorem ofKind_append (kind : DiagnosticKind) (front back : List Diagnostic) :
    ofKind kind (front ++ back) = ofKind kind front ++ ofKind kind back :=
  List.filter_append ..

theorem mem_ofKind {told : Diagnostic} : told ∈ ofKind told.kind ds ↔ told ∈ ds := by
  simp [ofKind]

theorem count_append (kind : DiagnosticKind) (front back : List Diagnostic) :
    count kind (front ++ back) = count kind front + count kind back := by
  simp [count, ofKind]

theorem count_cons (kind : DiagnosticKind) (d : Diagnostic) (ds : List Diagnostic) :
    count kind (d :: ds) = (if d.kind = kind then 1 else 0) + count kind ds := by
  by_cases same : d.kind = kind <;> simp [count, ofKind, same, Nat.add_comm]

/-- All of some diagnostics are of one of the given kinds. -/
def Among (kinds : List DiagnosticKind) (ds : List Diagnostic) : Prop := ∀ d ∈ ds, d.kind ∈ kinds

theorem Among.append {front back : List Diagnostic} (first : Among kinds front)
    (second : Among kinds back) : Among kinds (front ++ back) := by
  intro d member
  rcases List.mem_append.mp member with left | right
  · exact first d left
  · exact second d right

theorem Among.mono {more : List DiagnosticKind} (among : Among kinds ds) (sub : kinds ⊆ more) :
    Among more ds :=
  fun d member => sub (among d member)

theorem Among.not_mem (among : Among kinds ds) {told : Diagnostic} (other : told.kind ∉ kinds) :
    told ∉ ds :=
  fun member => other (among told member)

theorem Among.ofKind_eq_nil (among : Among kinds ds) (absent : kind ∉ kinds) :
    ofKind kind ds = [] := by
  rw [ofKind, List.filter_eq_nil_iff]
  intro d member same
  exact absent (of_decide_eq_true same ▸ among d member)

theorem Among.count_eq_zero (among : Among kinds ds) (absent : kind ∉ kinds) :
    count kind ds = 0 := by
  rw [count, among.ofKind_eq_nil absent, List.length_nil]

theorem Among.count_eq_length (among : Among [kind] ds) : count kind ds = ds.length := by
  rw [count, ofKind, List.filter_eq_self.mpr]
  exact fun d member => decide_eq_true (List.mem_singleton.mp (among d member))

end Diagnostic

open Diagnostic

theorem Finding.diagnostics_among (f : Finding) (source : Text) :
    Among [.dateInvalid] (f.diagnostics source) := by
  intro d member
  obtain ⟨complaint, _, rfl⟩ := List.mem_map.mp member
  exact List.mem_singleton_self _

/-- Dating a journal complains of dates only. -/
theorem Dating.resolve_among (context : Context) (source : Text) (line : Option Nat)
    (today : Date) :
    Among [.dateInvalid, .dateUnresolved] (resolve context source line today).2 := by
  have complaints : Among [.dateInvalid, .dateUnresolved]
      ((firstDate (findings context)).diagnostics source) :=
    (Finding.diagnostics_among _ source).mono (by simp)
  unfold resolve
  cases found : (firstDate (findings context)).date with
  | some date => simpa only [found] using complaints
  | none =>
    simp only [found]
    refine complaints.append (fun d member => ?_)
    obtain rfl := List.mem_singleton.mp member
    simp

/-- Reading metrics complains of metrics only. -/
theorem Metric.diagnostics_among (definitions : List MetricDefinition) (t source : Text)
    (line : Option Nat) : Among [.metricMalformed, .metricOutOfRange]
      ((extract definitions t).diagnostics source line) := by
  intro report member
  obtain ⟨told, isThere, rfl⟩ := List.mem_map.mp member
  exact (reads_extractFrom definitions [] (segments t)).report_kind told isThere

theorem Dream.metricsDiagnostics_among (d : Dream) (settings : Settings) (source : Text) :
    Among [.metricMalformed, .metricOutOfRange, .contentBoundaryMissing]
      (d.metricsDiagnostics settings source) := by
  unfold metricsDiagnostics metricsRead
  cases d.metrics with
  | none =>
    intro report member
    obtain rfl := List.mem_singleton.mp member
    simp
  | some callout => exact (Metric.diagnostics_among _ _ _ _).mono (by simp)

theorem Scan.diagnostics_among (scan : Scan) (source : Text) :
    Among [.structuralWarning] (scan.diagnostics source) := by
  intro d member
  obtain ⟨told, _, rfl⟩ := List.mem_map.mp member
  exact List.mem_singleton_self _

theorem Note.frontMatterOf_among {source note : Text} {fields : OrderedMap Text Text}
    {complaints : List Diagnostic}
    (returned : frontMatterOf source note = .ok (fields, complaints)) :
    Among [.frontMatterInvalid] complaints := by
  unfold frontMatterOf at returned
  split at returned
  · cases returned
    simp [Among]
  · split at returned
    · cases returned
      simp [Among]
    · cases returned

end DreamJournal
