import DreamJournal.Proofs.Metric.Segments
import DreamJournal.Proofs.OrderedMap
import DreamJournal.Proofs.Settings.RoundTrip

/-!
# Two ways to look a definition up

Settings find the definition of a name by going through all of them up to the first with its key.
Extraction puts them into a dictionary, in which a later definition takes the place of an earlier
one. With distinct keys the order of definitions does not matter, so the two find the same. That
keys are distinct is checked wherever settings come from: they are made of parts, read from data or
another settings' with some fields replaced, and each of these ends in the check.
-/
namespace DreamJournal

variable {definitions others : List MetricDefinition} {name : Text}

namespace MetricDefinition

/-! ## Definitions in a dictionary -/

/-- Definitions under their keys, the last of those with one key. -/
def byKey (definitions : List MetricDefinition) : OrderedMap Text MetricDefinition :=
  definitions.foldl (fun known d => known.put d.key d) []

theorem lookup?_concat (before : List MetricDefinition) (d : MetricDefinition) (name : Text) :
    lookup? (before ++ [d]) name =
      if d.key = Metric.key name then some d else lookup? before name := by
  unfold lookup?
  rw [List.reverse_append, List.reverse_singleton, List.singleton_append, List.find?_cons]
  by_cases keyed : d.key = Metric.key name
  · rw [if_pos keyed, decide_eq_true keyed]
  · rw [if_neg keyed, decide_eq_false keyed]

theorem get?_byKey (definitions : List MetricDefinition) (name : Text) :
    (byKey definitions).get? (Metric.key name) = lookup? definitions name := by
  -- the last definition decides, so the induction takes definitions off at the end
  induction definitions using List.reverseRecOn with
  | nil => rfl
  | append_singleton before d ih =>
    have added : byKey (before ++ [d]) = (byKey before).put d.key d := by
      simp only [byKey, List.foldl_append, List.foldl_cons, List.foldl_nil]
    rw [added, OrderedMap.put, OrderedMap.get?_alter, ih, lookup?_concat]
    simp only [eq_comm]

/-- With distinct keys, what is found does not depend on the order of definitions. -/
theorem lookup?_perm (distinct : (definitions.map key).Nodup) (perm : definitions.Perm others) :
    lookup? definitions name = lookup? others name := by
  have otherwise : (others.map key).Nodup := (perm.map key).nodup_iff.mp distinct
  cases found : lookup? definitions name with
  | some d =>
    obtain ⟨listed, keyed⟩ := lookup?_mem found
    exact (lookup?_of_mem otherwise (perm.mem_iff.mp listed) keyed).symm
  | none =>
    symm
    apply lookup?_eq_none
    intro d listed keyed
    have here := lookup?_of_mem distinct (perm.mem_iff.mpr listed) keyed
    rw [found] at here
    cases here

/-- With distinct keys, the first definition with a key is also the last. -/
theorem find?_key_eq_lookup? (distinct : (definitions.map key).Nodup) :
    (definitions.find? fun d => d.key = Metric.key name) = lookup? definitions name := by
  -- the first one is what is looked up when the order is reversed
  rw [lookup?_perm distinct definitions.reverse_perm.symm, lookup?, List.reverse_reverse]

end MetricDefinition

namespace Settings

/-! ## Where settings come from -/

/-- Settings that are made of parts, whatever definitions are among them, that are read from data,
or that are such settings with some fields replaced. -/
inductive Reachable : Settings → Prop where
  | made {draft : Draft} {s : Settings} (built : ofDraft draft = .ok s) : Reachable s
  | read {d : Datum} {s : Settings} (described : ofDatum d = .ok s) : Reachable s
  | changed {s s' : Settings} {changes : List (Text × Datum)} (before : Reachable s)
      (overridden : s.withOverrides changes = .ok s') : Reachable s'

variable {s : Settings} {draft : Draft}

theorem ofDraft_standard : ofDraft {} = .ok standard :=
  ofDraft_eq_ok_iff.mpr ⟨rfl, rfl, rfl, rfl, rfl, rfl, rfl⟩

/-- Parts with two definitions of one key are refused. -/
theorem nodup_of_ofDraft (built : ofDraft draft = .ok s) :
    (draft.metrics.map MetricDefinition.key).Nodup := by
  simp only [ofDraft, Except.bind_eq_ok_iff] at built
  obtain ⟨_, _, _, _, _, _, _, _, checked⟩ := built
  split at checked
  next distinct => exact distinct
  next => cases checked

/-- However settings come about, they are made of parts in the end. -/
theorem Reachable.exists_draft (reachable : Reachable s) : ∃ draft, ofDraft draft = .ok s := by
  cases reachable with
  | made built => exact ⟨_, built⟩
  | @read d _ described =>
    unfold ofDatum at described
    split at described
    next =>
      obtain rfl := Except.ok.inj described
      exact ⟨{}, ofDraft_standard⟩
    next =>
      obtain ⟨_, _, described⟩ := Except.bind_eq_ok_iff.mp described
      obtain ⟨draft, _, built⟩ := Except.bind_eq_ok_iff.mp described
      exact ⟨draft, built⟩
    next => cases described
  | changed before overridden =>
    -- replacing the definitions is no exception: the parts are checked again
    obtain ⟨draft, _, built⟩ := Except.bind_eq_ok_iff.mp overridden
    exact ⟨draft, built⟩

theorem Reachable.distinct_keys (reachable : Reachable s) :
    (s.metrics.map MetricDefinition.key).Nodup := by
  -- what the check of the parts says, told of the settings that came of them
  obtain ⟨draft, built⟩ := reachable.exists_draft
  obtain ⟨_, _, _, _, same, _, _⟩ := ofDraft_eq_ok_iff.mp built
  exact same ▸ nodup_of_ofDraft built

theorem wordCount_not_mem_keys (definitions : List MetricDefinition) :
    Metric.key Metric.wordCountName ∉ definitions.map MetricDefinition.key := by
  intro listed
  obtain ⟨d, _, reserved⟩ := List.mem_map.mp listed
  exact d.acceptable.2.1 reserved

/-! ## One answer -/

/-- The keys of definitions are distinct and none is that of the word count, so the first definition
with the key of a name is the one that the dictionary of definitions has under it. -/
theorem Reachable.definition?_agrees (reachable : Reachable s) :
    (s.metrics.map MetricDefinition.key).Nodup ∧
      Metric.key Metric.wordCountName ∉ s.metrics.map MetricDefinition.key ∧
      ∀ name, s.definition? name = MetricDefinition.lookup? s.metrics name ∧
        MetricDefinition.lookup? s.metrics name =
          (MetricDefinition.byKey s.metrics).get? (Metric.key name) := by
  refine ⟨reachable.distinct_keys, wordCount_not_mem_keys s.metrics, fun name => ⟨?_, ?_⟩⟩
  · exact MetricDefinition.find?_key_eq_lookup? reachable.distinct_keys
  · exact (MetricDefinition.get?_byKey s.metrics name).symm

/-- Data that replace the definitions by ones with the given names. -/
def namedMetrics (names : List String) : List (Text × Datum) :=
  [(Text.of "metrics",
    .list (names.map fun name => .map [Datum.field "name" (.text (Text.of name))]))]

theorem Reachable.definition?_agrees_replaced :
    ∃ s, standard.withOverrides (namedMetrics ["Moon  Phase", "Tide"]) = .ok s ∧
      s.metrics.map MetricDefinition.key = ["moon phase", "tide"].map Text.of ∧
      (s.definition? (Text.of "MOON phase")).map MetricDefinition.name =
        some (Text.of "Moon  Phase") ∧
      s.definition? (Text.of "MOON phase") =
        (MetricDefinition.byKey s.metrics).get? (Metric.key (Text.of "MOON phase")) := by
  obtain ⟨s, replaced, checked⟩ := Except.exists_ok_of_all
    (standard.withOverrides (namedMetrics ["Moon  Phase", "Tide"]))
    (fun s => decide (s.metrics.map MetricDefinition.key = ["moon phase", "tide"].map Text.of ∧
      (s.definition? (Text.of "MOON phase")).map MetricDefinition.name =
        some (Text.of "Moon  Phase"))) (by decide +kernel)
  obtain ⟨keys, known⟩ := of_decide_eq_true checked
  have reachable : Reachable s := .changed (.made ofDraft_standard) replaced
  obtain ⟨_, _, agrees⟩ := definition?_agrees reachable
  obtain ⟨first, last⟩ := agrees (Text.of "MOON phase")
  exact ⟨s, replaced, keys, known, first.trans last⟩

/-- Names that differ in their case only are not both taken. -/
example : standard.withOverrides (namedMetrics ["Moon", " MOON"]) =
    .error (.duplicates [Text.of "moon"]) := by
  decide +kernel

end Settings
end DreamJournal
