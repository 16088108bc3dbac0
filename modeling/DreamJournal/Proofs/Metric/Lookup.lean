import DreamJournal.Entry.Basic
import DreamJournal.Proofs.Metric.Listing
import Mathlib.Data.List.Find

/-!
# Metrics looked up by name

The metric of a name is looked up without regard to case. Reading a metrics text compares names in
this way only with those of definitions: two names without a definition that differ in their case
become two metrics, of which the second cannot be looked up. `metric?_faithful_iff` says that this
is the only way in which a metric is hidden behind another.
-/
namespace DreamJournal

open DreamJournal.Metric

variable {definitions : List MetricDefinition} {known : OrderedMap Text Metric}
  {name a b t : Text} {before segments : List Text} {e : Metric.Extraction}

/-! ## Entries whose metrics are stored under their names -/

/-- Every metric is found under its own name exactly if no two names are equal but for their
case. -/
theorem Entry.metric?_own_iff (x : Entry)
    (selfNamed : ∀ entry ∈ x.metrics, entry.2.name = entry.1) :
    (∀ name ∈ x.metrics.keys, x.metric? name = x.metrics.get? name) ↔
      ∀ a ∈ x.metrics.keys, ∀ b ∈ x.metrics.keys, Text.fold a = Text.fold b → a = b := by
  constructor
  · intro faithful a listed b other same
    -- both names find one metric, which has one name
    obtain ⟨first, found⟩ := (OrderedMap.mem_keys_iff x.metrics a).mp listed
    have again : x.metrics.get? b = some first := by
      rw [← faithful b other, Entry.metric?, ← same, ← found, ← faithful a listed, Entry.metric?]
    have own := selfNamed _ (OrderedMap.mem_of_get? found)
    exact own.symm.trans (selfNamed _ (OrderedMap.mem_of_get? again))
  · intro apart name listed
    have agree : ∀ known ∈ x.metrics,
        decide (Text.fold known.1 = Text.fold name) = decide (known.1 = name) := by
      intro known member
      refine decide_eq_decide.mpr ⟨?_, congrArg Text.fold⟩
      exact apart known.1 (List.mem_map_of_mem member) name listed
    rw [Entry.metric?, List.find?_congr agree, OrderedMap.get?]

namespace Metric

/-! ## Names of metrics -/

theorem Reads.covers (reads : Reads definitions known segments e)
    (covers : Covers definitions before known) (whole : e.ended = none) :
    Covers definitions (before ++ segments) e.metrics := by
  induction reads generalizing before with
  | done => rwa [List.append_nil]
  | malformed refused later ih =>
    rw [List.append_cons]
    apply ih (covers.pass _) whole
    simp [shownAs?, refused, Except.toOption]
  | again isPair isKnown later ih =>
    rw [List.append_cons]
    apply ih (covers.pass _) whole
    intro shown same
    rw [shownAs?_of_ok isPair] at same
    exact Option.some.inj same ▸ isKnown
  | overlong => cases whole
  | metric isPair isNew number later ih =>
    rw [List.append_cons]
    have rest := ih (covers.add isPair _) (by split at whole <;> exact whole)
    split <;> exact rest

theorem Reads.selfNamed (reads : Reads definitions known segments e)
    (before : ∀ entry ∈ known, entry.2.name = entry.1) :
    ∀ entry ∈ e.metrics, entry.2.name = entry.1 := by
  induction reads with
  | done => exact before
  | malformed _ _ ih => exact ih before
  | again _ _ _ ih => exact ih before
  | overlong => exact before
  | metric _ _ _ _ ih =>
    have rest := ih (List.forall_mem_append.mpr ⟨before, by simp⟩)
    split <;> exact rest

/-- A well-formed segment goes by the name that its name is shown as. -/
theorem shownAs?_eq_some_iff {segment shown : Text} : shownAs? definitions segment = some shown ↔
    ∃ name raw, IsPair segment name raw ∧ shown = displayName definitions name := by
  constructor
  · intro named
    obtain ⟨⟨name, raw⟩, pair, rfl⟩ := Option.map_eq_some_iff.mp named
    cases read : ofSegment segment with
    | error fault => simp [read, Except.toOption] at pair
    | ok written =>
      rw [read] at pair
      obtain rfl := Option.some.inj pair
      exact ⟨name, raw, ofSegment_eq_ok_iff.mp read, rfl⟩
  · rintro ⟨name, raw, isPair, rfl⟩
    exact shownAs?_of_ok (ofSegment_eq_ok_iff.mpr isPair)

/-- The names of metrics are those that well-formed segments go by. -/
theorem mem_keys_extract_iff (whole : (extract definitions t).ended = none) :
    name ∈ (extract definitions t).metrics.keys ↔ ∃ segment ∈ Metric.segments t, ∃ written raw,
      IsPair segment written raw ∧ name = displayName definitions written := by
  have nothing : Covers definitions [] [] := by simp [Covers, OrderedMap.keys]
  have covers := (reads_extractFrom definitions [] (Metric.segments t)).covers nothing whole
  simp only [← shownAs?_eq_some_iff]
  exact covers name

theorem key_congr (same : Text.fold a = Text.fold b) : key a = key b := by
  rw [key, key, Text.fold_oneSpaced, Text.fold_oneSpaced, same]

/-- A name is shown as it is unless a definition has its key. -/
theorem displayName_undefined (undefined : ∀ d ∈ definitions, d.key ≠ key name) :
    displayName definitions name = name := by
  rw [displayName, MetricDefinition.lookup?_eq_none undefined]
  rfl

/-- A definition brings all names with its key together. -/
theorem displayName_congr (same : key a = key b) {d : MetricDefinition} (listed : d ∈ definitions)
    (keyed : d.key = key a) : displayName definitions a = displayName definitions b := by
  have found : MetricDefinition.lookup? definitions a = MetricDefinition.lookup? definitions b := by
    rw [MetricDefinition.lookup?, MetricDefinition.lookup?, same]
  cases defined : MetricDefinition.lookup? definitions a with
  | some other => rw [displayName, displayName, ← found, defined]; rfl
  | none =>
    have none := List.find?_eq_none.mp defined d (List.mem_reverse.mpr listed)
    exact absurd (decide_eq_true keyed) none

/-! ## Metrics that are hidden -/

/-- Two segments have names that differ in their case only, and no definition brings them
together. -/
def CaseClash (definitions : List MetricDefinition) (segments : List Text) : Prop :=
  ∃ one ∈ segments, ∃ other ∈ segments, ∃ a raw b raw', IsPair one a raw ∧ IsPair other b raw' ∧
    a ≠ b ∧ Text.fold a = Text.fold b ∧ ∀ d ∈ definitions, d.key ≠ key a

/-- Names of metrics that differ in their case only are those of a clash. -/
theorem caseClash_iff (whole : (extract definitions t).ended = none) :
    CaseClash definitions (Metric.segments t) ↔
      ∃ a ∈ (extract definitions t).metrics.keys, ∃ b ∈ (extract definitions t).metrics.keys,
        Text.fold a = Text.fold b ∧ a ≠ b := by
  simp only [mem_keys_extract_iff whole]
  constructor
  · rintro ⟨one, listed, other, listed', a, raw, b, raw', isPair, isPair', differ, same, undefined⟩
    have undefined' : ∀ d ∈ definitions, d.key ≠ key b := key_congr same ▸ undefined
    exact ⟨a, ⟨one, listed, a, raw, isPair, (displayName_undefined undefined).symm⟩,
      b, ⟨other, listed', b, raw', isPair', (displayName_undefined undefined').symm⟩, same, differ⟩
  · rintro ⟨_, ⟨one, listed, a, raw, isPair, rfl⟩, _, ⟨other, listed', b, raw', isPair', rfl⟩,
      same, differ⟩
    have keyed : key a = key b := by
      rw [← key_displayName definitions a, key_congr same, key_displayName]
    -- a definition with the key of both would show both under its name
    have undefined : ∀ d ∈ definitions, d.key ≠ key a :=
      fun d member here => differ (displayName_congr keyed member here)
    rw [displayName_undefined undefined, displayName_undefined (keyed ▸ undefined)] at same differ
    exact ⟨one, listed, other, listed', a, raw, b, raw', isPair, isPair', differ, same, undefined⟩

end Metric

/-- In an entry with the metrics of a text, every metric is found under its own name unless two
names without a definition differ in their case only. -/
theorem Entry.metric?_faithful_iff (definitions : List MetricDefinition) (t : Text) (x : Entry)
    (whole : (extract definitions t).ended = none)
    (given : x.metrics = (extract definitions t).metrics) :
    (∀ name ∈ x.metrics.keys, x.metric? name = x.metrics.get? name) ↔
      ¬CaseClash definitions (Metric.segments t) := by
  have selfNamed : ∀ entry ∈ x.metrics, entry.2.name = entry.1 := by
    rw [given]
    exact (reads_extractFrom definitions [] (Metric.segments t)).selfNamed (by simp)
  rw [x.metric?_own_iff selfNamed, caseClash_iff whole, ← given]
  simp only [not_exists, not_and, not_not]

/-- An entry without a narrative that has the metrics of a text. -/
def Entry.metered (t : Text) : Entry where
  date := .ofYear 2025 .pathInference
  title := Text.of "Sea"
  content := []
  source := Text.of "a.md"
  anchor := Text.of "20250101"
  metrics := (extract MetricDefinition.standard t).metrics
  wordCount := 0
  metadata := []

/-- A metric without a definition, and one with a definition under two names. -/
def spelledMetrics : Text := Text.of "Moon: 1, sensory  detail: 3, SENSORY DETAIL: 4"

theorem Entry.metric?_faithful_spelled :
    (extract MetricDefinition.standard spelledMetrics).ended = none ∧
      (metered spelledMetrics).metrics.keys = ["Moon", "Sensory Detail"].map Text.of ∧
      ((∀ name ∈ (metered spelledMetrics).metrics.keys,
          (metered spelledMetrics).metric? name = (metered spelledMetrics).metrics.get? name) ↔
        ¬CaseClash MetricDefinition.standard (Metric.segments spelledMetrics)) := by
  have whole : (extract MetricDefinition.standard spelledMetrics).ended = none := by
    decide +kernel
  exact ⟨whole, by decide +kernel, metric?_faithful_iff _ _ (metered spelledMetrics) whole rfl⟩

/-- A metric that is hidden behind another. -/
theorem Entry.metric?_hidden :
    (MetricDefinition.standard.map MetricDefinition.key).Nodup ∧
      (extract MetricDefinition.standard (Text.of "Moon: 1, moon: 2")).ended = none ∧
      Text.of "moon" ∈ (metered (Text.of "Moon: 1, moon: 2")).metrics.keys ∧
      (metered (Text.of "Moon: 1, moon: 2")).metric? (Text.of "moon") =
        some ⟨Text.of "Moon", ['1'], some (.whole 1), false⟩ ∧
      (metered (Text.of "Moon: 1, moon: 2")).metrics.get? (Text.of "moon") =
        some ⟨Text.of "moon", ['2'], some (.whole 2), false⟩ := by
  decide +kernel

end DreamJournal
