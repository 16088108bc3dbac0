import DreamJournal.Proofs.OrderedMap
import DreamJournal.Run.Basic

/-!
# What a run collects under a name

Every entry adds to the numbers of a run behind those that are there. Under the name of a metric
it adds what its metrics declare, in their order; under the name of the word count it adds the word
count alone, since no definition has that name.
-/
namespace DreamJournal

namespace Aggregate

/-- The number that a metric of an entry adds under a name, when `names` are those that count. -/
def counted (names : List Text) (name : Text) (entry : Text × Metric) : Option Number :=
  if entry.1 = name ∧ name ∈ names ∧ entry.2.configured then entry.2.numeric else none

variable {names : List Text} {name : Text}

theorem values_add (a : Aggregate) (key name : Text) (value : Number) :
    values (a.add key value) name = values a name ++ if name = key then [value] else [] := by
  unfold values add
  rw [OrderedMap.get?_alter]
  by_cases same : name = key <;> simp [same]

theorem values_addMetric (a : Aggregate) (entry : Text × Metric) :
    values (addMetric names a entry) name = values a name ++ (counted names name entry).toList := by
  unfold addMetric counted
  cases entry.2.numeric with
  | none => simp
  | some value =>
    simp only [Bool.and_eq_true, List.contains_iff_mem]
    by_cases same : entry.1 = name
    · rw [same]
      by_cases counts : name ∈ names ∧ entry.2.configured = true
      · rw [if_pos counts, if_pos ⟨rfl, counts⟩, values_add, if_pos rfl, Option.toList_some]
      · rw [if_neg counts, if_neg (fun all => counts all.2), Option.toList_none, List.append_nil]
    · -- the number goes elsewhere, or nowhere
      have nothing : ¬(entry.1 = name ∧ name ∈ names ∧ entry.2.configured = true) :=
        fun all => same all.1
      rw [if_neg nothing, Option.toList_none, List.append_nil]
      split
      · rw [values_add, if_neg (Ne.symm same), List.append_nil]
      · rfl

theorem values_addMetrics (a : Aggregate) (metrics : OrderedMap Text Metric) :
    values (metrics.foldl (addMetric names) a) name =
      values a name ++ metrics.filterMap (counted names name) := by
  induction metrics generalizing a with
  | nil => simp
  | cons entry rest ih =>
    rw [List.foldl_cons, ih, values_addMetric, List.append_assoc, List.filterMap_cons]
    cases counted names name entry <;> rfl

/-- An entry adds what its metrics declare. -/
theorem values_addEntry (a : Aggregate) (metrics : OrderedMap Text Metric) (wordCount : Nat)
    (declared : name ≠ Metric.wordCountName) :
    values (a.addEntry names metrics wordCount) name =
      values a name ++ metrics.filterMap (counted names name) := by
  rw [addEntry, values_add, if_neg declared, values_addMetrics, List.append_nil]

/-- An entry adds its word count, and no declared number, under the name of the word count. -/
theorem values_addEntry_wordCount (a : Aggregate) (metrics : OrderedMap Text Metric)
    (wordCount : Nat) (free : Metric.wordCountName ∉ names) :
    values (a.addEntry names metrics wordCount) Metric.wordCountName =
      values a Metric.wordCountName ++ [.whole wordCount] := by
  have none : metrics.filterMap (counted names Metric.wordCountName) = [] := by
    rw [List.filterMap_eq_nil_iff]
    intro entry _
    simp [counted, free]
  rw [addEntry, values_add, values_addMetrics, none, List.append_nil, if_pos rfl]

/-- A name is there once, and only with a number. -/
structure Tidy (a : Aggregate) : Prop where
  distinct : a.keys.Nodup
  inhabited : ∀ known ∈ a.keys, a.values known ≠ []

variable {a : Aggregate}

theorem tidy_empty : Tidy [] := ⟨List.nodup_nil, by simp [OrderedMap.keys]⟩

theorem Tidy.mem_keys_iff (tidy : Tidy a) : name ∈ a.keys ↔ a.values name ≠ [] := by
  constructor
  · exact tidy.inhabited name
  · intro numbers
    apply (OrderedMap.mem_keys_iff a name).mpr
    cases found : OrderedMap.get? a name with
    | none => simp [values, found] at numbers
    | some ns => exact ⟨ns, rfl⟩

theorem Tidy.add (tidy : Tidy a) (key : Text) (value : Number) : Tidy (a.add key value) := by
  constructor
  case distinct => exact OrderedMap.nodup_keys_alter tidy.distinct _ _
  case inhabited =>
    intro known member
    rw [values_add]
    rcases (OrderedMap.mem_keys_alter a key known _).mp member with old | rfl
    · simp [tidy.inhabited known old]
    · simp

theorem Tidy.addMetric (tidy : Tidy a) (entry : Text × Metric) :
    Tidy (addMetric names a entry) := by
  unfold Aggregate.addMetric
  split
  · split
    · exact tidy.add _ _
    · exact tidy
  · exact tidy

theorem Tidy.addEntry (tidy : Tidy a) (metrics : OrderedMap Text Metric) (wordCount : Nat) :
    Tidy (a.addEntry names metrics wordCount) := by
  unfold Aggregate.addEntry
  apply Tidy.add
  induction metrics generalizing a with
  | nil => exact tidy
  | cons entry rest ih => exact ih (tidy.addMetric entry)

end Aggregate

/-- No definition has the name of the word count. -/
theorem MetricDefinition.name_ne_wordCount (d : MetricDefinition) :
    d.name ≠ Metric.wordCountName := by
  intro same
  exact d.acceptable.2.1 (congrArg Metric.key same)

theorem MetricDefinition.wordCount_not_aggregated (definitions : List MetricDefinition) :
    Metric.wordCountName ∉ aggregatedNames definitions := by
  intro member
  obtain ⟨d, _, same⟩ := List.mem_map.mp member
  exact d.name_ne_wordCount same

namespace Run

/-- The numbers that declared metrics add under a name. -/
def declared (settings : Settings) (name : Text) (metrics : OrderedMap Text Metric) : List Number :=
  metrics.filterMap (Aggregate.counted (MetricDefinition.aggregatedNames settings.metrics) name)

variable {settings : Settings} {name : Text}

theorem values_collectAll (a : Aggregate) (entries : List Entry)
    (isDeclared : name ≠ Metric.wordCountName) :
    (entries.foldl (collect settings) a).values name =
      a.values name ++ entries.flatMap fun e => declared settings name e.metrics := by
  induction entries generalizing a with
  | nil => simp
  | cons e rest ih =>
    rw [List.foldl_cons, ih, collect, Aggregate.values_addEntry _ _ _ isDeclared,
      List.append_assoc, List.flatMap_cons]
    rfl

theorem wordCounts_collectAll (a : Aggregate) (entries : List Entry) :
    (entries.foldl (collect settings) a).values Metric.wordCountName =
      a.values Metric.wordCountName ++ entries.map fun e => .whole e.wordCount := by
  have free := MetricDefinition.wordCount_not_aggregated settings.metrics
  induction entries generalizing a with
  | nil => simp
  | cons e rest ih =>
    rw [List.foldl_cons, ih, collect, Aggregate.values_addEntry_wordCount _ _ _ free,
      List.append_assoc, List.map_cons, List.singleton_append]

theorem tidy_collectAll {a : Aggregate} (tidy : a.Tidy) (entries : List Entry) :
    (entries.foldl (collect settings) a).Tidy := by
  induction entries generalizing a with
  | nil => exact tidy
  | cons e rest ih => exact ih (tidy.addEntry e.metrics e.wordCount)

end Run
end DreamJournal
