import DreamJournal.Proofs.Metric.Reading
import DreamJournal.Proofs.Note.Attachment
import DreamJournal.Proofs.Run.Steps

/-!
# A run collects what is declared

The numbers that a run has under the name of a definition are those that its entries declare under
that name, in the order in which the entries came. The word counts stand apart: they are computed,
one for each entry, and whatever a note declares in a name that is spelled like theirs has no
definition and is not collected.
-/
namespace DreamJournal

open DreamJournal.Metric

variable {settings : Settings} {today : Date} {source note : Text} {x : NoteExtraction}

/-! ## The entries of a step -/

/-- The metrics of an entry go by the definitions, and its words are counted in its narrative. -/
structure Entry.IsKept (settings : Settings) (e : Entry) : Prop where
  metrics : WellKept settings.metrics e.metrics
  counted : e.wordCount = Narrative.wordCount e.content

theorem Dream.entry_isKept {d : Dream} {date : ResolvedDate} {e : Entry}
    (isEntry : d.entry settings source date = .ok e) : e.IsKept settings := by
  obtain ⟨_, counted, metrics⟩ := entry_parts isEntry
  refine ⟨?_, counted⟩
  rw [metrics, metricsRead]
  cases d.metrics with
  | none => exact wellKept_nil _
  | some callout => exact extract_wellKept _ _

theorem Note.entries_kept (returned : Note.extract settings today source note = .ok x) :
    ∀ e ∈ x.entries, e.IsKept settings := by
  intro e member
  have each : ∀ d ∈ dreamsOf settings (Scan.ofText note).roots, ∀ e date,
      d.entry settings source date = .ok e → e.IsKept settings :=
    fun d _ e date isEntry => d.entry_isKept isEntry
  obtain ⟨kept, _, related⟩ := forall_entries returned each
  obtain ⟨d, _, _, isKept⟩ := exists_left_of_forall₂ related member
  exact isKept

theorem Step.entries_kept {step : Step} (isUnder : step.IsUnder settings) :
    ∀ e ∈ step.entries, e.IsKept settings := by
  cases step with
  | extracted found =>
    obtain ⟨today, source, note, returned⟩ := isUnder
    exact Note.entries_kept returned
  | unread source fault => simp [Step.entries]
  | givenUp source fault => simp [Step.entries]

namespace Run

/-! ## What is collected of entries -/

/-- What is collected of entries is what they declare under the names of the definitions that count,
and their word counts. -/
structure Collects (settings : Settings) (entries : List Entry) (a : Aggregate) : Prop where
  declared : ∀ d ∈ settings.metrics, d.enabled = true → d.isText = false →
    a.values d.name = entries.filterMap fun e => (e.metrics.get? d.name).bind Metric.numeric
  word_counts : a.values wordCountName = entries.map fun e => .whole e.wordCount
  computed : ∀ e ∈ entries, e.wordCount = Narrative.wordCount e.content
  apart : ∀ e ∈ entries, ∀ entry ∈ e.metrics, key entry.1 = key wordCountName →
    entry.2.configured = false
  distinct : a.keys.Nodup
  known : ∀ name ∈ a.keys, name = wordCountName ∨
    ∃ d ∈ settings.metrics, d.enabled = true ∧ d.isText = false ∧ d.name = name

theorem mem_aggregatedNames_iff (definitions : List MetricDefinition) (name : Text) :
    name ∈ MetricDefinition.aggregatedNames definitions ↔
      ∃ d ∈ definitions, d.enabled = true ∧ d.isText = false ∧ d.name = name := by
  simp [MetricDefinition.aggregatedNames, MetricDefinition.isAggregated, and_assoc]

/-- Under the name of a definition that counts, an entry adds the number that it has there. -/
theorem declared_eq {d : MetricDefinition} (isDefined : d ∈ settings.metrics)
    (enabled : d.enabled = true) (notText : d.isText = false) {metrics : OrderedMap Text Metric}
    (kept : WellKept settings.metrics metrics) :
    declared settings d.name metrics =
      ((metrics.get? d.name).bind Metric.numeric).toList := by
  have counts : d.name ∈ MetricDefinition.aggregatedNames settings.metrics :=
    (mem_aggregatedNames_iff _ _).mpr ⟨d, isDefined, enabled, notText, rfl⟩
  rw [declared, ← OrderedMap.filterMap_key kept.distinct]
  apply List.filterMap_congr
  intro entry member
  unfold Aggregate.counted
  by_cases same : entry.1 = d.name
  · have configured := (kept.configured_iff entry member).mpr ⟨d, isDefined, same.symm⟩
    rw [if_pos ⟨same, counts, configured⟩, if_pos same]
  · rw [if_neg fun all => same all.1, if_neg same]

/-- Under a name that does not count, nothing is added. -/
theorem declared_eq_nil {name : Text}
    (other : name ∉ MetricDefinition.aggregatedNames settings.metrics)
    (metrics : OrderedMap Text Metric) : declared settings name metrics = [] := by
  rw [declared, List.filterMap_eq_nil_iff]
  intro entry _
  simp [Aggregate.counted, other]

theorem collects_collectAll {entries : List Entry} (kept : ∀ e ∈ entries, e.IsKept settings) :
    Collects settings entries (entries.foldl (collect settings) []) := by
  have tidy : Aggregate.Tidy (entries.foldl (collect settings) []) :=
    tidy_collectAll Aggregate.tidy_empty entries
  constructor
  case declared =>
    intro d isDefined enabled notText
    rw [values_collectAll _ _ d.name_ne_wordCount, List.filterMap_eq_flatMap_toList]
    apply List.flatMap_congr
    intro e member
    exact declared_eq isDefined enabled notText (kept e member).metrics
  case word_counts => exact wordCounts_collectAll [] entries
  case computed => exact fun e member => (kept e member).counted
  case apart =>
    intro e member entry declared spelled
    exact (kept e member).metrics.wordCount_apart declared spelled
  case distinct => exact tidy.distinct
  case known =>
    intro name member
    by_cases isWordCount : name = wordCountName
    · exact .inl isWordCount
    · right
      apply (mem_aggregatedNames_iff _ _).mp
      by_contra other
      -- a name is there only with a number, and no entry adds one
      apply tidy.inhabited name member
      rw [values_collectAll _ _ isWordCount]
      simp [declared_eq_nil other, Aggregate.values, OrderedMap.get?]

/-- Whatever steps are taken under the settings of a run, it has collected what its entries declare,
in the order of the steps. -/
theorem takeAll_collects (settings : Settings) (total : Int) (steps : List Step)
    (areUnder : ∀ step ∈ steps, step.IsUnder settings) :
    Collects settings (steps.flatMap Step.entries)
      ((start settings total).takeAll steps).aggregate := by
  rw [takeAll_aggregate]
  apply collects_collectAll
  intro e member
  obtain ⟨step, taken, isEntry⟩ := List.mem_flatMap.mp member
  exact Step.entries_kept (areUnder step taken) e isEntry

/-- A metric with a definition, one without, and one that is spelled like the word count. -/
def spelledNote : Text := Text.joinLines <|
  ["> [!journal-entry] ^20250101", ">> [!dream-diary] Sea", ">> waves", ">>> [!dream-metrics]",
    ">>> sensory  detail: 3, Moon: 4, WORD count: 7"].map Text.of

set_option maxRecDepth 4000 in
theorem takeAll_collects_spelled :
    ∃ x, Note.extract Settings.standard ⟨2030, 1, 1, by decide⟩ (Text.of "a.md") spelledNote =
        .ok x ∧
      ((start Settings.standard 2).takeAll [.extracted x, .extracted x]).aggregate =
        [(Text.of "Sensory Detail", [.whole 3, .whole 3]),
          (wordCountName, [.whole 1, .whole 1])] ∧
      Collects Settings.standard ([Step.extracted x, .extracted x].flatMap Step.entries)
        ((start Settings.standard 2).takeAll [.extracted x, .extracted x]).aggregate := by
  have front : Note.frontMatterOf (Text.of "a.md") spelledNote = .ok ([], []) := by rfl
  refine ⟨_, extract_eq_of_frontMatter front, by decide +kernel, takeAll_collects _ _ _ ?_⟩
  intro step member
  rcases List.mem_pair.mp member with rfl | rfl
  · exact ⟨_, _, _, extract_eq_of_frontMatter front⟩
  · exact ⟨_, _, _, extract_eq_of_frontMatter front⟩

end Run
end DreamJournal
