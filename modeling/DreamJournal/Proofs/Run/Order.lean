import DreamJournal.Proofs.Dating.Order
import DreamJournal.Proofs.Run.Collected
import DreamJournal.Proofs.Run.Steps

/-!
# The order of the notes does not matter

What a step adds does not depend on the steps before it, and it is added to counts, or behind what
is there. So a run that takes the same steps in another order counts the same, holds the same in
another order, and has the same outcome. When it is finished, its entries are in the order of their
dates, and two ways to put the same entries in that order give the same dates one after the other,
whatever the entries of one date come to.
-/
namespace DreamJournal

/-- What one step counts, it counts in front of another step and behind it. -/
theorem Step.count_comm (t : Tally) (step other : Step) :
    other.count (step.count t) = step.count (other.count t) := by
  cases step <;> cases other <;> simp [Step.count] <;> omega

namespace Run

/-- Two runs have counted the same, and hold the same but for its order. -/
structure SameButForOrder (run other : Run) : Prop where
  tally : run.tally = other.tally
  outcome : run.outcome = other.outcome
  diagnostics : run.diagnostics.Perm other.diagnostics
  entries : run.sortedEntries.Perm other.sortedEntries
  dates : run.sortedEntries.map (fun e => e.date.sortKey) =
    other.sortedEntries.map fun e => e.date.sortKey
  names : ∀ name, name ∈ run.aggregate.keys ↔ name ∈ other.aggregate.keys
  values : ∀ name, (run.aggregate.values name).Perm (other.aggregate.values name)

variable {settings : Settings} {run : Run} {steps others : List Step}

theorem sortedEntries_perm (run : Run) : run.sortedEntries.Perm run.entries :=
  List.mergeSort_perm _ _

theorem sortedEntries_pairwise (run : Run) :
    run.sortedEntries.Pairwise fun a b => a.date.le b.date = true := by
  apply List.pairwise_mergeSort
  · intro a b c first second
    exact ResolvedDate.keyLe_trans first second
  · intro a b
    exact ResolvedDate.keyLe_total _ _

/-- The dates of entries in their order are determined by which entries there are. -/
theorem sortedDates_eq {run other : Run} (same : run.entries.Perm other.entries) :
    run.sortedEntries.map (fun e => e.date.sortKey) =
      other.sortedEntries.map fun e => e.date.sortKey := by
  have ordered (run : Run) : (run.sortedEntries.map fun e => e.date.sortKey).Pairwise
      fun a b => ResolvedDate.keyLe a b = true :=
    List.pairwise_map.mpr (sortedEntries_pairwise run)
  have perm : (run.sortedEntries.map fun e => e.date.sortKey).Perm
      (other.sortedEntries.map fun e => e.date.sortKey) :=
    ((sortedEntries_perm run).trans (same.trans (sortedEntries_perm other).symm)).map _
  -- the keys are in order both times, and equal keys leave no choice
  apply perm.eq_of_pairwise _ (ordered run) (ordered other)
  intro a b _ _ first second
  exact ResolvedDate.keyLe_antisymm first second

theorem values_collectAll_perm {entries others : List Entry} (a : Aggregate)
    (same : entries.Perm others) (name : Text) :
    ((entries.foldl (collect settings) a).values name).Perm
      ((others.foldl (collect settings) a).values name) := by
  by_cases isCount : name = Metric.wordCountName
  · subst isCount
    rw [wordCounts_collectAll, wordCounts_collectAll]
    exact (same.map _).append_left _
  · rw [values_collectAll _ _ isCount, values_collectAll _ _ isCount]
    exact (same.flatMap_right _).append_left _

/-- However the steps of a run are ordered, it has the same to show for them when it is finished. -/
theorem takeAll_perm (settings : Settings) (total : Int) (steps others : List Step)
    (perm : steps.Perm others) :
    SameButForOrder ((start settings total).takeAll steps)
      ((start settings total).takeAll others) := by
  have tally : ((start settings total).takeAll steps).tally =
      ((start settings total).takeAll others).tally := by
    rw [takeAll_tally, takeAll_tally]
    apply perm.foldl_eq'
    intro first _ second _ t
    exact Step.count_comm t first second
  have entries : ((start settings total).takeAll steps).entries.Perm
      ((start settings total).takeAll others).entries := by
    rw [takeAll_entries, takeAll_entries]
    exact (perm.flatMap_right _).append_left _
  have values (name : Text) : (((start settings total).takeAll steps).aggregate.values name).Perm
      (((start settings total).takeAll others).aggregate.values name) := by
    rw [takeAll_aggregate, takeAll_aggregate]
    exact values_collectAll_perm _ (perm.flatMap_right _) name
  have tidy (steps : List Step) : ((start settings total).takeAll steps).aggregate.Tidy := by
    rw [takeAll_aggregate]
    exact tidy_collectAll Aggregate.tidy_empty _
  constructor
  case tally => exact tally
  case outcome => simp only [outcome, tally]
  case diagnostics =>
    rw [takeAll_diagnostics, takeAll_diagnostics]
    exact (perm.flatMap_right _).append_left _
  case entries =>
    exact (sortedEntries_perm _).trans (entries.trans (sortedEntries_perm _).symm)
  case dates => exact sortedDates_eq entries
  case names =>
    intro name
    -- a name is there when it has numbers, and a permutation of none is none
    rw [(tidy steps).mem_keys_iff, (tidy others).mem_keys_iff]
    apply not_congr
    constructor
    · intro none
      exact (none ▸ values name).symm.eq_nil
    · intro none
      exact (none ▸ values name).eq_nil
  case values => exact values

/-- A dream of the first day of a year that declares its words. -/
def newYearEntry (source : String) (year : Nat) (words : Int) : Entry where
  date := ⟨year, some 1, some 1, .blockReference⟩
  title := Text.of "Sea"
  content := Text.of "waves"
  source := Text.of source
  anchor := Text.of "line-2"
  metrics := [(Text.of "Words",
    ⟨Text.of "Words", Text.ofInt words, some (.whole words), true⟩)]
  wordCount := 1
  metadata := []

/-- Two notes with a dream each, the later dream first, and between them a note that could not be
read. -/
def newYearSteps : List Step :=
  [.extracted ⟨Text.of "b.md", [newYearEntry "b.md" 2026 7], 1, 1, 1, []⟩,
    .unread (Text.of "c.md") (.badValue (Text.of "no text")),
    .extracted ⟨Text.of "a.md", [newYearEntry "a.md" 2025 5], 1, 1, 1, []⟩]

theorem takeAll_perm_reversed :
    newYearSteps.Perm newYearSteps.reverse ∧
    SameButForOrder ((start Settings.standard 3).takeAll newYearSteps)
      ((start Settings.standard 3).takeAll newYearSteps.reverse) ∧
    ((start Settings.standard 3).takeAll newYearSteps).aggregate.values (Text.of "Words") =
      [.whole 7, .whole 5] ∧
    ((start Settings.standard 3).takeAll newYearSteps.reverse).aggregate.values (Text.of "Words") =
      [.whole 5, .whole 7] := by
  have reversed : newYearSteps.Perm newYearSteps.reverse := (List.reverse_perm _).symm
  refine ⟨reversed, takeAll_perm _ _ _ _ reversed, ?_, ?_⟩
  · decide +kernel
  · decide +kernel

end Run
end DreamJournal
