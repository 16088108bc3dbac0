import DreamJournal.Proofs.Note.Accounting
import DreamJournal.Proofs.Number.Summary
import DreamJournal.Proofs.Run.Collected
import DreamJournal.Proofs.Run.Steps
import DreamJournal.Run.Result

/-!
# When a run has its summaries

A run is summarized name by name, and a list of numbers without a summary leaves the whole run
without one: the other names are not summarized either, and the result is not given as data. So the
summaries are there exactly when the numbers under every name are summable. Then there is one for
every name, in the order of the names.

Nothing that a run collects guards against the other case. A number outside the bounds of its
definition is reported and kept, whatever its size.
-/
namespace DreamJournal

open Number (IsSummable IsModerate partsAfter runningSums)

namespace Aggregate

variable {a : Aggregate}

theorem Tidy.values_eq (tidy : Tidy a) {entry : Text × List Number} (member : entry ∈ a) :
    a.values entry.1 = entry.2 := by
  rw [values, OrderedMap.get?_of_mem tidy.distinct member]
  rfl

theorem Tidy.ne_nil (tidy : Tidy a) {entry : Text × List Number} (member : entry ∈ a) :
    entry.2 ≠ [] := by
  rw [← tidy.values_eq member]
  exact tidy.inhabited entry.1 (List.mem_map_of_mem member)

/-- An entry with the summary of its numbers. -/
def Sums (entry : Text × List Number) (summed : Text × Summary) : Prop :=
  summed.1 = entry.1 ∧
    ∃ first rest, entry.2 = first :: rest ∧ Summary.ofList first rest = .ok summed.2

theorem Sums.count {entry : Text × List Number} {summed : Text × Summary}
    (sums : Sums entry summed) : summed.2.count = entry.2.length := by
  obtain ⟨_, first, rest, split, given⟩ := sums
  obtain ⟨t, m, _, _, same⟩ := Number.ofList_eq_ok_iff.mp given
  rw [same, split]

theorem keys_eq_of_sums {ss : OrderedMap Text Summary} (related : List.Forall₂ Sums a ss) :
    ss.keys = a.keys := by
  induction related with
  | nil => rfl
  | cons sums _ ih => exact congrArg₂ List.cons sums.1 ih

theorem summaries_eq_ok_iff (inhabited : ∀ entry ∈ a, entry.2 ≠ [])
    {ss : OrderedMap Text Summary} : a.summaries = .ok ss ↔ List.Forall₂ Sums a ss := by
  induction a generalizing ss with
  | nil =>
    simp only [summaries, Except.ok.injEq, List.forall₂_nil_left_iff]
    exact eq_comm
  | cons entry rest ih =>
    obtain ⟨name, ns⟩ := entry
    have ⟨here, later⟩ := List.forall_mem_cons.mp inhabited
    obtain ⟨first, more, rfl⟩ := List.exists_cons_of_ne_nil here
    rw [List.forall₂_cons_left_iff]
    constructor
    · intro returned
      unfold summaries at returned
      cases one : Summary.ofList first more with
      | error fault => simp [one, bind, Except.bind] at returned
      | ok s =>
        cases others : summaries rest with
        | error fault => simp [one, others, bind, Except.bind] at returned
        | ok ss' =>
          simp only [one, others, bind, Except.bind, Except.ok.injEq] at returned
          exact ⟨_, _, ⟨rfl, first, more, rfl, one⟩, (ih later).mp others, returned.symm⟩
    · rintro ⟨⟨known, s⟩, ss', ⟨same, first', more', split, one⟩, others, rfl⟩
      obtain ⟨rfl, rfl⟩ := List.cons.inj split
      obtain rfl : known = name := same
      have behind := (ih later).mpr others
      rw [summaries, one, behind]
      rfl

theorem exists_summaries_iff (inhabited : ∀ entry ∈ a, entry.2 ≠ []) :
    (∃ ss, a.summaries = .ok ss) ↔ ∀ entry ∈ a, IsSummable entry.2 := by
  simp only [summaries_eq_ok_iff inhabited]
  induction a with
  | nil => simp
  | cons entry rest ih =>
    obtain ⟨name, ns⟩ := entry
    have ⟨here, later⟩ := List.forall_mem_cons.mp inhabited
    obtain ⟨first, more, rfl⟩ := List.exists_cons_of_ne_nil here
    rw [List.forall_mem_cons, ← ih later, ← Number.ofList_isOk_iff]
    constructor
    · rintro ⟨_, related⟩
      obtain ⟨s, ss, ⟨_, first', more', split, one⟩, others, rfl⟩ :=
        List.forall₂_cons_left_iff.mp related
      obtain ⟨rfl, rfl⟩ := List.cons.inj split
      exact ⟨⟨_, one⟩, _, others⟩
    · rintro ⟨⟨s, one⟩, ss, others⟩
      exact ⟨(name, s) :: ss, .cons ⟨rfl, first, more, rfl, one⟩ others⟩

end Aggregate

namespace Run

/-- When a run has its summaries, and what they are. -/
structure Summarized (run : Run) : Prop where
  /-- The numbers under every name are summable. -/
  returns : (∃ ss, run.summaries = .ok ss) ↔
    ∀ name ∈ run.aggregate.keys, IsSummable (run.aggregate.values name)
  /-- The result is given as data when its settings are, and then only. -/
  given : ∀ settings, run.settings.entries? = .ok settings → ∀ now seconds,
    ((∃ d, run.toDatum now seconds = .ok d) ↔ ∃ ss, run.summaries = .ok ss)
  /-- Every name has a summary of all its numbers. -/
  complete : ∀ ss, run.summaries = .ok ss → ss.keys = run.aggregate.keys ∧
    ∀ entry ∈ ss, entry.2.count = (run.aggregate.values entry.1).length
  /-- Away from the limit no rounded sum is too great. -/
  steady : ∀ name ∈ run.aggregate.keys, IsModerate (run.aggregate.values name) →
    (partsAfter [] (run.aggregate.values name)).isSome = true
  /-- Beyond the limit, by more than rounding may change, every one is. -/
  bounded : ∀ name ∈ run.aggregate.keys, IsSummable (run.aggregate.values name) →
    ∀ s ∈ runningSums 0 (run.aggregate.values name), s.natAbs <
      Double.unitLimit + (run.aggregate.values name).length * Double.unitSlack

theorem summaries_eq_ok_iff (run : Run) (ss : OrderedMap Text Summary) :
    run.summaries = .ok ss ↔ run.aggregate.summaries = .ok ss := by
  unfold summaries
  cases run.aggregate.summaries <;> simp [Except.mapError]

theorem toDatum_isOk_iff (run : Run) {settings : List (Datum × Datum)}
    (written : run.settings.entries? = .ok settings) (now : Moment) (seconds : Double) :
    (∃ d, run.toDatum now seconds = .ok d) ↔ ∃ ss, run.summaries = .ok ss := by
  unfold toDatum
  rw [written]
  cases run.summaries <;> simp [bind, Except.bind, Except.mapError]

theorem toDatum_of_unsummed {run : Run} {settings : List (Datum × Datum)} {fault : ResultFault}
    (written : run.settings.entries? = .ok settings) (unsummed : run.summaries = .error fault)
    (now : Moment) (seconds : Double) : run.toDatum now seconds = .error fault := by
  unfold toDatum
  rw [written, unsummed]
  rfl

/-- Whatever numbers the notes of a run declare, it has its summaries exactly when the numbers that
it has collected are summable. -/
theorem takeAll_summarized (settings : Settings) (total : Int) (steps : List Step) :
    ((start settings total).takeAll steps).Summarized := by
  have tidy : Aggregate.Tidy ((start settings total).takeAll steps).aggregate := by
    rw [takeAll_aggregate]
    exact tidy_collectAll Aggregate.tidy_empty _
  generalize (start settings total).takeAll steps = run at *
  have inhabited : ∀ entry ∈ run.aggregate, entry.2 ≠ [] := fun _ => tidy.ne_nil
  constructor
  case returns =>
    simp only [summaries_eq_ok_iff, Aggregate.exists_summaries_iff inhabited]
    constructor
    · intro summable name known
      obtain ⟨entry, member, rfl⟩ := List.mem_map.mp known
      rw [tidy.values_eq member]
      exact summable entry member
    · intro summable entry member
      rw [← tidy.values_eq member]
      exact summable entry.1 (List.mem_map_of_mem member)
  case given => exact fun _ written now seconds => toDatum_isOk_iff run written now seconds
  case complete =>
    intro ss returned
    have related := (Aggregate.summaries_eq_ok_iff inhabited).mp
      ((summaries_eq_ok_iff run ss).mp returned)
    constructor
    · exact Aggregate.keys_eq_of_sums related
    · intro summed member
      obtain ⟨entry, listed, sums⟩ := exists_left_of_forall₂ related member
      rw [sums.count, sums.1, tidy.values_eq listed]
  case steady => exact fun _ _ isModerate => isModerate.steady
  case bounded => exact fun _ _ isSummable => isSummable.runningSums_lt

/-- A number that no number of double precision is near to. -/
def hugeDigits : Text := '1' :: List.replicate 309 '0'

/-- Two dreams, whose numbers are each as far below zero as the other is above. -/
def hugeNote : Text := Text.joinLines
  [Text.of "> [!journal-entry] ^20250101", Text.of ">> [!dream-diary] Sea", Text.of ">> waves",
    Text.of ">>> [!dream-metrics]", Text.of ">>> Words: " ++ hugeDigits,
    Text.of ">> [!dream-diary] Hill", Text.of ">> wind", Text.of ">>> [!dream-metrics]",
    Text.of ">>> Words: -" ++ hugeDigits]

theorem extract_hugeNote :
    ∃ x, Note.extract Settings.standard ⟨2030, 1, 1, by decide⟩ (Text.of "a.md") hugeNote = .ok x ∧
      ((start Settings.standard 1).takeAll [.extracted x]).aggregate =
        [(Text.of "Words", [.whole (10 ^ 309), .whole (-10 ^ 309)]),
          (Text.of "Word Count", [.whole 1, .whole 1])] := by
  have front : Note.frontMatterOf (Text.of "a.md") hugeNote = .ok ([], []) := by rfl
  exact ⟨_, extract_eq_of_frontMatter front, by decide +kernel⟩

/-- The numbers add up to zero, and there are no summaries. -/
theorem takeAll_unsummarized :
    ∃ x, Note.extract Settings.standard ⟨2030, 1, 1, by decide⟩ (Text.of "a.md") hugeNote = .ok x ∧
      let run := (start Settings.standard 1).takeAll [.extracted x]
      run.aggregate.values (Text.of "Words") = [.whole (10 ^ 309), .whole (-10 ^ 309)] ∧
        Number.total (run.aggregate.values (Text.of "Words")) = .ok (.whole 0) ∧
        run.summaries = .error (.summary .tooLarge) ∧
        ∀ now seconds, run.toDatum now seconds = .error (.summary .tooLarge) := by
  obtain ⟨x, returned, collected⟩ := extract_hugeNote
  refine ⟨x, returned, ?_⟩
  intro run
  have unsummed : run.summaries = .error (.summary .tooLarge) := by
    rw [summaries, collected]
    decide +kernel
  refine ⟨?_, ?_, unsummed, fun now seconds => ?_⟩
  · rw [collected]
    decide +kernel
  · rw [collected]
    decide +kernel
  · exact toDatum_of_unsummed (by rfl) unsummed now seconds

end Run
end DreamJournal
