import DreamJournal.Proofs.Note.Counted
import DreamJournal.Proofs.Run.Chronology
import Mathlib.Data.List.Forall2

/-!
# The outcome tells what the notes hold

A run reads its outcome off three sums, from the outermost callout inward: the first one that is
zero names what is missing. The sums alone would not allow this. That a note without journals adds
nothing to the other sums either, and one without diaries in journals no metrics, is a fact about
the callouts of the note; so what is missing in a sum is missing in all notes together.

No step takes anything off a sum. So the first sum that is zero can only move inward, and the
outcome advances.
-/
namespace DreamJournal

open Callout

/-- How far inward a run found something: journals, diaries in them, metrics callouts of these. -/
def Outcome.depth : Outcome → Nat
  | noJournals => 0
  | noDiaries => 1
  | noMetrics => 2
  | complete => 3

/-- A step is what came of a note that was extracted, or, without a note, a failure. -/
inductive Step.Takes (settings : Settings) : Option Text → Step → Prop where
  | extracted {today : Date} {source note : Text} {x : NoteExtraction}
      (returned : Note.extract settings today source note = .ok x) :
      Takes settings (some note) (.extracted x)
  | unread (source : Text) (fault : Fault) : Takes settings none (.unread source fault)
  | givenUp (source : Text) (fault : Fault) : Takes settings none (.givenUp source fault)

/-- What a step adds to a count, if an extracted note adds what `added` says. -/
def Step.adds (added : NoteExtraction → Nat) : Step → Nat
  | extracted x => added x
  | _ => 0

/-- A count of a tally is increased by what a note holds, and by nothing else. -/
structure Counts (counter : Tally → Int) (added : NoteExtraction → Nat) : Prop where
  zero : counter .zero = 0
  step : ∀ t step, counter (Step.count t step) = counter t + step.adds added

theorem counts_journals : Counts Tally.journals NoteExtraction.journals := by
  refine ⟨rfl, ?_⟩
  rintro t (_ | _ | _) <;> simp [Step.count, Step.adds]

theorem counts_diaries : Counts Tally.diaries NoteExtraction.diaries := by
  refine ⟨rfl, ?_⟩
  rintro t (_ | _ | _) <;> simp [Step.count, Step.adds]

theorem counts_metricsCallouts :
    Counts Tally.metricsCallouts NoteExtraction.metricsCallouts := by
  refine ⟨rfl, ?_⟩
  rintro t (_ | _ | _) <;> simp [Step.count, Step.adds]

/-- Some note of those that steps take has callouts of a kind. -/
def SomeNote (fed : List (Option Text)) (has : List Callout → Prop) : Prop :=
  ∃ note, some note ∈ fed ∧ has (Scan.ofText note).roots

/-- An outcome names the outermost thing that no note has. -/
structure Outcome.Truthful (settings : Settings) (fed : List (Option Text)) (o : Outcome) :
    Prop where
  complete : o = .complete ↔ SomeNote fed (HasAttendedDiary settings)
  noMetrics : o = .noMetrics ↔
    SomeNote fed (HasInnerDiary settings) ∧ ¬SomeNote fed (HasAttendedDiary settings)
  noDiaries : o = .noDiaries ↔
    SomeNote fed (HasJournal settings) ∧ ¬SomeNote fed (HasInnerDiary settings)
  noJournals : o = .noJournals ↔ ¬SomeNote fed (HasJournal settings)

section Notes

variable {settings : Settings} {fed : List (Option Text)} {has : List Callout → Prop}

theorem SomeNote.imp {holds : List Callout → Prop} (found : SomeNote fed has)
    (follows : ∀ roots, has roots → holds roots) : SomeNote fed holds := by
  obtain ⟨note, member, given⟩ := found
  exact ⟨note, member, follows _ given⟩

theorem someNote_cons {note? : Option Text} :
    SomeNote (note? :: fed) has ↔
      (∃ note, note? = some note ∧ has (Scan.ofText note).roots) ∨ SomeNote fed has := by
  simp only [SomeNote, List.mem_cons, or_and_right, exists_or, eq_comm]

theorem HasInnerDiary.hasJournal {roots : List Callout} (found : HasInnerDiary settings roots) :
    HasJournal settings roots := by
  obtain ⟨_, _, _, outer, member, isJournal, _⟩ := found
  exact ⟨outer, member, isJournal⟩

theorem HasAttendedDiary.hasInnerDiary {roots : List Callout}
    (found : HasAttendedDiary settings roots) : HasInnerDiary settings roots := by
  obtain ⟨c, inner, _⟩ := found
  exact ⟨c, inner⟩

end Notes

/-! ## The order of the outcomes -/

namespace Outcome

variable {settings : Settings} {fed : List (Option Text)} {t u : Tally}

theorem ofTally_cases (t : Tally) :
    (t.journals = 0 ∧ ofTally t = noJournals) ∨
    (t.journals ≠ 0 ∧ t.diaries = 0 ∧ ofTally t = noDiaries) ∨
    (t.journals ≠ 0 ∧ t.diaries ≠ 0 ∧ t.metricsCallouts = 0 ∧ ofTally t = noMetrics) ∨
    (t.journals ≠ 0 ∧ t.diaries ≠ 0 ∧ t.metricsCallouts ≠ 0 ∧ ofTally t = complete) := by
  unfold ofTally
  by_cases journals : t.journals = 0
  · simp [journals]
  · by_cases diaries : t.diaries = 0
    · simp [journals, diaries]
    · by_cases metrics : t.metricsCallouts = 0 <;> simp [journals, diaries, metrics]

theorem depth_le (journals : t.journals ≠ 0 → u.journals ≠ 0)
    (diaries : t.diaries ≠ 0 → u.diaries ≠ 0)
    (metrics : t.metricsCallouts ≠ 0 → u.metricsCallouts ≠ 0) :
    (ofTally t).depth ≤ (ofTally u).depth := by
  rcases ofTally_cases t with ⟨_, here⟩ | ⟨j, _, here⟩ | ⟨j, d, _, here⟩ | ⟨j, d, m, here⟩ <;>
    rcases ofTally_cases u with ⟨j', there⟩ | ⟨_, d', there⟩ | ⟨_, _, m', there⟩ |
      ⟨_, _, _, there⟩ <;>
    simp_all [depth]

/-- When each count is zero as long as no note has what it counts, the outcome is truthful. -/
theorem truthful_ofTally (journals : t.journals ≠ 0 ↔ SomeNote fed (HasJournal settings))
    (diaries : t.diaries ≠ 0 ↔ SomeNote fed (HasInnerDiary settings))
    (metrics : t.metricsCallouts ≠ 0 ↔ SomeNote fed (HasAttendedDiary settings)) :
    Truthful settings fed (ofTally t) := by
  -- a note with the inner thing has the outer ones, so the sums after a zero are zero
  have outward : t.metricsCallouts ≠ 0 → t.diaries ≠ 0 := fun found =>
    diaries.mpr ((metrics.mp found).imp fun _ => HasAttendedDiary.hasInnerDiary)
  have outermost : t.diaries ≠ 0 → t.journals ≠ 0 := fun found =>
    journals.mpr ((diaries.mp found).imp fun _ => HasInnerDiary.hasJournal)
  constructor <;> simp only [← journals, ← diaries, ← metrics] <;>
    rcases ofTally_cases t with ⟨j, here⟩ | ⟨j, d, here⟩ | ⟨j, d, m, here⟩ | ⟨j, d, m, here⟩ <;>
    simp_all

end Outcome

/-! ## What runs count -/

namespace Run

variable {settings : Settings} {counter : Tally → Int} {added : NoteExtraction → Nat}
  {has : List Callout → Prop} {steps : List Step} {fed : List (Option Text)}

theorem takeAll_count (counts : Counts counter added) (run : Run) (steps : List Step) :
    counter (run.takeAll steps).tally =
      counter run.tally + ((steps.map (Step.adds added)).sum : Nat) := by
  induction steps generalizing run with
  | nil => exact (Int.add_zero _).symm
  | cons step rest ih =>
    have one : counter (run.take step).tally = counter run.tally + step.adds added :=
      counts.step _ _
    rw [takeAll_cons, ih, one, List.map_cons, List.sum_cons, Int.natCast_add, Int.add_assoc]

/-- Steps add nothing exactly when no note has what is counted. -/
theorem sum_adds_ne_zero_iff
    (tells : ∀ today source note x, Note.extract settings today source note = .ok x →
      (added x ≠ 0 ↔ has (Scan.ofText note).roots))
    (takes : List.Forall₂ (Step.Takes settings) fed steps) :
    (steps.map (Step.adds added)).sum ≠ 0 ↔ SomeNote fed has := by
  induction takes with
  | nil => simp [SomeNote]
  | @cons note? step fed steps here rest ih =>
    have one : step.adds added ≠ 0 ↔
        ∃ note, note? = some note ∧ has (Scan.ofText note).roots := by
      cases here with
      | extracted returned => simpa [Step.adds] using tells _ _ _ _ returned
      | unread source fault => simp [Step.adds]
      | givenUp source fault => simp [Step.adds]
    rw [someNote_cons, ← one, ← ih, List.map_cons, List.sum_cons]
    omega

/-- A count is zero as long as no note has what is counted. -/
theorem start_takeAll_ne_zero_iff (total : Int) (counts : Counts counter added)
    (tells : ∀ today source note x, Note.extract settings today source note = .ok x →
      (added x ≠ 0 ↔ has (Scan.ofText note).roots))
    (takes : List.Forall₂ (Step.Takes settings) fed steps) :
    counter ((start settings total).takeAll steps).tally ≠ 0 ↔ SomeNote fed has := by
  have sum : counter ((start settings total).takeAll steps).tally =
      counter .zero + ((steps.map (Step.adds added)).sum : Nat) := takeAll_count counts _ _
  rw [sum, counts.zero, ← sum_adds_ne_zero_iff tells takes]
  omega

theorem count_ne_zero_of_takeAll (total : Int) (counts : Counts counter added)
    (more : List Step) (found : counter ((start settings total).takeAll steps).tally ≠ 0) :
    counter (((start settings total).takeAll steps).takeAll more).tally ≠ 0 := by
  have sum : counter ((start settings total).takeAll steps).tally =
      counter .zero + ((steps.map (Step.adds added)).sum : Nat) := takeAll_count counts _ _
  have zero := counts.zero
  -- a count is what it was before and what the further steps add, and neither is negative
  rw [takeAll_count counts]
  omega

/-- The outcome of a run is the truth about its notes, and whatever steps it takes then, it does
not fall back. -/
theorem takeAll_truthful (differ : settings.journalCallout ≠ settings.diaryCallout) (total : Int)
    (takes : List.Forall₂ (Step.Takes settings) fed steps) :
    ((start settings total).takeAll steps).outcome.Truthful settings fed ∧
    ∀ more, ((start settings total).takeAll steps).outcome.depth ≤
      (((start settings total).takeAll steps).takeAll more).outcome.depth := by
  constructor
  · apply Outcome.truthful_ofTally
    · exact start_takeAll_ne_zero_iff total counts_journals
        (fun _ _ _ _ returned => Note.journals_ne_zero_iff returned) takes
    · exact start_takeAll_ne_zero_iff total counts_diaries
        (fun _ _ _ _ returned => Note.diaries_ne_zero_iff differ returned) takes
    · exact start_takeAll_ne_zero_iff total counts_metricsCallouts
        (fun _ _ _ _ returned => Note.metricsCallouts_ne_zero_iff differ returned) takes
  · intro more
    apply Outcome.depth_le
    · exact count_ne_zero_of_takeAll total counts_journals more
    · exact count_ne_zero_of_takeAll total counts_diaries more
    · exact count_ne_zero_of_takeAll total counts_metricsCallouts more

set_option maxRecDepth 4000 in
/-- A note that cannot be read, and a dream without metrics; then dreams that have some. -/
theorem takeAll_truthful_noMetrics :
    ∃ x y, Note.extract Settings.standard ⟨2030, 1, 1, by decide⟩ (Text.of "2025/a.md") yearNote =
        .ok x ∧
      Note.extract Settings.standard ⟨2030, 1, 1, by decide⟩ (Text.of "b.md") metricsNote =
        .ok y ∧
      (let steps := [.unread (Text.of "c.md") (.badValue []), .extracted x]
      let run := (start Settings.standard 3).takeAll steps
      run.outcome = .noMetrics ∧ (run.takeAll [.extracted y]).outcome = .complete ∧
        run.outcome.Truthful Settings.standard [none, some yearNote] ∧
        run.outcome.depth ≤ (run.takeAll [.extracted y]).outcome.depth) := by
  have year : Note.frontMatterOf (Text.of "2025/a.md") yearNote = .ok ([], []) := by rfl
  have metrics : Note.frontMatterOf (Text.of "b.md") metricsNote = .ok ([], []) := by rfl
  have ofYear : Note.extract Settings.standard ⟨2030, 1, 1, by decide⟩ (Text.of "2025/a.md")
      yearNote = .ok _ := extract_eq_of_frontMatter year
  have takes : List.Forall₂ (Step.Takes Settings.standard) [none, some yearNote]
      [.unread (Text.of "c.md") (.badValue []), .extracted _] :=
    .cons (.unread _ _) (.cons (.extracted ofYear) .nil)
  obtain ⟨truthful, advances⟩ := takeAll_truthful (by decide) 3 takes
  exact ⟨_, _, ofYear, extract_eq_of_frontMatter metrics, by decide +kernel, by decide +kernel,
    truthful, advances _⟩

end Run
end DreamJournal
