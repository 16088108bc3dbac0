import DreamJournal.Proofs.Note.Reports
import DreamJournal.Proofs.Run.Steps

/-!
# What a run counts is there

A run counts files, errors, entries and callouts by themselves, beside the lists that it keeps. The
counts agree with the lists after every step: there is an entry for each entry counted, a grave
diagnostic for each error, and for each diary an entry or a report of its failure. The agreement is
an invariant of a single step, whatever was counted before.

The reports to the user come from the counts. So each says how things stand after its own step, and
what it says never goes down.
-/
namespace DreamJournal

open Diagnostic

variable {settings : Settings} {today : Date} {source note : Text} {x : NoteExtraction}

/-! ## One note -/

/-- A note that was extracted reports no error but that an entry failed. -/
theorem Note.extract_errors (returned : Note.extract settings today source note = .ok x) :
    x.diagnostics.countP (fun d => d.severity = .error) = count .entryFailed x.diagnostics := by
  rw [count, ofKind, ← List.countP_eq_length_filter]
  apply List.countP_congr
  intro d member
  have known := Note.extract_among returned d member
  simp only [sightingKinds, List.mem_cons, List.not_mem_nil, or_false] at known
  -- each of the kinds is either the one or a mere warning
  rcases known with kind | kind | kind | kind | kind | kind | kind | kind | kind <;>
    simp [severity, kind, DiagnosticKind.severity]

/-- Every diary of a note that was extracted is an entry or is reported as failed. -/
theorem Note.extract_diaries (returned : Note.extract settings today source note = .ok x) :
    x.diaries = x.entries.length + count .entryFailed x.diagnostics := by
  obtain ⟨fields, earlier, before, rfl⟩ := exists_context_with_earlier returned
  rw [Nat.add_comm]
  exact (extract_failures ⟨settings, today, source, Text.lines note, fields⟩ before).symm

/-! ## One step -/

section Step

variable {step : Step}

theorem Step.count_errors (isUnder : step.IsUnder settings) (t : Tally) :
    (step.count t).errors =
      t.errors + step.diagnostics.countP fun d => d.severity = .error := by
  cases step with
  | extracted found =>
    obtain ⟨today, source, note, returned⟩ := isUnder
    rw [Step.diagnostics, Note.extract_errors returned]
    rfl
  | unread source fault => rfl
  | givenUp source fault => rfl

theorem Step.count_entries (step : Step) (t : Tally) :
    (step.count t).entries = t.entries + step.entries.length := by
  cases step with
  | extracted found => rfl
  | unread source fault => exact (Int.add_zero _).symm
  | givenUp source fault => exact (Int.add_zero _).symm

theorem Step.count_diaries (isUnder : step.IsUnder settings) (t : Tally) :
    (step.count t).diaries =
      t.diaries + step.entries.length + Diagnostic.count .entryFailed step.diagnostics := by
  cases step with
  | extracted found =>
    obtain ⟨today, source, note, returned⟩ := isUnder
    have diaries := Note.extract_diaries returned
    simp only [Step.count, Step.entries, Step.diagnostics]
    omega
  | unread source fault =>
    simp [Step.count, Step.entries, Step.diagnostics, Diagnostic.count, ofKind]
  | givenUp source fault =>
    simp [Step.count, Step.entries, Step.diagnostics, Diagnostic.count, ofKind]

/-- No step takes anything off a count. -/
theorem Step.count_le (step : Step) (t : Tally) :
    (step.count t).files = t.files + 1 ∧ t.entries ≤ (step.count t).entries ∧
      t.callouts ≤ (step.count t).callouts := by
  cases step with
  | extracted found =>
    refine ⟨rfl, ?_, ?_⟩
    · simp only [Step.count]
      omega
    · simp only [Step.count, Tally.callouts]
      omega
  | unread source fault => exact ⟨rfl, Int.le_refl _, Int.le_refl _⟩
  | givenUp source fault => exact ⟨rfl, Int.le_refl _, Int.le_refl _⟩

end Step

namespace Run

/-- The counts of a run agree with what it holds. -/
structure Balanced (run : Run) : Prop where
  errors : run.tally.errors = run.diagnostics.countP fun d => d.severity = .error
  entries : run.tally.entries = run.entries.length
  diaries : run.tally.diaries = run.tally.entries + count .entryFailed run.diagnostics

/-- A run has counted its steps, agrees with itself, and has reported on each step when it had taken
that step and none behind it. -/
structure Consistent (start : Run) (steps : List Step) (run : Run) : Prop where
  files : run.tally.files = steps.length
  balanced : Balanced run
  report_count : run.progress.length = steps.length
  report_at : ∀ n step, steps[n]? = some step → run.progress[n]? = some
    ({ source := step.source
       files := n + 1
       total := start.total
       entries := (start.takeAll (steps.take (n + 1))).tally.entries
       callouts := (start.takeAll (steps.take (n + 1))).tally.callouts } : Progress)
  ascending : run.progress.Pairwise fun earlier later =>
    earlier.files < later.files ∧ earlier.entries ≤ later.entries ∧
      earlier.callouts ≤ later.callouts

variable {run : Run} {steps : List Step}

theorem Balanced.take {step : Step} (balanced : Balanced run) (isUnder : step.IsUnder settings) :
    Balanced (run.take step) := by
  obtain ⟨errors, entries, diaries⟩ := balanced
  have newEntries := step.count_entries run.tally
  constructor
  case errors =>
    have newErrors := Step.count_errors isUnder run.tally
    simp only [Run.take, List.countP_append]
    omega
  case entries =>
    simp only [Run.take, List.length_append]
    omega
  case diaries =>
    have newDiaries := Step.count_diaries isUnder run.tally
    simp only [Run.take, count_append]
    omega

/-! ## A whole run -/

theorem Balanced.takeAll (balanced : Balanced run)
    (areUnder : ∀ step ∈ steps, ∃ settings, step.IsUnder settings) :
    Balanced (run.takeAll steps) := by
  induction steps generalizing run with
  | nil => exact balanced
  | cons step rest ih =>
    obtain ⟨⟨settings, isUnder⟩, others⟩ := List.forall_mem_cons.mp areUnder
    exact ih (balanced.take isUnder) others

theorem length_reports (run : Run) (steps : List Step) :
    (run.reports steps).length = steps.length := by
  induction steps generalizing run with
  | nil => rfl
  | cons step rest ih => simp [reports, ih]

theorem reports_at (run : Run) (steps : List Step) (n : Nat) :
    (run.reports steps)[n]? =
      steps[n]?.map fun step => (run.takeAll (steps.take (n + 1))).report step := by
  induction steps generalizing run n with
  | nil => simp [reports]
  | cons step rest ih =>
    cases n with
    | zero => rfl
    | succ n =>
      -- the steps up to a later one begin with the first
      rw [reports, List.getElem?_cons_succ, ih, List.getElem?_cons_succ]
      rfl

/-- What is reported lies above what was counted before the steps. -/
theorem lt_of_mem_reports {told : Progress} (member : told ∈ run.reports steps) :
    run.tally.files < told.files ∧ run.tally.entries ≤ told.entries ∧
      run.tally.callouts ≤ told.callouts := by
  induction steps generalizing run with
  | nil => simp [reports] at member
  | cons step rest ih =>
    obtain ⟨files, entries, callouts⟩ := step.count_le run.tally
    rcases List.mem_cons.mp member with rfl | later
    · refine ⟨?_, entries, callouts⟩
      show run.tally.files < (step.count run.tally).files
      omega
    · obtain ⟨laterFiles, laterEntries, laterCallouts⟩ := ih later
      simp only [Run.take] at laterFiles laterEntries laterCallouts
      omega

theorem reports_ascend (run : Run) (steps : List Step) :
    (run.reports steps).Pairwise fun earlier later =>
      earlier.files < later.files ∧ earlier.entries ≤ later.entries ∧
        earlier.callouts ≤ later.callouts := by
  induction steps generalizing run with
  | nil => exact List.Pairwise.nil
  | cons step rest ih =>
    refine List.Pairwise.cons ?_ (ih _)
    intro told later
    exact lt_of_mem_reports later

/-- After any steps, as long as what was extracted was extracted from notes, the counts of a run, its
lists and its reports agree. -/
theorem takeAll_consistent (settings : Settings) (total : Int) (steps : List Step)
    (areUnder : ∀ step ∈ steps, ∃ settings, step.IsUnder settings) :
    Consistent (start settings total) steps ((start settings total).takeAll steps) := by
  have progress : ((start settings total).takeAll steps).progress =
      (start settings total).reports steps :=
    takeAll_progress _ steps
  constructor
  case files =>
    rw [takeAll_files]
    exact Nat.zero_add _
  case balanced =>
    have empty : Balanced (start settings total) := ⟨rfl, rfl, rfl⟩
    exact empty.takeAll areUnder
  case report_count => rw [progress, length_reports]
  case report_at =>
    intro n step isStep
    obtain ⟨inside, _⟩ := List.getElem?_eq_some_iff.mp isStep
    have files : ((start settings total).takeAll (steps.take (n + 1))).tally.files = n + 1 := by
      rw [takeAll_files, List.length_take, Nat.min_eq_left inside]
      exact Nat.zero_add _
    rw [progress, reports_at, isStep, Option.map_some, report, files, takeAll_total]
  case ascending =>
    rw [progress]
    exact reports_ascend _ _

/-- A dream, and a dream that holds nothing. -/
def halfNote : Text := Text.joinLines <|
  ["> [!journal-entry] ^20250101", ">> [!dream-diary] Sea", ">> [!dream-diary]"].map Text.of

set_option maxRecDepth 4000 in
theorem takeAll_consistent_half :
    ∃ x, Note.extract Settings.standard ⟨2030, 1, 1, by decide⟩ (Text.of "a.md") halfNote =
        .ok x ∧
      ((start Settings.standard 2).takeAll
        [.unread (Text.of "b.md") (.badValue []), .extracted x]).tally = ⟨⟨2, 2⟩, 1, 2, 0, 1⟩ ∧
      Consistent (start Settings.standard 2)
        [.unread (Text.of "b.md") (.badValue []), .extracted x]
        ((start Settings.standard 2).takeAll
          [.unread (Text.of "b.md") (.badValue []), .extracted x]) := by
  have front : Note.frontMatterOf (Text.of "a.md") halfNote = .ok ([], []) := by rfl
  refine ⟨_, extract_eq_of_frontMatter front, by decide +kernel, takeAll_consistent _ _ _ ?_⟩
  intro step member
  rcases List.mem_pair.mp member with rfl | rfl
  · exact ⟨Settings.standard, trivial⟩
  · exact ⟨Settings.standard, _, _, _, extract_eq_of_frontMatter front⟩

end Run
end DreamJournal
