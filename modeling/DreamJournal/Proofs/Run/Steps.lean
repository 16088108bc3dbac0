import DreamJournal.Run.Basic

/-!
# What a run holds after its steps

A run keeps its settings and its total. All that it holds besides, its counts aside, it has from its
steps one after the other: the entries, the diagnostics, the collected numbers, and one report for
each step.
-/
namespace DreamJournal

/-- A step whose extraction, if it is one, is that of a note under the given settings. -/
def Step.IsUnder (settings : Settings) : Step → Prop
  | extracted found => ∃ today source note, Note.extract settings today source note = .ok found
  | _ => True

namespace Run

/-- What a run says of the step that it took last. -/
def report (run : Run) (step : Step) : Progress :=
  ⟨step.source, run.tally.files, run.total, run.tally.entries, run.tally.callouts⟩

/-- What a run says of steps, each when it has taken it. -/
def reports (run : Run) : List Step → List Progress
  | [] => []
  | step :: rest => (run.take step).report step :: reports (run.take step) rest

theorem takeAll_cons (run : Run) (step : Step) (steps : List Step) :
    run.takeAll (step :: steps) = (run.take step).takeAll steps := rfl

theorem takeAll_total (run : Run) (steps : List Step) :
    (run.takeAll steps).total = run.total := by
  induction steps generalizing run with
  | nil => rfl
  | cons step steps ih => exact ih (run.take step)

theorem takeAll_tally (run : Run) (steps : List Step) :
    (run.takeAll steps).tally = steps.foldl Step.count run.tally := by
  induction steps generalizing run with
  | nil => rfl
  | cons step steps ih => exact ih (run.take step)

theorem takeAll_files (run : Run) (steps : List Step) :
    (run.takeAll steps).tally.files = run.tally.files + steps.length := by
  induction steps generalizing run with
  | nil => rfl
  | cons step steps ih =>
    have one : (run.take step).tally.files = run.tally.files + 1 := by cases step <;> rfl
    rw [takeAll_cons, ih, one, List.length_cons]
    omega

/-- What every step adds behind what is there has been added by all steps in their order. -/
theorem takeAll_appends {α : Type} (held : Run → List α) (adds : Step → List α)
    (one : ∀ run step, held (run.take step) = held run ++ adds step) (run : Run)
    (steps : List Step) : held (run.takeAll steps) = held run ++ steps.flatMap adds := by
  induction steps generalizing run with
  | nil => simp [takeAll]
  | cons step steps ih => rw [takeAll_cons, ih, one, List.flatMap_cons, List.append_assoc]

theorem takeAll_entries (run : Run) (steps : List Step) :
    (run.takeAll steps).entries = run.entries ++ steps.flatMap Step.entries :=
  takeAll_appends Run.entries Step.entries (fun _ _ => rfl) run steps

theorem takeAll_diagnostics (run : Run) (steps : List Step) :
    (run.takeAll steps).diagnostics = run.diagnostics ++ steps.flatMap Step.diagnostics :=
  takeAll_appends Run.diagnostics Step.diagnostics (fun _ _ => rfl) run steps

theorem takeAll_aggregate (run : Run) (steps : List Step) :
    (run.takeAll steps).aggregate =
      (steps.flatMap Step.entries).foldl (collect run.settings) run.aggregate := by
  induction steps generalizing run with
  | nil => rfl
  | cons step steps ih =>
    rw [takeAll_cons, ih, List.flatMap_cons, List.foldl_append]
    rfl

theorem takeAll_progress (run : Run) (steps : List Step) :
    (run.takeAll steps).progress = run.progress ++ run.reports steps := by
  induction steps generalizing run with
  | nil => simp [takeAll, reports]
  | cons step steps ih =>
    -- the report on the first step is there before the others are taken
    have first : (run.take step).progress = run.progress ++ [(run.take step).report step] := rfl
    rw [takeAll_cons, ih, first, reports, List.append_assoc, List.singleton_append]

end Run
end DreamJournal
