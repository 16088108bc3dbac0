import DreamJournal.Proofs.Note.Accounting

/-!
# What is reported of a note

The sightings of a note are reported on one after the other. Each of them has its own kinds of
diagnostics, and a journal has none: its date is complained of with its first dream.
-/
namespace DreamJournal

open Diagnostic

variable {settings : Settings} {today : Date}

theorem Note.Context.assemble_among (context : Note.Context) (d : Dream) :
    Among [.metricMalformed, .metricOutOfRange, .contentBoundaryMissing, .entryFailed]
      (context.assemble d).diagnostics := by
  rw [Note.Context.assemble, Dream.assemble]
  apply Among.append
  · exact (d.metricsDiagnostics_among _ _).mono (by simp)
  · cases d.entry context.settings context.source (context.dateOf d.journal).1 <;> simp [Among]

/-- The kinds of diagnostics that the sightings of a note can give rise to. -/
def sightingKinds : List DiagnosticKind :=
  [.orphanCallout, .dateInvalid, .dateUnresolved, .metricMalformed, .metricOutOfRange,
    .contentBoundaryMissing, .entryFailed]

theorem Note.Context.report_among (context : Note.Context) (dated : List Nat)
    (seen : List Sighting) : Among sightingKinds (context.report dated seen) := by
  induction seen generalizing dated with
  | nil => simp [Note.Context.report, Among]
  | cons sighting rest ih =>
    cases sighting with
    | journal => exact ih dated
    | stray diary =>
      intro told member
      rcases List.mem_cons.mp member with rfl | later
      · simp [Note.Context.strayDiary, sightingKinds]
      · exact ih dated told later
    | dream d =>
      have complaints : Among sightingKinds
          (if dated.contains d.journal.start then [] else (context.dateOf d.journal).2) := by
        split
        · simp [Among]
        · exact (Dating.resolve_among _ _ _ _).mono (by simp [sightingKinds])
      have assembled : Among sightingKinds (context.assemble d).diagnostics :=
        (context.assemble_among d).mono (by simp [sightingKinds])
      exact (complaints.append assembled).append (ih _)

/-- A note that was extracted never reports that it failed. -/
theorem Note.extract_among {source note : Text} {x : NoteExtraction}
    (returned : Note.extract settings today source note = .ok x) :
    Among (.frontMatterInvalid :: .structuralWarning :: sightingKinds) x.diagnostics := by
  obtain ⟨fields, earlier, before, rfl⟩ := exists_context_with_earlier returned
  -- in the order in which they are reported: before, with, and behind the sightings
  refine Among.append (Among.append ?_ ?_) ?_
  · exact before.mono (by simp)
  · exact (Note.Context.report_among _ [] _).mono (by simp)
  · exact (strayMetrics_among _ _).mono (by simp [sightingKinds])

/-- Without strays and with dates that nobody complains of, only the dreams are reported on. -/
theorem Note.Context.report_eq (context : Note.Context) (dated : List Nat) (seen : List Sighting)
    (noStray : ∀ sighting ∈ seen, sighting.isStray = false)
    (uncomplained : ∀ d ∈ seen.filterMap Sighting.dream?, (context.dateOf d.journal).2 = []) :
    context.report dated seen =
      (seen.filterMap Sighting.dream?).flatMap fun d => (context.assemble d).diagnostics := by
  induction seen generalizing dated with
  | nil => rfl
  | cons sighting rest ih =>
    have ⟨here, later⟩ := List.forall_mem_cons.mp noStray
    cases sighting with
    | journal => exact ih dated later uncomplained
    | stray diary => cases here
    | dream d =>
      have ⟨fine, others⟩ := List.forall_mem_cons.mp uncomplained
      have unsaid : (if dated.contains d.journal.start then [] else (context.dateOf d.journal).2) =
          [] := by
        rw [fine, ite_self]
      rw [report, unsaid, ih _ later others]
      rfl

end DreamJournal
