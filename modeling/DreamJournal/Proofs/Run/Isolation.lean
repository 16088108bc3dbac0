import DreamJournal.Proofs.Note.Reports
import DreamJournal.Proofs.Run.Steps

/-!
# A note that fails costs itself alone

A note can fail in two ways: it cannot be read, or what was read is given up. Either way the run
counts the note and says what went wrong with it, and holds nothing else that it did not hold
before. So the notes that fail can be struck from a run: what is left finds the same.
-/
namespace DreamJournal

open Diagnostic

variable {settings : Settings} {today : Date} {read : Path → Except Fault Text}

/-- The reader does not deliver a note. -/
def Path.isUnreadable (read : Path → Except Fault Text) (note : Path) : Bool := !(read note).isOk

/-- A note that is delivered is given up. -/
def Path.isGivenUp (settings : Settings) (today : Date) (read : Path → Except Fault Text)
    (note : Path) : Bool :=
  match read note with
  | .ok text => !(Note.extract settings today note.toText text).isOk
  | .error _ => false

/-- Something was extracted from a note. -/
def Path.succeeds (settings : Settings) (today : Date) (read : Path → Except Fault Text)
    (note : Path) : Bool :=
  match read note with
  | .ok text => (Note.extract settings today note.toText text).isOk
  | .error _ => false

def Step.isExtracted : Step → Bool
  | extracted _ => true
  | _ => false

/-! ## One step -/

/-- The three things that can become of a note. -/
theorem Step.ofNote_cases (settings : Settings) (today : Date) (read : Path → Except Fault Text)
    (note : Path) :
    (∃ fault, read note = .error fault ∧
      Step.ofNote settings today read note = .unread note.toText fault) ∨
    (∃ text fault, read note = .ok text ∧
      Note.extract settings today note.toText text = .error fault ∧
      Step.ofNote settings today read note = .givenUp note.toText fault) ∨
    (∃ text found, read note = .ok text ∧
      Note.extract settings today note.toText text = .ok found ∧
      Step.ofNote settings today read note = .extracted found) := by
  unfold Step.ofNote
  cases delivered : read note with
  | error fault => simp
  | ok text => cases result : Note.extract settings today note.toText text <;> simp [result]

theorem isExtracted_ofNote (note : Path) :
    (Step.ofNote settings today read note).isExtracted = note.succeeds settings today read := by
  rcases Step.ofNote_cases settings today read note with ⟨fault, unread, step⟩ |
    ⟨text, fault, delivered, result, step⟩ | ⟨text, found, delivered, result, step⟩
  · simp [step, Path.succeeds, unread, Step.isExtracted]
  · simp [step, Path.succeeds, delivered, result, Step.isExtracted, Except.isOk, Except.toBool]
  · simp [step, Path.succeeds, delivered, result, Step.isExtracted, Except.isOk, Except.toBool]

/-- A note says once that it could not be read, and only then. -/
theorem ofNote_unread_count (note : Path) :
    count .fileReadFailed (Step.ofNote settings today read note).diagnostics =
      if note.isUnreadable read then 1 else 0 := by
  rcases Step.ofNote_cases settings today read note with ⟨fault, unread, step⟩ |
    ⟨text, fault, delivered, result, step⟩ | ⟨text, found, delivered, result, step⟩
  · simp [step, Path.isUnreadable, unread, Step.diagnostics, count_cons, Except.isOk,
      Except.toBool]
    rfl
  · simp [step, Path.isUnreadable, delivered, Step.diagnostics, count_cons, Except.isOk,
      Except.toBool]
    rfl
  · simp only [step, Path.isUnreadable, delivered, Step.diagnostics, Except.isOk, Except.toBool]
    exact (Note.extract_among result).count_eq_zero (by decide)

/-- A note says once that it was given up, and only then. -/
theorem ofNote_givenUp_count (note : Path) :
    count .fileParseFailed (Step.ofNote settings today read note).diagnostics =
      if note.isGivenUp settings today read then 1 else 0 := by
  rcases Step.ofNote_cases settings today read note with ⟨fault, unread, step⟩ |
    ⟨text, fault, delivered, result, step⟩ | ⟨text, found, delivered, result, step⟩
  · simp [step, Path.isGivenUp, unread, Step.diagnostics, count_cons]
    rfl
  · simp [step, Path.isGivenUp, delivered, result, Step.diagnostics, count_cons, Except.isOk,
      Except.toBool]
    rfl
  · simp only [step, Path.isGivenUp, delivered, result, Step.diagnostics, Except.isOk,
      Except.toBool]
    exact (Note.extract_among result).count_eq_zero (by decide)

/-- Two runs hold the same and have counted the same callouts and entries. -/
structure Run.SameFindings (run other : Run) : Prop where
  settings : run.settings = other.settings
  entries : run.entries = other.entries
  aggregate : run.aggregate = other.aggregate
  journals : run.tally.journals = other.tally.journals
  diaries : run.tally.diaries = other.tally.diaries
  metricsCallouts : run.tally.metricsCallouts = other.tally.metricsCallouts
  entryCount : run.tally.entries = other.tally.entries

namespace Run

variable {run other : Run} {step : Step}

/-- A step that failed leaves what a run has found as it was. -/
theorem SameFindings.take_failed (same : SameFindings run other)
    (failed : step.isExtracted = false) : SameFindings (run.take step) other := by
  cases step with
  | extracted found => simp [Step.isExtracted] at failed
  | unread source fault =>
    exact ⟨same.settings, by simpa [take, Step.entries] using same.entries, same.aggregate,
      same.journals, same.diaries, same.metricsCallouts, same.entryCount⟩
  | givenUp source fault =>
    exact ⟨same.settings, by simpa [take, Step.entries] using same.entries, same.aggregate,
      same.journals, same.diaries, same.metricsCallouts, same.entryCount⟩

/-- What a step adds does not depend on what failed before it. -/
theorem SameFindings.take (same : SameFindings run other) (step : Step) :
    SameFindings (run.take step) (other.take step) := by
  constructor
  case settings => exact same.settings
  case entries => simp only [Run.take, same.entries]
  case aggregate => simp only [Run.take, same.settings, same.aggregate]
  case journals => cases step <;> simp only [Run.take, Step.count, same.journals]
  case diaries => cases step <;> simp only [Run.take, Step.count, same.diaries]
  case metricsCallouts => cases step <;> simp only [Run.take, Step.count, same.metricsCallouts]
  case entryCount => cases step <;> simp only [Run.take, Step.count, same.entryCount]

/-! ## A whole run -/

/-- The steps that failed can be struck from a run. -/
theorem SameFindings.takeAll (same : SameFindings run other) (steps : List Step) :
    SameFindings (run.takeAll steps) (other.takeAll (steps.filter Step.isExtracted)) := by
  induction steps generalizing run other with
  | nil => exact same
  | cons step steps ih =>
    rw [takeAll_cons]
    by_cases extracted : step.isExtracted = true
    · rw [List.filter_cons_of_pos extracted, takeAll_cons]
      exact ih (same.take step)
    · rw [List.filter_cons_of_neg extracted]
      exact ih (same.take_failed (by simpa using extracted))

theorem SameFindings.outcome (same : SameFindings run other) : run.outcome = other.outcome := by
  simp only [Run.outcome, Outcome.ofTally, same.journals, same.diaries, same.metricsCallouts]

/-- When every note reports a kind at most once, the reports are as many as the notes that do. -/
theorem count_flatMap {α : Type} (kind : DiagnosticKind) (found : α → List Diagnostic)
    (tells : α → Bool) (once : ∀ a, count kind (found a) = if tells a then 1 else 0)
    (notes : List α) : count kind (notes.flatMap found) = notes.countP tells := by
  induction notes with
  | nil => rfl
  | cons note rest ih =>
    rw [List.flatMap_cons, count_append, once, ih, List.countP_cons]
    omega

/-- What a run over notes says of those that failed, and what it found in spite of them. -/
structure Isolates (settings : Settings) (today : Date) (read : Path → Except Fault Text)
    (notes : List Path) (run : Run) : Prop where
  files : run.tally.files = notes.length
  in_order : run.diagnostics =
    notes.flatMap fun note => (Step.ofNote settings today read note).diagnostics
  unread : ∀ note fault, read note = .error fault →
    (Step.ofNote settings today read note).diagnostics =
      [⟨note.toText, .fileReadFailed, fault.line, none⟩]
  givenUp : ∀ note text fault, read note = .ok text →
    Note.extract settings today note.toText text = .error fault →
    (Step.ofNote settings today read note).diagnostics =
      [⟨note.toText, .fileParseFailed, fault.line, none⟩]
  extracted : ∀ note text found, read note = .ok text →
    Note.extract settings today note.toText text = .ok found →
    (Step.ofNote settings today read note).diagnostics = found.diagnostics
  unread_count : count .fileReadFailed run.diagnostics = notes.countP (Path.isUnreadable read)
  givenUp_count :
    count .fileParseFailed run.diagnostics = notes.countP (Path.isGivenUp settings today read)
  same_findings : SameFindings run
    (ofNotes settings today read (notes.filter (Path.succeeds settings today read)))
  same_order : run.sortedEntries =
    (ofNotes settings today read (notes.filter (Path.succeeds settings today read))).sortedEntries
  same_outcome : run.outcome =
    (ofNotes settings today read (notes.filter (Path.succeeds settings today read))).outcome

/-- Whatever notes fail, and wherever they stand among the others, each is counted and reported
once, and the run finds what it finds without them. -/
theorem ofNotes_isolates (settings : Settings) (today : Date) (read : Path → Except Fault Text)
    (notes : List Path) :
    Isolates settings today read notes (ofNotes settings today read notes) := by
  have in_order : (ofNotes settings today read notes).diagnostics =
      notes.flatMap fun note => (Step.ofNote settings today read note).diagnostics := by
    rw [ofNotes, takeAll_diagnostics, List.flatMap_map]
    rfl
  have same : SameFindings (ofNotes settings today read notes)
      (ofNotes settings today read (notes.filter (Path.succeeds settings today read))) := by
    -- the two runs start out with different totals, which is no finding
    have start : SameFindings (Run.start settings notes.length)
        (Run.start settings (notes.filter (Path.succeeds settings today read)).length) :=
      ⟨rfl, rfl, rfl, rfl, rfl, rfl, rfl⟩
    have struck := start.takeAll (notes.map (Step.ofNote settings today read))
    rw [List.filter_map] at struck
    have agree : Step.isExtracted ∘ Step.ofNote settings today read =
        Path.succeeds settings today read := funext isExtracted_ofNote
    rwa [agree] at struck
  constructor
  case files =>
    rw [ofNotes, takeAll_files, List.length_map]
    exact Nat.zero_add _
  case in_order => exact in_order
  case unread =>
    intro note fault failed
    simp only [Step.ofNote, failed, Step.diagnostics]
  case givenUp =>
    intro note text fault delivered failed
    simp only [Step.ofNote, delivered, failed, Step.diagnostics]
  case extracted =>
    intro note text found delivered result
    simp only [Step.ofNote, delivered, result, Step.diagnostics]
  case unread_count => rw [in_order, count_flatMap _ _ _ ofNote_unread_count]
  case givenUp_count => rw [in_order, count_flatMap _ _ _ ofNote_givenUp_count]
  case same_findings => exact same
  case same_order => simp only [sortedEntries, same.entries]
  case same_outcome => exact same.outcome

end Run
end DreamJournal
