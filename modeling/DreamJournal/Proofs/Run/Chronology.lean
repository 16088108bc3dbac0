import DreamJournal.Proofs.Note.Accounting
import DreamJournal.Proofs.Run.Order

/-!
# A finished run is in the order of its dates

When a run is finished, its entries are put in the order of the numbers of their dates. For dates
that journals get this is the order of the texts of the dates, in which a year alone comes before
its days. Nothing is lost on the way, and entries whose dates have one text stay in the order in
which they were submitted.
-/
namespace DreamJournal

open ResolvedDate

variable {settings : Settings}

/-- An entry that was extracted has the date that its journal gets. -/
theorem Note.dates_resolved {today : Date} {source note : Text} {x : NoteExtraction}
    (returned : Note.extract settings today source note = .ok x) :
    ∀ e ∈ x.entries, e.date.IsResolved := by
  obtain ⟨fields, complaints, rfl⟩ := exists_context_of_returned returned
  intro e member
  obtain ⟨d, _, kept⟩ := List.mem_filterMap.mp member
  cases result : (Note.Context.assemble _ d).entry with
  | error fault =>
    rw [result] at kept
    cases kept
  | ok found =>
    rw [result] at kept
    obtain rfl := Option.some.inj kept
    rw [Dream.entry_date result]
    exact ⟨_, _, _, _, rfl⟩

theorem Step.dates_resolved {step : Step} (isUnder : step.IsUnder settings) :
    ∀ e ∈ step.entries, e.date.IsResolved := by
  cases step with
  | extracted found =>
    obtain ⟨today, source, note, returned⟩ := isUnder
    exact Note.dates_resolved returned
  | unread source fault => simp [Step.entries]
  | givenUp source fault => simp [Step.entries]

namespace Run

/-- Entries are finished in the order of the texts of their dates, those with one text in the order
in which they were submitted. -/
structure Chronicled (submitted finished : List Entry) : Prop where
  perm : finished.Perm submitted
  ascending : finished.Pairwise fun earlier later => earlier.date.iso ≤ later.date.iso
  stable : ∀ t, (finished.filter fun e => e.date.iso = t) =
    submitted.filter fun e => e.date.iso = t

variable {run : Run}

theorem sublist_sortedEntries {es : List Entry} (listed : es.Sublist run.entries)
    (inOrder : es.Pairwise fun a b => a.date.le b.date = true) :
    es.Sublist run.sortedEntries := by
  apply List.sublist_mergeSort _ _ inOrder listed
  · intro a b c first second
    exact keyLe_trans first second
  · intro a b
    exact keyLe_total _ _

theorem chronicled_sortedEntries (known : ∀ e ∈ run.entries, e.date.IsKnown) :
    Chronicled run.entries run.sortedEntries := by
  have perm := sortedEntries_perm run
  refine ⟨perm, ?_, fun t => ?_⟩
  · refine (sortedEntries_pairwise run).imp_of_mem ?_
    intro a b first second inOrder
    exact ((known a (perm.subset first)).iso_le_iff (known b (perm.subset second))).mpr inOrder
  · -- entries with one text are in order however they stand, so the sort leaves them as they are
    have inOrder : (run.entries.filter fun e => e.date.iso = t).Pairwise
        fun a b => a.date.le b.date = true := by
      apply List.pairwise_of_forall_mem_list
      intro a first b second
      obtain ⟨isFirst, here⟩ := List.mem_filter.mp first
      obtain ⟨isSecond, there⟩ := List.mem_filter.mp second
      apply ((known a isFirst).iso_le_iff (known b isSecond)).mp
      rw [of_decide_eq_true here, of_decide_eq_true there]
    have kept := (sublist_sortedEntries List.filter_sublist inOrder).filter
      fun e => decide (e.date.iso = t)
    simp only [List.filter_filter, Bool.and_self] at kept
    exact (kept.eq_of_length (perm.filter _).length_eq.symm).symm

/-- Whatever entries a run takes up, as long as their dates are dates of journals, it is finished in
the order of the texts of the dates; and the numbers of two such dates are in order exactly when
their texts are, a year alone before all of its days. -/
theorem takeAll_chronicled (settings : Settings) (total : Int) (steps : List Step)
    (resolved : ∀ step ∈ steps, ∀ e ∈ step.entries, e.date.IsResolved) :
    Chronicled (steps.flatMap Step.entries)
      ((start settings total).takeAll steps).sortedEntries ∧
    (∀ a b : ResolvedDate, a.IsResolved → b.IsResolved →
      (keyLe a.sortKey b.sortKey = true ↔ a.iso ≤ b.iso)) ∧
    ∀ a b : ResolvedDate, a.IsResolved → b.IsResolved → a.isPartial = true →
      b.isPartial = false → a.year = b.year →
        a.iso < b.iso ∧ ¬keyLe b.sortKey a.sortKey = true := by
  have submitted : ((start settings total).takeAll steps).entries = steps.flatMap Step.entries :=
    takeAll_entries _ _
  have known : ∀ e ∈ ((start settings total).takeAll steps).entries, e.date.IsKnown := by
    rw [submitted]
    intro e member
    obtain ⟨step, taken, isEntry⟩ := List.mem_flatMap.mp member
    exact (resolved step taken e isEntry).isKnown
  refine ⟨submitted ▸ chronicled_sortedEntries known, ?_, ?_⟩
  · intro a b left right
    exact (left.isKnown.iso_le_iff right.isKnown).symm
  · intro a b left right yearAlone full same
    have order := iso_lt_of_isPartial yearAlone full same
    exact ⟨order, (left.isKnown.iso_lt_iff right.isKnown).mp order⟩

/-- A note that is dated by the year in its path. -/
def yearNote : Text := Text.joinLines <|
  ["> [!journal-entry]", ">> [!dream-diary] Hill", ">> wind"].map Text.of

/-- Two dreams of one day. -/
def dayNote : Text := Text.joinLines <|
  ["> [!journal-entry] ^20250615", ">> [!dream-diary] Sea", ">> waves", ">> [!dream-diary] Moon",
    ">> light"].map Text.of

theorem extract_dayNote :
    ∃ x, Note.extract Settings.standard ⟨2030, 1, 1, by decide⟩ (Text.of "b.md") dayNote = .ok x ∧
      (x.entries.map fun e => (e.title, e.date)) =
        [(Text.of "Sea", ⟨2025, some 6, some 15, .blockReference⟩),
          (Text.of "Moon", ⟨2025, some 6, some 15, .blockReference⟩)] := by
  have front : Note.frontMatterOf (Text.of "b.md") dayNote = .ok ([], []) := by rfl
  exact ⟨_, extract_eq_of_frontMatter front, by decide +kernel⟩

theorem extract_yearNote :
    ∃ x, Note.extract Settings.standard ⟨2030, 1, 1, by decide⟩ (Text.of "2025/a.md") yearNote =
        .ok x ∧
      (x.entries.map fun e => (e.title, e.date)) =
        [(Text.of "Hill", ⟨2025, none, none, .pathInference⟩)] := by
  have front : Note.frontMatterOf (Text.of "2025/a.md") yearNote = .ok ([], []) := by rfl
  exact ⟨_, extract_eq_of_frontMatter front, by decide +kernel⟩

/-- Two dreams of one day, submitted in front of one that has a year alone. -/
theorem takeAll_chronicled_year :
    ∃ x y, Note.extract Settings.standard ⟨2030, 1, 1, by decide⟩ (Text.of "b.md") dayNote = .ok x ∧
      Note.extract Settings.standard ⟨2030, 1, 1, by decide⟩ (Text.of "2025/a.md") yearNote =
        .ok y ∧
      (([Step.extracted x, .extracted y].flatMap Step.entries).map fun e => (e.title, e.date)) =
          [(Text.of "Sea", ⟨2025, some 6, some 15, .blockReference⟩),
            (Text.of "Moon", ⟨2025, some 6, some 15, .blockReference⟩),
            (Text.of "Hill", ⟨2025, none, none, .pathInference⟩)] ∧
      Chronicled ([Step.extracted x, .extracted y].flatMap Step.entries)
        ((start Settings.standard 2).takeAll [.extracted x, .extracted y]).sortedEntries ∧
      ∀ day ∈ x.entries, ∀ year ∈ y.entries, year.date.iso < day.date.iso := by
  obtain ⟨x, dayReturned, days⟩ := extract_dayNote
  obtain ⟨y, yearReturned, years⟩ := extract_yearNote
  have ofDay := Note.dates_resolved dayReturned
  have ofYear := Note.dates_resolved yearReturned
  obtain ⟨chronicled, _, yearFirst⟩ := takeAll_chronicled Settings.standard 2
    [.extracted x, .extracted y] (by
      intro step member
      rcases List.mem_pair.mp member with rfl | rfl
      · exact ofDay
      · exact ofYear)
  have submitted : [Step.extracted x, .extracted y].flatMap Step.entries =
      x.entries ++ y.entries := by simp [Step.entries]
  refine ⟨x, y, dayReturned, yearReturned, ?_, chronicled, fun d isDay e isYear => ?_⟩
  · rw [submitted, List.map_append, days, years]
    rfl
  · have full : d.date.isPartial = false ∧ d.date.year = 2025 := by
      have listed := List.mem_map_of_mem (f := fun e => (e.title, e.date)) isDay
      rw [days] at listed
      rcases List.mem_pair.mp listed with same | same <;> simp [(Prod.mk.inj same).2, isPartial]
    have yearAlone : e.date.isPartial = true ∧ e.date.year = 2025 := by
      have listed := List.mem_map_of_mem (f := fun e => (e.title, e.date)) isYear
      rw [years] at listed
      simp [(Prod.mk.inj (List.mem_singleton.mp listed)).2, isPartial]
    exact (yearFirst _ _ (ofYear e isYear) (ofDay d isDay) yearAlone.1 full.1
      (yearAlone.2.trans full.2.symm)).1

end Run
end DreamJournal
