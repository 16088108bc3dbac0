import DreamJournal.Proofs.Dating.Priority
import DreamJournal.Proofs.Note.Reports

/-!
# Journals are dated once

A journal gets its date with the first dream whose nearest journal it is, and keeps it for the later
ones, so dreams of one journal have one date. When nothing dates the journal, that is said with its
first dream alone: journals are known by the lines on which they begin, and no two begin on the
same.

The run over the sightings of a note carries the first lines of the journals that have a date. The
diagnostics still to come are those of the journals among the later dreams whose lines are not yet
known, each once; one lemma says how each sighting adds to that.
-/
namespace DreamJournal

open Callout Diagnostic Dating

variable {settings : Settings} {roots : List Callout} {context : Note.Context} {v : Visit}
  {journal : Callout} {dated : List Nat} {seen : List Sighting} {journals : List Callout}

/-! ## The nearest journal -/

/-- A journal callout around a visited one, with no journal callout between them. -/
def IsNearest (settings : Settings) (v : Visit) (journal : Callout) : Prop :=
  ∃ outer inner, v.around = outer ++ journal :: inner ∧ journal.kind = settings.journalCallout ∧
    ∀ c ∈ inner, c.kind ≠ settings.journalCallout

theorem isNearest_iff :
    IsNearest settings v journal ↔ v.nearest? settings.journalCallout = some journal := by
  rw [Visit.nearest?, List.find?_eq_some_iff_append]
  constructor
  · rintro ⟨outer, inner, parts, kind, none⟩
    refine ⟨decide_eq_true kind, inner.reverse, outer.reverse, ?_, fun c member => ?_⟩
    · simp [parts]
    · simpa using none c (List.mem_reverse.mp member)
  · rintro ⟨kind, inner, outer, parts, none⟩
    refine ⟨outer.reverse, inner.reverse, ?_, of_decide_eq_true kind, fun c member => ?_⟩
    · rw [← List.reverse_reverse v.around, parts]
      simp
    · simpa using none c (List.mem_reverse.mp member)

/-- A journal callout is the nearest one around some diary. -/
def HoldsDiary (settings : Settings) (roots : List Callout) (journal : Callout) : Prop :=
  ∃ v ∈ visits roots, v.callout.kind = settings.diaryCallout ∧ IsNearest settings v journal

theorem holdsDiary_iff (differ : settings.journalCallout ≠ settings.diaryCallout) :
    HoldsDiary settings roots journal ↔ ∃ d ∈ dreamsOf settings roots, d.journal = journal := by
  constructor
  · rintro ⟨v, visited, diary, nearest⟩
    have other : v.callout.kind ≠ settings.journalCallout :=
      fun same => differ (same.symm.trans diary)
    have isDream := ofVisit?_dream_iff.mpr ⟨other, diary, journal, isNearest_iff.mp nearest, rfl⟩
    exact ⟨_, mem_dreamsOf.mpr ⟨v, visited, isDream⟩, rfl⟩
  · rintro ⟨d, isDream, rfl⟩
    obtain ⟨v, visited, same, diary, nearest, _⟩ := exists_diary_visit isDream
    exact ⟨v, visited, same ▸ diary, isNearest_iff.mpr nearest⟩

/-! ## What is said of a journal without a date -/

namespace Note.Context

/-- Nothing that is asked for the date of a journal finds one. -/
def Fails (context : Note.Context) (journal : Callout) : Prop :=
  ∀ strategy ∈ searching, (attempt ⟨journal.dateLines context.lines, context.frontMatter,
    context.source⟩ context.today strategy).date = none

/-- What is said of a journal without a date. -/
def undated (context : Note.Context) (journal : Callout) : Diagnostic :=
  ⟨context.source, .dateUnresolved, unresolved, some journal.lineNumber⟩

theorem ofKind_told (tried : List DateStrategy) (dating : Dating.Context) (today : Date)
    (source : Text) : ofKind .dateUnresolved (told dating today source tried) = [] := by
  have among : Among [.dateInvalid] (told dating today source tried) :=
    fun d member => List.mem_singleton.mpr (told_invalid source tried d member)
  exact among.ofKind_eq_nil (by decide)

theorem Fails.ofKind_dateOf (fails : context.Fails journal) :
    ofKind .dateUnresolved (context.dateOf journal).2 = [context.undated journal] := by
  rw [dateOf, resolve_fallback _ _ fails, ofKind_append, ofKind_told]
  rfl

theorem ofKind_dateOf_eq_nil (finds : ¬context.Fails journal) :
    ofKind .dateUnresolved (context.dateOf journal).2 = [] := by
  rcases exists_first_or_failed ⟨journal.dateLines context.lines, context.frontMatter,
    context.source⟩ context.today with ⟨earlier, strategy, later, d, split, failed, found⟩ | failed
  · rw [dateOf, resolve_found _ _ split failed found, ofKind_told]
  · exact absurd failed finds

end Note.Context

/-! ## The run over the sightings -/

/-- Some journals are those that a report on sightings says to have no date: the journals of the
sighted dreams that nothing dates, each once, except those that have a date from before. -/
structure ToldOnce (context : Note.Context) (dated : List Nat) (seen : List Sighting)
    (journals : List Callout) : Prop where
  told : ofKind .dateUnresolved (context.report dated seen) = journals.map context.undated
  once : (journals.map Callout.start).Nodup
  mem_iff : ∀ journal, journal ∈ journals ↔
    (∃ d ∈ seen.filterMap Sighting.dream?, d.journal = journal) ∧ journal.start ∉ dated ∧
      context.Fails journal

theorem Note.Context.ofKind_report_dream (context : Note.Context) (dated : List Nat) (d : Dream)
    (rest : List Sighting) : ofKind .dateUnresolved (context.report dated (.dream d :: rest)) =
      ofKind .dateUnresolved
          (if dated.contains d.journal.start then [] else (context.dateOf d.journal).2) ++
        ofKind .dateUnresolved (context.report (d.journal.start :: dated) rest) := by
  rw [report, ofKind_append, ofKind_append]
  -- whether the entry of the dream fails or not, nothing is said of a date there
  rw [(context.assemble_among d).ofKind_eq_nil (by decide), List.append_nil]

/-- What is still to be said behind a dream is all that is to be said, but for its own journal. -/
theorem ToldOnce.mem_iff_behind {d : Dream} {rest : List Sighting}
    (later : ToldOnce context (d.journal.start :: dated) rest journals)
    (apart : ∀ other ∈ rest.filterMap Sighting.dream?,
      other.journal.start = d.journal.start → other.journal = d.journal)
    (journal : Callout) : journal ∈ journals ↔ journal ≠ d.journal ∧
      (∃ other ∈ (Sighting.dream d :: rest).filterMap Sighting.dream?, other.journal = journal) ∧
        journal.start ∉ dated ∧ context.Fails journal := by
  rw [later.mem_iff]
  constructor
  · rintro ⟨⟨other, listed, rfl⟩, unknown, fails⟩
    rw [List.mem_cons, not_or] at unknown
    refine ⟨fun same => unknown.1 (congrArg Callout.start same), ⟨other, ?_, rfl⟩, unknown.2, fails⟩
    exact List.mem_cons_of_mem _ listed
  · rintro ⟨differs, ⟨other, listed, rfl⟩, unknown, fails⟩
    rcases List.mem_cons.mp listed with rfl | behind
    · exact absurd rfl differs
    · refine ⟨⟨other, behind, rfl⟩, ?_, fails⟩
      rw [List.mem_cons, not_or]
      exact ⟨fun same => differs (apart other behind same), unknown⟩

/-- A dream in a journal that has a date already, or in one that something dates, adds nothing. -/
theorem ToldOnce.silent {d : Dream} {rest : List Sighting}
    (later : ToldOnce context (d.journal.start :: dated) rest journals)
    (apart : ∀ other ∈ rest.filterMap Sighting.dream?,
      other.journal.start = d.journal.start → other.journal = d.journal)
    (settled : d.journal.start ∈ dated ∨ ¬context.Fails d.journal) :
    ToldOnce context dated (.dream d :: rest) journals := by
  constructor
  case told =>
    have nothing : ofKind .dateUnresolved
        (if dated.contains d.journal.start then [] else (context.dateOf d.journal).2) = [] := by
      split
      next => rfl
      next new =>
        rw [List.contains_iff_mem] at new
        exact context.ofKind_dateOf_eq_nil (settled.resolve_left new)
    rw [context.ofKind_report_dream, nothing, List.nil_append]
    exact later.told
  case once => exact later.once
  case mem_iff =>
    intro journal
    rw [later.mem_iff_behind apart, and_iff_right_iff_imp]
    rintro ⟨_, unknown, fails⟩ rfl
    exact settled.elim unknown fun finds => finds fails

/-- The first dream of a journal that nothing dates adds the journal. -/
theorem ToldOnce.add {d : Dream} {rest : List Sighting}
    (later : ToldOnce context (d.journal.start :: dated) rest journals)
    (apart : ∀ other ∈ rest.filterMap Sighting.dream?,
      other.journal.start = d.journal.start → other.journal = d.journal)
    (new : d.journal.start ∉ dated) (fails : context.Fails d.journal) :
    ToldOnce context dated (.dream d :: rest) (d.journal :: journals) := by
  constructor
  case told =>
    rw [context.ofKind_report_dream, if_neg (by simpa using new), fails.ofKind_dateOf, later.told]
    rfl
  case once =>
    rw [List.map_cons, List.nodup_cons]
    refine ⟨fun member => ?_, later.once⟩
    obtain ⟨journal, listed, same⟩ := List.mem_map.mp member
    have unknown := ((later.mem_iff journal).mp listed).2.1
    exact unknown (same ▸ List.mem_cons_self)
  case mem_iff =>
    intro journal
    rw [List.mem_cons, later.mem_iff_behind apart]
    by_cases same : journal = d.journal
    · subst same
      constructor
      · exact fun _ => ⟨⟨d, List.mem_cons_self, rfl⟩, new, fails⟩
      · exact fun _ => .inl rfl
    · simp [same]

/-- Whatever sightings there are, when journals are told apart by their first lines. -/
theorem exists_toldOnce (context : Note.Context) (dated : List Nat) (seen : List Sighting)
    (apart : (seen.filterMap Sighting.dream?).Pairwise
      fun d other => other.journal.start = d.journal.start → other.journal = d.journal) :
    ∃ journals, ToldOnce context dated seen journals := by
  -- each dream makes its journal known to those behind it, so any may be known from before
  induction seen generalizing dated with
  | nil => exact ⟨[], rfl, List.nodup_nil, by simp⟩
  | cons sighting rest ih =>
    cases sighting with
    | journal =>
      obtain ⟨journals, told, once, mem_iff⟩ := ih dated apart
      exact ⟨journals, told, once, mem_iff⟩
    | stray diary =>
      obtain ⟨journals, told, once, mem_iff⟩ := ih dated apart
      exact ⟨journals, told, once, mem_iff⟩
    | dream d =>
      obtain ⟨here, others⟩ := List.pairwise_cons.mp apart
      obtain ⟨journals, later⟩ := ih (d.journal.start :: dated) others
      by_cases settled : d.journal.start ∈ dated ∨ ¬context.Fails d.journal
      · exact ⟨journals, later.silent here settled⟩
      · rw [not_or, not_not] at settled
        exact ⟨d.journal :: journals, later.add here settled.1 settled.2⟩

/-! ## A whole note -/

/-- An entry comes from a dream and has the date of the nearest journal around its diary. -/
structure HasJournalDate (context : Note.Context) (roots : List Callout) (d : Dream) (e : Entry) :
    Prop where
  inside : ∃ v ∈ visits roots, v.callout = d.diary ∧ IsNearest context.settings v d.journal
  isEntry : ∃ date, d.entry context.settings context.source date = .ok e
  dated : e.date = (context.dateOf d.journal).1

/-- Journals are dated once. The entries are those of some dreams, in their order and dated as their
nearest journals are, so that dreams of one journal have one date; and the journals that nothing
dates are told, each once and with the line of its header, if a diary has them for its nearest. -/
structure DatedOnce (context : Note.Context) (roots : List Callout) (x : NoteExtraction) :
    Prop where
  entries : ∃ kept, kept.Sublist (dreamsOf context.settings roots) ∧
    List.Forall₂ (HasJournalDate context roots) kept x.entries ∧
    ∀ first ∈ kept.zip x.entries, ∀ second ∈ kept.zip x.entries,
      first.1.journal = second.1.journal → first.2.date = second.2.date
  unresolved : ∃ journals : List Callout, (journals.map Callout.lineNumber).Nodup ∧
    (∀ journal, journal ∈ journals ↔
      HoldsDiary context.settings roots journal ∧ context.Fails journal) ∧
    ofKind .dateUnresolved x.diagnostics = journals.map context.undated

theorem Note.Context.datedOnce (context : Note.Context) {lines : List Text}
    (scanned : Scan.Scanned lines roots)
    (differ : context.settings.journalCallout ≠ context.settings.diaryCallout)
    {earlier : List Diagnostic}
    (before : Among [.frontMatterInvalid, .structuralWarning] earlier) :
    DatedOnce context roots (context.extract roots earlier) := by
  constructor
  case entries =>
    obtain ⟨kept, sub, related⟩ := context.exists_kept_dated roots earlier
    have listed := (List.forall₂_and_left _ _).mpr ⟨fun d member => sub.subset member, related⟩
    have dated : List.Forall₂ (HasJournalDate context roots) kept
        (context.extract roots earlier).entries := by
      refine listed.imp ?_
      rintro d e ⟨isDream, isEntry⟩
      obtain ⟨v, visited, diary, _, nearest, _⟩ := exists_diary_visit isDream
      exact ⟨⟨v, visited, diary, isNearest_iff.mpr nearest⟩, ⟨_, isEntry⟩, Dream.entry_date isEntry⟩
    refine ⟨kept, sub, dated, fun first inFirst second inSecond same => ?_⟩
    -- the date of an entry is a function of its journal
    have one := (List.forall₂_iff_zip.mp dated).2 inFirst
    have two := (List.forall₂_iff_zip.mp dated).2 inSecond
    rw [one.dated, two.dated, same]
  case unresolved =>
    -- the scan lets no two callouts begin on one line
    have apart : (dreamsOf context.settings roots).Pairwise
        fun d other => other.journal.start = d.journal.start → other.journal = d.journal := by
      refine List.pairwise_of_forall_mem_list fun d isDream other isOther same => ?_
      exact scanned.eq_of_start_eq (journal_of_dream isOther).1 (journal_of_dream isDream).1 same
    obtain ⟨journals, told, once, mem_iff⟩ := exists_toldOnce context []
      (sightings context.settings roots) apart
    refine ⟨journals, ?_, fun journal => ?_, ?_⟩
    · have counted : journals.map Callout.lineNumber =
          (journals.map Callout.start).map (· + 1) := by
        rw [List.map_map]
        rfl
      rw [counted]
      exact once.map Nat.succ_injective
    · rw [mem_iff, holdsDiary_iff differ]
      simp [dreamsOf]
    · rw [Note.Context.extract, ofKind_append, ofKind_append, before.ofKind_eq_nil (by decide),
        (strayMetrics_among context _).ofKind_eq_nil (by decide), List.nil_append, List.append_nil,
        told]

/-- In every note that can be extracted, journals are dated once. -/
theorem journals_dated_once (settings : Settings) (today : Date) (source note : Text)
    (x : NoteExtraction) (differ : settings.journalCallout ≠ settings.diaryCallout)
    (returned : Note.extract settings today source note = .ok x) :
    ∃ fields complaints, Note.frontMatterOf source note = .ok (fields, complaints) ∧
      DatedOnce ⟨settings, today, source, Text.lines note, fields⟩ (Scan.ofText note).roots x := by
  obtain ⟨fields, complaints, front, before, rfl⟩ := exists_frontMatter_of_returned returned
  exact ⟨fields, complaints, front, Note.Context.datedOnce _
    (Scan.ofLines_scanned (Text.lines note)) differ before⟩

/-- A journal in a journal, each with a dream, and the inner one with a dream that fails. -/
def nestedJournals : Text := Text.joinLines <|
  ["> [!journal-entry]", ">> [!journal-entry]", ">>> [!dream-diary] Sea", ">>> waves",
    ">>> [!dream-diary]", "", "> [!journal-entry]", ">> [!dream-diary] Hill",
    ">> [!journal-entry]", ">>> [!dream-diary]", ">> [!dream-diary] Tree"].map Text.of

set_option maxRecDepth 4000 in
theorem journals_dated_once_nested :
    ∃ x, Note.extract Settings.standard ⟨2030, 1, 1, by decide⟩ (Text.of "a.md") nestedJournals =
        .ok x ∧
      x.entries.map Entry.title = ["Sea", "Hill", "Tree"].map Text.of ∧
      (ofKind .dateUnresolved x.diagnostics).map Diagnostic.line = [some 2, some 7, some 9] ∧
      ∃ fields complaints,
        Note.frontMatterOf (Text.of "a.md") nestedJournals = .ok (fields, complaints) ∧
        DatedOnce ⟨Settings.standard, ⟨2030, 1, 1, by decide⟩, Text.of "a.md",
          Text.lines nestedJournals, fields⟩ (Scan.ofText nestedJournals).roots x := by
  have front : Note.frontMatterOf (Text.of "a.md") nestedJournals = .ok ([], []) := by rfl
  refine ⟨_, extract_eq_of_frontMatter front, by decide +kernel, by decide +kernel,
    journals_dated_once _ _ _ _ _ (by decide) (extract_eq_of_frontMatter front)⟩

end DreamJournal
