import DreamJournal.Proofs.Dating.Priority
import DreamJournal.Proofs.Dating.Reference
import DreamJournal.Proofs.Note.Accounting

/-!
# Entries dated by block references

The date of a journal is looked for in its header and in the first two lines of its body. The first
block reference there that spells a day settles it, wherever it stands, and so it is the date of
every dream whose nearest journal this is: whatever the header says in words, and whatever front
matter and path say.
-/
namespace DreamJournal

open Callout Dating

variable {settings : Settings} {lines : List Text} {roots : List Callout} {c : Callout}
  {impossible : List Text} {date : Date}

/-- Nothing but the header and the body of a journal counts for its date. -/
theorem tokensIn_dateLines (faithful : Scan.Faithful lines c) :
    tokensIn (c.dateLines lines) = tokensIn (c.headerLine :: c.body) := by
  -- two lines of the body are the lines behind the header, as far as the callout reaches
  have below : c.body.take 2 =
      (lines.take (min (c.start + 3) (c.stop + 1))).drop (c.start + 1) := by
    rw [faithful.body, List.take_drop, List.take_take]
  have short : ((lines.take (min (c.start + 3) (c.stop + 1))).drop (c.start + 1)).length ≤ 2 := by
    rw [← below]
    exact List.length_take_le 2 _
  rw [tokensIn, tokensIn, Callout.dateLines, List.take_succ_cons, List.take_succ_cons, below,
    List.take_of_length_le short]

/-- A block reference settles the date before anything else is asked. -/
theorem resolve_reference (context : Dating.Context)
    (first : FirstDay context.lines impossible date) (source : Text) (line : Option Nat)
    (today : Date) :
    (resolve context source line today).1 = .ofDate date .blockReference := by
  have found : (attempt context today .blockReference).date =
      some (.ofDate date .blockReference) :=
    congrArg Finding.date (fromBlockReference_day first)
  have split : searching = [] ++ .blockReference :: searching.tail := rfl
  rw [resolve_found source line split (List.forall_mem_nil _) found]

/-- A dream that became an entry, dated by the first block reference in its nearest journal that
spells a day, if there is one. -/
structure IsDated (settings : Settings) (source : Text) (roots : List Callout) (d : Dream)
    (e : Entry) : Prop where
  inside : ∃ v ∈ visits roots, v.callout = d.diary ∧
    v.nearest? settings.journalCallout = some d.journal
  isEntry : ∃ date, d.entry settings source date = .ok e
  dated : ∀ impossible date, FirstDay (d.journal.headerLine :: d.journal.body) impossible date →
    e.date = .ofDate date .blockReference

theorem Note.Context.isDated (context : Note.Context) (scanned : Scan.Scanned context.lines roots)
    {d : Dream} (isDream : d ∈ dreamsOf context.settings roots) {e : Entry}
    (isEntry : d.entry context.settings context.source (context.dateOf d.journal).1 = .ok e) :
    IsDated context.settings context.source roots d e := by
  constructor
  case inside =>
    obtain ⟨v, visited, diary, _, nearest, _⟩ := exists_diary_visit isDream
    exact ⟨v, visited, diary, nearest⟩
  case isEntry => exact ⟨_, isEntry⟩
  case dated =>
    intro impossible date first
    have faithful := scanned.faithful d.journal (journal_of_dream isDream).1
    have settles : FirstDay (d.journal.dateLines context.lines) impossible date := by
      rwa [FirstDay, tokensIn_dateLines faithful]
    rw [Dream.entry_date isEntry]
    exact resolve_reference ⟨_, context.frontMatter, context.source⟩ settles _ _ _

/-- The first block reference on three lines that spells a day is the date that is found, and the
entries of a note have the dates that are found in this way in their nearest journals. -/
theorem dated_by_references :
    (∀ lines source, Referenced lines source (fromBlockReference lines).date
      ((fromBlockReference lines).diagnostics source)) ∧
    ∀ settings today source note x, Note.extract settings today source note = .ok x →
      ∃ kept, kept.Sublist (dreamsOf settings (Scan.ofText note).roots) ∧
        List.Forall₂ (IsDated settings source (Scan.ofText note).roots) kept x.entries := by
  refine ⟨referenced, fun settings today source note x returned => ?_⟩
  obtain ⟨fields, complaints, rfl⟩ := exists_context_of_returned returned
  let context : Note.Context := ⟨settings, today, source, Text.lines note, fields⟩
  obtain ⟨kept, sub, related⟩ := context.exists_kept_dated (Scan.ofText note).roots complaints
  have listed := (List.forall₂_and_left _ _).mpr ⟨fun d member => sub.subset member, related⟩
  refine ⟨kept, sub, listed.imp ?_⟩
  rintro d e ⟨isDream, isEntry⟩
  exact context.isDated (Scan.ofLines_scanned (Text.lines note)) isDream isEntry

/-- A journal with a date in words, a reference that is no day on its second line, and one that is a
day on its third. -/
def referencedNote : Text := Text.joinLines <|
  ["> [!journal-entry] Sunday, June 15th, 2025", "> ^20251340", "> ^20250616 and ^20250617",
    ">> [!dream-diary] Sea", ">> waves"].map Text.of

theorem dated_by_references_third :
    ∃ x, Note.extract Settings.standard ⟨2030, 1, 1, by decide⟩ (Text.of "2024/a.md")
        referencedNote = .ok x ∧
      (∀ c ∈ (Scan.ofText referencedNote).roots,
        FirstDay (c.headerLine :: c.body) [Text.of "20251340"] ⟨2025, 6, 16, by decide⟩) ∧
      (x.entries.map fun e => (e.title, e.date)) =
        [(Text.of "Sea", ⟨2025, some 6, some 16, .blockReference⟩)] ∧
      ∃ kept, kept.Sublist (dreamsOf Settings.standard (Scan.ofText referencedNote).roots) ∧
        List.Forall₂ (IsDated Settings.standard (Text.of "2024/a.md")
          (Scan.ofText referencedNote).roots) kept x.entries := by
  have front : Note.frontMatterOf (Text.of "2024/a.md") referencedNote = .ok ([], []) := by rfl
  have found : ∀ c ∈ (Scan.ofText referencedNote).roots, tokensIn (c.headerLine :: c.body) =
      ["20251340", "20250616", "20250617"].map Text.of := by decide +kernel
  refine ⟨_, extract_eq_of_frontMatter front, fun c member => ?_, by decide +kernel,
    dated_by_references.2 _ _ _ _ _ (extract_eq_of_frontMatter front)⟩
  refine ⟨_, _, found c member, by unfold Spells; decide +kernel, ?_⟩
  exact List.forall_mem_singleton.mpr (isImpossible_iff.mpr (by decide +kernel))

end DreamJournal
