import DreamJournal.Proofs.Note.Narrative

/-!
# A dream without metrics

A dream without a metrics callout is reported, with the words that its whole body was kept. What is
reported is decided in the tree of callouts. What is kept is decided in the text of the body: it is
whole only when none of its lines names a metrics callout, and a line can name one without being a
header, as in the middle of a sentence. `unmarked_kept_iff` says what the report stands for.
-/
namespace DreamJournal

open Callout Narrative Diagnostic
open Text (joinLines)

variable {settings : Settings} {roots : List Callout} {d : Dream} {e : Entry}
  {today : Date} {source note : Text} {x : NoteExtraction} {told : Diagnostic}

/-- The report that the whole body of a dream was kept. -/
def Dream.unmarked (d : Dream) (settings : Settings) (source : Text) : Diagnostic where
  source := d.reference source
  kind := .contentBoundaryMissing
  message := boundaryMissing settings.metricsCallout
  line := some d.diary.lineNumber

/-- What an entry keeps of the body of its dream. -/
structure KeepsUpToTag (settings : Settings) (d : Dream) (e : Entry) : Prop where
  content : e.content = cleanWhole settings.paragraphMode
    (joinLines (d.diary.body.take (boundary settings.metricsCallout d.diary.body)))
  uncut_iff : truncate settings.metricsCallout (joinLines d.diary.body) =
      (joinLines d.diary.body, false) ↔
    ∀ line ∈ d.diary.body, ¬Tagged settings.metricsCallout line
  whole : (∀ line ∈ d.diary.body, ¬Tagged settings.metricsCallout line) →
    e.content = cleanWhole settings.paragraphMode (joinLines d.diary.body)

/-! ## What is reported -/

theorem Dream.mem_metricsDiagnostics_iff (isMissing : told.kind = .contentBoundaryMissing) :
    told ∈ d.metricsDiagnostics settings source ↔
      d.metrics = none ∧ told = d.unmarked settings source := by
  unfold metricsDiagnostics metricsRead
  cases d.metrics with
  | none =>
    have said : boundaryDiagnostics settings.metricsCallout false (d.reference source)
        d.diary.lineNumber = [d.unmarked settings source] := rfl
    simp [said]
  | some m =>
    -- reading a metrics callout reports on metrics only
    refine iff_of_false ?_ (fun none => by cases none.1)
    exact (Metric.diagnostics_among _ _ _ _).not_mem (by simp [isMissing])

theorem Note.Context.mem_assemble_iff (context : Note.Context)
    (isMissing : told.kind = .contentBoundaryMissing) :
    told ∈ (context.assemble d).diagnostics ↔
      d.metrics = none ∧ told = d.unmarked context.settings context.source := by
  rw [← Dream.mem_metricsDiagnostics_iff isMissing, assemble, Dream.assemble, List.mem_append]
  refine or_iff_left fun failed => ?_
  split at failed
  · cases failed
  · rw [List.mem_singleton.mp failed] at isMissing
    cases isMissing

/-- Exactly the dreams without a metrics callout are reported to be kept whole. -/
theorem mem_diagnostics_iff (returned : Note.extract settings today source note = .ok x)
    (isMissing : told.kind = .contentBoundaryMissing) :
    told ∈ x.diagnostics ↔
      ∃ d ∈ dreamsOf settings (Scan.ofText note).roots,
        d.metrics = none ∧ told = d.unmarked settings source := by
  obtain ⟨fields, earlier, before, rfl⟩ := exists_context_with_earlier returned
  rw [← mem_ofKind, Note.Context.ofKind_extract _ _ before (by simp [isMissing]), List.mem_flatMap]
  simp only [mem_ofKind, Note.Context.mem_assemble_iff _ isMissing]

theorem unmarked_mem_iff (returned : Note.extract settings today source note = .ok x)
    (isDream : d ∈ dreamsOf settings (Scan.ofText note).roots) :
    d.unmarked settings source ∈ x.diagnostics ↔ d.metrics = none := by
  rw [mem_diagnostics_iff returned rfl]
  constructor
  · rintro ⟨other, isOther, none, same⟩
    -- the line of the report tells which dream it is about
    have start : d.diary.start = other.diary.start :=
      Nat.succ.inj (Option.some.inj (congrArg Diagnostic.line same))
    have order : (dreamsOf settings (Scan.ofText note).roots).Pairwise
        fun d e => d.diary.start < e.diary.start :=
      dreamsOf_ascending (Scan.ofLines_scanned (Text.lines note))
    have distinct := (List.pairwise_map.mpr order).imp Nat.ne_of_lt
    rwa [List.inj_on_of_nodup_map distinct isDream isOther start]
  · exact fun none => ⟨d, isDream, none, rfl⟩

/-! ## What is kept -/

theorem Dream.entry_keepsUpToTag {date : ResolvedDate}
    (scanned : Scan.Scanned (Text.lines note) roots) (isDream : d ∈ dreamsOf settings roots)
    (isEntry : d.entry settings source date = .ok e) : KeepsUpToTag settings d e := by
  have unbroken := unbroken_body scanned (mem_walkAll_of_dream isDream)
  have content : e.content = cleanWhole settings.paragraphMode
      (joinLines (d.diary.body.take (boundary settings.metricsCallout d.diary.body))) := by
    rw [(Dream.entry_parts isEntry).1, Dream.content, clean_joinLines unbroken]
  have feedless : ∀ line ∈ d.diary.body, '\n' ∉ line := fun line listed => (unbroken line listed).1
  -- the body is uncut when it ends in front of its boundary
  refine ⟨content, ?_, fun untagged => ?_⟩
  · rw [truncate_joinLines feedless, Prod.mk.injEq, decide_eq_false_iff_not, ← boundary_eq_length]
    constructor
    · rintro ⟨_, uncut⟩
      exact Nat.le_antisymm (boundary_le _ _) (Nat.le_of_not_lt uncut)
    · intro all
      exact ⟨by rw [all, List.take_length], by omega⟩
  · rw [content, boundary_eq_length.mpr untagged, List.take_length]

/-- An entry is reported to keep the whole body of its diary exactly when its dream has no metrics
callout. It does keep the whole body when no line of it names a metrics callout; otherwise it keeps
the lines in front of the first that does. -/
theorem unmarked_kept_iff (settings : Settings) (today : Date) (source note : Text)
    (x : NoteExtraction) (returned : Note.extract settings today source note = .ok x) :
    ∃ kept, kept.Sublist (dreamsOf settings (Scan.ofText note).roots) ∧
      List.Forall₂ (fun d e => (∃ date, d.entry settings source date = .ok e) ∧
        (d.unmarked settings source ∈ x.diagnostics ↔ d.metrics = none) ∧
          KeepsUpToTag settings d e) kept x.entries := by
  refine forall_entries returned fun d isDream e date isEntry => ?_
  have scanned : Scan.Scanned (Text.lines note) (Scan.ofText note).roots :=
    Scan.ofLines_scanned (Text.lines note)
  exact ⟨unmarked_mem_iff returned isDream, Dream.entry_keepsUpToTag scanned isDream isEntry⟩

/-- A dream without metrics that names another kind of callout, which is no boundary. -/
def extraNote : Text := Text.joinLines <|
  ["> [!journal-entry] ^20250101", ">> [!dream-diary] Sea", ">> waves",
    ">> the [!dream-metrics-extra] tag", ">> shore"].map Text.of

set_option maxRecDepth 4000 in
theorem unmarked_kept_extra :
    ∃ x, Note.extract Settings.standard ⟨2030, 1, 1, by decide⟩ (Text.of "a.md") extraNote =
        .ok x ∧
      ∃ d ∈ dreamsOf Settings.standard (Scan.ofText extraNote).roots, ∃ e ∈ x.entries,
        d.unmarked Settings.standard (Text.of "a.md") ∈ x.diagnostics ∧
        e.content = Text.of "waves the [!dream-metrics-extra] tag shore" ∧
        e.content = cleanWhole .joined (joinLines d.diary.body) := by
  have front : Note.frontMatterOf (Text.of "a.md") extraNote = .ok ([], []) := by rfl
  obtain ⟨x, returned, contents⟩ : ∃ x, Note.extract Settings.standard ⟨2030, 1, 1, by decide⟩
      (Text.of "a.md") extraNote = .ok x ∧
        x.entries.map Entry.content = [Text.of "waves the [!dream-metrics-extra] tag shore"] :=
    ⟨_, extract_eq_of_frontMatter front, by decide +kernel⟩
  have bare : ∀ d ∈ dreamsOf Settings.standard (Scan.ofText extraNote).roots,
      d.metrics.isNone = true ∧
        ∀ line ∈ d.diary.body, ¬Tagged Settings.standard.metricsCallout line := by
    decide +kernel
  obtain ⟨e, entries, content⟩ := List.map_eq_singleton_iff.mp contents
  have member : e ∈ x.entries := entries ▸ List.mem_singleton_self e
  obtain ⟨kept, sub, related⟩ := unmarked_kept_iff _ _ _ _ x returned
  obtain ⟨d, listed, _, reported, keeps⟩ := exists_left_of_forall₂ related member
  have isDream := sub.subset listed
  have ⟨missing, untagged⟩ := bare d isDream
  exact ⟨x, returned, d, isDream, e, member, reported.mpr (Option.isNone_iff_eq_none.mp missing),
    content, keeps.whole untagged⟩

/-- A dream without metrics that speaks of their tag. -/
def tagNote : Text := Text.joinLines <|
  ["> [!journal-entry] ^20250101", ">> [!dream-diary] Sea", ">> waves",
    ">> the [!dream-metrics] tag", ">> shore"].map Text.of

set_option maxRecDepth 4000 in
/-- The whole body is reported to be kept, and all from the line with the tag on is gone. -/
theorem unmarked_cut_at_tag :
    ∃ x, Note.extract Settings.standard ⟨2030, 1, 1, by decide⟩ (Text.of "a.md") tagNote =
        .ok x ∧
      x.diagnostics = [⟨Text.of "a.md#20250101", .contentBoundaryMissing,
        Text.of "No [!dream-metrics] callout; whole body kept as content", some 2⟩] ∧
      x.entries.map Entry.content = [Text.of "waves"] ∧
      ((dreamsOf Settings.standard (Scan.ofText tagNote).roots).map fun d =>
          cleanWhole .joined (joinLines d.diary.body)) =
        [Text.of "waves the [!dream-metrics] tag shore"] ∧
      ((dreamsOf Settings.standard (Scan.ofText tagNote).roots).map fun d =>
          (truncate Settings.standard.metricsCallout (joinLines d.diary.body)).2) = [true] := by
  have front : Note.frontMatterOf (Text.of "a.md") tagNote = .ok ([], []) := by rfl
  refine ⟨_, extract_eq_of_frontMatter front, ?_, ?_, ?_, ?_⟩
  all_goals decide +kernel

end DreamJournal
