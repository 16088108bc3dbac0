import DreamJournal.Proofs.Note.Attachment
import DreamJournal.Proofs.Note.Written

/-!
# Which dreams fail

A dream fails for two reasons: it holds nothing, or reading its metrics ends early. Neither depends
on the date, and nothing else that is wrong with a dream costs the entry. So the dreams of a note
are parted by what stands in them: those that fail are reported one by one, in their order, and the
others are the entries, in theirs.
-/
namespace DreamJournal

open Callout Diagnostic

variable {settings : Settings} {roots : List Callout}

/-! ## One dream -/

namespace Dream

variable {d : Dream} {source : Text} {date : ResolvedDate}

/-- There is a whole number with too many digits in the metrics of a dream, and it is reached. -/
def MetricsEnd (d : Dream) (settings : Settings) : Prop :=
  ∃ callout, d.metrics = some callout ∧
    Metric.EndEarly settings.metrics [] (Metric.segments (Metric.textOfCallout callout))

def fails (d : Dream) (settings : Settings) : Bool :=
  d.isVoid settings || (d.metricsRead settings).ended.isSome

theorem ended_iff (d : Dream) (settings : Settings) :
    (d.metricsRead settings).ended.isSome = true ↔ d.MetricsEnd settings := by
  rw [Option.isSome_iff_exists, metricsRead, MetricsEnd]
  cases d.metrics with
  | none => simp
  | some callout =>
    simpa [Metric.extract] using (Metric.reads_extractFrom settings.metrics []
      (Metric.segments (Metric.textOfCallout callout))).ended_iff

theorem fails_iff (d : Dream) (settings : Settings) : d.fails settings = true ↔
    (Text.isAllBlank d.diary.title = true ∧ d.content settings = []) ∨ d.MetricsEnd settings := by
  rw [fails, Bool.or_eq_true, ended_iff, isVoid, Bool.and_eq_true, List.isEmpty_iff, and_comm]

/-- What is said of a dream that failed. -/
def failure (d : Dream) (source : Text) (fault : EntryFault) : Diagnostic :=
  ⟨d.reference source, .entryFailed, fault.toFault.line, some d.diary.lineNumber⟩

theorem exists_fault (fails : d.fails settings = true) :
    ∃ fault, d.entry settings source date = .error fault := by
  unfold entry
  cases ended : (d.metricsRead settings).ended with
  | some fault => exact ⟨_, rfl⟩
  | none =>
    have isVoid : d.isVoid settings = true := by simpa [Dream.fails, ended] using fails
    exact ⟨_, if_pos isVoid⟩

theorem exists_entry (holds : d.fails settings = false) :
    ∃ e, d.entry settings source date = .ok e := by
  simp only [fails, Bool.or_eq_false_iff, Option.isSome_eq_false_iff, Option.isNone_iff_eq_none]
    at holds
  rw [entry, holds.2, holds.1]
  exact ⟨_, rfl⟩

end Dream

theorem Note.Context.ofKind_assemble (context : Note.Context) (d : Dream) :
    ofKind .entryFailed (context.assemble d).diagnostics =
      match (context.assemble d).entry with
      | .ok _ => []
      | .error fault => [d.failure context.source fault] := by
  rw [assemble, Dream.assemble, ofKind_append,
    (d.metricsDiagnostics_among _ _).ofKind_eq_nil (by simp)]
  cases d.entry context.settings context.source (context.dateOf d.journal).1 <;> rfl

/-! ## All dreams -/

/-- What comes of the members that pass a test, one of each, when nothing comes of the others. -/
theorem forall₂_filter {α β : Type} {related : α → β → Prop} {test : α → Bool} {gives : α → List β}
    (one : ∀ a, test a = true → ∃ b, gives a = [b] ∧ related a b)
    (none : ∀ a, test a = false → gives a = []) (members : List α) :
    List.Forall₂ related (members.filter test) (members.flatMap gives) := by
  induction members with
  | nil => exact .nil
  | cons a rest ih =>
    cases passes : test a with
    | false => simpa [passes, none a passes] using ih
    | true =>
      obtain ⟨b, given, here⟩ := one a passes
      simpa [passes, given] using List.Forall₂.cons here ih

/-- The dreams of a note are the diaries inside journals, each once. Those that hold nothing and
those whose metrics end early are reported as failed; each of the others is an entry. -/
structure Parted (settings : Settings) (source : Text) (roots : List Callout) (x : NoteExtraction) :
    Prop where
  diary_iff : ∀ c ∈ walkAll roots, c ∈ (dreamsOf settings roots).map Dream.diary ↔
    c.kind = settings.diaryCallout ∧
      ∃ outer ∈ walkAll roots, outer.kind = settings.journalCallout ∧ c ∈ walkAll outer.children
  diary_order : (dreamsOf settings roots).Pairwise fun d e => d.diary.start < e.diary.start
  fails_iff : ∀ d ∈ dreamsOf settings roots, d.fails settings = true ↔
    (Text.isAllBlank d.diary.title = true ∧ d.content settings = []) ∨ d.MetricsEnd settings
  failures : List.Forall₂
    (fun d told => ∃ date fault, d.entry settings source date = .error fault ∧
      told = d.failure source fault)
    ((dreamsOf settings roots).filter fun d => d.fails settings)
    (ofKind .entryFailed x.diagnostics)
  entries : List.Forall₂ (fun d e => ∃ date, d.entry settings source date = .ok e)
    ((dreamsOf settings roots).filter fun d => !d.fails settings) x.entries

theorem Note.Context.failures_parted (context : Note.Context) (roots : List Callout)
    {earlier : List Diagnostic}
    (before : Among [.frontMatterInvalid, .structuralWarning] earlier) :
    List.Forall₂
      (fun d told => ∃ date fault, d.entry context.settings context.source date = .error fault ∧
        told = d.failure context.source fault)
      ((dreamsOf context.settings roots).filter fun d => d.fails context.settings)
      (ofKind .entryFailed (context.extract roots earlier).diagnostics) := by
  rw [context.ofKind_extract roots before (by decide)]
  -- whether a dream fails does not depend on its date, so any date will do
  apply forall₂_filter
  · intro d fails
    obtain ⟨fault, failed⟩ : ∃ fault, (context.assemble d).entry = .error fault :=
      Dream.exists_fault fails
    refine ⟨d.failure context.source fault, ?_, _, fault, failed, rfl⟩
    rw [context.ofKind_assemble, failed]
  · intro d holds
    obtain ⟨e, isEntry⟩ : ∃ e, (context.assemble d).entry = .ok e := Dream.exists_entry holds
    rw [context.ofKind_assemble, isEntry]

theorem Note.Context.entries_parted (context : Note.Context) (roots : List Callout)
    (earlier : List Diagnostic) :
    List.Forall₂ (fun d e => ∃ date, d.entry context.settings context.source date = .ok e)
      ((dreamsOf context.settings roots).filter fun d => !d.fails context.settings)
      (context.extract roots earlier).entries := by
  rw [Note.Context.extract, List.filterMap_eq_flatMap_toList]
  apply forall₂_filter
  · intro d holds
    obtain ⟨e, isEntry⟩ : ∃ e, (context.assemble d).entry = .ok e :=
      Dream.exists_entry (by simpa using holds)
    refine ⟨e, ?_, _, isEntry⟩
    rw [isEntry]
    rfl
  · intro d fails
    obtain ⟨fault, failed⟩ : ∃ fault, (context.assemble d).entry = .error fault :=
      Dream.exists_fault (by simpa using fails)
    rw [failed]
    rfl

/-- A diary in a journal fails exactly when it has neither a title nor a narrative, or when there is
a whole number with too many digits in its metrics; every other one becomes an entry. -/
theorem extract_parted (settings : Settings) (today : Date) (source note : Text)
    (x : NoteExtraction) (differ : settings.journalCallout ≠ settings.diaryCallout)
    (returned : Note.extract settings today source note = .ok x) :
    Parted settings source (Scan.ofText note).roots x := by
  have scanned : Scan.Scanned (Text.lines note) (Scan.ofText note).roots :=
    Scan.ofLines_scanned (Text.lines note)
  obtain ⟨fields, earlier, before, rfl⟩ := exists_context_with_earlier returned
  let context : Note.Context := ⟨settings, today, source, Text.lines note, fields⟩
  constructor
  case diary_iff => exact fun c member => diary_mem_iff scanned differ member
  case diary_order => exact dreamsOf_ascending scanned
  case fails_iff => exact fun d _ => d.fails_iff settings
  case failures => exact context.failures_parted _ before
  case entries => exact context.entries_parted _ earlier

set_option maxRecDepth 4000 in
theorem extract_parted_mixed :
    ∃ x, Note.extract Settings.standard ⟨2030, 1, 1, by decide⟩ (Text.of "a.md") mixedNote = .ok x ∧
      x.diaries = 2 ∧ x.entries.map Entry.title = [Text.of "Sea"] ∧
      Parted Settings.standard (Text.of "a.md") (Scan.ofText mixedNote).roots x := by
  have front : Note.frontMatterOf (Text.of "a.md") mixedNote = .ok ([], []) := by rfl
  refine ⟨_, extract_eq_of_frontMatter front, ?_, ?_,
    extract_parted _ _ _ _ _ (by decide) (extract_eq_of_frontMatter front)⟩
  all_goals decide +kernel

/-! ## A number that is too long -/

section Overlong

open Outline (draw drawAll writeAll)

variable {n : Nat}

/-- A metric whose value is a whole number of `n` digits. -/
def onesLine (n : Nat) : Text := Text.of "Words: " ++ List.replicate n '1'

/-- A dream with a title and a narrative, and with that metric. -/
def onesNote (n : Nat) : Text := Text.joinLines <|
  (["> [!journal-entry] ^20250101", ">> [!dream-diary] Sea", ">> waves",
    ">>> [!dream-metrics]"].map Text.of) ++ [Text.of ">>> " ++ onesLine n]

def onesMetrics (n : Nat) : Outline := .callout .metrics [⟨onesLine n, 'W', rfl, by decide⟩] []

def onesDiary (n : Nat) : Outline :=
  .callout (.diary (.ofWords [Text.of "Sea"] rfl rfl))
    [(Phrase.ofWords [Text.of "waves"] rfl rfl).passage] [onesMetrics n]

def onesJournal (n : Nat) : Outline :=
  .callout (.journal ⟨2025, 1, 1, by decide⟩) [] [onesDiary n]

theorem mem_onesLine {c : Char} (member : c ∈ onesLine n) : c ∈ Text.of "Words: 1" := by
  rcases List.mem_append.mp member with front | one
  · exact List.mem_append_left ['1'] front
  · obtain ⟨_, rfl⟩ := List.mem_replicate.mp one
    decide

theorem isPlain_onesLine (given : n ≠ 0) : Metric.IsPlain (onesLine n) where
  starts := ⟨'W', rfl, rfl⟩
  ends := ⟨'1', by simp [onesLine, List.getLast?_append, List.getLast?_replicate, given], rfl⟩
  unbroken := fun c member => by
    have marks : Text.IsLine (Text.of "Words: 1") := .of_any rfl rfl
    exact marks.unbroken c (mem_onesLine member)
  caret := fun member => absurd (mem_onesLine member) (by decide)

theorem lines_onesNote (given : n ≠ 0) : Text.lines (onesNote n) = writeAll 1 [onesJournal n] := by
  rw [onesNote, Text.lines_joinLines]
  · rfl
  · intro line listed
    rcases List.mem_append.mp listed with header | metric
    · have checked : ∀ line ∈ ["> [!journal-entry] ^20250101", ">> [!dream-diary] Sea", ">> waves",
          ">>> [!dream-metrics]"].map Text.of, line.isEmpty = false ∧
            line.any Text.isLineBreak = false := by
        decide
      exact .of_any (checked line header).1 (checked line header).2
    · rw [List.mem_singleton.mp metric]
      exact Text.IsLine.append (.of_any rfl rfl) (isPlain_onesLine given).unbroken

theorem segments_onesLine (given : n ≠ 0) : Metric.segments (onesLine n) = [onesLine n] := by
  have comma : ',' ∉ onesLine n := fun member => absurd (mem_onesLine member) (by decide)
  have plain := isPlain_onesLine given
  rw [Metric.segments, plain.isLine.lines_eq, List.flatMap_singleton, Text.splitOn_of_not_mem comma]
  simp [plain.trim_eq, plain.isLine.nonempty]

/-- The dream of the note. -/
def onesDream (n : Nat) : Dream where
  diary := draw 2 1 (onesDiary n)
  journal := draw 1 0 (onesJournal n)
  metrics := some (draw 3 3 (onesMetrics n))

theorem dreamsOf_ones (n : Nat) :
    dreamsOf Settings.standard (drawAll 1 0 [onesJournal n]) = [onesDream n] := by
  rfl

/-- Reading the metrics ends at the number. -/
theorem metricsEnd_ones (long : digitLimit < n) : (onesDream n).MetricsEnd Settings.standard := by
  have given : n ≠ 0 := Nat.ne_zero_of_lt long
  have text : Metric.textOfCallout (draw 3 3 (onesMetrics n)) = onesLine n :=
    (isPlain_onesLine given).textOfLines_eq (by decide)
  have inked : ∀ c ∈ List.replicate n '1', Text.isBlank c = false := by
    rintro c one
    rw [(List.mem_replicate.mp one).2]
    rfl
  have isPair : Metric.ofSegment (onesLine n) = .ok (Text.of "Words", List.replicate n '1') :=
    Metric.ofSegment_pair (.ofWords [Text.of "Words"] rfl rfl) (by simp [given]) inked
  have isOverlong : Metric.IsOverlong (List.replicate n '1') := by
    refine ⟨[], by simp, _, Text.trim_eq_self inked, ?_, by simpa using long⟩
    rw [List.all_replicate, if_neg given]
    decide
  refine ⟨_, rfl, [], onesLine n, [], ?_, _, _, isPair, isOverlong, ?_, by simp [OrderedMap.keys],
    by simp⟩
  · rw [text, segments_onesLine given]
    rfl
  · intro d found
    have checked : (MetricDefinition.lookup? Settings.standard.metrics (Text.of "Words")).all
        (fun d => !d.isText) = true := by
      decide +kernel
    simpa [found] using checked

/-- The one dream of the note is lost, though it has a title. -/
theorem extract_ones (today : Date) (long : digitLimit < n) :
    ∃ x, Note.extract Settings.standard today (Text.of "a.md") (onesNote n) = .ok x ∧
      ((dreamsOf Settings.standard (Scan.ofText (onesNote n)).roots).map fun d =>
        d.diary.title) = [Text.of "Sea"] ∧
      x.entries = [] ∧ count .entryFailed x.diagnostics = 1 := by
  have scan : Scan.ofText (onesNote n) = ⟨drawAll 1 0 [onesJournal n], []⟩ := by
    rw [Scan.ofText, lines_onesNote (Nat.ne_zero_of_lt long), Scan.ofLines_writeAll]
  have front : Note.frontMatterOf (Text.of "a.md") (onesNote n) = .ok ([], []) := by rfl
  rw [extract_eq_of_frontMatter front, scan]
  let context : Note.Context :=
    ⟨Settings.standard, today, Text.of "a.md", Text.lines (onesNote n), []⟩
  have dreams : dreamsOf context.settings (drawAll 1 0 [onesJournal n]) = [onesDream n] :=
    dreamsOf_ones n
  have fails : (onesDream n).fails context.settings = true :=
    ((onesDream n).fails_iff _).mpr (.inr (metricsEnd_ones long))
  -- nothing is left of the dreams that do not fail, and one dream of those that do
  have entries := context.entries_parted (drawAll 1 0 [onesJournal n]) []
  rw [dreams, List.filter_cons, if_neg (by simpa using fails)] at entries
  have unreported : Among [.frontMatterInvalid, .structuralWarning] [] := by simp [Among]
  have failures := context.failures_parted (drawAll 1 0 [onesJournal n]) unreported
  rw [dreams, List.filter_cons, if_pos fails] at failures
  refine ⟨_, rfl, ?_, ?_, ?_⟩
  · rw [dreamsOf_ones]
    rfl
  · exact List.forall₂_nil_left_iff.mp entries
  · exact failures.length_eq.symm

/-- One digit more than can be read is enough. -/
theorem extract_parted_overlong :
    ∃ x, Note.extract Settings.standard ⟨2030, 1, 1, by decide⟩ (Text.of "a.md")
        (onesNote 4301) = .ok x ∧
      ((dreamsOf Settings.standard (Scan.ofText (onesNote 4301)).roots).map fun d =>
        d.diary.title) = [Text.of "Sea"] ∧
      x.entries = [] ∧ count .entryFailed x.diagnostics = 1 :=
  extract_ones _ (by decide)

end Overlong

end DreamJournal
