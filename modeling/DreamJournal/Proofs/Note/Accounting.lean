import DreamJournal.Proofs.Callout.Nesting
import DreamJournal.Proofs.Note.Kinds
import Mathlib.Data.List.Dedup
import Mathlib.Data.List.Forall2

/-!
# Every callout of a note is accounted for

A diary callout is a dream or a stray one; a dream becomes an entry or is reported as failed; a
stray diary and a metrics callout that no dream took are reported as orphans. `extract_accounted`
adds this up for a whole note: nothing is dropped, and nothing is reported twice.

Dreams are counted along the visits, metrics callouts along the walk, so that the sum needs that
both list each callout once, and that a callout is known by the line on which it begins.
-/
namespace DreamJournal

open Callout Diagnostic

variable {settings : Settings} {lines : List Text} {roots : List Callout} {d : Dream} {v : Visit}

/-- The dreams of a forest, in the order of the note. -/
def dreamsOf (settings : Settings) (roots : List Callout) : List Dream :=
  (sightings settings roots).filterMap Sighting.dream?

def Sighting.isStray : Sighting → Bool
  | stray _ => true
  | _ => false

/-- The first lines of the metrics callouts that the dreams of a forest take, each once. -/
def attachedStarts (settings : Settings) (roots : List Callout) : List Nat :=
  (((dreamsOf settings roots).filterMap Dream.metrics).map Callout.start).dedup

/-! ## Sightings -/

/-- A visited callout is a journal, a stray diary, a dream, or nothing to the dreams of a note. -/
theorem ofVisit?_cases (settings : Settings) (v : Visit) :
    (v.callout.kind = settings.journalCallout ∧
      Sighting.ofVisit? settings v = some .journal) ∨
    (v.callout.kind ≠ settings.journalCallout ∧ v.callout.kind = settings.diaryCallout ∧
      v.nearest? settings.journalCallout = none ∧
      Sighting.ofVisit? settings v = some (.stray v.callout)) ∨
    (v.callout.kind ≠ settings.journalCallout ∧ v.callout.kind = settings.diaryCallout ∧
      ∃ outer, v.nearest? settings.journalCallout = some outer ∧
        Sighting.ofVisit? settings v =
          some (.dream ⟨v.callout, outer, v.metrics? settings.metricsCallout⟩)) ∨
    (v.callout.kind ≠ settings.journalCallout ∧ v.callout.kind ≠ settings.diaryCallout ∧
      Sighting.ofVisit? settings v = none) := by
  unfold Sighting.ofVisit?
  by_cases journal : v.callout.kind = settings.journalCallout
  · exact .inl ⟨journal, if_pos journal⟩
  · rw [if_neg journal]
    by_cases diary : v.callout.kind = settings.diaryCallout
    · rw [if_pos diary]
      cases nearest : v.nearest? settings.journalCallout with
      | none => exact .inr (.inl ⟨journal, diary, rfl, rfl⟩)
      | some outer => exact .inr (.inr (.inl ⟨journal, diary, outer, rfl, rfl⟩))
    · rw [if_neg diary]
      exact .inr (.inr (.inr ⟨journal, diary, rfl⟩))

/-- What makes a visited callout a dream. -/
theorem ofVisit?_dream_iff : Sighting.ofVisit? settings v = some (.dream d) ↔
    v.callout.kind ≠ settings.journalCallout ∧ v.callout.kind = settings.diaryCallout ∧
      ∃ outer, v.nearest? settings.journalCallout = some outer ∧
        d = ⟨v.callout, outer, v.metrics? settings.metricsCallout⟩ := by
  rcases ofVisit?_cases settings v with ⟨journal, seen⟩ | ⟨other, diary, nearest, seen⟩ |
    ⟨other, diary, outer, nearest, seen⟩ | ⟨_, noDiary, seen⟩
  · simp [seen, journal]
  · simp [seen, nearest]
  · rw [seen, nearest, Option.some.injEq, Sighting.dream.injEq]
    constructor
    · exact fun same => ⟨other, diary, outer, rfl, same.symm⟩
    · rintro ⟨_, _, _, found, same⟩
      rw [same, Option.some.inj found]
  · simp [seen, noDiary]

theorem mem_dreamsOf : d ∈ dreamsOf settings roots ↔
    ∃ v ∈ visits roots, Sighting.ofVisit? settings v = some (.dream d) := by
  simp only [dreamsOf, sightings, List.mem_filterMap]
  constructor
  · rintro ⟨seen, ⟨v, visited, sighted⟩, isDream⟩
    cases seen <;> simp only [Sighting.dream?, reduceCtorEq, Option.some.injEq] at isDream
    subst isDream
    exact ⟨v, visited, sighted⟩
  · rintro ⟨v, visited, sighted⟩
    exact ⟨_, ⟨v, visited, sighted⟩, rfl⟩

/-- A dream is due to a visited diary, the nearest journal around it, and the metrics it takes. -/
theorem exists_diary_visit (isDream : d ∈ dreamsOf settings roots) :
    ∃ v ∈ visits roots, v.callout = d.diary ∧ d.diary.kind = settings.diaryCallout ∧
      v.nearest? settings.journalCallout = some d.journal ∧
      v.metrics? settings.metricsCallout = d.metrics := by
  obtain ⟨v, visited, sighted⟩ := mem_dreamsOf.mp isDream
  obtain ⟨_, diary, outer, nearest, rfl⟩ := ofVisit?_dream_iff.mp sighted
  exact ⟨v, visited, rfl, diary, nearest, rfl⟩

theorem journal_of_dream (isDream : d ∈ dreamsOf settings roots) :
    d.journal ∈ walkAll roots ∧ d.journal.kind = settings.journalCallout := by
  obtain ⟨v, visited, _, _, nearest, _⟩ := exists_diary_visit isDream
  have around := List.mem_reverse.mp (List.mem_of_find?_eq_some nearest)
  have isJournal := List.find?_some nearest
  exact ⟨((visits_path visited).around_mem around).1, of_decide_eq_true isJournal⟩

/-- Every journal callout is seen as a journal. -/
theorem countP_isJournal (vs : List Visit) :
    (vs.filterMap (Sighting.ofVisit? settings)).countP Sighting.isJournal =
      vs.countP fun v => v.callout.kind = settings.journalCallout := by
  induction vs with
  | nil => rfl
  | cons v rest ih =>
    rw [List.countP_cons, List.filterMap_cons, ← ih]
    rcases ofVisit?_cases settings v with ⟨journal, seen⟩ | ⟨other, _, _, seen⟩ |
      ⟨other, _, _, _, seen⟩ | ⟨other, _, seen⟩
    · simp [seen, journal, List.countP_cons, Sighting.isJournal]
    all_goals simp [seen, other, Sighting.isJournal]

/-- Every diary callout is seen as a stray one or as a dream. -/
theorem countP_isStray (differ : settings.journalCallout ≠ settings.diaryCallout)
    (vs : List Visit) :
    (vs.filterMap (Sighting.ofVisit? settings)).countP Sighting.isStray +
        ((vs.filterMap (Sighting.ofVisit? settings)).filterMap Sighting.dream?).length =
      vs.countP fun v => v.callout.kind = settings.diaryCallout := by
  induction vs with
  | nil => rfl
  | cons v rest ih =>
    rw [List.countP_cons, List.filterMap_cons, ← ih]
    rcases ofVisit?_cases settings v with ⟨journal, seen⟩ | ⟨_, diary, _, seen⟩ |
      ⟨_, diary, _, _, seen⟩ | ⟨_, noDiary, seen⟩
    · -- a journal is no diary, as the two kinds differ
      simp [seen, journal, differ, List.filterMap_cons, Sighting.isStray, Sighting.dream?]
    · simp [seen, diary, List.countP_cons, List.filterMap_cons, Sighting.isStray, Sighting.dream?]
      omega
    · simp [seen, diary, Sighting.isStray, Sighting.dream?]
      omega
    · simp [seen, noDiary]

/-! ## Dreams -/

/-- The dreams begin in the order of the note. -/
theorem dreamsOf_starts (settings : Settings) (roots : List Callout) :
    ((dreamsOf settings roots).map fun d => d.diary.start).Sublist
      ((visits roots).map fun v => v.callout.start) := by
  rw [dreamsOf, sightings]
  generalize visits roots = vs
  induction vs with
  | nil => simp
  | cons v rest ih =>
    rw [List.filterMap_cons, List.map_cons]
    rcases ofVisit?_cases settings v with ⟨_, seen⟩ | ⟨_, _, _, seen⟩ | ⟨_, _, _, _, seen⟩ |
      ⟨_, _, seen⟩
    · simpa [seen, List.filterMap_cons, Sighting.dream?] using ih.cons _
    · simpa [seen, List.filterMap_cons, Sighting.dream?] using ih.cons _
    · simpa [seen, Sighting.dream?] using ih
    · simpa [seen] using ih.cons _

theorem nearest?_isSome_iff (v : Visit) (kind : Text) :
    (∃ outer, v.nearest? kind = some outer) ↔ ∃ outer ∈ v.around, outer.kind = kind := by
  rw [← Option.isSome_iff_exists, Visit.nearest?, List.find?_isSome]
  simp

/-- A diary callout is the diary of a dream exactly when it lies in a journal, however deep. -/
theorem diary_mem_iff (scanned : Scan.Scanned lines roots)
    (differ : settings.journalCallout ≠ settings.diaryCallout) {c : Callout}
    (member : c ∈ walkAll roots) :
    c ∈ (dreamsOf settings roots).map Dream.diary ↔
      c.kind = settings.diaryCallout ∧
        ∃ outer ∈ walkAll roots, outer.kind = settings.journalCallout ∧
          c ∈ walkAll outer.children := by
  rw [List.mem_map]
  constructor
  · rintro ⟨d, isDream, rfl⟩
    obtain ⟨v, visited, same, diary, nearest, _⟩ := exists_diary_visit isDream
    obtain ⟨around, isAround, journal⟩ := (nearest?_isSome_iff v _).mp ⟨_, nearest⟩
    obtain ⟨inForest, nested⟩ := (scanned.mem_around_iff visited).mp isAround
    exact ⟨diary, around, inForest, journal, same ▸ nested⟩
  · rintro ⟨diary, outer, inForest, journal, nested⟩
    -- some journal around the diary is enough: the nearest one is then found
    obtain ⟨v, visited, rfl⟩ := exists_visit member
    have isAround := (scanned.mem_around_iff visited).mpr ⟨inForest, nested⟩
    obtain ⟨nearest, found⟩ := (nearest?_isSome_iff v _).mpr ⟨outer, isAround, journal⟩
    have other : v.callout.kind ≠ settings.journalCallout :=
      fun same => differ (same.symm.trans diary)
    refine ⟨⟨v.callout, nearest, v.metrics? settings.metricsCallout⟩, ?_, rfl⟩
    exact mem_dreamsOf.mpr
      ⟨v, visited, ofVisit?_dream_iff.mpr ⟨other, diary, nearest, found, rfl⟩⟩

/-! ## Metrics callouts -/

theorem mem_of_following? {start : Nat} {siblings : List Callout} {next : Callout}
    (found : following? start siblings = some next) : next ∈ siblings := by
  induction siblings with
  | nil => simp [following?] at found
  | cons c rest ih =>
    rw [following?] at found
    split at found
    · exact List.mem_cons_of_mem _ (List.mem_of_head? found)
    · exact List.mem_cons_of_mem _ (ih found)

/-- What a visited diary takes is a metrics callout of the forest. -/
theorem metrics?_mem {kind : Text} {m : Callout} (visited : v ∈ visits roots)
    (taken : v.metrics? kind = some m) : m ∈ walkAll roots ∧ m.kind = kind := by
  unfold Visit.metrics? at taken
  split at taken
  next nested found =>
    obtain rfl := Option.some.inj taken
    refine ⟨mem_walkAll_trans (mem_walkAll_of_visit visited) (List.mem_of_find?_eq_some found), ?_⟩
    simpa using List.find?_some found
  next =>
    split at taken
    next parent isParent =>
      obtain ⟨found, isKind⟩ := Option.filter_eq_some_iff.mp taken
      have around : parent ∈ v.around := List.mem_of_getLast? isParent
      have inForest := ((visits_path visited).around_mem around).1
      exact ⟨mem_walkAll_of_child inForest (mem_of_following? found), by simpa using isKind⟩
    next => simp at taken

theorem mem_attachedStarts {start : Nat} : start ∈ attachedStarts settings roots ↔
    ∃ d ∈ dreamsOf settings roots, ∃ m, d.metrics = some m ∧ m.start = start := by
  simp only [attachedStarts, List.mem_dedup, List.mem_map, List.mem_filterMap]
  constructor
  · rintro ⟨m, ⟨d, isDream, taken⟩, rfl⟩
    exact ⟨d, isDream, m, taken, rfl⟩
  · rintro ⟨d, isDream, m, taken, rfl⟩
    exact ⟨m, ⟨d, isDream, taken⟩, rfl⟩

/-- A metrics callout of the forest begins on every line that counts as taken. -/
theorem attached_subset : attachedStarts settings roots ⊆
    ((walkAll roots).filter fun c => c.kind = settings.metricsCallout).map Callout.start := by
  intro start attached
  obtain ⟨d, isDream, m, taken, rfl⟩ := mem_attachedStarts.mp attached
  obtain ⟨v, visited, _, _, _, found⟩ := exists_diary_visit isDream
  obtain ⟨inForest, kind⟩ := metrics?_mem visited (found.trans taken)
  exact List.mem_map_of_mem (List.mem_filter.mpr ⟨inForest, by simpa using kind⟩)

/-- A metrics callout is loose or taken. -/
theorem looseMetrics_length (settings : Settings) (scanned : Scan.Scanned lines roots) :
    (Note.looseMetrics settings.metricsCallout (dreamsOf settings roots) roots).length +
        (attachedStarts settings roots).length =
      (walkAll roots).countP fun c => c.kind = settings.metricsCallout := by
  rw [List.countP_eq_length_filter]
  generalize nodes : ((walkAll roots).filter fun c => c.kind = settings.metricsCallout) = known
  -- callouts are told apart by their first lines, so counting lines counts callouts
  have distinct : (known.map Callout.start).Nodup := by
    have sub : (known.map Callout.start).Sublist ((walkAll roots).map Callout.start) :=
      (nodes ▸ List.filter_sublist).map _
    exact sub.nodup (scanned.ascending.imp Nat.ne_of_lt)
  have taken : (attachedStarts settings roots).Perm
      ((known.map Callout.start).filter (attachedStarts settings roots).contains) := by
    refine (List.perm_ext_iff_of_nodup (List.nodup_dedup _) (distinct.filter _)).mpr ?_
    intro start
    rw [List.mem_filter, List.contains_iff_mem]
    exact ⟨fun attached => ⟨nodes ▸ attached_subset attached, attached⟩, And.right⟩
  have loose : Note.looseMetrics settings.metricsCallout (dreamsOf settings roots) roots =
      known.filter fun c => !(attachedStarts settings roots).contains c.start := by
    rw [Note.looseMetrics, visits_callouts, ← nodes, List.filter_filter]
    refine List.filter_congr (fun c _ => ?_)
    rw [attachedStarts, Bool.and_comm]
    congr 2
    rw [Bool.eq_iff_iff, List.contains_iff_mem, List.contains_iff_mem, List.mem_dedup]
  rw [loose, taken.length_eq, List.filter_map, List.length_map,
    List.length_eq_length_filter_add (l := known)
      (fun c => (attachedStarts settings roots).contains c.start), Nat.add_comm]
  rfl

/-! ## Diagnostics -/

theorem assemble_orphans (context : Note.Context) (d : Dream) :
    count .orphanCallout (context.assemble d).diagnostics = 0 := by
  rw [Note.Context.assemble, Dream.assemble, count_append,
    (d.metricsDiagnostics_among _ _).count_eq_zero (by decide)]
  cases d.entry context.settings context.source (context.dateOf d.journal).1 <;> rfl

/-- A dream becomes an entry or is reported as failed, once. -/
theorem assemble_failed (context : Note.Context) (d : Dream) :
    count .entryFailed (context.assemble d).diagnostics +
      (context.assemble d).entry.toOption.toList.length = 1 := by
  rw [Note.Context.assemble, Dream.assemble, count_append,
    (d.metricsDiagnostics_among _ _).count_eq_zero (by decide)]
  cases d.entry context.settings context.source (context.dateOf d.journal).1 <;> rfl

/-- The complaints about the date of a journal, made with its first dream. -/
theorem complaints_eq_nil (context : Note.Context) (journal : Callout) (dated : Bool)
    {kind : DiagnosticKind} (other : kind ∉ [.dateInvalid, .dateUnresolved]) :
    ofKind kind (if dated then [] else (context.dateOf journal).2) = [] := by
  cases dated
  · exact (Dating.resolve_among _ _ _ _).ofKind_eq_nil other
  · rfl

theorem report_orphans (context : Note.Context) (dated : List Nat) (seen : List Sighting) :
    count .orphanCallout (context.report dated seen) = seen.countP Sighting.isStray := by
  induction seen generalizing dated with
  | nil => rfl
  | cons sighting rest ih =>
    cases sighting with
    | journal => simp [Note.Context.report, ih, Sighting.isStray]
    | stray diary =>
      simp [Note.Context.report, Note.Context.strayDiary, count_cons, ih, List.countP_cons,
        Sighting.isStray, Nat.add_comm]
    | dream d =>
      have complaints := complaints_eq_nil context d.journal (dated.contains d.journal.start)
        (show .orphanCallout ∉ _ by decide)
      rw [Note.Context.report, count_append, count_append, assemble_orphans, ih, count, complaints]
      simp [Sighting.isStray]

/-- What is neither a stray callout nor a date is reported with the assembly of a dream. -/
theorem Note.Context.ofKind_report (context : Note.Context) (dated : List Nat)
    (seen : List Sighting) {kind : DiagnosticKind}
    (own : kind ∉ [.orphanCallout, .dateInvalid, .dateUnresolved]) :
    ofKind kind (context.report dated seen) =
      (seen.filterMap Sighting.dream?).flatMap fun d =>
        ofKind kind (context.assemble d).diagnostics := by
  obtain ⟨noOrphan, noDate⟩ := List.ne_and_not_mem_of_not_mem_cons own
  induction seen generalizing dated with
  | nil => rfl
  | cons sighting rest ih =>
    cases sighting with
    | journal => exact ih dated
    | stray diary =>
      have other : (context.strayDiary diary).kind ≠ kind := Ne.symm noOrphan
      rw [report, ofKind, List.filter_cons_of_neg (by simpa using other)]
      exact ih dated
    | dream d =>
      rw [report, ofKind_append, ofKind_append, complaints_eq_nil _ _ _ noDate, ih]
      rfl

theorem failures_length (context : Note.Context) (dreams : List Dream) :
    (dreams.flatMap fun d => ofKind .entryFailed (context.assemble d).diagnostics).length +
        (dreams.filterMap fun d => (context.assemble d).entry.toOption).length =
      dreams.length := by
  induction dreams with
  | nil => rfl
  | cons d rest ih =>
    -- a dream adds one to either side: an entry, or a report of its failure
    have one := assemble_failed context d
    rw [List.flatMap_cons, List.length_append, List.filterMap_cons, List.length_cons]
    cases kept : (context.assemble d).entry.toOption with
    | none =>
      simp only [count, kept, Option.toList_none, List.length_nil] at one
      simp only
      omega
    | some e =>
      simp only [count, kept, Option.toList_some, List.length_singleton] at one
      simp only [List.length_cons]
      omega

/-! ## A whole note -/

/-- What is kept of a list comes from members of it in their order. -/
theorem exists_kept {α β ε : Type} (f : α → Except ε β) (members : List α) :
    ∃ kept, kept.Sublist members ∧
      List.Forall₂ (fun a b => f a = .ok b) kept (members.filterMap fun a => (f a).toOption) := by
  induction members with
  | nil => exact ⟨[], .slnil, .nil⟩
  | cons a rest ih =>
    obtain ⟨kept, sub, related⟩ := ih
    cases result : f a with
    | error fault => exact ⟨kept, sub.cons a, by simpa [result, Except.toOption] using related⟩
    | ok b =>
      refine ⟨a :: kept, sub.cons_cons a, ?_⟩
      simpa [result, Except.toOption, List.filterMap_cons] using related

theorem exists_left_of_forall₂ {α β : Type} {related : α → β → Prop} {as : List α} {bs : List β}
    {b : β} (pairwise : List.Forall₂ related as bs) (member : b ∈ bs) :
    ∃ a ∈ as, related a b := by
  induction pairwise with
  | nil => cases member
  | cons first _ ih =>
    rcases List.mem_cons.mp member with rfl | later
    · exact ⟨_, List.mem_cons_self, first⟩
    · obtain ⟨a, listed, here⟩ := ih later
      exact ⟨a, List.mem_cons_of_mem _ listed, here⟩

/-- What was extracted accounts for every callout of a forest once. -/
structure Accounted (settings : Settings) (source : Text) (roots : List Callout)
    (x : NoteExtraction) : Prop where
  journals : x.journals = (walkAll roots).countP fun c => c.kind = settings.journalCallout
  diaries : x.diaries = (dreamsOf settings roots).length
  diary_iff : ∀ c ∈ walkAll roots, c ∈ (dreamsOf settings roots).map Dream.diary ↔
    c.kind = settings.diaryCallout ∧
      ∃ outer ∈ walkAll roots, outer.kind = settings.journalCallout ∧ c ∈ walkAll outer.children
  diary_order : ((dreamsOf settings roots).map fun d => d.diary.start).Pairwise (· < ·)
  entries_or_failures : x.diaries = x.entries.length + count .entryFailed x.diagnostics
  entry_order : ∃ kept, kept.Sublist (dreamsOf settings roots) ∧
    List.Forall₂ (fun d e => ∃ date, d.entry settings source date = .ok e) kept x.entries
  diaries_le : x.diaries ≤ (walkAll roots).countP fun c => c.kind = settings.diaryCallout
  attached_le : (attachedStarts settings roots).length ≤
    (walkAll roots).countP fun c => c.kind = settings.metricsCallout
  orphans : count .orphanCallout x.diagnostics =
    ((walkAll roots).countP (fun c => c.kind = settings.diaryCallout) - x.diaries) +
      ((walkAll roots).countP (fun c => c.kind = settings.metricsCallout) -
        (attachedStarts settings roots).length)

theorem strayMetrics_among (context : Note.Context) (loose : List Callout) :
    Among [.orphanCallout] (loose.map context.strayMetrics) := by
  intro d member
  obtain ⟨m, _, rfl⟩ := List.mem_map.mp member
  exact List.mem_singleton_self _

theorem extract_orphans (context : Note.Context) {earlier : List Diagnostic}
    (before : Among [.frontMatterInvalid, .structuralWarning] earlier) :
    count .orphanCallout (context.extract roots earlier).diagnostics =
      (sightings context.settings roots).countP Sighting.isStray +
        (Note.looseMetrics context.settings.metricsCallout (dreamsOf context.settings roots)
          roots).length := by
  rw [Note.Context.extract, count_append, count_append, before.count_eq_zero (by decide),
    report_orphans, (strayMetrics_among context _).count_eq_length, List.length_map, Nat.zero_add]
  rfl

/-- What is of no kind that is reported in front of the dreams, behind them, or of their journals is
reported with their assembly. -/
theorem Note.Context.ofKind_extract (context : Note.Context) (roots : List Callout)
    {earlier : List Diagnostic} {kind : DiagnosticKind}
    (before : Among [.frontMatterInvalid, .structuralWarning] earlier)
    (own : kind ∉
      [.frontMatterInvalid, .structuralWarning, .orphanCallout, .dateInvalid, .dateUnresolved]) :
    ofKind kind (context.extract roots earlier).diagnostics =
      (dreamsOf context.settings roots).flatMap fun d =>
        ofKind kind (context.assemble d).diagnostics := by
  have apart {kinds : List DiagnosticKind} (listed : kinds ⊆
      [.frontMatterInvalid, .structuralWarning, .orphanCallout, .dateInvalid, .dateUnresolved]) :
      kind ∉ kinds :=
    fun member => own (listed member)
  rw [extract, ofKind_append, ofKind_append, before.ofKind_eq_nil (apart (by simp)),
    (strayMetrics_among context _).ofKind_eq_nil (apart (by simp)), List.nil_append,
    List.append_nil]
  exact context.ofKind_report [] _ (apart (by simp))

theorem extract_failures (context : Note.Context) {earlier : List Diagnostic}
    (before : Among [.frontMatterInvalid, .structuralWarning] earlier) :
    count .entryFailed (context.extract roots earlier).diagnostics +
        (context.extract roots earlier).entries.length =
      (dreamsOf context.settings roots).length := by
  rw [count, context.ofKind_extract roots before (by decide)]
  exact failures_length context (dreamsOf context.settings roots)

theorem Dream.entry_date {source : Text} {date : ResolvedDate} {e : Entry}
    (isEntry : d.entry settings source date = .ok e) : e.date = date := by
  unfold Dream.entry at isEntry
  split at isEntry
  · cases isEntry
  · split at isEntry
    · cases isEntry
    · obtain rfl := Except.ok.inj isEntry
      rfl

/-- The entries of a forest are those of some of its dreams, in their order, with the dates of their
journals. -/
theorem Note.Context.exists_kept_dated (context : Note.Context) (roots : List Callout)
    (earlier : List Diagnostic) :
    ∃ kept, kept.Sublist (dreamsOf context.settings roots) ∧
      List.Forall₂ (fun d e => d.entry context.settings context.source
        (context.dateOf d.journal).1 = .ok e) kept (context.extract roots earlier).entries :=
  exists_kept (fun d => (context.assemble d).entry) (dreamsOf context.settings roots)

theorem Note.Context.exists_kept_entries (context : Note.Context) (roots : List Callout)
    (earlier : List Diagnostic) :
    ∃ kept, kept.Sublist (dreamsOf context.settings roots) ∧
      List.Forall₂ (fun d e => ∃ date, d.entry context.settings context.source date = .ok e) kept
        (context.extract roots earlier).entries := by
  obtain ⟨kept, sub, related⟩ := context.exists_kept_dated roots earlier
  exact ⟨kept, sub, related.imp fun d e entry => ⟨(context.dateOf d.journal).1, entry⟩⟩

/-- The callouts of a scanned forest are accounted for, when nothing reported before them concerns
entries or orphans. -/
theorem context_accounted (context : Note.Context) (scanned : Scan.Scanned lines roots)
    (differ : context.settings.journalCallout ≠ context.settings.diaryCallout)
    {earlier : List Diagnostic}
    (before : Among [.frontMatterInvalid, .structuralWarning] earlier) :
    Accounted context.settings context.source roots (context.extract roots earlier) := by
  have ascending : ((visits roots).map fun v => v.callout.start).Pairwise (· < ·) := by
    have order := scanned.ascending
    rwa [← visits_callouts, List.map_map] at order
  have walked (kind : Text) : (visits roots).countP (fun v => v.callout.kind = kind) =
      (walkAll roots).countP fun c => c.kind = kind := by
    rw [← visits_callouts, List.countP_map]
    rfl
  have diaries : (sightings context.settings roots).countP Sighting.isStray +
      (dreamsOf context.settings roots).length =
        (walkAll roots).countP fun c => c.kind = context.settings.diaryCallout :=
    (countP_isStray differ (visits roots)).trans (walked _)
  have metrics := looseMetrics_length context.settings scanned
  have counted : (context.extract roots earlier).diaries =
      (dreamsOf context.settings roots).length := rfl
  constructor
  case journals => exact (countP_isJournal (visits roots)).trans (walked _)
  case diaries => exact counted
  case diary_iff => exact fun c member => diary_mem_iff scanned differ member
  case diary_order => exact ascending.sublist (dreamsOf_starts _ _)
  case entries_or_failures =>
    rw [counted, ← extract_failures context before, Nat.add_comm]
  case entry_order => exact context.exists_kept_entries roots earlier
  case diaries_le =>
    rw [counted]
    omega
  case attached_le => omega
  case orphans =>
    rw [counted, extract_orphans context before]
    omega

/-- What is in a note whose front matter can be used or left aside. -/
theorem extract_eq_of_frontMatter {today : Date} {source note : Text}
    {fields : OrderedMap Text Text} {complaints : List Diagnostic}
    (front : Note.frontMatterOf source note = .ok (fields, complaints)) :
    Note.extract settings today source note =
      .ok (Note.Context.extract ⟨settings, today, source, Text.lines note, fields⟩
        (Scan.ofText note).roots (complaints ++ (Scan.ofText note).diagnostics source)) := by
  rw [Note.extract, front]
  rfl

/-- Front matter and structure are complained of before any callout is looked at. -/
theorem exists_frontMatter_of_returned {today : Date} {source note : Text} {x : NoteExtraction}
    (returned : Note.extract settings today source note = .ok x) :
    ∃ fields complaints, Note.frontMatterOf source note = .ok (fields, complaints) ∧
      Among [.frontMatterInvalid, .structuralWarning]
        (complaints ++ (Scan.ofText note).diagnostics source) ∧
      x = Note.Context.extract ⟨settings, today, source, Text.lines note, fields⟩
        (Scan.ofText note).roots (complaints ++ (Scan.ofText note).diagnostics source) := by
  cases front : Note.frontMatterOf source note with
  | error fault => simp [Note.extract, front, bind, Except.bind] at returned
  | ok parts =>
    rw [extract_eq_of_frontMatter front, Except.ok.injEq] at returned
    refine ⟨parts.1, parts.2, rfl, Among.append ?_ ?_, returned.symm⟩
    · exact (Note.frontMatterOf_among front).mono (by simp)
    · exact (Scan.diagnostics_among _ source).mono (by simp)

theorem exists_context_with_earlier {today : Date} {source note : Text} {x : NoteExtraction}
    (returned : Note.extract settings today source note = .ok x) :
    ∃ fields earlier, Among [.frontMatterInvalid, .structuralWarning] earlier ∧
      x = Note.Context.extract ⟨settings, today, source, Text.lines note, fields⟩
        (Scan.ofText note).roots earlier := by
  obtain ⟨fields, complaints, _, before, same⟩ := exists_frontMatter_of_returned returned
  exact ⟨fields, _, before, same⟩

theorem exists_context_of_returned {today : Date} {source note : Text} {x : NoteExtraction}
    (returned : Note.extract settings today source note = .ok x) :
    ∃ fields complaints, x = Note.Context.extract ⟨settings, today, source, Text.lines note, fields⟩
      (Scan.ofText note).roots complaints := by
  obtain ⟨fields, earlier, _, same⟩ := exists_context_with_earlier returned
  exact ⟨fields, earlier, same⟩

/-- What is told of every dream that becomes an entry is told along the entries of a note. -/
theorem forall_entries {today : Date} {source note : Text} {x : NoteExtraction}
    {told : Dream → Entry → Prop} (returned : Note.extract settings today source note = .ok x)
    (each : ∀ d ∈ dreamsOf settings (Scan.ofText note).roots, ∀ e date,
      d.entry settings source date = .ok e → told d e) :
    ∃ kept, kept.Sublist (dreamsOf settings (Scan.ofText note).roots) ∧
      List.Forall₂ (fun d e => (∃ date, d.entry settings source date = .ok e) ∧ told d e) kept
        x.entries := by
  obtain ⟨fields, complaints, rfl⟩ := exists_context_of_returned returned
  obtain ⟨kept, sub, related⟩ := Note.Context.exists_kept_entries
    ⟨settings, today, source, Text.lines note, fields⟩ (Scan.ofText note).roots complaints
  have listed := (List.forall₂_and_left _ _).mpr ⟨fun d member => sub.subset member, related⟩
  refine ⟨kept, sub, listed.imp ?_⟩
  rintro d e ⟨isDream, date, isEntry⟩
  exact ⟨⟨date, isEntry⟩, each d isDream e date isEntry⟩

/-- Every callout of a note is accounted for once: a journal is counted, a diary becomes an entry,
is reported as failed or as an orphan, and a metrics callout is taken or reported as an orphan. -/
theorem extract_accounted (settings : Settings) (today : Date) (source note : Text)
    (x : NoteExtraction) (differ : settings.journalCallout ≠ settings.diaryCallout)
    (returned : Note.extract settings today source note = .ok x) :
    Accounted settings source (Scan.ofText note).roots x := by
  obtain ⟨fields, earlier, before, rfl⟩ := exists_context_with_earlier returned
  exact context_accounted ⟨settings, today, source, Text.lines note, fields⟩
    (Scan.ofLines_scanned (Text.lines note)) differ before

/-- A dream, a dream that holds nothing, a diary outside any journal, and metrics that belong to
no dream. -/
def mixedNote : Text := Text.joinLines <|
  ["> [!journal-entry]", ">> [!dream-diary] Sea", ">>> [!dream-metrics]", ">> [!dream-diary]", "",
    "plain", "> [!dream-diary] Hill", "> [!dream-metrics]"].map Text.of

set_option maxRecDepth 4000 in
theorem extract_accounted_mixed :
    ∃ x, Note.extract Settings.standard ⟨2030, 1, 1, by decide⟩ (Text.of "a.md") mixedNote = .ok x ∧
      x.diaries = 2 ∧
      Accounted Settings.standard (Text.of "a.md") (Scan.ofText mixedNote).roots x := by
  have front : Note.frontMatterOf (Text.of "a.md") mixedNote = .ok ([], []) := by rfl
  refine ⟨_, extract_eq_of_frontMatter front, ?_,
    extract_accounted _ _ _ _ _ (by decide) (extract_eq_of_frontMatter front)⟩
  decide +kernel

end DreamJournal
