import DreamJournal.Proofs.Note.Attachment

/-!
# What the counts of a note say

A note counts its journals, the diaries inside them, and the diaries of these that have a metrics
callout. Whether such a count is zero can be told from the callouts alone: there is no journal, no
diary in a journal, or none with a metrics callout nested in it or directly behind it.
-/
namespace DreamJournal

open Callout

variable {settings : Settings} {lines : List Text} {roots : List Callout} {c m : Callout}
  {v : Visit} {kind : Text}

/-- Some callout is a journal. -/
def HasJournal (settings : Settings) (roots : List Callout) : Prop :=
  ∃ c ∈ walkAll roots, c.kind = settings.journalCallout

/-- A callout is a diary that lies in a journal, however deep. -/
def IsInnerDiary (settings : Settings) (roots : List Callout) (c : Callout) : Prop :=
  c ∈ walkAll roots ∧ c.kind = settings.diaryCallout ∧
    ∃ outer ∈ walkAll roots, outer.kind = settings.journalCallout ∧ c ∈ walkAll outer.children

/-- A callout of a kind is nested in a callout, or directly behind it in the same parent. -/
def IsAttended (kind : Text) (roots : List Callout) (c : Callout) : Prop :=
  (∃ m ∈ walkAll c.children, m.kind = kind) ∨
    ∃ parent ∈ walkAll roots, ∃ front m back,
      parent.children = front ++ c :: m :: back ∧ m.kind = kind

/-- Some diary lies in a journal. -/
def HasInnerDiary (settings : Settings) (roots : List Callout) : Prop :=
  ∃ c, IsInnerDiary settings roots c

/-- Some diary that lies in a journal has a metrics callout. -/
def HasAttendedDiary (settings : Settings) (roots : List Callout) : Prop :=
  ∃ c, IsInnerDiary settings roots c ∧ IsAttended settings.metricsCallout roots c

/-! ## Where a visited callout finds another one -/

theorem following?_append {front back : List Callout} (apart : ∀ d ∈ front, d.start ≠ c.start) :
    following? c.start (front ++ c :: m :: back) = some m := by
  induction front with
  | nil => simp [following?]
  | cons d front ih =>
    obtain ⟨here, later⟩ := List.forall_mem_cons.mp apart
    rw [List.cons_append, following?, if_neg here]
    exact ih later

theorem parent?_eq (scanned : Scan.Scanned lines roots) (visited : v ∈ visits roots)
    {parent : Callout} (outer : parent ∈ walkAll roots) (child : v.callout ∈ parent.children) :
    v.parent? = some parent := by
  obtain ⟨around, path⟩ := exists_path outer
  -- a callout is reached on one path only, and the parent is the last on it
  have same := scanned.path_unique (visits_path visited) (.nested path child)
  rw [Visit.parent?, same, List.getLast?_concat]

theorem start_ne_of_front (scanned : Scan.Scanned lines roots) {parent : Callout}
    (outer : parent ∈ walkAll roots) {front back : List Callout}
    (split : parent.children = front ++ c :: back) : ∀ d ∈ front, d.start ≠ c.start := by
  intro d member
  have inside : d ∈ walkAll roots := mem_walkAll_of_child outer (split ▸ by simp [member])
  have orderly := (scanned.faithful parent outer).children.orderly
  rw [split, List.pairwise_append] at orderly
  -- a child ends where the next one begins at the latest
  have before := orderly.2.2 d member c List.mem_cons_self
  have span := (scanned.faithful d inside).ends.1.1
  omega

/-- A visited callout has a metrics callout exactly when it is attended by one. -/
theorem metrics?_isSome_iff (scanned : Scan.Scanned lines roots) (visited : v ∈ visits roots) :
    (v.metrics? kind).isSome = true ↔ IsAttended kind roots v.callout := by
  rw [Option.isSome_iff_exists]
  constructor
  · rintro ⟨m, taken⟩
    rcases metrics?_cases taken with found | ⟨_, parent, isParent, found, isKind⟩
    · exact .inl ⟨m, findNested?_mem found⟩
    · obtain ⟨outer, _⟩ := (visits_path visited).around_mem (List.mem_of_getLast? isParent)
      obtain ⟨front, c, back, split, here⟩ := following?_split found
      have child : c ∈ walkAll roots := mem_walkAll_of_child outer (split ▸ by simp)
      obtain rfl := scanned.eq_of_start_eq child (mem_walkAll_of_visit visited) here
      exact .inr ⟨parent, outer, front, m, back, split, isKind⟩
  · intro attended
    unfold Visit.metrics?
    cases found : v.callout.findNested? kind with
    | some nested => exact ⟨nested, rfl⟩
    | none =>
      rcases attended with ⟨m, nested, isKind⟩ | ⟨parent, outer, front, m, back, split, isKind⟩
      · -- the search goes through all that is nested
        have unseen := List.find?_eq_none.mp found m nested
        simp [isKind] at unseen
      · have isParent := parent?_eq scanned visited outer (split ▸ by simp)
        have behind : following? v.callout.start parent.children = some m := by
          rw [split]
          exact following?_append (start_ne_of_front scanned outer split)
        simp [isParent, behind, isKind]

/-! ## The counts -/

theorem isInnerDiary_iff (scanned : Scan.Scanned lines roots)
    (differ : settings.journalCallout ≠ settings.diaryCallout) :
    IsInnerDiary settings roots c ↔ ∃ d ∈ dreamsOf settings roots, d.diary = c := by
  rw [← List.mem_map]
  constructor
  · rintro ⟨member, inner⟩
    exact (diary_mem_iff scanned differ member).mpr inner
  · intro isDiary
    obtain ⟨d, isDream, rfl⟩ := List.mem_map.mp isDiary
    have member := mem_walkAll_of_dream isDream
    exact ⟨member, (diary_mem_iff scanned differ member).mp isDiary⟩

theorem hasInnerDiary_iff (scanned : Scan.Scanned lines roots)
    (differ : settings.journalCallout ≠ settings.diaryCallout) :
    HasInnerDiary settings roots ↔ ∃ d, d ∈ dreamsOf settings roots := by
  constructor
  · rintro ⟨c, inner⟩
    obtain ⟨d, isDream, _⟩ := (isInnerDiary_iff scanned differ).mp inner
    exact ⟨d, isDream⟩
  · rintro ⟨d, isDream⟩
    exact ⟨d.diary, (isInnerDiary_iff scanned differ).mpr ⟨d, isDream, rfl⟩⟩

theorem isAttended_diary_iff (scanned : Scan.Scanned lines roots) {d : Dream}
    (isDream : d ∈ dreamsOf settings roots) :
    IsAttended settings.metricsCallout roots d.diary ↔ d.metrics.isSome = true := by
  obtain ⟨v, visited, diary, taken⟩ := exists_visit_of_dream isDream
  rw [← diary, ← taken]
  exact (metrics?_isSome_iff scanned visited).symm

theorem hasAttendedDiary_iff (scanned : Scan.Scanned lines roots)
    (differ : settings.journalCallout ≠ settings.diaryCallout) :
    HasAttendedDiary settings roots ↔
      ∃ m, m ∈ (dreamsOf settings roots).filterMap Dream.metrics := by
  constructor
  · rintro ⟨c, inner, attended⟩
    obtain ⟨d, isDream, rfl⟩ := (isInnerDiary_iff scanned differ).mp inner
    have given := (isAttended_diary_iff scanned isDream).mp attended
    obtain ⟨m, taken⟩ := Option.isSome_iff_exists.mp given
    exact ⟨m, List.mem_filterMap.mpr ⟨d, isDream, taken⟩⟩
  · rintro ⟨m, listed⟩
    obtain ⟨d, isDream, taken⟩ := List.mem_filterMap.mp listed
    refine ⟨d.diary, (isInnerDiary_iff scanned differ).mpr ⟨d, isDream, rfl⟩, ?_⟩
    rw [isAttended_diary_iff scanned isDream, taken]
    rfl

section Extraction

variable {today : Date} {source note : Text} {x : NoteExtraction}

theorem Note.Context.journals_ne_zero_iff (context : Note.Context) (roots : List Callout)
    (earlier : List Diagnostic) :
    (context.extract roots earlier).journals ≠ 0 ↔ HasJournal context.settings roots := by
  have seen := @countP_isJournal context.settings (visits roots)
  have counted : (context.extract roots earlier).journals =
      (walkAll roots).countP fun c => c.kind = context.settings.journalCallout := by
    rw [← visits_callouts, List.countP_map]
    exact seen
  rw [counted, ← Nat.pos_iff_ne_zero, List.countP_pos_iff]
  simp [HasJournal]

theorem Note.journals_ne_zero_iff (returned : Note.extract settings today source note = .ok x) :
    x.journals ≠ 0 ↔ HasJournal settings (Scan.ofText note).roots := by
  obtain ⟨fields, complaints, rfl⟩ := exists_context_of_returned returned
  exact Note.Context.journals_ne_zero_iff _ _ _

theorem Note.diaries_ne_zero_iff (differ : settings.journalCallout ≠ settings.diaryCallout)
    (returned : Note.extract settings today source note = .ok x) :
    x.diaries ≠ 0 ↔ HasInnerDiary settings (Scan.ofText note).roots := by
  have scanned : Scan.Scanned (Text.lines note) (Scan.ofText note).roots :=
    Scan.ofLines_scanned (Text.lines note)
  obtain ⟨fields, complaints, rfl⟩ := exists_context_of_returned returned
  rw [hasInnerDiary_iff scanned differ, ← Nat.pos_iff_ne_zero]
  exact List.length_pos_iff_exists_mem

theorem Note.metricsCallouts_ne_zero_iff
    (differ : settings.journalCallout ≠ settings.diaryCallout)
    (returned : Note.extract settings today source note = .ok x) :
    x.metricsCallouts ≠ 0 ↔ HasAttendedDiary settings (Scan.ofText note).roots := by
  have scanned : Scan.Scanned (Text.lines note) (Scan.ofText note).roots :=
    Scan.ofLines_scanned (Text.lines note)
  obtain ⟨fields, complaints, rfl⟩ := exists_context_of_returned returned
  rw [hasAttendedDiary_iff scanned differ, ← Nat.pos_iff_ne_zero]
  exact List.length_pos_iff_exists_mem

end Extraction
end DreamJournal
