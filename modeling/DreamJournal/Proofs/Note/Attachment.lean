import DreamJournal.Proofs.Note.Accounting
import DreamJournal.Proofs.Run.Collected
import Mathlib.Data.List.Flatten
import Mathlib.Data.List.Sort

/-!
# Which dream takes which metrics callout

Every diary looks for its metrics callout by itself. Two diaries that stand beside each other never
find the same one: what the first finds begins in front of the second, and what the second finds
behind it. But a diary looks through all that is nested in it, other diaries included, so the first
metrics callout of an outer diary may be that of an inner one. `attached_once_iff` says that this
is the only way in which a callout is taken twice, and what follows for the counts and for the
numbers of a run when it does not happen.
-/
namespace DreamJournal

open Callout

variable {settings : Settings} {lines : List Text} {roots : List Callout} {d e : Dream}
  {v : Visit} {c m n : Callout} {kind : Text}

/-- An inner dream has a metrics callout, and none begins in front of it in the outer diary. -/
def Forestalls (settings : Settings) (outer inner : Dream) : Prop :=
  inner.diary ∈ walkAll outer.diary.children ∧
    ∃ m, inner.metrics = some m ∧
      ∀ c ∈ walkAll outer.diary.children, c.kind = settings.metricsCallout → m.start ≤ c.start

/-- No metrics callout belongs to two dreams. -/
def AttachedOnce (settings : Settings) (roots : List Callout) : Prop :=
  ∀ d ∈ dreamsOf settings roots, ∀ e ∈ dreamsOf settings roots,
    ∀ m, d.metrics = some m → e.metrics = some m → d = e

/-- The metrics callouts of a forest, in the order of the note. -/
def metricsCalloutsOf (settings : Settings) (roots : List Callout) : List Callout :=
  (walkAll roots).filter fun c => c.kind = settings.metricsCallout

/-- The numbers that a metrics callout declares under a name that counts. -/
def declaredIn (settings : Settings) (name : Text) (m : Callout) : List Number :=
  Run.declared settings name (Metric.extract settings.metrics (Metric.textOfCallout m)).metrics

/-- Every metrics callout of a note counts once at most, and so does every number in it. -/
structure UsedOnce (settings : Settings) (roots : List Callout) (x : NoteExtraction) : Prop where
  found_le : x.metricsCallouts ≤ (metricsCalloutsOf settings roots).length
  numbers : ∀ run : Run, run.settings = settings → ∀ name, name ≠ Metric.wordCountName →
    ∃ added, (run.take (.extracted x)).aggregate.values name = run.aggregate.values name ++ added ∧
      added.Sublist ((metricsCalloutsOf settings roots).flatMap (declaredIn settings name))
  word_counts : ∀ run : Run, run.settings = settings →
    (run.take (.extracted x)).aggregate.values Metric.wordCountName =
      run.aggregate.values Metric.wordCountName ++ x.entries.map fun e => .whole e.wordCount

/-! ## Before, inside and behind a callout -/

/-- Callouts that lie in two parts of the walk begin in the order of the parts. -/
theorem start_lt_of_parts (scanned : Scan.Scanned lines roots) {front back : List Callout}
    (parts : front ++ back <:+: walkAll roots) (first : m ∈ front) (second : n ∈ back) :
    m.start < n.start := by
  have ascending := scanned.ascending.sublist (parts.sublist.map Callout.start)
  rw [List.map_append, List.pairwise_append] at ascending
  exact ascending.2.2 _ (List.mem_map_of_mem first) _ (List.mem_map_of_mem second)

/-- What begins behind the first callout of a part of the walk lies in the part or behind it. -/
theorem mem_or_behind (scanned : Scan.Scanned lines roots) {part : List Callout}
    (isPart : c :: part <:+: walkAll roots) (other : n ∈ walkAll roots)
    (behind : c.start < n.start) : n ∈ part ∨ ∀ m ∈ part, m.start < n.start := by
  obtain ⟨front, back, whole⟩ := isPart
  have header : front ++ [c] <:+: walkAll roots := ⟨[], part ++ back, by simpa using whole⟩
  have rest : part ++ back <:+: walkAll roots := ⟨front ++ [c], [], by simpa using whole⟩
  rw [← whole, List.append_assoc, List.cons_append] at other
  rcases List.mem_append.mp other with earlier | further
  · -- nothing up to the first callout begins behind it
    have order := start_lt_of_parts scanned header earlier (List.mem_singleton_self c)
    omega
  · rcases List.mem_cons.mp further with rfl | further
    · omega
    · rcases List.mem_append.mp further with inside | later
      · exact .inl inside
      · exact .inr fun m isThere => start_lt_of_parts scanned rest isThere later

theorem own_part (member : c ∈ walkAll roots) : c :: walkAll c.children <:+: walkAll roots := by
  obtain ⟨_, path⟩ := exists_path member
  rw [← walkAll_singleton]
  exact path.isInfix

/-! ## Where a diary finds its metrics -/

theorem following?_split {start : Nat} {siblings : List Callout}
    (found : following? start siblings = some n) :
    ∃ front c back, siblings = front ++ c :: n :: back ∧ c.start = start := by
  induction siblings with
  | nil => simp [following?] at found
  | cons c rest ih =>
    rw [following?] at found
    split at found
    next here =>
      obtain ⟨back, rfl⟩ := List.head?_eq_some_iff.mp found
      exact ⟨[], c, back, rfl, here⟩
    next =>
      obtain ⟨front, d, back, rfl, here⟩ := ih found
      exact ⟨c :: front, d, back, rfl, here⟩

/-- A diary takes the first metrics callout nested in it, or else the callout behind it. -/
theorem metrics?_cases (taken : v.metrics? kind = some m) :
    v.callout.findNested? kind = some m ∨
      v.callout.findNested? kind = none ∧
        ∃ parent, v.parent? = some parent ∧
          following? v.callout.start parent.children = some m ∧ m.kind = kind := by
  unfold Visit.metrics? at taken
  split at taken
  next nested found =>
    rw [found]
    exact .inl taken
  next none =>
    refine .inr ⟨none, ?_⟩
    split at taken
    next parent isParent =>
      obtain ⟨found, isKind⟩ := Option.filter_eq_some_iff.mp taken
      exact ⟨parent, isParent, found, of_decide_eq_true isKind⟩
    next => cases taken

/-- The walk around a diary that takes the callout behind it. -/
theorem behind_parts (scanned : Scan.Scanned lines roots) (visited : v ∈ visits roots)
    {parent : Callout} (isParent : v.parent? = some parent)
    (found : following? v.callout.start parent.children = some m) :
    v.callout :: (walkAll v.callout.children ++ [m]) <:+: walkAll roots := by
  obtain ⟨inForest, _⟩ := (visits_path visited).around_mem (List.mem_of_getLast? isParent)
  obtain ⟨front, c, back, split, here⟩ := following?_split found
  have child : c ∈ walkAll roots := mem_walkAll_of_child inForest (split ▸ by simp)
  -- a callout is known by the line on which it begins
  obtain rfl := scanned.eq_of_start_eq child (mem_walkAll_of_visit visited) here
  have inside := children_isInfix inForest
  rw [split, walkAll_append, walkAll_cons, walkAll_cons] at inside
  refine List.IsInfix.trans ⟨walkAll front, walkAll m.children ++ walkAll back, ?_⟩ inside
  simp

theorem findNested?_mem (found : c.findNested? kind = some m) :
    m ∈ walkAll c.children ∧ m.kind = kind :=
  ⟨List.mem_of_find?_eq_some found, of_decide_eq_true (List.find?_some found :)⟩

/-- The first metrics callout nested in a callout begins in front of the others. -/
theorem findNested?_le (scanned : Scan.Scanned lines roots) (member : c ∈ walkAll roots)
    (found : c.findNested? kind = some m) (nested : n ∈ walkAll c.children)
    (isKind : n.kind = kind) : m.start ≤ n.start := by
  obtain ⟨_, front, back, split, others⟩ := List.find?_eq_some_iff_append.mp found
  rw [split] at nested
  rcases List.mem_append.mp nested with earlier | later
  · simpa [isKind] using others n earlier
  · rcases List.mem_cons.mp later with rfl | behind
    · exact Nat.le_refl _
    · have parts : (front ++ [m]) ++ back <:+: walkAll roots := by
        have inside := children_isInfix member
        rw [split] at inside
        simpa using inside
      exact Nat.le_of_lt (start_lt_of_parts scanned parts (by simp) behind)

theorem metrics?_start_lt (scanned : Scan.Scanned lines roots) (visited : v ∈ visits roots)
    (taken : v.metrics? kind = some m) : v.callout.start < m.start := by
  have member := mem_walkAll_of_visit visited
  rcases metrics?_cases taken with found | ⟨_, parent, isParent, found, _⟩
  · have parts : [v.callout] ++ walkAll v.callout.children <:+: walkAll roots := own_part member
    exact start_lt_of_parts scanned parts (List.mem_singleton_self _) (findNested?_mem found).1
  · have parts := behind_parts scanned visited isParent found
    rw [← List.cons_append] at parts
    exact start_lt_of_parts scanned parts List.mem_cons_self (List.mem_singleton_self m)

/-- What a diary takes lies in every callout that the diary lies in. -/
theorem metrics?_nested (scanned : Scan.Scanned lines roots) (visited : v ∈ visits roots)
    (taken : v.metrics? kind = some m) (outer : c ∈ walkAll roots)
    (nested : v.callout ∈ walkAll c.children) : m ∈ walkAll c.children := by
  rcases metrics?_cases taken with found | ⟨_, parent, isParent, found, _⟩
  · exact mem_walkAll_trans nested (findNested?_mem found).1
  · obtain ⟨above, toOuter⟩ := exists_path outer
    obtain ⟨below, toInner⟩ := exists_path nested
    have child := mem_of_following? found
    -- the callout directly around the diary is the outer one or nested in it
    have path := scanned.path_unique (visits_path visited) (toOuter.append toInner)
    rw [Visit.parent?, path] at isParent
    cases toInner with
    | root _ =>
      obtain rfl : c = parent := by simpa using isParent
      exact mem_walkAll_of_mem child
    | nested inside _ =>
      rw [← List.cons_append, ← List.append_assoc, List.getLast?_concat, Option.some.injEq]
        at isParent
      subst isParent
      exact mem_walkAll_of_child inside.mem child

/-! ## Two dreams -/

theorem exists_visit_of_dream (isDream : d ∈ dreamsOf settings roots) :
    ∃ v ∈ visits roots, v.callout = d.diary ∧ v.metrics? settings.metricsCallout = d.metrics := by
  obtain ⟨v, visited, diary, _, _, taken⟩ := exists_diary_visit isDream
  exact ⟨v, visited, diary, taken⟩

theorem mem_walkAll_of_dream (isDream : d ∈ dreamsOf settings roots) : d.diary ∈ walkAll roots := by
  obtain ⟨v, visited, diary, _⟩ := exists_visit_of_dream isDream
  exact diary ▸ mem_walkAll_of_visit visited

theorem dreamsOf_ascending (scanned : Scan.Scanned lines roots) :
    (dreamsOf settings roots).Pairwise fun d e => d.diary.start < e.diary.start := by
  have order := scanned.ascending
  rw [← visits_callouts, List.map_map] at order
  exact List.pairwise_map.mp (order.sublist (dreamsOf_starts settings roots))

/-- The metrics callout of a dream begins in front of that of a later dream. The one exception is
a later dream that forestalls the earlier one. -/
theorem metrics_order (scanned : Scan.Scanned lines roots)
    (isDream : d ∈ dreamsOf settings roots) (isLater : e ∈ dreamsOf settings roots)
    (later : d.diary.start < e.diary.start) (first : d.metrics = some m)
    (second : e.metrics = some n) : m.start < n.start ∨ m = n ∧ Forestalls settings d e := by
  obtain ⟨v, visited, diary, taken⟩ := exists_visit_of_dream isDream
  obtain ⟨w, visited', diary', taken'⟩ := exists_visit_of_dream isLater
  rw [first] at taken
  rw [second] at taken'
  rw [← diary, ← diary'] at later
  have outer := mem_walkAll_of_visit visited
  have inner := mem_walkAll_of_visit visited'
  have own : w.callout.start < n.start := metrics?_start_lt scanned visited' taken'
  rcases metrics?_cases taken with found | ⟨none, parent, isParent, behind, _⟩
  · rcases mem_or_behind scanned (own_part outer) inner later with nested | apart
    · -- the outer diary sees what the inner one takes, and takes the first that it sees
      have seen := metrics?_nested scanned visited' taken' outer nested
      have least := findNested?_le scanned outer found seen (metrics?_mem visited' taken').2
      rcases Nat.lt_or_eq_of_le least with before | same
      · exact .inl before
      · have inForest := (metrics?_mem visited taken).1
        obtain rfl := scanned.eq_of_start_eq inForest (metrics?_mem visited' taken').1 same
        refine .inr ⟨rfl, diary' ▸ diary ▸ nested, m, second, fun c isNested isKind => ?_⟩
        exact findNested?_le scanned outer found (diary ▸ isNested) isKind
    · have order := apart m (findNested?_mem found).1
      exact .inl (by omega)
  · have parts := behind_parts scanned visited isParent behind
    rcases mem_or_behind scanned parts inner later with inside | apart
    · rcases List.mem_append.mp inside with nested | last
      · -- then the outer diary sees a metrics callout after all
        have seen := metrics?_nested scanned visited' taken' outer nested
        have isKind := (metrics?_mem visited' taken').2
        have unseen := List.find?_eq_none.mp none n seen
        simp [isKind] at unseen
      · rw [List.mem_singleton.mp last] at own
        exact .inl own
    · have order := apart m (by simp)
      exact .inl (by omega)

/-- A dream that is forestalled takes what the inner one takes. -/
theorem metrics_of_forestalls (scanned : Scan.Scanned lines roots)
    (isDream : d ∈ dreamsOf settings roots) (isInner : e ∈ dreamsOf settings roots)
    (forestalls : Forestalls settings d e) : ∃ m, d.metrics = some m ∧ e.metrics = some m := by
  obtain ⟨nested, m, taken, least⟩ := forestalls
  obtain ⟨v, visited, diary, looked⟩ := exists_visit_of_dream isDream
  obtain ⟨w, visited', diary', looked'⟩ := exists_visit_of_dream isInner
  rw [← diary] at nested least
  rw [← diary'] at nested
  rw [taken] at looked'
  have outer := mem_walkAll_of_visit visited
  have seen := metrics?_nested scanned visited' looked' outer nested
  obtain ⟨inForest, isKind⟩ := metrics?_mem visited' looked'
  -- so the outer diary finds a callout, and the first it finds begins where `m` does
  cases found : v.callout.findNested? settings.metricsCallout with
  | none =>
    have unseen := List.find?_eq_none.mp found m seen
    simp [isKind] at unseen
  | some first =>
    obtain ⟨isNested, firstKind⟩ := findNested?_mem found
    have before := findNested?_le scanned outer found seen isKind
    have behind := least first isNested firstKind
    have same := scanned.eq_of_start_eq (mem_walkAll_trans outer isNested) inForest
      (Nat.le_antisymm before behind)
    rw [Visit.metrics?, found] at looked
    exact ⟨m, same ▸ looked.symm, taken⟩

theorem attachedOnce_iff (scanned : Scan.Scanned lines roots) :
    AttachedOnce settings roots ↔
      ¬∃ outer ∈ dreamsOf settings roots, ∃ inner ∈ dreamsOf settings roots,
        Forestalls settings outer inner := by
  have starts : ((dreamsOf settings roots).map fun d => d.diary.start).Pairwise (· < ·) :=
    List.pairwise_map.mpr (dreamsOf_ascending scanned)
  constructor
  · rintro once ⟨d, isDream, e, isInner, forestalls⟩
    obtain ⟨m, first, second⟩ := metrics_of_forestalls scanned isDream isInner forestalls
    obtain rfl := once d isDream e isInner m first second
    -- no callout is nested in itself
    have parts : [d.diary] ++ walkAll d.diary.children <:+: walkAll roots :=
      own_part (mem_walkAll_of_dream isDream)
    have order := start_lt_of_parts scanned parts (List.mem_singleton_self _) forestalls.1
    omega
  · intro apart d isDream e isOther m first second
    by_contra different
    have distinct : d.diary.start ≠ e.diary.start := by
      intro same
      exact different (List.inj_on_of_nodup_map (starts.imp Nat.ne_of_lt) isDream isOther same)
    rcases Nat.lt_or_gt_of_ne distinct with later | earlier
    · rcases metrics_order scanned isDream isOther later first second with before | ⟨_, taken⟩
      · omega
      · exact apart ⟨d, isDream, e, isOther, taken⟩
    · rcases metrics_order scanned isOther isDream earlier second first with before | ⟨_, taken⟩
      · omega
      · exact apart ⟨e, isOther, d, isDream, taken⟩

/-! ## A whole note -/

/-- Callouts that are taken once are taken in the order of the note. -/
theorem attached_sublist (scanned : Scan.Scanned lines roots) (once : AttachedOnce settings roots) :
    ((dreamsOf settings roots).filterMap Dream.metrics).Sublist
      (metricsCalloutsOf settings roots) := by
  let before (m n : Callout) : Prop := m.start < n.start
  have asymmetric : Std.Antisymm before := ⟨fun _ _ first second => by omega⟩
  have known : (metricsCalloutsOf settings roots).Pairwise before :=
    (List.pairwise_map.mp scanned.ascending).sublist List.filter_sublist
  have taken : ((dreamsOf settings roots).filterMap Dream.metrics).Pairwise before := by
    rw [List.pairwise_filterMap]
    refine (dreamsOf_ascending scanned).imp_of_mem ?_
    intro d e isDream isLater later m first n second
    rcases metrics_order scanned isDream isLater later first second with order | ⟨rfl, _⟩
    · exact order
    · obtain rfl := once d isDream e isLater m first second
      omega
  have subset : (dreamsOf settings roots).filterMap Dream.metrics ⊆
      metricsCalloutsOf settings roots := by
    intro m member
    obtain ⟨d, isDream, first⟩ := List.mem_filterMap.mp member
    obtain ⟨v, visited, _, looked⟩ := exists_visit_of_dream isDream
    obtain ⟨inForest, isKind⟩ := metrics?_mem visited (looked.trans first)
    exact List.mem_filter.mpr ⟨inForest, decide_eq_true isKind⟩
  have nodup : ((dreamsOf settings roots).filterMap Dream.metrics).Nodup :=
    taken.imp fun order same => absurd order (by simp [before, same])
  exact List.sublist_of_subperm_of_pairwise (List.subperm_of_subset nodup subset) taken known

/-- What an entry has from its dream. -/
theorem Dream.entry_parts {source : Text} {date : ResolvedDate} {found : Entry}
    (isEntry : d.entry settings source date = .ok found) :
    found.content = d.content settings ∧
      found.wordCount = Narrative.wordCount found.content ∧
      found.metrics = (d.metricsRead settings).metrics := by
  unfold Dream.entry at isEntry
  split at isEntry
  · cases isEntry
  · split at isEntry
    · cases isEntry
    · obtain rfl := Except.ok.inj isEntry
      -- the parts are read off the record; comparing them by evaluation would clean the body
      simp only [and_self]

/-- An entry has the numbers of the metrics callout of its dream. -/
theorem declared_entry {source : Text} {date : ResolvedDate} {found : Entry} (name : Text)
    (isEntry : d.entry settings source date = .ok found) :
    Run.declared settings name found.metrics =
      d.metrics.toList.flatMap (declaredIn settings name) := by
  rw [(Dream.entry_parts isEntry).2.2, Dream.metricsRead]
  cases d.metrics with
  | none => rfl
  | some m => exact (List.append_nil _).symm

theorem declared_entries_sublist (context : Note.Context) (name : Text) (dreams : List Dream) :
    ((dreams.filterMap fun d => (context.assemble d).entry.toOption).flatMap fun e =>
        Run.declared context.settings name e.metrics).Sublist
      ((dreams.filterMap Dream.metrics).flatMap (declaredIn context.settings name)) := by
  induction dreams with
  | nil => exact .slnil
  | cons d rest ih =>
    have others : ((d :: rest).filterMap Dream.metrics).flatMap
        (declaredIn context.settings name) =
          d.metrics.toList.flatMap (declaredIn context.settings name) ++
            (rest.filterMap Dream.metrics).flatMap (declaredIn context.settings name) := by
      rw [List.filterMap_cons]
      cases d.metrics <;> simp
    rw [others, List.filterMap_cons]
    cases result : (context.assemble d).entry with
    | error fault => exact ih.trans (List.sublist_append_right _ _)
    | ok e =>
      simp only [Except.toOption, List.flatMap_cons]
      rw [declared_entry name result]
      exact ih.append_left _

theorem usedOnce_of_attachedOnce (context : Note.Context) (scanned : Scan.Scanned lines roots)
    (once : AttachedOnce context.settings roots) (earlier : List Diagnostic) :
    UsedOnce context.settings roots (context.extract roots earlier) := by
  have attached := attached_sublist scanned once
  constructor
  case found_le => exact attached.length_le
  case numbers =>
    intro run same name isDeclared
    refine ⟨_, ?_, (declared_entries_sublist context name _).trans (attached.flatMap _)⟩
    rw [Run.take, same]
    exact Run.values_collectAll run.aggregate _ isDeclared
  case word_counts =>
    intro run _
    rw [Run.take]
    exact Run.wordCounts_collectAll run.aggregate _

/-- Each metrics callout of a note belongs to one dream at most, unless a dream in another dream
has the first metrics callout of the outer one. If no dream does, no callout and no number is
counted twice. -/
theorem attached_once_iff (settings : Settings) (today : Date) (source note : Text)
    (x : NoteExtraction) (returned : Note.extract settings today source note = .ok x) :
    (AttachedOnce settings (Scan.ofText note).roots ↔
      ¬∃ outer ∈ dreamsOf settings (Scan.ofText note).roots,
        ∃ inner ∈ dreamsOf settings (Scan.ofText note).roots, Forestalls settings outer inner) ∧
    (AttachedOnce settings (Scan.ofText note).roots →
      UsedOnce settings (Scan.ofText note).roots x) := by
  have scanned : Scan.Scanned (Text.lines note) (Scan.ofText note).roots :=
    Scan.ofLines_scanned (Text.lines note)
  refine ⟨attachedOnce_iff scanned, fun once => ?_⟩
  obtain ⟨fields, complaints, rfl⟩ := exists_context_of_returned returned
  exact usedOnce_of_attachedOnce ⟨settings, today, source, Text.lines note, fields⟩ scanned once _

/-- A metrics callout inside its dream, and one behind its dream. -/
def metricsNote : Text := Text.joinLines <|
  ["> [!journal-entry] ^20250101", ">> [!dream-diary] Sea", ">>> [!dream-metrics]", ">>> Words: 5",
    ">> [!dream-diary] Hill", ">> [!dream-metrics]", ">> Words: 7"].map Text.of

set_option maxRecDepth 4000 in
theorem attached_once_metrics :
    ∃ x, Note.extract Settings.standard ⟨2030, 1, 1, by decide⟩ (Text.of "a.md") metricsNote =
        .ok x ∧ x.metricsCallouts = 2 ∧
      UsedOnce Settings.standard (Scan.ofText metricsNote).roots x := by
  have front : Note.frontMatterOf (Text.of "a.md") metricsNote = .ok ([], []) := by rfl
  refine ⟨_, extract_eq_of_frontMatter front, by decide +kernel, ?_⟩
  have answer := attached_once_iff Settings.standard ⟨2030, 1, 1, by decide⟩ (Text.of "a.md")
    metricsNote _ (extract_eq_of_frontMatter front)
  -- neither dream begins inside the other one
  have apart : ((dreamsOf Settings.standard (Scan.ofText metricsNote).roots).all fun outer =>
      (dreamsOf Settings.standard (Scan.ofText metricsNote).roots).all fun inner =>
        !((walkAll outer.diary.children).map Callout.start).contains inner.diary.start) = true := by
    decide +kernel
  apply answer.2
  apply answer.1.mpr
  rintro ⟨outer, isDream, inner, isInner, nested, _⟩
  have absent := List.all_eq_true.mp (List.all_eq_true.mp apart outer isDream) inner isInner
  have present := List.contains_iff_mem.mpr (List.mem_map_of_mem (f := Callout.start) nested)
  rw [present] at absent
  cases absent

/-- A dream in a dream, with metrics of its own. -/
def nestedNote : Text := Text.joinLines <|
  ["> [!journal-entry] ^20250101", ">> [!dream-diary] Sea", ">> waves", ">>> [!dream-diary] Hill",
    ">>> wind", ">>>> [!dream-metrics]", ">>>> Words: 5"].map Text.of

set_option maxRecDepth 4000 in
/-- Both dreams take the one metrics callout of the note, and it is counted twice. -/
theorem attached_twice_nested :
    ∃ x, Note.extract Settings.standard ⟨2030, 1, 1, by decide⟩ (Text.of "a.md") nestedNote =
        .ok x ∧
      (metricsCalloutsOf Settings.standard (Scan.ofText nestedNote).roots).length = 1 ∧
      ((dreamsOf Settings.standard (Scan.ofText nestedNote).roots).map fun d =>
        d.metrics.map Callout.start) = [some 5, some 5] ∧
      x.metricsCallouts = 2 := by
  have front : Note.frontMatterOf (Text.of "a.md") nestedNote = .ok ([], []) := by rfl
  refine ⟨_, extract_eq_of_frontMatter front, ?_, ?_, ?_⟩
  all_goals decide +kernel

end DreamJournal
