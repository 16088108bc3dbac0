import DreamJournal.Proofs.Metric.Segments
import DreamJournal.Proofs.Text.Fold

/-!
# Metrics in any layout

Someone who writes metrics down puts a colon between a name and its value, and commas or line breaks
between one metric and the next, with white space wherever it looks well. `extract_listing` says
that all this is read back: one metric for each name and value, in their order. What a name is
written like does not matter to the definition that it finds, as long as it has the words of its
name.

Two names must differ in more than their case and their white space. Then they are not brought
together by a definition either, for a definition has the key of the names that it is found by.
-/
namespace DreamJournal

open DreamJournal.Metric

variable {c : Char} {t gap a b : Text} {definitions : List MetricDefinition}
  {before pieces : List Text}

namespace Metric

/-! ## Segments -/

/-- A character that ends a segment: a line break or a comma. -/
def isSeparator (c : Char) : Bool := Text.isLineBreak c || c == ','

/-- The segments of a text are its pieces between separators, trimmed, the empty ones left out. -/
theorem segments_eq (t : Text) : segments t =
    ((List.splitOnP isSeparator t).map Text.trim).filter fun segment => !segment.isEmpty := by
  have commas (line : Text) : Text.splitOn ',' line = List.splitOnP (· == ',') line := by
    rw [Text.splitOn_eq, List.splitOn_eq_splitOnP]
  have pieces := Text.flatMap_splitOnP Text.isLineBreak (· == ',') t
  have rows : segments t = (Text.lines t).flatMap fun line =>
      ((List.splitOnP (· == ',') line).map Text.trim).filter fun segment => !segment.isEmpty := by
    simp only [segments, funext commas, List.map_flatMap, List.filter_flatMap]
  rw [rows, Text.flatMap_lines (by simp [List.splitOnP_nil, Text.trim, Text.trimBoth])]
  simp only [← List.map_flatMap, ← List.filter_flatMap, pieces]
  rfl

/-- A separator keeps the segments on its sides apart. -/
theorem segments_append (separates : isSeparator c = true) (s t : Text) :
    segments (s ++ c :: t) = segments s ++ segments t := by
  simp only [segments_eq, List.splitOnP_append_cons s t separates, List.map_append,
    List.filter_append]

theorem segments_blank (blank : Text.isBlank c = true) (t : Text) :
    segments (c :: t) = segments t := by
  by_cases separates : isSeparator c = true
  · exact segments_append separates [] t
  · obtain ⟨first, more, pieces⟩ := List.exists_cons_of_ne_nil (List.splitOnP_ne_nil isSeparator t)
    rw [segments_eq, segments_eq, List.splitOnP_cons_eq_if_modifyHead, if_neg separates, pieces,
      List.modifyHead_cons, List.map_cons, List.map_cons, Text.trim_cons_blank blank]

/-- White space and commas. -/
def IsLoose (gap : Text) : Prop := ∀ c ∈ gap, Text.isBlank c = true ∨ c = ','

instance (gap : Text) : Decidable (IsLoose gap) :=
  decidable_of_iff (gap.all fun c => Text.isBlank c || c == ',') (by simp [IsLoose])

theorem segments_loose (loose : IsLoose gap) (t : Text) : segments (gap ++ t) = segments t := by
  induction gap with
  | nil => rfl
  | cons c gap ih =>
    have ⟨here, later⟩ := List.forall_mem_cons.mp loose
    rw [List.cons_append]
    rcases here with blank | rfl
    · rw [segments_blank blank, ih later]
    · exact (segments_append rfl [] (gap ++ t)).trans (ih later)

/-- White space and commas begin with white space that separates nothing, up to a separator or to
the end. -/
theorem IsLoose.exists_near (loose : IsLoose gap) :
    ∃ near, (∀ c ∈ near, Text.isBlank c = true ∧ isSeparator c = false) ∧
      (gap = near ∨
        ∃ c later, gap = near ++ c :: later ∧ isSeparator c = true ∧ IsLoose later) := by
  induction gap with
  | nil => exact ⟨[], List.forall_mem_nil _, .inl rfl⟩
  | cons c gap ih =>
    have ⟨here, later⟩ := List.forall_mem_cons.mp loose
    by_cases separates : isSeparator c = true
    · exact ⟨[], List.forall_mem_nil _, .inr ⟨c, gap, rfl, separates, later⟩⟩
    · obtain ⟨near, blank, split⟩ := ih later
      have isBlank := here.resolve_right fun comma => separates (comma ▸ rfl)
      refine ⟨c :: near, List.forall_mem_cons.mpr ⟨⟨isBlank, by simpa using separates⟩, blank⟩, ?_⟩
      rcases split with rfl | ⟨d, further, rfl, there, loose⟩
      · exact .inl rfl
      · exact .inr ⟨d, further, rfl, there, loose⟩

theorem segments_whole (whole : ∀ c ∈ t, isSeparator c = false) (inked : Text.trim t ≠ []) :
    segments t = [Text.trim t] := by
  rw [segments_eq, List.splitOnP_eq_singleton whole]
  simp [inked]

/-! ## Names -/

/-- Two names have the same words, but for their case. -/
def SameName (a b : Text) : Prop := (Text.words a).map Text.fold = (Text.words b).map Text.fold

/-- Names are compared word by word, without regard to case. -/
theorem key_eq_iff : key a = key b ↔ SameName a b := by
  rw [key, key, Text.fold_oneSpaced, Text.fold_oneSpaced, Text.oneSpaced_eq_iff, Text.words_fold,
    Text.words_fold, SameName]

@[simp] theorem key_oneSpaced (name : Text) : key (Text.oneSpaced name) = key name := by
  simp [key_eq_iff, SameName]

/-- A definition changes the name of a metric, but not what the name is compared by. -/
theorem key_displayName (definitions : List MetricDefinition) (name : Text) :
    key (displayName definitions name) = key name := by
  unfold displayName
  cases found : MetricDefinition.lookup? definitions name with
  | none => rfl
  | some d => exact (MetricDefinition.lookup?_mem found).2

/-! ## Declarations -/

/-- A name and a value that can be told from what they are written among. -/
structure Declaration where
  name : Text
  value : Text
  named : Text.isAllBlank name = false
  valued : value ≠ []
  trimmed : Text.trim value = value
  whole : ∀ c ∈ name ++ value, isSeparator c = false
  uncut : ':' ∉ name
  readable : ¬IsOverlong value

namespace Declaration

def written (p : Declaration) : Text := p.name ++ ':' :: ' ' :: p.value

theorem trim_written (p : Declaration) :
    Text.trim p.written = p.name.dropWhile Text.isBlank ++ ':' :: ' ' :: p.value := by
  have starts : p.name.dropWhile Text.isBlank ≠ [] := by
    rw [ne_eq, List.dropWhile_eq_nil_iff]
    intro blank
    have isBlank := List.all_eq_true.mpr blank
    rw [show p.name.all Text.isBlank = false from p.named] at isBlank
    cases isBlank
  have front : p.written.dropWhile Text.isBlank =
      p.name.dropWhile Text.isBlank ++ ':' :: ' ' :: p.value := by
    rw [written, List.dropWhile_append, if_neg (by simpa using starts)]
  have ends : ∀ c ∈ (p.name.dropWhile Text.isBlank ++ ':' :: ' ' :: p.value).getLast?,
      Text.isBlank c = false := by
    have last : p.name.dropWhile Text.isBlank ++ ':' :: ' ' :: p.value =
        (p.name.dropWhile Text.isBlank ++ [':', ' ']) ++ p.value := by simp
    rw [last, List.getLast?_append_of_ne_nil _ p.valued]
    exact Text.last_of_trimmed p.trimmed
  rw [Text.trim, Text.trimBoth, front]
  exact Text.trimEnd_eq_self ends

theorem isPair (p : Declaration) :
    IsPair (Text.trim p.written) (Text.oneSpaced p.name) p.value := by
  refine ⟨p.name.dropWhile Text.isBlank, ' ' :: p.value, p.trim_written, ?_, ?_, ?_, ?_, p.valued⟩
  · exact fun member => p.uncut ((List.dropWhile_sublist _).subset member)
  · exact Text.oneSpaced_eq_iff.mpr (Text.words_dropWhile p.name).symm
  · rw [Text.trim_cons_blank rfl, p.trimmed]
  · intro none
    have nameless : Text.oneSpaced p.name = Text.oneSpaced [] := none
    exact Text.words_ne_nil p.named (Text.oneSpaced_eq_iff.mp nameless)

theorem shownAs?_written (definitions : List MetricDefinition) (p : Declaration) :
    shownAs? definitions (Text.trim p.written) =
      some (displayName definitions (Text.oneSpaced p.name)) :=
  shownAs?_of_ok (ofSegment_eq_ok_iff.mpr p.isPair)

/-- A declaration is one segment, whatever white space follows it, up to a separator or the end. -/
theorem segments_written (p : Declaration) (loose : IsLoose gap)
    (apart : t = [] ∨ ∃ c ∈ gap, isSeparator c = true) :
    segments (p.written ++ (gap ++ t)) = Text.trim p.written :: segments t := by
  have whole : ∀ c ∈ p.written, isSeparator c = false := by
    have parts := List.forall_mem_append.mp p.whole
    refine List.forall_mem_append.mpr ⟨parts.1, ?_⟩
    exact List.forall_mem_cons.mpr ⟨rfl, List.forall_mem_cons.mpr ⟨rfl, parts.2⟩⟩
  have given : Text.trim p.written ≠ [] := by simp [trim_written]
  obtain ⟨near, blank, split⟩ := loose.exists_near
  have alone : segments (p.written ++ near) = [Text.trim p.written] := by
    rw [segments_whole, Text.trim_append_blank fun c member => (blank c member).1]
    · exact List.forall_mem_append.mpr ⟨whole, fun c member => (blank c member).2⟩
    · rwa [Text.trim_append_blank fun c member => (blank c member).1]
  rcases split with rfl | ⟨c, later, rfl, separates, further⟩
  · rcases apart with rfl | ⟨c, member, separates⟩
    · rw [List.append_nil, alone]
      rfl
    · rw [(blank c member).2] at separates
      cases separates
  · rw [List.append_assoc, ← List.append_assoc, List.cons_append, segments_append separates, alone,
      segments_loose further, List.singleton_append]

end Declaration

/-! ## Listings -/

/-- Declarations behind `lead`, each with what stands between it and the next one. -/
def listing (lead : Text) (items : List (Declaration × Text)) : Text :=
  lead ++ items.flatMap fun item => item.1.written ++ item.2

/-- White space and commas stand around the declarations, and between two of them there is at least
one comma or line break. -/
structure IsLayout (lead : Text) (items : List (Declaration × Text)) : Prop where
  lead : IsLoose lead
  gaps : ∀ item ∈ items, IsLoose item.2
  apart : ∀ item ∈ items.dropLast, ∃ c ∈ item.2, isSeparator c = true

theorem segments_listing {lead : Text} {items : List (Declaration × Text)}
    (layout : IsLayout lead items) :
    segments (listing lead items) = items.map fun item => Text.trim item.1.written := by
  induction items generalizing lead with
  | nil => exact segments_loose layout.lead []
  | cons item rest ih =>
    have ⟨here, later⟩ := List.forall_mem_cons.mp layout.gaps
    have nothing : IsLoose [] := List.forall_mem_nil _
    rw [listing, segments_loose layout.lead, List.flatMap_cons, List.append_assoc]
    cases rest with
    | nil => exact item.1.segments_written here (.inl rfl)
    | cons next rest =>
      have ⟨apart, others⟩ := List.forall_mem_cons.mp (List.dropLast_cons_cons ▸ layout.apart)
      rw [item.1.segments_written here (.inr apart), List.map_cons]
      exact congrArg _ (ih ⟨nothing, later, others⟩)

/-- A declaration is read as a metric with its value: under the name of the definition that has the
words of its name, or else under these words. -/
structure ReadAs (definitions : List MetricDefinition) (p : Declaration)
    (entry : Text × Metric) : Prop where
  named : entry.2.name = entry.1
  raw : entry.2.raw = p.value
  defined : ∀ d ∈ definitions, SameName d.name p.name →
    entry.1 = d.name ∧ entry.2.configured = true ∧
      if d.isText then entry.2.numeric = none else number? p.value = .ok entry.2.numeric
  undefined : (∀ d ∈ definitions, ¬SameName d.name p.name) →
    entry.1 = Text.oneSpaced p.name ∧ entry.2.configured = false ∧
      number? p.value = .ok entry.2.numeric

theorem StandsFor.readAs {p : Declaration} {entry : Text × Metric}
    (stands : StandsFor definitions (Text.trim p.written) entry) : ReadAs definitions p entry := by
  obtain ⟨named, _, name, isPair, defined, undefined⟩ := stands
  have same := (ofSegment_eq_ok_iff.mpr isPair).symm.trans (ofSegment_eq_ok_iff.mpr p.isPair)
  obtain ⟨rfl, raw⟩ := Prod.mk.inj (Except.ok.inj same)
  have keyed (d : MetricDefinition) :
      d.key = key (Text.oneSpaced p.name) ↔ SameName d.name p.name := by
    rw [key_oneSpaced, MetricDefinition.key, key_eq_iff]
  simp only [keyed, raw, ne_eq] at defined undefined
  exact ⟨named, raw, defined, undefined⟩

/-- Segments that go by different names are all the first with their names. -/
theorem firstsBehind_eq_self
    (named : ∀ piece ∈ pieces, ∃ shown, shownAs? definitions piece = some shown)
    (distinct : ((before ++ pieces).map (shownAs? definitions)).Nodup) :
    firstsBehind definitions before pieces = pieces := by
  induction pieces generalizing before with
  | nil => rfl
  | cons piece rest ih =>
    have ⟨⟨shown, here⟩, later⟩ := List.forall_mem_cons.mp named
    have first : isFirst definitions before piece = true := by
      rw [isFirst, here]
      refine List.all_eq_true.mpr fun earlier member => decide_eq_true fun same => ?_
      rw [List.map_append, List.nodup_append] at distinct
      refine distinct.2.2 _ (List.mem_map_of_mem member) _ List.mem_cons_self ?_
      rw [same, here]
    rw [firstsBehind, if_pos first, ih later (by simpa using distinct)]

/-- Declarations are read back: nothing is malformed, and each of them is one metric. -/
structure ReadBack (definitions : List MetricDefinition) (declared : List Declaration)
    (e : Extraction) : Prop where
  whole : e.ended = none
  metrics : List.Forall₂ (ReadAs definitions) declared e.metrics
  distinct : e.metrics.keys.Nodup
  wellFormed : ∀ source line, Diagnostic.count .metricMalformed (e.diagnostics source line) = 0

/-- In whatever layout declarations with different names are listed, they are read back. -/
theorem extract_listing (definitions : List MetricDefinition)
    (distinct : (definitions.map MetricDefinition.key).Nodup) (lead : Text)
    (items : List (Declaration × Text)) (layout : IsLayout lead items)
    (differ : (items.map fun item => key item.1.name).Nodup) :
    ReadBack definitions (items.map Prod.fst) (extract definitions (listing lead items)) := by
  have segs := segments_listing layout
  have readable : ∀ segment ∈ segments (listing lead items), ∀ name raw,
      IsPair segment name raw → ¬IsOverlong raw := by
    rw [segs]
    intro segment member name raw isPair
    obtain ⟨item, _, rfl⟩ := List.mem_map.mp member
    have same := (ofSegment_eq_ok_iff.mpr isPair).symm.trans
      (ofSegment_eq_ok_iff.mpr item.1.isPair)
    rw [(Prod.mk.inj (Except.ok.inj same)).2]
    exact item.1.readable
  have accounted := extract_accounts definitions distinct (listing lead items) readable
  rw [segs] at accounted
  have firsts_eq : firsts definitions (items.map fun item => Text.trim item.1.written) =
      items.map fun item => Text.trim item.1.written := by
    apply firstsBehind_eq_self
    · intro segment member
      obtain ⟨item, _, rfl⟩ := List.mem_map.mp member
      exact ⟨_, item.1.shownAs?_written definitions⟩
    · -- equal display names would have equal keys, and the keys differ
      rw [List.nil_append, List.map_map]
      refine List.Nodup.of_map (fun shown => shown.map key) ?_
      rw [List.map_map]
      have keys : (items.map fun item => some (key item.1.name)).Nodup := by
        have lifted := differ.map fun _ _ => Option.some.inj
        rwa [List.map_map] at lifted
      convert keys using 2
      funext item
      simp [item.1.shownAs?_written, key_displayName]
  have stands := accounted.metrics
  rw [firsts_eq, List.forall₂_map_left_iff] at stands
  refine ⟨accounted.whole, ?_, accounted.distinct, fun source line => ?_⟩
  · rw [List.forall₂_map_left_iff]
    exact stands.imp fun item entry => StandsFor.readAs
  · have counted := accounted.counted source line
    rw [List.length_map, stands.length_eq] at counted
    omega

/-- A declaration whose value is too short to have too many digits. -/
def Declaration.ofShort (name value : Text)
    (named : Text.isAllBlank name = false := by decide +kernel)
    (valued : value ≠ [] := by decide +kernel)
    (trimmed : Text.trim value = value := by decide +kernel)
    (whole : (name ++ value).any isSeparator = false := by decide +kernel)
    (uncut : ':' ∉ name := by decide +kernel)
    (short : value.length ≤ digitLimit := by decide +kernel) : Declaration where
  name := name
  value := value
  named := named
  valued := valued
  trimmed := trimmed
  whole := fun c member => Bool.eq_false_iff.mpr (List.any_eq_false.mp whole c member)
  uncut := uncut
  readable := fun long => absurd long.length_lt (Nat.not_lt_of_le short)

/-- A defined name in other letters and with other white space, a colon in a value, a name that is
not defined, and commas and line breaks in several orders. -/
def scattered : List (Declaration × Text) :=
  [(.ofShort (Text.of "sensory  DETAIL ") (Text.of "4"), Text.of " ,\n"),
    (.ofShort (Text.of "Hour") (Text.of "10:30"), Text.of "\r\n  "),
    (.ofShort (Text.of "WORDS") (Text.of "9999"), [])]

theorem extract_listing_scattered :
    (MetricDefinition.standard.map MetricDefinition.key).Nodup ∧
      IsLayout (Text.of ",\n ") scattered ∧
      (scattered.map fun item => key item.1.name).Nodup ∧
      (extract MetricDefinition.standard (listing (Text.of ",\n ") scattered)).metrics.keys =
        ["Sensory Detail", "Hour", "Words"].map Text.of ∧
      ReadBack MetricDefinition.standard (scattered.map Prod.fst)
        (extract MetricDefinition.standard (listing (Text.of ",\n ") scattered)) := by
  have distinct : (MetricDefinition.standard.map MetricDefinition.key).Nodup := by decide +kernel
  have apart : ∀ item ∈ scattered.dropLast, item.2.any isSeparator = true := by decide +kernel
  have layout : IsLayout (Text.of ",\n ") scattered :=
    ⟨by decide +kernel, by decide +kernel, fun item member =>
      List.any_eq_true.mp (apart item member)⟩
  have differ : (scattered.map fun item => key item.1.name).Nodup := by decide +kernel
  exact ⟨distinct, layout, differ, by decide +kernel,
    extract_listing _ distinct _ _ layout differ⟩

end Metric
end DreamJournal
