import DreamJournal.Narrative.Paragraphs
import DreamJournal.Proofs.Text.Splitting
import DreamJournal.Proofs.Text.Words

/-!
# Collapsed white space

Collapsing touches white space only, never makes a text longer, and is done after one go: its
result is a row of paragraphs, each with single spaces between its words, and these are read
back as the same paragraphs.
-/
namespace DreamJournal.Narrative

open Text (isBlank isGap content oneSpaced join words joinWords IsWord)

variable {mode : ParagraphMode} {c : Char} {p rest t : Text} {ps : List Text}
  {size skip width : Nat}

theorem isBlank_of_isGap (gap : isGap c = true) : isBlank c = true := by
  unfold isGap at gap
  rcases Bool.or_eq_true_iff.mp gap with space | tab
  · obtain rfl := beq_iff_eq.mp space
    rfl
  · obtain rfl := beq_iff_eq.mp tab
    rfl

/-! ## Cutting a text into paragraphs -/

theorem breakSize_covers (returned : breakSize t = size + 1) :
    ∃ gap rest, t = '\n' :: gap ++ '\n' :: rest ∧ (∀ c ∈ gap, isGap c = true) ∧
      size = gap.length + 1 := by
  unfold breakSize at returned
  split at returned
  next rest =>
    have parts := Text.takeWhile_append_drop isGap rest
    dsimp only at returned
    split at returned
    next behind closing =>
      rw [closing] at parts
      refine ⟨rest.takeWhile isGap, behind, ?_, fun c => List.mem_takeWhile_imp, by omega⟩
      rw [List.cons_append, parts]
    next => exact absurd returned (by omega)
  next => exact absurd returned (by omega)

theorem breakSize_eq_zero (other : c ≠ '\n') : breakSize (c :: rest) = 0 := by
  simp [breakSize, other]

theorem splitParagraphs_ne_nil (skip : Nat) (t : Text) : splitParagraphs skip t ≠ [] := by
  fun_induction splitParagraphs skip t with simp_all

/-- Between two breaks the characters of a text are handed to the paragraph they stand in. -/
theorem splitParagraphs_cons (unbroken : breakSize (c :: rest) = 0) :
    ∃ first more, splitParagraphs 0 rest = first :: more ∧
      splitParagraphs 0 (c :: rest) = (c :: first) :: more := by
  obtain ⟨first, more, same⟩ := List.exists_cons_of_ne_nil (splitParagraphs_ne_nil 0 rest)
  exact ⟨first, more, same, by rw [splitParagraphs, unbroken, same]⟩

theorem splitParagraphs_break (returned : breakSize (c :: rest) = size + 1) :
    splitParagraphs 0 (c :: rest) = [] :: splitParagraphs size rest := by
  rw [splitParagraphs, returned]

theorem splitParagraphs_drop (front back : Text) :
    splitParagraphs front.length (front ++ back) = splitParagraphs 0 back := by
  induction front with
  | nil => rfl
  | cons c front ih => rw [List.length_cons, List.cons_append, splitParagraphs, ih]

/-- A text is one paragraph, or its first paragraph stands in front of a break. -/
theorem splitParagraphs_cases (t : Text) :
    splitParagraphs 0 t = [t] ∨
      ∃ p gap rest, t = p ++ '\n' :: (gap ++ '\n' :: rest) ∧ (∀ c ∈ gap, isGap c = true) ∧
        splitParagraphs 0 t = p :: splitParagraphs 0 rest := by
  induction t with
  | nil => exact .inl rfl
  | cons c rest ih =>
    cases returned : breakSize (c :: rest) with
    | succ size =>
      obtain ⟨gap, behind, same, gaps, rfl⟩ := breakSize_covers returned
      obtain ⟨rfl, rfl⟩ : c = '\n' ∧ rest = gap ++ '\n' :: behind := by simpa using same
      refine .inr ⟨[], gap, behind, rfl, gaps, ?_⟩
      have passed := splitParagraphs_drop (gap ++ ['\n']) behind
      simp only [List.length_append, List.length_singleton, List.append_assoc,
        List.singleton_append] at passed
      rw [splitParagraphs_break returned, passed]
    | zero =>
      obtain ⟨first, more, tail, same⟩ := splitParagraphs_cons returned
      rw [tail] at ih
      rcases ih with whole | ⟨p, gap, behind, rfl, gaps, cut⟩
      · obtain ⟨rfl, rfl⟩ := List.cons.inj whole
        exact .inl same
      · obtain ⟨rfl, rfl⟩ := List.cons.inj cut
        exact .inr ⟨c :: first, gap, behind, rfl, gaps, same⟩

/-- Induction over a text paragraph by paragraph. -/
@[elab_as_elim]
theorem paragraphs_induction {motive : Text → Prop}
    (whole : ∀ t, splitParagraphs 0 t = [t] → motive t)
    (cut : ∀ p gap rest, (∀ c ∈ gap, isGap c = true) →
      splitParagraphs 0 (p ++ '\n' :: (gap ++ '\n' :: rest)) = p :: splitParagraphs 0 rest →
        motive rest → motive (p ++ '\n' :: (gap ++ '\n' :: rest)))
    (t : Text) : motive t := by
  induction size : t.length using Nat.strongRecOn generalizing t with
  | ind n ih =>
    rcases splitParagraphs_cases t with one | ⟨p, gap, rest, rfl, gaps, first⟩
    · exact whole t one
    · simp only [List.length_append, List.length_cons] at size
      exact cut p gap rest gaps first (ih rest.length (by omega) rest rfl)

/-- No word reaches from one paragraph into the next. -/
theorem words_splitParagraphs (t : Text) : (splitParagraphs 0 t).flatMap words = words t := by
  induction t using paragraphs_induction with
  | whole t one => rw [one, List.flatMap_singleton]
  | cut p gap rest gaps first ih =>
    have none : words gap = [] :=
      Text.words_eq_nil fun c member => isBlank_of_isGap (gaps c member)
    rw [first, List.flatMap_cons, ih, Text.words_append_blank rfl, Text.words_append_blank rfl,
      none, List.nil_append]

theorem content_splitParagraphs (t : Text) :
    ((splitParagraphs 0 t).map content).flatten = content t := by
  rw [← Text.flatten_words, ← words_splitParagraphs]
  induction splitParagraphs 0 t with
  | nil => rfl
  | cons p more ih =>
    rw [List.map_cons, List.flatten_cons, ih, ← Text.flatten_words, List.flatMap_cons,
      List.flatten_append]

/-- Every paragraph but the last pays for a separator, which is no longer than a break. -/
theorem sum_splitParagraphs_le (narrow : width ≤ 2) (t : Text) :
    ((splitParagraphs 0 t).map fun p => p.length + width).sum ≤ t.length + width := by
  induction t using paragraphs_induction with
  | whole t one => simp [one]
  | cut p gap rest gaps first ih =>
    simp only [first, List.map_cons, List.sum_cons, List.length_append, List.length_cons]
    omega

/-- A paragraph without line feeds is found in front of a break. -/
theorem splitParagraphs_append_break (unbroken : '\n' ∉ p) (rest : Text) :
    splitParagraphs 0 (p ++ '\n' :: '\n' :: rest) = p :: splitParagraphs 0 rest := by
  induction p with
  | nil =>
    have size : breakSize ('\n' :: '\n' :: rest) = 1 + 1 := by simp [breakSize, isGap]
    rw [List.nil_append, splitParagraphs_break size, splitParagraphs]
  | cons c p ih =>
    have other : c ≠ '\n' := fun same => unbroken (same ▸ List.mem_cons_self)
    have later := ih fun member => unbroken (List.mem_cons_of_mem c member)
    rw [List.cons_append, splitParagraphs, breakSize_eq_zero other, later]

theorem splitParagraphs_unbroken (unbroken : '\n' ∉ p) : splitParagraphs 0 p = [p] := by
  induction p with
  | nil => rfl
  | cons c p ih =>
    have other : c ≠ '\n' := fun same => unbroken (same ▸ List.mem_cons_self)
    have later := ih fun member => unbroken (List.mem_cons_of_mem c member)
    rw [splitParagraphs, breakSize_eq_zero other, later]

/-! ## Paragraphs with single spaces -/

/-- Some words with single spaces between them. -/
structure IsParagraph (p : Text) : Prop where
  nonempty : p ≠ []
  spaced : oneSpaced p = p

theorem IsParagraph.unbroken (isParagraph : IsParagraph p) : '\n' ∉ p := by
  intro member
  rw [← isParagraph.spaced] at member
  exact absurd (Text.eq_space_of_mem_oneSpaced member rfl) (by decide)

theorem IsParagraph.words_ne_nil (isParagraph : IsParagraph p) : words p ≠ [] := by
  intro none
  have empty := isParagraph.spaced
  rw [oneSpaced, none] at empty
  exact isParagraph.nonempty empty.symm

@[simp] theorem oneSpaced_oneSpaced (t : Text) : oneSpaced (oneSpaced t) = oneSpaced t := by
  rw [oneSpaced, Text.words_oneSpaced, ← oneSpaced]

/-- A collapsed text is a row of paragraphs, the same in both modes. -/
theorem collapse_paragraphs (t : Text) :
    ∃ ps, (∀ p ∈ ps, IsParagraph p) ∧ ∀ mode, collapse mode t = join mode.separator ps := by
  refine ⟨_, fun p member => ?_, fun _ => rfl⟩
  obtain ⟨listed, nonempty⟩ := List.mem_filter.mp member
  obtain ⟨raw, _, rfl⟩ := List.mem_map.mp listed
  exact ⟨by simpa using nonempty, oneSpaced_oneSpaced raw⟩

theorem splitParagraphs_join (given : ps ≠ []) (paragraphs : ∀ p ∈ ps, IsParagraph p) :
    splitParagraphs 0 (join ParagraphMode.paragraphs.separator ps) = ps := by
  induction ps with
  | nil => exact absurd rfl given
  | cons first more ih =>
    have ⟨here, later⟩ := List.forall_mem_cons.mp paragraphs
    cases more with
    | nil => rw [Text.join_singleton, splitParagraphs_unbroken here.unbroken]
    | cons second more =>
      rw [Text.join_cons_cons]
      exact (splitParagraphs_append_break here.unbroken _).trans
        (congrArg (first :: ·) (ih (List.cons_ne_nil _ _) later))

/-- Paragraphs joined by spaces are one paragraph. -/
theorem isParagraph_join (given : ps ≠ []) (paragraphs : ∀ p ∈ ps, IsParagraph p) :
    IsParagraph (join [' '] ps) := by
  have each : ∀ p ∈ ps, (joinWords ∘ words) p = id p :=
    fun p member => (paragraphs p member).spaced
  have rows : (ps.map words).map joinWords = ps := by
    rw [List.map_map, List.map_congr_left each, List.map_id]
  have inked : ∀ row ∈ ps.map words, row ≠ [] := by
    intro row member
    obtain ⟨p, listed, rfl⟩ := List.mem_map.mp member
    exact (paragraphs p listed).words_ne_nil
  -- the words of all paragraphs in a row, so that the join is read as words with single spaces
  have flat : join [' '] ps = joinWords (ps.map words).flatten := by
    rw [joinWords, ← Text.join_flatten inked]
    exact congrArg _ rows.symm
  have isWord : ∀ word ∈ (ps.map words).flatten, IsWord word := by
    intro word member
    obtain ⟨row, listed, inside⟩ := List.mem_flatten.mp member
    obtain ⟨p, _, rfl⟩ := List.mem_map.mp listed
    exact Text.isWord_of_mem inside
  constructor
  case nonempty =>
    intro empty
    have read := Text.words_joinWords isWord
    rw [← flat, empty] at read
    obtain ⟨p, listed⟩ := List.exists_mem_of_ne_nil ps given
    have listed := List.mem_map_of_mem (f := words) listed
    exact inked _ listed (List.flatten_eq_nil_iff.mp read.symm _ listed)
  case spaced => rw [flat, oneSpaced, Text.words_joinWords isWord]

theorem collapse_eq_join (cut : splitParagraphs 0 t = ps) (paragraphs : ∀ p ∈ ps, IsParagraph p) :
    collapse mode t = join mode.separator ps := by
  have spaced : ps.map oneSpaced = ps := by
    rw [List.map_congr_left fun p member => (paragraphs p member).spaced, List.map_id']
  have nonempty : ps.filter (fun p => !p.isEmpty) = ps :=
    List.filter_eq_self.mpr fun p member => by simp [(paragraphs p member).nonempty]
  rw [collapse, cut, spaced, nonempty]

@[simp] theorem collapse_nil (mode : ParagraphMode) : collapse mode [] = [] := by
  cases mode <;> rfl

/-- A row of paragraphs is collapsed already. -/
theorem collapse_join (mode : ParagraphMode) (paragraphs : ∀ p ∈ ps, IsParagraph p) :
    collapse mode (join mode.separator ps) = join mode.separator ps := by
  by_cases given : ps = []
  · subst given
    exact collapse_nil mode
  · cases mode with
    | joined =>
      -- joined by spaces the paragraphs are one, and it has no break in it
      have whole := isParagraph_join given paragraphs
      have cut := splitParagraphs_unbroken whole.unbroken
      exact (collapse_eq_join cut (by simpa using whole)).trans (Text.join_singleton _)
    | paragraphs => exact collapse_eq_join (splitParagraphs_join given paragraphs) paragraphs

/-- Collapsing white space a second time changes nothing. -/
@[simp] theorem collapse_collapse (mode : ParagraphMode) (t : Text) :
    collapse mode (collapse mode t) = collapse mode t := by
  obtain ⟨ps, paragraphs, same⟩ := collapse_paragraphs t
  rw [same, collapse_join mode paragraphs]

/-! ## What collapsing keeps -/

theorem content_separator (mode : ParagraphMode) : content mode.separator = [] := by
  cases mode <;> rfl

/-- Empty paragraphs have no content. -/
theorem content_filter (ps : List Text) :
    ((ps.filter fun p => !p.isEmpty).map content).flatten = (ps.map content).flatten := by
  induction ps with
  | nil => rfl
  | cons p ps ih => cases p <;> simp [ih, content]

@[simp] theorem content_collapse (mode : ParagraphMode) (t : Text) :
    content (collapse mode t) = content t := by
  have spaced : content ∘ oneSpaced = content := funext Text.content_oneSpaced
  rw [collapse, Text.content_join (content_separator mode), content_filter, List.map_map, spaced,
    content_splitParagraphs]

theorem sum_oneSpaced_le (ps : List Text) (width : Nat) :
    (((ps.map oneSpaced).filter fun p => !p.isEmpty).map fun p => p.length + width).sum ≤
      (ps.map fun p => p.length + width).sum := by
  induction ps with
  | nil => exact Nat.le_refl 0
  | cons p ps ih =>
    have shorter := Text.length_oneSpaced_le p
    rw [List.map_cons, List.filter_cons]
    split <;> simp only [List.map_cons, List.sum_cons] <;> omega

theorem length_collapse_le (mode : ParagraphMode) (t : Text) :
    (collapse mode t).length ≤ t.length := by
  have narrow : mode.separator.length ≤ 2 := by cases mode <;> decide
  have paid := sum_splitParagraphs_le narrow t
  have := sum_oneSpaced_le (splitParagraphs 0 t) mode.separator.length
  rw [collapse, Text.length_join]
  omega

/-- The white space of a collapsed text is spaces and line feeds. -/
theorem blank_of_mem_collapse (member : c ∈ collapse mode t) (blank : isBlank c = true) :
    c = ' ' ∨ c = '\n' := by
  obtain ⟨ps, paragraphs, same⟩ := collapse_paragraphs t
  rw [same] at member
  rcases Text.mem_join member with between | ⟨p, listed, inside⟩
  · cases mode <;> simp_all [ParagraphMode.separator]
  · rw [← (paragraphs p listed).spaced] at inside
    exact Or.inl (Text.eq_space_of_mem_oneSpaced inside blank)

/-! ## Joined paragraphs -/

theorem words_filter (ps : List Text) :
    (ps.filter fun p => !p.isEmpty).flatMap words = ps.flatMap words := by
  induction ps with
  | nil => rfl
  | cons p ps ih => cases p <;> simp [ih]

theorem words_collapse (t : Text) : words (collapse .joined t) = words t := by
  have spaced : words ∘ oneSpaced = words := funext Text.words_oneSpaced
  rw [collapse, ParagraphMode.separator, Text.words_join rfl, words_filter, List.flatMap_map]
  exact (congrArg (List.flatMap · _) spaced).trans (words_splitParagraphs t)

/-- In joined mode a text is collapsed as if it had no paragraphs. -/
theorem collapse_joined (t : Text) : collapse .joined t = oneSpaced t := by
  have spaced : oneSpaced (collapse .joined t) = collapse .joined t := by
    obtain ⟨ps, paragraphs, same⟩ := collapse_paragraphs t
    rw [same]
    by_cases given : ps = []
    · simp [given, ParagraphMode.separator, Text.join, oneSpaced, joinWords]
    · exact (isParagraph_join given paragraphs).spaced
  rw [← spaced, oneSpaced, words_collapse, ← oneSpaced]

end DreamJournal.Narrative
