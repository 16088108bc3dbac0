import DreamJournal.Proofs.Narrative.Paragraphs
import DreamJournal.Proofs.Text.Replacement

/-!
# Collapsing by replacement

White space can be collapsed without reading words: one space is put for every run of white space,
and the ends are trimmed. That gives the words with single spaces between them, for any mixture of
white space. A collapsed text is read in the same way, by its marks alone: cut at its empty lines it
falls into the paragraphs that were kept, and a space for each empty line joins them.
-/
namespace DreamJournal

namespace Text

variable {before other : Option Char} {c : Char} {front mark p rest t value word : Text}
  {ps : List Text} {pattern : Pattern}

/-- A run of white space, for which a space is put. -/
def blankRun : Pattern := fun _ here =>
  let size := (here.takeWhile isBlank).length
  if size = 0 then none else some ⟨size, [' ']⟩

/-- A mark, for which a value is put. -/
def literal (mark value : Text) : Pattern := fun _ here =>
  if mark.isPrefixOf here then some ⟨mark.length, value⟩ else none

/-- The pieces between the occurrences of a mark, `skip` characters of which are passed already. -/
def piecesFrom (mark : Text) : (skip : Nat) → Text → List Text
  | _, [] => [[]]
  | skip + 1, _ :: rest => piecesFrom mark skip rest
  | 0, c :: rest =>
    if mark.isPrefixOf (c :: rest) then [] :: piecesFrom mark (mark.length - 1) rest
    else
      match piecesFrom mark 0 rest with
      | [] => [[c]]
      | piece :: more => (c :: piece) :: more

/-- The pieces between empty lines. Where nothing is written, there is no piece either. -/
def betweenEmptyLines (t : Text) : List Text :=
  if t.isEmpty then [] else piecesFrom ['\n', '\n'] 0 t

/-! ## Replacement without a look back -/

namespace Pattern

/-- What a pattern finds does not depend on the character in front. -/
def LooksAhead (pattern : Pattern) : Prop := ∀ before other, pattern before = pattern other

theorem LooksAhead.replaceFrom_eq (ahead : pattern.LooksAhead) (skip : Nat)
    (before other : Option Char) (t : Text) :
    pattern.replaceFrom skip before t = pattern.replaceFrom skip other t := by
  cases t with
  | nil => rw [replaceFrom, replaceFrom]
  | cons c rest =>
    cases skip with
    | succ skip => rw [replaceFrom, replaceFrom]
    | zero => rw [replaceFrom, replaceFrom, ahead before other]

/-- A finding is replaced, and the walk goes on behind it. -/
theorem replaceAll_found (ahead : pattern.LooksAhead) (given : front ≠ [])
    (found : pattern none (front ++ rest) = some ⟨front.length, value⟩) :
    pattern.replaceAll (front ++ rest) = value ++ pattern.replaceAll rest := by
  rw [replaceAll, replaceFrom_found given found]
  exact congrArg (value ++ ·) (ahead.replaceFrom_eq 0 front.getLast? none rest)

/-- What is found nowhere is kept. -/
theorem replaceAll_kept (ahead : pattern.LooksAhead)
    (absent : ∀ c more, c ∈ front → pattern none (c :: more) = none) :
    pattern.replaceAll (front ++ rest) = front ++ pattern.replaceAll rest := by
  induction front with
  | nil => rfl
  | cons c front ih =>
    have here := absent c (front ++ rest) List.mem_cons_self
    have later := ih fun d more member => absent d more (List.mem_cons_of_mem c member)
    rw [replaceAll, List.cons_append, replaceFrom, here]
    exact congrArg (c :: ·) ((ahead.replaceFrom_eq 0 (some c) none _).trans later)

end Pattern

/-! ## One space for a run of white space -/

theorem blankRun_looksAhead : blankRun.LooksAhead := fun _ _ => rfl

theorem replaceAll_blankRun_word (isWord : IsWord word) (rest : Text) :
    blankRun.replaceAll (word ++ rest) = word ++ blankRun.replaceAll rest := by
  refine Pattern.replaceAll_kept blankRun_looksAhead fun c more member => ?_
  rw [blankRun, List.takeWhile_cons_of_neg (by simp [isWord.unbroken c member])]
  rfl

theorem replaceAll_blankRun_blank (blank : isBlank c = true) (rest : Text) :
    blankRun.replaceAll (c :: rest) = ' ' :: blankRun.replaceAll (rest.dropWhile isBlank) := by
  have run : (c :: rest).takeWhile isBlank = c :: rest.takeWhile isBlank :=
    List.takeWhile_cons_of_pos blank
  have parts : c :: rest = (c :: rest.takeWhile isBlank) ++ rest.dropWhile isBlank := by
    rw [List.cons_append, List.takeWhile_append_dropWhile]
  have found : blankRun none (c :: rest) =
      some ⟨(c :: rest.takeWhile isBlank).length, [' ']⟩ := by
    rw [blankRun, run]
    rfl
  rw [parts] at found
  rw [parts, Pattern.replaceAll_found blankRun_looksAhead (List.cons_ne_nil _ _) found]
  rfl

/-- A text that begins with a word still does. -/
theorem head?_replaceAll_blankRun (inked : ∀ c ∈ t.head?, isBlank c = false) :
    ∀ c ∈ (blankRun.replaceAll t).head?, isBlank c = false := by
  cases t with
  | nil => exact inked
  | cons c rest =>
    have isWord : IsWord [c] := by
      refine ⟨List.cons_ne_nil c [], fun d member => ?_⟩
      rw [List.mem_singleton.mp member]
      exact inked c rfl
    have kept := replaceAll_blankRun_word isWord rest
    rw [List.singleton_append, List.singleton_append] at kept
    rw [kept]
    exact inked

/-- What is behind a word and a space is trimmed as if it stood alone. -/
theorem trim_word_space (isWord : IsWord word) (inked : ∀ c ∈ rest.head?, isBlank c = false) :
    trim (word ++ ' ' :: rest) =
      if trim rest = [] then word else word ++ ' ' :: trim rest := by
  obtain ⟨before, behind, parts, frontBlank, backBlank⟩ := exists_trim rest
  obtain rfl : before = [] := by
    cases before with
    | nil => rfl
    | cons c more =>
      -- the rest would begin with white space
      rw [parts] at inked
      have contradiction := frontBlank c List.mem_cons_self
      rw [inked c rfl] at contradiction
      cases contradiction
  have whole : word ++ ' ' :: rest = (word ++ ' ' :: trim rest) ++ behind := by
    conv_lhs => rw [parts]
    simp
  rw [whole, trim_append_blank backBlank]
  split
  next empty =>
    have space : ∀ c ∈ [' '], isBlank c = true := by simp [isBlank]
    rw [empty, trim_append_blank space, trim_eq_self isWord.unbroken]
  next given =>
    apply trimBoth_eq_self
    · intro c first
      rw [List.head?_append_of_ne_nil _ isWord.nonempty] at first
      exact isWord.unbroken c (List.mem_of_head? first)
    · intro c last
      rw [List.getLast?_append_of_ne_nil _ (List.cons_ne_nil _ _),
        List.getLast?_cons_of_ne_nil given] at last
      exact last_of_trimmed (trim_trim rest) c last

theorem joinWords_word (word t : Text) : joinWords (word :: words t) =
    if oneSpaced t = [] then word else word ++ ' ' :: oneSpaced t := by
  cases further : words t with
  | nil =>
    have none : oneSpaced t = [] := by
      rw [oneSpaced, further]
      rfl
    rw [if_pos none, joinWords, join_singleton]
  | cons next others =>
    have given : oneSpaced t ≠ [] := by
      intro none
      have read := words_oneSpaced t
      rw [none, further] at read
      cases read
    rw [if_neg given, joinWords, join_cons_cons, List.singleton_append, oneSpaced, further,
      joinWords]

/-- A space for every run of white space, and none at the ends: the words, with single spaces
between them. -/
theorem trim_replaceAll_blankRun (t : Text) : trim (blankRun.replaceAll t) = oneSpaced t := by
  induction t using words_induction with
  | nil => rfl
  | blank c rest blank ih =>
    have same : oneSpaced (c :: rest) = oneSpaced rest := by
      rw [oneSpaced, words_blank blank, ← oneSpaced]
    rw [same, ← ih, replaceAll_blankRun_blank blank, trim_cons_blank rfl]
    cases rest with
    | nil => rfl
    | cons d more =>
      by_cases further : isBlank d = true
      · rw [List.dropWhile_cons_of_pos further, replaceAll_blankRun_blank further,
          trim_cons_blank rfl]
      · rw [List.dropWhile_cons_of_neg further]
  | word word rest isWord edge ih =>
    rw [replaceAll_blankRun_word isWord, oneSpaced, words_word isWord edge]
    cases rest with
    | nil =>
      rw [words_nil, joinWords, join_singleton]
      exact (congrArg trim (List.append_nil word)).trans (trim_eq_self isWord.unbroken)
    | cons c more =>
      have blank : isBlank c = true := edge c rfl
      have starts : ∀ d ∈ (more.dropWhile isBlank).head?, isBlank d = false :=
        head?_dropWhile more
      have inked := head?_replaceAll_blankRun starts
      rw [replaceAll_blankRun_blank blank, trim_cons_blank rfl] at ih
      rw [replaceAll_blankRun_blank blank, trim_word_space isWord inked, ih, joinWords_word]

/-! ## Pieces joined by a mark

The first character of the mark stands in no piece, so the mark occurs where it was put and nowhere
else. -/

variable {m : Char} {more : Text}

theorem isPrefixOf_of_ne (other : c ≠ m) (rest : Text) :
    (m :: more).isPrefixOf (c :: rest) = false := by
  simp [List.isPrefixOf, other.symm]

theorem isPrefixOf_append (mark rest : Text) : mark.isPrefixOf (mark ++ rest) = true :=
  List.isPrefixOf_iff_prefix.mpr (List.prefix_append mark rest)

theorem replaceAll_literal_kept (absent : m ∉ p) (value rest : Text) :
    (literal (m :: more) value).replaceAll (p ++ rest) =
      p ++ (literal (m :: more) value).replaceAll rest := by
  refine Pattern.replaceAll_kept (fun _ _ => rfl) fun c behind member => ?_
  have other : c ≠ m := fun same => absent (same ▸ member)
  rw [literal, isPrefixOf_of_ne other]
  rfl

/-- Joined pieces are joined anew by what is put for the mark. -/
theorem replaceAll_literal_join (absent : ∀ p ∈ ps, m ∉ p) (value : Text) :
    (literal (m :: more) value).replaceAll (join (m :: more) ps) = join value ps := by
  induction ps with
  | nil => rfl
  | cons p ps ih =>
    have ⟨here, later⟩ := List.forall_mem_cons.mp absent
    cases ps with
    | nil =>
      rw [join_singleton, join_singleton]
      have kept : (literal (m :: more) value).replaceAll (p ++ []) = p ++ [] :=
        replaceAll_literal_kept here value []
      rwa [List.append_nil] at kept
    | cons next ps =>
      have found : literal (m :: more) value none ((m :: more) ++ join (m :: more) (next :: ps)) =
          some ⟨(m :: more).length, value⟩ := by
        rw [literal, isPrefixOf_append]
        rfl
      rw [join_cons_cons, replaceAll_literal_kept here,
        Pattern.replaceAll_found (fun _ _ => rfl) (List.cons_ne_nil m more) found, ih later,
        join_cons_cons]

theorem piecesFrom_passed (mark front rest : Text) :
    piecesFrom mark front.length (front ++ rest) = piecesFrom mark 0 rest := by
  induction front with
  | nil => rfl
  | cons c front ih => rw [List.length_cons, List.cons_append, piecesFrom, ih]

theorem piecesFrom_whole (absent : m ∉ p) : piecesFrom (m :: more) 0 p = [p] := by
  induction p with
  | nil => rfl
  | cons c p ih =>
    have other : c ≠ m := fun same => absent (same ▸ List.mem_cons_self)
    have later := ih fun member => absent (List.mem_cons_of_mem c member)
    rw [piecesFrom, isPrefixOf_of_ne other, later]
    rfl

theorem piecesFrom_append_mark (absent : m ∉ p) (rest : Text) :
    piecesFrom (m :: more) 0 (p ++ ((m :: more) ++ rest)) =
      p :: piecesFrom (m :: more) 0 rest := by
  induction p with
  | nil =>
    have behind := piecesFrom_passed (m :: more) more rest
    rw [List.nil_append, List.cons_append, piecesFrom, ← List.cons_append, isPrefixOf_append]
    exact congrArg ([] :: ·) behind
  | cons c p ih =>
    have other : c ≠ m := fun same => absent (same ▸ List.mem_cons_self)
    have later := ih fun member => absent (List.mem_cons_of_mem c member)
    rw [List.cons_append, piecesFrom, isPrefixOf_of_ne other, later]
    rfl

theorem piecesFrom_join (given : ps ≠ []) (absent : ∀ p ∈ ps, m ∉ p) :
    piecesFrom (m :: more) 0 (join (m :: more) ps) = ps := by
  induction ps with
  | nil => exact absurd rfl given
  | cons p ps ih =>
    have ⟨here, later⟩ := List.forall_mem_cons.mp absent
    cases ps with
    | nil => rw [join_singleton, piecesFrom_whole here]
    | cons next ps =>
      rw [join_cons_cons, piecesFrom_append_mark here, ih (List.cons_ne_nil _ _) later]

end Text

/-! ## Collapsed texts -/

namespace Narrative

open Text (oneSpaced join betweenEmptyLines blankRun literal)

variable {ps : List Text}

/-- Collapsing by replacement: a space is put for every run of white space in a paragraph, and the
paragraphs that are not empty when their ends are trimmed are joined. -/
theorem collapse_eq_replaced (mode : ParagraphMode) (t : Text) : collapse mode t =
    join mode.separator (((splitParagraphs 0 t).map fun block =>
      Text.trim (blankRun.replaceAll block)).filter fun p => !p.isEmpty) := by
  simp only [Text.trim_replaceAll_blankRun]
  rfl

theorem betweenEmptyLines_join (paragraphs : ∀ p ∈ ps, IsParagraph p) :
    betweenEmptyLines (join ParagraphMode.paragraphs.separator ps) = ps := by
  by_cases given : ps = []
  · subst given
    rfl
  · have whole : Text.piecesFrom ['\n', '\n'] 0 (join ['\n', '\n'] ps) = ps :=
      Text.piecesFrom_join given fun p listed => (paragraphs p listed).unbroken
    have written : (join ParagraphMode.paragraphs.separator ps).isEmpty = false := by
      obtain ⟨p, listed⟩ := List.exists_mem_of_ne_nil ps given
      obtain ⟨c, inside⟩ := List.exists_mem_of_ne_nil p (paragraphs p listed).nonempty
      exact List.isEmpty_eq_false_iff_exists_mem.mpr ⟨c, Text.mem_join_of_mem listed inside⟩
    rw [betweenEmptyLines, written]
    exact whole

/-- In joined mode only the words are left, with single spaces between them. Otherwise the text
falls into paragraphs at its empty lines, each of words with single spaces between them; it is
collapsed for good, and spaces instead of its empty lines make it the joined one. -/
theorem collapse_modes (t : Text) :
    collapse .joined t = oneSpaced t ∧
      collapse .paragraphs (collapse .paragraphs t) = collapse .paragraphs t ∧
      (∀ p ∈ betweenEmptyLines (collapse .paragraphs t), p ≠ [] ∧ oneSpaced p = p) ∧
      join ['\n', '\n'] (betweenEmptyLines (collapse .paragraphs t)) = collapse .paragraphs t ∧
      (literal ['\n', '\n'] [' ']).replaceAll (collapse .paragraphs t) = collapse .joined t ∧
      ∀ mode, collapse mode t = join mode.separator (((splitParagraphs 0 t).map fun block =>
        Text.trim (blankRun.replaceAll block)).filter fun p => !p.isEmpty) := by
  obtain ⟨ps, paragraphs, same⟩ := collapse_paragraphs t
  have read : betweenEmptyLines (collapse .paragraphs t) = ps := by
    rw [same, betweenEmptyLines_join paragraphs]
  refine ⟨collapse_joined t, collapse_collapse .paragraphs t, ?_, ?_, ?_,
    fun mode => collapse_eq_replaced mode t⟩
  · rw [read]
    exact fun p listed => ⟨(paragraphs p listed).nonempty, (paragraphs p listed).spaced⟩
  · rw [read, same]
    rfl
  · rw [same, same]
    exact Text.replaceAll_literal_join (fun p listed => (paragraphs p listed).unbroken) _

end Narrative
end DreamJournal
