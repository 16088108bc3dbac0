import DreamJournal.Text.Basic
import Mathlib.Algebra.Ring.Nat
import Mathlib.Data.List.Basic
import Mathlib.Data.List.TakeWhile

/-!
# Words and white space

A text is read as words with white space between them: `words_induction` is the induction that
follows this reading. What the words of a text spell is its content, which no change of the white
space touches, and the words of words joined by spaces are those words again.
-/
namespace DreamJournal.Text

open scoped List

variable {c : Char} {t rest word separator : Text} {ws pieces : List Text}

/-- The characters of a text that are not white space, in order. -/
def content (t : Text) : Text := t.filter fun c => !isBlank c

/-- At least one character and no white space. -/
structure IsWord (word : Text) : Prop where
  nonempty : word ≠ []
  unbroken : ∀ c ∈ word, isBlank c = false

/-- A text into which no word in front of it runs on. -/
def Edge (t : Text) : Prop := ∀ c ∈ t.head?, isBlank c = true

@[simp] theorem words_nil : words [] = [] := rfl

theorem words_blank (blank : isBlank c = true) : words (c :: rest) = words rest := by
  rw [words.eq_def]
  simp only [blank, if_true]

theorem words_word (isWord : IsWord word) (edge : Edge rest) :
    words (word ++ rest) = word :: words rest := by
  induction word with
  | nil => exact absurd rfl isWord.nonempty
  | cons c more ih =>
    have inked : isBlank c = false := isWord.unbroken c List.mem_cons_self
    cases more with
    | nil =>
      cases rest with
      | nil =>
        rw [List.append_nil, words.eq_def]
        simp [inked, words_nil]
      | cons next _ =>
        have blank : isBlank next = true := edge next rfl
        rw [List.singleton_append, words.eq_def]
        simp [inked, blank]
    | cons next more =>
      have unbroken : ∀ d ∈ next :: more, isBlank d = false :=
        fun d member => isWord.unbroken d (List.mem_cons_of_mem c member)
      have rest_eq := ih ⟨List.cons_ne_nil _ _, unbroken⟩
      rw [List.cons_append] at rest_eq
      rw [List.cons_append, List.cons_append, words.eq_def]
      simp [inked, unbroken next List.mem_cons_self, rest_eq]

theorem edge_dropWhile (t : Text) : Edge (t.dropWhile fun c => !isBlank c) := by
  intro c first
  have stopped := List.head?_dropWhile_not (fun c => !isBlank c) t
  rw [Option.mem_def.mp first] at stopped
  simpa using stopped

/-- Induction over a text as it is read: white space is passed over, and a word is taken whole. -/
@[elab_as_elim]
theorem words_induction {motive : Text → Prop} (nil : motive [])
    (blank : ∀ c rest, isBlank c = true → motive rest → motive (c :: rest))
    (word : ∀ word rest, IsWord word → Edge rest → motive rest → motive (word ++ rest))
    (t : Text) : motive t := by
  induction size : t.length using Nat.strongRecOn generalizing t with
  | ind n ih =>
    cases t with
    | nil => exact nil
    | cons c rest =>
      rw [List.length_cons] at size
      by_cases isSpace : isBlank c = true
      · exact blank c rest isSpace (ih rest.length (by omega) rest rfl)
      · have inked : isBlank c = false := by simpa using isSpace
        have isWord : IsWord (c :: rest.takeWhile fun d => !isBlank d) := by
          refine ⟨List.cons_ne_nil _ _, fun d member => ?_⟩
          rcases List.mem_cons.mp member with rfl | later
          · exact inked
          · simpa using List.mem_takeWhile_imp later
        have shorter : (rest.dropWhile fun d => !isBlank d).length ≤ rest.length :=
          (List.dropWhile_sublist _).length_le
        have parts := word _ _ isWord (edge_dropWhile rest) (ih _ (by omega) _ rfl)
        rwa [List.cons_append, List.takeWhile_append_dropWhile] at parts

/-! ## Content -/

theorem content_append (front back : Text) :
    content (front ++ back) = content front ++ content back :=
  List.filter_append ..

theorem content_blank (blank : isBlank c = true) : content (c :: rest) = content rest := by
  simp [content, blank]

theorem IsWord.content (isWord : IsWord word) : Text.content word = word :=
  List.filter_eq_self.mpr fun c member => by simp [isWord.unbroken c member]

theorem content_sublist (kept : t <+ rest) : content t <+ content rest := kept.filter _

theorem content_length_le (kept : t <+ rest) : (content t).length ≤ (content rest).length :=
  (content_sublist kept).length_le

/-- A text that lost a character which is not white space has less content. -/
theorem content_length_lt (front back : Text) (inked : isBlank c = false) (member : c ∈ t) :
    (content (front ++ back)).length < (content (front ++ t ++ back)).length := by
  have kept : 0 < (content t).length :=
    List.length_pos_of_mem (List.mem_filter.mpr ⟨member, by simp [inked]⟩)
  simp only [content_append, List.length_append]
  omega

theorem flatten_words (t : Text) : (words t).flatten = content t := by
  induction t using words_induction with
  | nil => rfl
  | blank c rest isSpace ih => rw [words_blank isSpace, content_blank isSpace, ih]
  | word word rest isWord edge ih =>
    rw [words_word isWord edge, List.flatten_cons, ih, content_append, isWord.content]

theorem isWord_of_mem (member : word ∈ words t) : IsWord word := by
  induction t using words_induction with
  | nil => exact absurd member List.not_mem_nil
  | blank c rest isSpace ih =>
    rw [words_blank isSpace] at member
    exact ih member
  | word first rest isWord edge ih =>
    rw [words_word isWord edge] at member
    rcases List.mem_cons.mp member with rfl | later
    · exact isWord
    · exact ih later

/-! ## Joining -/

theorem join_cons_cons (first second : Text) :
    join separator (first :: second :: pieces) =
      first ++ (separator ++ join separator (second :: pieces)) := by
  rw [join, List.intercalate_cons_cons, List.append_assoc, join]

@[simp] theorem join_singleton (piece : Text) : join separator [piece] = piece :=
  List.intercalate_singleton

/-- A separator of two characters leaves the second one in front of the pieces. -/
theorem join_pair (a b : Char) (first : Text) (rest : List Text) :
    join [a, b] (first :: rest) = join [a] (first :: rest.map (b :: ·)) := by
  induction rest generalizing first with
  | nil => rw [List.map_nil, join_singleton, join_singleton]
  | cons second rest ih =>
    rw [List.map_cons, join_cons_cons, join_cons_cons, ih second]
    cases rest with
    | nil => simp
    | cons third rest => simp [join_cons_cons]

theorem join_append {front back : List Text} (first : front ≠ []) (second : back ≠ []) :
    join separator (front ++ back) =
      join separator front ++ (separator ++ join separator back) := by
  induction front with
  | nil => exact absurd rfl first
  | cons piece front ih =>
    cases front with
    | nil =>
      obtain ⟨next, back, rfl⟩ := List.exists_cons_of_ne_nil second
      rw [List.singleton_append, join_cons_cons, join_singleton]
    | cons next front =>
      rw [List.cons_append, List.cons_append, join_cons_cons, ← List.cons_append,
        ih (List.cons_ne_nil _ _), join_cons_cons]
      simp only [List.append_assoc]

theorem map_join (f : Char → Char) (pieces : List Text) :
    (join separator pieces).map f = join (separator.map f) (pieces.map (List.map f)) := by
  induction pieces with
  | nil => rfl
  | cons first rest ih =>
    cases rest with
    | nil => rw [List.map_singleton, join_singleton, join_singleton]
    | cons second rest =>
      rw [List.map_cons] at ih
      rw [List.map_cons, List.map_cons, join_cons_cons, join_cons_cons, List.map_append,
        List.map_append, ih]

theorem head?_join {first : Text} (given : first ≠ []) (rest : List Text) :
    (join separator (first :: rest)).head? = first.head? := by
  cases rest with
  | nil => rw [join_singleton]
  | cons second rest => rw [join_cons_cons, List.head?_append_of_ne_nil _ given]

theorem getLast?_join {last : Text} (given : last ≠ []) (front : List Text) :
    (join separator (front ++ [last])).getLast? = last.getLast? := by
  by_cases alone : front = []
  · rw [alone, List.nil_append, join_singleton]
  · rw [join_append alone (List.cons_ne_nil last []), join_singleton, ← List.append_assoc,
      List.getLast?_append_of_ne_nil _ given]

/-- Joining rows of pieces that are joined already. -/
theorem join_flatten {rows : List (List Text)} (given : ∀ row ∈ rows, row ≠ []) :
    join separator (rows.map (join separator)) = join separator rows.flatten := by
  induction rows with
  | nil => rfl
  | cons row rows ih =>
    have ⟨here, later⟩ := List.forall_mem_cons.mp given
    cases rows with
    | nil => rw [List.map_singleton, join_singleton, List.flatten_singleton]
    | cons next rows =>
      have more : (next :: rows).flatten ≠ [] := by
        rw [List.flatten_cons]
        exact List.append_ne_nil_of_left_ne_nil (later next List.mem_cons_self) _
      rw [List.flatten_cons, join_append here more, ← ih later, List.map_cons, List.map_cons,
        join_cons_cons]

theorem content_join (blank : content separator = []) (pieces : List Text) :
    content (join separator pieces) = (pieces.map content).flatten := by
  induction pieces with
  | nil => rfl
  | cons first rest ih =>
    cases rest with
    | nil => simp [join_singleton]
    | cons second rest =>
      rw [join_cons_cons, content_append, content_append, blank, ih, List.nil_append,
        ← List.flatten_cons, ← List.map_cons]

theorem length_join (separator : Text) (pieces : List Text) :
    (join separator pieces).length =
      (pieces.map fun piece => piece.length + separator.length).sum - separator.length := by
  induction pieces with
  | nil => simp [join]
  | cons first rest ih =>
    cases rest with
    | nil => simp [join_singleton]
    | cons second rest =>
      simp only [join_cons_cons, List.length_append, ih, List.map_cons, List.sum_cons]
      omega

theorem mem_join (member : c ∈ join separator pieces) :
    c ∈ separator ∨ ∃ piece ∈ pieces, c ∈ piece := by
  induction pieces with
  | nil => exact absurd member List.not_mem_nil
  | cons first rest ih =>
    cases rest with
    | nil => exact Or.inr ⟨first, List.mem_cons_self, join_singleton first ▸ member⟩
    | cons second rest =>
      rw [join_cons_cons, List.mem_append, List.mem_append] at member
      rcases member with here | between | later
      · exact Or.inr ⟨first, List.mem_cons_self, here⟩
      · exact Or.inl between
      · rcases ih later with between | ⟨piece, listed, inside⟩
        · exact Or.inl between
        · exact Or.inr ⟨piece, List.mem_cons_of_mem first listed, inside⟩

theorem mem_join_of_mem {piece : Text} (listed : piece ∈ pieces) (inside : c ∈ piece) :
    c ∈ join separator pieces := by
  induction pieces with
  | nil => exact absurd listed List.not_mem_nil
  | cons first rest ih =>
    cases rest with
    | nil =>
      rw [join_singleton, ← List.mem_singleton.mp listed]
      exact inside
    | cons second rest =>
      rw [join_cons_cons, List.mem_append, List.mem_append]
      rcases List.mem_cons.mp listed with rfl | later
      · exact Or.inl inside
      · exact Or.inr (Or.inr (ih later))

/-- White space between two texts keeps their words apart. -/
theorem words_append_blank (blank : isBlank c = true) (front back : Text) :
    words (front ++ c :: back) = words front ++ words back := by
  induction front using words_induction with
  | nil => exact words_blank blank
  | blank d rest isSpace ih => rw [List.cons_append, words_blank isSpace, words_blank isSpace, ih]
  | word word rest isWord edge ih =>
    have behind : Edge (rest ++ c :: back) := by
      intro d first
      cases rest with
      | nil => exact Option.some.inj first ▸ blank
      | cons e rest => exact edge d first
    rw [List.append_assoc, words_word isWord behind, words_word isWord edge, ih, List.cons_append]

theorem words_join (blank : isBlank c = true) (pieces : List Text) :
    words (join [c] pieces) = pieces.flatMap words := by
  induction pieces with
  | nil => rfl
  | cons first rest ih =>
    cases rest with
    | nil => rw [join_singleton, List.flatMap_singleton]
    | cons second rest =>
      rw [join_cons_cons, List.singleton_append, words_append_blank blank, ih,
        List.flatMap_cons (x := first)]

theorem IsWord.words_eq (isWord : IsWord word) : words word = [word] := by
  have alone := words_word isWord (show Edge [] by simp [Edge])
  rwa [List.append_nil] at alone

theorem words_joinWords (isWord : ∀ word ∈ ws, IsWord word) : words (joinWords ws) = ws := by
  rw [joinWords, words_join rfl]
  induction ws with
  | nil => rfl
  | cons first rest ih =>
    have ⟨here, later⟩ := List.forall_mem_cons.mp isWord
    rw [List.flatMap_cons, here.words_eq, ih later, List.singleton_append]

theorem words_eq_nil (blank : ∀ c ∈ t, isBlank c = true) : words t = [] := by
  induction t with
  | nil => rfl
  | cons c rest ih =>
    have ⟨here, later⟩ := List.forall_mem_cons.mp blank
    rw [words_blank here, ih later]

theorem words_dropWhile (t : Text) : words (t.dropWhile isBlank) = words t := by
  induction t with
  | nil => rfl
  | cons c rest ih =>
    by_cases blank : isBlank c = true
    · rw [List.dropWhile_cons_of_pos blank, words_blank blank, ih]
    · rw [List.dropWhile_cons_of_neg blank]

theorem words_ne_nil (inked : isAllBlank t = false) : words t ≠ [] := by
  intro none
  have nothing : content t = [] := by rw [← flatten_words, none, List.flatten_nil]
  rw [content, List.filter_eq_nil_iff] at nothing
  rw [isAllBlank, List.all_eq_false] at inked
  obtain ⟨c, member, shows⟩ := inked
  exact nothing c member (by simpa using shows)

theorem mem_of_mem_words (listed : word ∈ words t) (inside : c ∈ word) : c ∈ t := by
  have member : c ∈ (words t).flatten := List.mem_flatten_of_mem listed inside
  rw [flatten_words] at member
  exact (List.mem_filter.mp member).1

/-! ## Single spaces -/

@[simp] theorem words_oneSpaced (t : Text) : words (oneSpaced t) = words t :=
  words_joinWords fun _ member => isWord_of_mem member

@[simp] theorem content_oneSpaced (t : Text) : content (oneSpaced t) = content t := by
  rw [← flatten_words, words_oneSpaced, flatten_words]

theorem eq_space_of_mem_oneSpaced (member : c ∈ oneSpaced t) (blank : isBlank c = true) :
    c = ' ' := by
  rcases mem_join member with between | ⟨word, listed, inside⟩
  · exact List.mem_singleton.mp between
  · rw [(isWord_of_mem listed).unbroken c inside] at blank
    exact absurd blank Bool.false_ne_true

/-- Every word but the last pays for the space behind it with white space of the text. -/
theorem sum_words_le (t : Text) :
    ((words t).map fun word => word.length + 1).sum ≤ t.length + 1 ∧
      (Edge t → ((words t).map fun word => word.length + 1).sum ≤ t.length) := by
  induction t using words_induction with
  | nil => simp [words_nil]
  | blank c rest isSpace ih =>
    rw [words_blank isSpace, List.length_cons]
    omega
  | word word rest isWord edge ih =>
    have paid := ih.2 edge
    rw [words_word isWord edge, List.map_cons, List.sum_cons, List.length_append]
    refine ⟨by omega, fun starts => ?_⟩
    -- a text that begins with a word has no edge in front of it
    obtain ⟨c, more, rfl⟩ := List.exists_cons_of_ne_nil isWord.nonempty
    have blank := starts c rfl
    rw [isWord.unbroken c List.mem_cons_self] at blank
    exact absurd blank Bool.false_ne_true

theorem length_oneSpaced_le (t : Text) : (oneSpaced t).length ≤ t.length := by
  have paid := (sum_words_le t).1
  rw [oneSpaced, joinWords, length_join]
  simp only [List.length_singleton]
  omega

end DreamJournal.Text
