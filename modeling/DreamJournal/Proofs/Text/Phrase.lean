import DreamJournal.Proofs.Text.Letters
import DreamJournal.Proofs.Text.Splitting
import DreamJournal.Proofs.Text.Words

/-!
# Phrases

A text of letters and white space holds no mark that a rule on notes could look for. A phrase is
such a text in its plainest form: words of letters with single spaces between them.
-/
namespace DreamJournal

variable {c mark : Char} {t rest : Text} {drop : Char → Bool}

/-- Nothing but letters and white space. -/
def Text.IsLettered (t : Text) : Prop := ∀ c ∈ t, c.isAlpha = true ∨ isBlank c = true

structure Phrase where
  words : List Text
  given : words ≠ []
  lettered : ∀ word ∈ words, word ≠ [] ∧ ∀ c ∈ word, c.isAlpha = true

/-- The phrase of some words, when they are checked by computation. -/
def Phrase.ofWords (words : List Text) (given : words.isEmpty = false)
    (lettered : (words.all fun word => !word.isEmpty && word.all Char.isAlpha) = true) :
    Phrase where
  words := words
  given := by simpa using given
  lettered := by simpa using lettered

def Phrase.text (p : Phrase) : Text := Text.joinWords p.words

/-! ## Letters and white space -/

namespace Text.IsLettered

theorem tail (lettered : IsLettered (c :: rest)) : IsLettered rest :=
  fun d member => lettered d (List.mem_cons_of_mem c member)

theorem not_mem (lettered : t.IsLettered) (noLetter : mark.isAlpha = false)
    (inked : isBlank mark = false) : mark ∉ t := by
  intro member
  have known := lettered mark member
  simp [noLetter, inked] at known

theorem ne_head (lettered : IsLettered (c :: rest)) (noLetter : mark.isAlpha = false)
    (inked : isBlank mark = false) : c ≠ mark := by
  rintro rfl
  exact lettered.not_mem noLetter inked List.mem_cons_self

theorem join {separator : Text} {pieces : List Text} (between : separator.IsLettered)
    (lettered : ∀ piece ∈ pieces, piece.IsLettered) : (Text.join separator pieces).IsLettered := by
  intro c member
  rcases mem_join member with edge | ⟨piece, listed, inside⟩
  · exact between c edge
  · exact lettered piece listed c inside

theorem space : IsLettered [' '] := by
  intro c member
  rw [List.mem_singleton.mp member]
  exact .inr rfl

theorem oneSpaced (lettered : t.IsLettered) : (Text.oneSpaced t).IsLettered :=
  join space fun _ listed c inside => lettered c (mem_of_mem_words listed inside)

end Text.IsLettered

/-! ## Phrases as texts -/

namespace Phrase

variable {p : Phrase} {word : Text}

theorem isWord (p : Phrase) (listed : word ∈ p.words) : Text.IsWord word := by
  obtain ⟨nonempty, letters⟩ := p.lettered word listed
  refine ⟨nonempty, fun c inside => ?_⟩
  exact Text.isBlank_of_isAlphanum (Text.isAlphanum_of_isAlpha (letters c inside))

@[simp] theorem words_text (p : Phrase) : Text.words p.text = p.words :=
  Text.words_joinWords fun _ listed => p.isWord listed

@[simp] theorem oneSpaced_text (p : Phrase) : Text.oneSpaced p.text = p.text := by
  rw [Text.oneSpaced, words_text, text]

theorem mem_text (member : c ∈ p.text) : c.isAlpha = true ∨ c = ' ' := by
  rcases Text.mem_join member with space | ⟨word, listed, inside⟩
  · exact .inr (List.mem_singleton.mp space)
  · exact .inl ((p.lettered word listed).2 c inside)

theorem isLettered_text (p : Phrase) : p.text.IsLettered := by
  intro c member
  rcases mem_text member with letter | rfl
  · exact .inl letter
  · exact .inr rfl

/-- No mark but the space stands in a phrase, white space of other kinds included. -/
theorem not_mem_text (p : Phrase) (noLetter : mark.isAlpha = false) (noSpace : mark ≠ ' ') :
    mark ∉ p.text := by
  intro member
  rcases mem_text member with letter | space
  · rw [noLetter] at letter
    cases letter
  · exact noSpace space

theorem head_text (p : Phrase) : ∃ c ∈ p.text.head?, c.isAlphanum = true := by
  obtain ⟨first, rest, parts⟩ := List.exists_cons_of_ne_nil p.given
  obtain ⟨nonempty, letters⟩ := p.lettered first (parts ▸ List.mem_cons_self)
  rw [text, parts, Text.joinWords, Text.head?_join nonempty, List.head?_eq_some_head nonempty]
  exact ⟨_, rfl, Text.isAlphanum_of_isAlpha (letters _ (List.head_mem nonempty))⟩

theorem last_text (p : Phrase) : ∃ c ∈ p.text.getLast?, c.isAlphanum = true := by
  obtain ⟨front, last, parts⟩ := p.words.eq_nil_or_concat'.resolve_left p.given
  obtain ⟨nonempty, letters⟩ := p.lettered last (parts ▸ by simp)
  rw [text, parts, Text.joinWords, Text.getLast?_join nonempty,
    List.getLast?_eq_some_getLast nonempty]
  exact ⟨_, rfl, Text.isAlphanum_of_isAlpha (letters _ (List.getLast_mem nonempty))⟩

theorem text_ne_nil (p : Phrase) : p.text ≠ [] := by
  obtain ⟨c, first, _⟩ := p.head_text
  rintro empty
  rw [empty] at first
  cases first

theorem isLine_text (p : Phrase) : Text.IsLine p.text := by
  refine ⟨p.text_ne_nil, fun c member => ?_⟩
  rcases mem_text member with letter | rfl
  · exact Text.isLineBreak_of_isAlphanum (Text.isAlphanum_of_isAlpha letter)
  · rfl

/-- Nothing is taken from the ends of a phrase that is no letter. -/
theorem trimBoth_text (p : Phrase) (keeps : ∀ c, c.isAlphanum = true → drop c = false) :
    Text.trimBoth drop p.text = p.text :=
  Text.trimBoth_eq_self (Text.forall_of_exists p.head_text keeps)
    (Text.forall_of_exists p.last_text keeps)

@[simp] theorem trim_text (p : Phrase) : Text.trim p.text = p.text :=
  p.trimBoth_text fun _ => Text.isBlank_of_isAlphanum

/-! ## Phrases on lines of their own -/

theorem isLettered_joinLines (ps : List Phrase) :
    (Text.joinLines (ps.map text)).IsLettered := by
  have feed : Text.IsLettered ['\n'] := by
    intro c member
    rw [List.mem_singleton.mp member]
    exact .inr rfl
  refine feed.join fun piece listed => ?_
  obtain ⟨p, _, rfl⟩ := List.mem_map.mp listed
  exact p.isLettered_text

theorem words_joinLines (ps : List Phrase) :
    Text.words (Text.joinLines (ps.map text)) = ps.flatMap words := by
  rw [Text.joinLines, Text.words_join rfl, List.flatMap_map]
  simp only [words_text]

end Phrase
end DreamJournal
