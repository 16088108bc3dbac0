import DreamJournal.Proofs.Callout.Outline
import DreamJournal.Proofs.Narrative.Idempotence
import DreamJournal.Proofs.Narrative.Lettered
import DreamJournal.Proofs.Text.Case

/-!
# Narratives written as phrases

A phrase is a plain line, and one behind quote markers becomes one. So a body that consists of
quoted phrases up to the metrics callout is cleaned to the words of its phrases, and a header that
is a phrase is its own title.
-/
namespace DreamJournal

open Text (joinLines joinWords splitOn)

variable {kind t : Text} {depth : Nat}

/-! ## The tag of a callout -/

namespace Narrative

/-- A header carries the tag of its own kind. -/
theorem carriesTag_written (depth : Nat) (tag : Tag) :
    carriesTag tag.kind (quoted depth tag.written) = true := by
  have here : tagAt tag.kind tag.written = true := by
    simp [tagAt, Tag.written, Text.afterAnyCase?_append]
  have carried := carriesTag_append (List.replicate depth '>' ++ [' ']) here
  rwa [List.append_assoc] at carried

/-! ## Phrases as lines -/

theorem plain_phrase (kind : Text) (p : Phrase) : Plain kind p.text := by
  obtain ⟨c, first, letter⟩ := p.head_text
  obtain ⟨rest, starts⟩ := List.head?_eq_some_iff.mp first
  have noGap : Text.isGap c = false := Text.isGap_of_isAlphanum letter
  have other (mark : Char) (noLetter : mark.isAlphanum = false) : c ≠ mark :=
    Text.ne_of_isAlphanum letter noLetter
  constructor
  case untagged => exact carriesTag_eq_false (p.not_mem_text rfl (by decide))
  case unquoted => simp [starts, Marker.count, Text.isPart_of_isAlphanum letter]
  case unreferenced => exact split?_eq_none (p.not_mem_text rfl (by decide))
  case unfenced =>
    rw [starts, isFence, List.dropWhile_cons_of_neg (by simp [noGap])]
    split
    next same =>
      -- three marks in a row would have to begin with one
      obtain ⟨rfl, _⟩ := List.cons.inj same
      simp [other '\x60' rfl, other '~' rfl]
    next => rfl
  case unheaded => simp [starts, isHeading, noGap, other '#' rfl]
  case unruled =>
    have trimmed : Text.trimBoth Text.isGap p.text = p.text :=
      p.trimBoth_text fun _ => Text.isGap_of_isAlphanum
    rw [isRule, trimmed, starts]
    simp [other '-' rfl, other '*' rfl, other '_' rfl]

theorem lineStages_phrase (p : Phrase) : ∀ stage ∈ lineStages, stage p.text = p.text :=
  (plain_iff.mp (plain_phrase [] p)).2

/-- The line rules take the quote markers off a phrase and nothing else. -/
theorem applyEach_quoted (given : depth ≠ 0) (p : Phrase) :
    applyEach lineStages (quoted depth p.text) = p.text := by
  have starts : ∀ c ∈ p.text.head?, Marker.isPart c = false :=
    Text.forall_of_exists p.head_text fun _ => Text.isPart_of_isAlphanum
  have stripped : Marker.strip (quoted depth p.text) = p.text := strip_quoted given starts
  have undirected : emptyIf isDirective (quoted depth p.text) = quoted depth p.text := by
    have bracket : '[' ∉ p.text := p.not_mem_text rfl (by decide)
    refine if_neg ?_
    rw [isDirective, stripped]
    split
    next same => exact absurd (same ▸ List.mem_cons_self) bracket
    next => simp
  have unreferenced : Reference.removeFromLine (quoted depth p.text) = quoted depth p.text :=
    removeFromLine_eq_self
      (not_mem_quoted (by decide) (by decide) (p.not_mem_text rfl (by decide)))
  have plain := lineStages_phrase p
  simp only [lineStages, List.forall_mem_cons] at plain
  obtain ⟨_, _, _, unfenced, unheaded, unruled, _⟩ := plain
  simp only [lineStages, applyEach, List.foldl_cons, List.foldl_nil, undirected, unreferenced,
    stripped, unfenced, unheaded, unruled]

/-! ## Bodies of phrases -/

theorem isLine_phrase (depth : Nat) (p : Phrase) : Text.IsLine (quoted depth p.text) :=
  isLine_quoted p.isLine_text.unbroken

theorem lineRules_nil : lineRules [] = [] := by
  have trim : ∀ rule ∈ lineStages.map mapLines, Trims rule :=
    fun rule listed => preparations_trim [] rule (List.mem_cons_of_mem _ listed)
  rw [lineRules_eq]
  exact List.sublist_nil.mp ((applyEach_trims trim).kept [])

theorem lineRules_quoted (given : depth ≠ 0) (ps : List Phrase) :
    lineRules (joinLines (ps.map fun p => quoted depth p.text)) =
      joinLines (ps.map Phrase.text) := by
  by_cases none : ps = []
  · rw [none]
    exact lineRules_nil
  · have unbroken : ∀ line ∈ ps.map fun p => quoted depth p.text, '\n' ∉ line := by
      intro line member
      obtain ⟨p, _, rfl⟩ := List.mem_map.mp member
      exact (isLine_phrase depth p).not_mem rfl
    have each : (applyEach lineStages ∘ fun p : Phrase => quoted depth p.text) = Phrase.text :=
      funext fun p => by rw [Function.comp_apply, applyEach_quoted given]
    rw [lineRules_eq, applyEach_mapLines lineStages_trim (by simpa using none) unbroken,
      List.map_map, each]

/-- A body of quoted phrases in front of the metrics is cleaned to the words of the phrases. -/
theorem clean_quoted (given : depth ≠ 0) (ps : List Phrase) {header : Text} {behind : List Text}
    (tagged : carriesTag kind header = true)
    (areLines : ∀ line ∈ header :: behind, Text.IsLine line) :
    clean kind .joined (joinLines ((ps.map fun p => quoted depth p.text) ++ header :: behind)) =
      joinWords (ps.flatMap Phrase.words) := by
  have isLine : ∀ line ∈ (ps.map fun p => quoted depth p.text) ++ header :: behind,
      Text.IsLine line := by
    intro line member
    rcases List.mem_append.mp member with phrase | further
    · obtain ⟨p, _, rfl⟩ := List.mem_map.mp phrase
      exact isLine_phrase depth p
    · exact areLines line further
  have unreturned :
      '\r' ∉ joinLines ((ps.map fun p => quoted depth p.text) ++ header :: behind) := by
    intro member
    rcases Text.mem_join member with feed | ⟨line, listed, inside⟩
    · exact absurd feed (by decide)
    · exact (isLine line listed).not_mem rfl inside
  have untagged : ∀ line ∈ ps.map fun p => quoted depth p.text, carriesTag kind line = false := by
    intro line listed
    obtain ⟨p, _, rfl⟩ := List.mem_map.mp listed
    exact carriesTag_eq_false
      (not_mem_quoted (by decide) (by decide) (p.not_mem_text rfl (by decide)))
  have parts := Text.splitOn_joinLines (List.append_ne_nil_of_right_ne_nil _
    (List.cons_ne_nil header behind)) fun line listed => (isLine line listed).not_mem rfl
  -- cut at the header, the body is phrases alone, and the inline rules leave letters as they are
  rw [clean, cleanWithBoundary, Text.unixBreaks_eq_self unreturned,
    truncate_at parts untagged tagged]
  simp only [cleanWhole, lineRules_quoted given]
  rw [settle_of_isLettered (Phrase.isLettered_joinLines ps), Text.oneSpaced,
    Phrase.words_joinLines]

/-- Every word of a phrase counts. -/
theorem wordCount_phrases (ps : List Phrase) :
    wordCount (joinWords (ps.flatMap Phrase.words)) = (ps.flatMap Phrase.words).length := by
  have isWord : ∀ word ∈ ps.flatMap Phrase.words, Text.IsWord word := by
    intro word listed
    obtain ⟨p, _, inside⟩ := List.mem_flatMap.mp listed
    exact p.isWord inside
  rw [wordCount, Text.words_joinWords isWord, List.filter_eq_self.mpr]
  intro word listed
  obtain ⟨p, _, inside⟩ := List.mem_flatMap.mp listed
  obtain ⟨nonempty, letters⟩ := p.lettered word inside
  obtain ⟨c, rest, rfl⟩ := List.exists_cons_of_ne_nil nonempty
  have letter := letters c List.mem_cons_self
  simp [Text.isWordChar_of_isAlphanum (Text.isAlphanum_of_isAlpha letter)]

/-! ## Titles -/

theorem beforeLink_eq_self (absent : '[' ∉ t) : beforeLink t = t := by
  fun_induction beforeLink t with
  | case1 => rfl
  | case2 => exact absurd List.mem_cons_self absent
  | case3 c rest other ih => rw [ih fun later => absent (List.mem_cons_of_mem c later)]

theorem title_phrase (p : Phrase) : title p.text = p.text := by
  have unbroken : '\n' ∉ p.text := p.not_mem_text rfl (by decide)
  have plain := lineStages_phrase p
  simp only [lineStages, List.forall_mem_cons] at plain
  obtain ⟨_, unreferenced, _, unfenced, unheaded, _⟩ := plain
  have removed : Reference.remove p.text = p.text :=
    (mapLines_of_unbroken unbroken).trans unreferenced
  have unlinked : beforeLink p.text = p.text :=
    beforeLink_eq_self (p.not_mem_text rfl (by decide))
  have unblocked : stripBlockMarkup p.text = p.text := by
    rw [stripBlockMarkup, ← emptyIf_eq, mapLines_of_unbroken unbroken, unfenced,
      mapLines_of_unbroken unbroken, unheaded]
  have edges : Text.trimBoth isTitleEdge p.text = p.text := by
    refine p.trimBoth_text fun c letter => ?_
    have other (mark : Char) (noLetter : mark.isAlphanum = false) : c ≠ mark :=
      Text.ne_of_isAlphanum letter noLetter
    simp [isTitleEdge, other ' ' rfl, other '-' rfl, other '–' rfl, other '—' rfl, other ':' rfl,
      other '|' rfl]
  have inked : p.text.isEmpty = false := by simp [p.text_ne_nil]
  simp [title, removed, unlinked, unblocked, stripInlineMarkup_of_isLettered p.isLettered_text,
    collapse_joined, edges, inked]

end Narrative
end DreamJournal
