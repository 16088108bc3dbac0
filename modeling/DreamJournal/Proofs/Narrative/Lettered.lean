import DreamJournal.Narrative.Title
import DreamJournal.Proofs.Narrative.Settling
import DreamJournal.Proofs.Text.Phrase

/-!
# Inline rules on letters

No pattern of inline markup finds anything in a text of letters and white space. A round of the
inline rules does nothing to such a text but collapse its white space, and a second round finds
that done already.
-/
namespace DreamJournal

open Text (IsLettered oneSpaced)

/-- A pattern that finds nothing where only letters and white space follow. -/
def Text.Pattern.SkipsLetters (pattern : Text.Pattern) : Prop :=
  ∀ before here, IsLettered here → pattern before here = none

theorem Text.Pattern.replaceFrom_of_isLettered {pattern : Text.Pattern}
    (skips : pattern.SkipsLetters) (before : Option Char) {t : Text} (lettered : IsLettered t) :
    pattern.replaceFrom 0 before t = t := by
  induction t generalizing before with
  | nil => rfl
  | cons c rest ih =>
    rw [replaceFrom, skips before (c :: rest) lettered, ih (some c) lettered.tail]

namespace Narrative

open Text.Pattern (SkipsLetters)

variable {t rest mark opening : Text} {patterns : List Text.Pattern}

/-! ## The patterns, one by one -/

theorem embed_skips : SkipsLetters embed := by
  intro before here lettered
  unfold embed
  split
  next => exact absurd rfl (lettered.ne_head rfl rfl)
  next => rfl

theorem wikiParts?_of_isLettered (lettered : IsLettered t) : wikiParts? t = none := by
  unfold wikiParts?
  split
  next => exact absurd rfl (lettered.ne_head rfl rfl)
  next => rfl

theorem mediaLink_skips : SkipsLetters mediaLink := by
  intro before here lettered
  simp [mediaLink, wikiParts?_of_isLettered lettered]

theorem wikiLink_skips : SkipsLetters wikiLink := by
  intro before here lettered
  simp [wikiLink, wikiParts?_of_isLettered lettered]

theorem fileNameSize?_of_isLettered (n : Nat) (lettered : IsLettered t) :
    fileNameSize? n t = none := by
  induction t generalizing n with
  | nil => rfl
  | cons c rest ih =>
    -- a file name needs a dot somewhere
    have other : c ≠ '.' := lettered.ne_head rfl rfl
    simp [fileNameSize?, ih (n + 1) lettered.tail, other]

theorem bareMedia_skips : SkipsLetters bareMedia := by
  intro before here lettered
  unfold bareMedia
  rw [fileNameSize?_of_isLettered 0 lettered]
  split <;> rfl

theorem labelled?_of_isLettered (lettered : IsLettered t) : labelled? t = none := by
  unfold labelled?
  split
  next => exact absurd rfl (lettered.ne_head rfl rfl)
  next => rfl

theorem imageLink_skips : SkipsLetters imageLink := by
  intro before here lettered
  unfold imageLink
  split
  next => exact absurd rfl (lettered.ne_head rfl rfl)
  next => rfl

theorem labelledLink_skips : SkipsLetters labelledLink := by
  intro before here lettered
  simp [labelledLink, labelled?_of_isLettered lettered]

/-- A mark begins with a character that is neither a letter nor white space. -/
def StartsMarked (mark : Text) : Prop :=
  ∃ c ∈ mark.head?, c.isAlpha = false ∧ Text.isBlank c = false

theorem after?_of_isLettered (marked : StartsMarked mark) (lettered : IsLettered t) :
    Text.after? mark t = none := by
  obtain ⟨c, first, noLetter, inked⟩ := marked
  obtain ⟨more, rfl⟩ := List.head?_eq_some_iff.mp first
  cases t with
  | nil => rfl
  | cons d rest =>
    have other : c ≠ d := (lettered.ne_head noLetter inked).symm
    simp [Text.after?, other]

theorem enclosed_skips (marked : StartsMarked opening) (closing : Text) :
    SkipsLetters (enclosed opening closing) := by
  intro before here lettered
  simp [enclosed, after?_of_isLettered marked lettered]

theorem between_skips (marked : StartsMarked mark) : SkipsLetters (between mark) := by
  intro before here lettered
  simp [between, after?_of_isLettered marked lettered]

theorem htmlComment_skips : SkipsLetters htmlComment := enclosed_skips ⟨'<', rfl, rfl, rfl⟩ _

theorem percentComment_skips : SkipsLetters percentComment := enclosed_skips ⟨'%', rfl, rfl, rfl⟩ _

theorem inlineCode_skips : SkipsLetters inlineCode := by
  intro before here lettered
  have unmarked : here.takeWhile (· == '\x60') = [] := by
    cases here with
    | nil => rfl
    | cons c rest =>
      have other : c ≠ '\x60' := lettered.ne_head rfl rfl
      simp [other]
  simp [inlineCode, unmarked]

theorem bold_skips : SkipsLetters bold := by
  intro before here lettered
  have stars : SkipsLetters (between (Text.of "**")) := between_skips ⟨'*', rfl, rfl, rfl⟩
  have lines : SkipsLetters (between (Text.of "__")) := between_skips ⟨'_', rfl, rfl, rfl⟩
  simp [bold, stars before here lettered, lines before here lettered]

theorem strike_skips : SkipsLetters strike := between_skips ⟨'~', rfl, rfl, rfl⟩

theorem highlight_skips : SkipsLetters highlight := between_skips ⟨'=', rfl, rfl, rfl⟩

theorem single_skips {mark : Char} (noLetter : mark.isAlpha = false)
    (inked : Text.isBlank mark = false) (joins : Char → Bool) :
    SkipsLetters (single mark joins) := by
  intro before here lettered
  unfold single
  split
  next => rfl
  next c rest _ => exact if_pos (lettered.ne_head noLetter inked)
  next => rfl

theorem htmlTag_skips : SkipsLetters htmlTag := by
  intro before here lettered
  unfold htmlTag
  split
  next => exact absurd rfl (lettered.ne_head rfl rfl)
  next => exact absurd rfl (lettered.ne_head rfl rfl)
  next => rfl

/-! ## All patterns together -/

theorem roundPatterns_skip : ∀ pattern ∈ roundPatterns, pattern.SkipsLetters := by
  simp only [roundPatterns, inlineMarkup, List.cons_append, List.nil_append, List.forall_mem_cons]
  exact ⟨embed_skips, mediaLink_skips, bareMedia_skips, wikiLink_skips, imageLink_skips,
    labelledLink_skips, htmlComment_skips, percentComment_skips, inlineCode_skips, bold_skips,
    single_skips rfl rfl _, single_skips rfl rfl _, strike_skips, highlight_skips, htmlTag_skips,
    by simp⟩

theorem replaceEach_of_isLettered (skip : ∀ pattern ∈ patterns, pattern.SkipsLetters)
    (lettered : IsLettered t) : replaceEach patterns t = t := by
  induction patterns with
  | nil => rfl
  | cons pattern more ih =>
    have ⟨here, later⟩ := List.forall_mem_cons.mp skip
    have same : pattern.replaceAll t = t :=
      Text.Pattern.replaceFrom_of_isLettered here none lettered
    have others := ih later
    rw [replaceEach] at others ⊢
    rw [List.foldl_cons, same, others]

theorem stripInlineMarkup_of_isLettered (lettered : IsLettered t) : stripInlineMarkup t = t := by
  refine replaceEach_of_isLettered (fun pattern listed => roundPatterns_skip pattern ?_) lettered
  exact List.mem_append_right _ listed

theorem inlineRound_of_isLettered (lettered : IsLettered t) :
    inlineRound .joined t = oneSpaced t := by
  rw [inlineRound_eq, replaceEach_of_isLettered roundPatterns_skip lettered, collapse_joined]

theorem settle_of_isLettered (lettered : IsLettered t) (rounds : Nat) :
    settle .joined (rounds + 1) t = oneSpaced t := by
  rw [settle]
  simp only [inlineRound_of_isLettered lettered]
  split
  next same => exact same.symm
  next =>
    -- the white space is collapsed now, and there is nothing left for another round
    apply settle_eq_self
    rw [inlineRound_of_isLettered lettered.oneSpaced, oneSpaced_oneSpaced]

end Narrative
end DreamJournal
