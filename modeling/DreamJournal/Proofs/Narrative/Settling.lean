import DreamJournal.Narrative.Clean
import DreamJournal.Proofs.Narrative.Markup
import DreamJournal.Proofs.Narrative.Paragraphs

/-!
# The rounds come to rest

A round of the inline rules replaces by patterns that shorten and then collapses white space. On a
text whose white space is collapsed a round therefore changes nothing or makes the text shorter,
and the rounds that `cleanWhole` pays for are enough to reach a text that no round changes.
-/
namespace DreamJournal.Narrative

open Text (Pattern content)
open scoped List

variable {mode : ParagraphMode} {patterns : List Pattern} {t : Text} {rounds : Nat}

/-- The patterns of a round, in the order in which they are applied. -/
def roundPatterns : List Pattern :=
  [embed, mediaLink, bareMedia, wikiLink, imageLink, labelledLink] ++ inlineMarkup

/-- Replace by one pattern after the other. -/
def replaceEach (patterns : List Pattern) (t : Text) : Text :=
  patterns.foldl (fun t pattern => pattern.replaceAll t) t

theorem replaceEach_cons (pattern : Pattern) (patterns : List Pattern) (t : Text) :
    replaceEach (pattern :: patterns) t = replaceEach patterns (pattern.replaceAll t) := rfl

theorem inlineRound_eq (mode : ParagraphMode) (t : Text) :
    inlineRound mode t = collapse mode (replaceEach roundPatterns t) := by
  simp only [inlineRound, stripInlineMarkup, convertLabelledLinks, convertWikiLinks, removeEmbeds,
    replaceEach, roundPatterns, List.cons_append, List.nil_append, List.foldl_cons]

theorem replaceEach_sublist (shorten : ∀ pattern ∈ patterns, pattern.Shortens) (t : Text) :
    replaceEach patterns t <+ t := by
  induction patterns generalizing t with
  | nil => exact List.Sublist.refl t
  | cons pattern more ih =>
    have ⟨here, later⟩ := List.forall_mem_cons.mp shorten
    exact (ih later _).trans (Pattern.replaceAll_sublist here t)

theorem roundPatterns_shorten : ∀ pattern ∈ roundPatterns, pattern.Shortens := by
  simp only [roundPatterns, inlineMarkup, List.cons_append, List.nil_append, List.forall_mem_cons]
  exact ⟨embed_shortens, mediaLink_shortens, bareMedia_shortens, wikiLink_shortens,
    imageLink_shortens, labelledLink_shortens, htmlComment_shortens, percentComment_shortens,
    inlineCode_shortens, bold_shortens, italicStar_shortens, italicUnderscore_shortens,
    strike_shortens, highlight_shortens, htmlTag_shortens, by simp⟩

theorem replaceEach_round_sublist (t : Text) : replaceEach roundPatterns t <+ t :=
  replaceEach_sublist roundPatterns_shorten t

/-! ## One round -/

theorem length_inlineRound_le (mode : ParagraphMode) (t : Text) :
    (inlineRound mode t).length ≤ t.length := by
  rw [inlineRound_eq]
  exact (length_collapse_le mode _).trans (replaceEach_round_sublist t).length_le

theorem content_inlineRound_sublist (mode : ParagraphMode) (t : Text) :
    content (inlineRound mode t) <+ content t := by
  rw [inlineRound_eq, content_collapse]
  exact Text.content_sublist (replaceEach_round_sublist t)

@[simp] theorem collapse_inlineRound (mode : ParagraphMode) (t : Text) :
    collapse mode (inlineRound mode t) = inlineRound mode t := by
  rw [inlineRound_eq, collapse_collapse]

/-- A round that changes a collapsed text makes it shorter. -/
theorem length_inlineRound_lt (collapsed : collapse mode t = t) (changed : inlineRound mode t ≠ t) :
    (inlineRound mode t).length < t.length := by
  have kept := replaceEach_round_sublist t
  have shorter : (replaceEach roundPatterns t).length < t.length := by
    -- if nothing were replaced, only collapsing could have changed the text
    refine Nat.lt_of_not_le fun whole => changed ?_
    rw [inlineRound_eq, kept.eq_of_length_le whole, collapsed]
  rw [inlineRound_eq]
  exact Nat.lt_of_le_of_lt (length_collapse_le mode _) shorter

/-! ## All rounds -/

theorem settle_eq_self (fixed : inlineRound mode t = t) (rounds : Nat) :
    settle mode rounds t = t := by
  cases rounds with
  | zero => rfl
  | succ rounds =>
    rw [settle]
    exact if_pos fixed

theorem content_settle_sublist (mode : ParagraphMode) (rounds : Nat) (t : Text) :
    content (settle mode rounds t) <+ content t := by
  induction rounds generalizing t with
  | zero => exact List.Sublist.refl _
  | succ rounds ih =>
    rw [settle]
    split
    · exact List.Sublist.refl _
    · exact (ih _).trans (content_inlineRound_sublist mode t)

theorem length_settle_le (mode : ParagraphMode) (rounds : Nat) (t : Text) :
    (settle mode rounds t).length ≤ t.length := by
  induction rounds generalizing t with
  | zero => exact Nat.le_refl _
  | succ rounds ih =>
    rw [settle]
    split
    · exact Nat.le_refl _
    · exact (ih _).trans (length_inlineRound_le mode t)

/-- Round after round from a text to the first one that a round leaves as it is, however many it
takes. The round that changes nothing counts as well. -/
inductive Settles (mode : ParagraphMode) : Nat → Text → Text → Prop where
  | rest {t : Text} (fixed : inlineRound mode t = t) : Settles mode 1 t t
  | round {count : Nat} {t result : Text} (changed : inlineRound mode t ≠ t)
      (later : Settles mode count (inlineRound mode t) result) : Settles mode (count + 1) t result

theorem Settles.fixed {count : Nat} {result : Text} (settles : Settles mode count t result) :
    inlineRound mode result = result := by
  induction settles with
  | rest fixed => exact fixed
  | round _ _ ih => exact ih

/-- Every round but the last takes a character from a collapsed text. -/
theorem settles_collapsed (collapsed : collapse mode t = t) (paid : t.length < rounds) :
    ∃ count ≤ rounds, Settles mode count t (settle mode rounds t) := by
  induction rounds generalizing t with
  | zero => exact absurd paid (Nat.not_lt_zero _)
  | succ rounds ih =>
    rw [settle]
    split
    next fixed => exact ⟨1, by omega, .rest fixed⟩
    next changed =>
      -- the text left for the other rounds is collapsed again, and shorter by what this one costs
      have shorter := length_inlineRound_lt collapsed changed
      obtain ⟨count, few, later⟩ := ih (collapse_inlineRound mode t) (by omega)
      exact ⟨count + 1, by omega, .round changed later⟩

/-- The rounds come to rest, whatever the text: two rounds more than it has characters are enough,
and `settle` ends where they do. -/
theorem settles (mode : ParagraphMode) (t : Text) :
    ∃ count ≤ t.length + 2, Settles mode count t (settle mode (t.length + 2) t) := by
  rw [settle]
  split
  next fixed => exact ⟨1, by omega, .rest fixed⟩
  next changed =>
    -- the first round may change white space only; from then on each round is paid for
    have shorter := length_inlineRound_le mode t
    obtain ⟨count, few, later⟩ := settles_collapsed (collapse_inlineRound mode t)
      (show (inlineRound mode t).length < t.length + 1 by omega)
    exact ⟨count + 1, by omega, .round changed later⟩

/-- The result of all rounds is not changed by a further round. -/
theorem inlineRound_settle (mode : ParagraphMode) (t : Text) :
    inlineRound mode (settle mode (t.length + 2) t) = settle mode (t.length + 2) t := by
  obtain ⟨_, _, ends⟩ := settles mode t
  exact ends.fixed

end DreamJournal.Narrative
