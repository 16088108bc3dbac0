import DreamJournal.Proofs.Narrative.Idempotence
import DreamJournal.Proofs.Text.Replacement

/-!
# What is left when the rounds come to rest

A rule could undo the work of another only by making the text longer, and no rule of a round does
that. So when a whole round leaves a text as it is, so does each of its rules: no pattern occurs in
the text any more, whatever its place in the round, and the white space is collapsed.

The rounds of cleaning stop at such a text, and they stop after a number of rounds that the length
of the text bounds.
-/
namespace DreamJournal.Narrative

open Text (Pattern)
open scoped List

variable {kind t : Text} {mode : ParagraphMode} {patterns : List Pattern}

/-- A text on which every rule of a round has nothing to do. -/
structure AtRest (mode : ParagraphMode) (t : Text) : Prop where
  embeds : removeEmbeds t = t
  wikiLinks : convertWikiLinks t = t
  labelledLinks : convertLabelledLinks t = t
  markup : stripInlineMarkup t = t
  collapsed : collapse mode t = t
  unmatched : ∀ pattern ∈ roundPatterns, ¬pattern.OccursIn t

/-! ## Patterns one after the other -/

theorem replaceEach_of_unmatched (shorten : ∀ pattern ∈ patterns, pattern.Shortens)
    (unmatched : ∀ pattern ∈ patterns, ¬pattern.OccursIn t) : replaceEach patterns t = t := by
  induction patterns with
  | nil => rfl
  | cons pattern more ih =>
    have ⟨here, later⟩ := List.forall_mem_cons.mp shorten
    have ⟨absent, others⟩ := List.forall_mem_cons.mp unmatched
    rw [replaceEach_cons, (Pattern.replaceAll_eq_self_iff here t).mpr absent]
    exact ih later others

/-- No pattern of a list brings back what an earlier one took. -/
theorem unmatched_of_replaceEach (shorten : ∀ pattern ∈ patterns, pattern.Shortens)
    (same : replaceEach patterns t = t) : ∀ pattern ∈ patterns, ¬pattern.OccursIn t := by
  induction patterns with
  | nil => exact fun _ member => absurd member List.not_mem_nil
  | cons pattern more ih =>
    have ⟨here, later⟩ := List.forall_mem_cons.mp shorten
    have kept : pattern.replaceAll t <+ t := Pattern.replaceAll_sublist here t
    have rest : replaceEach more (pattern.replaceAll t) <+ pattern.replaceAll t :=
      replaceEach_sublist later _
    rw [replaceEach_cons] at same
    rw [same] at rest
    -- what the first pattern took would be missing at the end
    have first : pattern.replaceAll t = t := kept.antisymm rest
    rw [first] at same
    exact List.forall_mem_cons.mpr
      ⟨(Pattern.replaceAll_eq_self_iff here t).mp first, ih later same⟩

/-! ## A whole round -/

theorem replaceEach_round_eq_self_iff (t : Text) :
    replaceEach roundPatterns t = t ↔ ∀ pattern ∈ roundPatterns, ¬pattern.OccursIn t :=
  ⟨unmatched_of_replaceEach roundPatterns_shorten, replaceEach_of_unmatched roundPatterns_shorten⟩

theorem replaceEach_of_subset (listed : patterns ⊆ roundPatterns)
    (unmatched : ∀ pattern ∈ roundPatterns, ¬pattern.OccursIn t) : replaceEach patterns t = t :=
  replaceEach_of_unmatched (fun pattern member => roundPatterns_shorten pattern (listed member))
    fun pattern member => unmatched pattern (listed member)

/-- A round leaves a text as it is exactly when every rule of it does. -/
theorem inlineRound_eq_self_iff (mode : ParagraphMode) (t : Text) :
    inlineRound mode t = t ↔ AtRest mode t := by
  rw [inlineRound_eq]
  constructor
  · intro fixed
    have collapsed : collapse mode t = t := by rw [← fixed, collapse_collapse]
    have kept := replaceEach_round_sublist t
    -- a replacement would shorten the text, and collapsing cannot make up for it
    have shorter := length_collapse_le mode (replaceEach roundPatterns t)
    rw [fixed] at shorter
    have unmatched := (replaceEach_round_eq_self_iff t).mp (kept.eq_of_length_le shorter)
    have each (patterns : List Pattern) (listed : patterns ⊆ roundPatterns) :
        replaceEach patterns t = t := replaceEach_of_subset listed unmatched
    exact {
      embeds := each [embed, mediaLink, bareMedia] (by simp [roundPatterns])
      wikiLinks := each [wikiLink] (by simp [roundPatterns])
      labelledLinks := each [imageLink, labelledLink] (by simp [roundPatterns])
      markup := each inlineMarkup (List.subset_append_right _ _)
      collapsed
      unmatched }
  · intro rest
    rw [(replaceEach_round_eq_self_iff t).mpr rest.unmatched, rest.collapsed]

/-! ## Cleaning -/

/-- The rounds of cleaning end, with a text not longer than the body and with nothing left for any
rule of a round. -/
theorem clean_comes_to_rest (kind : Text) (mode : ParagraphMode) (body : Text) :
    (∃ rounds ≤ body.length + 2,
      Settles mode rounds (lineRules (truncate kind (Text.unixBreaks body)).1)
        (clean kind mode body)) ∧
      (clean kind mode body).length ≤ body.length ∧ AtRest mode (clean kind mode body) := by
  -- the rounds begin with what the preparations leave of the body
  have shorter := (preparations_sublist kind body).length_le
  refine ⟨?_, ?_, (inlineRound_eq_self_iff mode _).mp (clean_settled kind mode body)⟩
  · rw [← applyEach_preparations, clean_eq]
    obtain ⟨rounds, few, ends⟩ :=
      settles mode (applyEach (preparations kind) (Text.unixBreaks body))
    exact ⟨rounds, few.trans (Nat.add_le_add_right shorter 2), ends⟩
  · rw [clean_eq]
    exact (length_settle_le mode _ _).trans shorter

end DreamJournal.Narrative
