import DreamJournal.Proofs.Narrative.Idempotence
import DreamJournal.Proofs.Text.Case

/-!
# Nothing behind the boundary is seen

The boundary of a list of lines is the first line in which the metrics callout is named. Cleaning
the joined lines is cleaning the lines in front of the boundary, so what stands behind it can be
exchanged for anything else without a trace. Cleaning also never adds a character to what it is
given, other than white space.
-/
namespace DreamJournal.Narrative

open Text (SameLetters content splitOn joinLines)
open scoped List

variable {kind line first t : Text} {lines front more : List Text} {mode : ParagraphMode}

/-- A line that names a callout kind in a tag, in any case: `[!kind]` or `[!kind|`. -/
def Tagged (kind line : Text) : Prop :=
  ∃ before name mark after, line = before ++ '[' :: '!' :: (name ++ mark :: after) ∧
    SameLetters kind name ∧ (mark = ']' ∨ mark = '|')

/-- A line in which no line ends: neither a line feed nor a carriage return. -/
def Unbroken (line : Text) : Prop := '\n' ∉ line ∧ '\r' ∉ line

instance (line : Text) : Decidable (Unbroken line) := inferInstanceAs (Decidable (_ ∧ _))

/-! ## The tag in a line -/

theorem tagAt_iff : tagAt kind t = true ↔
    ∃ name mark after, t = '[' :: '!' :: (name ++ mark :: after) ∧
      SameLetters kind name ∧ (mark = ']' ∨ mark = '|') := by
  constructor
  · intro here
    unfold tagAt at here
    split at here
    next rest =>
      split at here
      next mark after found =>
        obtain ⟨name, rfl, letters⟩ := Text.afterAnyCase?_eq_some_iff.mp found
        exact ⟨name, mark, after, rfl, letters, by simpa using here⟩
      next => cases here
    next => cases here
  · rintro ⟨name, mark, after, rfl, letters, ends⟩
    have found : Text.afterAnyCase? kind (name ++ mark :: after) = some (mark :: after) :=
      Text.afterAnyCase?_eq_some_iff.mpr ⟨name, rfl, letters⟩
    simpa [tagAt, found] using ends

theorem carriesTag_iff : carriesTag kind line = true ↔ Tagged kind line := by
  constructor
  · intro carries
    induction line with
    | nil => cases carries
    | cons c rest ih =>
      rw [carriesTag, Bool.or_eq_true, tagAt_iff] at carries
      -- the tag begins with the line or behind its first character
      rcases carries with ⟨name, mark, after, here⟩ | later
      · exact ⟨[], name, mark, after, here⟩
      · obtain ⟨before, name, mark, after, rfl, tag⟩ := ih later
        exact ⟨c :: before, name, mark, after, rfl, tag⟩
  · rintro ⟨before, name, mark, after, rfl, tag⟩
    exact carriesTag_append before (tagAt_iff.mpr ⟨name, mark, after, rfl, tag⟩)

instance (kind line : Text) : Decidable (Tagged kind line) := decidable_of_iff _ carriesTag_iff

theorem decide_tagged (kind line : Text) : decide (Tagged kind line) = carriesTag kind line := by
  rw [Bool.eq_iff_iff, decide_eq_true_iff, carriesTag_iff]

/-! ## The boundary of a list of lines -/

/-- How many lines stand in front of the first one with the tag. -/
def boundary (kind : Text) (lines : List Text) : Nat :=
  lines.findIdx fun line => decide (Tagged kind line)

theorem take_boundary (kind : Text) (lines : List Text) :
    lines.take (boundary kind lines) = lines.takeWhile fun line => !carriesTag kind line := by
  simp only [boundary, decide_tagged, List.takeWhile_eq_take_findIdx_not, Bool.not_not]

theorem take_boundary_idem (kind : Text) (lines : List Text) :
    (lines.take (boundary kind lines)).take (boundary kind (lines.take (boundary kind lines))) =
      lines.take (boundary kind lines) := by
  rw [take_boundary kind (lines.take _), take_boundary, List.takeWhile_idem]

/-- A line with the tag ends what is looked at, whether or not an earlier one does. -/
theorem take_boundary_append (tagged : Tagged kind first) :
    (front ++ first :: more).take (boundary kind (front ++ first :: more)) =
      front.take (boundary kind front) := by
  have stops : (first :: more).takeWhile (fun line => !carriesTag kind line) = [] :=
    List.takeWhile_cons_of_neg (by simp [carriesTag_iff.mpr tagged])
  rw [take_boundary, take_boundary, List.takeWhile_append, stops, List.append_nil]
  -- either every line in front is kept, or one of them carries the tag already
  split
  next whole => exact ((List.takeWhile_prefix _).eq_of_length whole).symm
  next => rfl

theorem boundary_le (kind : Text) (lines : List Text) : boundary kind lines ≤ lines.length :=
  List.findIdx_le_length

theorem boundary_eq_length :
    boundary kind lines = lines.length ↔ ∀ line ∈ lines, ¬Tagged kind line := by
  simp only [boundary, List.findIdx_eq_length, decide_eq_false_iff_not]

/-- The cut of joined lines, and whether anything was cut off. -/
theorem truncate_joinLines (unbroken : ∀ line ∈ lines, '\n' ∉ line) :
    truncate kind (joinLines lines) =
      (joinLines (lines.take (boundary kind lines)),
        decide (boundary kind lines < lines.length)) := by
  by_cases empty : lines = []
  · -- no lines at all are joined to a text of one empty line
    subst empty
    rfl
  · have kept := List.length_take_of_le (boundary_le kind lines)
    rw [truncate, Text.splitOn_joinLines empty unbroken, ← take_boundary, kept]
    split
    next found => simp [found]
    next absent => simp [absent, List.take_of_length_le (Nat.le_of_not_lt absent)]

/-! ## Cleaning joined lines -/

theorem unixBreaks_joinLines (unbroken : ∀ line ∈ lines, Unbroken line) :
    Text.unixBreaks (joinLines lines) = joinLines lines := by
  refine Text.unixBreaks_eq_self fun member => ?_
  rcases Text.mem_join member with between | ⟨line, listed, inside⟩
  · exact absurd between (by decide)
  · exact (unbroken line listed).2 inside

theorem clean_joinLines (unbroken : ∀ line ∈ lines, Unbroken line) :
    clean kind mode (joinLines lines) =
      cleanWhole mode (joinLines (lines.take (boundary kind lines))) := by
  rw [clean, cleanWithBoundary, unixBreaks_joinLines unbroken,
    truncate_joinLines fun line listed => (unbroken line listed).1]

theorem clean_cut (unbroken : ∀ line ∈ front ++ first :: more, Unbroken line)
    (tagged : Tagged kind first) :
    clean kind mode (joinLines (front ++ first :: more)) = clean kind mode (joinLines front) := by
  rw [clean_joinLines unbroken, take_boundary_append tagged,
    clean_joinLines (List.forall_mem_append.mp unbroken).1]

/-- Cleaning reads the lines in front of the boundary and only deletes from them: other lines behind
a tag give the same narrative. -/
theorem clean_ignores_behind (kind : Text) (mode : ParagraphMode) (lines : List Text)
    (unbroken : ∀ line ∈ lines, Unbroken line) :
    clean kind mode (joinLines lines) =
        clean kind mode (joinLines (lines.take (boundary kind lines))) ∧
      (∀ first more, (∀ line ∈ first :: more, Unbroken line) → Tagged kind first →
        clean kind mode (joinLines (lines.take (boundary kind lines) ++ first :: more)) =
          clean kind mode (joinLines lines)) ∧
      content (clean kind mode (joinLines lines)) <+
        content (joinLines (lines.take (boundary kind lines))) := by
  have kept : ∀ line ∈ lines.take (boundary kind lines), Unbroken line :=
    fun line member => unbroken line (List.mem_of_mem_take member)
  have whole : clean kind mode (joinLines lines) =
      clean kind mode (joinLines (lines.take (boundary kind lines))) := by
    rw [clean_joinLines unbroken, clean_joinLines kept, take_boundary_idem]
  refine ⟨whole, fun first more others tagged => ?_, ?_⟩
  · rw [clean_cut (List.forall_mem_append.mpr ⟨kept, others⟩) tagged, whole]
  · rw [whole]
    exact content_clean_sublist kind mode _

/-- A line with the tag in its middle, in other letters and with metadata. -/
def taggedLines : List Text :=
  ["waves", "the [!Dream-METRICS|x] tag", "Words: 5"].map Text.of

/-- Another line that holds the tag, with anything behind, gives the same narrative. -/
theorem clean_ignores_behind_waves :
    (∀ line ∈ taggedLines, Unbroken line) ∧ boundary (Text.of "dream-metrics") taggedLines = 1 ∧
      clean (Text.of "dream-metrics") .joined (joinLines taggedLines) =
        clean (Text.of "dream-metrics") .joined (joinLines [Text.of "waves"]) ∧
      clean (Text.of "dream-metrics") .joined
          (joinLines [Text.of "waves", Text.of ">> [!dream-metrics]", Text.of "shore"]) =
        clean (Text.of "dream-metrics") .joined (joinLines taggedLines) := by
  have unbroken : ∀ line ∈ taggedLines, Unbroken line := by decide
  have one : boundary (Text.of "dream-metrics") taggedLines = 1 := by decide +kernel
  obtain ⟨cut, exchanged, _⟩ := clean_ignores_behind (Text.of "dream-metrics") .joined _ unbroken
  rw [one] at cut exchanged
  exact ⟨unbroken, one, cut,
    exchanged (Text.of ">> [!dream-metrics]") [Text.of "shore"] (by decide) (by decide +kernel)⟩

end DreamJournal.Narrative
