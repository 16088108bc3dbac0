import DreamJournal.Narrative.Lines
import DreamJournal.Proofs.Text.Splitting
import DreamJournal.Proofs.Text.Words

/-!
# Rules that trim

A rule trims when it only deletes characters and never deletes white space alone: a text that it
changes loses content. White space can be rewritten behind such a rule without bringing back what
it deleted, which is how a change is still seen at the end of a chain of rules.

A rule on lines that trims gives a rule on texts that trims, and a chain of trimming rules leaves a
text alone exactly when each of them does.
-/
namespace DreamJournal.Narrative

open Text (isBlank content splitOn joinLines)
open scoped List

variable {rule : Text → Text} {rules : List (Text → Text)} {t : Text} {lines : List Text}

/-- A rule that only deletes, and takes content from every text that it changes. -/
structure Trims (rule : Text → Text) : Prop where
  kept : ∀ t, rule t <+ t
  inked : ∀ t, rule t ≠ t → (content (rule t)).length < (content t).length

theorem Trims.content_le (trims : Trims rule) (t : Text) :
    (content (rule t)).length ≤ (content t).length :=
  Text.content_length_le (trims.kept t)

/-! ## Chains of rules -/

/-- Apply one rule after the other. -/
def applyEach (rules : List (Text → Text)) (t : Text) : Text := rules.foldl (fun t rule => rule t) t

theorem applyEach_cons (rule : Text → Text) (rules : List (Text → Text)) (t : Text) :
    applyEach (rule :: rules) t = applyEach rules (rule t) := rfl

theorem applyEach_trims (trim : ∀ rule ∈ rules, Trims rule) : Trims (applyEach rules) := by
  induction rules with
  | nil => exact ⟨fun t => List.Sublist.refl t, fun t changed => absurd rfl changed⟩
  | cons rule rules ih =>
    have ⟨here, later⟩ := List.forall_mem_cons.mp trim
    have tail := ih later
    refine ⟨fun t => (tail.kept (rule t)).trans (here.kept t), fun t changed => ?_⟩
    rw [applyEach_cons] at changed ⊢
    by_cases same : rule t = t
    · rw [same] at changed ⊢
      exact tail.inked t changed
    · exact Nat.lt_of_le_of_lt (tail.content_le (rule t)) (here.inked t same)

/-- What one rule of a chain deletes no later rule brings back. -/
theorem applyEach_eq_self_iff (trim : ∀ rule ∈ rules, Trims rule) (t : Text) :
    applyEach rules t = t ↔ ∀ rule ∈ rules, rule t = t := by
  induction rules with
  | nil => simp [applyEach]
  | cons rule rules ih =>
    have ⟨here, later⟩ := List.forall_mem_cons.mp trim
    rw [List.forall_mem_cons, ← ih later, applyEach_cons]
    constructor
    · intro fixed
      have same : rule t = t := by
        -- the first rule would take content, and the others would have to put it back
        by_contra changed
        have lost := here.inked t changed
        have less := (applyEach_trims later).content_le (rule t)
        rw [fixed] at less
        omega
      exact ⟨same, by rwa [same] at fixed⟩
    · rintro ⟨same, fixed⟩
      rw [same, fixed]

/-! ## Rules on lines -/

theorem joinLines_map_sublist (kept : ∀ line, rule line <+ line) (lines : List Text) :
    joinLines (lines.map rule) <+ joinLines lines := by
  induction lines with
  | nil => exact List.Sublist.refl _
  | cons line lines ih =>
    cases lines with
    | nil => simpa [joinLines, Text.join_singleton] using kept line
    | cons next lines =>
      rw [joinLines, joinLines, List.map_cons, List.map_cons, Text.join_cons_cons,
        Text.join_cons_cons]
      exact (kept line).append ((List.Sublist.refl _).append ih)

theorem content_joinLines (lines : List Text) :
    content (joinLines lines) = (lines.map content).flatten :=
  Text.content_join rfl lines

/-- Lines that a trimming rule changes lose content together. -/
theorem content_map_lt (trims : Trims rule) (changed : lines.map rule ≠ lines) :
    (content (joinLines (lines.map rule))).length < (content (joinLines lines)).length := by
  rw [content_joinLines, content_joinLines]
  induction lines with
  | nil => exact absurd rfl changed
  | cons line lines ih =>
    have less := Text.content_length_le (joinLines_map_sublist trims.kept lines)
    rw [content_joinLines, content_joinLines] at less
    simp only [List.map_cons, List.flatten_cons, List.length_append]
    -- the first line that changes loses content, and no other line gains any
    by_cases same : rule line = line
    · have later := ih fun tail => changed (by rw [List.map_cons, same, tail])
      rw [same]
      omega
    · have lost := trims.inked line same
      omega

theorem mapLines_trims (trims : Trims rule) : Trims (mapLines rule) := by
  constructor
  case kept =>
    intro t
    have kept := joinLines_map_sublist trims.kept (splitOn '\n' t)
    rwa [Text.joinLines_splitOn] at kept
  case inked =>
    intro t changed
    have others : (splitOn '\n' t).map rule ≠ splitOn '\n' t := by
      intro same
      rw [mapLines, same, Text.joinLines_splitOn] at changed
      exact changed rfl
    have lost := content_map_lt trims others
    rwa [Text.joinLines_splitOn] at lost

theorem mapLines_eq_self_iff (trims : Trims rule) (t : Text) :
    mapLines rule t = t ↔ ∀ line ∈ splitOn '\n' t, rule line = line := by
  constructor
  · intro fixed line member
    have same : (splitOn '\n' t).map rule = (splitOn '\n' t).map id := by
      rw [List.map_id]
      by_contra changed
      have lost := content_map_lt trims changed
      rw [Text.joinLines_splitOn] at lost
      rw [mapLines] at fixed
      rw [fixed] at lost
      exact absurd lost (Nat.lt_irrefl _)
    exact List.map_inj_left.mp same line member
  · intro each
    rw [mapLines, List.map_congr_left each, List.map_id', Text.joinLines_splitOn]

theorem mapLines_of_unbroken (unbroken : '\n' ∉ t) : mapLines rule t = rule t := by
  rw [mapLines, Text.splitOn_of_not_mem unbroken, List.map_singleton, joinLines,
    Text.join_singleton]

/-- A chain of rules on lines may as well run through line by line. -/
theorem applyEach_mapLines (trim : ∀ rule ∈ rules, Trims rule) (given : lines ≠ [])
    (unbroken : ∀ line ∈ lines, '\n' ∉ line) :
    applyEach (rules.map mapLines) (joinLines lines) =
      joinLines (lines.map (applyEach rules)) := by
  induction rules generalizing lines with
  | nil => exact congrArg joinLines (List.map_id' lines).symm
  | cons rule rules ih =>
    have ⟨here, later⟩ := List.forall_mem_cons.mp trim
    have mapped : mapLines rule (joinLines lines) = joinLines (lines.map rule) := by
      rw [mapLines, Text.splitOn_joinLines given unbroken]
    -- a rule that trims puts no line feed into a line
    have still : ∀ line ∈ lines.map rule, '\n' ∉ line := by
      intro line member feed
      obtain ⟨before, listed, rfl⟩ := List.mem_map.mp member
      exact unbroken before listed ((here.kept before).subset feed)
    rw [List.map_cons, applyEach_cons, mapped, ih later (by simpa using given) still, List.map_map]
    rfl

end DreamJournal.Narrative
