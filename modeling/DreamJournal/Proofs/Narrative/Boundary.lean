import DreamJournal.Proofs.Narrative.Lines

/-!
# The cut at the metrics boundary

The text in front of the first line with the tag of the metrics callout. The tag itself is content,
so cutting trims, and it leaves a text alone exactly when no line carries the tag.
-/
namespace DreamJournal.Narrative

open Text (splitOn joinLines)

variable {kind line t : Text}

theorem mem_of_carriesTag (carries : carriesTag kind line = true) : '[' ∈ line := by
  induction line with
  | nil => exact absurd carries Bool.false_ne_true
  | cons c rest ih =>
    rw [carriesTag, Bool.or_eq_true] at carries
    rcases carries with here | later
    · unfold tagAt at here
      split at here
      next starts =>
        rw [(List.cons.inj starts).1]
        exact List.mem_cons_self
      next => exact absurd here Bool.false_ne_true
    · exact List.mem_cons_of_mem c (ih later)

theorem carriesTag_eq_false (absent : '[' ∉ line) : carriesTag kind line = false := by
  cases carries : carriesTag kind line with
  | false => rfl
  | true => exact absurd (mem_of_carriesTag carries) absent

theorem carriesTag_append (front : Text) (here : tagAt kind t = true) :
    carriesTag kind (front ++ t) = true := by
  induction front with
  | nil =>
    cases t with
    | nil => cases here
    | cons c rest => simp [carriesTag, here]
  | cons c front ih => simp [carriesTag, ih]

/-- A text is cut in front of its first line with the tag. -/
theorem truncate_at {kept more : List Text} {first : Text}
    (parts : splitOn '\n' t = kept ++ first :: more)
    (untagged : ∀ line ∈ kept, carriesTag kind line = false)
    (tagged : carriesTag kind first = true) : truncate kind t = (joinLines kept, true) := by
  have taken : ((splitOn '\n' t).takeWhile fun line => !carriesTag kind line) = kept := by
    rw [parts, List.takeWhile_append_of_pos fun line member => by simp [untagged line member],
      List.takeWhile_cons_of_neg (by simp [tagged]), List.append_nil]
  rw [truncate, taken, parts]
  exact if_pos (by simp)

/-- What a text with a boundary is cut to: the lines in front of the first one with the tag. -/
theorem truncate_found (member : line ∈ splitOn '\n' t) (carries : carriesTag kind line = true) :
    ∃ kept first more, splitOn '\n' t = kept ++ first :: more ∧ carriesTag kind first = true ∧
      truncate kind t = (joinLines kept, true) := by
  have parts := List.takeWhile_append_dropWhile (p := fun line => !carriesTag kind line)
    (l := splitOn '\n' t)
  have stopped := List.head?_dropWhile_not (fun line => !carriesTag kind line) (splitOn '\n' t)
  generalize cut : (splitOn '\n' t).dropWhile (fun line => !carriesTag kind line) = tail
    at parts stopped
  cases tail with
  | nil =>
    have none := List.dropWhile_eq_nil_iff.mp cut line member
    simp [carries] at none
  | cons first more =>
    have tagged : carriesTag kind first = true := by simpa using stopped
    refine ⟨_, first, more, parts.symm, tagged,
      truncate_at parts.symm (fun line before => ?_) tagged⟩
    simpa using List.mem_takeWhile_imp before

/-- A text without a boundary is kept whole. -/
theorem truncate_whole (none : ∀ line ∈ splitOn '\n' t, carriesTag kind line = false) :
    truncate kind t = (t, false) := by
  have all : ((splitOn '\n' t).takeWhile fun line => !carriesTag kind line) = splitOn '\n' t := by
    rw [List.takeWhile_eq_self_iff]
    intro line member
    rw [none line member]
    rfl
  rw [truncate, all]
  exact if_neg (Nat.lt_irrefl _)

theorem truncate_takes (kind : Text) :
    TakesWhere (fun t => ∃ line ∈ splitOn '\n' t, carriesTag kind line = true)
      (fun t => (truncate kind t).1) := by
  constructor
  case taken =>
    rintro t ⟨line, member, carries⟩
    obtain ⟨kept, first, more, parts, tagged, cut⟩ := truncate_found member carries
    have whole : joinLines (kept ++ first :: more) = t := parts ▸ Text.joinLines_splitOn t
    have behind : '[' ∈ joinLines (first :: more) :=
      Text.mem_join_of_mem List.mem_cons_self (mem_of_carriesTag tagged)
    rw [cut]
    -- a line feed stands in front of the boundary unless it is the first line
    by_cases empty : kept = []
    · rw [empty, List.nil_append] at whole
      rw [empty, ← whole]
      exact TakenFrom.nil behind rfl
    · rw [joinLines, Text.join_append empty (List.cons_ne_nil first more)] at whole
      rw [← whole]
      exact TakenFrom.back (List.mem_append_right _ behind) rfl
  case left =>
    intro t none
    have absent : ∀ line ∈ splitOn '\n' t, carriesTag kind line = false := by
      intro line member
      simpa using fun carries => none ⟨line, member, carries⟩
    exact congrArg Prod.fst (truncate_whole absent)

end DreamJournal.Narrative
