import DreamJournal.Narrative.Markup
import DreamJournal.Proofs.Narrative.Links

/-!
# Inline markup only loses characters

Comments and tags are covered whole and leave nothing. Code, emphasis and highlights cover their
marks and what stands between them, and leave what stands between.
-/
namespace DreamJournal.Narrative

open Text (Pattern takeWhile_append_drop length_takeWhile_add_drop)
open scoped List

variable {here mark opening closing t inner rest start : Text} {size : Nat}

theorem after?_eq (returned : Text.after? start t = some rest) : t = start ++ rest := by
  fun_induction Text.after? start t with
  | case1 t => simpa using returned
  | case2 => exact absurd returned (by simp)
  | case3 start c more ih => rw [ih returned, List.cons_append]
  | case4 => exact absurd returned (by simp)

theorem upTo?_eq (returned : upTo? mark t = some inner) :
    ∃ rest, t = inner ++ (mark ++ rest) := by
  induction t generalizing inner with
  | nil => exact absurd returned (by simp [upTo?])
  | cons c more ih =>
    rw [upTo?] at returned
    split at returned
    next found =>
      obtain rfl := Option.some.inj returned
      obtain ⟨rest, same⟩ := List.isPrefixOf_iff_prefix.mp found
      exact ⟨rest, same.symm⟩
    next =>
      obtain ⟨later, further, rfl⟩ := Option.map_eq_some_iff.mp returned
      obtain ⟨rest, same⟩ := ih further
      exact ⟨rest, by rw [same, List.cons_append]⟩

theorem spanTo?_eq (returned : spanTo? mark t = some inner) :
    ∃ rest, t = inner ++ (mark ++ rest) := by
  induction t generalizing inner with
  | nil => exact absurd returned (by simp [spanTo?])
  | cons c more ih =>
    rw [spanTo?] at returned
    split at returned
    next => exact absurd returned (by simp)
    next =>
      split at returned
      next found =>
        obtain rfl := Option.some.inj returned
        obtain ⟨rest, same⟩ := List.isPrefixOf_iff_prefix.mp (Bool.and_eq_true_iff.mp found).2
        exact ⟨rest, by rw [same, List.singleton_append]⟩
      next =>
        obtain ⟨later, further, rfl⟩ := Option.map_eq_some_iff.mp returned
        obtain ⟨rest, same⟩ := ih further
        exact ⟨rest, by rw [same, List.cons_append]⟩

/-! ## Comments and code -/

theorem enclosed_shortens (given : opening ≠ []) : (enclosed opening closing).Shortens := by
  intro before here found returned
  unfold enclosed at returned
  split at returned
  next behind opened =>
    obtain ⟨inner, upTo, rfl⟩ := Option.map_eq_some_iff.mp returned
    obtain ⟨rest, rfl⟩ := upTo?_eq upTo
    obtain rfl := after?_eq opened
    have := List.length_pos_of_ne_nil given
    refine Text.Match.Shortens.of_size (by omega) ?_
    simp only [List.length_append]
    omega
  next => exact absurd returned (by simp)

theorem htmlComment_shortens : htmlComment.Shortens := enclosed_shortens (by decide)

theorem percentComment_shortens : percentComment.Shortens := enclosed_shortens (by decide)

theorem inlineCode_shortens : inlineCode.Shortens := by
  intro before here found returned
  unfold inlineCode at returned
  have opened := takeWhile_append_drop (· == '\x60') here
  dsimp only at returned
  generalize marks : here.takeWhile (· == '\x60') = opening at returned opened
  have held := takeWhile_append_drop (fun c => c != '\x60' && c != '\n') (here.drop opening.length)
  generalize code : (here.drop opening.length).takeWhile (fun c => c != '\x60' && c != '\n') = inner
    at returned held
  have closed := takeWhile_append_drop (· == '\x60') (here.drop (opening.length + inner.length))
  generalize ends : (here.drop (opening.length + inner.length)).takeWhile (· == '\x60') = closing
    at returned closed
  -- the three runs follow each other at the start of the text
  have covered : here = (opening ++ inner ++ closing) ++
      (here.drop (opening.length + inner.length)).drop closing.length := by
    rw [List.append_assoc, closed, List.append_assoc, ← List.drop_drop, held, opened]
  split at returned
  next => exact absurd returned (by simp)
  next given =>
    split at returned
    next =>
      obtain rfl := Option.some.inj returned
      rw [covered]
      refine Text.Match.Shortens.of_covered ?_ ?_ ?_
      · rw [List.length_append, List.length_append]
      · exact (List.sublist_append_right _ _).trans (List.sublist_append_left _ _)
      · simp only [List.length_append]
        omega
    next =>
      split at returned
      next =>
        -- backticks without a partner leave nothing
        obtain rfl := Option.some.inj returned
        have counted := congrArg List.length covered
        simp only [List.length_append] at counted
        exact Text.Match.Shortens.of_size (by omega) (by omega)
      next => exact absurd returned (by simp)

/-! ## Emphasis -/

/-- A finding that covers two marks and what stands between them. -/
theorem shortens_of_marks (given : mark ≠ []) :
    (⟨2 * mark.length + inner.length, inner⟩ : Text.Match Text).Shortens
      (mark ++ (inner ++ (mark ++ rest))) := by
  have := List.length_pos_of_ne_nil given
  have covered : mark ++ (inner ++ (mark ++ rest)) = (mark ++ inner ++ mark) ++ rest := by simp
  rw [covered]
  refine Text.Match.Shortens.of_covered ?_ ?_ ?_
  · simp only [List.length_append]
    omega
  · exact (List.sublist_append_right _ _).trans (List.sublist_append_left _ _)
  · simp only [List.length_append]
    omega

theorem between_shortens (given : mark ≠ []) : (between mark).Shortens := by
  intro before here found returned
  unfold between at returned
  split at returned
  next c behind opened =>
    split at returned
    next => exact absurd returned (by simp)
    next =>
      obtain ⟨inner, span, rfl⟩ := Option.map_eq_some_iff.mp returned
      obtain ⟨rest, same⟩ := spanTo?_eq span
      rw [after?_eq opened, same]
      exact shortens_of_marks given
  next => exact absurd returned (by simp)

theorem bold_shortens : bold.Shortens := by
  intro before here found returned
  unfold bold at returned
  split at returned
  next stars =>
    obtain rfl := Option.some.inj returned
    exact between_shortens (by decide) stars
  next => exact between_shortens (by decide) returned

theorem strike_shortens : strike.Shortens := between_shortens (by decide)

theorem highlight_shortens : highlight.Shortens := between_shortens (by decide)

theorem single_shortens (mark : Char) (joins : Char → Bool) : (single mark joins).Shortens := by
  intro before here found returned
  unfold single at returned
  split at returned
  next => exact absurd returned (by simp)
  next c behind _ =>
    split at returned
    next => exact absurd returned (by simp)
    next same =>
      have parts := takeWhile_append_drop (fun d => d != mark && d != '\n') behind
      dsimp only at returned
      generalize held : behind.takeWhile (fun d => d != mark && d != '\n') = inner
        at returned parts
      split at returned
      next first more last closing after _ back =>
        rw [back] at parts
        obtain ⟨closed, finding⟩ := Option.ite_none_right_eq_some.mp returned
        obtain rfl := Option.some.inj finding
        simp only [Bool.and_eq_true, decide_eq_true_eq] at closed
        obtain rfl : c = mark := by simpa using same
        obtain rfl : closing = c := closed.1.1.1
        have sized : (first :: more).length + 2 =
            2 * [closing].length + (first :: more).length := by
          rw [List.length_singleton]
          omega
        rw [sized, ← parts]
        exact shortens_of_marks (List.cons_ne_nil closing [])
      next => exact absurd returned (by simp)
  next => exact absurd returned (by simp)

theorem italicStar_shortens : italicStar.Shortens := single_shortens _ _

theorem italicUnderscore_shortens : italicUnderscore.Shortens := single_shortens _ _

/-! ## Tags -/

theorem tagTail?_le (returned : tagTail? t = some size) : size ≤ t.length := by
  unfold tagTail? at returned
  split at returned
  next =>
    obtain rfl := Option.some.inj returned
    simp
  next =>
    obtain rfl := Option.some.inj returned
    simp
  next c behind _ _ =>
    split at returned
    next =>
      have counted := length_takeWhile_add_drop (fun c => c != '<' && c != '>') behind
      dsimp only at returned
      split at returned
      next more closing =>
        obtain rfl := Option.some.inj returned
        rw [closing, List.length_cons] at counted
        rw [List.length_cons]
        omega
      next => exact absurd returned (by simp)
    next => exact absurd returned (by simp)
  next => exact absurd returned (by simp)

theorem tagBody?_le (returned : tagBody? t = some size) : size ≤ t.length := by
  unfold tagBody? at returned
  split at returned
  next c behind =>
    split at returned
    next => exact absurd returned (by simp)
    next =>
      have counted := length_takeWhile_add_drop (fun c => Text.isWordChar c || c == '-') behind
      obtain ⟨tail, ending, rfl⟩ := Option.map_eq_some_iff.mp returned
      have := tagTail?_le ending
      rw [List.length_cons]
      omega
  next => exact absurd returned (by simp)

theorem htmlTag_shortens : htmlTag.Shortens := by
  intro before here found returned
  unfold htmlTag at returned
  split at returned
  next rest =>
    obtain ⟨size, body, rfl⟩ := Option.map_eq_some_iff.mp returned
    have := tagBody?_le body
    refine Text.Match.Shortens.of_size (by omega) ?_
    simp only [List.length_cons]
    omega
  next rest _ =>
    obtain ⟨size, body, rfl⟩ := Option.map_eq_some_iff.mp returned
    have := tagBody?_le body
    refine Text.Match.Shortens.of_size (by omega) ?_
    simp only [List.length_cons]
    omega
  next => exact absurd returned (by simp)

end DreamJournal.Narrative
