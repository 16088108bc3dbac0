import DreamJournal.Narrative.Links
import DreamJournal.Proofs.Text.Replacement
import DreamJournal.Proofs.Text.Splitting

/-!
# Links only lose characters

Every pattern of links and media covers at least the marks around a link, and what it leaves, the
label or the target, stood between those marks.
-/
namespace DreamJournal.Narrative

open Text (Pattern takeWhile_append_drop length_takeWhile_add_drop)
open scoped List

variable {here target label t : Text} {named : Option Text} {size n : Nat}

theorem closesDouble_iff : closesDouble t = true ↔ ∃ rest, t = ']' :: ']' :: rest := by
  unfold closesDouble
  split
  next rest => simp
  next other => simpa using other

/-- What a wiki link holds between its brackets. -/
def wikiInner (target : Text) (label : Option Text) : Text :=
  target ++ match label with
    | some label => '|' :: label
    | none => []

theorem wikiParts?_covers (returned : wikiParts? here = some (target, named, size)) :
    ∃ rest, here = '[' :: '[' :: wikiInner target named ++ ']' :: ']' :: rest ∧
      size = (wikiInner target named).length + 4 := by
  unfold wikiParts? at returned
  split at returned
  next inner =>
    have parts := takeWhile_append_drop inTarget inner
    dsimp only at returned
    split at returned
    next more behind =>
      rw [behind] at parts
      have labelled := takeWhile_append_drop inBrackets more
      split at returned
      next closed =>
        obtain ⟨rest, closing⟩ := closesDouble_iff.mp closed
        rw [closing] at labelled
        obtain ⟨rfl, rfl, rfl⟩ : inner.takeWhile inTarget = target ∧
            some (more.takeWhile inBrackets) = named ∧ _ = size := by simpa using returned
        refine ⟨rest, ?_, ?_⟩
        · simp only [wikiInner, List.cons_append, List.append_assoc]
          rw [labelled, parts]
        · simp only [wikiInner, List.length_append, List.length_cons]
          omega
      next => exact absurd returned (by simp)
    next behind =>
      split at returned
      next closed =>
        obtain ⟨rest, closing⟩ := closesDouble_iff.mp closed
        rw [closing] at parts
        obtain ⟨rfl, rfl, rfl⟩ : inner.takeWhile inTarget = target ∧ none = named ∧ _ = size := by
          simpa using returned
        refine ⟨rest, ?_, ?_⟩
        · simp only [wikiInner, List.cons_append, List.append_nil]
          rw [parts]
        · simp [wikiInner]
      next => exact absurd returned (by simp)
  next => exact absurd returned (by simp)

theorem wikiDisplay_sublist (target : Text) (label : Option Text) :
    wikiDisplay target label <+ wikiInner target label := by
  unfold wikiDisplay wikiInner
  have shown : Text.trim (target.takeWhile fun c => c != '#' && c != '^') <+ target :=
    (Text.trimBoth_sublist _ _).trans (List.takeWhile_sublist _)
  cases label with
  | none => simpa using shown
  | some label =>
    dsimp only
    split
    · exact shown.trans (List.sublist_append_left _ _)
    · exact ((Text.trimBoth_sublist _ _).trans (List.sublist_cons_self _ _)).trans
        (List.sublist_append_right _ _)

theorem embed_shortens : embed.Shortens := by
  intro before here found returned
  unfold embed at returned
  split at returned
  next rest =>
    dsimp only at returned
    split at returned
    next closed =>
      obtain ⟨behind, closing⟩ := closesDouble_iff.mp closed
      obtain rfl := Option.some.inj returned
      have counted := length_takeWhile_add_drop inBrackets rest
      rw [closing] at counted
      refine Text.Match.Shortens.of_size (by omega) ?_
      simp only [List.length_cons] at counted ⊢
      omega
    next => exact absurd returned (by simp)
  next => exact absurd returned (by simp)

theorem mediaLink_shortens : mediaLink.Shortens := by
  intro before here found returned
  unfold mediaLink at returned
  split at returned
  next target label size parts =>
    split at returned
    next =>
      obtain ⟨rest, rfl, rfl⟩ := wikiParts?_covers parts
      obtain rfl := Option.some.inj returned
      refine Text.Match.Shortens.of_size (by omega) ?_
      simp only [List.cons_append, List.length_cons, List.length_append]
      omega
    next => exact absurd returned (by simp)
  next => exact absurd returned (by simp)

theorem wikiLink_shortens : wikiLink.Shortens := by
  intro before here found returned
  unfold wikiLink at returned
  split at returned
  next target label size parts =>
    obtain ⟨rest, rfl, rfl⟩ := wikiParts?_covers parts
    obtain rfl := Option.some.inj returned
    have kept := wikiDisplay_sublist target label
    -- the brackets are covered and not left, so what is left is shorter
    have covered : '[' :: '[' :: wikiInner target label ++ ']' :: ']' :: rest =
        ('[' :: '[' :: wikiInner target label ++ [']', ']']) ++ rest := by simp
    rw [covered]
    refine Text.Match.Shortens.of_covered (by simp) ?_ ?_
    · exact ((kept.cons _).cons _).trans (List.sublist_append_left _ _)
    · have := kept.length_le
      simp only [List.cons_append, List.length_cons, List.length_append]
      omega
  next => exact absurd returned (by simp)

/-! ## File names -/

theorem fileNameSize?_within (returned : fileNameSize? n t = some size) :
    n < size ∧ size ≤ n + t.length := by
  induction t generalizing n size with
  | nil => exact absurd returned (by simp [fileNameSize?])
  | cons c rest ih =>
    rw [fileNameSize?] at returned
    rw [List.length_cons]
    split at returned
    · split at returned
      next later further =>
        -- the longest name is taken, so what is found further on goes first
        obtain rfl := Option.some.inj returned
        have := ih further
        omega
      next =>
        dsimp only at returned
        split at returned
        · obtain rfl := Option.some.inj returned
          have := (List.takeWhile_sublist Text.isWordChar : rest.takeWhile _ <+ rest).length_le
          omega
        · exact absurd returned (by simp)
    · exact absurd returned (by simp)

theorem sizeSuffix_le (t : Text) : sizeSuffix t ≤ t.length := by
  unfold sizeSuffix
  split
  next rest =>
    have width := length_takeWhile_add_drop Text.isDecimal rest
    dsimp only
    split
    · exact Nat.zero_le _
    · split
      · rw [List.length_cons]
        omega
      · split
        next after more behind =>
          rw [behind, List.length_cons] at width
          have height := length_takeWhile_add_drop Text.isDecimal more
          split
          · rw [List.length_cons]
            omega
          · exact Nat.zero_le _
        next => exact Nat.zero_le _
  next => exact Nat.zero_le _

theorem bareMedia_shortens : bareMedia.Shortens := by
  intro before here found returned
  unfold bareMedia at returned
  split at returned
  next => exact absurd returned (by simp)
  next =>
    split at returned
    next size name =>
      obtain rfl := Option.some.inj returned
      have named := fileNameSize?_within name
      have suffix := sizeSuffix_le (here.drop size)
      rw [List.length_drop] at suffix
      exact Text.Match.Shortens.of_size (by omega) (by omega)
    next => exact absurd returned (by simp)

/-! ## Links with a label -/

theorem labelled?_covers (returned : labelled? here = some (label, size)) :
    ∃ target rest, here = '[' :: label ++ ']' :: '(' :: target ++ ')' :: rest ∧
      size = label.length + target.length + 4 := by
  unfold labelled? at returned
  split at returned
  next inner =>
    have parts := takeWhile_append_drop inBrackets inner
    dsimp only at returned
    split at returned
    next more behind =>
      rw [behind] at parts
      have targeted := takeWhile_append_drop inParentheses more
      split at returned
      next rest closing =>
        rw [closing] at targeted
        obtain ⟨rfl, rfl⟩ : inner.takeWhile inBrackets = label ∧ _ = size := by
          simpa using returned
        refine ⟨more.takeWhile inParentheses, rest, ?_, rfl⟩
        simp only [List.cons_append, List.append_assoc]
        rw [targeted, parts]
      next => exact absurd returned (by simp)
    next => exact absurd returned (by simp)
  next => exact absurd returned (by simp)

theorem imageLink_shortens : imageLink.Shortens := by
  intro before here found returned
  unfold imageLink at returned
  split at returned
  next rest =>
    obtain ⟨⟨label, size⟩, link, rfl⟩ := Option.map_eq_some_iff.mp returned
    obtain ⟨target, behind, rfl, rfl⟩ := labelled?_covers link
    refine Text.Match.Shortens.of_size (by omega) ?_
    simp only [List.cons_append, List.length_cons, List.length_append]
    omega
  next => exact absurd returned (by simp)

theorem labelledLink_shortens : labelledLink.Shortens := by
  intro before here found returned
  unfold labelledLink at returned
  obtain ⟨⟨label, size⟩, link, rfl⟩ := Option.map_eq_some_iff.mp returned
  obtain ⟨target, behind, rfl, rfl⟩ := labelled?_covers link
  have covered : '[' :: label ++ ']' :: '(' :: target ++ ')' :: behind =
      ('[' :: label ++ (']' :: '(' :: target ++ [')'])) ++ behind := by simp
  rw [covered]
  refine Text.Match.Shortens.of_covered ?_ ?_ ?_
  · simp only [List.cons_append, List.length_cons, List.length_append, List.length_nil]
    omega
  · exact (List.sublist_cons_self _ _).trans (List.sublist_append_left _ _)
  · simp only [List.cons_append, List.length_cons, List.length_append, List.length_nil]
    omega

end DreamJournal.Narrative
