import DreamJournal.Files.Selection
import DreamJournal.Proofs.Files.Glob
import DreamJournal.Proofs.Text.Splitting
import DreamJournal.Proofs.Text.Words

/-!
# Excluded paths

An exclusion is seen against the texts of a path and of the folders that it leads through, which are
the beginnings of the path. What excludes a path therefore excludes all that lies below it.
-/
namespace DreamJournal

open scoped List

variable {c s t : Text} {behind parts : List Text} {exclusion : Text} {exclusions : List Text}

namespace Path

/-! ## Texts of paths -/

theorem isPart_of_mem_ofText {part : Text} (member : part ∈ (ofText t).parts) :
    isPart part = true := (List.mem_filter.mp member).2

theorem parts_ofText_slash (t c : Text) :
    (ofText (t ++ '/' :: c)).parts = (ofText t).parts ++ (ofText c).parts := by
  simp only [ofText, Text.splitOn_eq, List.splitOn_append_cons_self, List.filter_append]

/-- Behind a path from the working directory a slash and a text lead on from there. -/
theorem ofText_slash (unrooted : (ofText t).root = []) (given : (ofText t).parts ≠ []) (c : Text) :
    ofText (t ++ '/' :: c) = (ofText t).append (ofText c).parts := by
  have root : rootOf (t ++ '/' :: c) = rootOf t := by
    cases t with
    | nil => exact absurd rfl given
    | cons d t =>
      have first : d ≠ '/' := by
        rintro rfl
        simp only [ofText, rootOf] at unrooted
        split at unrooted <;> simp_all
      simp [rootOf, first]
  rw [append, ← parts_ofText_slash, ofText, root]
  rfl

theorem join_ne_dot (given : parts ≠ []) (proper : ∀ part ∈ parts, isPart part = true) :
    Text.join ['/'] parts ≠ ['.'] := by
  match parts with
  | [part] =>
    have isPart := proper part List.mem_cons_self
    rw [Text.join_singleton]
    rintro rfl
    cases isPart
  | first :: second :: rest =>
    rw [Text.join_cons_cons]
    intro same
    have slash : '/' ∈ first ++ (['/'] ++ Text.join ['/'] (second :: rest)) := by simp
    rw [same] at slash
    cases List.mem_singleton.mp slash

/-- The folders around a path below the working directory, and the path itself, are its beginnings;
the working directory itself is left out. -/
theorem mem_places_iff (given : parts ≠ []) (proper : ∀ part ∈ parts, isPart part = true) :
    t ∈ (Path.mk [] parts).places ↔
      ∃ front, front ≠ [] ∧ front <+: parts ∧ t = Text.join ['/'] front := by
  have written {front : List Text} (nonempty : front ≠ []) :
      (Path.mk [] front).toText = Text.join ['/'] front := by simp [toText, nonempty]
  have around (count : Nat) : (Path.mk [] (parts.take count)).toText ≠ ['.'] ↔
      parts.take count ≠ [] := by
    constructor
    · intro other empty
      exact other (by simp [toText, empty])
    · intro nonempty
      rw [written nonempty]
      exact join_ne_dot nonempty fun part member => proper part (List.mem_of_mem_take member)
  simp only [places, ancestors, List.mem_cons, List.mem_filter, List.mem_map, List.mem_range]
  constructor
  · rintro (rfl | ⟨⟨folder, ⟨count, -, rfl⟩, rfl⟩, named⟩)
    · exact ⟨parts, given, List.prefix_rfl, written given⟩
    · have nonempty := (around count).mp (by simpa using named)
      exact ⟨_, nonempty, List.take_prefix count parts, written nonempty⟩
  · rintro ⟨front, nonempty, ⟨behind, rfl⟩, rfl⟩
    by_cases whole : behind = []
    · subst whole
      exact .inl (by simp [written nonempty])
    · have cut : (front ++ behind).take front.length = front := List.take_left
      have named := (around front.length).mpr (cut.symm ▸ nonempty)
      refine .inr ⟨⟨_, ⟨front.length, ?_, rfl⟩, ?_⟩, ?_⟩
      · have := List.length_pos_iff.mpr whole
        simpa using this
      · rw [cut, written nonempty]
      · rw [cut, written nonempty] at named
        simpa using named

/-! ## Exclusions -/

/-- An exclusion keeps away a path when, without the space and the slashes around it, it covers a
beginning of the path. -/
def Excludes (exclusion : Text) (parts : List Text) : Prop :=
  bareExclusion exclusion ≠ [] ∧ ∃ front, front ≠ [] ∧ front <+: parts ∧
    Glob.Covers (bareExclusion exclusion) (Text.join ['/'] front)

theorem Excludes.append (excludes : Excludes exclusion parts) (behind : List Text) :
    Excludes exclusion (parts ++ behind) := by
  obtain ⟨bare, front, nonempty, begins, covers⟩ := excludes
  exact ⟨bare, front, nonempty, begins.trans (List.prefix_append parts behind), covers⟩

theorem isExcludedBy_iff (given : parts ≠ []) (proper : ∀ part ∈ parts, isPart part = true) :
    (Path.mk [] parts).isExcludedBy exclusion = true ↔ Excludes exclusion parts := by
  simp only [isExcludedBy, Bool.and_eq_true, Bool.not_eq_true', List.isEmpty_eq_false_iff,
    List.any_eq_true, Glob.covers_iff, mem_places_iff given proper, Excludes]
  grind

theorem isExcluded_iff (given : parts ≠ []) (proper : ∀ part ∈ parts, isPart part = true) :
    (Path.mk [] parts).isExcluded exclusions = true ↔
      ∃ exclusion ∈ exclusions, Excludes exclusion parts := by
  simp only [isExcluded, List.any_eq_true, isExcludedBy_iff given proper]

theorem isExcluded_append (p : Path) (more : List Text) :
    p.isExcluded (exclusions ++ more) = (p.isExcluded exclusions || p.isExcluded more) :=
  List.any_append

/-- What is excluded leads to nothing that is not. -/
theorem isExcluded_slash (unrooted : (ofText t).root = []) (given : (ofText t).parts ≠ [])
    (excluded : (ofText t).isExcluded exclusions = true) (c : Text) :
    (ofText (t ++ '/' :: c)).isExcluded exclusions = true := by
  have proper (s : Text) : ∀ part ∈ (ofText s).parts, isPart part = true := fun _ =>
    isPart_of_mem_ofText
  have here : ofText t = ⟨[], (ofText t).parts⟩ := by rw [← unrooted]
  rw [here, isExcluded_iff given (proper t)] at excluded
  obtain ⟨exclusion, listed, excludes⟩ := excluded
  rw [ofText_slash unrooted given, append, unrooted, isExcluded_iff (by simp [given])]
  · exact ⟨exclusion, listed, excludes.append _⟩
  · rw [← parts_ofText_slash]
    exact proper _

end Path
end DreamJournal
