import Mathlib.Data.Finset.Card
import Mathlib.Data.Finset.Filter
import Mathlib.Data.Finset.Range
import Mathlib.Data.List.GetD
import Mathlib.Logic.Relation
import Mathlib.Order.WellFounded
import DreamJournal.Web

/-!
# What a web holds

Looking for a leaf spreads through a web step by step. Each step marks further cells or none, and
after one that marks none no other does, so as many steps as there are cells find all that can be
found (`anyInside_iff`).

A way that comes through no cell twice is no longer than there are cells, so there is fuel for every
text (`text_eq`). A way from lists to their items may come again through a list that it has left,
and then it never ends; only such a way can be longer than there are cells (`isEndless_of_goesOn`).
-/
namespace DreamJournal.Web

open Finset

variable {web : Web} {leaves : List Bool} {k n : Nat} {part inner : Part}

/-- A part is a cell that holds another one. -/
def Holds (web : Web) (part inner : Part) : Prop := ∃ n, part = .cell n ∧ inner ∈ (web.cell n).parts

/-- A part is anywhere inside another one, or is that part itself. -/
def Reaches (web : Web) : Part → Part → Prop := Relation.ReflTransGen web.Holds

/-! ## One step -/

theorem getD_marked_succ : (web.marked leaves (k + 1)).getD n false =
    (web.cell n).parts.any (Part.isMarked leaves (web.marked leaves k)) :=
  List.getD_map web.cells (.list []) fun cell => cell.parts.any _

theorem length_marked_le : (web.marked leaves k).length ≤ web.cells.length := by
  cases k with
  | zero => exact Nat.zero_le _
  | succ k => simp [marked]

/-- Marks are never taken back. -/
theorem getD_marked_mono (holds : (web.marked leaves k).getD n false = true) :
    (web.marked leaves (k + 1)).getD n false = true := by
  induction k generalizing n with
  | zero => cases holds
  | succ k ih =>
    rw [getD_marked_succ, List.any_eq_true] at holds ⊢
    obtain ⟨part, listed, isMarked⟩ := holds
    refine ⟨part, listed, ?_⟩
    cases part with
    | leaf m => exact isMarked
    | cell m => exact ih isMarked

/-! ## All steps -/

/-- The cells that are marked after so many steps. -/
def markedCells (web : Web) (leaves : List Bool) (k : Nat) : Finset Nat :=
  {n ∈ range web.cells.length | (web.marked leaves k).getD n false = true}

theorem mem_markedCells :
    n ∈ web.markedCells leaves k ↔ (web.marked leaves k).getD n false = true := by
  rw [markedCells, mem_filter, mem_range, and_iff_right_iff_imp]
  intro holds
  by_contra beyond
  rw [List.getD_eq_default _ _ (length_marked_le.trans (Nat.le_of_not_lt beyond))] at holds
  cases holds

theorem markedCells_mono : web.markedCells leaves k ⊆ web.markedCells leaves (k + 1) :=
  fun _ member => mem_markedCells.mpr (getD_marked_mono (mem_markedCells.mp member))

/-- The marks after the next step depend on the marked cells alone. -/
theorem markedCells_settle (same : web.markedCells leaves (k + 1) = web.markedCells leaves k) :
    web.markedCells leaves (k + 2) = web.markedCells leaves (k + 1) := by
  ext n
  simp only [mem_markedCells, getD_marked_succ]
  have known (m : Nat) : (web.marked leaves (k + 1)).getD m false =
      (web.marked leaves k).getD m false := by
    rw [Bool.eq_iff_iff, ← mem_markedCells, ← mem_markedCells, same]
  have parts (part : Part) : Part.isMarked leaves (web.marked leaves (k + 1)) part =
      Part.isMarked leaves (web.marked leaves k) part := by
    cases part with
    | leaf m => rfl
    | cell m => exact known m
  rw [funext parts]

/-- Marks that have not settled by then would be more than there are cells. -/
theorem markedCells_succ_length :
    web.markedCells leaves (web.cells.length + 1) = web.markedCells leaves web.cells.length := by
  by_contra changed
  have changes : ∀ k ≤ web.cells.length,
      web.markedCells leaves (k + 1) ≠ web.markedCells leaves k := by
    intro k early same
    refine changed (Nat.le_induction same (fun j _ same => ?_) _ early)
    exact markedCells_settle same
  -- so each of these steps marks a further cell
  have grows : ∀ k ≤ web.cells.length + 1, k ≤ (web.markedCells leaves k).card := by
    intro k early
    induction k with
    | zero => exact Nat.zero_le _
    | succ k ih =>
      have further := card_lt_card
        (markedCells_mono.ssubset_of_ne (changes k (Nat.le_of_succ_le_succ early)).symm)
      exact (Nat.succ_le_succ (ih (Nat.le_of_succ_le early))).trans further
  have bound := card_filter_le (range web.cells.length) fun n =>
    (web.marked leaves (web.cells.length + 1)).getD n false = true
  rw [card_range] at bound
  exact Nat.not_succ_le_self _ ((grows _ le_rfl).trans bound)

/-- A marked leaf is in a cell when it is one of its parts or in one of them. -/
theorem anyInside_eq : web.anyInside leaves n =
    (web.cell n).parts.any (Part.isMarked leaves (web.marked leaves web.cells.length)) := by
  rw [← getD_marked_succ, anyInside, Bool.eq_iff_iff, ← mem_markedCells, ← mem_markedCells,
    markedCells_succ_length]

theorem reaches_of_marked (holds : (web.marked leaves k).getD n false = true) :
    ∃ m, web.Reaches (.cell n) (.leaf m) ∧ leaves.getD m false = true := by
  induction k generalizing n with
  | zero => cases holds
  | succ k ih =>
    rw [getD_marked_succ, List.any_eq_true] at holds
    obtain ⟨part, listed, isMarked⟩ := holds
    cases part with
    | leaf m => exact ⟨m, .single ⟨n, rfl, listed⟩, isMarked⟩
    | cell inside =>
      obtain ⟨m, reaches, marked⟩ := ih isMarked
      exact ⟨m, .head ⟨n, rfl, listed⟩ reaches, marked⟩

/-- A cell is found to hold a marked leaf exactly when one can be reached from it. -/
theorem anyInside_iff : web.anyInside leaves n = true ↔
    ∃ m, web.Reaches (.cell n) (.leaf m) ∧ leaves.getD m false = true := by
  refine ⟨reaches_of_marked, ?_⟩
  rintro ⟨m, reaches, marked⟩
  have found (part : Part) (reaches : web.Reaches part (.leaf m)) :
      Part.isMarked leaves (web.marked leaves web.cells.length) part = true := by
    induction reaches using Relation.ReflTransGen.head_induction_on with
    | refl => exact marked
    | head step _ ih =>
      obtain ⟨n, rfl, listed⟩ := step
      exact anyInside_eq.trans (List.any_eq_true.mpr ⟨_, listed, ih⟩)
  exact found _ reaches

/-! ## Ways through a web -/

theorem cell_of_le (beyond : web.cells.length ≤ n) : web.cell n = .list [] :=
  List.getD_eq_default _ _ beyond

/-- There are only so many cells that a way can come through. -/
theorem length_way_le {way : List Nat} (distinct : way.Nodup)
    (known : ∀ m ∈ way, m < web.cells.length) : way.length ≤ web.cells.length := by
  have bound := distinct.length_le_of_subset fun m member => List.mem_range.mpr (known m member)
  rwa [List.length_range] at bound

theorem textInside_succ {texts : List Text} {fuel : Nat} {around : List Nat}
    (distinct : around.Nodup) (known : ∀ m ∈ around, m < web.cells.length)
    (enough : web.cells.length < fuel + around.length) (part : Part) :
    web.textInside texts (fuel + 1) around part = web.textInside texts fuel around part := by
  induction fuel generalizing around part with
  | zero =>
    have bound := length_way_le distinct known
    omega
  | succ fuel ih =>
    cases part with
    | leaf n => rfl
    | cell n =>
      by_cases again : n ∈ around
      · simp only [textInside, List.contains_eq_mem, again, decide_true, if_true]
      · rcases Nat.lt_or_ge n web.cells.length with lt | beyond
        · have inside : web.textInside texts (fuel + 1) (n :: around) =
              web.textInside texts fuel (n :: around) := by
            apply funext
            apply ih (List.nodup_cons.mpr ⟨again, distinct⟩) (List.forall_mem_cons.mpr ⟨lt, known⟩)
            rw [List.length_cons]
            omega
          rw [textInside, textInside, inside]
        · simp only [textInside, cell_of_le beyond, List.map_nil]

/-- More fuel would give the same text. -/
theorem text_eq (texts : List Text) (start more : Nat) :
    web.textInside texts (web.cells.length + 1 + more) [] (.cell start) = web.text texts start := by
  induction more with
  | zero => rfl
  | succ more ih =>
    rw [← ih, ← Nat.add_assoc]
    apply textInside_succ .nil (by simp)
    rw [List.length_nil]
    omega

/-! ## Lists inside lists -/

/-- A cell is an item of a list or tuple. -/
def IsItem (web : Web) (item around : Nat) : Prop := .cell item ∈ (web.cell around).items

/-- From a list one can go on to items without ever coming to an end. -/
def IsEndless (web : Web) (n : Nat) : Prop :=
  ∃ way : Nat → Nat, way 0 = n ∧ ∀ k, web.IsItem (way (k + 1)) (way k)

/-- From a part one can go on to items so many times. -/
def GoesOn (web : Web) : (steps : Nat) → Part → Prop
  | _, .leaf _ => False
  | 0, .cell _ => True
  | steps + 1, .cell n => ∃ item ∈ (web.cell n).items, web.GoesOn steps item

theorem not_goesOn_leaf {steps : Nat} : ¬web.GoesOn steps (.leaf n) := by cases steps <;> exact id

theorem isEndless_iff_not_acc : web.IsEndless n ↔ ¬Acc web.IsItem n :=
  not_acc_iff_exists_descending_chain.symm

theorem isEndless_of_isItem {item : Nat} (listed : web.IsItem item n)
    (endless : web.IsEndless item) : web.IsEndless n := by
  rw [isEndless_iff_not_acc] at endless ⊢
  exact fun ends => endless (ends.inv listed)

theorem isEndless_of_loop (loop : Relation.TransGen web.IsItem n n) : web.IsEndless n := by
  rw [isEndless_iff_not_acc]
  intro ends
  induction ends.transGen with
  | intro n _ ih => exact ih n loop loop ends

/-- The cells that a way has come through are distinct, or it has come into a loop. -/
theorem isEndless_of_way {steps : Nat} {way : List Nat} (distinct : way.Nodup)
    (known : ∀ m ∈ way, m < web.cells.length)
    (inside : ∀ m ∈ way, Relation.TransGen web.IsItem n m)
    (long : steps + way.length = web.cells.length + 1) (goesOn : web.GoesOn steps (.cell n)) :
    web.IsEndless n := by
  -- on the steps that are left; with the cells come through they are one more than there are cells
  induction steps generalizing n way with
  | zero =>
    have bound := length_way_le distinct known
    omega
  | succ steps ih =>
    obtain ⟨item, listed, further⟩ := goesOn
    cases item with
    | leaf m => exact absurd further not_goesOn_leaf
    | cell item =>
      by_cases again : n ∈ way
      · exact isEndless_of_loop (inside n again)
      · refine isEndless_of_isItem listed (@ih item (n :: way) ?_ ?_ ?_ ?_ further)
        · exact List.nodup_cons.mpr ⟨again, distinct⟩
        · refine List.forall_mem_cons.mpr ⟨?_, known⟩
          -- beyond the last cell there are no items
          by_contra beyond
          rw [cell_of_le (Nat.le_of_not_lt beyond)] at listed
          cases listed
        · exact List.forall_mem_cons.mpr ⟨.single listed, fun m member =>
            .head listed (inside m member)⟩
        · rw [List.length_cons]
          omega

/-- A way to items that is longer than there are cells never ends. -/
theorem isEndless_of_goesOn (goesOn : web.GoesOn (web.cells.length + 1) (.cell n)) :
    web.IsEndless n :=
  isEndless_of_way .nil (by simp) (by simp) rfl goesOn

end DreamJournal.Web
