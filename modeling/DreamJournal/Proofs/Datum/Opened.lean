import DreamJournal.Datum
import DreamJournal.Proofs.Web

/-!
# Collections that hold themselves, opened

A cell of a web is a collection like any other once it is opened: what is too long inside of it is
too long in one of its parts, and an endless list has an endless item.
-/
namespace DreamJournal.Datum

variable {d : Datum} {cells : Web} {leaves : List Datum}

/-! ## Numbers that are too long -/

theorem anyTooLong_eq_any (items : List Datum) : anyTooLong items = items.any isTooLong := by
  induction items with
  | nil => rfl
  | cons item rest ih => rw [anyTooLong, List.any_cons, ih]

theorem anyEntryTooLong_eq_any (entries : List (Datum × Datum)) : anyEntryTooLong entries =
    entries.any fun entry => entry.1.isTooLong || entry.2.isTooLong := by
  induction entries with
  | nil => rfl
  | cons entry rest ih => rw [anyEntryTooLong, List.any_cons, ih]

theorem eachTooLong_eq_map (items : List Datum) : eachTooLong items = items.map isTooLong := by
  induction items with
  | nil => rfl
  | cons item rest ih => rw [eachTooLong, List.map_cons, ih]

theorem getD_eachTooLong (n : Nat) :
    (eachTooLong leaves).getD n false = (leaves.getD n null).isTooLong := by
  rw [eachTooLong_eq_map]
  exact List.getD_map leaves null isTooLong

theorem isTooLong_part (part : Web.Part) : (Datum.part cells leaves part).isTooLong =
    part.isMarked (eachTooLong leaves)
      (cells.marked (eachTooLong leaves) cells.cells.length) := by
  cases part with
  | leaf n => exact (getD_eachTooLong n).symm
  | cell n => rfl

theorem anyTooLong_parts (parts : List Web.Part) :
    anyTooLong (parts.map (part cells leaves)) = parts.any (Web.Part.isMarked (eachTooLong leaves)
      (cells.marked (eachTooLong leaves) cells.cells.length)) := by
  rw [anyTooLong_eq_any, List.any_map]
  exact congrArg parts.any (funext isTooLong_part)

/-- Opening a collection changes nothing about what is too long in it. -/
theorem isTooLong_opened (d : Datum) : d.opened.isTooLong = d.isTooLong := by
  cases d with
  | web cells leaves start =>
    rw [opened, isTooLong, Web.anyInside_eq]
    -- each kind of cell by its parts
    cases cells.cell start with
    | list items => exact anyTooLong_parts items
    | tuple items => exact anyTooLong_parts items
    | set items =>
      rw [Web.Cell.parts, ← anyTooLong_parts, List.map_map]
      rfl
    | map entries =>
      simp only [isTooLong, anyEntryTooLong_eq_any, List.any_map, Web.Cell.parts, List.any_flatMap]
      refine congrArg entries.any (funext fun entry => ?_)
      simp only [List.any_cons, List.any_nil, Bool.or_false, ← isTooLong_part, Function.comp]
      rfl
  | _ => rfl

/-! ## Endless lists -/

/-- The items of a list or tuple. -/
def items (d : Datum) : List Datum :=
  match d.opened with
  | list items => items
  | tuple items => items
  | _ => []

/-- A list from which one can go on to items without ever coming to an end: it holds itself,
directly or through other lists. -/
def IsEndless (d : Datum) : Prop :=
  ∃ way : Nat → Datum, way 0 = d ∧ ∀ k, way (k + 1) ∈ (way k).items

theorem isEndless_iff : d.IsEndless ↔ ∃ item ∈ d.items, item.IsEndless := by
  constructor
  · rintro ⟨way, rfl, onward⟩
    exact ⟨way 1, onward 0, fun k => way (k + 1), rfl, fun k => onward (k + 1)⟩
  · rintro ⟨item, listed, way, rfl, onward⟩
    refine ⟨fun k => k.casesOn d way, rfl, fun k => ?_⟩
    cases k with
    | zero => exact listed
    | succ k => exact onward k

theorem items_web (n : Nat) :
    (web cells leaves n).items = (cells.cell n).items.map (part cells leaves) := by
  rw [items, opened]
  cases cells.cell n <;> rfl

theorem isEndless_web {n : Nat} (endless : cells.IsEndless n) :
    (web cells leaves n).IsEndless := by
  obtain ⟨way, rfl, onward⟩ := endless
  refine ⟨fun k => web cells leaves (way k), rfl, fun k => ?_⟩
  rw [items_web]
  exact List.mem_map.mpr ⟨.cell (way (k + 1)), onward k, rfl⟩

end DreamJournal.Datum
