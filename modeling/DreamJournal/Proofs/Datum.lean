import DreamJournal.Datum

/-!
# Data can be compared

A datum holds other data in lists and maps, so equality is decided by recursion over its parts.
-/
namespace DreamJournal.Datum

mutual

/-- Whether two data are the same throughout. -/
def equals : Datum → Datum → Bool
  | null, null => true
  | bool a, bool b => a == b
  | number m, number n => m == n
  | text s, text t => s == t
  | bytes s, bytes t => s == t
  | date d, date e => d == e
  | moment m, moment n => m == n
  | list items, list others => allEqual items others
  | tuple items, tuple others => allEqual items others
  | set items, set others => allEqual items others
  | map entries, map others => entriesEqual entries others
  | web cells leaves start, web cells' leaves' start' =>
    cells == cells' && allEqual leaves leaves' && start == start'
  | _, _ => false

def allEqual : List Datum → List Datum → Bool
  | [], [] => true
  | a :: rest, b :: others => equals a b && allEqual rest others
  | _, _ => false

def entriesEqual : List (Datum × Datum) → List (Datum × Datum) → Bool
  | [], [] => true
  | (key, value) :: rest, (key', value') :: others =>
    equals key key' && equals value value' && entriesEqual rest others
  | _, _ => false

end

mutual

theorem eq_of_equals : ∀ {a b : Datum}, equals a b = true → a = b
  | .list items, b, same => by
    cases b <;> simp only [equals, Bool.false_eq_true] at same
    rw [eq_of_allEqual same]
  | .tuple items, b, same => by
    cases b <;> simp only [equals, Bool.false_eq_true] at same
    rw [eq_of_allEqual same]
  | .set items, b, same => by
    cases b <;> simp only [equals, Bool.false_eq_true] at same
    rw [eq_of_allEqual same]
  | .map entries, b, same => by
    cases b <;> simp only [equals, Bool.false_eq_true] at same
    rw [eq_of_entriesEqual same]
  | .web cells leaves start, b, same => by
    cases b <;> simp only [equals, Bool.and_eq_true, beq_iff_eq, Bool.false_eq_true] at same
    rw [same.1.1, eq_of_allEqual same.1.2, same.2]
  | .null, b, same | .bool _, b, same | .number _, b, same | .text _, b, same
  | .bytes _, b, same | .date _, b, same | .moment _, b, same => by
    cases b <;> simp_all [equals]

theorem eq_of_allEqual : ∀ {items others : List Datum}, allEqual items others = true →
    items = others
  | [], [], _ => rfl
  | [], _ :: _, same => by simp [allEqual] at same
  | _ :: _, [], same => by simp [allEqual] at same
  | a :: rest, b :: others, same => by
    rw [allEqual, Bool.and_eq_true] at same
    rw [eq_of_equals same.1, eq_of_allEqual same.2]

theorem eq_of_entriesEqual : ∀ {entries others : List (Datum × Datum)},
    entriesEqual entries others = true → entries = others
  | [], [], _ => rfl
  | [], _ :: _, same => by simp [entriesEqual] at same
  | _ :: _, [], same => by simp [entriesEqual] at same
  | (key, value) :: rest, (key', value') :: others, same => by
    simp only [entriesEqual, Bool.and_eq_true] at same
    rw [eq_of_equals same.1.1, eq_of_equals same.1.2, eq_of_entriesEqual same.2]

end

mutual

theorem equals_self : ∀ a : Datum, equals a a = true
  | .list items | .tuple items | .set items => allEqual_self items
  | .map entries => entriesEqual_self entries
  | .web _ leaves _ => by simp [equals, allEqual_self leaves]
  | .null => rfl
  | .bool _ | .number _ | .text _ | .bytes _ | .date _ | .moment _ => by simp [equals]

theorem allEqual_self : ∀ items : List Datum, allEqual items items = true
  | [] => rfl
  | a :: rest => by rw [allEqual, equals_self a, allEqual_self rest]; rfl

theorem entriesEqual_self : ∀ entries : List (Datum × Datum), entriesEqual entries entries = true
  | [] => rfl
  | (key, value) :: rest => by
    rw [entriesEqual, equals_self key, equals_self value, entriesEqual_self rest]; rfl

end

instance : DecidableEq Datum := fun a b =>
  decidable_of_iff (equals a b = true) ⟨eq_of_equals, fun same => same ▸ equals_self a⟩

end DreamJournal.Datum
