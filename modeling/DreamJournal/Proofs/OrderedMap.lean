import DreamJournal.OrderedMap

/-!
# Laws of ordered maps

A map is read by looking a key up, and written by changing what is under a key. The laws say what
a lookup finds after a change, and that a change puts no key twice; a map without a key twice has
under each of them what its one entry says.
-/
namespace DreamJournal.OrderedMap

variable {α β : Type} [DecidableEq α]

/-! ## Lookup -/

theorem get?_cons (known key : α) (value : β) (rest : OrderedMap α β) :
    get? ((known, value) :: rest) key = if known = key then some value else get? rest key := by
  by_cases here : known = key <;> simp [get?, here]

theorem mem_keys_iff (map : OrderedMap α β) (key : α) :
    key ∈ keys map ↔ ∃ value, get? map key = some value := by
  induction map with
  | nil => simp [keys, get?]
  | cons entry rest ih =>
    obtain ⟨known, value⟩ := entry
    rw [get?_cons]
    by_cases here : known = key
    · simp [keys, here]
    · rw [if_neg here, ← ih]
      simp [keys, Ne.symm here]

theorem has_iff_mem_keys (map : OrderedMap α β) (key : α) :
    has map key = true ↔ key ∈ keys map := by
  simp [has, keys]

theorem has_append (known more : OrderedMap α β) (key : α) :
    has (known ++ more) key = (has known key || has more key) := by
  simp [has, List.find?_append]

theorem get?_of_mem {map : OrderedMap α β} (distinct : (keys map).Nodup) {entry : α × β}
    (member : entry ∈ map) : get? map entry.1 = some entry.2 := by
  induction map with
  | nil => cases member
  | cons first rest ih =>
    have ⟨fresh, others⟩ := List.nodup_cons.mp distinct
    rw [get?_cons]
    rcases List.mem_cons.mp member with rfl | later
    · rw [if_pos rfl]
    · have apart : first.1 ≠ entry.1 := fun same => fresh (same ▸ List.mem_map_of_mem later)
      rw [if_neg apart, ih others later]

theorem mem_of_get? {map : OrderedMap α β} {key : α} {value : β}
    (found : get? map key = some value) : (key, value) ∈ map := by
  induction map with
  | nil => cases found
  | cons entry rest ih =>
    obtain ⟨known, other⟩ := entry
    rw [get?_cons] at found
    by_cases here : known = key
    · rw [if_pos here, Option.some.injEq] at found
      rw [here, found]
      exact List.mem_cons_self
    · exact List.mem_cons_of_mem _ (ih (by rwa [if_neg here] at found))

/-- Under a key there is what its one entry says. -/
theorem filterMap_key {γ : Type} {map : OrderedMap α β} (distinct : (keys map).Nodup) (key : α)
    (found : β → Option γ) :
    map.filterMap (fun entry => if entry.1 = key then found entry.2 else none) =
      ((get? map key).bind found).toList := by
  induction map with
  | nil => simp [get?]
  | cons entry rest ih =>
    obtain ⟨known, value⟩ := entry
    have ⟨fresh, others⟩ := List.nodup_cons.mp distinct
    rw [List.filterMap_cons, ih others, get?_cons]
    by_cases here : known = key
    · -- the key is not further down, so nothing is found there
      have absent : get? rest key = none := by
        rw [Option.eq_none_iff_forall_ne_some]
        intro other further
        exact fresh (here ▸ (mem_keys_iff rest key).mpr ⟨other, further⟩)
      rw [absent]
      cases given : found value <;> simp [here, given]
    · simp [here]

/-! ## Change -/

theorem get?_alter (map : OrderedMap α β) (key other : α) (change : Option β → β) :
    get? (alter map key change) other =
      if other = key then some (change (get? map key)) else get? map other := by
  induction map with
  | nil => by_cases same : other = key <;> simp [alter, get?, same, eq_comm]
  | cons entry rest ih =>
    obtain ⟨known, value⟩ := entry
    by_cases here : known = key
    · subst here
      by_cases same : other = known <;> simp [alter, get?_cons, same, eq_comm]
    · -- the change happens further down, and so does the lookup unless it ends here
      have below : alter ((known, value) :: rest) key change =
          (known, value) :: alter rest key change := by simp [alter, here]
      rw [below, get?_cons, get?_cons, get?_cons, ih, if_neg here]
      by_cases first : known = other
      · rw [if_pos first, if_pos first, if_neg (first ▸ here)]
      · rw [if_neg first, if_neg first]

theorem mem_keys_alter (map : OrderedMap α β) (key other : α) (change : Option β → β) :
    other ∈ keys (alter map key change) ↔ other ∈ keys map ∨ other = key := by
  simp only [mem_keys_iff, get?_alter]
  by_cases same : other = key <;> simp [same]

theorem nodup_keys_alter {map : OrderedMap α β} (distinct : (keys map).Nodup) (key : α)
    (change : Option β → β) : (keys (alter map key change)).Nodup := by
  induction map with
  | nil => simp [alter, keys]
  | cons entry rest ih =>
    obtain ⟨known, value⟩ := entry
    have ⟨fresh, others⟩ := List.nodup_cons.mp distinct
    by_cases here : known = key
    · simp only [alter, if_pos here]
      exact distinct
    · have still : known ∉ keys (alter rest key change) := by
        rw [mem_keys_alter]
        exact not_or.mpr ⟨fresh, here⟩
      simp only [alter, if_neg here]
      exact List.nodup_cons.mpr ⟨still, ih others⟩

theorem put_of_not_mem {map : OrderedMap α β} {key : α} (fresh : key ∉ keys map) (value : β) :
    put map key value = map ++ [(key, value)] := by
  induction map with
  | nil => rfl
  | cons entry rest ih =>
    obtain ⟨other, later⟩ := not_or.mp (mt List.mem_cons.mpr fresh)
    have below := ih later
    rw [put] at below ⊢
    rw [alter, if_neg (Ne.symm other), below, List.cons_append]

/-- Entries with new keys are put behind the others, in their order. -/
theorem foldl_put (known entries : OrderedMap α β) (distinct : (keys (known ++ entries)).Nodup) :
    entries.foldl (fun map entry => put map entry.1 entry.2) known = known ++ entries := by
  induction entries generalizing known with
  | nil => exact (List.append_nil known).symm
  | cons entry rest ih =>
    have fresh : entry.1 ∉ keys known := by
      intro member
      rw [keys, List.map_append, List.map_cons] at distinct
      exact (List.nodup_append.mp distinct).2.2 _ member _ List.mem_cons_self rfl
    have parts : known ++ entry :: rest = (known ++ [entry]) ++ rest := by simp
    rw [parts] at distinct
    rw [List.foldl_cons, put_of_not_mem fresh, ih _ distinct, parts]

end DreamJournal.OrderedMap
