import DreamJournal.Callout.Basic
import Mathlib.Data.List.Basic

/-!
# Forests of callouts

The walk through a forest, as a list of its callouts, and the visits that also carry the path from
the root. Both list the same callouts in the same order, so that what is proved of the walk holds
of the visits; a visit adds the path, which `Path` describes as a relation on the tree.
-/
namespace DreamJournal.Callout

variable {roots forest around : List Callout} {c outer inner : Callout}

theorem walk_eq (c : Callout) : walk c = c :: walkAll c.children := by
  cases c
  rfl

@[simp] theorem walkAll_nil : walkAll [] = [] := rfl

theorem walkAll_cons (c : Callout) (rest : List Callout) :
    walkAll (c :: rest) = c :: (walkAll c.children ++ walkAll rest) := by
  rw [walkAll, walk_eq, List.cons_append]

theorem walkAll_append (front back : List Callout) :
    walkAll (front ++ back) = walkAll front ++ walkAll back := by
  induction front with
  | nil => rfl
  | cons c rest ih =>
    simp only [List.cons_append, walkAll_cons, ih, List.append_assoc]

theorem mem_walkAll_of_mem (member : c ∈ forest) : c ∈ walkAll forest := by
  obtain ⟨front, back, rfl⟩ := List.append_of_mem member
  simp [walkAll_append, walkAll_cons]

theorem walkAll_singleton (c : Callout) : walkAll [c] = c :: walkAll c.children := by
  rw [walkAll_cons, walkAll_nil, List.append_nil]

theorem walkAll_singleton_isInfix (member : c ∈ forest) : walkAll [c] <:+: walkAll forest := by
  obtain ⟨front, back, rfl⟩ := List.append_of_mem member
  refine ⟨walkAll front, walkAll back, ?_⟩
  rw [← walkAll_append, ← walkAll_append, List.append_assoc, List.singleton_append]

/-! ## Visits -/

/-- The callouts that `around` names lead from a root of the forest down to a callout. -/
inductive Path (roots : List Callout) : Callout → List Callout → Prop where
  | root {c : Callout} (member : c ∈ roots) : Path roots c []
  | nested {c parent : Callout} {around : List Callout} (outer : Path roots parent around)
      (member : c ∈ parent.children) : Path roots c (around ++ [parent])

mutual

/-- The visits to a callout and to all that is nested in it. -/
def visitsOf (around : List Callout) : Callout → List Visit
  | ⟨depth, kind, metadataText, headerLine, title, body, start, stop, children⟩ =>
    ⟨⟨depth, kind, metadataText, headerLine, title, body, start, stop, children⟩, around⟩ ::
      visitsOfAll
        (around ++ [⟨depth, kind, metadataText, headerLine, title, body, start, stop, children⟩])
        children

def visitsOfAll (around : List Callout) : List Callout → List Visit
  | [] => []
  | first :: rest => visitsOf around first ++ visitsOfAll around rest

end

theorem visitsOf_eq (around : List Callout) (c : Callout) :
    visitsOf around c = ⟨c, around⟩ :: visitsOfAll (around ++ [c]) c.children := by
  cases c
  rfl

theorem visitsOfAll_eq (around forest : List Callout) :
    visitsOfAll around forest = forest.flatMap (visitsOf around) := by
  induction forest with
  | nil => rfl
  | cons c rest ih => rw [visitsOfAll, ih, List.flatMap_cons]

/-- The stack is worked off visit by visit, when every callout on it can be paid for. -/
theorem visitStack_eq (fuel : Nat) (stack : List Visit)
    (budget : (walkAll (stack.map Visit.callout)).length ≤ fuel) :
    visitStack fuel stack = stack.flatMap fun v => visitsOf v.around v.callout := by
  induction fuel generalizing stack with
  | zero =>
    cases stack with
    | nil => rfl
    | cons visit waiting =>
      rw [List.map_cons, walkAll_cons, List.length_cons] at budget
      omega
  | succ fuel ih =>
    cases stack with
    | nil => rfl
    | cons visit waiting =>
      -- the children go on the stack in front of what waits, which is the order of the walk
      have nested : ((visit.callout.children.map fun child =>
          (⟨child, visit.around ++ [visit.callout]⟩ : Visit)) ++ waiting).map Visit.callout =
          visit.callout.children ++ waiting.map Visit.callout := by
        simp [Function.comp_def]
      rw [List.map_cons, walkAll_cons, List.length_cons, ← walkAll_append, ← nested] at budget
      rw [visitStack, ih _ (by omega), List.flatMap_append, List.flatMap_map, List.flatMap_cons,
        visitsOf_eq, visitsOfAll_eq, List.cons_append]

theorem visitStack_roots {fuel : Nat} (enough : (walkAll roots).length ≤ fuel) :
    visitStack fuel (roots.map fun root => ⟨root, []⟩) = visitsOfAll [] roots := by
  have waiting : (roots.map fun root => (⟨root, []⟩ : Visit)).map Visit.callout = roots := by
    simp [Function.comp_def]
  rw [visitStack_eq _ _ (by rwa [waiting]), List.flatMap_map, visitsOfAll_eq]

/-- The loop over the stack visits what the recursion on the tree visits. -/
theorem visits_eq (roots : List Callout) : visits roots = visitsOfAll [] roots :=
  visitStack_roots (Nat.le_refl _)

mutual

theorem visitsOf_callouts (around : List Callout) :
    (c : Callout) → (visitsOf around c).map Visit.callout = walk c
  | ⟨_, _, _, _, _, _, _, _, children⟩ => by
    rw [visitsOf, walk, List.map_cons, visitsOfAll_callouts _ children]

theorem visitsOfAll_callouts (around : List Callout) :
    (forest : List Callout) → (visitsOfAll around forest).map Visit.callout = walkAll forest
  | [] => rfl
  | first :: rest => by
    rw [visitsOfAll, walkAll, List.map_append, visitsOf_callouts around first,
      visitsOfAll_callouts around rest]

end

theorem visits_callouts (roots : List Callout) :
    (visits roots).map Visit.callout = walkAll roots := by
  rw [visits_eq, visitsOfAll_callouts]

mutual

theorem visitsOf_path : (c : Callout) → ∀ around, Path roots c around →
    ∀ v ∈ visitsOf around c, Path roots v.callout v.around
  | ⟨_, _, _, _, _, _, _, _, children⟩ => by
    intro around path v member
    rw [visitsOf] at member
    rcases List.mem_cons.mp member with rfl | below
    · exact path
    · exact visitsOfAll_path children _ (fun c nested => .nested path nested) v below

theorem visitsOfAll_path : (forest : List Callout) → ∀ around,
    (∀ c ∈ forest, Path roots c around) →
      ∀ v ∈ visitsOfAll around forest, Path roots v.callout v.around
  | [] => by simp [visitsOfAll]
  | first :: rest => by
    intro around paths v member
    have ⟨here, later⟩ := List.forall_mem_cons.mp paths
    rw [visitsOfAll] at member
    rcases List.mem_append.mp member with front | back
    · exact visitsOf_path first around here v front
    · exact visitsOfAll_path rest around later v back

end

/-- A visit carries the path from its root. -/
theorem visits_path {v : Visit} (member : v ∈ visits roots) : Path roots v.callout v.around := by
  rw [visits_eq] at member
  exact visitsOfAll_path roots [] (fun _ isRoot => .root isRoot) v member

theorem exists_visit (member : c ∈ walkAll roots) : ∃ v ∈ visits roots, v.callout = c := by
  rwa [← visits_callouts, List.mem_map] at member

theorem mem_walkAll_of_visit {v : Visit} (member : v ∈ visits roots) :
    v.callout ∈ walkAll roots := by
  rw [← visits_callouts]
  exact List.mem_map_of_mem member

/-! ## Nesting -/

theorem walkAll_children_isInfix (c : Callout) : walkAll c.children <:+: walkAll [c] := by
  rw [walkAll_singleton]
  exact (List.suffix_cons _ _).isInfix

/-- A callout and all that is nested in it stand together in the walk. -/
theorem Path.isInfix (path : Path roots c around) : walkAll [c] <:+: walkAll roots := by
  induction path with
  | root member => exact walkAll_singleton_isInfix member
  | nested _ member ih =>
    exact ((walkAll_singleton_isInfix member).trans (walkAll_children_isInfix _)).trans ih

theorem exists_path (member : c ∈ walkAll roots) : ∃ around, Path roots c around := by
  obtain ⟨v, visited, rfl⟩ := exists_visit member
  exact ⟨v.around, visits_path visited⟩

theorem Path.mem (path : Path roots c around) : c ∈ walkAll roots :=
  path.isInfix.subset (mem_walkAll_of_mem List.mem_cons_self)

theorem children_isInfix (member : c ∈ walkAll roots) : walkAll c.children <:+: walkAll roots := by
  obtain ⟨_, path⟩ := exists_path member
  exact (walkAll_children_isInfix c).trans path.isInfix

/-- What is nested in a callout of a forest belongs to the forest. -/
theorem mem_walkAll_trans (first : outer ∈ walkAll roots)
    (second : inner ∈ walkAll outer.children) : inner ∈ walkAll roots :=
  (children_isInfix first).subset second

theorem mem_walkAll_of_child (first : outer ∈ walkAll roots) (second : inner ∈ outer.children) :
    inner ∈ walkAll roots :=
  mem_walkAll_trans first (mem_walkAll_of_mem second)

/-- The callouts on a path belong to the forest, and what the path leads to is nested in each. -/
theorem Path.around_mem (path : Path roots c around) (member : outer ∈ around) :
    outer ∈ walkAll roots ∧ c ∈ walkAll outer.children := by
  induction path with
  | root => simp at member
  | @nested c parent around path isChild ih =>
    rcases List.mem_append.mp member with higher | direct
    · obtain ⟨inForest, nested⟩ := ih higher
      exact ⟨inForest, mem_walkAll_of_child nested isChild⟩
    · obtain rfl := List.mem_singleton.mp direct
      exact ⟨path.mem, mem_walkAll_of_mem isChild⟩

/-- A path into the callouts nested in another one goes on from the path to that one. -/
theorem Path.append (path : Path roots outer around) {deeper : List Callout}
    (below : Path outer.children inner deeper) :
    Path roots inner (around ++ outer :: deeper) := by
  induction below with
  | root member => exact .nested path member
  | @nested c parent further _ isChild ih =>
    -- the induction runs along the lower path, whose last step is the last of the whole one
    have whole := Path.nested ih isChild
    rwa [List.append_assoc, List.cons_append] at whole

end DreamJournal.Callout
