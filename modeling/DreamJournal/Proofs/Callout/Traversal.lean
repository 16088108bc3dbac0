import DreamJournal.Proofs.Callout.Forest
import Mathlib.Data.List.Lex

/-!
# The loop over the stack and the recursion on the tree

Two callouts of a note can be equal in everything, so what is visited is told by places: a place of
a forest says which root, which of its children, and so on down. In the order of the note a callout
comes before what is nested in it, and that before its next sibling, which is the lexicographic
order of places.

`sites` lists the places of a forest with the visits there, by recursion on the tree. The loop over
the stack makes the same visits, and whatever is said of places is said of them.
-/
namespace DreamJournal.Callout

variable {forest roots around trail : List Callout} {c d : Callout} {v : Visit}
  {place below : List Nat} {i j : Nat}

/-- The callouts that a place leads through, outermost first. -/
def trail? (forest : List Callout) : (place : List Nat) → Option (List Callout)
  | [] => some []
  | i :: place => forest[i]?.bind fun c => (trail? c.children place).map (c :: ·)

/-- The place of something nested in what stands at another place. -/
def Inside (outer inner : List Nat) : Prop := outer <+: inner ∧ outer ≠ inner

instance (outer inner : List Nat) : Decidable (Inside outer inner) :=
  inferInstanceAs (Decidable (_ ∧ _))

mutual

/-- A callout and all that is nested in it, each with its place counted from the callout. -/
def sitesOf (around : List Callout) : Callout → List (List Nat × Visit)
  | ⟨depth, kind, metadataText, headerLine, title, body, start, stop, children⟩ =>
    let c := ⟨depth, kind, metadataText, headerLine, title, body, start, stop, children⟩
    ([], ⟨c, around⟩) :: sitesFrom (around ++ [c]) 0 children

def sitesFrom (around : List Callout) (i : Nat) : List Callout → List (List Nat × Visit)
  | [] => []
  | first :: rest =>
    (sitesOf around first).map (fun (place, v) => (i :: place, v)) ++ sitesFrom around (i + 1) rest

end

/-- The places of a forest with the visits there, in the order of the note. -/
def sites (roots : List Callout) : List (List Nat × Visit) := sitesFrom [] 0 roots

theorem sitesOf_eq (around : List Callout) (c : Callout) :
    sitesOf around c = ([], ⟨c, around⟩) :: sitesFrom (around ++ [c]) 0 c.children := by
  cases c
  rfl

mutual

theorem sitesOf_visits (around : List Callout) :
    (c : Callout) → (sitesOf around c).map Prod.snd = visitsOf around c
  | ⟨_, _, _, _, _, _, _, _, children⟩ => by
    rw [sitesOf, visitsOf, List.map_cons, sitesFrom_visits _ 0 children]

theorem sitesFrom_visits (around : List Callout) (i : Nat) :
    (forest : List Callout) → (sitesFrom around i forest).map Prod.snd = visitsOfAll around forest
  | [] => rfl
  | first :: rest => by
    rw [sitesFrom, visitsOfAll, List.map_append, List.map_map, ← sitesOf_visits around first,
      sitesFrom_visits around (i + 1) rest]
    rfl

end

theorem mem_sitesFrom : (place, v) ∈ sitesFrom around i forest ↔
    ∃ j rest c, place = (i + j) :: rest ∧ forest[j]? = some c ∧ (rest, v) ∈ sitesOf around c := by
  induction forest generalizing i with
  | nil => simp [sitesFrom]
  | cons first later ih =>
    rw [sitesFrom, List.mem_append, ih]
    constructor
    · rintro (here | ⟨j, rest, c, rfl, found, listed⟩)
      · obtain ⟨⟨rest, w⟩, listed, same⟩ := List.mem_map.mp here
        obtain ⟨rfl, rfl⟩ := Prod.mk.inj same
        exact ⟨0, rest, first, rfl, rfl, listed⟩
      · exact ⟨j + 1, rest, c, by rw [Nat.add_assoc, Nat.add_comm 1], found, listed⟩
    · rintro ⟨_ | j, rest, c, rfl, found, listed⟩
      · obtain rfl := Option.some.inj found
        exact .inl (List.mem_map.mpr ⟨(rest, v), listed, rfl⟩)
      · exact .inr ⟨j, rest, c, by rw [Nat.add_assoc, Nat.add_comm 1], found, listed⟩

theorem nil_not_mem_sitesFrom : ([], v) ∉ sitesFrom around i forest := by
  intro member
  obtain ⟨_, _, _, impossible, _⟩ := mem_sitesFrom.mp member
  cases impossible

theorem cons_mem_sitesOf :
    (i :: place, v) ∈ sitesOf around c ↔
      ∃ d, c.children[i]? = some d ∧ (place, v) ∈ sitesOf (around ++ [c]) d := by
  rw [sitesOf_eq, List.mem_cons, mem_sitesFrom]
  constructor
  · rintro (same | ⟨j, rest, d, same, found, listed⟩)
    · cases (Prod.mk.inj same).1
    · obtain ⟨rfl, rfl⟩ := List.cons.inj same
      rw [Nat.zero_add]
      exact ⟨d, found, listed⟩
  · rintro ⟨d, found, listed⟩
    exact .inr ⟨i, place, d, by rw [Nat.zero_add], found, listed⟩

/-- A visit is listed at a place exactly when the place leads through the callouts around it and
then to its own. -/
theorem mem_sitesOf_iff : (place, v) ∈ sitesOf around c ↔
    ∃ trail, trail? c.children place = some trail ∧
      around ++ c :: trail = v.around ++ [v.callout] := by
  -- one step down the place moves the callout from the trail to those around
  induction place generalizing around c with
  | nil =>
    obtain ⟨callout, outer⟩ := v
    rw [sitesOf_eq, List.mem_cons, or_iff_left nil_not_mem_sitesFrom]
    simp only [trail?, Option.some.injEq, exists_eq_left', Prod.mk.injEq, true_and,
      Visit.mk.injEq, List.append_singleton_inj]
    exact ⟨fun ⟨same, outside⟩ => ⟨outside.symm, same.symm⟩,
      fun ⟨outside, same⟩ => ⟨same.symm, outside.symm⟩⟩
  | cons i place ih =>
    rw [cons_mem_sitesOf]
    simp only [ih, trail?, Option.bind_eq_some_iff, Option.map_eq_some_iff]
    constructor
    · rintro ⟨d, found, trail, led, ends⟩
      exact ⟨d :: trail, ⟨d, found, trail, led, rfl⟩, by simpa using ends⟩
    · rintro ⟨_, ⟨d, found, trail, led, rfl⟩, ends⟩
      exact ⟨d, found, trail, led, by simpa using ends⟩

theorem mem_sites_iff : (place, v) ∈ sites roots ↔
    trail? roots place = some (v.around ++ [v.callout]) := by
  cases place with
  | nil =>
    refine iff_of_false nil_not_mem_sitesFrom ?_
    simp [trail?]
  | cons i place =>
    rw [sites, mem_sitesFrom]
    simp only [mem_sitesOf_iff, trail?, Option.bind_eq_some_iff, Option.map_eq_some_iff,
      List.cons.injEq, Nat.zero_add, List.nil_append]
    constructor
    · rintro ⟨_, _, c, ⟨rfl, rfl⟩, found, trail, led, ends⟩
      exact ⟨c, found, trail, led, ends⟩
    · rintro ⟨c, found, trail, led, ends⟩
      exact ⟨i, place, c, ⟨rfl, rfl⟩, found, trail, led, ends⟩

/-! ## The order of places -/

theorem lt_of_mem_sitesFrom (member : (place, v) ∈ sitesFrom around (i + 1) forest)
    (rest : List Nat) : i :: rest < place := by
  obtain ⟨j, _, _, rfl, _⟩ := mem_sitesFrom.mp member
  exact List.Lex.rel (by omega)

mutual

theorem sitesOf_ascending (around : List Callout) :
    (c : Callout) → (sitesOf around c).Pairwise fun earlier later => earlier.1 < later.1
  | ⟨_, _, _, _, _, _, _, _, children⟩ => by
    rw [sitesOf]
    refine List.pairwise_cons.mpr ⟨fun ⟨place, v⟩ member => ?_, sitesFrom_ascending _ 0 children⟩
    obtain ⟨_, _, _, rfl, _⟩ := mem_sitesFrom.mp member
    exact List.Lex.nil

theorem sitesFrom_ascending (around : List Callout) (i : Nat) :
    (forest : List Callout) →
      (sitesFrom around i forest).Pairwise fun earlier later => earlier.1 < later.1
  | [] => .nil
  | first :: rest => by
    rw [sitesFrom]
    refine List.pairwise_append.mpr ⟨?_, sitesFrom_ascending around (i + 1) rest, ?_⟩
    · refine List.pairwise_map.mpr ((sitesOf_ascending around first).imp ?_)
      exact fun before => List.Lex.cons before
    · intro earlier here later member
      obtain ⟨_, _, rfl⟩ := List.mem_map.mp here
      exact lt_of_mem_sitesFrom member _

end

/-! ## What is nested in a callout -/

theorem inside_nil_iff : Inside [] below ↔ below ≠ [] := by
  simp [Inside, eq_comm]

theorem inside_cons_iff : Inside (i :: place) (j :: below) ↔ i = j ∧ Inside place below := by
  simp only [Inside, List.cons_prefix_cons, ne_eq, List.cons.injEq, not_and]
  constructor
  · rintro ⟨⟨rfl, front⟩, other⟩
    exact ⟨rfl, front, other rfl⟩
  · rintro ⟨rfl, front, other⟩
    exact ⟨⟨rfl, front⟩, fun _ => other⟩

theorem filter_sitesFrom (found : forest[j]? = some d) :
    (sitesFrom around i forest).filter (fun site => Inside ((i + j) :: place) site.1) =
      ((sitesOf around d).filter fun site => Inside place site.1).map
        fun (rest, v) => ((i + j) :: rest, v) := by
  induction forest generalizing i j with
  | nil => cases found
  | cons first rest ih =>
    rw [sitesFrom, List.filter_append, List.filter_map]
    cases j with
    | zero =>
      obtain rfl := Option.some.inj found
      -- the later siblings have other places
      have none : (sitesFrom around (i + 1) rest).filter
          (fun site => Inside ((i + 0) :: place) site.1) = [] := by
        refine List.filter_eq_nil_iff.mpr fun ⟨other, v⟩ member => ?_
        obtain ⟨_, _, _, rfl, _⟩ := mem_sitesFrom.mp member
        rw [decide_eq_true_iff, inside_cons_iff]
        omega
      rw [none, List.append_nil]
      congr 2
      funext ⟨rest, v⟩
      simp [inside_cons_iff]
    | succ j =>
      -- the first root and what is nested in it have other places
      have none : (sitesOf around first).filter
          ((fun site : List Nat × Visit => decide (Inside ((i + (j + 1)) :: place) site.1)) ∘
            fun (place, v) => (i :: place, v)) = [] := by
        refine List.filter_eq_nil_iff.mpr fun ⟨other, v⟩ _ => ?_
        rw [Function.comp_apply, decide_eq_true_iff, inside_cons_iff]
        omega
      have later := ih (i := i + 1) found
      rw [Nat.add_assoc, Nat.add_comm 1] at later
      rw [none, List.map_nil, List.nil_append, later]

/-- The places inside that of a callout are those of all that is nested in it. -/
theorem filter_sitesOf (member : (place, v) ∈ sitesOf around c) :
    ((sitesOf around c).filter fun site => Inside place site.1).map (fun site => site.2.callout) =
      walkAll v.callout.children := by
  induction place generalizing around c with
  | nil =>
    rw [sitesOf_eq, List.mem_cons, or_iff_left nil_not_mem_sitesFrom] at member
    obtain ⟨_, rfl⟩ := Prod.mk.inj member
    -- only the callout itself has the empty place
    have all : (sitesFrom (around ++ [c]) 0 c.children).filter (fun site => Inside [] site.1) =
        sitesFrom (around ++ [c]) 0 c.children := by
      refine List.filter_eq_self.mpr fun ⟨place, v⟩ listed => ?_
      rw [decide_eq_true_iff, inside_nil_iff]
      rintro rfl
      exact nil_not_mem_sitesFrom listed
    rw [sitesOf_eq, List.filter_cons_of_neg (by simp [Inside]), all, ← visitsOfAll_callouts,
      ← sitesFrom_visits, List.map_map]
    rfl
  | cons i place ih =>
    obtain ⟨d, found, listed⟩ := cons_mem_sitesOf.mp member
    have inner : (sitesFrom (around ++ [c]) 0 c.children).filter
        (fun site => Inside ((0 + i) :: place) site.1) = _ := filter_sitesFrom found
    rw [Nat.zero_add] at inner
    rw [sitesOf_eq, List.filter_cons_of_neg (by simp [Inside]), inner, List.map_map, ← ih listed]
    rfl

theorem filter_sites (member : (place, v) ∈ sites roots) :
    ((sites roots).filter fun site => Inside place site.1).map (fun site => site.2.callout) =
      walkAll v.callout.children := by
  obtain ⟨i, rest, c, rfl, found, listed⟩ := mem_sitesFrom.mp member
  rw [sites, filter_sitesFrom found, List.map_map, ← filter_sitesOf listed]
  rfl

/-! ## The traversal -/

theorem walkAll_eq (forest : List Callout) : walkAll forest = forest.flatMap walk := by
  induction forest with
  | nil => rfl
  | cons first rest ih => rw [walkAll, ih, List.flatMap_cons]

/-- What a traversal of a forest visits, with the place of each visit: the walks through the roots
one after another, every place once and in order, each with the callouts that lead to it. -/
structure Traversed (roots : List Callout) (sites : List (List Nat × Visit))
    (visited : List Visit) : Prop where
  visits_eq : sites.map Prod.snd = visited
  callouts_eq : visited.map Visit.callout = roots.flatMap walk
  ascending : (sites.map Prod.fst).Pairwise (· < ·)
  mem_iff : ∀ place callout around, (place, ⟨callout, around⟩) ∈ sites ↔
    trail? roots place = some (around ++ [callout])
  found : ∀ place v kind, (place, v) ∈ sites → v.callout.findNested? kind =
    (sites.find? fun (below, w) => Inside place below ∧ w.callout.kind = kind).map
      fun (_, w) => w.callout
  finished : ∀ fuel, (roots.flatMap walk).length ≤ fuel →
    visitStack fuel (roots.map fun root => ⟨root, []⟩) = visited

theorem visits_traverse (roots : List Callout) :
    ∃ sites, Traversed roots sites (visits roots) := by
  refine ⟨sites roots, ?_⟩
  constructor
  case visits_eq => rw [sites, sitesFrom_visits, Callout.visits_eq]
  case callouts_eq => rw [visits_callouts, walkAll_eq]
  case ascending => exact List.pairwise_map.mpr (sitesFrom_ascending [] 0 roots)
  case mem_iff => exact fun place callout around => mem_sites_iff
  case found =>
    intro place v kind member
    rw [findNested?, ← filter_sites member, List.find?_map, List.find?_filter]
    simp only [Function.comp_def, Bool.decide_and, decide_eq_true_eq]
  case finished =>
    intro fuel enough
    rw [← walkAll_eq] at enough
    rw [visitStack_roots enough, Callout.visits_eq]

end DreamJournal.Callout
