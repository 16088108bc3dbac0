import DreamJournal.Callout.Scan
import DreamJournal.Proofs.Callout.Containment
import DreamJournal.Proofs.Callout.Forest

/-!
# The invariant of a scan

In front of line `n` the open callouts are exactly the live ones, innermost first, with marker
counts that grow strictly inward. So closing from the innermost outward while the markers exceed a
limit closes all that exceed it, and a line closes precisely the callouts that it breaks.

An open callout has taken every line since its header and remembers the last with content; once it
is over, that line is its end for good, and what lies behind it was only held. The closed callouts
are told by the lines alone (`Faithful`), each among its siblings in the order of the note.
-/
namespace DreamJournal.Scan

open Containment Callout

variable {lines : List Text} {n limit : Nat} {stack outer : List Open} {roots : List Callout}

/-- Callouts with one parent, in the order of the note. None reaches a bound, and each ends before
the next begins. -/
structure Siblings (lines : List Text) (parent : Option Nat) (depth bound : Nat)
    (siblings : List Callout) : Prop where
  depth_eq : ∀ c ∈ siblings, c.depth = depth + 1
  parent_of : ∀ c ∈ siblings, Parent lines c.start parent
  stop_lt : ∀ c ∈ siblings, c.stop < bound
  orderly : siblings.Pairwise fun earlier later => earlier.stop < later.start

/-- A finished callout is what the lines say of it. -/
structure Faithful (lines : List Text) (c : Callout) : Prop where
  header : Header.ofLine? (lineAt lines c.start) =
    some ⟨markers lines c.start, c.kind, c.metadataText, c.title⟩
  headerLine : c.headerLine = lineAt lines c.start
  ends : Ends lines c.start c.stop
  body : c.body = (lines.take (c.stop + 1)).drop (c.start + 1)
  children : Siblings lines (some c.start) c.depth (c.stop + 1) c.children

/-- An open callout has taken all lines up to line `n`. -/
structure Tracked (lines : List Text) (n : Nat) (o : Open) : Prop where
  live : Live lines n o.start
  header : Header.ofLine? (lineAt lines o.start) = some o.header
  headerLine : o.headerLine = lineAt lines o.start
  last : IsGreatest {l | o.start ≤ l ∧ l < n ∧ ¬Blank lines l} o.stop
  body : o.body.reverse = (lines.take n).drop (o.start + 1)
  children : Siblings lines (some o.start) o.depth (o.stop + 1) o.children.reverse
  faithful : ∀ c ∈ walkAll o.children.reverse, Faithful lines c

/-- The first line of the innermost of the callouts around. -/
def startAround (outer : List Open) : Option Nat := outer.head?.map Open.start

/-- How deep the innermost of the callouts around is. -/
def depthAround : (outer : List Open) → Nat
  | [] => 0
  | around :: _ => around.depth

/-- The closed callouts in the innermost of the callouts around, or outside any, latest first. -/
def closedAround (roots : List Callout) : (outer : List Open) → List Callout
  | [] => roots
  | around :: _ => around.children

/-- An open callout is placed among the callouts around it as the lines say. -/
structure Fits (lines : List Text) (roots : List Callout) (outer : List Open) (o : Open) :
    Prop where
  depth_eq : o.depth = depthAround outer + 1
  parent_of : Parent lines o.start (startAround outer)
  markers_lt : ∀ around ∈ outer, around.header.markers < o.header.markers
  start_lt : ∀ around ∈ outer, around.start < o.start
  closed_lt : ∀ c ∈ closedAround roots outer, c.stop < o.start

/-- The open callouts, innermost first, and the roots that are closed. -/
inductive Nested (lines : List Text) (n : Nat) : List Open → List Callout → Prop where
  | nil {roots : List Callout} (siblings : Siblings lines none 0 n roots.reverse)
      (faithful : ∀ c ∈ walkAll roots.reverse, Faithful lines c) : Nested lines n [] roots
  | cons {o : Open} {outer : List Open} {roots : List Callout} (tracked : Tracked lines n o)
      (fits : Fits lines roots outer o) (rest : Nested lines n outer roots) :
      Nested lines n (o :: outer) roots

/-- The first lines of all callouts so far, in the order of the note. -/
def starts : (stack : List Open) → (roots : List Callout) → List Nat
  | [], roots => (walkAll roots.reverse).map Callout.start
  | o :: outer, roots =>
    starts outer roots ++ o.start :: (walkAll o.children.reverse).map Callout.start

/-- What holds of a scan in front of line `n`. -/
structure Invariant (lines : List Text) (n : Nat) (s : State) : Prop where
  nested : Nested lines n s.stack s.roots
  live : ∀ i, i ∈ s.stack.map Open.start ↔ Live lines n i
  starts_eq : starts s.stack s.roots = openers lines n

theorem initial_invariant : Invariant lines 0 .initial where
  nested := .nil ⟨by simp [State.initial], by simp [State.initial], by simp [State.initial],
    by simp [State.initial]⟩ (by simp [State.initial])
  live i := by simp [State.initial, Live]
  starts_eq := rfl

/-! ## Closing -/

theorem Siblings.concat {parent : Option Nat} {depth bound bound' : Nat} {front : List Callout}
    {c : Callout} (siblings : Siblings lines parent depth bound front) (le : bound ≤ bound')
    (depth_eq : c.depth = depth + 1) (parent_of : Parent lines c.start parent)
    (stop_lt : c.stop < bound') (after : ∀ earlier ∈ front, earlier.stop < c.start) :
    Siblings lines parent depth bound' (front ++ [c]) where
  depth_eq d member := by
    rcases List.mem_append.mp member with old | new
    · exact siblings.depth_eq d old
    · exact List.mem_singleton.mp new ▸ depth_eq
  parent_of d member := by
    rcases List.mem_append.mp member with old | new
    · exact siblings.parent_of d old
    · exact List.mem_singleton.mp new ▸ parent_of
  stop_lt d member := by
    rcases List.mem_append.mp member with old | new
    · exact Nat.lt_of_lt_of_le (siblings.stop_lt d old) le
    · exact List.mem_singleton.mp new ▸ stop_lt
  orderly := List.pairwise_append.mpr ⟨siblings.orderly, List.pairwise_singleton _ _,
    fun a old b new => List.mem_singleton.mp new ▸ after a old⟩

theorem Tracked.markers_eq {o : Open} (tracked : Tracked lines n o) :
    markers lines o.start = o.header.markers :=
  markers_eq_of_header tracked.header

theorem Tracked.stop_lt {o : Open} (tracked : Tracked lines n o) : o.stop < n :=
  tracked.last.1.2.1

/-- A callout that is over is finished as the lines say. -/
theorem Tracked.close {o : Open} (tracked : Tracked lines n o) (done : Over lines n o.start) :
    Faithful lines o.close where
  header := by
    rw [show o.close.start = o.start from rfl, tracked.header, tracked.markers_eq]
    rfl
  headerLine := tracked.headerLine
  ends := tracked.live.ends done tracked.last
  body := by
    -- what was taken up to line `n`, cut behind the last line with content
    have before : o.stop < n := tracked.stop_lt
    have after : o.start ≤ o.stop := tracked.last.1.1
    change o.body.reverse.take (o.stop - o.start) = (lines.take (o.stop + 1)).drop (o.start + 1)
    rw [tracked.body, List.take_drop, List.take_take]
    congr 2
    omega
  children := tracked.children

theorem walkAll_close (o : Open) (closed : List Callout) :
    walkAll (o.close :: closed).reverse =
      walkAll closed.reverse ++ o.close :: walkAll o.children.reverse := by
  rw [List.reverse_cons, walkAll_append, walkAll_cons, walkAll_nil, List.append_nil]
  rfl

/-- Behind a callout that is over, everything closed stays as the lines say. -/
theorem Tracked.close_faithful {o : Open} {closed : List Callout} (tracked : Tracked lines n o)
    (done : Over lines n o.start) (known : ∀ c ∈ walkAll closed.reverse, Faithful lines c) :
    ∀ c ∈ walkAll (o.close :: closed).reverse, Faithful lines c := by
  intro c member
  rw [walkAll_close] at member
  rcases List.mem_append.mp member with old | new
  · exact known c old
  · rcases List.mem_cons.mp new with rfl | nested
    · exact tracked.close done
    · exact tracked.faithful c nested

/-- A callout that closes joins its siblings behind all of them. -/
theorem Fits.close_siblings {o : Open} {bound : Nat} (fits : Fits lines roots outer o)
    (known : Siblings lines (startAround outer) (depthAround outer) bound
      (closedAround roots outer).reverse)
    (stop_lt : o.stop < bound) :
    Siblings lines (startAround outer) (depthAround outer) bound
      (o.close :: closedAround roots outer).reverse := by
  rw [List.reverse_cons]
  refine known.concat (Nat.le_refl bound) fits.depth_eq fits.parent_of stop_lt ?_
  exact fun earlier member => fits.closed_lt earlier (List.mem_reverse.mp member)

/-- A finished callout goes to the callout around it. -/
theorem Tracked.adopt {inner around : Open} (tracked : Tracked lines n around)
    (child : Tracked lines n inner) (fits : Fits lines roots (around :: outer) inner)
    (done : Over lines n inner.start) :
    Tracked lines n { around with children := inner.close :: around.children } where
  live := tracked.live
  header := tracked.header
  headerLine := tracked.headerLine
  last := tracked.last
  body := tracked.body
  children := by
    -- both have taken the same lines since the inner one began, so it cannot end later
    have starts : around.start < inner.start := fits.start_lt around List.mem_cons_self
    have inside : inner.stop ≤ around.stop := by
      obtain ⟨le, lt, content⟩ := child.last.1
      exact tracked.last.2 ⟨by omega, lt, content⟩
    exact fits.close_siblings tracked.children (Nat.lt_succ_of_le inside)
  faithful := child.close_faithful done tracked.faithful

theorem closeDeeper_of_shallow {inner : Open} (shallow : ¬limit < inner.header.markers) :
    closeDeeper limit (inner :: outer) roots = (inner :: outer, roots) := by
  cases outer <;> rw [closeDeeper, if_neg shallow]

theorem Nested.tracked {o : Open} (nested : Nested lines n stack roots) (member : o ∈ stack) :
    Tracked lines n o := by
  induction nested with
  | nil => simp at member
  | cons tracked _ _ ih =>
    rcases List.mem_cons.mp member with rfl | further
    · exact tracked
    · exact ih further

/-- Closing what is over keeps the callouts nested. -/
theorem closeDeeper_nested (nested : Nested lines n stack roots)
    (done : ∀ o ∈ stack, limit < o.header.markers → Over lines n o.start) :
    Nested lines n (closeDeeper limit stack roots).1 (closeDeeper limit stack roots).2 := by
  induction stack, roots using closeDeeper.induct limit with
  | case1 roots =>
    rw [closeDeeper]
    exact nested
  | case2 inner roots deeper =>
    rw [closeDeeper, if_pos deeper]
    cases nested with
    | cons tracked fits rest =>
      cases rest with
      | nil siblings faithful =>
        have ended : Over lines n inner.start := done inner List.mem_cons_self deeper
        exact .nil (fits.close_siblings siblings tracked.stop_lt)
          (tracked.close_faithful ended faithful)
  | case3 inner roots deeper around rest ih =>
    rw [closeDeeper, if_pos deeper]
    -- the callout around adopts the innermost one, and closing goes on from there
    cases nested with
    | cons tracked fits nested =>
      cases nested with
      | cons trackedAround fitsAround nested =>
        have ended : Over lines n inner.start := done inner List.mem_cons_self deeper
        have adopted := trackedAround.adopt tracked fits ended
        refine ih (.cons adopted ?_ nested) (fun o member => ?_)
        · exact ⟨fitsAround.depth_eq, fitsAround.parent_of, fitsAround.markers_lt,
            fitsAround.start_lt, fitsAround.closed_lt⟩
        · rcases List.mem_cons.mp member with rfl | further
          · exact done around (by simp)
          · exact done o (by simp [further])
  | case4 inner outer roots shallow =>
    rw [closeDeeper_of_shallow shallow]
    exact nested

/-- Closing keeps every callout at its place in the note. -/
theorem closeDeeper_starts (limit : Nat) (stack : List Open) (roots : List Callout) :
    starts (closeDeeper limit stack roots).1 (closeDeeper limit stack roots).2 =
      starts stack roots := by
  induction stack, roots using closeDeeper.induct limit with
  | case1 roots => rw [closeDeeper]
  | case2 inner roots deeper =>
    rw [closeDeeper, if_pos deeper]
    simp only [starts, walkAll_close, List.map_append, List.map_cons]
    rfl
  | case3 inner roots deeper around rest ih =>
    rw [closeDeeper, if_pos deeper]
    refine ih.trans ?_
    simp only [starts, walkAll_close, List.map_append, List.map_cons, List.append_assoc,
      List.cons_append]
    rfl
  | case4 inner outer roots shallow => rw [closeDeeper_of_shallow shallow]

/-- What stays open, apart from the children it was handed. -/
theorem closeDeeper_kept (limit : Nat) (stack : List Open) (roots : List Callout) :
    (closeDeeper limit stack roots).1.map Open.start =
      (stack.dropWhile fun o => limit < o.header.markers).map Open.start := by
  induction stack, roots using closeDeeper.induct limit with
  | case1 roots => rw [closeDeeper]; rfl
  | case2 inner roots deeper =>
    rw [closeDeeper, if_pos deeper, List.dropWhile_cons_of_pos (by simpa using deeper)]
    rfl
  | case3 inner roots deeper around rest ih =>
    rw [closeDeeper, if_pos deeper, List.dropWhile_cons_of_pos (by simpa using deeper), ih]
    by_cases further : limit < around.header.markers <;> simp [further]
  | case4 inner outer roots shallow =>
    rw [closeDeeper_of_shallow shallow, List.dropWhile_cons_of_neg (by simpa using shallow)]

/-- As the markers grow strictly inward, nothing with too many of them hides behind a callout
that stays open. -/
theorem Nested.mem_dropWhile {o : Open} (nested : Nested lines n stack roots) :
    o ∈ stack.dropWhile (fun o => limit < o.header.markers) ↔
      o ∈ stack ∧ ¬limit < o.header.markers := by
  induction nested with
  | nil => simp
  | @cons inner outer _ _ fits _ ih =>
    by_cases deeper : limit < inner.header.markers
    · rw [List.dropWhile_cons_of_pos (by simpa using deeper), ih]
      constructor
      · exact fun ⟨member, shallow⟩ => ⟨List.mem_cons_of_mem _ member, shallow⟩
      · rintro ⟨member, shallow⟩
        rcases List.mem_cons.mp member with rfl | further
        · exact absurd deeper shallow
        · exact ⟨further, shallow⟩
    · -- here the strict growth counts: whatever lies further out has fewer markers still
      rw [List.dropWhile_cons_of_neg (by simpa using deeper)]
      refine ⟨fun member => ⟨member, ?_⟩, fun kept => kept.1⟩
      rcases List.mem_cons.mp member with rfl | further
      · exact deeper
      · have fewer := fits.markers_lt o further
        omega

/-- What holds of a scan that has closed what line `n` breaks. -/
structure Narrowed (lines : List Text) (n : Nat) (s : State) : Prop where
  nested : Nested lines n s.stack s.roots
  encloses : ∀ i, i ∈ s.stack.map Open.start ↔ Encloses lines i n
  starts_eq : starts s.stack s.roots = openers lines n

theorem closeTo_narrowed {s : State} (inv : Invariant lines n s)
    (limits : ∀ i, i < n → Opens lines i → (limit < markers lines i ↔ Breaks lines i n)) :
    Narrowed lines n (s.closeTo limit) where
  nested := by
    refine closeDeeper_nested inv.nested (fun o member deeper => ?_)
    have tracked := inv.nested.tracked member
    have live := tracked.live
    -- what is closed was broken by line `n`, so no later line belongs to it
    rw [← tracked.markers_eq] at deeper
    exact over_of_breaks live.lt ((limits _ live.lt live.opens).mp deeper)
  encloses i := by
    rw [encloses_iff, ← inv.live]
    change i ∈ (closeDeeper limit s.stack s.roots).1.map Open.start ↔ _
    rw [closeDeeper_kept, List.mem_map]
    constructor
    · rintro ⟨o, kept, rfl⟩
      obtain ⟨member, shallow⟩ := inv.nested.mem_dropWhile.mp kept
      have tracked := inv.nested.tracked member
      rw [← tracked.markers_eq, limits _ tracked.live.lt tracked.live.opens] at shallow
      exact ⟨List.mem_map_of_mem member, shallow⟩
    · rintro ⟨isOpen, unbroken⟩
      obtain ⟨o, member, rfl⟩ := List.mem_map.mp isOpen
      have tracked := inv.nested.tracked member
      refine ⟨o, inv.nested.mem_dropWhile.mpr ⟨member, ?_⟩, rfl⟩
      rwa [← tracked.markers_eq, limits _ tracked.live.lt tracked.live.opens]
  starts_eq := (closeDeeper_starts limit s.stack s.roots).trans inv.starts_eq

end DreamJournal.Scan
