import DreamJournal.Proofs.Callout.Step
import Mathlib.Data.List.Nodup

/-!
# The forest of a note

Two statements about the forest that a scan returns. `ofText_placed`: every header begins one
callout, and that callout has the parent and the end that the containment of lines gives it.
`ofText_intact`: the visits of the forest pass every header once and in order, and each callout
holds exactly the lines of its span, inside the span of its parent and clear of its siblings.

Both are read off `Scanned`, what the invariant says when the note is over.
-/
namespace DreamJournal.Scan

open Containment Callout

variable {lines : List Text} {roots : List Callout} {c d p : Callout} {j : Nat}

namespace Scanned

theorem ascending (scanned : Scanned lines roots) :
    ((walkAll roots).map Callout.start).Pairwise (· < ·) := by
  rw [scanned.starts_eq]
  exact openers_sorted

theorem opens (scanned : Scanned lines roots) (member : c ∈ walkAll roots) :
    Opens lines c.start := by
  rw [opens_iff, (scanned.faithful c member).header]
  rfl

/-- Two callouts never begin on one line. -/
theorem eq_of_start_eq (scanned : Scanned lines roots) (first : c ∈ walkAll roots)
    (second : d ∈ walkAll roots) (same : c.start = d.start) : c = d := by
  have distinct : ((walkAll roots).map Callout.start).Nodup :=
    scanned.ascending.imp Nat.ne_of_lt
  exact List.inj_on_of_nodup_map distinct first second same

theorem parent_of_child (scanned : Scanned lines roots) (outer : p ∈ walkAll roots)
    (child : c ∈ p.children) : Parent lines c.start (some p.start) :=
  (scanned.faithful p outer).children.parent_of c child

/-- A callout of the forest is a root or a child. -/
theorem root_or_child (member : c ∈ walkAll roots) :
    c ∈ roots ∨ ∃ p ∈ walkAll roots, c ∈ p.children := by
  obtain ⟨around, path⟩ := exists_path member
  cases path with
  | root isRoot => exact .inl isRoot
  | nested outer isChild => exact .inr ⟨_, outer.mem, isChild⟩

theorem child_iff (scanned : Scanned lines roots) (member : c ∈ walkAll roots)
    (outer : p ∈ walkAll roots) : c ∈ p.children ↔ Parent lines c.start (some p.start) := by
  refine ⟨scanned.parent_of_child outer, fun parent => ?_⟩
  rcases root_or_child member with isRoot | ⟨q, isThere, child⟩
  · have none := (scanned.siblings.parent_of c isRoot).unique parent
    simp at none
  · -- a line has one parent, and one callout begins there
    have same := (scanned.parent_of_child isThere child).unique parent
    rwa [scanned.eq_of_start_eq isThere outer (Option.some.inj same)] at child

theorem root_iff (scanned : Scanned lines roots) (member : c ∈ walkAll roots) :
    c ∈ roots ↔ Parent lines c.start none := by
  refine ⟨scanned.siblings.parent_of c, fun parent => ?_⟩
  rcases root_or_child member with isRoot | ⟨q, isThere, child⟩
  · exact isRoot
  · have some := (scanned.parent_of_child isThere child).unique parent
    simp at some

theorem exists_of_opens (scanned : Scanned lines roots) (opens : Opens lines j) :
    ∃ c ∈ walkAll roots, c.start = j := by
  have listed : j ∈ openers lines lines.length := mem_openers.mpr ⟨opens.lt_length, opens⟩
  rwa [← scanned.starts_eq, List.mem_map] at listed

/-- Only one path leads to a callout. -/
theorem path_unique (scanned : Scanned lines roots) {around around' : List Callout}
    (first : Callout.Path roots c around) (second : Callout.Path roots c around') :
    around = around' := by
  -- both paths end in the one parent that the lines give, so they agree from the end on
  induction first generalizing around' with
  | root isRoot =>
    cases second with
    | root _ => rfl
    | nested outer child =>
      have none := (scanned.siblings.parent_of _ isRoot).unique
        (scanned.parent_of_child outer.mem child)
      simp at none
  | nested outer child ih =>
    have parent := scanned.parent_of_child outer.mem child
    cases second with
    | root isRoot =>
      have none := (scanned.siblings.parent_of _ isRoot).unique parent
      simp at none
    | nested outer' child' =>
      have same := (scanned.parent_of_child outer'.mem child').unique parent
      obtain rfl := scanned.eq_of_start_eq outer'.mem outer.mem (Option.some.inj same)
      rw [ih outer']

/-- A nested callout begins behind the header around it and ends no later. -/
theorem nested_span (scanned : Scanned lines roots) (outer : p ∈ walkAll roots)
    (nested : c ∈ walkAll p.children) : p.start < c.start ∧ c.stop ≤ p.stop := by
  obtain ⟨around, path⟩ := exists_path nested
  -- along the path from the outer callout down to the nested one
  induction path with
  | root child =>
    exact ⟨(scanned.parent_of_child outer child).1.1,
      Nat.le_of_lt_succ ((scanned.faithful p outer).children.stop_lt _ child)⟩
  | nested above child ih =>
    have inForest := mem_walkAll_trans outer above.mem
    have ⟨behind, inside⟩ := ih above.mem
    have later := (scanned.parent_of_child inForest child).1.1
    have sooner := (scanned.faithful _ inForest).children.stop_lt _ child
    omega

/-- The callouts around a visited one are all those that it is nested in. -/
theorem mem_around_iff (scanned : Scanned lines roots) {v : Visit} (visited : v ∈ visits roots) :
    p ∈ v.around ↔ p ∈ walkAll roots ∧ v.callout ∈ walkAll p.children := by
  refine ⟨(visits_path visited).around_mem, ?_⟩
  rintro ⟨outer, nested⟩
  -- the path to the outer callout goes on to the visited one, and there is no other path
  obtain ⟨above, toOuter⟩ := exists_path outer
  obtain ⟨below, toInner⟩ := exists_path nested
  rw [scanned.path_unique (visits_path visited) (toOuter.append toInner)]
  simp

end Scanned

/-- A callout of a forest stands where the lines place the header on line `j`. -/
structure Placed (lines : List Text) (roots : List Callout) (j : Nat) (c : Callout) : Prop where
  start_eq : c.start = j
  unique : ∀ d ∈ walkAll roots, d.start = j → d = c
  parent : ∀ i, Parent lines j (some i) → ∃ p ∈ walkAll roots, p.start = i ∧ c ∈ p.children
  child_iff : ∀ p ∈ walkAll roots, c ∈ p.children ↔ Parent lines j (some p.start)
  root_iff : c ∈ roots ↔ ∀ i, ¬Encloses lines i j
  ends : Ends lines j c.stop

/-- Closing from the innermost callout outward computes the containment of lines: every header
begins one callout of the forest, below the last header whose callout goes on past it, and with
the end that the first line to break it sets. -/
theorem ofText_placed (note : Text) (j : Nat) (opens : Opens (Text.lines note) j) :
    ∃ c ∈ walkAll (Scan.ofText note).roots,
      Placed (Text.lines note) (Scan.ofText note).roots j c := by
  have scanned : Scanned (Text.lines note) (Scan.ofText note).roots :=
    ofLines_scanned (Text.lines note)
  obtain ⟨c, member, rfl⟩ := scanned.exists_of_opens opens
  refine ⟨c, member, rfl, fun d isThere same => scanned.eq_of_start_eq isThere member same,
    fun i parent => ?_, fun p outer => scanned.child_iff member outer,
    scanned.root_iff member, (scanned.faithful c member).ends⟩
  obtain ⟨p, outer, rfl⟩ := scanned.exists_of_opens parent.1.2.1
  exact ⟨p, outer, rfl, (scanned.child_iff member outer).mpr parent⟩

/-- A header that skips a level, below a callout that goes on behind it. -/
theorem ofText_placed_skipping :
    let note := Text.of "> [!day]\n>>> [!dream] Sea\n>>> waves\n\n> shore\n>> [!dream] Hill"
    Opens (Text.lines note) 1 ∧
      ∃ c ∈ walkAll (Scan.ofText note).roots,
        Placed (Text.lines note) (Scan.ofText note).roots 1 c :=
  ⟨by decide, ofText_placed _ 1 (by decide)⟩

/-- A forest holds the lines of a note without loss. -/
structure Intact (lines : List Text) (roots : List Callout) : Prop where
  visited : ((visits roots).map fun v => v.callout.start) = openers lines lines.length
  ascending : ((visits roots).map fun v => v.callout.start).Pairwise (· < ·)
  root_depth : ∀ root ∈ roots, root.depth = 1
  child_depth : ∀ v ∈ visits roots, ∀ child ∈ v.callout.children,
    child.depth = v.callout.depth + 1
  header : ∀ v ∈ visits roots, lines[v.callout.start]? = some v.callout.headerLine
  body : ∀ v ∈ visits roots,
    v.callout.body = (lines.take (v.callout.stop + 1)).drop (v.callout.start + 1) ∧
      v.callout.body.length = v.callout.stop - v.callout.start
  content : ∀ v ∈ visits roots, v.callout.stop < lines.length ∧ ¬Blank lines v.callout.stop
  inside : ∀ v ∈ visits roots, ∀ child ∈ v.callout.children,
    v.callout.start < child.start ∧ child.start ≤ child.stop ∧ child.stop ≤ v.callout.stop
  root_order : roots.Pairwise fun earlier later => earlier.stop < later.start
  child_order : ∀ v ∈ visits roots,
    v.callout.children.Pairwise fun earlier later => earlier.stop < later.start

/-- Nothing of a note is lost, doubled or moved in its forest. -/
theorem ofText_intact (note : Text) : Intact (Text.lines note) (Scan.ofText note).roots := by
  have scanned : Scanned (Text.lines note) (Scan.ofText note).roots :=
    ofLines_scanned (Text.lines note)
  have starts : ((visits (Scan.ofText note).roots).map fun v => v.callout.start) =
      (walkAll (Scan.ofText note).roots).map Callout.start := by
    rw [← visits_callouts, List.map_map]
    rfl
  have told (v : Visit) (member : v ∈ visits (Scan.ofText note).roots) :
      Faithful (Text.lines note) v.callout :=
    scanned.faithful v.callout (mem_walkAll_of_visit member)
  constructor
  case visited => rw [starts, scanned.starts_eq]
  case ascending => exact starts ▸ scanned.ascending
  case root_depth => exact scanned.siblings.depth_eq
  case child_depth => exact fun v member => (told v member).children.depth_eq
  case header =>
    intro v member
    have lt : v.callout.start < (Text.lines note).length :=
      Nat.lt_of_le_of_lt (told v member).ends.1.1 (told v member).ends.1.2.1
    rw [List.getElem?_eq_getElem lt, ← lineAt_eq_getElem lt, (told v member).headerLine]
  case body =>
    intro v member
    have body := (told v member).body
    have lt := (told v member).ends.1.2.1
    refine ⟨body, ?_⟩
    rw [body, List.length_drop, List.length_take]
    omega
  case content =>
    intro v member
    obtain ⟨_, lt, content, _⟩ := (told v member).ends.1
    exact ⟨lt, content⟩
  case inside =>
    intro v member child isChild
    have below : child ∈ walkAll (Scan.ofText note).roots :=
      mem_walkAll_of_child (mem_walkAll_of_visit member) isChild
    exact ⟨((told v member).children.parent_of child isChild).1.1,
      (scanned.faithful child below).ends.1.1,
      Nat.le_of_lt_succ ((told v member).children.stop_lt child isChild)⟩
  case root_order => exact scanned.siblings.orderly
  case child_order => exact fun v member => (told v member).children.orderly

end DreamJournal.Scan
