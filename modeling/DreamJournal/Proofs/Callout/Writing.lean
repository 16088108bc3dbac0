import DreamJournal.Proofs.Callout.Outline
import DreamJournal.Proofs.Callout.Step

/-!
# Scanning undoes writing

The scan of written outlines finds the callouts that they stand for, and has nothing to warn about.

The induction goes along the outline, from a state in which everything deeper than the callouts
around is closed. All that the callouts around notice of an outline is that its lines are theirs too
and that one more callout is closed inside the innermost of them; `absorb` says this.
-/
namespace DreamJournal.Scan

open Outline

variable {s base : State} {n depth : Nat} {lines more : List Text} {closed further : List Callout}

theorem run_append (s : State) (n : Nat) (front back : List Text) :
    run s n (front ++ back) = run (run s n front) (n + front.length) back := by
  induction front generalizing s n with
  | nil => rfl
  | cons line front ih =>
    rw [List.cons_append, run, ih, run, List.length_cons, Nat.add_assoc, Nat.add_comm 1]

/-! ## Closing twice -/

theorem closeDeeper_closeDeeper {low high : Nat} (le : low ≤ high) (stack : List Open)
    (roots : List Callout) :
    closeDeeper low (closeDeeper high stack roots).1 (closeDeeper high stack roots).2 =
      closeDeeper low stack roots := by
  induction stack, roots using closeDeeper.induct high with
  | case1 roots => rw [closeDeeper]
  | case2 inner roots deeper =>
    rw [closeDeeper, if_pos deeper, closeDeeper, closeDeeper, if_pos (by omega)]
  | case3 inner roots deeper around rest ih =>
    rw [closeDeeper, if_pos deeper, ih, closeDeeper, if_pos (by omega)]
  | case4 inner outer roots shallow => rw [closeDeeper_of_shallow shallow]

/-- Close the innermost callout and no further one. -/
theorem closeDeeper_one {limit : Nat} {inner around : Open} {outer : List Open}
    {roots : List Callout} (deeper : limit < inner.header.markers)
    (shallow : ¬limit < around.header.markers) :
    closeDeeper limit (inner :: around :: outer) roots =
      ({ around with children := inner.close :: around.children } :: outer, roots) := by
  rw [closeDeeper, if_pos deeper]
  exact closeDeeper_of_shallow shallow

theorem closeTo_closeTo {low high : Nat} (le : low ≤ high) (s : State) :
    (s.closeTo high).closeTo low = s.closeTo low := by
  unfold State.closeTo
  rw [closeDeeper_closeDeeper le]

/-! ## Taking several lines -/

/-- Let an open callout take lines with content that follow its last one. -/
def Open.grow (lines : List Text) (o : Open) : Open :=
  { o with body := lines.reverse ++ o.body, stop := o.stop + lines.length }

theorem Open.takeLine_eq_grow {o : Open} {line : Text} (upTo : o.stop + 1 = n) :
    o.takeLine n line = o.grow [line] := by
  rw [takeLine, grow, ← upTo]
  rfl

@[simp] theorem Open.grow_nil (o : Open) : o.grow [] = o := rfl

/-- The callouts around closed ones take their lines, and the innermost takes them in. -/
def State.absorb (lines : List Text) (closed : List Callout) (s : State) : State :=
  match s.stack with
  | [] => { s with roots := closed.reverse ++ s.roots }
  | around :: outer =>
    { s with stack :=
        { around.grow lines with children := closed.reverse ++ around.children } ::
          outer.map (Open.grow lines) }

@[simp] theorem State.absorb_nil (s : State) : s.absorb [] [] = s := by
  obtain ⟨stack, roots, warnings⟩ := s
  cases stack with
  | nil => rfl
  | cons around outer =>
    have same : outer.map (Open.grow []) = outer := List.map_id' outer
    simp [absorb, same]

theorem State.absorb_absorb (s : State) (lines more : List Text) (closed further : List Callout) :
    (s.absorb lines closed).absorb more further = s.absorb (lines ++ more) (closed ++ further) := by
  obtain ⟨stack, roots, warnings⟩ := s
  cases stack with
  | nil => simp [absorb]
  | cons around outer =>
    simp [absorb, Open.grow, Function.comp_def, Nat.add_assoc]

/-- Nothing deeper than `depth` is open, and all that is open goes on up to line `n`. -/
structure AtDepth (depth n : Nat) (s : State) : Prop where
  empty : s.stack = [] → depth = 0
  innermost : ∀ around ∈ s.stack.head?, around.header.markers = depth ∧ around.depth = depth
  upTo : ∀ o ∈ s.stack, o.stop + 1 = n

theorem AtDepth.absorb (atDepth : AtDepth depth n s) (lines : List Text) (closed : List Callout) :
    AtDepth depth (n + lines.length) (s.absorb lines closed) := by
  obtain ⟨empty, innermost, upTo⟩ := atDepth
  obtain ⟨stack, roots, warnings⟩ := s
  cases stack with
  | nil => exact ⟨empty, innermost, by simp [State.absorb]⟩
  | cons around outer =>
    refine ⟨by simp [State.absorb], ?_, ?_⟩
    · rintro _ ⟨⟩
      exact innermost around rfl
    · have grown (o : Open) (member : o ∈ around :: outer) :
          o.stop + lines.length + 1 = n + lines.length := by
        have reached := upTo o member
        omega
      intro o member
      rcases List.mem_cons.mp member with rfl | further
      · exact grown around List.mem_cons_self
      · obtain ⟨before, isOuter, rfl⟩ := List.mem_map.mp further
        exact grown before (List.mem_cons_of_mem _ isOuter)

theorem AtDepth.closeTo_eq (atDepth : AtDepth depth n s) : s.closeTo depth = s := by
  obtain ⟨_, innermost, _⟩ := atDepth
  obtain ⟨stack, roots, warnings⟩ := s
  cases stack with
  | nil => rw [State.closeTo, closeDeeper]
  | cons around outer =>
    have shallow : ¬depth < around.header.markers := by
      rw [(innermost around rfl).1]
      exact Nat.lt_irrefl depth
    rw [State.closeTo, closeDeeper_of_shallow shallow]

theorem AtDepth.takeLine_eq (atDepth : AtDepth depth n s) (line : Text) :
    s.stack.map (Open.takeLine n line) = s.stack.map (Open.grow [line]) :=
  List.map_congr_left fun o member => Open.takeLine_eq_grow (atDepth.upTo o member)

/-! ## Single lines -/

theorem step_passage (atDepth : AtDepth depth n s) (inside : depth ≠ 0) (p : Passage) :
    step s n (quoted depth p.text) = s.absorb [quoted depth p.text] [] := by
  rw [step, isAllBlank_quoted inside, if_neg Bool.false_ne_true, count_quoted p.head_notPart,
    if_neg inside, Header.ofLine?_passage inside, strip_quoted inside p.head_notPart,
    p.looksLikeTag_eq_false, if_neg Bool.false_ne_true]
  simp only [atDepth.closeTo_eq, atDepth.takeLine_eq]
  have occupied := mt atDepth.empty inside
  obtain ⟨around, outer, stack_eq⟩ := List.exists_cons_of_ne_nil occupied
  simp only [State.absorb, stack_eq, List.map_cons]
  rfl

theorem run_passages (atDepth : AtDepth depth n s) (inside : depth ≠ 0) (passages : List Passage) :
    run s n (passages.map fun p => quoted depth p.text) =
      s.absorb (passages.map fun p => quoted depth p.text) [] := by
  induction passages generalizing s n with
  | nil => exact s.absorb_nil.symm
  | cons p rest ih =>
    have next := atDepth.absorb [quoted depth p.text] []
    rw [List.map_cons, run, step_passage atDepth inside p]
    rw [List.length_singleton] at next
    rw [ih next, State.absorb_absorb, List.singleton_append, List.append_nil]

/-- The state behind the header of an outline. -/
def State.enter (depth n : Nat) (tag : Tag) (base : State) : State :=
  let line := quoted (depth + 1) tag.written
  { base with
    stack := opened n line ⟨depth + 1, tag.kind, none, tag.title⟩ (depth + 1) ::
      base.stack.map (Open.grow [line]) }

theorem step_tag (narrowed : s.closeTo depth = base) (atDepth : AtDepth depth n base) (tag : Tag) :
    step s n (quoted (depth + 1) tag.written) = base.enter depth n tag := by
  have starts : ∀ c ∈ tag.written.head?, Marker.isPart c = false := by
    rintro c ⟨⟩
    rfl
  rw [step, isAllBlank_quoted (Nat.add_one_ne_zero depth), if_neg Bool.false_ne_true,
    count_quoted starts, if_neg (Nat.add_one_ne_zero depth),
    Header.ofLine?_tag (Nat.add_one_ne_zero depth)]
  simp only [State.openCallout, Nat.add_sub_cancel, narrowed]
  have taken := atDepth.takeLine_eq (quoted (depth + 1) tag.written)
  obtain ⟨empty, innermost, _⟩ := atDepth
  obtain ⟨stack, roots, warnings⟩ := base
  cases stack with
  | nil =>
    obtain rfl := empty rfl
    rfl
  | cons around outer =>
    obtain ⟨markers, isDeep⟩ := innermost around rfl
    have placed : placement? (around :: outer) ⟨depth + 1, tag.kind, none, tag.title⟩ = none := by
      simp [placement?, markers]
    simp only [placed, isDeep, taken]
    rfl

theorem AtDepth.enter (atDepth : AtDepth depth n base) (tag : Tag) :
    AtDepth (depth + 1) (n + 1) (base.enter depth n tag) := by
  refine ⟨by simp [State.enter], ?_, fun o member => ?_⟩
  · rintro _ ⟨⟩
    exact ⟨rfl, rfl⟩
  · rcases List.mem_cons.mp member with rfl | around
    · rfl
    · obtain ⟨before, isAround, rfl⟩ := List.mem_map.mp around
      exact congrArg (· + 1) (atDepth.upTo before isAround)

/-- An outline is closed behind its last line. -/
theorem closeTo_enter (atDepth : AtDepth depth n base) (tag : Tag) (lines : List Text)
    (closed : List Callout) :
    ((base.enter depth n tag).absorb lines closed).closeTo depth =
      base.absorb (quoted (depth + 1) tag.written :: lines)
        [⟨depth + 1, tag.kind, none, quoted (depth + 1) tag.written, tag.title, lines, n,
          n + lines.length, closed⟩] := by
  obtain ⟨_, innermost, _⟩ := atDepth
  obtain ⟨stack, roots, warnings⟩ := base
  cases stack with
  | nil =>
    simp [State.enter, State.absorb, State.closeTo, closeDeeper, opened, Open.grow, Open.close]
  | cons around outer =>
    -- the callout around is as deep as the limit, so closing stops in front of it
    have shallow : ¬depth < around.header.markers := by
      rw [(innermost around rfl).1]
      exact Nat.lt_irrefl depth
    simp only [State.enter, State.absorb, State.closeTo, List.map_cons]
    rw [closeDeeper_one]
    case deeper => exact Nat.lt_succ_self depth
    case shallow => exact shallow
    simp [opened, Open.grow, Open.close, Function.comp_def, Nat.add_assoc, Nat.add_comm 1]

/-! ## Whole outlines -/

mutual

theorem run_write : (o : Outline) → ∀ (s base : State) (n depth : Nat),
    s.closeTo depth = base → AtDepth depth n base →
      (run s n (write (depth + 1) o)).closeTo depth =
        base.absorb (write (depth + 1) o) [draw (depth + 1) n o]
  | .callout tag passages inner => by
    intro s base n depth narrowed atDepth
    have entered := atDepth.enter tag
    have passed := entered.absorb (passages.map fun p => quoted (depth + 1) p.text) []
    -- the inner outlines are written from a state that stays as it is when it is closed
    have below := run_writeAll inner _ _ _ _ passed.closeTo_eq passed
    rw [write, run, step_tag narrowed atDepth, run_append,
      run_passages entered (Nat.add_one_ne_zero depth), ← closeTo_closeTo (Nat.le_succ depth),
      below, State.absorb_absorb, closeTo_enter atDepth, List.nil_append, List.length_map, draw]

theorem run_writeAll : (os : List Outline) → ∀ (s base : State) (n depth : Nat),
    s.closeTo depth = base → AtDepth depth n base →
      (run s n (writeAll (depth + 1) os)).closeTo depth =
        base.absorb (writeAll (depth + 1) os) (drawAll (depth + 1) n os)
  | [] => by
    intro s base n depth narrowed _
    rw [writeAll, drawAll, run, narrowed, State.absorb_nil]
  | first :: rest => by
    intro s base n depth narrowed atDepth
    have here := run_write first _ _ _ _ narrowed atDepth
    have later := run_writeAll rest _ _ _ _ here (atDepth.absorb _ _)
    rw [writeAll, run_append, later, State.absorb_absorb, drawAll, List.singleton_append]

end

/-- Scanning written outlines gives their callouts back, and no warning. -/
theorem ofLines_writeAll (os : List Outline) :
    Scan.ofLines (writeAll 1 os) = ⟨drawAll 1 0 os, []⟩ := by
  have outside : AtDepth 0 0 State.initial := ⟨fun _ => rfl, by simp [State.initial], by
    simp [State.initial]⟩
  have closed := run_writeAll os _ _ _ _ outside.closeTo_eq outside
  rw [Scan.ofLines, closed]
  simp [State.absorb, State.initial]

end DreamJournal.Scan
