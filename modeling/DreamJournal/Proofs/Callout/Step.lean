import DreamJournal.Proofs.Callout.Invariant

/-!
# A scan keeps its invariant

Every line is read in two moves: what it breaks is closed, and what stays open takes it; a header
then opens a callout inside. One lemma for each kind of line (blank, unquoted, quoted text, header)
gives the step, and the steps give the run. When the note is over, everything is closed, and the
invariant says of the roots what `Scanned` states.
-/
namespace DreamJournal.Scan

open Containment Callout

variable {lines : List Text} {n limit : Nat} {stack outer : List Open} {roots : List Callout}
  {s : State}

/-! ## Taking a line -/

/-- A change of open callouts that touches only what they have taken. -/
structure KeepsPlace (change : Open → Open) : Prop where
  start_eq : ∀ o, (change o).start = o.start
  depth_eq : ∀ o, (change o).depth = o.depth
  header_eq : ∀ o, (change o).header = o.header
  children_eq : ∀ o, (change o).children = o.children

theorem takeLine_keepsPlace (number : Nat) (line : Text) : KeepsPlace (Open.takeLine number line) :=
  ⟨fun _ => rfl, fun _ => rfl, fun _ => rfl, fun _ => rfl⟩

theorem holdBlank_keepsPlace (line : Text) : KeepsPlace (Open.holdBlank line) :=
  ⟨fun _ => rfl, fun _ => rfl, fun _ => rfl, fun _ => rfl⟩

section KeepsPlace

variable {change : Open → Open}

theorem KeepsPlace.map_start (keeps : KeepsPlace change) :
    (stack.map change).map Open.start = stack.map Open.start := by
  simp [Function.comp_def, keeps.start_eq]

theorem KeepsPlace.starts (keeps : KeepsPlace change) :
    starts (stack.map change) roots = starts stack roots := by
  induction stack with
  | nil => rfl
  | cons o outer ih => simp only [List.map_cons, Scan.starts, ih, keeps.start_eq, keeps.children_eq]

theorem KeepsPlace.startAround (keeps : KeepsPlace change) :
    startAround (outer.map change) = startAround outer := by
  cases outer <;> simp [Scan.startAround, keeps.start_eq]

theorem KeepsPlace.depthAround (keeps : KeepsPlace change) :
    depthAround (outer.map change) = depthAround outer := by
  cases outer <;> simp [Scan.depthAround, keeps.depth_eq]

theorem KeepsPlace.closedAround (keeps : KeepsPlace change) :
    closedAround roots (outer.map change) = closedAround roots outer := by
  cases outer <;> simp [Scan.closedAround, keeps.children_eq]

/-- A callout keeps its place when the callouts around it take a line. -/
theorem Fits.map {o p : Open} (fits : Fits lines roots outer o) (keeps : KeepsPlace change)
    (start_eq : p.start = o.start) (depth_eq : p.depth = o.depth)
    (header_eq : p.header = o.header) : Fits lines roots (outer.map change) p where
  depth_eq := by rw [keeps.depthAround, depth_eq, fits.depth_eq]
  parent_of := by
    rw [keeps.startAround, start_eq]
    exact fits.parent_of
  markers_lt around member := by
    obtain ⟨before, wasThere, rfl⟩ := List.mem_map.mp member
    rw [keeps.header_eq, header_eq]
    exact fits.markers_lt before wasThere
  start_lt around member := by
    obtain ⟨before, wasThere, rfl⟩ := List.mem_map.mp member
    rw [keeps.start_eq, start_eq]
    exact fits.start_lt before wasThere
  closed_lt := by
    rw [keeps.closedAround, start_eq]
    exact fits.closed_lt

theorem Siblings.mono {parent : Option Nat} {depth bound bound' : Nat} {siblings : List Callout}
    (known : Siblings lines parent depth bound siblings) (le : bound ≤ bound') :
    Siblings lines parent depth bound' siblings :=
  ⟨known.depth_eq, known.parent_of,
    fun c member => Nat.lt_of_lt_of_le (known.stop_lt c member) le, known.orderly⟩

theorem Nested.map (nested : Nested lines n stack roots) (keeps : KeepsPlace change)
    (advance : ∀ o ∈ stack, Tracked lines n o → Tracked lines (n + 1) (change o)) :
    Nested lines (n + 1) (stack.map change) roots := by
  induction nested with
  | nil siblings faithful => exact .nil (siblings.mono (Nat.le_succ n)) faithful
  | @cons o outer roots tracked fits _ ih =>
    refine .cons (advance o List.mem_cons_self tracked) ?_
      (ih fun o member => advance o (List.mem_cons_of_mem _ member))
    exact fits.map keeps (keeps.start_eq o) (keeps.depth_eq o) (keeps.header_eq o)

end KeepsPlace

theorem take_succ_drop (lt : n < lines.length) {i : Nat} (before : i < n) :
    (lines.take (n + 1)).drop (i + 1) = (lines.take n).drop (i + 1) ++ [lineAt lines n] := by
  have long : i + 1 ≤ (lines.take n).length := by
    rw [List.length_take]
    omega
  rw [List.take_succ_eq_append_getElem lt, List.drop_append_of_le_length long,
    lineAt_eq_getElem lt]

theorem Tracked.takeLine {o : Open} (tracked : Tracked lines n o)
    (unbroken : ¬Breaks lines o.start n) (content : ¬Blank lines n) :
    Tracked lines (n + 1) (o.takeLine n (lineAt lines n)) where
  live := live_succ_iff.mpr (.inr ⟨tracked.live, unbroken⟩)
  header := tracked.header
  headerLine := tracked.headerLine
  last := ⟨⟨Nat.le_of_lt tracked.live.lt, Nat.lt_succ_self n, content⟩,
    fun l inside => Nat.le_of_lt_succ inside.2.1⟩
  body := by
    change (lineAt lines n :: o.body).reverse = (lines.take (n + 1)).drop (o.start + 1)
    rw [List.reverse_cons, tracked.body,
      take_succ_drop (lt_length_of_not_blank content) tracked.live.lt]
  children := tracked.children.mono (Nat.succ_le_succ (Nat.le_of_lt tracked.stop_lt))
  faithful := tracked.faithful

theorem Tracked.holdBlank {o : Open} (tracked : Tracked lines n o) (lt : n < lines.length)
    (blank : Blank lines n) : Tracked lines (n + 1) (o.holdBlank (lineAt lines n)) where
  live := live_succ_iff.mpr (.inr ⟨tracked.live, not_breaks_of_blank blank⟩)
  header := tracked.header
  headerLine := tracked.headerLine
  last := by
    obtain ⟨⟨le, before, content⟩, greatest⟩ := tracked.last
    refine ⟨⟨le, Nat.lt_succ_of_lt before, content⟩, fun l inside => ?_⟩
    rcases Nat.lt_succ_iff_lt_or_eq.mp inside.2.1 with earlier | rfl
    · exact greatest ⟨inside.1, earlier, inside.2.2⟩
    · exact absurd blank inside.2.2
  body := by
    change (lineAt lines n :: o.body).reverse = (lines.take (n + 1)).drop (o.start + 1)
    rw [List.reverse_cons, tracked.body, take_succ_drop lt tracked.live.lt]
  children := tracked.children
  faithful := tracked.faithful

/-! ## One line -/

/-- After the lines that line `n` breaks are closed, the others take it. -/
theorem Narrowed.taken (narrowed : Narrowed lines n s) {change : Open → Open}
    (keeps : KeepsPlace change)
    (advance : ∀ o, Tracked lines n o → ¬Breaks lines o.start n →
      Tracked lines (n + 1) (change o)) :
    Nested lines (n + 1) (s.stack.map change) s.roots := by
  refine narrowed.nested.map keeps (fun o member tracked => advance o tracked ?_)
  have enclosed := (narrowed.encloses o.start).mp (List.mem_map_of_mem member)
  exact (encloses_iff.mp enclosed).2

/-- A line that is no header leads to the invariant in front of the next one. -/
theorem Narrowed.invariant (narrowed : Narrowed lines n s) (text : ¬Opens lines n)
    {change : Open → Open} (keeps : KeepsPlace change)
    (advance : ∀ o, Tracked lines n o → ¬Breaks lines o.start n →
      Tracked lines (n + 1) (change o)) :
    Invariant lines (n + 1) { s with stack := s.stack.map change } where
  nested := narrowed.taken keeps advance
  live i := by
    rw [keeps.map_start, narrowed.encloses, live_succ_iff_encloses]
    simp [text]
  starts_eq := by
    rw [keeps.starts, narrowed.starts_eq, openers_succ, if_neg text, List.append_nil]

theorem holdBlank_invariant (inv : Invariant lines n s) (lt : n < lines.length)
    (blank : Blank lines n) :
    Invariant lines (n + 1)
      { s with stack := s.stack.map (Open.holdBlank (lineAt lines n)) } := by
  have unbroken (i : Nat) : ¬Breaks lines i n := not_breaks_of_blank blank
  have narrowed : Narrowed lines n s := by
    refine ⟨inv.nested, fun i => ?_, inv.starts_eq⟩
    rw [inv.live, encloses_iff]
    exact (and_iff_left (unbroken i)).symm
  exact narrowed.invariant (fun opens => opens.not_blank blank) (holdBlank_keepsPlace _)
    (fun o tracked _ => tracked.holdBlank lt blank)

theorem closeAll_invariant (inv : Invariant lines n s) (content : ¬Blank lines n)
    (unquoted : markers lines n = 0) : Invariant lines (n + 1) (s.closeTo 0) := by
  have narrowed : Narrowed lines n (s.closeTo 0) := by
    -- a header has a marker, so the limit zero closes everything, as the line breaks everything
    refine closeTo_narrowed inv (fun i _ opens => ?_)
    exact iff_of_true opens.1 (breaks_of_unquoted content unquoted)
  have text : ¬Opens lines n := fun opens => by
    have quoted := opens.1
    omega
  have taken := narrowed.invariant text (takeLine_keepsPlace n (lineAt lines n))
    (fun o tracked unbroken => tracked.takeLine unbroken content)
  -- nothing is left open, so there is nothing that could take the line
  have empty : (s.closeTo 0).stack = [] := by
    apply List.eq_nil_iff_forall_not_mem.mpr
    intro o member
    have enclosed := (narrowed.encloses o.start).mp (List.mem_map_of_mem member)
    exact (encloses_iff.mp enclosed).2 (breaks_of_unquoted content unquoted)
  rw [empty, List.map_nil, ← empty] at taken
  exact taken

theorem takeText_invariant (inv : Invariant lines n s) (quoted : 1 ≤ markers lines n)
    (text : ¬Opens lines n) :
    Invariant lines (n + 1) { s.closeTo (markers lines n) with
      stack := (s.closeTo (markers lines n)).stack.map (Open.takeLine n (lineAt lines n)) } := by
  have narrowed : Narrowed lines n (s.closeTo (markers lines n)) :=
    closeTo_narrowed inv (fun i _ _ => (breaks_iff_of_text quoted text).symm)
  exact narrowed.invariant text (takeLine_keepsPlace n _)
    (fun o tracked unbroken => tracked.takeLine unbroken (not_blank_of_markers quoted))

/-- The callout that a header opens. -/
def opened (number : Nat) (line : Text) (header : Header) (depth : Nat) : Open :=
  ⟨header, line, depth, number, number, [], []⟩

theorem openCallout_stack (number : Nat) (line : Text) (header : Header) (s : State) :
    (s.openCallout number line header).stack =
      opened number line header (depthAround (s.closeTo (header.markers - 1)).stack + 1) ::
        (s.closeTo (header.markers - 1)).stack.map (Open.takeLine number line) := by
  unfold State.openCallout
  generalize s.closeTo (header.markers - 1) = narrowed
  obtain ⟨stack, roots, warnings⟩ := narrowed
  cases placed : placement? stack header <;> cases stack <;>
    (simp only [placed]; rfl)

theorem openCallout_roots (number : Nat) (line : Text) (header : Header) (s : State) :
    (s.openCallout number line header).roots = (s.closeTo (header.markers - 1)).roots := by
  unfold State.openCallout
  generalize s.closeTo (header.markers - 1) = narrowed
  cases placed : placement? narrowed.stack header with
  | none => simp only [placed]
  | some warning =>
    simp only [placed]
    rfl

theorem opened_tracked {header : Header} (opens : Opens lines n)
    (found : Header.ofLine? (lineAt lines n) = some header) (depth : Nat) :
    Tracked lines (n + 1) (opened n (lineAt lines n) header depth) where
  live := live_succ_iff.mpr (.inl ⟨rfl, opens⟩)
  header := found
  headerLine := rfl
  last := ⟨⟨Nat.le_refl n, Nat.lt_succ_self n, opens.not_blank⟩,
    fun l inside => Nat.le_of_lt_succ inside.2.1⟩
  body := by
    change [] = (lines.take (n + 1)).drop (n + 1)
    rw [List.drop_eq_nil_of_le (List.length_take_le _ _)]
  children := ⟨by simp [opened], by simp [opened], by simp [opened], by simp [opened]⟩
  faithful := by simp [opened]

/-- A new callout fits below what its header left open: the innermost of these encloses it. -/
theorem Narrowed.opened_fits (narrowed : Narrowed lines n s) {header : Header}
    (opens : Opens lines n) (markers_eq : markers lines n = header.markers) :
    Fits lines s.roots s.stack (opened n (lineAt lines n) header (depthAround s.stack + 1)) := by
  have enclosed (o : Open) (member : o ∈ s.stack) : Encloses lines o.start n :=
    (narrowed.encloses o.start).mp (List.mem_map_of_mem member)
  refine ⟨rfl, ?_, fun o member => ?_, fun o member => (enclosed o member).1, ?_⟩
  · -- the stack holds all that encloses line `n`, and its first member begins last
    cases stacked : s.stack with
    | nil =>
      intro i encloses
      have member := (narrowed.encloses i).mpr encloses
      simp [stacked] at member
    | cons around rest =>
      refine ⟨enclosed around (by simp [stacked]), fun i encloses => ?_⟩
      obtain ⟨o, member, rfl⟩ := List.mem_map.mp ((narrowed.encloses i).mpr encloses)
      rw [stacked] at member
      rcases List.mem_cons.mp member with rfl | further
      · exact Nat.le_refl _
      · have nested := narrowed.nested
        rw [stacked] at nested
        cases nested with
        | cons _ fits _ => exact Nat.le_of_lt (fits.start_lt o further)
  · -- an open callout with as many markers would have been broken by the header
    have unbroken := (encloses_iff.mp (enclosed o member)).2
    rw [breaks_iff_of_opens opens, (narrowed.nested.tracked member).markers_eq, markers_eq]
      at unbroken
    exact Nat.not_le.mp unbroken
  · -- what is closed lies in front of line `n`, in the innermost callout or among the roots
    have nested := narrowed.nested
    cases stacked : s.stack with
    | nil =>
      intro c member
      rw [stacked] at nested
      cases nested with
      | nil siblings _ => exact siblings.stop_lt c (List.mem_reverse.mpr member)
    | cons around rest =>
      intro c member
      have tracked := nested.tracked (o := around) (by simp [stacked])
      have inside := tracked.children.stop_lt c (List.mem_reverse.mpr member)
      have before := tracked.stop_lt
      change c.stop < n
      omega

/-- A header closes what it breaks. -/
theorem Invariant.narrowed {header : Header} (inv : Invariant lines n s)
    (found : Header.ofLine? (lineAt lines n) = some header) :
    Narrowed lines n (s.closeTo (header.markers - 1)) := by
  have opens : Opens lines n := opens_iff.mpr (by rw [found]; rfl)
  have markers_eq : markers lines n = header.markers := markers_eq_of_header found
  refine closeTo_narrowed inv (fun i _ _ => ?_)
  have quoted := opens.1
  rw [breaks_iff_of_opens opens]
  omega

theorem openCallout_invariant {header : Header} (inv : Invariant lines n s)
    (found : Header.ofLine? (lineAt lines n) = some header) :
    Invariant lines (n + 1) (s.openCallout n (lineAt lines n) header) := by
  have opens : Opens lines n := opens_iff.mpr (by rw [found]; rfl)
  have markers_eq : markers lines n = header.markers := markers_eq_of_header found
  have narrowed := inv.narrowed found
  have keeps := takeLine_keepsPlace n (lineAt lines n)
  have taken := narrowed.taken keeps
    (fun o tracked unbroken => tracked.takeLine unbroken opens.not_blank)
  constructor
  · -- the new callout fits below those that the header left open, which then take its line
    rw [openCallout_stack, openCallout_roots]
    refine .cons (opened_tracked opens found _) ?_ taken
    exact (narrowed.opened_fits opens markers_eq).map keeps rfl rfl rfl
  · intro i
    rw [openCallout_stack, List.map_cons, List.mem_cons, keeps.map_start, narrowed.encloses,
      live_succ_iff_encloses]
    exact or_congr_left (and_iff_left opens).symm
  · rw [openCallout_stack, openCallout_roots]
    simp only [Scan.starts, keeps.starts, narrowed.starts_eq, openers_succ, if_pos opens]
    rfl

/-- The invariant does not speak of warnings. -/
theorem Invariant.congr {s t : State} (inv : Invariant lines n s) (stack_eq : t.stack = s.stack)
    (roots_eq : t.roots = s.roots) : Invariant lines n t := by
  obtain ⟨nested, live, starts_eq⟩ := inv
  rw [← stack_eq, ← roots_eq] at nested starts_eq
  rw [← stack_eq] at live
  exact ⟨nested, live, starts_eq⟩

theorem step_invariant (inv : Invariant lines n s) (lt : n < lines.length) :
    Invariant lines (n + 1) (step s n (lineAt lines n)) := by
  unfold step
  split
  next blank => exact holdBlank_invariant inv lt blank
  next content =>
    split
    next unquoted => exact closeAll_invariant inv content unquoted
    next quoted =>
      split
      next header found => exact openCallout_invariant inv found
      next none =>
        have text : ¬Opens lines n := fun opens => by
          rw [opens_iff, none] at opens
          exact absurd opens (by simp)
        refine (takeText_invariant inv (Nat.pos_of_ne_zero quoted) text).congr ?_ ?_ <;>
          split <;> rfl

/-! ## The whole note -/

/-- What every line keeps, a run keeps up to the end of the note. -/
theorem run_keeps {holds : Nat → State → Prop}
    (keeps : ∀ n s, n < lines.length → holds n s → holds (n + 1) (step s n (lineAt lines n)))
    (rest : List Text) (suffix : lines.drop n = rest) (given : holds n s) (le : n ≤ lines.length) :
    holds lines.length (run s n rest) := by
  induction rest generalizing n s with
  | nil =>
    have done : lines.length ≤ n := List.drop_eq_nil_iff.mp suffix
    obtain rfl : n = lines.length := by omega
    exact given
  | cons line rest ih =>
    have lt : n < lines.length := by
      by_contra beyond
      rw [List.drop_eq_nil_of_le (by omega)] at suffix
      exact absurd suffix (by simp)
    rw [List.drop_eq_getElem_cons lt, ← lineAt_eq_getElem lt, List.cons.injEq] at suffix
    rw [run, ← suffix.1]
    exact ih suffix.2 (keeps n s lt given) lt

theorem run_invariant (rest : List Text) (suffix : lines.drop n = rest)
    (inv : Invariant lines n s) (le : n ≤ lines.length) :
    Invariant lines lines.length (run s n rest) :=
  run_keeps (fun _ _ lt inv => step_invariant inv lt) rest suffix inv le

/-- The forest of a note, told by its lines. -/
structure Scanned (lines : List Text) (roots : List Callout) : Prop where
  siblings : Siblings lines none 0 lines.length roots
  faithful : ∀ c ∈ walkAll roots, Faithful lines c
  starts_eq : (walkAll roots).map Callout.start = openers lines lines.length

/-- Every header has a marker, so closing to zero leaves no callout open. -/
theorem closeDeeper_zero (nested : Nested lines n stack roots) :
    (closeDeeper 0 stack roots).1 = [] := by
  have kept := closeDeeper_kept 0 stack roots
  have empty : stack.dropWhile (fun o => 0 < o.header.markers) = [] := by
    apply List.eq_nil_iff_forall_not_mem.mpr
    intro o member
    obtain ⟨isOpen, none⟩ := nested.mem_dropWhile.mp member
    have tracked := nested.tracked isOpen
    rw [← tracked.markers_eq] at none
    exact none tracked.live.opens.1
  rwa [empty, List.map_nil, List.map_eq_nil_iff] at kept

theorem ofLines_scanned (lines : List Text) : Scanned lines (Scan.ofLines lines).roots := by
  have inv : Invariant lines lines.length (run .initial 0 lines) :=
    run_invariant lines rfl initial_invariant (Nat.zero_le _)
  have nested : Nested lines lines.length
      (closeDeeper 0 (run .initial 0 lines).stack (run .initial 0 lines).roots).1
      (closeDeeper 0 (run .initial 0 lines).stack (run .initial 0 lines).roots).2 :=
    closeDeeper_nested inv.nested (fun _ _ _ => over_length)
  have starts_eq := (closeDeeper_starts 0 _ _).trans inv.starts_eq
  rw [closeDeeper_zero inv.nested] at nested starts_eq
  cases nested with
  | nil siblings faithful => exact ⟨siblings, faithful, starts_eq⟩

end DreamJournal.Scan
