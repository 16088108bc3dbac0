import DreamJournal.Proofs.Callout.Step

/-!
# The spelling of quote markers carries no meaning

The scanner reads the number of markers of a line and what stands behind them. So a note whose
lines are spelled otherwise is scanned into the same callouts, with its own lines in them.

`recast` says this of one callout, and moves it down by some lines at the same time: what the
scanner decides depends on line numbers as little as on spelling, and one induction along the lines
shows both. Two spellings of a note are compared with the tight one.
-/
namespace DreamJournal

namespace Callout

variable {spell : Text → Text} {k : Nat}

mutual

/-- A callout as it stands `k` lines further down, in lines spelled otherwise. -/
def recast (spell : Text → Text) (k : Nat) : Callout → Callout
  | ⟨depth, kind, metadataText, headerLine, title, body, start, stop, children⟩ =>
    ⟨depth, kind, metadataText, spell headerLine, title, body.map spell, start + k, stop + k,
      recastAll spell k children⟩

def recastAll (spell : Text → Text) (k : Nat) : List Callout → List Callout
  | [] => []
  | first :: rest => recast spell k first :: recastAll spell k rest

end

theorem recastAll_eq (forest : List Callout) :
    recastAll spell k forest = forest.map (recast spell k) := by
  induction forest with
  | nil => rfl
  | cons first rest ih => rw [recastAll, ih, List.map_cons]

theorem recast_eq (c : Callout) : c.recast spell k =
    { c with
      headerLine := spell c.headerLine, body := c.body.map spell
      start := c.start + k, stop := c.stop + k
      children := c.children.map (recast spell k) } := by
  obtain ⟨_, _, _, _, _, _, _, _, children⟩ := c
  rw [recast, recastAll_eq]

mutual

/-- A callout without the lines in it. -/
def skeleton : Callout → Callout
  | ⟨depth, kind, metadataText, _, title, _, start, stop, children⟩ =>
    ⟨depth, kind, metadataText, [], title, [], start, stop, skeletons children⟩

def skeletons : List Callout → List Callout
  | [] => []
  | first :: rest => skeleton first :: skeletons rest

end

theorem skeletons_eq (forest : List Callout) : skeletons forest = forest.map skeleton := by
  induction forest with
  | nil => rfl
  | cons first rest ih => rw [skeletons, ih, List.map_cons]

mutual

theorem skeleton_recast : (c : Callout) → (c.recast spell 0).skeleton = c.skeleton
  | ⟨_, _, _, _, _, _, _, _, children⟩ => by
    rw [recast, skeleton, skeleton, skeletons_recastAll children]
    rfl

theorem skeletons_recastAll : (forest : List Callout) →
    skeletons (recastAll spell 0 forest) = skeletons forest
  | [] => rfl
  | first :: rest => by
    rw [recastAll, skeletons, skeletons, skeleton_recast first, skeletons_recastAll rest]

end

end Callout

namespace ScanWarning

/-- A warning about a line that is spelled otherwise. -/
def recast (spell : Text → Text) : ScanWarning → ScanWarning
  | malformedTag line => malformedTag (spell line)
  | other => other

end ScanWarning

namespace Scan

open Callout

variable {spell : Text → Text} {k n limit : Nat} {s : State} {line : Text}

/-! ## Changes of open callouts that closing does not notice -/

/-- A change of open callouts that comes to a change of the closed ones. -/
structure Carries (given : Open → Prop) (change : Open → Open) (closed : Callout → Callout) :
    Prop where
  markers_eq : ∀ o, (change o).header.markers = o.header.markers
  close_eq : ∀ o, given o → (change o).close = closed o.close
  adopts : ∀ o c, given o → given { o with children := c :: o.children }
  adopt_eq : ∀ o c, { change o with children := closed c :: (change o).children } =
    change { o with children := c :: o.children }

theorem Carries.closeDeeper {given : Open → Prop} {change : Open → Open}
    {closed : Callout → Callout} (carries : Carries given change closed) (limit : Nat)
    (stack : List Open) (roots : List Callout) (all : ∀ o ∈ stack, given o) :
    closeDeeper limit (stack.map change) (roots.map closed) =
      ((closeDeeper limit stack roots).1.map change,
        (closeDeeper limit stack roots).2.map closed) := by
  induction stack, roots using closeDeeper.induct limit with
  | case1 roots => rw [List.map_nil, Scan.closeDeeper, Scan.closeDeeper, List.map_nil]
  | case2 inner roots deeper =>
    have still : limit < (change inner).header.markers := by rwa [carries.markers_eq]
    simp only [List.map_cons, List.map_nil, Scan.closeDeeper, if_pos deeper, if_pos still,
      carries.close_eq inner (all inner List.mem_cons_self)]
  | case3 inner roots deeper around rest ih =>
    have still : limit < (change inner).header.markers := by rwa [carries.markers_eq]
    obtain ⟨isInner, isAround, further⟩ : given inner ∧ given around ∧ ∀ o ∈ rest, given o := by
      simpa using all
    -- the callout around adopts before or after the change
    have adopted := ih (List.forall_mem_cons.mpr ⟨carries.adopts _ _ isAround, further⟩)
    rw [List.map_cons, ← carries.adopt_eq] at adopted
    simp only [List.map_cons, Scan.closeDeeper, if_pos deeper, if_pos still,
      carries.close_eq inner isInner, adopted]
  | case4 inner outer roots shallow =>
    have still : ¬limit < (change inner).header.markers := by rwa [carries.markers_eq]
    rw [List.map_cons, closeDeeper_of_shallow still, closeDeeper_of_shallow shallow, List.map_cons]

/-! ## Other lines, read further down -/

def Open.recast (spell : Text → Text) (k : Nat) (o : Open) : Open :=
  { o with
    headerLine := spell o.headerLine, body := o.body.map spell
    start := o.start + k, stop := o.stop + k
    children := o.children.map (Callout.recast spell k) }

def State.recast (spell : Text → Text) (k : Nat) (s : State) : State where
  stack := s.stack.map (Open.recast spell k)
  roots := s.roots.map (Callout.recast spell k)
  warnings := s.warnings.map fun (number, warning) => (number + k, warning.recast spell)

theorem recast_carries (spell : Text → Text) (k : Nat) :
    Carries (fun _ => True) (Open.recast spell k) (Callout.recast spell k) where
  markers_eq _ := rfl
  close_eq o _ := by
    have length_eq : o.stop + k - (o.start + k) = o.stop - o.start := by omega
    rw [recast_eq]
    simp only [Open.close, Open.recast, length_eq, List.map_reverse, List.map_take]
  adopts _ _ _ := trivial
  adopt_eq _ _ := rfl

theorem closeTo_recast (limit : Nat) (s : State) :
    (s.recast spell k).closeTo limit = (s.closeTo limit).recast spell k := by
  have closed := (recast_carries spell k).closeDeeper limit s.stack s.roots fun _ _ => trivial
  simp only [State.closeTo, State.recast, closed]

/-- The open callouts take a line there as they take it here. -/
theorem map_recast {change changed : Open → Open}
    (same : ∀ o, changed (o.recast spell k) = (change o).recast spell k) (s : State) :
    { s.recast spell k with stack := (s.recast spell k).stack.map changed } =
      State.recast spell k { s with stack := s.stack.map change } := by
  simp only [State.recast, List.map_map, Function.comp_def, same]

theorem placement?_recast (stack : List Open) (header : Header) :
    placement? (stack.map (Open.recast spell k)) header = placement? stack header := by
  cases stack <;> rfl

/-- A warning about the place of a header quotes no line. -/
theorem recast_of_placement {stack : List Open} {header : Header} {warning : ScanWarning}
    (said : placement? stack header = some warning) (spell : Text → Text) :
    warning.recast spell = warning := by
  unfold placement? at said
  split at said
  all_goals
    obtain ⟨_, same⟩ := Option.ite_none_right_eq_some.mp said
    obtain rfl := Option.some.inj same
    rfl

theorem openCallout_recast (n : Nat) (line : Text) (header : Header) (s : State) :
    (s.recast spell k).openCallout (n + k) (spell line) header =
      (s.openCallout n line header).recast spell k := by
  unfold State.openCallout
  rw [closeTo_recast]
  generalize s.closeTo (header.markers - 1) = closed
  have same : placement? (closed.recast spell k).stack header = placement? closed.stack header :=
    placement?_recast closed.stack header
  obtain ⟨stack, roots, warnings⟩ := closed
  cases said : placement? stack header with
  | none =>
    simp only [same, said]
    cases stack <;> simp [State.recast, Open.recast, Open.takeLine, Function.comp_def]
  | some warning =>
    have kept := recast_of_placement said spell
    have later : n + k + 1 = n + 1 + k := Nat.add_right_comm n k 1
    simp only [same, said]
    cases stack <;>
      simp [State.recast, State.warn, Open.recast, Open.takeLine, Function.comp_def, kept, later]

theorem step_recast (same : Marker.Respelled line (spell line)) (n : Nat) (s : State) :
    step (s.recast spell k) (n + k) (spell line) = (step s n line).recast spell k := by
  unfold step
  rw [← same.isAllBlank_eq, ← same.count_eq, ← same.strip_eq, ← same.ofLine?_eq]
  split
  · apply map_recast
    exact fun _ => rfl
  · split
    · exact closeTo_recast 0 s
    · cases Header.ofLine? line with
      | some header => exact openCallout_recast n line header s
      | none =>
        -- the warning quotes the line, which is spelled otherwise there
        have warned : (s.recast spell k).warn (n + k) (.malformedTag (spell line)) =
            (s.warn n (.malformedTag line)).recast spell k := by
          simp [State.recast, State.warn, ScanWarning.recast, Nat.add_right_comm n k 1]
        cases Header.looksLikeTag (Marker.strip line) with
        | false =>
          simp only [Bool.false_eq_true, if_false, closeTo_recast]
          apply map_recast
          exact fun _ => rfl
        | true =>
          simp only [if_true, warned, closeTo_recast]
          apply map_recast
          exact fun _ => rfl

/-- What a run finds in lines spelled otherwise, further down in a note. -/
theorem run_recast (same : ∀ line, Marker.Respelled line (spell line)) (n : Nat)
    (lines : List Text) (s : State) :
    run (s.recast spell k) (n + k) (lines.map spell) = (run s n lines).recast spell k := by
  induction lines generalizing s n with
  | nil => rfl
  | cons line rest ih =>
    rw [List.map_cons, run, run, step_recast (same line), Nat.add_right_comm, ih]

theorem ofLines_respelled (same : ∀ line, Marker.Respelled line (spell line))
    (lines : List Text) : Scan.ofLines (lines.map spell) =
      ⟨(Scan.ofLines lines).roots.map (Callout.recast spell 0),
        (Scan.ofLines lines).warnings.map fun (number, warning) =>
          (number, warning.recast spell)⟩ := by
  have read := run_recast (k := 0) same 0 lines .initial
  have start : State.initial.recast spell 0 = State.initial := rfl
  rw [start, Nat.add_zero] at read
  rw [Scan.ofLines, read, closeTo_recast]
  simp only [Scan.ofLines, State.recast, List.map_reverse, Nat.add_zero]

end Scan

/-- Notes that differ in the spelling of quote markers alone are scanned into forests that differ in
the lines that their callouts hold alone, and there is as much to warn about on each line. -/
theorem Scan.ofText_respelled {note other : Text}
    (same : List.Forall₂ Marker.Respelled (Text.lines note) (Text.lines other)) :
    (Scan.ofText note).roots.map Callout.skeleton = (Scan.ofText other).roots.map Callout.skeleton ∧
      ∀ source, ((Scan.ofText note).diagnostics source).map Diagnostic.line =
        ((Scan.ofText other).diagnostics source).map Diagnostic.line := by
  -- both are compared with the note in which nothing stands between the markers
  have left := ofLines_respelled Marker.tight_respelled (Text.lines note)
  have right := ofLines_respelled Marker.tight_respelled (Text.lines other)
  rw [Marker.map_tight_eq same, right, Scan.mk.injEq] at left
  obtain ⟨roots_eq, warnings_eq⟩ := left
  constructor
  · have bare := congrArg (List.map Callout.skeleton) roots_eq
    simp only [List.map_map, Function.comp_def, Callout.skeleton_recast] at bare
    exact bare.symm
  · intro source
    have numbers := congrArg (List.map fun warning => some warning.1) warnings_eq
    simp only [List.map_map, Function.comp_def] at numbers
    simp only [Scan.diagnostics, Scan.ofText, List.map_map, Function.comp_def]
    exact numbers.symm

/-- Gaps before, between and behind the markers of a header that skips a level, of text and of a
broken tag. -/
theorem Scan.ofText_respelled_gaps :
    let note := Text.of "> [!day]\n>>> [!dream|calm] Sea\n>>> waves\n\n> > [!dream\nshore"
    let other := Text.of ">[!day]\n > >\t> [!dream|calm] Sea\n>> > waves\n\n>>[!dream\nshore"
    Text.lines note ≠ Text.lines other ∧
      List.Forall₂ Marker.Respelled (Text.lines note) (Text.lines other) ∧
      (Scan.ofText note).roots.map Callout.skeleton =
        (Scan.ofText other).roots.map Callout.skeleton ∧
      ∀ source, ((Scan.ofText note).diagnostics source).map Diagnostic.line =
        ((Scan.ofText other).diagnostics source).map Diagnostic.line := by
  intro note other
  have same : List.Forall₂ Marker.Respelled (Text.lines note) (Text.lines other) := by decide
  exact ⟨by decide, same, ofText_respelled same⟩

end DreamJournal
