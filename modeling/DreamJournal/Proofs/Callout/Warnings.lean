import DreamJournal.Proofs.Callout.Nesting

/-!
# What a scan warns about

Two kinds of lines are warned about: a header with more markers than the callout around it leads one
to expect, and a quoted line that begins like a tag and is none.

The scanner compares markers with what is on its stack when it comes to the header. Which callout is
around a header, and how deep it lies, is told by the lines (`Parent`, `Lies`), so that a warning can
be read off the finished forest. There depth counts callouts and markers count marks. The two agree
as long as no level is skipped, and behind the first skipped level they part.
-/
namespace DreamJournal

variable {lines : List Text} {roots : List Callout} {n k : Nat} {line : Text}

/-- A quoted line that begins like a tag and is no header. -/
structure Header.IsMalformed (line : Text) : Prop where
  quoted : Marker.count line ≠ 0
  tagLike : ∃ rest, Marker.strip line = '[' :: '!' :: rest
  refused : ofLine? line = none

theorem Header.looksLikeTag_iff {stripped : Text} :
    looksLikeTag stripped = true ↔ ∃ rest, stripped = '[' :: '!' :: rest := by
  unfold looksLikeTag
  split
  next rest => simp
  next other => simpa using other

namespace Containment

/-- The callout that begins on line `j` lies so many levels deep. -/
inductive Lies (lines : List Text) : (j depth : Nat) → Prop where
  | root {j : Nat} (parent : Parent lines j none) : Lies lines j 1
  | nested {i j depth : Nat} (parent : Parent lines j (some i)) (outer : Lies lines i depth) :
    Lies lines j (depth + 1)

theorem Lies.unique {d e : Nat} (left : Lies lines j d) (right : Lies lines j e) : d = e := by
  induction left generalizing e with
  | root parent =>
    cases right with
    | root _ => rfl
    | nested other _ => cases parent.unique other
  | nested parent _ ih =>
    cases right with
    | root other => cases parent.unique other
    | nested other outer =>
      obtain rfl := Option.some.inj (parent.unique other)
      rw [ih outer]

/-- What there is to say of line `k`. -/
inductive Deserves (lines : List Text) (k : Nat) : ScanWarning → Prop where
  | startsDeep {header : Header} (found : Header.ofLine? (lineAt lines k) = some header)
      (outermost : Parent lines k none) (deep : 1 < header.markers) :
      Deserves lines k (.startsDeep header.kind header.markers)
  | skipsLevels {header : Header} {i depth : Nat}
      (found : Header.ofLine? (lineAt lines k) = some header) (inside : Parent lines k (some i))
      (skips : markers lines i + 1 < header.markers) (lies : Lies lines k depth) :
      Deserves lines k (.skipsLevels header.kind (markers lines i) header.markers depth)
  | malformedTag (malformed : Header.IsMalformed (lineAt lines k)) :
      Deserves lines k (.malformedTag (lineAt lines k))

theorem Deserves.quoted {warning : ScanWarning} (deserved : Deserves lines k warning) :
    1 ≤ markers lines k := by
  cases deserved with
  | startsDeep found _ _ => exact (opens_iff.mpr (Option.isSome_of_eq_some found)).1
  | skipsLevels found _ _ _ => exact (opens_iff.mpr (Option.isSome_of_eq_some found)).1
  | malformedTag malformed => exact Nat.pos_of_ne_zero malformed.quoted

theorem not_deserves_of_unquoted (unquoted : markers lines k = 0) (warning : ScanWarning) :
    ¬Deserves lines k warning := by
  intro deserved
  have quoted := deserved.quoted
  omega

theorem Deserves.lt_length {warning : ScanWarning} (deserved : Deserves lines k warning) :
    k < lines.length :=
  lt_length_of_not_blank (not_blank_of_markers deserved.quoted)

theorem deserves_text_iff (quoted : markers lines k ≠ 0)
    (text : Header.ofLine? (lineAt lines k) = none) {warning : ScanWarning} :
    Deserves lines k warning ↔
      Header.looksLikeTag (Marker.strip (lineAt lines k)) = true ∧
        warning = .malformedTag (lineAt lines k) := by
  constructor
  · intro deserved
    cases deserved with
    | startsDeep found _ _ => simp [text] at found
    | skipsLevels found _ _ _ => simp [text] at found
    | malformedTag malformed => exact ⟨Header.looksLikeTag_iff.mpr malformed.tagLike, rfl⟩
  · rintro ⟨tagLike, rfl⟩
    exact .malformedTag ⟨quoted, Header.looksLikeTag_iff.mp tagLike, text⟩

end Containment

namespace Scan

open Containment Callout

variable {s : State} {stack outer : List Open} {header : Header}

/-! ## Depth -/

theorem Fits.lies {o : Open} (fits : Fits lines roots outer o)
    (around : ∀ p ∈ outer, Lies lines p.start p.depth) : Lies lines o.start o.depth := by
  have parent := fits.parent_of
  rw [fits.depth_eq]
  cases outer with
  | nil => exact .root parent
  | cons p rest => exact .nested parent (around p List.mem_cons_self)

theorem Nested.lies (nested : Nested lines n stack roots) :
    ∀ o ∈ stack, Lies lines o.start o.depth := by
  induction nested with
  | nil => simp
  | cons _ fits _ ih => exact List.forall_mem_cons.mpr ⟨fits.lies ih, ih⟩

theorem Scanned.lies (scanned : Scanned lines roots) {c : Callout} (member : c ∈ walkAll roots) :
    Lies lines c.start c.depth := by
  obtain ⟨around, path⟩ := exists_path member
  induction path with
  | root isRoot =>
    rw [scanned.siblings.depth_eq _ isRoot]
    exact .root (scanned.siblings.parent_of _ isRoot)
  | nested outer child ih =>
    have faithful := scanned.faithful _ outer.mem
    rw [faithful.children.depth_eq _ child]
    exact .nested (faithful.children.parent_of _ child) (ih outer.mem)

/-! ## One line -/

/-- What the scanner says of a header below the open callouts is what the line deserves. -/
theorem Narrowed.placement?_iff (narrowed : Narrowed lines n s) (opens : Opens lines n)
    (found : Header.ofLine? (lineAt lines n) = some header) {warning : ScanWarning} :
    placement? s.stack header = some warning ↔ Deserves lines n warning := by
  have fits := narrowed.opened_fits opens (markers_eq_of_header found)
  have lies : Lies lines n (depthAround s.stack + 1) := fits.lies narrowed.nested.lies
  have parent : Parent lines n (startAround s.stack) := fits.parent_of
  have known {other : Header} (again : Header.ofLine? (lineAt lines n) = some other) :
      header = other := Option.some.inj (found.symm.trans again)
  -- the lines tell which callout is around, so only one of the two warnings can be deserved
  cases stacked : s.stack with
  | nil =>
    rw [stacked] at parent
    simp only [placement?, Option.ite_none_right_eq_some, Option.some.injEq]
    constructor
    · rintro ⟨deep, rfl⟩
      exact .startsDeep found parent deep
    · intro deserved
      cases deserved with
      | startsDeep again _ deep =>
        obtain rfl := known again
        exact ⟨deep, rfl⟩
      | skipsLevels _ inside _ _ => cases parent.unique inside
      | malformedTag malformed => simp [malformed.refused] at found
  | cons around rest =>
    rw [stacked] at parent lies
    have tracked := narrowed.nested.tracked (o := around) (by simp [stacked])
    simp only [placement?, Option.ite_none_right_eq_some, Option.some.injEq, ← tracked.markers_eq]
    constructor
    · rintro ⟨skips, rfl⟩
      exact .skipsLevels found parent skips lies
    · intro deserved
      cases deserved with
      | startsDeep _ outermost _ => cases parent.unique outermost
      | skipsLevels again inside skips deep =>
        obtain rfl := known again
        obtain rfl := Option.some.inj (parent.unique inside)
        exact ⟨skips, by rw [deep.unique lies]; rfl⟩
      | malformedTag malformed => simp [malformed.refused] at found

theorem warnings_closeTo (limit : Nat) (s : State) : (s.closeTo limit).warnings = s.warnings := rfl

/-- The warnings so far, and one more if there is anything to say of a line. -/
def withWarning (number : Nat) (said : Option ScanWarning) (warnings : List (Nat × ScanWarning)) :
    List (Nat × ScanWarning) :=
  (said.map fun warning => (number + 1, warning)).toList ++ warnings

theorem openCallout_warnings (number : Nat) (line : Text) (header : Header) (s : State) :
    (s.openCallout number line header).warnings =
      withWarning number (placement? (s.closeTo (header.markers - 1)).stack header) s.warnings := by
  rw [← warnings_closeTo (header.markers - 1) s]
  unfold State.openCallout
  generalize s.closeTo (header.markers - 1) = narrowed
  cases placed : placement? narrowed.stack header with
  | none => simp only [placed]; rfl
  | some warning => simp only [placed]; rfl

/-- Reading a line adds a warning exactly when the line deserves it. -/
theorem step_warnings (inv : Invariant lines n s) :
    ∃ said, (step s n (lineAt lines n)).warnings = withWarning n said s.warnings ∧
      ∀ warning, said = some warning ↔ Deserves lines n warning := by
  unfold step
  split
  next blank =>
    have unquoted : markers lines n = 0 := by
      by_contra quoted
      exact not_blank_of_markers (Nat.pos_of_ne_zero quoted) blank
    exact ⟨none, rfl, fun warning => by simp [not_deserves_of_unquoted unquoted warning]⟩
  next content =>
    split
    next unquoted =>
      exact ⟨none, rfl, fun warning => by simp [not_deserves_of_unquoted unquoted warning]⟩
    next quoted =>
      split
      next header found =>
        -- the header closes the callouts it does not lie in before it is compared with the next
        have opens : Opens lines n := opens_iff.mpr (Option.isSome_of_eq_some found)
        exact ⟨_, openCallout_warnings n _ header s,
          fun warning => (inv.narrowed found).placement?_iff opens found⟩
      next text =>
        split
        next tagLike =>
          refine ⟨some (.malformedTag (lineAt lines n)), rfl, fun warning => ?_⟩
          rw [deserves_text_iff quoted text, Option.some.injEq, eq_comm]
          exact (and_iff_right tagLike).symm
        next plain =>
          refine ⟨none, rfl, fun warning => ?_⟩
          simp [deserves_text_iff quoted text, plain]

/-! ## The whole note -/

/-- The warnings in front of line `n`, latest first, are those that the lines deserve. -/
structure Warned (lines : List Text) (n : Nat) (warnings : List (Nat × ScanWarning)) : Prop where
  descending : warnings.Pairwise fun later earlier => earlier.1 < later.1
  mem_iff : ∀ number warning, (number, warning) ∈ warnings ↔
    ∃ k < n, number = k + 1 ∧ Deserves lines k warning

theorem Warned.withWarning {warnings : List (Nat × ScanWarning)} (warned : Warned lines n warnings)
    {said : Option ScanWarning} (deserved : ∀ warning, said = some warning ↔ Deserves lines n warning) :
    Warned lines (n + 1) (withWarning n said warnings) := by
  constructor
  · cases said with
    | none => exact warned.descending
    | some warning =>
      refine List.pairwise_cons.mpr ⟨?_, warned.descending⟩
      rintro ⟨number, other⟩ member
      obtain ⟨k, before, rfl, _⟩ := (warned.mem_iff number other).mp member
      exact Nat.succ_lt_succ before
  · intro number warning
    have here : (number, warning) ∈ (said.map fun w => (n + 1, w)).toList ↔
        number = n + 1 ∧ Deserves lines n warning := by
      rw [← deserved]
      cases said <;> simp [eq_comm]
    rw [Scan.withWarning, List.mem_append, here, warned.mem_iff]
    constructor
    · rintro (⟨rfl, said⟩ | ⟨k, before, rfl, said⟩)
      · exact ⟨n, Nat.lt_succ_self n, rfl, said⟩
      · exact ⟨k, Nat.lt_succ_of_lt before, rfl, said⟩
    · rintro ⟨k, upTo, rfl, said⟩
      rcases Nat.lt_succ_iff_lt_or_eq.mp upTo with before | rfl
      · exact .inr ⟨k, before, rfl, said⟩
      · exact .inl ⟨rfl, said⟩

theorem run_warned (lines : List Text) :
    Warned lines lines.length (run .initial 0 lines).warnings := by
  -- what is deserved depends on the open callouts, so both are carried along
  have keeps (n : Nat) (s : State) (lt : n < lines.length)
      (given : Invariant lines n s ∧ Warned lines n s.warnings) :
      Invariant lines (n + 1) (step s n (lineAt lines n)) ∧
        Warned lines (n + 1) (step s n (lineAt lines n)).warnings := by
    obtain ⟨said, warnings, deserved⟩ := step_warnings given.1
    exact ⟨step_invariant given.1 lt, warnings ▸ given.2.withWarning deserved⟩
  have start : Warned lines 0 State.initial.warnings := by
    constructor <;> simp [State.initial]
  exact (run_keeps keeps lines rfl ⟨initial_invariant, start⟩ (Nat.zero_le _)).2

theorem mem_warnings {warning : ScanWarning} : (n, warning) ∈ (Scan.ofLines lines).warnings ↔
    ∃ k, n = k + 1 ∧ Deserves lines k warning := by
  rw [Scan.ofLines, List.mem_reverse, warnings_closeTo, (run_warned lines).mem_iff]
  constructor
  · rintro ⟨k, _, same, deserved⟩
    exact ⟨k, same, deserved⟩
  · rintro ⟨k, same, deserved⟩
    exact ⟨k, deserved.lt_length, same, deserved⟩

theorem warnings_ascending (lines : List Text) :
    (Scan.ofLines lines).warnings.Pairwise fun earlier later => earlier.1 < later.1 :=
  List.pairwise_reverse.mpr (run_warned lines).descending

/-- A scan reports exactly the malformed lines as text, each with its number. -/
theorem mem_warnings_iff : (n, .malformedTag line) ∈ (Scan.ofLines lines).warnings ↔
    ∃ k, n = k + 1 ∧ lines[k]? = some line ∧ Header.IsMalformed line := by
  rw [mem_warnings]
  constructor
  · rintro ⟨k, same, deserved⟩
    have lt := deserved.lt_length
    cases deserved with
    | malformedTag malformed =>
      exact ⟨k, same, by rw [List.getElem?_eq_getElem lt, lineAt_eq_getElem lt], malformed⟩
  · rintro ⟨k, same, there, malformed⟩
    obtain ⟨lt, here⟩ := List.getElem?_eq_some_iff.mp there
    rw [← lineAt_eq_getElem lt] at here
    subst here
    exact ⟨k, same, .malformedTag malformed⟩

/-! ## The finished forest -/

/-- A warning is due on line `k` of a note with a forest of callouts. -/
inductive IsDue (lines : List Text) (roots : List Callout) : (k : Nat) → ScanWarning → Prop where
  | startsDeep {c : Callout} (root : c ∈ roots) (deep : 1 < Marker.count c.headerLine) :
    IsDue lines roots c.start (.startsDeep c.kind (Marker.count c.headerLine))
  | skipsLevels {c p : Callout} (outer : p ∈ walkAll roots) (child : c ∈ p.children)
      (skips : Marker.count p.headerLine + 1 < Marker.count c.headerLine) :
    IsDue lines roots c.start
      (.skipsLevels c.kind (Marker.count p.headerLine) (Marker.count c.headerLine) c.depth)
  | malformedTag {k : Nat} (malformed : Header.IsMalformed (lineAt lines k)) :
    IsDue lines roots k (.malformedTag (lineAt lines k))

theorem Scanned.count_eq (scanned : Scanned lines roots) {c : Callout}
    (member : c ∈ walkAll roots) : Marker.count c.headerLine = markers lines c.start := by
  rw [(scanned.faithful c member).headerLine]
  rfl

theorem Scanned.isDue_iff (scanned : Scanned lines roots) {warning : ScanWarning} :
    IsDue lines roots k warning ↔ Deserves lines k warning := by
  constructor
  · intro due
    cases due with
    | @startsDeep c root deep =>
      have member := mem_walkAll_of_mem root
      rw [scanned.count_eq member] at deep ⊢
      exact .startsDeep (scanned.faithful c member).header (scanned.siblings.parent_of c root) deep
    | @skipsLevels c p outer child skips =>
      have member := mem_walkAll_of_child outer child
      rw [scanned.count_eq member, scanned.count_eq outer] at skips ⊢
      exact .skipsLevels (scanned.faithful c member).header
        (scanned.parent_of_child outer child) skips (scanned.lies member)
    | malformedTag malformed => exact .malformedTag malformed
  · -- the callout that begins on the line stands where the lines place it
    have placed {header : Header} (found : Header.ofLine? (lineAt lines k) = some header) :
        ∃ c ∈ walkAll roots, c.start = k ∧
          header = ⟨Marker.count c.headerLine, c.kind, c.metadataText, c.title⟩ := by
      obtain ⟨c, member, rfl⟩ := scanned.exists_of_opens
        (opens_iff.mpr (Option.isSome_of_eq_some found))
      rw [(scanned.faithful c member).header, ← scanned.count_eq member] at found
      exact ⟨c, member, rfl, (Option.some.inj found).symm⟩
    intro deserved
    cases deserved with
    | startsDeep found outermost deep =>
      obtain ⟨c, member, rfl, rfl⟩ := placed found
      exact .startsDeep ((scanned.root_iff member).mpr outermost) deep
    | skipsLevels found inside skips lies =>
      obtain ⟨c, member, rfl, rfl⟩ := placed found
      obtain ⟨p, outer, rfl⟩ := scanned.exists_of_opens inside.1.2.1
      rw [lies.unique (scanned.lies member), ← scanned.count_eq outer]
      rw [← scanned.count_eq outer] at skips
      exact .skipsLevels outer ((scanned.child_iff member outer).mpr inside) skips
    | malformedTag malformed => exact .malformedTag malformed

/-- Below headers that skip no level, depth is the number of markers. -/
theorem Scanned.depth_eq (scanned : Scanned lines roots)
    (level : ∀ k, Opens lines k → ∀ warning, ¬Deserves lines k warning) {c : Callout}
    (member : c ∈ walkAll roots) : c.depth = Marker.count c.headerLine := by
  have silent (d : Callout) (walked : d ∈ walkAll roots) (warning : ScanWarning) :
      ¬IsDue lines roots d.start warning := by
    rw [scanned.isDue_iff]
    exact level d.start (scanned.opens walked) warning
  -- from the root down, as depth is counted
  obtain ⟨around, path⟩ := exists_path member
  induction path with
  | @root c isRoot =>
    have quoted := (scanned.opens member).1
    have shallow : ¬1 < Marker.count c.headerLine :=
      fun deep => silent c member _ (.startsDeep isRoot deep)
    rw [scanned.siblings.depth_eq c isRoot]
    rw [← scanned.count_eq member] at quoted
    omega
  | @nested c p around outer child ih =>
    have parent := scanned.parent_of_child outer.mem child
    have near : ¬Marker.count p.headerLine + 1 < Marker.count c.headerLine :=
      fun skips => silent c member _ (.skipsLevels outer.mem child skips)
    -- the header does not break the callout around it, so it has more markers
    have unbroken := (encloses_iff.mp parent.1).2
    rw [breaks_iff_of_opens (scanned.opens member), ← scanned.count_eq member,
      ← scanned.count_eq outer.mem] at unbroken
    rw [(scanned.faithful p outer.mem).children.depth_eq c child, ih outer.mem]
    omega

/-- What is recorded of the structure of a note are the warnings that are due, in the order of the
note and none twice; and none of them is about a header exactly when every callout lies as deep as
its header has markers. -/
structure WarnsExactly (lines : List Text) (roots : List Callout) (source : Text)
    (recorded : List Diagnostic) : Prop where
  opens_iff : ∀ k, Opens lines k ↔ ∃ c ∈ walkAll roots, c.start = k
  ascending : recorded.Pairwise fun earlier later =>
    ∃ m n, earlier.line = some m ∧ later.line = some n ∧ m < n
  mem_iff : ∀ d, d ∈ recorded ↔ ∃ k warning, IsDue lines roots k warning ∧
    d = ⟨source, .structuralWarning, warning.message, some (k + 1)⟩
  level_iff : (∀ k, Opens lines k → ∀ d ∈ recorded, d.line ≠ some (k + 1)) ↔
    ∀ c ∈ walkAll roots, c.depth = Marker.count c.headerLine

theorem ofText_warns (note source : Text) :
    WarnsExactly (Text.lines note) (Scan.ofText note).roots source
      ((Scan.ofText note).diagnostics source) := by
  have scanned : Scanned (Text.lines note) (Scan.ofText note).roots :=
    ofLines_scanned (Text.lines note)
  have told (d : Diagnostic) : d ∈ (Scan.ofText note).diagnostics source ↔
      ∃ k warning, IsDue (Text.lines note) (Scan.ofText note).roots k warning ∧
        d = ⟨source, .structuralWarning, warning.message, some (k + 1)⟩ := by
    rw [Scan.diagnostics, List.mem_map]
    constructor
    · rintro ⟨⟨number, warning⟩, member, rfl⟩
      obtain ⟨k, rfl, deserved⟩ := mem_warnings.mp member
      exact ⟨k, warning, scanned.isDue_iff.mpr deserved, rfl⟩
    · rintro ⟨k, warning, due, rfl⟩
      exact ⟨(k + 1, warning), mem_warnings.mpr ⟨k, rfl, scanned.isDue_iff.mp due⟩, rfl⟩
  constructor
  case opens_iff =>
    intro k
    constructor
    · exact scanned.exists_of_opens
    · rintro ⟨c, member, rfl⟩
      exact scanned.opens member
  case ascending =>
    apply List.pairwise_map.mpr
    apply (warnings_ascending (Text.lines note)).imp
    intro earlier later before
    exact ⟨earlier.1, later.1, rfl, rfl, before⟩
  case mem_iff => exact told
  case level_iff =>
    constructor
    · intro unwarned c member
      apply scanned.depth_eq _ member
      intro k opens warning deserved
      exact unwarned k opens _ ((told _).mpr ⟨k, warning, scanned.isDue_iff.mpr deserved, rfl⟩) rfl
    · intro level k opens d recorded here
      obtain ⟨j, warning, due, rfl⟩ := (told d).mp recorded
      obtain rfl : j = k := Nat.succ.inj (Option.some.inj here)
      cases due with
      | @startsDeep c root deep =>
        have depth := level c (mem_walkAll_of_mem root)
        rw [scanned.siblings.depth_eq c root] at depth
        omega
      | @skipsLevels c p outer child skips =>
        have depth := level c (mem_walkAll_of_child outer child)
        rw [(scanned.faithful p outer).children.depth_eq c child, level p outer] at depth
        omega
      | malformedTag malformed =>
        rw [opens_iff, malformed.refused] at opens
        cases opens

/-- Behind a skipped level a header can have more markers than its callout lies deep, and fit. -/
example : (Scan.ofLines (["> [!day]", ">>> [!dream] Sea", ">>> [!dream", ">>>> [!mood]"].map
    Text.of)).warnings = [(2, .skipsLevels (Text.of "dream") 1 3 2),
      (3, .malformedTag (Text.of ">>> [!dream"))] := by
  decide +kernel

end Scan
end DreamJournal
