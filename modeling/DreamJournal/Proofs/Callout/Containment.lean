import DreamJournal.Proofs.Callout.Marker
import Mathlib.Order.Bounds.Basic

/-!
# Containment of callouts, told from the lines alone

Which callout contains which can be said without reading the note from top to bottom. A header
opens a callout; a later line breaks it when the line cannot belong to it; one callout contains
another when the other begins behind it and nothing up to there breaks it.

Lines are named by their numbers, counted from zero. A number behind the last line names a blank
line, which neither opens nor breaks anything.
-/
namespace DreamJournal.Containment

def lineAt (lines : List Text) (k : Nat) : Text := lines.getD k []

/-- How many quote markers lead a line. -/
def markers (lines : List Text) (k : Nat) : Nat := Marker.count (lineAt lines k)

/-- A line without content. -/
def Blank (lines : List Text) (k : Nat) : Prop := Text.isAllBlank (lineAt lines k) = true

/-- A quoted line whose content is a tag. -/
def Opens (lines : List Text) (k : Nat) : Prop :=
  1 ≤ markers lines k ∧ (Header.tag? (Marker.strip (lineAt lines k))).isSome = true

/-- Line `k` cannot belong to a callout that begins on line `i`. -/
def Breaks (lines : List Text) (i k : Nat) : Prop :=
  ¬Blank lines k ∧
    (markers lines k = 0 ∨
      (Opens lines k ∧ markers lines k ≤ markers lines i) ∨
      (1 ≤ markers lines k ∧ ¬Opens lines k ∧ markers lines k < markers lines i))

instance (lines : List Text) (k : Nat) : Decidable (Blank lines k) :=
  inferInstanceAs (Decidable (_ = true))

instance (lines : List Text) (k : Nat) : Decidable (Opens lines k) :=
  inferInstanceAs (Decidable (_ ∧ _))

instance (lines : List Text) (i k : Nat) : Decidable (Breaks lines i k) :=
  inferInstanceAs (Decidable (_ ∧ _))

/-- A callout begins on line `i` and goes on past line `j`. -/
def Encloses (lines : List Text) (i j : Nat) : Prop :=
  i < j ∧ Opens lines i ∧ ∀ k, i < k → k ≤ j → ¬Breaks lines i k

/-- The callout directly around the one that begins on line `j`, if there is any, begins on the
last line whose callout goes on past `j`. -/
def Parent (lines : List Text) (j : Nat) : Option Nat → Prop
  | some i => IsGreatest {i | Encloses lines i j} i
  | none => ∀ i, ¬Encloses lines i j

/-- Line `l` has content and belongs to the callout that begins on line `j`. -/
def Reaches (lines : List Text) (j l : Nat) : Prop :=
  j ≤ l ∧ l < lines.length ∧ ¬Blank lines l ∧ ∀ k, j < k → k ≤ l → ¬Breaks lines j k

/-- Line `l` is the last with content that belongs to the callout that begins on line `j`. -/
def Ends (lines : List Text) (j l : Nat) : Prop := IsGreatest {l | Reaches lines j l} l

/-- The first lines of the callouts that begin in front of line `n`. -/
def openers (lines : List Text) (n : Nat) : List Nat :=
  (List.range n).filter fun k => decide (Opens lines k)

/-- A callout began on line `i`, and nothing broke it up to line `n`. -/
def Live (lines : List Text) (n i : Nat) : Prop :=
  i < n ∧ Opens lines i ∧ ∀ k, i < k → k < n → ¬Breaks lines i k

/-- No line from `n` on belongs to the callout that begins on line `i`. -/
def Over (lines : List Text) (n i : Nat) : Prop := ∀ l, Reaches lines i l → l < n

variable {lines : List Text} {n i j k l : Nat}

theorem opens_iff : Opens lines k ↔ (Header.ofLine? (lineAt lines k)).isSome = true := by
  unfold Opens Header.ofLine? markers
  split
  next unquoted => simp [unquoted]
  next quoted =>
    rw [Option.isSome_map]
    exact and_iff_right (by omega)

/-- A line with a header has as many markers as its header says. -/
theorem markers_eq_of_header {header : Header}
    (found : Header.ofLine? (lineAt lines k) = some header) :
    markers lines k = header.markers := by
  unfold Header.ofLine? at found
  split at found
  · simp at found
  · obtain ⟨parts, _, rfl⟩ := Option.map_eq_some_iff.mp found
    rfl

theorem not_blank_of_markers (quoted : 1 ≤ markers lines k) : ¬Blank lines k := by
  have content := Marker.isAllBlank_of_marked (Nat.pos_iff_ne_zero.mp quoted)
  simp [Blank, content]

theorem lt_length_of_not_blank (content : ¬Blank lines k) : k < lines.length := by
  by_contra beyond
  apply content
  have missing : lineAt lines k = [] := by
    rw [lineAt, List.getD_eq_getElem?_getD, List.getElem?_eq_none (by omega), Option.getD_none]
  simp only [Blank, missing, Text.isAllBlank, List.all_nil]

theorem Opens.not_blank (opens : Opens lines k) : ¬Blank lines k :=
  not_blank_of_markers opens.1

theorem Opens.lt_length (opens : Opens lines k) : k < lines.length :=
  lt_length_of_not_blank opens.not_blank

theorem lineAt_eq_getElem (lt : k < lines.length) : lineAt lines k = lines[k] := by
  rw [lineAt, List.getD_eq_getElem?_getD, List.getElem?_eq_getElem lt, Option.getD_some]

/-! ## What one line breaks -/

theorem not_breaks_of_blank (blank : Blank lines k) : ¬Breaks lines i k :=
  fun breaks => breaks.1 blank

theorem breaks_of_unquoted (content : ¬Blank lines k) (unquoted : markers lines k = 0) :
    Breaks lines i k :=
  ⟨content, .inl unquoted⟩

/-- A header breaks what has at least as many markers. -/
theorem breaks_iff_of_opens (opens : Opens lines k) :
    Breaks lines i k ↔ markers lines k ≤ markers lines i := by
  constructor
  · -- a header is quoted and no text, so only its own case is left
    rintro ⟨_, unquoted | ⟨_, atMost⟩ | ⟨_, noHeader, _⟩⟩
    · omega
    · exact atMost
    · exact absurd opens noHeader
  · exact fun atMost => ⟨opens.not_blank, .inr (.inl ⟨opens, atMost⟩)⟩

/-- A quoted line without a header breaks what has more markers. -/
theorem breaks_iff_of_text (quoted : 1 ≤ markers lines k) (text : ¬Opens lines k) :
    Breaks lines i k ↔ markers lines k < markers lines i := by
  constructor
  · rintro ⟨_, unquoted | ⟨opens, _⟩ | ⟨_, _, fewer⟩⟩
    · omega
    · exact absurd opens text
    · exact fewer
  · exact fun fewer => ⟨not_blank_of_markers quoted, .inr (.inr ⟨quoted, text, fewer⟩)⟩

/-! ## What is open, and what is over -/

theorem Live.lt (live : Live lines n i) : i < n := live.1

theorem Live.opens (live : Live lines n i) : Opens lines i := live.2.1

theorem live_succ_iff : Live lines (n + 1) i ↔
    (i = n ∧ Opens lines n) ∨ (Live lines n i ∧ ¬Breaks lines i n) := by
  constructor
  · rintro ⟨lt, opens, unbroken⟩
    by_cases last : i = n
    · exact .inl ⟨last, last ▸ opens⟩
    · refine .inr ⟨⟨by omega, opens, fun k after before => unbroken k after (by omega)⟩, ?_⟩
      exact unbroken n (by omega) (by omega)
  · rintro (⟨rfl, opens⟩ | ⟨⟨lt, opens, unbroken⟩, notBroken⟩)
    · exact ⟨by omega, opens, fun k after before => by omega⟩
    · refine ⟨by omega, opens, fun k after before => ?_⟩
      rcases Nat.lt_succ_iff_lt_or_eq.mp before with earlier | rfl
      · exact unbroken k after earlier
      · exact notBroken

/-- A callout encloses a line when it is open in front of it and the line does not break it. -/
theorem encloses_iff : Encloses lines i j ↔ Live lines j i ∧ ¬Breaks lines i j := by
  constructor
  · rintro ⟨lt, opens, unbroken⟩
    exact ⟨⟨lt, opens, fun k after before => unbroken k after (by omega)⟩,
      unbroken j lt (Nat.le_refl j)⟩
  · rintro ⟨⟨lt, opens, unbroken⟩, notBroken⟩
    refine ⟨lt, opens, fun k after upTo => ?_⟩
    rcases Nat.lt_or_eq_of_le upTo with earlier | rfl
    · exact unbroken k after earlier
    · exact notBroken

theorem live_succ_iff_encloses :
    Live lines (n + 1) i ↔ (i = n ∧ Opens lines n) ∨ Encloses lines i n := by
  rw [live_succ_iff, encloses_iff]

theorem over_of_breaks (after : i < n) (breaks : Breaks lines i n) : Over lines n i := by
  intro l reaches
  -- a line from `n` on would be reached past the break
  by_contra beyond
  exact reaches.2.2.2 n after (by omega) breaks

theorem over_length : Over lines lines.length i := fun _ reaches => reaches.2.1

/-- While a callout is open, it reaches every line with content. -/
theorem Live.reaches_iff (live : Live lines n i) (lt : l < n) :
    Reaches lines i l ↔ i ≤ l ∧ ¬Blank lines l := by
  constructor
  · exact fun reaches => ⟨reaches.1, reaches.2.2.1⟩
  · rintro ⟨le, content⟩
    exact ⟨le, lt_length_of_not_blank content, content,
      fun k after upTo => live.2.2 k after (by omega)⟩

/-- The last line with content so far is the last for good, once a callout is over. -/
theorem Live.ends (live : Live lines n i) (done : Over lines n i)
    (last : IsGreatest {l | i ≤ l ∧ l < n ∧ ¬Blank lines l} l) : Ends lines i l := by
  obtain ⟨⟨le, lt, content⟩, greatest⟩ := last
  refine ⟨(live.reaches_iff lt).mpr ⟨le, content⟩, fun m reaches => ?_⟩
  -- whatever the callout reaches lies in front of `n`, where it was open all the time
  have before : m < n := done m reaches
  have inside := (live.reaches_iff before).mp reaches
  exact greatest ⟨inside.1, before, inside.2⟩

theorem mem_openers : k ∈ openers lines n ↔ k < n ∧ Opens lines k := by
  simp [openers]

theorem openers_succ : openers lines (n + 1) =
    openers lines n ++ if Opens lines n then [n] else [] := by
  simp only [openers, List.range_succ, List.filter_append]
  by_cases opens : Opens lines n <;> simp [opens]

theorem openers_sorted : (openers lines n).Pairwise (· < ·) :=
  List.pairwise_lt_range.filter _

theorem Parent.unique {p q : Option Nat} (left : Parent lines j p) (right : Parent lines j q) :
    p = q := by
  cases p with
  | none =>
    cases q with
    | none => rfl
    | some b => exact absurd right.1 (left b)
  | some a =>
    cases q with
    | none => exact absurd left.1 (right a)
    | some b => exact congrArg some (IsGreatest.unique left right)

end DreamJournal.Containment
