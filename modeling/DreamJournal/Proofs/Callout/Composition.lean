import DreamJournal.Proofs.Callout.Separation
import DreamJournal.Proofs.Callout.Spelling

/-!
# Scanning is compositional

A line of text outside any quote parts a note, and the scan of the whole is put together from the
scans of the parts: what the second part holds is found as many lines further down as the first one
and the parting line take up, and is the same in everything else.

Parts are given by their lines. A text does not tell whether an empty line follows its last break,
but a blank line at the end of a note is only held and never counts: once everything is closed, it
is dropped again.
-/
namespace DreamJournal

/-- A callout as it stands `k` lines further down. -/
def Callout.shift (k : Nat) : Callout → Callout := recast id k

theorem Callout.shift_eq (k : Nat) (c : Callout) : c.shift k =
    { c with start := c.start + k, stop := c.stop + k, children := c.children.map (shift k) } := by
  rw [shift, recast_eq, List.map_id, id]

/-- A diagnostic of a line that stands `k` lines further down. -/
def Diagnostic.shift (k : Nat) (d : Diagnostic) : Diagnostic :=
  { d with line := d.line.map (· + k) }

namespace Scan

open Containment Callout

variable {lines front back : List Text} {line : Text} {n : Nat} {s : State}

/-! ## A blank line at the end -/

/-- What a callout spans goes no further than what it has taken. -/
def Open.Spans (o : Open) : Prop := o.stop - o.start ≤ o.body.length

theorem Tracked.spans {o : Open} (tracked : Tracked lines n o) (upTo : n ≤ lines.length) :
    o.Spans := by
  have before : o.stop < n := tracked.stop_lt
  have taken := congrArg List.length tracked.body
  rw [List.length_reverse, List.length_drop, List.length_take, Nat.min_eq_left upTo] at taken
  unfold Open.Spans
  omega

theorem holdBlank_carries (line : Text) : Carries Open.Spans (Open.holdBlank line) id where
  markers_eq _ := rfl
  close_eq o spans := by
    have unspanned : (o.body.reverse ++ [line]).take (o.stop - o.start) =
        o.body.reverse.take (o.stop - o.start) :=
      List.take_append_of_le_length (by rwa [List.length_reverse])
    simp only [Open.close, Open.holdBlank, List.reverse_cons, unspanned, id]
  adopts _ _ spans := spans
  adopt_eq _ _ := rfl

/-- A blank line at the end of a note changes nothing. -/
theorem ofLines_append_blank (blank : Text.isAllBlank line = true) (lines : List Text) :
    Scan.ofLines (lines ++ [line]) = Scan.ofLines lines := by
  have inv : Invariant lines lines.length (run .initial 0 lines) :=
    run_invariant lines rfl initial_invariant (Nat.zero_le _)
  have spans : ∀ o ∈ (run .initial 0 lines).stack, o.Spans :=
    fun o member => (inv.nested.tracked member).spans (Nat.le_refl _)
  have held := (holdBlank_carries line).closeDeeper 0 _ (run .initial 0 lines).roots spans
  rw [List.map_id, List.map_id] at held
  rw [Scan.ofLines, run_append, run, run, step, if_pos blank]
  simp only [Scan.ofLines, State.closeTo, held]

theorem ofText_joinLines (unbroken : ∀ line ∈ lines, ∀ c ∈ line, Text.isLineBreak c = false) :
    Scan.ofText (Text.joinLines lines) = Scan.ofLines lines := by
  rcases Text.lines_joinLines_cases unbroken with whole | cut
  · rw [Scan.ofText, whole]
  · -- the joined text reads as the lines without the empty one at the end
    rw [Scan.ofText]
    conv_rhs => rw [cut]
    exact (ofLines_append_blank rfl _).symm

/-! ## The two parts -/

theorem run_shifted (k : Nat) (lines : List Text) :
    run .initial k lines = (run .initial 0 lines).recast id k := by
  have read : run (State.initial.recast id k) (0 + k) (lines.map id) =
      (run .initial 0 lines).recast id k := run_recast (fun _ => ⟨rfl, rfl⟩) 0 lines .initial
  rwa [List.map_id, Nat.zero_add] at read

theorem recast_id (warning : ScanWarning) : warning.recast id = warning := by
  cases warning <;> rfl

theorem ofLines_composed (unquoted : Marker.count line = 0)
    (content : Text.isAllBlank line = false) (front back : List Text) :
    Scan.ofLines (front ++ line :: back) =
      ⟨(Scan.ofLines front).roots ++
          (Scan.ofLines back).roots.map (Callout.shift (front.length + 1)),
        (Scan.ofLines front).warnings ++ (Scan.ofLines back).warnings.map
          fun (number, warning) => (number + (front.length + 1), warning)⟩ := by
  rw [Scan.ofLines, run_separated unquoted content, run_shifted, closeTo_over, closeTo_recast]
  simp only [Scan.ofLines, State.over, State.recast, recast_id, List.reverse_append,
    List.map_reverse, Callout.shift]

/-- A note in two parts with a line of text outside any quote between them: the callouts and the
warnings of the one part, and then those of the other, further down. -/
theorem ofText_composed
    (unbroken : ∀ l ∈ front ++ line :: back, ∀ c ∈ l, Text.isLineBreak c = false)
    (content : Text.isAllBlank line = false) (unquoted : Marker.count line = 0) :
    (Scan.ofText (Text.joinLines (front ++ line :: back))).roots =
        (Scan.ofText (Text.joinLines front)).roots ++
          (Scan.ofText (Text.joinLines back)).roots.map (Callout.shift (front.length + 1)) ∧
      ∀ source, (Scan.ofText (Text.joinLines (front ++ line :: back))).diagnostics source =
        (Scan.ofText (Text.joinLines front)).diagnostics source ++
          ((Scan.ofText (Text.joinLines back)).diagnostics source).map
            (Diagnostic.shift (front.length + 1)) := by
  obtain ⟨inFront, further⟩ := List.forall_mem_append.mp unbroken
  obtain ⟨_, behind⟩ := List.forall_mem_cons.mp further
  rw [ofText_joinLines unbroken, ofText_joinLines inFront, ofText_joinLines behind,
    ofLines_composed unquoted content]
  refine ⟨rfl, fun source => ?_⟩
  simp only [Scan.diagnostics, List.map_append, List.map_map]
  rfl

/-- The first part ends inside two callouts that hold blank lines, and the second one begins on a
level of its own. -/
theorem ofText_composed_open :
    let front := ["> [!day] Sea", ">>> [!dream] Hill", ">>> [!mood", ">> ", ""].map Text.of
    let line := Text.of "shore"
    let back := [">> [!dream] Tree", "", ">>> [!mood] calm", ""].map Text.of
    (∀ l ∈ front ++ line :: back, ∀ c ∈ l, Text.isLineBreak c = false) ∧
      Text.isAllBlank line = false ∧ Marker.count line = 0 ∧
      (walkAll (Scan.ofText (Text.joinLines (front ++ line :: back))).roots).map Callout.start =
        [0, 1, 6, 8] ∧
      (Scan.ofText (Text.joinLines (front ++ line :: back))).roots =
        (Scan.ofText (Text.joinLines front)).roots ++
          (Scan.ofText (Text.joinLines back)).roots.map (Callout.shift (front.length + 1)) ∧
      ∀ source, (Scan.ofText (Text.joinLines (front ++ line :: back))).diagnostics source =
        (Scan.ofText (Text.joinLines front)).diagnostics source ++
          ((Scan.ofText (Text.joinLines back)).diagnostics source).map
            (Diagnostic.shift (front.length + 1)) := by
  intro front line back
  have unbroken : ∀ l ∈ front ++ line :: back, ∀ c ∈ l, Text.isLineBreak c = false := by
    have none : (front ++ line :: back).all (fun l => !l.any Text.isLineBreak) = true := by decide
    intro l listed c member
    have unbroken := List.all_eq_true.mp none l listed
    rw [Bool.not_eq_true'] at unbroken
    simpa using List.any_eq_false.mp unbroken c member
  exact ⟨unbroken, by decide, by decide, by decide +kernel,
    ofText_composed unbroken (by decide) (by decide)⟩

end Scan
end DreamJournal
