import DreamJournal.Proofs.Callout.Nesting
import DreamJournal.Proofs.Callout.Writing

/-!
# A line of text outside any quote separates a note

Such a line closes every callout, so the scan goes on behind it as at the beginning of a note: what
it finds there joins what it has found before, and the lines in front might as well be blank. The
callouts of the note are those of the one part and then those of the other, each at its place.
-/
namespace DreamJournal.Scan

open Containment Callout

variable {s base : State} {lines front back : List Text} {line : Text} {roots : List Callout}

/-! ## Scanning behind what was found before -/

/-- A scan that has found something before. -/
def State.over (s base : State) : State :=
  { s with roots := s.roots ++ base.roots, warnings := s.warnings ++ base.warnings }

theorem closeDeeper_over (limit : Nat) (stack : List Open) (roots before : List Callout) :
    closeDeeper limit stack (roots ++ before) =
      ((closeDeeper limit stack roots).1, (closeDeeper limit stack roots).2 ++ before) := by
  induction stack, roots using closeDeeper.induct limit with
  | case1 roots => rw [closeDeeper, closeDeeper]
  | case2 inner roots deeper => simp only [closeDeeper, if_pos deeper, List.cons_append]
  | case3 inner roots deeper around rest ih => simp only [closeDeeper, if_pos deeper, ih]
  | case4 inner outer roots shallow => simp only [closeDeeper_of_shallow shallow]

theorem closeTo_over (limit : Nat) (base s : State) :
    (s.over base).closeTo limit = (s.closeTo limit).over base := by
  simp only [State.closeTo, State.over, closeDeeper_over]

theorem openCallout_over (n : Nat) (line : Text) (header : Header) (base s : State) :
    (s.over base).openCallout n line header = (s.openCallout n line header).over base := by
  unfold State.openCallout
  rw [closeTo_over]
  generalize s.closeTo (header.markers - 1) = closed
  -- what is said of the header depends on the open callouts alone
  have same : (closed.over base).stack = closed.stack := rfl
  simp only [same]
  cases placement? closed.stack header <;> rfl

theorem step_over (base s : State) (n : Nat) (line : Text) :
    step (s.over base) n line = (step s n line).over base := by
  unfold step
  split
  · rfl
  · split
    · exact closeTo_over 0 base s
    · cases Header.ofLine? line with
      | some header => exact openCallout_over n line header base s
      | none =>
        cases Header.looksLikeTag (Marker.strip line) <;>
          simp only [Bool.false_eq_true, if_false, if_true]
        · rw [closeTo_over]
          rfl
        · have warned : (s.over base).warn n (.malformedTag line) =
              (s.warn n (.malformedTag line)).over base := rfl
          rw [warned, closeTo_over]
          rfl

theorem run_over (base s : State) (n : Nat) (lines : List Text) :
    run (s.over base) n lines = (run s n lines).over base := by
  induction lines generalizing s n with
  | nil => rfl
  | cons line rest ih => rw [run, step_over, ih, run]

theorem initial_over (closed : base.stack = []) : State.initial.over base = base := by
  obtain ⟨stack, roots, warnings⟩ := base
  obtain rfl : stack = [] := closed
  rfl

theorem run_blank (n count : Nat) :
    run .initial n (List.replicate count []) = .initial := by
  induction count generalizing n with
  | zero => rfl
  | succ count ih =>
    rw [List.replicate_succ, run]
    exact ih (n + 1)

/-! ## The two parts of a note -/

/-- Nothing is open behind the line, so the scan begins anew over what it has found. -/
theorem run_separated (unquoted : Marker.count line = 0)
    (content : Text.isAllBlank line = false) (front back : List Text) :
    run .initial 0 (front ++ line :: back) =
      (run .initial (front.length + 1) back).over ((run .initial 0 front).closeTo 0) := by
  have inv : Invariant front front.length (run .initial 0 front) :=
    run_invariant front rfl initial_invariant (Nat.zero_le _)
  have closed : ((run .initial 0 front).closeTo 0).stack = [] := closeDeeper_zero inv.nested
  have separates : step (run .initial 0 front) front.length line =
      (run .initial 0 front).closeTo 0 := by
    rw [step, if_neg (by simp [content]), if_pos unquoted]
  rw [run_append, Nat.zero_add, run, separates, ← run_over, initial_over closed]

/-- The callouts in front of a line that closes them all, and those behind it. -/
theorem ofLines_separated (unquoted : Marker.count line = 0)
    (content : Text.isAllBlank line = false) (front back : List Text) :
    (Scan.ofLines (front ++ line :: back)).roots = (Scan.ofLines front).roots ++
      (Scan.ofLines (List.replicate (front.length + 1) [] ++ back)).roots := by
  have behind : run .initial 0 (List.replicate (front.length + 1) [] ++ back) =
      run .initial (front.length + 1) back := by
    rw [run_append, run_blank, List.length_replicate, Nat.zero_add]
  unfold Scan.ofLines
  rw [run_separated unquoted content, behind, closeTo_over]
  simp only [State.over, List.reverse_append]

theorem start_lt {c : Callout} (member : c ∈ walkAll (Scan.ofLines lines).roots) :
    c.start < lines.length := ((ofLines_scanned lines).opens member).lt_length

theorem le_start {c : Callout} {count : Nat}
    (member : c ∈ walkAll (Scan.ofLines (List.replicate count [] ++ back)).roots) :
    count ≤ c.start := by
  have opens := (ofLines_scanned _).opens member
  -- a header is not blank
  by_contra inside
  apply opens.not_blank
  have isBlank : lineAt (List.replicate count [] ++ back) c.start = [] := by
    rw [lineAt, List.getD_eq_getElem?_getD, List.getElem?_append_left (by simpa using inside),
      List.getElem?_replicate, if_pos (by omega), Option.getD_some]
  show Text.isAllBlank (lineAt _ c.start) = true
  rw [isBlank]
  rfl

/-- A note has a callout of some kind where it has a header of that kind. -/
theorem exists_callout_iff (scanned : Scanned lines roots) (isKind : Text → Prop) :
    (∃ c ∈ walkAll roots, isKind c.kind) ↔
      ∃ line ∈ lines, ∃ header, Header.ofLine? line = some header ∧ isKind header.kind := by
  constructor
  · rintro ⟨c, member, given⟩
    have lt := (scanned.opens member).lt_length
    have header := (scanned.faithful c member).header
    rw [lineAt_eq_getElem lt] at header
    exact ⟨_, List.getElem_mem lt, _, header, given⟩
  · rintro ⟨line, member, header, found, given⟩
    obtain ⟨k, lt, rfl⟩ := List.getElem_of_mem member
    rw [← lineAt_eq_getElem lt] at found
    obtain ⟨c, walked, rfl⟩ := scanned.exists_of_opens
      (opens_iff.mpr (found ▸ rfl : (Header.ofLine? (lineAt lines k)).isSome = true))
    rw [(scanned.faithful c walked).header] at found
    obtain rfl := Option.some.inj found
    exact ⟨c, walked, given⟩

end DreamJournal.Scan
