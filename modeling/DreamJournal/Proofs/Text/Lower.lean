import DreamJournal.Proofs.Text.Case
import DreamJournal.Proofs.Text.Words

/-!
# Lower case is final

A character in lower case has itself as its lower case form. Outside the first 128 characters that
is a fact about the case table: no run of it sends a letter to one that a run moves, to a capital
sigma or a dotted capital i, or to white space. Whether two runs are apart can be told from their
ends, so the table is checked by its runs and not by its letters.
-/
namespace DreamJournal.Text

variable {c : Char} {t : Text} {m n : Nat} {run other : CaseRun} {runs : List CaseRun}

/-- A character that is in lower case already. -/
structure IsSmall (c : Char) : Prop where
  not_sigma : c ≠ 'Σ'
  not_dotted : c.toNat ≠ 0x130
  same : lowerChar c = c

/-! ## The case table -/

namespace CaseRun

/-- From the first to the last code point that a run sends letters to. -/
def image (run : CaseRun) : CodeRange :=
  if run.up then ⟨run.range.first + run.distance, run.range.last + run.distance⟩
  else ⟨run.range.first - run.distance, run.range.last - run.distance⟩

/-- Whether two ranges have no code point in common. -/
def areApart (range other : CodeRange) : Bool :=
  Nat.blt range.last other.first || Nat.blt other.last range.first

/-- Whether a run sends no letter to one that another run moves: either their ends tell, or the
letters of one stand between those of the other. -/
def isApart (run other : CaseRun) : Bool :=
  areApart run.image other.range ||
    (other.step == 2 && (run.step == 2 || run.range.first == run.range.last) &&
      run.image.first % 2 != other.range.first % 2)

/-- What no letter is sent to: the letters that are treated apart, white space, and the code points
that are no characters. -/
def avoided : List CodeRange :=
  [⟨0, 0x5A⟩, ⟨0x85, 0x85⟩, ⟨0xA0, 0xA0⟩, ⟨0x130, 0x130⟩, ⟨0x3A3, 0x3A3⟩, ⟨0x1680, 0x1680⟩,
    ⟨0x2000, 0x200A⟩, ⟨0x2028, 0x2029⟩, ⟨0x202F, 0x202F⟩, ⟨0x205F, 0x205F⟩, ⟨0x3000, 0x3000⟩,
    ⟨0xD800, 0xDFFF⟩]

/-- Small letters that stand in no run, but in the lower case form of a text. -/
def others : List Nat := [0x307, 0x3C2, 0x3C3]

/-- Whether a run sends its letters to small ones, as far as the other runs go. -/
def isSettled (runs : List CaseRun) (run : CaseRun) : Bool :=
  (run.up || Nat.ble run.distance run.range.first) && Nat.blt run.image.last 0x110000 &&
    avoided.all (areApart run.image) && others.all (fun n => (run.send? n).isNone) &&
    runs.all run.isApart

theorem areApart_iff {range other : CodeRange} : areApart range other = true ↔
    range.last < other.first ∨ other.last < range.first := by
  simp [areApart]

/-- Where a letter goes, told from the ends of its run. -/
theorem mem_image (sent : run.send? n = some m)
    (low : run.up = true ∨ run.distance ≤ run.range.first) :
    run.image.first ≤ m ∧ m ≤ run.image.last ∧
      (run.step = 2 → m % 2 = run.image.first % 2) ∧
      (run.range.first = run.range.last → m = run.image.first) := by
  obtain ⟨covers, sent⟩ := Option.ite_none_right_eq_some.mp sent
  simp only [CodeRange.contains, Bool.and_eq_true, decide_eq_true_eq, beq_iff_eq] at covers
  obtain ⟨⟨lower, upper⟩, step⟩ := covers
  have parity : run.step = 2 → (n - run.range.first) % 2 = 0 := fun two => by rwa [two] at step
  obtain rfl := Option.some.inj sent
  unfold image
  cases goesUp : run.up with
  | true =>
    simp only [if_true]
    exact ⟨by omega, by omega, fun two => by have := parity two; omega, fun alone => by omega⟩
  | false =>
    have near : run.distance ≤ run.range.first := by simpa [goesUp] using low
    simp only [Bool.false_eq_true, if_false]
    exact ⟨by omega, by omega, fun two => by have := parity two; omega, fun alone => by omega⟩

theorem send?_eq_none (apart : run.isApart other = true) (sent : run.send? n = some m)
    (low : run.up = true ∨ run.distance ≤ run.range.first) : other.send? m = none := by
  obtain ⟨lower, upper, parity, alone⟩ := mem_image sent low
  refine if_neg fun covers => ?_
  simp only [CodeRange.contains, Bool.and_eq_true, decide_eq_true_eq, beq_iff_eq] at covers
  simp only [isApart, Bool.or_eq_true, Bool.and_eq_true, areApart_iff, beq_iff_eq,
    bne_iff_ne] at apart
  rcases apart with ends | ⟨⟨two, even⟩, between⟩
  · omega
  · -- the letters of the other run have the wrong parity
    have place : m % 2 = run.image.first % 2 := even.elim parity fun single => by rw [alone single]
    rw [two] at covers
    omega

theorem lowerRuns_settled : lowerRuns.all (isSettled lowerRuns) = true := by
  -- as characters the rows are read much faster than as strings
  simp only [lowerRuns, readAll, List.flatMap_cons, List.flatMap_nil, of]
  repeat rw [String.toList_ofList]
  decide +kernel

theorem isSettled_of_mem (member : run ∈ lowerRuns) : isSettled lowerRuns run = true :=
  List.all_eq_true.mp lowerRuns_settled run member

theorem sendFirst_eq_self (unmoved : ∀ run ∈ runs, run.send? n = none) : sendFirst runs n = n := by
  rw [sendFirst, List.findSome?_eq_none_iff.mpr unmoved, Option.getD_none]

theorem sendFirst_others (member : n ∈ others) : sendFirst lowerRuns n = n := by
  refine sendFirst_eq_self fun run listed => ?_
  have settled := isSettled_of_mem listed
  simp only [isSettled, Bool.and_eq_true, List.all_eq_true, Option.isNone_iff_eq_none] at settled
  exact settled.1.2 n member

/-- The table leaves a code point alone, or sends it to a small letter. -/
theorem sendFirst_cases (n : Nat) :
    sendFirst lowerRuns n = n ∨
      (∀ range ∈ avoided, ¬range.contains (sendFirst lowerRuns n) = true) ∧
        sendFirst lowerRuns n < 0x110000 ∧
        sendFirst lowerRuns (sendFirst lowerRuns n) = sendFirst lowerRuns n := by
  cases found : lowerRuns.findSome? fun run => run.send? n with
  | none => exact .inl (by rw [sendFirst, found, Option.getD_none])
  | some m =>
    right
    obtain ⟨run, listed, sent⟩ := List.exists_of_findSome?_eq_some found
    have settled := isSettled_of_mem listed
    simp only [isSettled, Bool.and_eq_true, Bool.or_eq_true, List.all_eq_true, Nat.ble_eq,
      Nat.blt_eq] at settled
    obtain ⟨⟨⟨⟨low, small⟩, avoids⟩, _⟩, apart⟩ := settled
    have ⟨lower, upper, _⟩ := mem_image sent low
    have goes : sendFirst lowerRuns n = m := by rw [sendFirst, found, Option.getD_some]
    rw [goes]
    refine ⟨fun range forbidden inside => ?_, by omega,
      sendFirst_eq_self fun other member => send?_eq_none (apart other member) sent low⟩
    have ends := areApart_iff.mp (avoids range forbidden)
    simp only [CodeRange.contains, Bool.and_eq_true, decide_eq_true_eq] at inside
    omega

end CaseRun

/-! ## Characters -/

theorem toNat_ofNat (small : n < 0x110000) (noSurrogate : ¬(0xD800 ≤ n ∧ n ≤ 0xDFFF)) :
    (Char.ofNat n).toNat = n := by
  have valid : n.isValidChar := by
    unfold Nat.isValidChar
    omega
  rw [Char.ofNat, dif_pos valid]
  rfl

/-- A letter outside the first 128 characters stays where it is, or becomes a small letter. -/
theorem lowerChar_cases (wide : 0x80 ≤ c.toNat) (noDot : c.toNat ≠ 0x130) :
    lowerChar c = c ∨ IsSmall (lowerChar c) ∧ isBlank (lowerChar c) = false := by
  have direct : lowerChar c = Char.ofNat (CaseRun.sendFirst lowerRuns c.toNat) := by
    rw [lowerChar, if_neg (by omega), if_neg noDot]
  rcases CaseRun.sendFirst_cases c.toNat with stays | ⟨avoids, small, settled⟩
  · left
    rw [direct, stays, Char.ofNat_toNat]
  · right
    rw [direct]
    generalize CaseRun.sendFirst lowerRuns c.toNat = m at avoids small settled
    simp only [CaseRun.avoided, List.forall_mem_cons, CodeRange.contains, Bool.and_eq_true,
      decide_eq_true_eq, not_and] at avoids
    have code : (Char.ofNat m).toNat = m := toNat_ofNat small (by omega)
    refine ⟨⟨?_, by omega, ?_⟩, ?_⟩
    · intro sigma
      rw [sigma] at code
      have : 'Σ'.toNat = 0x3A3 := rfl
      omega
    · by_cases plain : m < 0x80
      · -- the Kelvin sign and the like
        rw [lowerChar_plain (by omega)]
        rcases toLower_cases (Char.ofNat m) with ⟨capital, _⟩ | ⟨_, same⟩
        · omega
        · exact same
      · rw [lowerChar, if_neg (by omega), if_neg (by omega), code, settled]
    · simp only [isBlank, code, Bool.or_eq_false_iff, Bool.and_eq_false_iff,
        decide_eq_false_iff_not, beq_eq_false_iff_ne]
      omega

theorem isSmall_lowerChar (noSigma : c ≠ 'Σ') : IsSmall (lowerChar c) := by
  by_cases plain : c.toNat < 0x80
  · have small : (lowerChar c).toNat < 0x80 := by
      rw [lowerChar_plain plain]
      rcases toLower_cases c with ⟨capital, moved⟩ | ⟨_, same⟩
      · omega
      · rwa [same]
    refine ⟨?_, by omega, lowerChar_lowerChar plain⟩
    intro sigma
    rw [sigma] at small
    exact absurd small (by decide)
  · by_cases dotted : c.toNat = 0x130
    · -- one character has no place for the dot, which a text has behind the letter
      have isI : lowerChar c = 'i' := by rw [lowerChar, if_neg plain, if_pos dotted]
      rw [isI]
      exact ⟨by decide, by decide, rfl⟩
    · rcases lowerChar_cases (Nat.le_of_not_lt plain) dotted with same | ⟨small, _⟩
      · rw [same]
        exact ⟨noSigma, dotted, same⟩
      · exact small

theorem isSmall_others (member : n ∈ CaseRun.others) : IsSmall (Char.ofNat n) := by
  have sent := CaseRun.sendFirst_others member
  simp only [CaseRun.others, List.mem_cons, List.not_mem_nil, or_false] at member
  have code : (Char.ofNat n).toNat = n := toNat_ofNat (by omega) (by omega)
  refine ⟨?_, by omega, ?_⟩
  · intro sigma
    rw [sigma] at code
    have : 'Σ'.toNat = 0x3A3 := rfl
    omega
  · rw [lowerChar, if_neg (by omega), if_neg (by omega), code, sent]

theorem isBlank_lowerChar (inked : isBlank c = false) : isBlank (lowerChar c) = false := by
  by_cases plain : c.toNat < 0x80
  · rw [lowerChar_plain plain]
    rcases toLower_cases c with ⟨capital, moved⟩ | ⟨_, same⟩
    · simp only [isBlank, moved, Bool.or_eq_false_iff, Bool.and_eq_false_iff,
        decide_eq_false_iff_not, beq_eq_false_iff_ne]
      omega
    · rwa [same]
  · by_cases dotted : c.toNat = 0x130
    · rw [lowerChar, if_neg plain, if_pos dotted]
      rfl
    · rcases lowerChar_cases (Nat.le_of_not_lt plain) dotted with same | ⟨_, stays⟩
      · rwa [same]
      · exact stays

/-! ## Texts -/

theorem isSmall_of_mem_lowerFrom {before : Text} (member : c ∈ lowerFrom before t) : IsSmall c := by
  induction t generalizing before with
  | nil => exact absurd member List.not_mem_nil
  | cons d t ih =>
    rw [lowerFrom] at member
    rcases List.mem_append.mp member with here | later
    · split at here
      next =>
        -- a capital sigma has one small form at the end of a word and one elsewhere
        split at here
        · obtain rfl := List.mem_singleton.mp here
          exact isSmall_others (by decide : 0x3C2 ∈ CaseRun.others)
        · obtain rfl := List.mem_singleton.mp here
          exact isSmall_others (by decide : 0x3C3 ∈ CaseRun.others)
      next noSigma =>
        split at here
        · rcases List.mem_pair.mp here with rfl | rfl
          · exact ⟨by decide, by decide, rfl⟩
          · exact isSmall_others (by decide)
        · obtain rfl := List.mem_singleton.mp here
          exact isSmall_lowerChar noSigma
    · exact ih later

theorem isSmall_of_mem_lower (member : c ∈ lower t) : IsSmall c := isSmall_of_mem_lowerFrom member

theorem lowerFrom_eq_self (small : ∀ c ∈ t, IsSmall c) (before : Text) :
    lowerFrom before t = t := by
  induction t generalizing before with
  | nil => rfl
  | cons c t ih =>
    have ⟨here, later⟩ := List.forall_mem_cons.mp small
    rw [lowerFrom, if_neg here.not_sigma, if_neg here.not_dotted, here.same, ih later]
    rfl

theorem lower_eq_self (small : ∀ c ∈ t, IsSmall c) : lower t = t := lowerFrom_eq_self small []

theorem lower_lower (t : Text) : lower (lower t) = lower t :=
  lower_eq_self fun _ member => isSmall_of_mem_lower member

theorem exists_inked_lower (inked : ∃ c ∈ t, isBlank c = false) :
    ∃ c ∈ lower t, isBlank c = false := by
  have within (before : Text) : ∃ c ∈ lowerFrom before t, isBlank c = false := by
    induction t generalizing before with
    | nil => simp at inked
    | cons d t ih =>
      rw [lowerFrom]
      simp only [List.mem_append]
      by_cases here : isBlank d = false
      · split
        next => split <;> exact ⟨_, .inl List.mem_cons_self, by decide⟩
        next =>
          split
          · exact ⟨'i', .inl List.mem_cons_self, rfl⟩
          · exact ⟨lowerChar d, .inl List.mem_cons_self, isBlank_lowerChar here⟩
      · obtain ⟨c, member, shows⟩ := inked
        have other : c ∈ t := by
          rcases List.mem_cons.mp member with rfl | later
          · exact absurd shows here
          · exact later
        obtain ⟨e, inside, stays⟩ := ih ⟨c, other, shows⟩ (d :: before)
        exact ⟨e, .inr inside, stays⟩
  exact within []

end DreamJournal.Text
