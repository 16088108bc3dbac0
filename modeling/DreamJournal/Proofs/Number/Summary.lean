import DreamJournal.Number.Summary
import DreamJournal.Proofs.Number.Rounding
import Mathlib.Algebra.BigOperators.Group.List.Basic

/-!
# Which lists of numbers have a summary

A summary takes two sums, and each of them can fail in a way of its own. The total fails at the
first number of double precision when the whole numbers in front of it add up to too much. The mean
fails at a whole number that is too large in itself, at opposite infinities, and when a rounded sum
is too great.

The last of these depends on how the sum is rounded, so it is bounded from both sides. What rounding
has left over in the parts of a sum is at most `2 ^ 970` for each number added, so a rounded sum is
that close to the exact one: for sums that are farther away from the limit, the exact ones decide.
-/
namespace DreamJournal.Number

open Double (limit unitLimit unitSlack)

/-! ## Parts of a sum -/

/-- A number is added to the first of some parts: the sum is too great, or it goes on rounded and
leaves over what rounding has changed. -/
theorem addToParts_cons (n part : Int) (rest : List Int) :
    (unitLimit ≤ (n + part).natAbs ∧ addToParts n (part :: rest) = none) ∨
    ((n + part).natAbs < unitLimit ∧ ∃ rounded : Int, rounded.natAbs < unitLimit ∧
      (n + part - rounded).natAbs ≤ unitSlack ∧
      addToParts n (part :: rest) = (addToParts rounded rest).map fun parts =>
        if n + part - rounded = 0 then parts else (n + part - rounded) :: parts) := by
  have finite := Double.ofUnits_isFinite_iff (n + part)
  rw [addToParts]
  split
  · rename_i negative significand exponent canonical rounded
    rw [rounded] at finite
    refine .inr ⟨finite.mp rfl, _, Double.natAbs_units_lt canonical, ?_, rfl⟩
    have near := Double.ofUnits_near rounded
    omega
  · rename_i other
    refine .inl ⟨?_, rfl⟩
    by_contra below
    obtain ⟨_, _, _, _, isFinite⟩ : ∃ negative significand exponent canonical,
        Double.ofUnits (n + part) = .finite negative significand exponent canonical := by
      have holds := finite.mpr (not_le.mp below)
      cases here : Double.ofUnits (n + part) with
      | finite negative significand exponent canonical => exact ⟨_, _, _, _, rfl⟩
      | nan => simp [here, Double.isFinite] at holds
      | infinity => simp [here, Double.isFinite] at holds
    exact other _ _ _ _ isFinite

theorem exists_of_addToParts {n part : Int} {rest parts : List Int}
    (added : addToParts n (part :: rest) = some parts) :
    ∃ rounded later, (n + part).natAbs < unitLimit ∧ rounded.natAbs < unitLimit ∧
      (n + part - rounded).natAbs ≤ unitSlack ∧ addToParts rounded rest = some later ∧
      (if n + part - rounded = 0 then later else (n + part - rounded) :: later) = parts := by
  obtain ⟨_, none⟩ | ⟨below, rounded, bound, near, one⟩ := addToParts_cons n part rest
  · rw [none] at added
    cases added
  · rw [one, Option.map_eq_some_iff] at added
    obtain ⟨later, isLater, same⟩ := added
    exact ⟨rounded, later, below, bound, near, isLater, same⟩

/-- Parts that some numbers have been added to: they add up to the sum of these, there are no more
of them, and all but the last are what rounding has left over. -/
structure IsSplit (parts : List Int) (sum : Int) (count : Nat) : Prop where
  sum : parts.sum = sum
  length : parts.length ≤ count
  left : ∀ part ∈ parts.dropLast, part.natAbs ≤ unitSlack

theorem isSplit_empty : IsSplit [] 0 0 := ⟨rfl, Nat.le_refl 0, by simp⟩

theorem addToParts_isSplit {n : Int} {old parts : List Int} {count : Nat}
    (added : addToParts n old = some parts) (length : old.length ≤ count) :
    IsSplit parts (n + old.sum) (count + 1) := by
  induction old generalizing n parts count with
  | nil =>
    simp only [addToParts, Option.some.injEq] at added
    subst added
    split
    · rename_i isZero
      exact ⟨by simp [isZero], by simp, by simp⟩
    · exact ⟨by simp, by simp, by simp⟩
  | cons part rest ih =>
    obtain ⟨rounded, later, _, _, near, isLater, rfl⟩ := exists_of_addToParts added
    obtain ⟨count, rfl⟩ : ∃ c, count = c + 1 :=
      ⟨count - 1, by simp only [List.length_cons] at length; omega⟩
    obtain ⟨sum, few, left⟩ := ih isLater (Nat.le_of_succ_le_succ length)
    -- what is left over becomes a part, unless there is nothing left
    split
    · exact ⟨by rw [sum, List.sum_cons]; omega, by omega, left⟩
    · refine ⟨by rw [List.sum_cons, sum, List.sum_cons]; omega, by simpa using few, ?_⟩
      intro p member
      cases later with
      | nil => simp at member
      | cons next later =>
        rcases List.mem_cons.mp member with rfl | member
        · exact near
        · exact left p member

/-- Parts can be added to when the number and the sum are away from the limit by the slack of each
part. -/
theorem exists_addToParts {n : Int} {parts : List Int}
    (left : ∀ part ∈ parts.dropLast, part.natAbs ≤ unitSlack)
    (one : n.natAbs + 2 * (parts.length * unitSlack) < unitLimit)
    (all : (n + parts.sum).natAbs + parts.length * unitSlack < unitLimit) :
    ∃ parts', addToParts n parts = some parts' := by
  induction parts generalizing n with
  | nil => exact ⟨_, rfl⟩
  | cons part rest ih =>
    rw [List.sum_cons, List.length_cons, Nat.add_one_mul rest.length] at all
    rw [List.length_cons, Nat.add_one_mul rest.length] at one
    -- a sum with the last part is the sum of all, and any other part is small
    have reached : (n + part).natAbs < unitLimit ∧ (rest = [] ∨ part.natAbs ≤ unitSlack) := by
      cases rest with
      | nil => exact ⟨by simp at all; omega, .inl rfl⟩
      | cons next later =>
        have small := left part (by simp)
        exact ⟨by omega, .inr small⟩
    obtain ⟨isNone, _⟩ | ⟨_, rounded, bound, near, added⟩ := addToParts_cons n part rest
    · omega
    · have restAdded : ∃ parts', addToParts rounded rest = some parts' := by
        rcases reached.2 with rfl | small
        · exact ⟨_, rfl⟩
        · apply ih
          · intro p member
            cases rest with
            | nil => simp at member
            | cons next later => exact left p (List.mem_cons_of_mem _ member)
          · omega
          · omega
      obtain ⟨later, isLater⟩ := restAdded
      exact ⟨_, by rw [added, isLater]; rfl⟩

/-- Where parts can be added to, the sum is beyond the limit by no more than their slack. -/
theorem sum_lt_of_addToParts {n : Int} {parts parts' : List Int} (small : n.natAbs < unitLimit)
    (added : addToParts n parts = some parts') :
    (n + parts.sum).natAbs < unitLimit + parts.length * unitSlack := by
  induction parts generalizing n parts' with
  | nil => simpa using small
  | cons part rest ih =>
    obtain ⟨rounded, later, _, bound, near, isLater, _⟩ := exists_of_addToParts added
    have behind := ih bound isLater
    rw [List.sum_cons, List.length_cons, Nat.add_one_mul rest.length]
    omega

/-! ## The exact sum of numbers -/

/-- A finite number in double precision, in units of `2 ^ -1074`. -/
def units? (n : Number) : Option Int :=
  match n.toDouble? with
  | some (.finite negative significand exponent _) =>
    some (Double.units negative significand exponent)
  | _ => none

/-- The parts of a sum after some numbers, none when a rounded sum was too great. Behind a number
that is not finite the sum begins anew. -/
def partsAfter (parts : List Int) : List Number → Option (List Int)
  | [] => some parts
  | n :: rest =>
    match n.units? with
    | some units => (addToParts units parts).bind fun parts => partsAfter parts rest
    | none => partsAfter [] rest

/-- The exact sums after each finite number, in units of `2 ^ -1074`. Behind a number that is not
finite the sum begins anew. -/
def runningSums (sum : Int) : List Number → List Int
  | [] => []
  | n :: rest =>
    match n.units? with
    | some units => (sum + units) :: runningSums (sum + units) rest
    | none => runningSums 0 rest

variable {ns : List Number} {parts : List Int} {sum : Int} {count bound : Nat}

theorem natAbs_units_lt {n : Number} {units : Int} (isUnits : n.units? = some units) :
    units.natAbs < unitLimit := by
  unfold units? at isUnits
  split at isUnits
  · rename_i canonical _
    obtain rfl := Option.some.inj isUnits
    exact Double.natAbs_units_lt canonical
  · cases isUnits

/-- While every number and every exact sum is away from the limit by the slack of all numbers, no
rounded sum is too great. -/
theorem exists_partsAfter (isSplit : IsSplit parts sum count) (few : count + ns.length ≤ bound)
    (one : ∀ n ∈ ns, ∀ units, n.units? = some units →
      units.natAbs + 2 * (bound * unitSlack) < unitLimit)
    (all : ∀ s ∈ runningSums sum ns, s.natAbs + bound * unitSlack < unitLimit) :
    ∃ parts', partsAfter parts ns = some parts' := by
  induction ns generalizing parts sum count with
  | nil => exact ⟨_, rfl⟩
  | cons n rest ih =>
    have ⟨here, later⟩ := List.forall_mem_cons.mp one
    rw [List.length_cons] at few
    unfold partsAfter
    unfold runningSums at all
    cases isUnits : n.units? with
    | none =>
      rw [isUnits] at all
      exact ih isSplit_empty (by omega) later all
    | some units =>
      rw [isUnits] at all
      obtain ⟨now, further⟩ := List.forall_mem_cons.mp all
      have slack : parts.length * unitSlack ≤ bound * unitSlack :=
        Nat.mul_le_mul_right _ (isSplit.length.trans (by omega))
      have size := here units isUnits
      obtain ⟨parts', added⟩ := exists_addToParts isSplit.left (n := units) (by omega) (by
        rw [isSplit.sum, Int.add_comm]
        omega)
      have split := addToParts_isSplit added isSplit.length
      rw [isSplit.sum, Int.add_comm] at split
      simpa only [added, Option.bind_some] using ih split (by omega) later further

/-- While no rounded sum is too great, every exact one is beyond the limit by no more than the slack
of all numbers. -/
theorem runningSums_lt (isSplit : IsSplit parts sum count) (few : count + ns.length ≤ bound)
    {parts' : List Int} (after : partsAfter parts ns = some parts') :
    ∀ s ∈ runningSums sum ns, s.natAbs < unitLimit + bound * unitSlack := by
  induction ns generalizing parts sum count with
  | nil => simp [runningSums]
  | cons n rest ih =>
    rw [List.length_cons] at few
    unfold partsAfter at after
    unfold runningSums
    cases isUnits : n.units? with
    | none =>
      rw [isUnits] at after
      exact ih isSplit_empty (by omega) after
    | some units =>
      rw [isUnits] at after
      obtain ⟨next, added, behind⟩ := Option.bind_eq_some_iff.mp after
      have slack : parts.length * unitSlack ≤ bound * unitSlack :=
        Nat.mul_le_mul_right _ (isSplit.length.trans (by omega))
      have reached := sum_lt_of_addToParts (natAbs_units_lt isUnits) added
      have split := addToParts_isSplit added isSplit.length
      rw [isSplit.sum, Int.add_comm] at split reached
      exact List.forall_mem_cons.mpr ⟨by omega, ih split (by omega) behind⟩

/-! ## The mean -/

theorem ExactSum.add_cases (sum : ExactSum) (n : Number) :
    (n.toDouble? = none ∧ sum.add n = .error .tooLarge) ∨
    (∃ units, n.toDouble?.isSome = true ∧ n.units? = some units ∧
      ((addToParts units sum.parts = none ∧ sum.add n = .error .sumOverflow) ∨
        ∃ parts, addToParts units sum.parts = some parts ∧
          sum.add n = .ok { sum with parts })) ∨
    ∃ special, n.toDouble?.isSome = true ∧ n.units? = none ∧
      sum.add n = .ok ⟨[], some special⟩ := by
  unfold ExactSum.add units?
  cases n.toDouble? with
  | none => exact .inl ⟨rfl, rfl⟩
  | some d =>
    right
    cases d with
    | finite negative significand exponent canonical =>
      left
      refine ⟨_, rfl, rfl, ?_⟩
      cases added : addToParts (Double.units negative significand exponent) sum.parts with
      | none => exact .inl ⟨rfl, by simp only [added]⟩
      | some parts => exact .inr ⟨parts, rfl, by simp only [added]⟩
    | nan => exact .inr ⟨_, rfl, rfl, rfl⟩
    | infinity negative => exact .inr ⟨_, rfl, rfl, rfl⟩

theorem foldlM_add_isOk_iff (sum : ExactSum) (ns : List Number) :
    (∃ total, ns.foldlM ExactSum.add sum = .ok total) ↔
      (∀ n ∈ ns, n.toDouble?.isSome = true) ∧ (partsAfter sum.parts ns).isSome = true := by
  induction ns generalizing sum with
  | nil => simp [partsAfter, pure, Except.pure]
  | cons n rest ih =>
    rw [List.forall_mem_cons, List.foldlM_cons, partsAfter]
    obtain ⟨tooLarge, added⟩ | ⟨units, given, isUnits, step⟩ | ⟨special, given, isUnits, added⟩ :=
      sum.add_cases n
    · simp [added, tooLarge, bind, Except.bind]
    · rcases step with ⟨tooGreat, added⟩ | ⟨parts, fits, added⟩
      · simp [added, isUnits, tooGreat, bind, Except.bind]
      · simp [added, isUnits, fits, given, bind, Except.bind, ih]
    · simp [added, isUnits, given, bind, Except.bind, ih]

theorem special_isSome {sum total : ExactSum} (added : ns.foldlM ExactSum.add sum = .ok total)
    (seen : sum.special.isSome = true ∨ ∃ negative, real (.infinity negative) ∈ ns) :
    total.special.isSome = true := by
  induction ns generalizing sum with
  | nil =>
    obtain rfl := Except.ok.inj added
    simpa using seen
  | cons n rest ih =>
    rw [List.foldlM_cons] at added
    obtain ⟨_, one⟩ | ⟨units, _, isUnits, ⟨_, one⟩ | ⟨parts, _, one⟩⟩ | ⟨special, _, _, one⟩ :=
      sum.add_cases n <;> rw [one] at added
    · cases added
    · cases added
    · apply ih added
      rcases seen with before | ⟨negative, member⟩
      · exact .inl before
      · rcases List.mem_cons.mp member with rfl | member
        · -- an infinity is not a finite number
          simp [units?, toDouble?] at isUnits
        · exact .inr ⟨negative, member⟩
    · exact ih added (.inl rfl)

theorem mean_isOk_iff (ns : List Number) :
    (∃ m, mean ns = .ok m) ↔
      (∀ n ∈ ns, n.toDouble?.isSome = true) ∧ (partsAfter [] ns).isSome = true ∧
        ¬(real (.infinity true) ∈ ns ∧ real (.infinity false) ∈ ns) := by
  rw [← and_assoc, ← foldlM_add_isOk_iff ⟨[], none⟩ ns]
  unfold mean exactTotal
  cases added : ns.foldlM ExactSum.add ⟨[], none⟩ with
  | error fault => simp [bind, Except.bind]
  | ok total =>
    cases isSpecial : total.special with
    | none =>
      -- without a special sum there was no infinity
      have unseen : ¬∃ negative, real (.infinity negative) ∈ ns := by
        intro seen
        have := special_isSome added (.inr seen)
        simp [isSpecial] at this
      have unseen : real (.infinity true) ∉ ns := fun member => unseen ⟨_, member⟩
      simp [bind, Except.bind, isSpecial, unseen]
    | some special =>
      by_cases both : real (.infinity true) ∈ ns ∧ real (.infinity false) ∈ ns
      · simp [bind, Except.bind, isSpecial, both]
      · simp [bind, Except.bind, isSpecial, both]

/-! ## The total -/

theorem plus_real (x : Double) {n : Number} (given : n.toDouble?.isSome = true) :
    ∃ y, plus (real x) n = .ok (real y) := by
  obtain ⟨d, isDouble⟩ := Option.isSome_iff_exists.mp given
  exact ⟨x.add d, by simp [plus, add?, toDouble?.eq_2, isDouble]⟩

theorem plus_whole_real (n : Int) (d : Double) :
    (n.natAbs < limit ∧ ∃ x, plus (whole n) (real d) = .ok (real x)) ∨
      (limit ≤ n.natAbs ∧ plus (whole n) (real d) = .error .tooLarge) := by
  have range := Double.ofInt?_isSome_iff n
  cases isDouble : Double.ofInt? n with
  | none =>
    rw [isDouble] at range
    refine .inr ⟨?_, by simp [plus, add?, toDouble?, isDouble]⟩
    by_contra below
    cases range.mpr (not_le.mp below)
  | some x =>
    rw [isDouble] at range
    exact .inl ⟨range.mp rfl, x.add d, by simp [plus, add?, toDouble?, isDouble]⟩

theorem exists_foldlM_real (given : ∀ n ∈ ns, n.toDouble?.isSome = true) (x : Double) :
    ∃ t, ns.foldlM plus (real x) = .ok t := by
  induction ns generalizing x with
  | nil => exact ⟨_, rfl⟩
  | cons n rest ih =>
    have ⟨here, later⟩ := List.forall_mem_cons.mp given
    obtain ⟨y, added⟩ := plus_real x here
    obtain ⟨t, summed⟩ := ih later y
    exact ⟨t, by rw [List.foldlM_cons, added]; exact summed⟩

/-- A sum of whole numbers goes through when it is in the range where the first number of double
precision comes. -/
theorem foldlM_whole_isOk_iff (given : ∀ n ∈ ns, n.toDouble?.isSome = true) (sum : Int) :
    (∃ t, ns.foldlM plus (whole sum) = .ok t) ↔
      ∀ (front : List Int) d back, ns = front.map whole ++ real d :: back →
        (sum + front.sum).natAbs < limit := by
  induction ns generalizing sum with
  | nil => simp [pure, Except.pure]
  | cons n rest ih =>
    have ⟨_, later⟩ := List.forall_mem_cons.mp given
    rw [List.foldlM_cons]
    cases n with
    | whole n =>
      refine (ih later (sum + n)).trans ⟨fun bounds front d back split => ?_, ?_⟩
      · cases front with
        | nil => cases split
        | cons m front =>
          obtain ⟨rfl, behind⟩ : n = m ∧ rest = front.map whole ++ real d :: back := by
            simpa using split
          have bound := bounds front d back behind
          rwa [List.sum_cons, ← Int.add_assoc]
      · intro bounds front d back split
        have bound := bounds (n :: front) d back (by rw [split]; rfl)
        rwa [List.sum_cons, ← Int.add_assoc] at bound
    | real d =>
      -- the sum so far is what has to be in range; behind it every sum is of double precision
      have first : (∀ (front : List Int) e back,
          real d :: rest = front.map whole ++ real e :: back →
            (sum + front.sum).natAbs < limit) ↔ sum.natAbs < limit := by
        constructor
        · intro bounds
          simpa using bounds [] d rest rfl
        · intro bound front e back split
          cases front with
          | nil => simpa using bound
          | cons m front => cases split
      rw [first]
      obtain ⟨below, x, added⟩ | ⟨beyond, added⟩ := plus_whole_real sum d
      · rw [added]
        exact iff_of_true (exists_foldlM_real later x) below
      · rw [added]
        exact iff_of_false (fun ⟨_, summed⟩ => nomatch summed) (not_lt.mpr beyond)

theorem total_isOk_iff (given : ∀ n ∈ ns, n.toDouble?.isSome = true) :
    (∃ t, total ns = .ok t) ↔
      ∀ (front : List Int) d back, ns = front.map whole ++ real d :: back →
        front.sum.natAbs < limit := by
  have summed := foldlM_whole_isOk_iff given 0
  simp only [Int.zero_add] at summed
  exact summed

/-! ## The summary -/

/-- What it takes for numbers to have a summary. -/
structure IsSummable (ns : List Number) : Prop where
  whole : ∀ n, whole n ∈ ns → n.natAbs < limit
  leading : ∀ (front : List Int) d back, ns = front.map Number.whole ++ real d :: back →
    front.sum.natAbs < limit
  signs : ¬(real (.infinity true) ∈ ns ∧ real (.infinity false) ∈ ns)
  steady : (partsAfter [] ns).isSome = true

theorem toDouble?_isSome_iff (ns : List Number) :
    (∀ n ∈ ns, n.toDouble?.isSome = true) ↔ ∀ n, whole n ∈ ns → n.natAbs < limit := by
  constructor
  · intro given n member
    exact (Double.ofInt?_isSome_iff n).mp (given _ member)
  · intro range n member
    cases n with
    | whole n => exact (Double.ofInt?_isSome_iff n).mpr (range n member)
    | real d => rfl

theorem ofList_eq_ok_iff {first : Number} {rest : List Number} {s : Summary} :
    Summary.ofList first rest = .ok s ↔
      ∃ t m, total (first :: rest) = .ok t ∧ mean (first :: rest) = .ok m ∧
        s = ⟨(first :: rest).length, t, m, minimum first rest, maximum first rest⟩ := by
  unfold Summary.ofList
  cases summed : total (first :: rest) <;> cases averaged : mean (first :: rest) <;>
    simp [summed, averaged, bind, Except.bind, eq_comm]

theorem ofList_isOk_iff (first : Number) (rest : List Number) :
    (∃ s, Summary.ofList first rest = .ok s) ↔ IsSummable (first :: rest) := by
  have both : (∃ s, Summary.ofList first rest = .ok s) ↔
      (∃ t, total (first :: rest) = .ok t) ∧ ∃ m, mean (first :: rest) = .ok m := by
    simp only [ofList_eq_ok_iff]
    constructor
    · rintro ⟨_, t, m, summed, averaged, _⟩
      exact ⟨⟨t, summed⟩, m, averaged⟩
    · rintro ⟨⟨t, summed⟩, m, averaged⟩
      exact ⟨_, t, m, summed, averaged, rfl⟩
  rw [both, mean_isOk_iff]
  constructor
  · rintro ⟨summed, given, steady, signs⟩
    exact ⟨(toDouble?_isSome_iff _).mp given, (total_isOk_iff given).mp summed, signs, steady⟩
  · intro isSummable
    have given := (toDouble?_isSome_iff _).mpr isSummable.whole
    exact ⟨(total_isOk_iff given).mpr isSummable.leading, given, isSummable.steady,
      isSummable.signs⟩

/-- Numbers and exact sums that are away from the limit by the slack of all numbers. -/
structure IsModerate (ns : List Number) : Prop where
  one : ∀ n ∈ ns, ∀ units, n.units? = some units →
    units.natAbs + 2 * (ns.length * unitSlack) < unitLimit
  all : ∀ s ∈ runningSums 0 ns, s.natAbs + ns.length * unitSlack < unitLimit

theorem IsModerate.steady (isModerate : IsModerate ns) : (partsAfter [] ns).isSome = true := by
  obtain ⟨parts, after⟩ := exists_partsAfter isSplit_empty (Nat.le_of_eq (Nat.zero_add _))
    isModerate.one isModerate.all
  rw [after]
  rfl

theorem IsSummable.runningSums_lt (isSummable : IsSummable ns) :
    ∀ s ∈ runningSums 0 ns, s.natAbs < unitLimit + ns.length * unitSlack := by
  obtain ⟨parts, after⟩ := Option.isSome_iff_exists.mp isSummable.steady
  exact Number.runningSums_lt isSplit_empty (Nat.le_of_eq (Nat.zero_add _)) after

end DreamJournal.Number
