import DreamJournal.Number.Double
import Mathlib.Algebra.Order.Field.Power
import Mathlib.Tactic.FieldSimp
import Mathlib.Tactic.Linarith
import Mathlib.Tactic.Positivity
import Mathlib.Tactic.Ring

/-!
# What rounds to a finite number

A quotient is rounded to a significand of 53 bits at the exponent where it has one. The greatest
significand at the greatest exponent is odd, so a quotient half way beyond it is rounded up: finite
are the quotients below `2 ^ 1024 - 2 ^ 970`, and they alone. A finite number is at most half of a
last place away from the quotient, and no last place is worth more than `2 ^ 971`.
-/
namespace DreamJournal.Double

variable {num den : Nat}

theorem two_zpow (e : Int) : (2 : ℚ) ^ e = 2 * 2 ^ (e - 1) := by
  rw [← zpow_one_add₀ two_ne_zero, add_sub_cancel]

/-! ## Rounding to a whole number -/

theorem roundEven_cases (num den : Nat) :
    (2 * (num % den) ≤ den ∧ roundEven num den = num / den ∧
      (2 * (num % den) = den → num / den % 2 = 0)) ∨
    (den ≤ 2 * (num % den) ∧ roundEven num den = num / den + 1 ∧
      (2 * (num % den) = den → num / den % 2 = 1)) := by
  simp only [roundEven]
  split
  · exact .inl ⟨by omega, rfl, by omega⟩
  · split
    · exact .inr ⟨by omega, rfl, by omega⟩
    · split
      · exact .inl ⟨by omega, rfl, by omega⟩
      · exact .inr ⟨by omega, rfl, by omega⟩

theorem roundEven_near (num : Nat) (positive : 0 < den) :
    2 * num ≤ 2 * (roundEven num den * den) + den ∧
      2 * (roundEven num den * den) ≤ 2 * num + den := by
  have parts := Nat.div_add_mod' num den
  have small := Nat.mod_lt num positive
  rcases roundEven_cases num den with ⟨rest, rounded, _⟩ | ⟨rest, rounded, _⟩ <;> rw [rounded]
  · omega
  · rw [Nat.add_mul, Nat.one_mul]
    omega

/-- A quotient is rounded up to an even number from half of one below on. -/
theorem le_roundEven_iff {k : Nat} (positive : 0 < den) (even : k % 2 = 0) :
    k ≤ roundEven num den ↔ 2 * (k * den) ≤ 2 * num + den := by
  constructor
  · intro reached
    have near := (roundEven_near num positive).2
    have := Nat.mul_le_mul_right den reached
    omega
  · intro close
    by_contra below
    have low : roundEven num den + 1 ≤ k := by omega
    have near := (roundEven_near num positive).1
    have step := Nat.mul_le_mul_right den low
    rw [Nat.add_mul, Nat.one_mul] at step
    -- both bounds are met, so the quotient is half way, and was rounded to an odd number
    have half : 2 * num = 2 * (roundEven num den * den) + den := by omega
    have same : roundEven num den + 1 = k := by
      apply Nat.le_antisymm low
      apply Nat.le_of_mul_le_mul_right _ positive
      rw [Nat.add_mul, Nat.one_mul]
      omega
    have parts := Nat.div_add_mod' num den
    have rest := Nat.mod_lt num positive
    rcases roundEven_cases num den with ⟨_, rounded, tie⟩ | ⟨_, rounded, tie⟩
    · rw [rounded] at half
      have := tie (by omega)
      omega
    · rw [rounded, Nat.add_mul, Nat.one_mul] at half
      omega

theorem abs_sub_roundEven_le (num : Nat) (positive : 0 < den) :
    |(num / den : ℚ) - roundEven num den| ≤ 1 / 2 := by
  obtain ⟨low, high⟩ := roundEven_near num positive
  have one : (0 : ℚ) < den := by exact_mod_cast positive
  have low : (2 * num : ℚ) ≤ 2 * (roundEven num den * den) + den := by exact_mod_cast low
  have high : (2 * (roundEven num den * den) : ℚ) ≤ 2 * num + den := by exact_mod_cast high
  rw [div_sub' one.ne', abs_div, abs_of_pos one, div_le_iff₀ one, abs_le]
  constructor <;> linarith

theorem le_roundEven_iff_le_div {k : Nat} (positive : 0 < den) (even : k % 2 = 0) :
    k ≤ roundEven num den ↔ (k - 1 / 2 : ℚ) ≤ num / den := by
  have one : (0 : ℚ) < den := by exact_mod_cast positive
  calc k ≤ roundEven num den ↔ 2 * (k * den) ≤ 2 * num + den := le_roundEven_iff positive even
    _ ↔ (2 * (k * den) : ℚ) ≤ 2 * num + den := by norm_cast
    _ ↔ (k - 1 / 2 : ℚ) ≤ num / den := by
      rw [le_div_iff₀ one]
      constructor <;> intro bound <;> linarith

/-! ## The place of a quotient -/

theorem scale_den_pos (num : Nat) (positive : 0 < den) (power : Int) :
    0 < (scale 2 num den power).2 := by
  unfold scale
  split
  · exact positive
  · exact Nat.mul_pos positive (Nat.pow_pos (by decide))

theorem scale_div (num den : Nat) (power : Int) :
    ((scale 2 num den power).1 : ℚ) / (scale 2 num den power).2 = num / den * 2 ^ power := by
  unfold scale
  split
  · rename_i nonneg
    lift power to Nat using nonneg
    simp only [Int.toNat_natCast, Nat.pow_eq, Nat.cast_mul, Nat.cast_pow, Nat.cast_ofNat,
      zpow_natCast]
    ring
  · rename_i negative
    obtain ⟨n, rfl⟩ : ∃ n : Nat, power = -n := ⟨(-power).toNat, by omega⟩
    simp only [neg_neg, Int.toNat_natCast, Nat.pow_eq, Nat.cast_mul, Nat.cast_pow, Nat.cast_ofNat,
      zpow_neg, zpow_natCast]
    rw [div_mul_eq_div_div, div_eq_mul_inv (_ / _)]

/-- A scaled quotient is compared with a whole number by comparing the quotient with a multiple of a
power of two. -/
theorem scale_lt_iff (num : Nat) (positive : 0 < den) (exponent : Int) (k : Nat) :
    (scale 2 num den (-exponent)).1 < k * (scale 2 num den (-exponent)).2 ↔
      (num / den : ℚ) < k * 2 ^ exponent := by
  have scaled := scale_div num den (-exponent)
  have denominator : (0 : ℚ) < (scale 2 num den (-exponent)).2 := by
    exact_mod_cast scale_den_pos num positive (-exponent)
  rw [zpow_neg, ← div_eq_mul_inv] at scaled
  rw [← div_lt_iff₀ (by positivity), ← scaled, div_lt_iff₀ denominator]
  norm_cast

theorem log2_bounds (numerator : 0 < num) (denominator : 0 < den) :
    (2 : ℚ) ^ ((num.log2 : Int) - den.log2 - 1) < num / den ∧
      (num / den : ℚ) < 2 ^ ((num.log2 : Int) - den.log2 + 1) := by
  have bounds : ∀ {n : Nat}, 0 < n →
      (2 : ℚ) ^ (n.log2 : Int) ≤ n ∧ (n : ℚ) < 2 ^ (n.log2 + 1 : Int) := by
    intro n positive
    have low := Nat.log2_self_le positive.ne'
    have high := Nat.lt_log2_self (n := n)
    constructor
    · exact_mod_cast low
    · exact_mod_cast high
  obtain ⟨numLow, numHigh⟩ := bounds numerator
  obtain ⟨denLow, denHigh⟩ := bounds denominator
  have positive : (0 : ℚ) < den := by exact_mod_cast denominator
  constructor
  · rw [lt_div_iff₀ positive]
    calc (2 : ℚ) ^ ((num.log2 : Int) - den.log2 - 1) * den
        < 2 ^ ((num.log2 : Int) - den.log2 - 1) * 2 ^ (den.log2 + 1 : Int) := by gcongr
      _ = 2 ^ (num.log2 : Int) := by rw [← zpow_add₀ (by norm_num)]; ring_nf
      _ ≤ num := numLow
  · rw [div_lt_iff₀ positive]
    calc (num : ℚ) < 2 ^ (num.log2 + 1 : Int) := numHigh
      _ = 2 ^ ((num.log2 : Int) - den.log2 + 1) * 2 ^ (den.log2 : Int) := by
        rw [← zpow_add₀ (by norm_num)]; ring_nf
      _ ≤ 2 ^ ((num.log2 : Int) - den.log2 + 1) * den := by gcongr

/-- A quotient has 53 bits at the exponent for it, or that is the least exponent. -/
theorem exponentFor_spec (numerator : 0 < num) (denominator : 0 < den) :
    -1074 ≤ exponentFor num den ∧ (num / den : ℚ) < 2 ^ (exponentFor num den + 53) ∧
      (exponentFor num den = -1074 ∨ 2 ^ (exponentFor num den + 52) ≤ (num / den : ℚ)) := by
  obtain ⟨above, below⟩ := log2_bounds numerator denominator
  unfold exponentFor
  -- the first guess is right, or one too low where the quotient is in the upper half of its bounds
  generalize isLow : max ((num.log2 : Int) - den.log2 - 53) (-1074) = low
  have fits : (scale 2 num den (-low)).1 / (scale 2 num den (-low)).2 < Nat.pow 2 53 ↔
      (num / den : ℚ) < 2 ^ (low + 53) := by
    rw [Nat.div_lt_iff_lt_mul (scale_den_pos num denominator (-low)),
      scale_lt_iff num denominator, zpow_add₀ (by norm_num)]
    norm_num [mul_comm]
  have least : -1074 ≤ low := by omega
  simp only
  split
  · rename_i whole
    refine ⟨least, fits.mp whole, ?_⟩
    by_cases isLeast : low = -1074
    · exact .inl isLeast
    · right
      have : low + 52 = (num.log2 : Int) - den.log2 - 1 := by omega
      rw [this]
      exact above.le
  · rename_i whole
    refine ⟨by omega, ?_, .inr ?_⟩
    · apply below.trans_le
      exact zpow_le_zpow_right₀ (by norm_num) (by omega)
    · have : low + 1 + 52 = low + 53 := by ring
      rw [this]
      exact not_lt.mp (mt fits.mpr whole)

/-! ## Rounding to the format -/

/-- Half of the last place of the greatest number: what rounding changes at most. -/
@[irreducible]
def slack : Nat := Nat.pow 2 970

/-- Half way from the greatest number to where the next one would be: `2 ^ 1024 - 2 ^ 970`. -/
def limit : Nat := (2 ^ 54 - 1) * slack

theorem pow_pos_two (n : Nat) : 0 < Nat.pow 2 n := Nat.two_pow_pos n

theorem cast_pow_two (n : Nat) : ((Nat.pow 2 n : Nat) : ℚ) = 2 ^ (n : Int) := by
  rw [Nat.pow_eq, Nat.cast_pow, zpow_natCast, Nat.cast_ofNat]

theorem slack_pos : 0 < slack := by
  unfold slack
  -- so that no step evaluates the power
  generalize 970 = n
  exact pow_pos_two n

theorem cast_slack : (slack : ℚ) = 2 ^ (970 : Int) := by
  unfold slack
  have places : (970 : Int) = (970 : Nat) := rfl
  rw [places]
  generalize 970 = n
  exact cast_pow_two n

theorem limit_pos : 0 < limit := Nat.mul_pos (by decide) slack_pos

theorem cast_limit : (limit : ℚ) = (2 ^ 54 - 1) * 2 ^ (970 : Int) := by
  rw [limit, Nat.cast_mul, Nat.cast_sub Nat.one_le_two_pow, Nat.cast_pow, cast_slack,
    Nat.cast_ofNat, Nat.cast_one]

/-- A significand at an exponent is what a quotient is rounded to. -/
structure Rounds (num den significand : Nat) (exponent : Int) : Prop where
  least : -1074 ≤ exponent
  below : (num / den : ℚ) < 2 ^ (exponent + 53)
  full : exponent = -1074 ∨ 2 ^ (exponent + 52) ≤ (num / den : ℚ)
  near : |(num / den : ℚ) - significand * 2 ^ exponent| ≤ 2 ^ (exponent - 1)
  carried : 2 ^ 53 ≤ significand ↔ (2 ^ 54 - 1) * 2 ^ (exponent - 1) ≤ (num / den : ℚ)

theorem exists_rounds (negative : Bool) (numerator : 0 < num) (denominator : 0 < den) :
    ∃ significand exponent, Rounds num den significand exponent ∧
      ofRatio negative num den =
        if significand < Nat.pow 2 53 then ofParts negative significand exponent
        else ofParts negative (Nat.pow 2 52) (exponent + 1) := by
  obtain ⟨least, below, full⟩ := exponentFor_spec numerator denominator
  generalize place : exponentFor num den = exponent at least below full
  -- rounding is done in units of the last place
  have scaled := scale_div num den (-exponent)
  have positive := scale_den_pos num denominator (-exponent)
  rw [zpow_neg, ← div_eq_mul_inv, eq_div_iff (by positivity)] at scaled
  have half := two_zpow exponent
  have place_pos : (0 : ℚ) < 2 ^ exponent := by positivity
  refine ⟨roundEven (scale 2 num den (-exponent)).1 (scale 2 num den (-exponent)).2, exponent,
    ⟨least, below, full, ?_, ?_⟩, ?_⟩
  · have near := abs_sub_roundEven_le (scale 2 num den (-exponent)).1 positive
    rw [← scaled, ← sub_mul, abs_mul, abs_of_pos place_pos]
    apply (mul_le_mul_of_nonneg_right near place_pos.le).trans_eq
    rw [half]
    ring
  · rw [le_roundEven_iff_le_div positive (by decide), ← scaled, ← mul_le_mul_iff_left₀ place_pos]
    have last : (((2 ^ 53 : Nat) : ℚ) - 1 / 2) * 2 ^ exponent =
        (2 ^ 54 - 1) * 2 ^ (exponent - 1) := by
      rw [half]
      push_cast
      ring
    rw [last]
  · rw [ofRatio, if_neg numerator.ne', place]

namespace Rounds

variable {significand : Nat} {exponent : Int}

/-- The bounds in units of half of the last place. -/
theorem halves (rounds : Rounds num den significand exponent) :
    ∃ half : ℚ, 0 < half ∧ (num / den : ℚ) < 2 ^ 54 * half ∧
      (exponent = -1074 ∨ 2 ^ 53 * half ≤ (num / den : ℚ)) ∧
      |(num / den : ℚ) - 2 * significand * half| ≤ half := by
  have ⟨_, below, full, near, _⟩ := rounds
  rw [zpow_add₀ two_ne_zero, two_zpow exponent] at below full
  rw [two_zpow exponent] at near
  refine ⟨2 ^ (exponent - 1), by positivity, ?_, full.imp_right fun bound => ?_, ?_⟩
  · linarith
  · linarith
  · rwa [← mul_assoc, mul_comm (significand : ℚ)] at near

theorem significand_le (rounds : Rounds num den significand exponent) : significand ≤ 2 ^ 53 := by
  obtain ⟨half, positive, below, _, near⟩ := rounds.halves
  have close := (abs_le.mp near).1
  have bound : (significand * half : ℚ) < (2 ^ 53 + 1) * half := by linarith
  have bound := lt_of_mul_lt_mul_right bound positive.le
  exact Nat.lt_succ_iff.mp (by exact_mod_cast bound)

theorem significand_full (rounds : Rounds num den significand exponent) :
    2 ^ 52 ≤ significand ∨ exponent = -1074 := by
  obtain ⟨half, positive, _, isLeast | full, near⟩ := rounds.halves
  · exact .inr isLeast
  · left
    have close := (abs_le.mp near).2
    have bound : (2 ^ 52 * half : ℚ) < (significand + 1) * half := by linarith
    have bound := lt_of_mul_lt_mul_right bound positive.le
    exact Nat.lt_succ_iff.mp (by exact_mod_cast bound)

theorem exponent_le (rounds : Rounds num den significand exponent)
    (below : (num / den : ℚ) < (2 ^ 54 - 1) * 2 ^ (970 : Int)) : exponent ≤ 971 := by
  by_contra beyond
  rcases rounds.full with isLeast | full
  · omega
  · -- at the next exponent a significand of full length is beyond the limit
    have next : (2 : ℚ) ^ (54 + 970 : Int) ≤ 2 ^ (exponent + 52) :=
      zpow_le_zpow_right₀ one_le_two (by omega)
    rw [zpow_add₀ two_ne_zero] at next
    have positive : (0 : ℚ) < 2 ^ (970 : Int) := by positivity
    generalize (2 : ℚ) ^ (970 : Int) = place at *
    norm_num at *
    linarith

/-- A significand that is short enough is in the format exactly below the limit. -/
theorem isCanonical_iff (rounds : Rounds num den significand exponent)
    (whole : significand < 2 ^ 53) : IsCanonical significand exponent ↔
      (num / den : ℚ) < (2 ^ 54 - 1) * 2 ^ (970 : Int) := by
  constructor
  · rintro ⟨_, _, _, _⟩
    have below := not_le.mp (mt rounds.carried.mpr (not_le.mpr whole))
    apply below.trans_le
    exact mul_le_mul_of_nonneg_left (zpow_le_zpow_right₀ one_le_two (by omega)) (by norm_num)
  · intro below
    exact ⟨whole, rounds.least, rounds.exponent_le below, rounds.significand_full⟩

/-- One that is a bit too long goes on at the next exponent, which is in the format exactly below
the limit. -/
theorem isCanonical_carried_iff (rounds : Rounds num den significand exponent)
    (carried : 2 ^ 53 ≤ significand) : IsCanonical (Nat.pow 2 52) (exponent + 1) ↔
      (num / den : ℚ) < (2 ^ 54 - 1) * 2 ^ (970 : Int) := by
  have reached := rounds.carried.mp carried
  constructor
  · rintro ⟨_, _, _, _⟩
    have next : (2 : ℚ) ^ (exponent + 53) ≤ 2 ^ (53 + 970 : Int) :=
      zpow_le_zpow_right₀ one_le_two (by omega)
    apply (rounds.below.trans_le next).trans_le
    rw [zpow_add₀ two_ne_zero]
    exact mul_le_mul_of_nonneg_right (by norm_num) (by positivity)
  · intro below
    -- the quotient is between two multiples of one number, so the powers are in order
    have smaller := lt_of_mul_lt_mul_left (reached.trans_lt below) (by norm_num)
    have smaller := (zpow_lt_zpow_iff_right₀ one_lt_two).mp smaller
    have least := rounds.least
    exact ⟨by decide, by omega, by omega, .inl (Nat.le_refl _)⟩

end Rounds

theorem ofParts_eq_finite_iff {negative sign : Bool} {significand m : Nat} {exponent e : Int}
    {canonical : IsCanonical m e} :
    ofParts negative significand exponent = .finite sign m e canonical ↔
      negative = sign ∧ significand = m ∧ exponent = e := by
  unfold ofParts
  split
  · simp
  · rename_i other
    simp only [reduceCtorEq, false_iff]
    rintro ⟨rfl, rfl, rfl⟩
    exact other canonical

theorem ofParts_isFinite_iff (negative : Bool) (significand : Nat) (exponent : Int) :
    (ofParts negative significand exponent).isFinite = true ↔ IsCanonical significand exponent := by
  unfold ofParts
  split <;> simp_all [isFinite]

/-- A quotient rounds to a finite number exactly when it is below the limit. -/
theorem ofRatio_isFinite_iff (negative : Bool) (num : Nat) (denominator : 0 < den) :
    (ofRatio negative num den).isFinite = true ↔ num < limit * den := by
  rcases num.eq_zero_or_pos with rfl | numerator
  · have isZero : ofRatio negative 0 den = ofParts negative 0 (-1074) := rfl
    rw [isZero, ofParts_isFinite_iff]
    exact iff_of_true (by decide) (Nat.mul_pos limit_pos denominator)
  · obtain ⟨significand, exponent, rounds, rounded⟩ := exists_rounds negative numerator denominator
    have positive : (0 : ℚ) < den := by exact_mod_cast denominator
    have limited : num < limit * den ↔ (num / den : ℚ) < (2 ^ 54 - 1) * 2 ^ (970 : Int) := by
      rw [div_lt_iff₀ positive, ← cast_limit]
      norm_cast
    rw [rounded, limited]
    split
    · rename_i whole
      rw [ofParts_isFinite_iff, rounds.isCanonical_iff whole]
    · rename_i carried
      rw [ofParts_isFinite_iff, rounds.isCanonical_carried_iff (not_lt.mp carried)]

/-- A finite number is close to the quotient that it is rounded from, and has its sign. -/
theorem ofRatio_near {negative sign : Bool} {significand : Nat} {exponent : Int}
    {canonical : IsCanonical significand exponent} (denominator : 0 < den)
    (rounded : ofRatio negative num den = .finite sign significand exponent canonical) :
    negative = sign ∧ |(num / den : ℚ) - significand * 2 ^ exponent| ≤ 2 ^ (970 : Int) := by
  rcases num.eq_zero_or_pos with rfl | numerator
  · have isZero : ofParts negative 0 (-1074) = .finite sign significand exponent canonical :=
      rounded
    obtain ⟨same, rfl, rfl⟩ := ofParts_eq_finite_iff.mp isZero
    exact ⟨same, by simp⟩
  · obtain ⟨s, e, rounds, here⟩ := exists_rounds negative numerator denominator
    rw [here] at rounded
    have admitted := canonical.2.2.1
    split at rounded
    · obtain ⟨same, rfl, rfl⟩ := ofParts_eq_finite_iff.mp rounded
      exact ⟨same, rounds.near.trans (zpow_le_zpow_right₀ one_le_two (by omega))⟩
    · rename_i carried
      obtain ⟨same, rfl, rfl⟩ := ofParts_eq_finite_iff.mp rounded
      -- what is carried over is one more than the longest significand, and so keeps its value
      obtain rfl : s = 2 ^ 53 := Nat.le_antisymm rounds.significand_le (not_lt.mp carried)
      refine ⟨same, ?_⟩
      have value : ((Nat.pow 2 52 : Nat) * 2 ^ (e + 1) : ℚ) = (2 ^ 53 : Nat) * 2 ^ e := by
        rw [zpow_add_one₀ two_ne_zero, Nat.pow_eq, Nat.cast_pow, Nat.cast_pow]
        ring
      rw [value]
      exact rounds.near.trans (zpow_le_zpow_right₀ one_le_two (by omega))

/-! ## In units of the least number -/

/-- How many units of `2 ^ -1074` one has. -/
@[irreducible]
def unitsPerOne : Nat := Nat.pow 2 1074

theorem unitsPerOne_pos : 0 < unitsPerOne := by
  unfold unitsPerOne
  generalize 1074 = n
  exact pow_pos_two n

theorem cast_unitsPerOne : (unitsPerOne : ℚ) = 2 ^ (1074 : Int) := by
  unfold unitsPerOne
  have places : (1074 : Int) = (1074 : Nat) := rfl
  rw [places]
  generalize 1074 = n
  exact cast_pow_two n

theorem ofUnits_eq (n : Int) : ofUnits n = ofRatio (n < 0) n.natAbs unitsPerOne := by
  unfold ofUnits unitsPerOne
  generalize 1074 = n
  rfl

/-- The size of the limit in units. -/
def unitLimit : Nat := limit * unitsPerOne

/-- What rounding changes at most, in units. -/
def unitSlack : Nat := slack * unitsPerOne

theorem ofInt?_isSome_iff (n : Int) : (ofInt? n).isSome = true ↔ n.natAbs < limit := by
  have finite := ofRatio_isFinite_iff (decide (n < 0)) n.natAbs Nat.one_pos
  rw [Nat.mul_one] at finite
  rw [← finite, ofInt?, ofInt]
  split <;> simp_all [isFinite]

theorem ofUnits_isFinite_iff (n : Int) : (ofUnits n).isFinite = true ↔ n.natAbs < unitLimit := by
  rw [ofUnits_eq]
  exact ofRatio_isFinite_iff _ _ unitsPerOne_pos

variable {negative : Bool} {significand : Nat} {exponent : Int}

theorem cast_units (least : -1074 ≤ exponent) :
    (units negative significand exponent : ℚ) =
      (if negative then -1 else 1) * (significand * 2 ^ exponent) * 2 ^ (1074 : Int) := by
  obtain ⟨place, rfl⟩ : ∃ place : Nat, exponent = place - 1074 :=
    ⟨(exponent + 1074).toNat, by omega⟩
  have size : (units negative significand (place - 1074) : Int) =
      (if negative then -1 else 1) * (significand * 2 ^ place) := by
    simp only [units, sub_add_cancel, Int.toNat_natCast]
    split
    · rw [neg_one_mul]
      rfl
    · rw [one_mul]
      rfl
  have value : (2 : ℚ) ^ (place - 1074 : Int) * 2 ^ (1074 : Int) = 2 ^ place := by
    rw [← zpow_add₀ two_ne_zero, sub_add_cancel, zpow_natCast]
  rw [size, mul_assoc, mul_assoc, value]
  push_cast
  rfl

/-- A number in units is rounded by at most half of the greatest last place. -/
theorem ofUnits_near {n : Int} {canonical : IsCanonical significand exponent}
    (rounded : ofUnits n = .finite negative significand exponent canonical) :
    (n - units negative significand exponent).natAbs ≤ unitSlack := by
  rw [ofUnits_eq] at rounded
  obtain ⟨sign, near⟩ := ofRatio_near unitsPerOne_pos rounded
  rw [cast_unitsPerOne] at near
  have unit : (0 : ℚ) < 2 ^ (1074 : Int) := by positivity
  have own : (n : ℚ) = (if negative then -1 else 1) * n.natAbs := by
    rw [← sign]
    rcases lt_or_ge n 0 with below | nonneg
    · simp [below, abs_of_neg]
    · simp [not_lt.mpr nonneg, abs_of_nonneg, nonneg]
  have value : (n : ℚ) - units negative significand exponent =
      (if negative then -1 else 1) *
        (n.natAbs / 2 ^ (1074 : Int) - significand * 2 ^ exponent) * 2 ^ (1074 : Int) := by
    rw [own, cast_units canonical.2.1]
    field_simp
  have bound : ((n - units negative significand exponent).natAbs : ℚ) ≤ unitSlack := by
    rw [Nat.cast_natAbs, Int.cast_abs, Int.cast_sub, value, unitSlack, Nat.cast_mul, cast_slack,
      cast_unitsPerOne, abs_mul, abs_mul, abs_of_pos unit]
    cases negative <;> simpa using mul_le_mul_of_nonneg_right near unit.le
  exact_mod_cast bound

/-- Every number of the format is below the limit. -/
theorem natAbs_units_lt (canonical : IsCanonical significand exponent) :
    (units negative significand exponent).natAbs < unitLimit := by
  have small : (significand : ℚ) + 1 ≤ 2 ^ 53 := by exact_mod_cast canonical.1
  have place : (2 : ℚ) ^ exponent ≤ 2 ^ (1 + 970 : Int) :=
    zpow_le_zpow_right₀ one_le_two canonical.2.2.1
  rw [zpow_one_add₀ two_ne_zero] at place
  have size : ((units negative significand exponent).natAbs : ℚ) =
      significand * 2 ^ exponent * 2 ^ (1074 : Int) := by
    rw [Nat.cast_natAbs, Int.cast_abs, cast_units canonical.2.1, abs_mul, abs_mul, abs_mul,
      abs_of_pos (show (0 : ℚ) < 2 ^ (1074 : Int) by positivity),
      abs_of_pos (show (0 : ℚ) < 2 ^ exponent by positivity), Nat.abs_cast]
    cases negative <;> simp
  have bound : ((units negative significand exponent).natAbs : ℚ) < unitLimit := by
    rw [size, unitLimit, Nat.cast_mul, cast_limit, cast_unitsPerOne]
    apply mul_lt_mul_of_pos_right _ (by positivity)
    have positive : (0 : ℚ) < 2 ^ (970 : Int) := by positivity
    generalize (2 : ℚ) ^ (970 : Int) = last at *
    calc (significand * 2 ^ exponent : ℚ)
        ≤ (2 ^ 53 - 1) * (2 * last) := by
          apply mul_le_mul (by linarith) place (by positivity) (by norm_num)
      _ < (2 ^ 54 - 1) * last := by linarith
  exact_mod_cast bound

end DreamJournal.Double
