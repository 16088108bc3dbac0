import DreamJournal.Number.Basic
import DreamJournal.Proofs.Number.Rounding

/-!
# Whole numbers in double precision

A quotient that is a number of the format is rounded to that number. So a number that is whole comes
back when it is written as a whole number and read again; only the sign of a zero is lost, and no
comparison sees that.
-/
namespace DreamJournal

namespace Double

variable {num den m : Nat} {e : Int} {negative sign : Bool}

/-! ## Numbers of the format -/

/-- A number of the format is not moved by rounding. -/
theorem Rounds.exact {significand : Nat} {exponent : Int} (canonical : IsCanonical m e)
    (value : (num / den : ℚ) = m * 2 ^ e) (rounds : Rounds num den significand exponent) :
    exponent = e ∧ significand = m := by
  obtain ⟨least, below, full, near, _⟩ := rounds
  obtain ⟨short, isLeast, _, long⟩ := canonical
  rw [value] at below full near
  have place : (0 : ℚ) < 2 ^ e := by positivity
  have size : (m * 2 ^ e : ℚ) < 2 ^ (e + 53) := by
    rw [zpow_add₀ two_ne_zero, mul_comm ((2 : ℚ) ^ e)]
    exact mul_lt_mul_of_pos_right (by exact_mod_cast short) place
  have upper : exponent ≤ e := by
    rcases full with low | full
    · omega
    · have := (zpow_lt_zpow_iff_right₀ one_lt_two).mp (full.trans_lt size)
      omega
  have lower : e ≤ exponent := by
    rcases long with long | low
    · have reached : (2 ^ (e + 52) : ℚ) ≤ m * 2 ^ e := by
        rw [zpow_add₀ two_ne_zero, mul_comm ((2 : ℚ) ^ e)]
        exact mul_le_mul_of_nonneg_right (by exact_mod_cast long) place.le
      have := (zpow_lt_zpow_iff_right₀ one_lt_two).mp (reached.trans_lt below)
      omega
    · omega
  obtain rfl : exponent = e := le_antisymm upper lower
  -- two whole numbers less than one apart are the same
  rw [← sub_mul, abs_mul, abs_of_pos place, two_zpow exponent] at near
  have positive : (0 : ℚ) < 2 ^ (exponent - 1) := by positivity
  have close : |(m : ℚ) - significand| < 1 := by nlinarith
  have apart : |(m : ℤ) - significand| < 1 := by exact_mod_cast close
  exact ⟨rfl, by have := Int.abs_lt_one_iff.mp apart; omega⟩

theorem ofRatio_exact (denominator : 0 < den) (canonical : IsCanonical m e)
    (value : (num / den : ℚ) = m * 2 ^ e) :
    ofRatio negative num den = .finite negative m e canonical := by
  rcases num.eq_zero_or_pos with rfl | numerator
  · have none : m = 0 := by
      have place : (2 : ℚ) ^ e ≠ 0 := by positivity
      simpa [place] using value.symm
    obtain ⟨_, _, _, long⟩ := id canonical
    have low : e = -1074 := long.resolve_left (by simp [none])
    have isZero : ofRatio negative 0 den = ofParts negative 0 (-1074) := rfl
    rw [isZero]
    exact ofParts_eq_finite_iff.mpr ⟨rfl, none.symm, low.symm⟩
  · obtain ⟨significand, exponent, rounds, rounded⟩ := exists_rounds negative numerator denominator
    obtain ⟨rfl, rfl⟩ := rounds.exact canonical value
    rw [rounded, if_pos canonical.1]
    exact ofParts_eq_finite_iff.mpr ⟨rfl, rfl, rfl⟩

/-! ## Whole numbers -/

/-- A number is whole when its size is a natural number. -/
theorem toInt?_eq_some_iff {canonical : IsCanonical m e} {n : Int} :
    (finite sign m e canonical).toInt? = some n ↔
      ∃ size : Nat, (m * 2 ^ e : ℚ) = size ∧ n = if sign then -(size : Int) else size := by
  have opened : (finite sign m e canonical).toInt? =
      if (magnitude m e).1 % (magnitude m e).2 = 0 then
        some (if sign then -(((magnitude m e).1 / (magnitude m e).2 : Nat) : Int)
          else ((magnitude m e).1 / (magnitude m e).2 : Nat))
      else none := rfl
  have value : ((magnitude m e).1 : ℚ) / (magnitude m e).2 = m * 2 ^ e := by
    have scaled := scale_div m 1 e
    rwa [Nat.cast_one, div_one] at scaled
  have positive : 0 < (magnitude m e).2 := scale_den_pos m Nat.one_pos e
  rw [opened]
  generalize magnitude m e = parts at value positive ⊢
  obtain ⟨num, den⟩ := parts
  dsimp only at value positive ⊢
  have denominator : (den : ℚ) ≠ 0 := by exact_mod_cast positive.ne'
  rw [← value, Option.ite_none_right_eq_some, Option.some.injEq]
  constructor
  · rintro ⟨divides, rfl⟩
    obtain ⟨size, rfl⟩ := Nat.dvd_of_mod_eq_zero divides
    rw [Nat.mul_div_cancel_left size positive]
    exact ⟨size, by push_cast; field_simp, rfl⟩
  · rintro ⟨size, quotient, rfl⟩
    rw [div_eq_iff denominator] at quotient
    obtain rfl : num = size * den := by exact_mod_cast quotient
    rw [Nat.mul_mod_left, Nat.mul_div_cancel size positive]
    exact ⟨rfl, rfl⟩

/-- A whole number is read back, but for the sign of zero. -/
theorem ofInt?_of_toInt? {canonical : IsCanonical m e} {n : Int}
    (isWhole : (finite sign m e canonical).toInt? = some n) :
    ofInt? n = some (.finite (n < 0) m e canonical) ∧
      (finite (n < 0) m e canonical).toInt? = some n := by
  obtain ⟨size, value, signed⟩ := toInt?_eq_some_iff.mp isWhole
  have same : n.natAbs = size := by split at signed <;> omega
  constructor
  · have exact : ofInt n = .finite (n < 0) m e canonical :=
      ofRatio_exact Nat.one_pos canonical (by rw [same, value, Nat.cast_one, div_one])
    rw [ofInt?, exact]
  · refine toInt?_eq_some_iff.mpr ⟨size, value, ?_⟩
    simp only [decide_eq_true_eq]
    split <;> omega

/-- A whole number in units of the least number. -/
theorem units_of_toInt? {canonical : IsCanonical m e} {n : Int}
    (isWhole : (finite sign m e canonical).toInt? = some n) :
    units sign m e = n * Int.pow 2 1074 := by
  obtain ⟨size, value, signed⟩ := toInt?_eq_some_iff.mp isWhole
  have places : ((Int.pow 2 1074 : Int) : ℚ) = 2 ^ (1074 : Int) := by
    have natural : (1074 : Int) = (1074 : Nat) := rfl
    rw [natural, zpow_natCast]
    -- so that no step evaluates the power
    generalize 1074 = k
    exact Int.cast_pow 2 k
  have both : (units sign m e : ℚ) = n * (Int.pow 2 1074 : Int) := by
    rw [cast_units canonical.2.1, value, places, signed]
    cases sign <;> simp
  exact_mod_cast both

end Double

namespace Number

/-- Two numbers that no comparison tells apart. -/
def Alike (a b : Number) : Prop :=
  ∀ x : Number, a.compare? x = b.compare? x ∧ x.compare? a = x.compare? b

theorem Alike.refl (n : Number) : Alike n n := fun _ => ⟨rfl, rfl⟩

theorem Alike.less_eq {a b x y : Number} (left : Alike a b) (right : Alike x y) :
    a.less x = b.less y := by
  rw [less, less, (left x).1, (right b).2]

/-- Numbers that are alike are the same, unless they are no numbers. -/
theorem Alike.same_iff {a b : Number} (alike : Alike a b) : a.same b = true ↔ b ≠ .real .nan := by
  rw [same, (alike b).1, beq_iff_eq]
  cases b with
  | whole n => simp [compare?]
  | real d =>
    cases d with
    | nan => simp [compare?, Double.compare?]
    | infinity => simp [compare?, Double.compare?]
    | finite => simp [compare?, Double.compare?]

theorem compare_scaled {unit : Int} (positive : 0 < unit) (a b : Int) :
    compare (a * unit) (b * unit) = compare a b := by
  rcases lt_trichotomy a b with below | rfl | above
  · rw [Int.compare_eq_lt.mpr below,
      Int.compare_eq_lt.mpr (Int.mul_lt_mul_of_pos_right below positive)]
  · rw [Int.compare_eq_eq.mpr rfl, Int.compare_eq_eq.mpr rfl]
  · rw [Int.compare_eq_gt.mpr above,
      Int.compare_eq_gt.mpr (Int.mul_lt_mul_of_pos_right above positive)]

/-- A whole number is like the number in double precision that it is. -/
theorem alike_whole {d : Double} {n : Int} (isWhole : d.toInt? = some n) :
    Alike (.real d) (.whole n) := by
  cases d with
  | nan => cases isWhole
  | infinity => cases isWhole
  | finite sign m e canonical =>
    have units := Double.units_of_toInt? isWhole
    have positive : 0 < Int.pow 2 1074 := Int.pow_pos two_pos
    intro x
    cases x with
    | whole k =>
      simp only [compare?, Double.compareInt?, units, compare_scaled positive, Option.map_some,
        Int.compare_swap, and_self]
    | real b =>
      cases b with
      | nan => exact ⟨rfl, rfl⟩
      | infinity negative => cases negative <;> exact ⟨rfl, rfl⟩
      | finite =>
        simp only [compare?, Double.compareInt?, Double.compare?, units, Option.map_some,
          Int.compare_swap, and_self]

/-- A whole number in double precision is like what is read when it is written as a whole number. -/
theorem alike_reread {d : Double} {n : Int} (isWhole : d.toInt? = some n) :
    ∃ e : Double, Double.ofInt? n = some e ∧ e.toInt? = some n ∧ Alike (.real e) (.real d) := by
  cases d with
  | nan => cases isWhole
  | infinity => cases isWhole
  | finite sign m e canonical =>
    obtain ⟨read, whole⟩ := Double.ofInt?_of_toInt? isWhole
    refine ⟨_, read, whole, fun x => ?_⟩
    have ⟨left, right⟩ := alike_whole whole x
    have ⟨left', right'⟩ := alike_whole isWhole x
    exact ⟨left.trans left'.symm, right.trans right'.symm⟩

end Number
end DreamJournal
