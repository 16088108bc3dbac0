import DreamJournal.Text.Basic

/-!
# Numbers of double precision

A finite number is a sign, a significand of at most 53 bits and a power of two, written in the
one way that the format admits: either the significand has all 53 bits, or the exponent is the
least one. The type carries that condition, so equal numbers of one sign have equal parts.

All arithmetic goes through `ofRatio`: a result is computed exactly, as a quotient of natural
numbers, and rounded once, to the nearest number of the format and to the even significand when
two are equally near. Whatever rounds beyond the greatest number is infinite.
-/
namespace DreamJournal

/-- The parts of a finite number, in the one way that the format admits. -/
def Double.IsCanonical (significand : Nat) (exponent : Int) : Prop :=
  significand < Nat.pow 2 53 ∧ -1074 ≤ exponent ∧ exponent ≤ 971 ∧
    (Nat.pow 2 52 ≤ significand ∨ exponent = -1074)

instance (significand : Nat) (exponent : Int) :
    Decidable (Double.IsCanonical significand exponent) := by
  unfold Double.IsCanonical; infer_instance

/-- A number of double precision. -/
inductive Double where
  | nan
  | infinity (negative : Bool)
  /-- The number `± significand * 2 ^ exponent`. -/
  | finite (negative : Bool) (significand : Nat) (exponent : Int)
      (canonical : Double.IsCanonical significand exponent)
  deriving DecidableEq, Repr

namespace Double

/-- A quotient rounded to the nearest whole number, a half to the even one. -/
def roundEven (num den : Nat) : Nat :=
  let floor := num / den
  let rest := 2 * (num % den)
  if rest < den then floor
  else if den < rest then floor + 1
  else if floor % 2 = 0 then floor else floor + 1

/-- A quotient scaled by a power of a base, as a quotient. -/
def scale (base num den : Nat) (power : Int) : Nat × Nat :=
  if 0 ≤ power then (num * Nat.pow base power.toNat, den)
  else (num, den * Nat.pow base (-power).toNat)

/-- The number with the given parts, or infinity when the format has no such number. -/
def ofParts (negative : Bool) (significand : Nat) (exponent : Int) : Double :=
  if canonical : IsCanonical significand exponent then
    .finite negative significand exponent canonical
  else .infinity negative

def zero (negative : Bool) : Double := ofParts negative 0 (-1074)

/-- The exponent at which a positive quotient has a significand of 53 bits, or the least one. -/
def exponentFor (num den : Nat) : Int :=
  let low := max ((num.log2 : Int) - den.log2 - 53) (-1074)
  let (n, d) := scale 2 num den (-low)
  if n / d < Nat.pow 2 53 then low else low + 1

/-- The number nearest to a quotient. -/
def ofRatio (negative : Bool) (num den : Nat) : Double :=
  if num = 0 then zero negative
  else
    let exponent := exponentFor num den
    let (n, d) := scale 2 num den (-exponent)
    let significand := roundEven n d
    if significand < Nat.pow 2 53 then ofParts negative significand exponent
    else ofParts negative (Nat.pow 2 52) (exponent + 1)

/-- The number nearest to a whole number; infinite when that is too large. -/
def ofInt (n : Int) : Double := ofRatio (n < 0) n.natAbs 1

/-- The number nearest to a whole number, when that is not too large. -/
def ofInt? (n : Int) : Option Double :=
  match ofInt n with
  | .finite negative significand exponent canonical =>
    some (.finite negative significand exponent canonical)
  | _ => none

/-- The number nearest to `digits * 10 ^ power`. Where the number of digits alone shows that the
result is infinite or zero, the power is not computed. -/
def ofDecimal (negative : Bool) (digits : Nat) (power : Int) : Double :=
  let size : Int := (Nat.toDigits 10 digits).length + power
  if digits = 0 then zero negative
  else if 400 < size then .infinity negative
  else if size < -400 then zero negative
  else
    let (n, d) := scale 10 digits 1 power
    ofRatio negative n d

def isNaN : Double → Bool
  | nan => true
  | _ => false

def isFinite : Double → Bool
  | finite .. => true
  | _ => false

/-- Change the sign. -/
def neg : Double → Double
  | nan => nan
  | infinity negative => infinity !negative
  | finite negative significand exponent canonical =>
    finite (!negative) significand exponent canonical

/-- The size of a finite number as a quotient. -/
def magnitude (significand : Nat) (exponent : Int) : Nat × Nat := scale 2 significand 1 exponent

/-- A signed size as a whole number of units of `2 ^ -1074`. -/
def units (negative : Bool) (significand : Nat) (exponent : Int) : Int :=
  let size : Int := significand * Int.pow 2 (exponent + 1074).toNat
  if negative then -size else size

/-- The number nearest to a count of units of `2 ^ -1074`. -/
def ofUnits (n : Int) : Double := ofRatio (n < 0) n.natAbs (Nat.pow 2 1074)

/-- The sum. Opposite infinities have none; a sum of zeros is negative only if both are. -/
def add : Double → Double → Double
  | nan, _ => nan
  | _, nan => nan
  | infinity a, infinity b => if a = b then infinity a else nan
  | infinity a, finite .. => infinity a
  | finite .., infinity b => infinity b
  | finite a m e _, finite b n f _ =>
    let sum := units a m e + units b n f
    if sum = 0 then zero (a && b && m = 0) else ofUnits sum

/-- The product. Zero times infinity is no number. -/
def mul : Double → Double → Double
  | nan, _ => nan
  | _, nan => nan
  | infinity a, infinity b => infinity (a != b)
  | infinity a, finite b n _ _ => if n = 0 then nan else infinity (a != b)
  | finite a m _ _, infinity b => if m = 0 then nan else infinity (a != b)
  | finite a m e _, finite b n f _ =>
    let (num, den) := scale 2 (m * n) 1 (e + f)
    ofRatio (a != b) num den

/-- The number divided by a positive count. -/
def divNat (d : Double) (n : Nat) : Double :=
  match d with
  | finite negative significand exponent _ =>
    let (num, den) := magnitude significand exponent
    ofRatio negative num (den * n)
  | _ => d

/-- The whole number that a number is, if it is one. -/
def toInt? : Double → Option Int
  | finite negative significand exponent _ =>
    let (num, den) := magnitude significand exponent
    if num % den = 0 then some (if negative then -(num / den : Nat) else (num / den : Nat))
    else none
  | _ => none

/-- How two numbers compare; a number that is not a number compares with none. -/
def compare? : Double → Double → Option Ordering
  | nan, _ => none
  | _, nan => none
  | infinity a, infinity b => some (compare b.toNat a.toNat)
  | infinity a, finite .. => some (if a then .lt else .gt)
  | finite .., infinity b => some (if b then .gt else .lt)
  | finite a m e _, finite b n f _ => some (compare (units a m e) (units b n f))

/-- How a number compares with a whole number, both taken exactly. -/
def compareInt? : Double → Int → Option Ordering
  | nan, _ => none
  | infinity a, _ => some (if a then .lt else .gt)
  | finite a m e _, n => some (compare (units a m e) (n * Int.pow 2 1074))

end Double
end DreamJournal
