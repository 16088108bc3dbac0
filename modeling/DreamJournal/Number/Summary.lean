import DreamJournal.Number.Basic

/-!
# Summaries of numbers

Count, total, mean, least and greatest of a list of numbers. The total of whole numbers is
exact; from the first number of double precision on it is added up from left to right, rounding
at each step. The mean is taken of the exact sum of all numbers in double precision, rounded
once, and divided by the count. Of several equal least or greatest numbers the first stands for
all, and a number that compares with none never takes another's place.

A list has no summary when a whole number in it is too large for double precision, when a
rounded sum exceeds the greatest number, or when it holds both infinities.
-/
namespace DreamJournal

/-- Why a list of numbers has no summary. -/
inductive SummaryError where
  /-- A whole number is too large for double precision. -/
  | tooLarge
  /-- A running sum exceeds the greatest number of double precision. -/
  | sumOverflow
  /-- The sum of opposite infinities. -/
  | oppositeInfinities
  deriving DecidableEq, Repr

def SummaryError.message : SummaryError → Text
  | tooLarge => Text.of "int too large to convert to float"
  | sumOverflow => Text.of "intermediate overflow in fsum"
  | oppositeInfinities => Text.of "-inf + inf in fsum"

namespace Number

/-- Add a number to a sum. -/
def plus (sum n : Number) : Except SummaryError Number :=
  match sum.add? n with
  | some sum => .ok sum
  | none => .error .tooLarge

/-- The sum from left to right, beginning with zero. -/
def total (ns : List Number) : Except SummaryError Number := ns.foldlM plus (whole 0)

/-- The state of an exact sum. -/
structure ExactSum where
  /-- Numbers that add up to the finite ones, in units of `2 ^ -1074`: a rounded sum last, and in
  front of it what rounding has left over. -/
  parts : List Int
  /-- The sum of all others. -/
  special : Option Double

/-- Add a number to each of some parts in turn, rounding. What a rounded sum leaves over stays, and
the sum goes on to the next part. It may never round beyond the greatest number. -/
def addToParts (n : Int) : List Int → Option (List Int)
  | [] => some (if n = 0 then [] else [n])
  | part :: rest =>
    match Double.ofUnits (n + part) with
    | .finite negative significand exponent _ =>
      let rounded := Double.units negative significand exponent
      let left := n + part - rounded
      (addToParts rounded rest).map fun parts => if left = 0 then parts else left :: parts
    | _ => none

/-- Add one number. One that is not finite puts an end to the sum of those before it. -/
def ExactSum.add (sum : ExactSum) (n : Number) : Except SummaryError ExactSum :=
  match n.toDouble? with
  | none => .error .tooLarge
  | some (.finite negative significand exponent _) =>
    match addToParts (Double.units negative significand exponent) sum.parts with
    | some parts => .ok { sum with parts }
    | none => .error .sumOverflow
  | some d => .ok { parts := [], special := some ((sum.special.map fun s => s.add d).getD d) }

/-- The exact sum, rounded once. -/
def exactTotal (ns : List Number) : Except SummaryError Double := do
  let sum ← ns.foldlM ExactSum.add ⟨[], none⟩
  match sum.special with
  | none => .ok (Double.ofUnits (sum.parts.foldl (· + ·) 0))
  | some special =>
    if ns.contains (.real (.infinity true)) && ns.contains (.real (.infinity false)) then
      .error .oppositeInfinities
    else .ok special

/-- The mean of a list of numbers. -/
def mean (ns : List Number) : Except SummaryError Double := do
  let sum ← exactTotal ns
  .ok (sum.divNat ns.length)

/-- The first of the least numbers behind `least`. -/
def minimum (least : Number) (ns : List Number) : Number :=
  ns.foldl (fun least n => if n.less least then n else least) least

/-- The first of the greatest numbers behind `greatest`. -/
def maximum (greatest : Number) (ns : List Number) : Number :=
  ns.foldl (fun greatest n => if greatest.less n then n else greatest) greatest

end Number

/-- What a report says of a list of numbers. -/
structure Summary where
  count : Nat
  total : Number
  mean : Double
  minimum : Number
  maximum : Number
  deriving DecidableEq, Repr

/-- The summary of a list with a first number. -/
def Summary.ofList (first : Number) (rest : List Number) : Except SummaryError Summary := do
  let ns := first :: rest
  let total ← Number.total ns
  let mean ← Number.mean ns
  .ok ⟨ns.length, total, mean, Number.minimum first rest, Number.maximum first rest⟩

end DreamJournal
