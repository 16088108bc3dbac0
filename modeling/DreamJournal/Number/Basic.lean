import DreamJournal.Number.Decimal

/-!
# Numbers of notes and settings

A number is a whole number of any size, or a number of double precision. The two kinds compare
by their exact values, and a whole number keeps its kind through every operation that does not
mix it with the other kind.
-/
namespace DreamJournal

inductive Number where
  | whole (value : Int)
  | real (value : Double)
  deriving DecidableEq, Repr

namespace Number

/-- The text of a number. -/
def toText : Number → Text
  | whole n => Text.ofInt n
  | real d => d.toText

/-- How two numbers compare by value. -/
def compare? : Number → Number → Option Ordering
  | whole a, whole b => some (compare a b)
  | whole a, real b => (b.compareInt? a).map Ordering.swap
  | real a, whole b => a.compareInt? b
  | real a, real b => a.compare? b

def less (a b : Number) : Bool := a.compare? b == some .lt

/-- Equality by value. -/
def same (a b : Number) : Bool := a.compare? b == some .eq

/-- The number in double precision; none when a whole number is too large for that. -/
def toDouble? : Number → Option Double
  | whole n => Double.ofInt? n
  | real d => some d

/-- The sum; none when a whole number is too large for the double precision of the other. -/
def add? (a b : Number) : Option Number :=
  match a, b with
  | whole a, whole b => some (whole (a + b))
  | a, b => do
    let x ← a.toDouble?
    let y ← b.toDouble?
    some (real (x.add y))

end Number

/-- The most digits of a whole number that are read or written. -/
def digitLimit : Nat := 4300

/-- A whole number in a text had more digits than are read. -/
structure TooManyDigits where
  digits : Nat
  deriving DecidableEq, Repr

def TooManyDigits.message (e : TooManyDigits) : Text :=
  Text.of "Exceeds the limit (4300 digits) for integer string conversion: value has " ++
    Text.ofNat e.digits ++ Text.of " digits; use sys.set_int_max_str_digits() to increase the limit"

/-- What is said of a whole number with more digits than are written. -/
def tooLongToWrite : Text :=
  Text.of ("Exceeds the limit (4300 digits) for integer string conversion; " ++
    "use sys.set_int_max_str_digits() to increase the limit")

end DreamJournal
