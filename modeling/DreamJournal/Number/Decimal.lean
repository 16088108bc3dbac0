import DreamJournal.Number.Double
import DreamJournal.Text.Classes
import DreamJournal.Text.Case

/-!
# Decimal texts of numbers

A number is written with the fewest digits that read back as the same number, and of those with
the digits nearest to it. The number's two neighbours on each decimal grid are tried, from one
digit up to seventeen, which always suffice; if a grid has any point that reads back, one of
those two does.

Two more forms serve reports: a fixed number of places, and a fixed number of significant digits
with trailing zeros dropped. Reading accepts a sign, digits of any script with single underscores
between them, a point and an exponent, and the names of the numbers that are not finite.
-/
namespace DreamJournal.Double

/-- Where the decimal point of a positive quotient stands: the quotient lies between the powers
of ten with this exponent less one and with this exponent. -/
def pointPlace (num den : Nat) : Int :=
  let low : Int := (Nat.toDigits 10 num).length - (Nat.toDigits 10 den).length
  let (n, d) := scale 10 num den (-low)
  if d ≤ n then low + 1 else low

/-- Digits of a whole number, and the place of the point behind the first `place` of them. -/
structure Digits where
  digits : Text
  place : Int

/-- A whole number of `n` digits, or the power of ten that follows the greatest of them. -/
def Digits.ofNat (n : Nat) (value : Nat) (place : Int) : Digits :=
  let digits := Nat.toDigits 10 value
  ⟨digits, if n < digits.length then place + 1 else place⟩

/-- Without the zeros at the end, at least one digit. -/
def Digits.trimmed (d : Digits) : Digits :=
  match Text.trimEnd (· == '0') d.digits with
  | [] => { d with digits := ['0'] }
  | digits => { d with digits }

/-- The nearest of the two decimal neighbours with `n` digits that read back as the number; of two
that are equally near, the even one. -/
def readsBack? (num den : Nat) (self : Double) (place : Int) (n : Nat) : Option Nat :=
  let (a, b) := scale 10 num den (n - place)
  let floor := a / b
  let fits (value : Nat) : Bool := ofDecimal false value (place - n) == self
  match fits floor, fits (floor + 1) with
  | true, true => some (roundEven a b)
  | true, false => some floor
  | false, true => some (floor + 1)
  | false, false => none

/-- The first grid, of at least `n` digits, with a point that reads back. -/
def shortestFrom (num den : Nat) (self : Double) (place : Int) : (fuel n : Nat) → Digits
  | 0, n =>
    let (a, b) := scale 10 num den (n - place)
    Digits.ofNat n (roundEven a b) place
  | fuel + 1, n =>
    match readsBack? num den self place n with
    | some value => Digits.ofNat n value place
    | none => shortestFrom num den self place fuel (n + 1)

/-- The shortest digits that read back as a positive number. -/
def shortest (significand : Nat) (exponent : Int) : Digits :=
  let (num, den) := magnitude significand exponent
  (shortestFrom num den (ofRatio false num den) (pointPlace num den) 17 1).trimmed

/-- Digits with the point among them or zeros to fill up to it. -/
def positional (d : Digits) : Text × Text :=
  if d.place ≤ 0 then (['0'], List.replicate (-d.place).toNat '0' ++ d.digits)
  else
    let whole := d.place.toNat
    if d.digits.length ≤ whole then
      (d.digits ++ List.replicate (whole - d.digits.length) '0', [])
    else (d.digits.take whole, d.digits.drop whole)

/-- Digits with an exponent of at least two digits. -/
def exponential (d : Digits) : Text :=
  let power := d.place - 1
  let lead := match d.digits with
    | [] => []
    | [c] => [c]
    | c :: rest => c :: '.' :: rest
  lead ++ ['e', if power < 0 then '-' else '+'] ++ Text.padded 2 power.natAbs

def signed (negative : Bool) (t : Text) : Text := if negative then '-' :: t else t

/-- The text of a number: positional while the point stands among the first sixteen places and
at most three zeros behind it, with at least one digit behind the point. -/
def toText : Double → Text
  | nan => Text.of "nan"
  | infinity negative => signed negative (Text.of "inf")
  | finite negative significand exponent _ =>
    if significand = 0 then signed negative (Text.of "0.0")
    else
      let d := shortest significand exponent
      signed negative <|
        if -4 < d.place && d.place ≤ 16 then
          let (whole, part) := positional d
          whole ++ '.' :: (if part.isEmpty then ['0'] else part)
        else exponential d

/-- The number with a fixed count of decimal places. -/
def toFixed (places : Nat) : Double → Text
  | nan => Text.of "nan"
  | infinity negative => signed negative (Text.of "inf")
  | finite negative significand exponent _ =>
    let (num, den) := magnitude significand exponent
    let digits := Text.padded (places + 1) (roundEven (num * Nat.pow 10 places) den)
    let whole := digits.length - places
    signed negative (digits.take whole ++ '.' :: digits.drop whole)

/-- The number with at most six significant digits, with an exponent where the point stands
behind the sixth digit or more than four zeros would follow it. -/
def toGeneral : Double → Text
  | nan => Text.of "nan"
  | infinity negative => signed negative (Text.of "inf")
  | finite negative significand exponent _ =>
    if significand = 0 then signed negative ['0']
    else
      let (num, den) := magnitude significand exponent
      let place := pointPlace num den
      let (a, b) := scale 10 num den (6 - place)
      let d := (Digits.ofNat 6 (roundEven a b) place).trimmed
      signed negative <|
        if -4 < d.place && d.place ≤ 6 then
          let (whole, part) := positional d
          if part.isEmpty then whole else whole ++ '.' :: part
        else exponential d

/-- Digits with single underscores between them, as digits; nothing else may stand there. -/
def plainDigits? (t : Text) : Option Text :=
  let pieces := Text.splitOn '_' t
  if t.isEmpty then some []
  else if pieces.all fun piece => !piece.isEmpty && piece.all Text.isDecimal then
    some pieces.flatten
  else none

/-- The exponent of a number, when its text is one. -/
def exponent? (t : Text) : Option Int :=
  let (negative, digits) := match t with
    | '-' :: rest => (true, rest)
    | '+' :: rest => (false, rest)
    | _ => (false, t)
  match plainDigits? digits with
  | some (d :: ds) =>
    let value : Int := Text.decimalNumber (d :: ds)
    some (if negative then -value else value)
  | _ => none

/-- A number without sign. -/
def unsigned? (negative : Bool) (t : Text) : Option Double :=
  let (mantissa, power) := match Text.cut? 'e' t with
    | some (mantissa, power) => (mantissa, exponent? power)
    | none => (t, some 0)
  let (whole, part) := (Text.cut? '.' mantissa).getD (mantissa, [])
  match plainDigits? whole, plainDigits? part, power with
  | some whole, some part, some power =>
    if whole.isEmpty && part.isEmpty then none
    else some (ofDecimal negative (Text.decimalNumber (whole ++ part)) (power - part.length))
  | _, _, _ => none

/-- White space that may stand around a number: the separators of the control range may not. -/
def mayEnclose (c : Char) : Bool := Text.isBlank c && !(0x1C ≤ c.toNat && c.toNat ≤ 0x1F)

/-- The number that a text spells, white space around it aside. -/
def ofText? (t : Text) : Option Double :=
  let t := (Text.trimBoth mayEnclose t).map fun c => if c.toNat < 0x80 then c.toLower else c
  let (negative, size) := match t with
    | '-' :: rest => (true, rest)
    | '+' :: rest => (false, rest)
    | _ => (false, t)
  if size = Text.of "inf" || size = Text.of "infinity" then some (infinity negative)
  else if size = Text.of "nan" then some nan
  else unsigned? negative size

end DreamJournal.Double
