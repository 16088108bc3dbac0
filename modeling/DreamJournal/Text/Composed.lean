import DreamJournal.Text.CompositionTable

/-!
# Composed form

Many letters can be written as one character or as a letter with marks behind it. In the composed
form a text uses the single characters wherever there are any. The text is first taken apart,
then the marks behind each letter are put in the order of their classes, and last every mark that
can be joined with the letter before it is joined, unless a mark of the same class stands between
them. Syllables of Hangul are composed of their parts by arithmetic.

Characters below 0x300 are in composed form already.
-/
namespace DreamJournal.Text

/-- The class of a mark; zero for what is no mark. -/
def markClass (c : Char) : Nat :=
  if c.toNat < 0x300 then 0
  else ((markClasses.find? fun entry => entry.range.contains c.toNat).map MarkClass.order).getD 0

/-- The parts of a syllable of Hangul. -/
def syllableParts? (n : Nat) : Option Text :=
  if 0xAC00 ≤ n && n ≤ 0xD7A3 then
    let index := n - 0xAC00
    let head := [Char.ofNat (0x1100 + index / 588), Char.ofNat (0x1161 + index % 588 / 28)]
    some (if index % 28 = 0 then head else head ++ [Char.ofNat (0x11A7 + index % 28)])
  else none

/-- What a character is made of, taken apart once. -/
def partsOnce? (c : Char) : Option Text :=
  let n := c.toNat
  if n < 0xC0 then none
  else
    match syllableParts? n with
    | some parts => some parts
    | none =>
      match Expansion.find? compositions n with
      | some parts => some parts
      | none => Expansion.find? oneWayDecompositions n

/-- What a character is made of, taken apart to the given depth. -/
def partsOf : (depth : Nat) → Char → Text
  | 0, c => [c]
  | depth + 1, c =>
    match partsOnce? c with
    | some parts => parts.flatMap (partsOf depth)
    | none => [c]

/-- How often characters can be taken apart. -/
def partsDepth : Nat := 5

/-- Put a mark among marks in the order of their classes, behind those of its own class. -/
def insertMark (mark : Char) : Text → Text
  | [] => [mark]
  | other :: rest =>
    if markClass mark < markClass other then mark :: other :: rest
    else other :: insertMark mark rest

/-- A text with the marks behind each letter in order; `marks` are those read since the last
letter. -/
def orderMarks (marks : Text) : Text → Text
  | [] => marks
  | c :: rest =>
    if markClass c = 0 then marks ++ c :: orderMarks [] rest
    else orderMarks (insertMark c marks) rest

/-- The syllable of Hangul that two parts make. -/
def syllable? (a b : Char) : Option Char :=
  let m := a.toNat
  let n := b.toNat
  if 0x1100 ≤ m && m ≤ 0x1112 && 0x1161 ≤ n && n ≤ 0x1175 then
    some (Char.ofNat (0xAC00 + ((m - 0x1100) * 21 + (n - 0x1161)) * 28))
  else if 0xAC00 ≤ m && m ≤ 0xD7A3 && (m - 0xAC00) % 28 = 0 && 0x11A8 ≤ n && n ≤ 0x11C2 then
    some (Char.ofNat (m + (n - 0x11A7)))
  else none

/-- The character that two others make. -/
def joined? (a b : Char) : Option Char :=
  if b.toNat < 0x300 then none
  else
    match syllable? a b with
    | some c => some c
    | none =>
      (compositions.find? fun entry => entry.target = [a, b]).map fun entry =>
        Char.ofNat entry.source

/-- Join what follows a letter with it: `between` are the marks that stayed, in reverse. -/
def joinFrom (letter : Char) (between : Text) : Text → Text
  | [] => letter :: between.reverse
  | c :: rest =>
    let free := match between with
      | [] => true
      | last :: _ => markClass last < markClass c
    match if free then joined? letter c else none with
    | some whole => joinFrom whole between rest
    | none =>
      if markClass c = 0 then letter :: between.reverse ++ joinFrom c [] rest
      else joinFrom letter (c :: between) rest

/-- Join a text that is taken apart. Marks in front of the first letter stay as they are. -/
def joinAll : Text → Text
  | [] => []
  | c :: rest => if markClass c = 0 then joinFrom c [] rest else c :: joinAll rest

/-- The composed form of a text. -/
def composed (t : Text) : Text :=
  if t.all fun c => c.toNat < 0x300 then t
  else joinAll (orderMarks [] (t.flatMap (partsOf partsDepth)))

end DreamJournal.Text
