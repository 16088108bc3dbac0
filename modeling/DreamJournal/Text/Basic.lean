/-!
# Texts

A text is the list of its characters, so that every rule of this library is a recursion on the
data and every law about it an induction. Two characters of context are all that the rules on
notes ever need: the blanks that separate words, and the breaks that end lines.

`words`, `lines` and `splitOn` each cut a text in one pass. `words` forgets how much space stood
between two words, `lines` forgets which break ended a line, and `splitOn` forgets nothing:
joining its pieces with the separator gives the text back.
-/
namespace DreamJournal

/-- A text, one character at a time. -/
abbrev Text := List Char

namespace Text

/-- The text of a literal. -/
def of (s : String) : Text := s.toList

/-- The string that holds a text. -/
def toString (t : Text) : String := String.ofList t

/-- White space of any script: the breaks and separators of the control range, the spaces of
the punctuation blocks, and the ideographic space. -/
def isBlank (c : Char) : Bool :=
  let n := c.toNat
  (0x09 ≤ n && n ≤ 0x0D) || (0x1C ≤ n && n ≤ 0x20) || n == 0x85 || n == 0xA0 || n == 0x1680 ||
    (0x2000 ≤ n && n ≤ 0x200A) || n == 0x2028 || n == 0x2029 || n == 0x202F || n == 0x205F ||
    n == 0x3000

/-- The characters that end a line. -/
def isLineBreak (c : Char) : Bool :=
  let n := c.toNat
  (0x0A ≤ n && n ≤ 0x0D) || (0x1C ≤ n && n ≤ 0x1E) || n == 0x85 || n == 0x2028 || n == 0x2029

/-- A space or a tab: the blanks that can stand between the marks of one line. -/
def isGap (c : Char) : Bool := c == ' ' || c == '\t'

/-- Drop the characters of a class from both ends. -/
def trimBoth (drop : Char → Bool) (t : Text) : Text :=
  ((t.dropWhile drop).reverse.dropWhile drop).reverse

/-- Drop the characters of a class from the end. -/
def trimEnd (drop : Char → Bool) (t : Text) : Text := (t.reverse.dropWhile drop).reverse

/-- A text without the white space around it. -/
def trim (t : Text) : Text := trimBoth isBlank t

/-- Nothing but white space, or nothing at all. -/
def isAllBlank (t : Text) : Bool := t.all isBlank

/-- The maximal runs of characters that are not white space, in order. -/
def words : Text → List Text
  | [] => []
  | c :: rest =>
    if isBlank c then words rest
    else
      match rest with
      | [] => [[c]]
      | next :: _ =>
        if isBlank next then [c] :: words rest
        else
          match words rest with
          | [] => [[c]]
          | word :: more => (c :: word) :: more

/-- The lines of a text. A carriage return followed by a line feed is one break, and a break at
the very end starts no further line. -/
def lines : Text → List Text
  | [] => []
  | '\r' :: '\n' :: rest => [] :: lines rest
  | c :: rest =>
    if isLineBreak c then [] :: lines rest
    else
      match lines rest with
      | [] => [[c]]
      | line :: more => (c :: line) :: more

/-- The pieces between the occurrences of a separator, at least one. -/
def splitOn (separator : Char) : Text → List Text
  | [] => [[]]
  | c :: rest =>
    if c = separator then [] :: splitOn separator rest
    else
      match splitOn separator rest with
      | [] => [[c]]
      | piece :: more => (c :: piece) :: more

/-- Texts joined with a separator between neighbours. -/
def join (separator : Text) (pieces : List Text) : Text := separator.intercalate pieces

/-- Words separated by single spaces. -/
def joinWords (pieces : List Text) : Text := join [' '] pieces

/-- Lines separated by line feeds. -/
def joinLines (pieces : List Text) : Text := join ['\n'] pieces

/-- A text with every run of white space written as one space and none at the ends. -/
def oneSpaced (t : Text) : Text := joinWords (words t)

/-- The parts before and after the first occurrence of a character, when it occurs. -/
def cut? (mark : Char) : Text → Option (Text × Text)
  | [] => none
  | c :: rest =>
    if c = mark then some ([], rest)
    else (cut? mark rest).map fun (before, after) => (c :: before, after)

/-- What follows `start` in a text that begins with it. -/
def after? : (start text : Text) → Option Text
  | [], text => some text
  | _ :: _, [] => none
  | s :: start, c :: rest => if s = c then after? start rest else none

/-- Whether one text occurs inside another. -/
def occursIn (part : Text) : Text → Bool
  | [] => part.isEmpty
  | c :: rest => part.isPrefixOf (c :: rest) || occursIn part rest

/-- Every carriage return and line feed pair written as a line feed. -/
def unixBreaks : Text → Text
  | [] => []
  | '\r' :: '\n' :: rest => '\n' :: unixBreaks rest
  | c :: rest => c :: unixBreaks rest

/-- Texts in the order of their code points. -/
def le : Text → Text → Bool
  | [], _ => true
  | _ :: _, [] => false
  | a :: s, b :: t => if a = b then le s t else a.toNat < b.toNat

/-- A count in decimal. -/
def ofNat (n : Nat) : Text := Nat.toDigits 10 n

/-- A whole number in decimal, with a minus sign below zero. -/
def ofInt (n : Int) : Text := if n < 0 then '-' :: ofNat n.natAbs else ofNat n.natAbs

/-- A count in decimal with zeros in front up to a width. -/
def padded (width n : Nat) : Text :=
  let digits := ofNat n
  List.replicate (width - digits.length) '0' ++ digits

/-- The digit of a hexadecimal numeral, in either case. -/
def hexDigit? (c : Char) : Option Nat :=
  if '0' ≤ c && c ≤ '9' then some (c.toNat - '0'.toNat)
  else if 'a' ≤ c && c ≤ 'f' then some (c.toNat - 'a'.toNat + 10)
  else if 'A' ≤ c && c ≤ 'F' then some (c.toNat - 'A'.toNat + 10)
  else none

/-- The number that hexadecimal digits spell; a character that is none counts as zero. -/
def hexValue (t : Text) : Nat := t.foldl (fun n c => 16 * n + (hexDigit? c).getD 0) 0

/-- A count in hexadecimal, lower case, with zeros in front up to a width. -/
def hexPadded (width n : Nat) : Text :=
  let digits := Nat.toDigits 16 n
  List.replicate (width - digits.length) '0' ++ digits

end Text
end DreamJournal
