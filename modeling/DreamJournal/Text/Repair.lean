import DreamJournal.Text.Classes
import DreamJournal.Text.Composed
import DreamJournal.Text.Pattern
import DreamJournal.Text.RepairTable
import DreamJournal.Text.Utf8

/-!
# Repairing texts

Notes come from many programs, and some of these leave traces: names of characters in markup,
characters that were decoded in the wrong encoding, joined letters and letters of unusual width,
curly quotes, control characters and commands for terminals. `repaired` takes such traces out,
line by line, and does so until nothing changes any more.

Names of characters are only resolved while no line has held a less-than sign, because then the
text is markup, where they mean what they say.

Every round that changes a line either makes it shorter or leaves fewer characters to be
changed, so a number of rounds in the order of its length suffices.
-/
namespace DreamJournal.Text

/-- Replace every character that a table lists. -/
def expandAll (table : List Expansion) (t : Text) : Text :=
  t.flatMap fun c => if c.toNat < 0x80 then [c] else (Expansion.find? table c.toNat).getD [c]

/-- Code points that stand for no character in markup. -/
def isVoidCode (n : Nat) : Bool :=
  (0x01 ≤ n && n ≤ 0x08) || n == 0x0B || (0x0E ≤ n && n ≤ 0x1F) || (0x7F ≤ n && n ≤ 0x9F) ||
    (0xFDD0 ≤ n && n ≤ 0xFDEF) || n % 0x10000 == 0xFFFE || n % 0x10000 == 0xFFFF

/-- The character that a number in markup stands for. -/
def numbered (n : Nat) : Text :=
  if n = 0 then ['\uFFFD']
  else if 0x80 ≤ n && n ≤ 0x9F then
    (Expansion.find? printableControls n).getD [Char.ofNat n]
  else if (0xD800 ≤ n && n ≤ 0xDFFF) || 0x10FFFF < n then ['\uFFFD']
  else if n = 0x0D then ['\r']
  else if isVoidCode n then []
  else [Char.ofNat n]

/-- The characters that a reference in markup stands for, from what it holds between the
ampersand and the semicolon. The number of the semicolon itself is left alone. -/
def referenced? (body : Text) : Option Text :=
  match body with
  | '#' :: mark :: digits =>
    let code :=
      if mark == 'x' || mark == 'X' then
        if !digits.isEmpty && digits.all fun d => (hexDigit? d).isSome then some (hexValue digits)
        else none
      else if (mark :: digits).all Char.isDigit then some (decimalNumber (mark :: digits))
      else none
    match code with
    | some n => if n = 0x3B then none else some (numbered n)
    | none => none
  | _ => (characterNames.find? fun entry => entry.1 = body).map Prod.snd

/-- The longest name of a character, or number of one, in markup. -/
def referenceLimit : Nat := 24

/-- A reference to a character in markup. -/
def reference : Pattern := fun _ here =>
  match here with
  | '&' :: rest =>
    let mark := match rest with
      | '#' :: _ => ['#']
      | _ => []
    let name := (rest.drop mark.length).takeWhile Char.isAlphanum
    let body := mark ++ name
    if name.isEmpty || referenceLimit < name.length ||
        (rest.drop body.length).head? ≠ some ';' then none
    else (referenced? body).map fun meant => ⟨body.length + 2, meant⟩
  | _ => none

/-- The octet that a character stands for in the old encoding of western texts. -/
def westernOctet? (c : Char) : Option UInt8 :=
  let n := c.toNat
  if n < 0x100 then some (UInt8.ofNat n)
  else (printableControls.find? fun entry => entry.target = [c]).map fun entry =>
    UInt8.ofNat entry.source

/-- The first octets of the characters that are commonly read in the wrong encoding. -/
def isMisreadLead (octet : UInt8) : Bool :=
  octet == 0xC2 || octet == 0xC3 || octet == 0xE2 || octet == 0xEF || octet == 0xF0

/-- A character whose octets were read one by one in the old encoding of western texts. -/
def misread : Pattern := fun _ here =>
  match here with
  | [] => none
  | c :: _ =>
    if c.toNat < 0x80 then none
    else do
      let lead ← westernOctet? c
      if !isMisreadLead lead then none
      let (more, _) ← leadOctet? lead
      let octets ← (here.take (more + 1)).mapM westernOctet?
      match decode octets with
      | .ok [meant] => if octets.length = more + 1 then some ⟨more + 1, [meant]⟩ else none
      | _ => none

/-- Straight quotes for curly ones. -/
def straightQuote (c : Char) : Char :=
  let n := c.toNat
  if n == 0x2BC || (0x2018 ≤ n && n ≤ 0x201B) then '\''
  else if 0x201C ≤ n && n ≤ 0x201F then '"'
  else c

/-- Line feeds for all separators of lines and paragraphs. -/
def plainBreaks (t : Text) : Text :=
  (lineFeeds t).map fun c => if c == '\u2028' || c == '\u2029' || c == '\x85' then '\n' else c

/-- A command for terminals: its parameters and a letter. -/
def terminalCommand : Pattern := fun _ here =>
  match here with
  | '\x1b' :: '[' :: rest =>
    let parameters := rest.takeWhile fun c => isDecimal c || c == ';'
    match rest.drop parameters.length with
    | letter :: _ => if letter.isAlpha then some ⟨parameters.length + 3, []⟩ else none
    | [] => none
  | _ => none

/-- A control character that is never meant to be in a text. -/
def isStrayControl (c : Char) : Bool :=
  let n := c.toNat
  n ≤ 0x08 || n == 0x0B || (0x0E ≤ n && n ≤ 0x1F) || n == 0x7F || (0x206A ≤ n && n ≤ 0x206F) ||
    n == 0xFEFF || (0xFFF9 ≤ n && n ≤ 0xFFFC)

/-- One round of repairs. -/
def repairOnce (resolve : Bool) (t : Text) : Text :=
  let t := if resolve then Pattern.replaceAll reference t else t
  let t := Pattern.replaceAll misread t
  let t := expandAll widths (expandAll ligatures (expandAll printableControls t))
  let t := plainBreaks (t.map straightQuote)
  composed ((Pattern.replaceAll terminalCommand t).filter fun c => !isStrayControl c)

/-- Rounds of repairs until nothing changes. -/
def repairRounds (resolve : Bool) : (fuel : Nat) → Text → Text
  | 0, t => t
  | fuel + 1, t =>
    let next := repairOnce resolve t
    if next = t then t else repairRounds resolve fuel next

/-- One line, repaired. -/
def repairLine (resolve : Bool) (t : Text) : Text := repairRounds resolve (2 * t.length + 8) t

/-- Lines, repaired until a less-than sign shows that the text is markup, and then without
resolving references. -/
def repairLines (resolve : Bool) : List Text → List Text
  | [] => []
  | line :: rest =>
    let resolve := resolve && !line.contains '<'
    repairLine resolve line :: repairLines resolve rest

/-- The lines of a text, each with the line feed that ends it. -/
def feedLines : Text → List Text
  | [] => []
  | c :: rest =>
    if c = '\n' then [c] :: feedLines rest
    else
      match feedLines rest with
      | [] => [[c]]
      | line :: more => (c :: line) :: more

/-- A text without the traces of the programs that wrote it. A line is repaired together with its
line feed, so that a carriage return in front of it is seen as part of the same break. -/
def repaired (t : Text) : Text := (repairLines true (feedLines t)).flatten

end DreamJournal.Text
