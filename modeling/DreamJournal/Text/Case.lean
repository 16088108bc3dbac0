import DreamJournal.Text.CaseTable

/-!
# Case

Three ways to forget the case of a text. `lower` is the lower case form, in which a capital
sigma at the end of a word becomes the final sigma. `fold` is the form for comparing names: two
names are the same when their folded forms are equal. `sameLetter` compares one character with
another the way a search without regard to case does: it never joins or splits characters, but
it also identifies small letters that share a capital, such as the long and the short s.
-/
namespace DreamJournal.Text

/-- Lower case of one character by itself. -/
def lowerChar (c : Char) : Char :=
  if c.toNat < 0x80 then c.toLower
  else if c.toNat = 0x130 then 'i'
  else Char.ofNat (CaseRun.sendFirst lowerRuns c.toNat)

/-- A letter with case. -/
def isCased (c : Char) : Bool :=
  if c.toNat < 0x80 then c.isAlpha else CodeRange.anyContains casedRanges c.toNat

/-- A mark that stands inside or beside a word without ending it. -/
def isCaseIgnorable (c : Char) : Bool :=
  if c.toNat < 0x80 then c == '\'' || c == '.' || c == ':' || c == '^' || c == '\x60'
  else CodeRange.anyContains caseIgnorableRanges c.toNat

/-- Whether the nearest character that decides about case is a letter with case. -/
def nextIsCased (t : Text) : Bool :=
  match t.dropWhile isCaseIgnorable with
  | [] => false
  | c :: _ => isCased c

/-- Lower case of the rest of a text; `before` holds what precedes it, nearest first. -/
def lowerFrom (before : Text) : Text → Text
  | [] => []
  | c :: rest =>
    let small :=
      if c = 'Σ' then if nextIsCased before && !nextIsCased rest then ['ς'] else ['σ']
      else if c.toNat = 0x130 then ['i', Char.ofNat 0x307]
      else [lowerChar c]
    small ++ lowerFrom (c :: before) rest

/-- A text in lower case. -/
def lower (t : Text) : Text := lowerFrom [] t

/-- The folded form of one character. -/
def foldChar (c : Char) : Text :=
  if c.toNat < 0x80 then [c.toLower]
  else
    match Expansion.find? foldExpansions c.toNat with
    | some folded => folded
    | none =>
      match foldRuns.findSome? fun run => run.send? c.toNat with
      | some n => [Char.ofNat n]
      | none => [lowerChar c]

/-- A text in the form in which names are compared. -/
def fold (t : Text) : Text := t.flatMap foldChar

/-- Whether two characters are the same letter, whatever their case. -/
def sameLetter (wanted c : Char) : Bool :=
  let small := lowerChar wanted
  let found := lowerChar c
  found == small ||
    (match Expansion.find? sharedCapitals small.toNat with
     | some partners => partners.contains found
     | none => false)

/-- What follows `start`, in any case, in a text that begins with it. -/
def afterAnyCase? : (start text : Text) → Option Text
  | [], text => some text
  | _ :: _, [] => none
  | s :: start, c :: rest => if sameLetter s c then afterAnyCase? start rest else none

/-- A letter from `A` to `Z` in a search without regard to case: the dotless i, the dotted
capital I, the long s and the Kelvin sign count as i, s and k. -/
def isLatinLetter (c : Char) : Bool :=
  c.isAlpha || c.toNat == 0x130 || c.toNat == 0x131 || c.toNat == 0x17F || c.toNat == 0x212A

end DreamJournal.Text
