import DreamJournal.Yaml.Cursor
import DreamJournal.Yaml.Error

/-!
# Texts of scalars

A scalar is written plainly, between single or double quotes, or as a block of lines. In all but
the block that keeps its lines, a single break stands for a space and every further one for a
line feed.
-/
namespace DreamJournal.Yaml.Cursor

/-- Breaks with any spaces around them, from a place on where a line may begin. -/
def blankLines (gap : Char → Bool) : (fuel : Nat) → Cursor → Text × Cursor
  | 0, c => ([], c)
  | fuel + 1, c =>
    let c := c.skipWhile gap
    match c.break? with
    | some (mark, next) =>
      let (more, after) := blankLines gap fuel next
      (mark :: more, after)
    | none => ([], c)

/-- What a break and the blank lines behind it stand for. -/
def folded (mark : Char) (blank : Text) : Text :=
  if mark ≠ '\n' then mark :: blank else if blank.isEmpty then [' '] else blank

/-- A piece of a plain scalar without white space. -/
def plainPiece (flow : Bool) : Text → Text
  | [] => []
  | c :: rest =>
    if c == ' ' || c == '\t' || isBreak c then []
    else if flow && [',', '?', '[', ']', '\x7b', '\x7d'].contains c then []
    else
      let ends := match rest with
        | [] => true
        | next :: _ => next == ' ' || next == '\t' || isBreak next ||
            (flow && [',', '[', ']', '\x7b', '\x7d'].contains next)
      if c == ':' && ends then [] else c :: plainPiece flow rest

/-- What stands between two pieces of a plain scalar, the place behind it, and whether a line
ended there. Nothing stands there when the scalar ends. -/
def plainGap (c : Cursor) : Text × Cursor × Bool :=
  let (spaces, c) := c.takeWhile (· == ' ')
  match c.break? with
  | none => (spaces, c, false)
  | some (mark, c) =>
    if c.seesDocumentMark then ([], c, true)
    else go mark [] c.rest.length c
where
  /-- The lines behind a break, up to one that is not blank. -/
  go (mark : Char) (blank : Text) : (fuel : Nat) → Cursor → Text × Cursor × Bool
    | 0, c => (folded mark blank, c, true)
    | fuel + 1, c =>
      let c := c.skipSpaces
      match c.break? with
      | none => (folded mark blank, c, true)
      | some (further, c) =>
        if c.seesDocumentMark then ([], c, true) else go mark (blank ++ [further]) fuel c

/-- A plain scalar from a place on, the place behind it, and whether a line ended behind its last
piece. Outside of brackets its lines are indented at least as far as asked. -/
def plainFrom (flow : Bool) (indent : Nat) : (fuel : Nat) → (gap : Text) → (ended : Bool) →
    Cursor → Text × Cursor × Bool
  | 0, _, ended, c => ([], c, ended)
  | fuel + 1, gap, ended, c =>
    let piece := if c.sees '#' then [] else plainPiece flow c.rest
    if piece.isEmpty then ([], c, ended)
    else
      let (next, c, ended) := (c.skip piece.length).plainGap
      if next.isEmpty || c.sees '#' || (!flow && c.column < indent) then (gap ++ piece, c, ended)
      else
        let (more, c, ended) := plainFrom flow indent fuel next ended c
        (gap ++ piece ++ more, c, ended)

/-- A plain scalar. -/
def plain (flow : Bool) (indent : Nat) (c : Cursor) : Text × Cursor × Bool :=
  plainFrom flow indent c.rest.length [] false c

/-- Characters that a letter behind a backslash stands for. -/
def escapes : List (Char × Char) :=
  [('0', '\x00'), ('a', '\x07'), ('b', '\x08'), ('t', '\t'), ('\t', '\t'), ('n', '\n'),
    ('v', '\x0b'), ('f', '\x0c'), ('r', '\r'), ('e', '\x1b'), (' ', ' '), ('"', '"'),
    ('\\', '\\'), ('/', '/'), ('N', '\x85'), ('_', '\xa0'), ('L', '\u2028'), ('P', '\u2029')]

/-- How many hexadecimal digits follow a letter behind a backslash. -/
def codeLength? (c : Char) : Option Nat :=
  match c with
  | 'x' => some 2
  | 'u' => some 4
  | 'U' => some 8
  | _ => none

/-- The character with a code point. The code of half a surrogate pair, as in `"\ud800"`, is that of
no character; the null character stands in for it. -/
def charOfCode (n : Nat) : Except ReadError Char :=
  if 0x7FFFFFFF < n then
    .error (.fault (.tooLarge (Text.of "Python int too large to convert to C int")))
  else if 0x110000 ≤ n then .error (.fault (.badValue (Text.of "chr() arg not in range(0x110000)")))
  else .ok (Char.ofNat n)

/-- Blank lines inside of quotes; a mark of a document may not begin one. -/
def quotedBlank : (fuel : Nat) → Cursor → Except ReadError (Text × Cursor)
  | 0, _ => .error .malformed
  | fuel + 1, c =>
    if c.seesDocumentMark then .error .malformed
    else
      let c := c.skipWhile Text.isGap
      match c.break? with
      | none => .ok ([], c)
      | some (mark, c) => do
        let (more, c) ← quotedBlank fuel c
        .ok (mark :: more, c)

/-- What a backslash between double quotes and what follows it stand for; the cursor is behind
the backslash. -/
def escape (c : Cursor) : Except ReadError (Text × Cursor) :=
  match c.rest with
  | [] => .error .malformed
  | letter :: digits =>
    match escapes.find? fun entry => entry.1 = letter, codeLength? letter, c.break? with
    | some (_, meant), _, _ => .ok ([meant], c.step)
    | none, some length, _ =>
      let code := digits.take length
      if code.length = length && code.all fun d => (Text.hexDigit? d).isSome then do
        .ok ([← charOfCode (Text.hexValue code)], c.skip (length + 1))
      else .error .malformed
    | none, none, some (_, c) => quotedBlank (c.rest.length + 1) c
    | none, none, none => .error .malformed

/-- White space inside of quotes. -/
def quotedGap (c : Cursor) : Except ReadError (Text × Cursor) :=
  let (spaces, c) := c.takeWhile Text.isGap
  match c.break? with
  | none => if c.rest.isEmpty then .error .malformed else .ok (spaces, c)
  | some (mark, c) => do
    let (blank, c) ← quotedBlank (c.rest.length + 1) c
    .ok (folded mark blank, c)

/-- The text up to the closing quote, and the place behind it. -/
def quotedFrom (mark : Char) : (fuel : Nat) → Cursor → Except ReadError (Text × Cursor)
  | 0, _ => .error .malformed
  | fuel + 1, c =>
    match c.rest with
    | [] => .error .malformed
    | first :: rest => do
      if first = mark && mark = '\'' && rest.head? = some '\'' then
        let (more, c) ← quotedFrom mark fuel (c.skip 2)
        .ok ('\'' :: more, c)
      else if first = mark then .ok ([], c.step)
      else
        let (piece, c) ←
          if first = '\\' && mark = '"' then escape c.step
          else if Text.isGap first || isBreak first then quotedGap c
          else .ok ([first], c.step)
        let (more, c) ← quotedFrom mark fuel c
        .ok (piece ++ more, c)

/-- A scalar between quotes; the cursor is at the opening quote. -/
def quotedScalar (mark : Char) (c : Cursor) : Except ReadError (Text × Cursor) :=
  quotedFrom mark (c.rest.length + 1) c.step

/-- What becomes of the breaks at the end of a block. -/
inductive Chomping where
  | clip
  | strip
  | keep
  deriving DecidableEq, Repr

def Chomping.ofMark? (c : Option Char) : Option Chomping :=
  match c with
  | some '+' => some .keep
  | some '-' => some .strip
  | _ => none

/-- The extra indentation that a digit gives; none is no digit, and zero is refused. -/
def indentDigit? (c : Option Char) : Option Nat :=
  match c with
  | some d => if d.isDigit then some (d.toNat - '0'.toNat) else none
  | none => none

/-- Chomping and extra indentation in the header of a block, in either order. -/
def blockHeader (c : Cursor) : Except ReadError (Chomping × Option Nat × Cursor) := do
  let (chomping, extra, c) :=
    match Chomping.ofMark? c.peek?, indentDigit? c.peek? with
    | some chomping, _ =>
      let c := c.step
      match indentDigit? c.peek? with
      | some n => (chomping, some n, c.step)
      | none => (chomping, none, c)
    | none, some n =>
      let c := c.step
      match Chomping.ofMark? c.peek? with
      | some chomping => (chomping, some n, c.step)
      | none => (.clip, some n, c)
    | none, none => (.clip, none, c)
  if extra = some 0 || !c.spaceAt 0 then .error .malformed
  else
    let c := c.skipSpaces.skipComment
    if c.lineEndsAt 0 then .ok (chomping, extra, ((c.break?).map Prod.snd).getD c)
    else .error .malformed

/-- The blank lines in front of a block and the deepest column of spaces in them. -/
def leadingBlank : (fuel : Nat) → (deepest : Nat) → Cursor → Text × Nat × Cursor
  | 0, deepest, c => ([], deepest, c)
  | fuel + 1, deepest, c =>
    let c := c.skipSpaces
    let deepest := max deepest c.column
    match c.break? with
    | none => ([], deepest, c)
    | some (mark, c) =>
      let (more, deepest, c) := leadingBlank fuel deepest c
      (mark :: more, deepest, c)

/-- Spaces up to a column. -/
def skipIndent (column : Nat) (c : Cursor) : Cursor :=
  c.skip (min (column - c.column) (c.rest.takeWhile (· == ' ')).length)

/-- The blank lines inside of a block, and the place where its next line begins. -/
def innerBlank (column : Nat) : (fuel : Nat) → Cursor → Text × Cursor
  | 0, c => ([], c)
  | fuel + 1, c =>
    let c := skipIndent column c
    match c.break? with
    | none => ([], c)
    | some (mark, c) =>
      let (more, c) := innerBlank column fuel c
      (mark :: more, c)

/-- The lines of a block, its blank lines before the first of them given. -/
def blockLines (fold : Bool) (chomping : Chomping) (column : Nat) : (fuel : Nat) →
    (blank : Text) → Cursor → Text × Cursor
  | 0, _, c => ([], c)
  | fuel + 1, blank, c =>
    let (line, c) := c.takeWhile fun ch => !isBreak ch
    let (mark, c) := match c.break? with
      | some (mark, c) => ([mark], c)
      | none => ([], c)
    let (further, c) := innerBlank column (c.rest.length + 1) c
    if c.column = column && !c.rest.isEmpty then
      let startsBlank (t : Text) : Bool := (t.head?.map Text.isGap).getD false
      let between :=
        if fold && mark = ['\n'] && !startsBlank line && !startsBlank c.rest then
          if further.isEmpty then [' '] else []
        else mark
      let (more, c) := blockLines fold chomping column fuel further c
      (blank ++ line ++ between ++ more, c)
    else
      let tail := match chomping with
        | .strip => []
        | .clip => mark
        | .keep => mark ++ further
      (blank ++ line ++ tail, c)

/-- A block of lines; the cursor is at its mark, and the block around it is indented as given. -/
def blockScalar (fold : Bool) (indent : Int) (c : Cursor) : Except ReadError (Text × Cursor) := do
  let (chomping, extra, c) ← c.step.blockHeader
  let least := max (indent + 1).toNat 1
  let (blank, column, c) :=
    match extra with
    | none =>
      let (blank, deepest, c) := leadingBlank (c.rest.length + 1) 0 c
      (blank, max least deepest, c)
    | some n =>
      let column := least + n - 1
      let (blank, c) := innerBlank column (c.rest.length + 1) c
      (blank, column, c)
  if c.column = column && !c.rest.isEmpty then
    .ok (blockLines fold chomping column (c.rest.length + 1) blank c)
  else .ok (if chomping = .keep then blank else [], c)

end DreamJournal.Yaml.Cursor
