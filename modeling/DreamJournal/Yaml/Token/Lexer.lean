import DreamJournal.Yaml.Token
import DreamJournal.Yaml.Token.Scalar

/-!
# Reading tokens

Tokens are read from left to right. Two things are known only later: that a scalar is the key of
a mapping, which the colon behind it tells, and that a block has ended, which a line with less
indentation tells. For the first, the reader remembers at which token a key may have begun, one
for each level of brackets; a key stands on one line and is at most 1024 characters long. For the
second, it keeps the columns of the open blocks.

Every step reads at least one character, so their number bounds the number of steps.
-/
namespace DreamJournal.Yaml

/-- A place where a key may have begun. -/
structure PossibleKey where
  /-- How many tokens there were in front of it. -/
  token : Nat
  /-- Whether nothing but a key can stand there. -/
  required : Bool
  place : Cursor
  deriving Repr

/-- The state of the reader. -/
structure Lexer where
  place : Cursor
  /-- How many brackets are open. -/
  flow : Nat
  /-- The column of the innermost block, or minus one. -/
  indent : Int
  /-- The columns of the blocks around it. -/
  outer : List Int
  /-- Whether a key may begin here. -/
  keyAllowed : Bool
  /-- The places where a key may have begun, by the level of brackets. -/
  keys : List (Nat × PossibleKey)
  /-- The tokens read, latest first. -/
  tokens : List Token
  deriving Repr

namespace Lexer

def start (t : Text) : Lexer := ⟨.start t, 0, -1, [], true, [], []⟩

def emit (l : Lexer) (token : Token) : Lexer := { l with tokens := token :: l.tokens }

/-- Put a token behind the first `n` tokens. -/
def insert (l : Lexer) (n : Nat) (token : Token) : Lexer :=
  let later := l.tokens.length - n
  { l with tokens := l.tokens.take later ++ token :: l.tokens.drop later }

/-- Whether a key that may have begun at a place can no longer end. -/
def isStale (l : Lexer) (key : PossibleKey) : Bool :=
  key.place.line ≠ l.place.line || 1024 < l.place.index - key.place.index

/-- Forget the keys that can no longer end. -/
def dropStale (l : Lexer) : Except ReadError Lexer :=
  if l.keys.any fun entry => l.isStale entry.2 && entry.2.required then .error .malformed
  else .ok { l with keys := l.keys.filter fun entry => !l.isStale entry.2 }

/-- The key that may have begun at the present level of brackets. -/
def key? (l : Lexer) : Option PossibleKey :=
  (l.keys.find? fun entry => entry.1 = l.flow).map Prod.snd

def withoutKey (l : Lexer) : Lexer :=
  { l with keys := l.keys.filter fun entry => entry.1 ≠ l.flow }

/-- Give up the key at the present level of brackets. -/
def dropKey (l : Lexer) : Except ReadError Lexer :=
  match l.key? with
  | some key => if key.required then .error .malformed else .ok l.withoutKey
  | none => .ok l

/-- Remember that a key may begin here. -/
def markKey (l : Lexer) : Except ReadError Lexer :=
  if l.keyAllowed then do
    let required := l.flow = 0 && l.indent = l.place.column
    let key : PossibleKey := ⟨l.tokens.length, required, l.place⟩
    let l ← l.dropKey
    .ok { l with keys := (l.flow, key) :: l.keys }
  else .ok l

/-- End the blocks that are indented deeper than a column, the outer columns given. -/
def unwindThrough (column : Int) : List Int → Lexer → Lexer
  | [], l => l
  | outer :: further, l =>
    if column < l.indent then
      unwindThrough column further { l.emit .blockEnd with indent := outer, outer := further }
    else l

/-- End the blocks that are indented deeper than a column. Inside of brackets there are none. -/
def unwind (l : Lexer) (column : Int) : Lexer :=
  if l.flow = 0 then unwindThrough column l.outer l else l

/-- Begin a block in a column unless one has begun there. -/
def indentTo (l : Lexer) (column : Nat) (position : Nat) (token : Token) : Lexer :=
  if l.indent < column then
    { l.insert position token with indent := column, outer := l.indent :: l.outer }
  else l

/-- Begin a block at the present place unless one has begun in its column. -/
def indentHere (l : Lexer) (token : Token) : Lexer :=
  l.indentTo l.place.column l.tokens.length token

/-- Read a token of some characters. -/
def read (l : Lexer) (size : Nat) (token : Token) : Lexer :=
  { l.emit token with place := l.place.skip size }

/-- Skip spaces, comments and breaks up to the next token. Outside of brackets a key may begin
on a new line. -/
def skipBlank : (fuel : Nat) → Lexer → Lexer
  | 0, l => l
  | fuel + 1, l =>
    let place := l.place.skipSpaces.skipComment
    match place.break? with
    | some (_, place) =>
      skipBlank fuel { l with place, keyAllowed := l.keyAllowed || l.flow = 0 }
    | none => { l with place }

/-- A character of a name. -/
def isNameChar (c : Char) : Bool := c.isAlphanum || c == '-' || c == '_'

/-- A name that ends where the given test says. -/
def name (c : Cursor) (ends : Cursor → Bool) : Except ReadError (Text × Cursor) :=
  let (name, c) := c.takeWhile isNameChar
  if name.isEmpty || !ends c then .error .malformed else .ok (name, c)

/-- Whether an anchor or a reference to one may end at a place. -/
def endsAnchor (c : Cursor) : Bool :=
  c.blankAt 0 || (c.peek?.map fun ch => (Text.of "?:,]\x7d%@\x60").contains ch).getD true

/-- A number in a directive. -/
def number (c : Cursor) : Except ReadError (Nat × Cursor) :=
  let (digits, c) := c.takeWhile Char.isDigit
  if digits.isEmpty then .error .malformed
  else .ok (digits.foldl (fun n d => 10 * n + (d.toNat - '0'.toNat)) 0, c)

/-- The first part of a tag: one exclamation mark, or a name between two. -/
def tagHandle (c : Cursor) : Except ReadError (Text × Cursor) :=
  if !c.sees '!' then .error .malformed
  else if c.peekAt? 1 = some ' ' then .ok (['!'], c.step)
  else
    let (name, c) := c.step.takeWhile isNameChar
    if c.sees '!' then .ok ('!' :: name ++ ['!'], c.step) else .error .malformed

/-- The number of octets in the encoding of a character that begins with an octet, and the part
of the code point in it. -/
def leadOctet (n : Nat) : Option (Nat × Nat × Nat) :=
  if n < 0x80 then some (0, n, 0)
  else if 0xC2 ≤ n && n ≤ 0xDF then some (1, n - 0xC0, 0x80)
  else if 0xE0 ≤ n && n ≤ 0xEF then some (2, n - 0xE0, 0x800)
  else if 0xF0 ≤ n && n ≤ 0xF4 then some (3, n - 0xF0, 0x10000)
  else none

/-- The text that escaped octets encode. -/
def textOfOctets : (fuel : Nat) → List Nat → Option Text
  | _, [] => some []
  | 0, _ => none
  | fuel + 1, first :: rest => do
    let (more, lead, least) ← leadOctet first
    let tail := rest.take more
    let code := tail.foldl (fun n octet => 64 * n + (octet - 0x80)) lead
    if tail.length = more && (tail.all fun octet => 0x80 ≤ octet && octet ≤ 0xBF) &&
        least ≤ code && code < 0x110000 && !(0xD800 ≤ code && code ≤ 0xDFFF) then
      let text ← textOfOctets fuel (rest.drop more)
      some (Char.ofNat code :: text)
    else none

/-- Octets that are written as two digits behind a percent sign. -/
def percentOctets : (fuel : Nat) → Cursor → Except ReadError (List Nat × Cursor)
  | 0, c => .ok ([], c)
  | fuel + 1, c =>
    match c.rest with
    | '%' :: a :: b :: _ => do
      match Text.hexDigit? a, Text.hexDigit? b with
      | some high, some low =>
        let (more, c) ← percentOctets fuel (c.skip 3)
        .ok ((16 * high + low) :: more, c)
      | _, _ => .error .malformed
    | '%' :: _ => .error .malformed
    | _ => .ok ([], c)

def isUriChar (c : Char) : Bool :=
  isNameChar c || (Text.of ";/?:@&=+$,.!~*'()[]").contains c

/-- The second part of a tag. -/
def tagSuffix : (fuel : Nat) → Cursor → Except ReadError (Text × Cursor)
  | 0, c => .ok ([], c)
  | fuel + 1, c => do
    if c.sees '%' then
      let (octets, c) ← percentOctets c.rest.length c
      match textOfOctets octets.length octets with
      | none => .error .malformed
      | some text =>
        let (more, c) ← tagSuffix fuel c
        .ok (text ++ more, c)
    else
      let (run, c) := c.takeWhile isUriChar
      if run.isEmpty then .ok ([], c)
      else
        let (more, c) ← tagSuffix fuel c
        .ok (run ++ more, c)

/-- The second part of a tag, which may not be empty. -/
def someSuffix (c : Cursor) : Except ReadError (Text × Cursor) := do
  let (suffix, after) ← tagSuffix (c.rest.length + 1) c
  if after.index = c.index then .error .malformed else .ok (suffix, after)

/-- Whether an exclamation mark stands among the next characters, up to a space or a break. -/
def hasHandle (c : Cursor) : Bool :=
  (c.step.rest.takeWhile fun ch => ch ≠ ' ' && !isBreak ch).contains '!'

/-- A tag; the cursor is at its exclamation mark. -/
def tag (c : Cursor) : Except ReadError (Token × Cursor) := do
  let (token, c) ←
    if c.peekAt? 1 = some '<' then do
      let (suffix, c) ← someSuffix (c.skip 2)
      if c.sees '>' then .ok (Token.tag none suffix, c.step) else .error .malformed
    else if c.blankAt 1 then .ok (.tag none ['!'], c.step)
    else if hasHandle c then do
      let (handle, c) ← tagHandle c
      let (suffix, c) ← someSuffix c
      .ok (.tag (some handle) suffix, c)
    else do
      let (suffix, c) ← someSuffix c.step
      .ok (.tag (some ['!']) suffix, c)
  if c.spaceAt 0 then .ok (token, c) else .error .malformed

/-- What a directive says, behind its name. -/
def directiveBody (name : Text) (c : Cursor) : Except ReadError (Directive × Cursor) :=
  if name = Text.of "YAML" then do
    let (major, c) ← number c.skipSpaces
    if !c.sees '.' then .error .malformed
    else
      let (_, c) ← number c.step
      if c.spaceAt 0 then .ok (.version major, c) else .error .malformed
  else if name = Text.of "TAG" then do
    let (handle, c) ← tagHandle c.skipSpaces
    if !c.sees ' ' then .error .malformed
    else
      let (start, c) ← someSuffix c.skipSpaces
      if c.spaceAt 0 then .ok (.tagPrefix handle start, c) else .error .malformed
  else .ok (.reserved, c.skipWhile fun ch => !isBreak ch)

/-- A directive; the cursor is at its percent sign. -/
def directive (c : Cursor) : Except ReadError (Directive × Cursor) := do
  let (name, c) ← name c.step fun c => c.spaceAt 0
  let (directive, c) ← directiveBody name c
  let c := c.skipSpaces.skipComment
  if c.lineEndsAt 0 then .ok (directive, ((c.break?).map Prod.snd).getD c) else .error .malformed

/-- Between documents: all blocks end and no key may begin. -/
def betweenDocuments (l : Lexer) : Except ReadError Lexer := do
  let l ← (l.unwind (-1)).dropKey
  .ok { l with keyAllowed := false }

def readDirective (l : Lexer) : Except ReadError Lexer := do
  let l ← l.betweenDocuments
  let (directive, place) ← directive l.place
  .ok { l.emit (.directive directive) with place }

def readDocumentMark (l : Lexer) (token : Token) : Except ReadError Lexer := do
  .ok ((← l.betweenDocuments).read 3 token)

/-- The end of the text. -/
def readEnd (l : Lexer) : Except ReadError Lexer := do
  .ok ((← l.betweenDocuments).emit .streamEnd)

def openBracket (l : Lexer) (token : Token) : Except ReadError Lexer := do
  let l ← l.markKey
  .ok ({ l with flow := l.flow + 1, keyAllowed := true }.read 1 token)

def closeBracket (l : Lexer) (token : Token) : Except ReadError Lexer := do
  let l ← l.dropKey
  .ok ({ l with flow := l.flow - 1, keyAllowed := false }.read 1 token)

def readComma (l : Lexer) : Except ReadError Lexer := do
  .ok ({ ← l.dropKey with keyAllowed := true }.read 1 .flowEntry)

def readEntry (l : Lexer) : Except ReadError Lexer := do
  if l.flow = 0 && !l.keyAllowed then .error .malformed
  else
    let l := if l.flow = 0 then l.indentHere .blockSequenceStart else l
    .ok ({ ← l.dropKey with keyAllowed := true }.read 1 .blockEntry)

def readKey (l : Lexer) : Except ReadError Lexer := do
  if l.flow = 0 && !l.keyAllowed then .error .malformed
  else
    let l := if l.flow = 0 then l.indentHere .blockMappingStart else l
    .ok ({ ← l.dropKey with keyAllowed := l.flow = 0 }.read 1 .key)

/-- A colon. It makes a key of what may have been one, and begins a mapping there. -/
def readValue (l : Lexer) : Except ReadError Lexer := do
  match l.key? with
  | some key =>
    let l := l.withoutKey.insert key.token .key
    let l := if l.flow = 0 then l.indentTo key.place.column key.token .blockMappingStart else l
    .ok ({ l with keyAllowed := false }.read 1 .value)
  | none =>
    if l.flow = 0 && !l.keyAllowed then .error .malformed
    else
      let l := if l.flow = 0 then l.indentHere .blockMappingStart else l
      .ok ({ l with keyAllowed := l.flow = 0 }.read 1 .value)

/-- A token that may begin a key. -/
def readNamed (l : Lexer) (token : Cursor → Except ReadError (Token × Cursor)) :
    Except ReadError Lexer := do
  let l ← l.markKey
  let (token, place) ← token l.place
  .ok { l.emit token with place, keyAllowed := false }

def readBlock (l : Lexer) (fold : Bool) : Except ReadError Lexer := do
  let l ← l.dropKey
  let (text, place) ← l.place.blockScalar fold l.indent
  .ok { l.emit (.scalar text false) with place, keyAllowed := true }

def readPlain (l : Lexer) : Except ReadError Lexer := do
  let l ← l.markKey
  let (text, place, ended) := l.place.plain (l.flow ≠ 0) (l.indent + 1).toNat
  .ok { l.emit (.scalar text true) with place, keyAllowed := ended }

/-- Whether a plain scalar may begin at a place. -/
def plainStarts (flow : Bool) (c : Cursor) : Bool :=
  match c.rest with
  | [] => false
  | first :: _ =>
    !(c.blankAt 0 || (Text.of "-?:,[]\x7b\x7d#&*!|>'\"%@\x60").contains first) ||
      (!c.blankAt 1 && (first == '-' || (!flow && (first == '?' || first == ':'))))

/-- Read the token at a place behind white space. -/
def readToken (l : Lexer) : Except ReadError Lexer :=
  let c := l.place
  let inFlow := l.flow ≠ 0
  let lineStart := c.column = 0
  match c.rest with
  | [] => l.readEnd
  | first :: _ =>
    if first == '%' && lineStart then l.readDirective
    else if lineStart && c.seesMark '-' then l.readDocumentMark .documentStart
    else if lineStart && c.seesMark '.' then l.readDocumentMark .documentEnd
    else if first == '[' then l.openBracket .flowSequenceStart
    else if first == '\x7b' then l.openBracket .flowMappingStart
    else if first == ']' then l.closeBracket .flowSequenceEnd
    else if first == '\x7d' then l.closeBracket .flowMappingEnd
    else if first == ',' then l.readComma
    else if first == '-' && c.blankAt 1 then l.readEntry
    else if first == '?' && (inFlow || c.blankAt 1) then l.readKey
    else if first == ':' && (inFlow || c.blankAt 1) then l.readValue
    else if first == '*' then l.readNamed fun c => do
      let (name, c) ← name c.step endsAnchor
      .ok (.reference name, c)
    else if first == '&' then l.readNamed fun c => do
      let (name, c) ← name c.step endsAnchor
      .ok (.anchor name, c)
    else if first == '!' then l.readNamed tag
    else if first == '|' && !inFlow then l.readBlock false
    else if first == '>' && !inFlow then l.readBlock true
    else if first == '\'' || first == '"' then l.readNamed fun c => do
      let (text, c) ← c.quotedScalar first
      .ok (.scalar text false, c)
    else if plainStarts inFlow c then l.readPlain
    else .error .malformed

/-- One token further, with the white space in front of it. -/
def next (l : Lexer) : Except ReadError Lexer := do
  let l ← (l.skipBlank (l.place.rest.length + 1)).dropStale
  (l.unwind l.place.column).readToken

/-- The tokens in front of which no key can begin any more. -/
def settled (l : Lexer) : List Token :=
  let known := l.keys.foldl (fun n entry => min n entry.2.token) l.tokens.length
  l.tokens.reverse.take known

/-- All tokens from a state on. -/
def run : (fuel : Nat) → Lexer → List Token
  | 0, l => l.settled
  | fuel + 1, l =>
    match l.next with
    | .error e => l.settled ++ [.broken e]
    | .ok next =>
      match next.tokens with
      | .streamEnd :: _ => next.tokens.reverse
      | _ => run fuel next

end Lexer

/-- The tokens of a document. A document that begins with a byte order mark has it taken off, and
one that holds a character it may not hold has no other token. -/
def Token.ofText (t : Text) : List Token :=
  if t.all isPrintable then
    let l := Lexer.start t
    let l := if l.place.sees '\uFEFF' then { l with place := l.place.step } else l
    l.run (t.length + 2)
  else [.broken .malformed]

end DreamJournal.Yaml
