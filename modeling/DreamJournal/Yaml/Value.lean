import DreamJournal.Datum
import DreamJournal.Yaml.Node

/-!
# Values of nodes

A node becomes a datum by its tag. A mapping takes over the entries of the mappings under its
merge keys, in front of its own; of several values under one key the last counts.

Nodes become data in turn. A scalar becomes a leaf at once, and a collection an empty cell, which
is filled when all collections that began before it are filled. So a collection can be a part of
itself, and of several faults the one that counts is the shallowest, and of equally shallow ones
the first.
-/
namespace DreamJournal.Yaml

namespace Scalar

def fault {α : Type} (kind message : Text) : Except ReadError α := .error (.fault ⟨kind, message⟩)

def badValue {α : Type} (message : Text) : Except ReadError α :=
  fault (Text.of "ValueError") message

def noDigit {α : Type} : Except ReadError α :=
  fault (Text.of "IndexError") (Text.of "string index out of range")

/-- The value of a letter or digit as a digit. -/
def digitValue? (c : Char) : Option Nat :=
  match Text.decimalValue? c with
  | some n => some n
  | none =>
    if 'a' ≤ c.toLower && c.toLower ≤ 'z' then some (c.toLower.toNat - 'a'.toNat + 10) else none

/-- What follows the mark of a base, where there is one. -/
def afterBaseMark (base : Nat) (t : Text) : Text :=
  match base, t with
  | 2, '0' :: 'b' :: rest | 2, '0' :: 'B' :: rest => rest
  | 8, '0' :: 'o' :: rest | 8, '0' :: 'O' :: rest => rest
  | 16, '0' :: 'x' :: rest | 16, '0' :: 'X' :: rest => rest
  | _, _ => t

/-- The whole number that a text spells in a base. Only in base ten is its length limited. -/
def intOf (base : Nat) (t : Text) : Except ReadError Int :=
  let bare := Text.trimBoth Double.mayEnclose t
  let (negative, size) := match bare with
    | '-' :: rest => (true, rest)
    | '+' :: rest => (false, rest)
    | _ => (false, bare)
  let digits := (afterBaseMark base size).map digitValue?
  if digits.isEmpty || digits.any fun d => base ≤ d.getD base then
    badValue (Text.of "invalid literal for int() with base " ++ Text.ofNat base ++ Text.of ": " ++
      (Text.quoted t).take 200)
  else if base = 10 && digitLimit < digits.length then
    badValue (TooManyDigits.message ⟨digits.length⟩)
  else
    let n : Int := digits.foldl (fun n d => base * n + d.getD 0) 0
    .ok (if negative then -n else n)

/-- A text without underscores, and its sign taken off. -/
def signed (t : Text) : Except ReadError (Bool × Text) :=
  match t.filter (· ≠ '_') with
  | [] => noDigit
  | '-' :: rest => .ok (true, rest)
  | '+' :: rest => .ok (false, rest)
  | size => .ok (false, size)

/-- A whole number without its sign. -/
def unsignedInt (t : Text) : Except ReadError Int :=
  match t with
  | [] => noDigit
  | ['0'] => .ok 0
  | '0' :: 'b' :: rest => intOf 2 rest
  | '0' :: 'x' :: rest => intOf 16 rest
  | '0' :: _ => intOf 8 t
  | _ =>
    if t.contains ':' then do
      let groups ← (Text.splitOn ':' t).mapM (intOf 10)
      .ok (groups.foldl (fun n group => 60 * n + group) 0)
    else intOf 10 t

def int (t : Text) : Except ReadError Datum := do
  let (negative, size) ← signed t
  let n ← unsignedInt size
  .ok (.int (if negative then -n else n))

def floatOf (t : Text) : Except ReadError Double :=
  match Double.ofText? t with
  | some d => .ok d
  | none => badValue (Text.of "could not convert string to float: " ++ Text.quoted t)

/-- The number that groups of sixty spell, the last group first, added to a sum. -/
def addGroups (base : Int) (sum : Double) : List Double → Except ReadError Double
  | [] => .ok sum
  | group :: rest =>
    match Double.ofInt? base with
    | some factor => addGroups (60 * base) (Double.add sum (Double.mul group factor)) rest
    | none => fault (Text.of "OverflowError") (Text.of "int too large to convert to float")

def unsignedFloat (t : Text) : Except ReadError Double :=
  if t = Text.of ".inf" then .ok (.infinity false)
  else if t = Text.of ".nan" then .ok .nan
  else if t.contains ':' then do
    addGroups 1 (Double.zero false) (← (Text.splitOn ':' t).mapM floatOf).reverse
  else floatOf t

def float (t : Text) : Except ReadError Datum := do
  let (negative, size) ← signed (Text.lower t)
  let d ← unsignedFloat size
  .ok (.real (if negative then d.neg else d))

/-- The flags by their words. -/
def flags : List (String × Bool) :=
  [("yes", true), ("no", false), ("true", true), ("false", false), ("on", true), ("off", false)]

def bool (t : Text) : Except ReadError Datum :=
  let word := Text.lower t
  match flags.find? fun entry => Text.of entry.1 = word with
  | some (_, flag) => .ok (.bool flag)
  | none => fault (Text.of "KeyError") (Text.quoted word)

/-- What is said of a distance from universal time of a day or more. -/
def wideZone (minutes : Int) : Text :=
  Text.of ("offset must be a timedelta strictly between -timedelta(hours=24) and " ++
    "timedelta(hours=24), not ") ++ Moment.spanText minutes ++ ['.']

/-- The distance from universal time in minutes. -/
def zoneMinutes (zone : Char × Text × Text) : Except ReadError Int :=
  let (sign, hours, minutes) := zone
  let size : Int := 60 * Text.decimalNumber hours + Text.decimalNumber minutes
  let minutes := if sign = '-' then -size else size
  if 1440 ≤ size then badValue (wideZone minutes) else .ok minutes

/-- A point in time from its parts. -/
def ofTimeParts (parts : Tag.TimeParts) : Except ReadError Datum := do
  let number (t : Text) : Nat := Text.decimalNumber t
  let dateOf : Except ReadError Date :=
    match Date.ofInts (number parts.year) (number parts.month) (number parts.day) with
    | .ok date => .ok date
    | .error fault => badValue fault.message
  match parts.time with
  | none => .ok (.date (← dateOf))
  | some (hour, minute, second, fraction) =>
    let offset ← parts.zone.mapM zoneMinutes
    let digits := fraction.take 6
    let microsecond := number (digits ++ List.replicate (6 - digits.length) '0')
    let date ← dateOf
    if 24 ≤ number hour then badValue (Text.of "hour must be in 0..23")
    else if 60 ≤ number minute then badValue (Text.of "minute must be in 0..59")
    else if 60 ≤ number second then badValue (Text.of "second must be in 0..59")
    else .ok (.moment ⟨date, number hour, number minute, number second, microsecond, offset⟩)

def timestamp (t : Text) : Except ReadError Datum :=
  match Tag.timeParts? t with
  | some parts => ofTimeParts parts
  | none =>
    fault (Text.of "AttributeError") (Text.of "'NoneType' object has no attribute 'groupdict'")

/-- The value of a character in base 64. -/
def base64Value? (c : Char) : Option Nat :=
  if 'A' ≤ c && c ≤ 'Z' then some (c.toNat - 'A'.toNat)
  else if 'a' ≤ c && c ≤ 'z' then some (c.toNat - 'a'.toNat + 26)
  else if '0' ≤ c && c ≤ '9' then some (c.toNat - '0'.toNat + 52)
  else if c = '+' then some 62
  else if c = '/' then some 63
  else none

/-- The octets that characters in base 64 encode, from the place in a group of four on: `held` is
what the group has given so far, and `pads` how many signs of equality stand in it. Characters
that are none are passed over. -/
def base64From (place held pads : Nat) : Text → Option (List UInt8)
  | [] => if place = 0 then some [] else none
  | c :: rest =>
    if c = '=' then
      if 2 ≤ place && 4 ≤ place + pads + 1 then some []
      else base64From place held (if 2 ≤ place then pads + 1 else pads) rest
    else
      match base64Value? c with
      | none => base64From place held pads rest
      | some value =>
        match place with
        | 0 => base64From 1 value 0 rest
        | 1 => (base64From 2 (value % 16) 0 rest).map (UInt8.ofNat (held * 4 + value / 16) :: ·)
        | 2 => (base64From 3 (value % 4) 0 rest).map (UInt8.ofNat (held * 16 + value / 4) :: ·)
        | _ => (base64From 0 0 0 rest).map (UInt8.ofNat (held * 64 + value) :: ·)

def binary (t : Text) : Except ReadError Datum :=
  if t.all fun c => c.toNat < 0x80 then
    match base64From 0 0 0 t with
    | some octets => .ok (.bytes octets)
    | none => .error .malformed
  else .error .malformed

/-- The datum of a scalar with a tag for scalars. -/
def datum (tag : Tag) (t : Text) : Except ReadError Datum :=
  match tag with
  | .null => .ok .null
  | .bool => bool t
  | .int => int t
  | .float => float t
  | .binary => binary t
  | .timestamp => timestamp t
  | .text => .ok (.text t)
  | _ => .error .malformed

end Scalar

namespace Node

def tag : Node → Tag
  | scalar tag _ => tag
  | sequence tag _ => tag
  | mapping tag _ => tag

def isMapping : Node → Bool
  | mapping _ _ => true
  | _ => false

/-- The entries of a mapping. -/
def entries : Node → List (Nat × Nat)
  | mapping _ entries => entries
  | _ => []

/-- A node with another tag. -/
def retag (tag : Tag) : Node → Node
  | scalar _ text => scalar tag text
  | sequence _ items => sequence tag items
  | mapping _ entries => mapping tag entries

end Node

namespace Graph

def node (g : Graph) (n : Nat) : Node := g.nodes.getD n Node.blank

def tag (g : Graph) (n : Nat) : Tag := (g.node n).tag

def change (g : Graph) (n : Nat) (f : Node → Node) : Graph := ⟨g.nodes.modify n f⟩

def entries (g : Graph) (n : Nat) : List (Nat × Nat) := (g.node n).entries

/-- The value of the first merge key, and the other entries. -/
def cutMerge? (g : Graph) : List (Nat × Nat) → Option (Nat × List (Nat × Nat))
  | [] => none
  | (key, value) :: rest =>
    if g.tag key = .merge then some (value, rest)
    else (g.cutMerge? rest).map fun (found, others) => (found, (key, value) :: others)

/-- The mappings that a value of a merge key stands for. -/
def sources? (g : Graph) (n : Nat) : Option (List Nat) :=
  match g.node n with
  | .mapping _ _ => some [n]
  | .sequence _ items => if items.all fun item => (g.node item).isMapping then some items else none
  | .scalar _ _ => none

/-- A default key of a mapping is a text like any other. -/
def withTextKeys (g : Graph) (n : Nat) : Graph :=
  (g.entries n).foldl (fun g entry =>
    if g.tag entry.1 = .default then g.change entry.1 (Node.retag .text) else g) g

/-- Let a mapping take over the entries under its merge keys, of which `taken` are known. A merge
key is gone before its value is looked at, so the number of entries bounds the depth, even where a
mapping merges itself. -/
def merge? : (fuel : Nat) → (n : Nat) → (taken : List (Nat × Nat)) → Graph → Option Graph
  | 0, _, _, _ => none
  | fuel + 1, n, taken, g =>
    match g.cutMerge? (g.entries n) with
    | none =>
      let entries := taken ++ g.entries n
      some ((g.change n fun node => .mapping node.tag entries).withTextKeys n)
    | some (value, others) => do
      let g := g.change n fun node => .mapping node.tag others
      -- the last of several mappings comes first
      let (g, more) ← (← g.sources? value).foldlM (fun (g, more) source => do
        let g ← merge? fuel source [] g
        some (g, g.entries source ++ more)) (g, [])
      merge? fuel n (taken ++ more) g

/-- A mapping with the entries that it takes over. -/
def merged? (g : Graph) (n : Nat) : Option Graph :=
  merge? (g.nodes.foldl (fun count node => count + node.entries.length) 1) n [] g

/-- The text that a node stands for as a scalar: its own, or that under the default key. A way
longer than there are nodes never ends. -/
def scalarText (g : Graph) : (fuel : Nat) → (n : Nat) → Except ReadError Text
  | 0, _ => .error (.fault .endless)
  | fuel + 1, n =>
    match g.node n with
    | .scalar _ text => .ok text
    | .sequence _ _ => .error .malformed
    | .mapping _ entries =>
      match entries.find? fun entry => g.tag entry.1 = .default with
      | some (_, value) => scalarText g fuel value
      | none => .error .malformed

/-- The datum of a node that is no collection. A point in time is read from the node itself. -/
def scalar (g : Graph) (n : Nat) : Except ReadError Datum := do
  let text ← g.scalarText (g.nodes.length + 1) n
  match g.tag n, g.node n with
  | .timestamp, .mapping _ _ =>
    Scalar.fault (Text.of "TypeError") (Text.of "expected string or bytes-like object, got 'list'")
  | tag, _ => Scalar.datum tag text

end Graph

/-- What has been made of a graph. -/
structure Making where
  graph : Graph
  cells : Web
  leaves : List Datum
  /-- What has become of nodes. -/
  parts : OrderedMap Nat Web.Part
  /-- The collections that are to be filled, with their cells. -/
  waiting : List (Nat × Nat)

namespace Making

/-- One step of turning nodes into data. -/
abbrev Maker := StateT Making (Except ReadError)

def malformed {α : Type} : Maker α := throw .malformed

def addLeaf (d : Datum) : Maker Web.Part := do
  let s ← get
  set { s with leaves := s.leaves ++ [d] }
  return .leaf s.leaves.length

def addCell (cell : Web.Cell) : Maker Nat := do
  let s ← get
  set { s with cells := ⟨s.cells.cells ++ [cell]⟩ }
  return s.cells.cells.length

/-- What a node becomes where it comes for the first time. -/
def make (n : Nat) : Maker Web.Part := do
  let g := (← get).graph
  if (g.tag n).isCollection then
    let cell ← addCell (.list [])
    modify fun s => { s with waiting := s.waiting ++ [(n, cell)] }
    return .cell cell
  else addLeaf (← g.scalar n)

/-- What a node becomes. -/
def part (n : Nat) : Maker Web.Part := do
  match (← get).parts.get? n with
  | some part => return part
  | none =>
    let part ← make n
    modify fun s => { s with parts := s.parts.put n part }
    return part

/-- A collection can be no key. -/
def key (n : Nat) : Maker Nat := do
  match ← part n with
  | .leaf leaf => return leaf
  | .cell _ => malformed

/-- Put an entry into a map. A known key keeps its place and its spelling. -/
def putEntry (leaves : List Datum) (key : Nat) (value : Web.Part) :
    List (Nat × Web.Part) → List (Nat × Web.Part)
  | [] => [(key, value)]
  | (known, old) :: rest =>
    if known = key || (leaves.getD known .null).sameKey (leaves.getD key .null) then
      (known, value) :: rest
    else (known, old) :: putEntry leaves key value rest

/-- The entries of a map with distinct keys. -/
def entries (n : Nat) : Maker (List (Nat × Web.Part)) := do
  let g := (← get).graph
  match (if (g.node n).isMapping then g.merged? n else none) with
  | none => malformed
  | some g =>
    modify fun s => { s with graph := g }
    let entries ← (g.entries n).mapM fun entry => do
      let key ← key entry.1
      return (key, ← part entry.2)
    let leaves := (← get).leaves
    return entries.foldl (fun known entry => putEntry leaves entry.1 entry.2 known) []

/-- The items of a sequence. -/
def items (n : Nat) : Maker (List Nat) := do
  match (← get).graph.node n with
  | .sequence _ items => return items
  | _ => malformed

/-- A mapping with one entry as a pair. -/
def pair (n : Nat) : Maker Web.Part := do
  match (← get).graph.node n with
  | .mapping _ [(key, value)] =>
    let key ← part key
    let value ← part value
    return .cell (← addCell (.tuple [key, value]))
  | _ => malformed

/-- What a collection holds. -/
def content (n : Nat) : Maker Web.Cell := do
  match (← get).graph.tag n with
  | .mapping => return .map (← entries n)
  | .set => return .set ((← entries n).map Prod.fst)
  | .sequence => return .list (← (← items n).mapM part)
  | _ => return .list (← (← items n).mapM pair)

/-- Fill all collections. Every node is filled once. -/
def fillAll : (fuel : Nat) → Maker Unit
  | 0 => return
  | fuel + 1 => do
    match (← get).waiting with
    | [] => return
    | (n, cell) :: rest =>
      modify fun s => { s with waiting := rest }
      let content ← content n
      modify fun s => { s with cells := ⟨s.cells.cells.set cell content⟩ }
      fillAll fuel

end Making

/-- A part of a web as a tree; none if it is deeper than that. -/
def tree? (cells : Web) (leaves : List Datum) : (depth : Nat) → Web.Part → Option Datum
  | _, .leaf n => some (leaves.getD n .null)
  | 0, .cell _ => none
  | depth + 1, .cell n =>
    let inside : Web.Part → Option Datum := tree? cells leaves depth
    match cells.cell n with
    | .list items => (items.mapM inside).map .list
    | .tuple items => (items.mapM inside).map .tuple
    | .set items => some (.set (items.map fun item => leaves.getD item .null))
    | .map entries =>
      (entries.mapM fun (key, value) =>
        (inside value).map fun value => (leaves.getD key .null, value)).map .map

/-- The datum of a document. It is a tree unless a collection holds itself. -/
def Document.toDatum (d : Document) : Except ReadError Datum := do
  let made : Making.Maker Web.Part := do
    let start ← Making.part d.root
    Making.fillAll d.graph.nodes.length
    return start
  let (start, s) ← made.run ⟨d.graph, ⟨[]⟩, [], [], []⟩
  .ok ((tree? s.cells s.leaves s.cells.cells.length start).getD (.part s.cells s.leaves start))

/-- The datum that a text holds; nothing for a text that holds no document. -/
def read (t : Text) : Except ReadError Datum := do
  match ← Document.ofText t with
  | some document => document.toDatum
  | none => .ok .null

end DreamJournal.Yaml
