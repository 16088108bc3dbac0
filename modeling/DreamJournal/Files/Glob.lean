import DreamJournal.Text.Basic

/-!
# Glob patterns

In a pattern a star stands for any text, a question mark for any character, and brackets for one
of the characters between them, or none of these behind an exclamation mark. Everything else
stands for itself, an opening bracket that is never closed included. Nothing is special about
slashes: a star reaches across folders.

Between brackets, two characters with a hyphen between them are a range. A range whose ends are
in the wrong order holds nothing.
-/
namespace DreamJournal

namespace Glob

/-- What one piece of a pattern stands for. -/
inductive Piece where
  | anyText
  | anyChar
  | oneOf (negated : Bool) (ranges : List (Char × Char))
  | exactly (c : Char)
  deriving DecidableEq, Repr

/-- The ranges between brackets; a single character is a range of its own. -/
def rangesOf : Text → List (Char × Char)
  | first :: '-' :: last :: rest => (first, last) :: rangesOf rest
  | c :: rest => (c, c) :: rangesOf rest
  | [] => []

/-- The piece for what stands between two brackets. Empty ranges are dropped first, so that an
exclamation mark behind them is still in front. -/
def bracket (inside : Text) : Piece :=
  let held (ranges : List (Char × Char)) : List (Char × Char) :=
    ranges.filter fun (first, last) => first.toNat ≤ last.toNat
  match inside with
  | '!' :: rest => .oneOf true (held (rangesOf rest))
  | _ =>
    match held (rangesOf inside) with
    | ('!', '!') :: ranges => .oneOf true ranges
    | ranges => .oneOf false ranges

/-- What stands before the closing bracket and what stands behind it. A closing bracket that
comes first, or directly behind the exclamation mark, stands for itself. -/
def bracket? (t : Text) : Option (Text × Text) :=
  let first : Text :=
    match t with
    | '!' :: ']' :: _ => ['!', ']']
    | ']' :: _ => [']']
    | _ => []
  (Text.cut? ']' (t.drop first.length)).map fun (inside, rest) => (first ++ inside, rest)

/-- The pieces of a pattern, `skip` characters of which are already used. -/
def piecesFrom : (skip : Nat) → Text → List Piece
  | _, [] => []
  | skip + 1, _ :: rest => piecesFrom skip rest
  | 0, '*' :: rest => .anyText :: piecesFrom 0 rest
  | 0, '?' :: rest => .anyChar :: piecesFrom 0 rest
  | 0, '[' :: rest =>
    match bracket? rest with
    | some (inside, _) => bracket inside :: piecesFrom (inside.length + 1) rest
    | none => .exactly '[' :: piecesFrom 0 rest
  | 0, c :: rest => .exactly c :: piecesFrom 0 rest

/-- The pieces of a pattern. -/
def pieces (pattern : Text) : List Piece := piecesFrom 0 pattern

/-- Whether a piece stands for a character. -/
def Piece.admits (piece : Piece) (c : Char) : Bool :=
  match piece with
  | .anyText | .anyChar => true
  | .oneOf negated ranges =>
    (ranges.any fun (first, last) => first.toNat ≤ c.toNat && c.toNat ≤ last.toNat) != negated
  | .exactly own => own = c

/-- Whether pieces stand for a whole text. -/
def stand (ps : List Piece) (t : Text) : Bool :=
  match ps, t with
  | [], t => t.isEmpty
  | .anyText :: more, [] => stand more []
  | .anyText :: more, c :: rest => stand more (c :: rest) || stand (.anyText :: more) rest
  | _ :: _, [] => false
  | piece :: more, c :: rest => piece.admits c && stand more rest
  termination_by ps.length + t.length

/-- Whether a pattern stands for a text. -/
def covers (pattern t : Text) : Bool := stand (pieces pattern) t

end Glob
end DreamJournal
