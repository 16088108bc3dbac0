import DreamJournal.Callout.Marker
import DreamJournal.Callout.Reference

/-!
# Line rules of a narrative

The rules that look at whole lines: headers of nested callouts, block references, quote markers,
code fences, heading marks and horizontal rules. Each treats every line by itself, so a text is
cleaned by cleaning its lines, and no rule can see past a line feed.
-/
namespace DreamJournal.Narrative

/-- Apply a rule to every line of a text. -/
def mapLines (rule : Text → Text) (t : Text) : Text :=
  Text.joinLines ((Text.splitOn '\n' t).map rule)

/-- A quoted line whose content is a closed tag. Outside a quote a tag is narrative. -/
def isDirective (line : Text) : Bool :=
  Marker.count line ≠ 0 &&
    match Marker.strip line with
    | '[' :: '!' :: rest => rest.contains ']'
    | _ => false

/-- Empty the lines that are headers of nested callouts and drop trailing block references. -/
def removeDirectives (t : Text) : Text :=
  Reference.remove (mapLines (fun line => if isDirective line then [] else line) t)

/-- Drop the quote markers of every line. -/
def stripQuotes (t : Text) : Text := mapLines Marker.strip t

/-- A line that opens or closes a block of code. -/
def isFence (line : Text) : Bool :=
  match line.dropWhile Text.isGap with
  | a :: b :: c :: _ => a == b && b == c && (a == '\x60' || a == '~')
  | _ => false

/-- A line without the mark of a heading: one to six hashes and a gap behind them. -/
def stripHeading (line : Text) : Text :=
  let written := line.dropWhile Text.isGap
  let hashes := (written.takeWhile (· == '#')).length
  match written.drop hashes with
  | c :: rest =>
    if 1 ≤ hashes && hashes ≤ 6 && Text.isGap c then rest.dropWhile Text.isGap else line
  | [] => line

/-- Empty the fences of code blocks and drop heading marks. -/
def stripBlockMarkup (t : Text) : Text :=
  mapLines stripHeading (mapLines (fun line => if isFence line then [] else line) t)

/-- A line of at least three hyphens, stars or underscores, all the same. -/
def isRule (line : Text) : Bool :=
  match Text.trimBoth Text.isGap line with
  | c :: rest => (c == '-' || c == '*' || c == '_') && 2 ≤ rest.length && rest.all (· == c)
  | [] => false

/-- Empty the lines that are horizontal rules. -/
def removeRules (t : Text) : Text := mapLines (fun line => if isRule line then [] else line) t

end DreamJournal.Narrative
