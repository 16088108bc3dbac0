import DreamJournal.Files.Basic
import DreamJournal.Files.Glob
import DreamJournal.Settings.Basic

/-!
# Selecting notes

Notes are named one by one or by the folders that hold them. From a folder the files that match
a pattern are taken in the order of their paths, without those that are excluded; only then are
they counted. An exclusion covers a note when it matches its path or that of any folder around
it, both seen from the chosen folder, so an excluded folder excludes all that it holds.
-/
namespace DreamJournal

/-- An exclusion without the space and the slashes around it. -/
def bareExclusion (written : Text) : Text := Text.trimBoth (· == '/') (Text.trim written)

/-- The texts of a path and of the folders that it leads through. -/
def Path.places (p : Path) : List Text :=
  p.toText :: (p.ancestors.map Path.toText).filter fun place => place != ['.']

/-- Whether an exclusion covers a path or a folder around it. A blank one covers nothing. -/
def Path.isExcludedBy (p : Path) (exclusion : Text) : Bool :=
  let bare := bareExclusion exclusion
  !bare.isEmpty && p.places.any (Glob.covers bare)

/-- Whether any of some exclusions covers a path. -/
def Path.isExcluded (p : Path) (exclusions : List Text) : Bool := exclusions.any p.isExcludedBy

/-- Why a pattern selects no files. -/
inductive PatternFault where
  | empty
  | rooted
  | noComponent
  | onlySlash
  | mixedStars
  deriving DecidableEq, Repr

def PatternFault.message : PatternFault → Text
  | empty => Text.of "Unacceptable pattern: ''"
  | rooted => Text.of "Non-relative patterns are unsupported"
  | noComponent => Text.of "tuple index out of range"
  | onlySlash => Text.of "'_TerminatingSelector' object has no attribute 'select_from'"
  | mixedStars => Text.of "Invalid pattern: '**' can only be an entire path component"

def PatternFault.kind : PatternFault → String
  | empty | mixedStars => "ValueError"
  | rooted => "NotImplementedError"
  | noComponent => "IndexError"
  | onlySlash => "AttributeError"

namespace Files

def twoStars : Text := ['*', '*']

/-- The files that the components of a pattern lead to from a place, by the components of the paths
that lead there. Two dots lead up, two stars into the place and any folder below, and everything
else to the names that it covers. A file may be found more than once. -/
def reached (files : Files) : (pattern place : List Text) → List (List Text)
  | [], place =>
    match stored? files place with
    | some (.file _) => [[]]
    | _ => []
  | part :: more, place =>
    if stored? files place ≠ some .folder then []
    else if part = twoDots then
      match around? place with
      | some outer => (reached files more outer).map (part :: ·)
      | none => []
    else if part = twoStars then
      (folders files place).flatMap fun front =>
        (reached files more (place ++ front)).map (front ++ ·)
    else
      ((names files place).filter (Glob.covers part)).flatMap fun name =>
        (reached files more (place ++ [name])).map (name :: ·)

/-- The components of a pattern. -/
def patternParts (pattern : Text) : Except PatternFault (List Text) :=
  let path := Path.ofText pattern
  if pattern.isEmpty then .error .empty
  else if !path.root.isEmpty then .error .rooted
  else if path.parts.isEmpty then
    .error (if pattern.getLast? = some '/' then .onlySlash else .noComponent)
  else if path.parts.any fun part => part ≠ twoStars && Text.occursIn twoStars part then
    .error .mixedStars
  else .ok path.parts

/-- The pattern of all notes in a folder. -/
def notes : Text := Text.of "**/*.md"

/-- The first of some items, or all but the last when the count is below zero. -/
def takeCount (count : Option Int) (items : List Path) : List Path :=
  match count with
  | none => items
  | some (.ofNat n) => items.take n
  | some (.negSucc n) => items.take (items.length - (n + 1))

/-- The files that the components of a pattern lead to from a folder and that are not excluded. -/
def select (files : Files) (folder : Path) (place parts exclude : List Text) : List Path :=
  let found := (reached files parts place).eraseDups.filter fun rest =>
    !(Path.mk [] rest).isExcluded exclude
  (found.mergeSort Path.partsLe).map folder.append

/-- The files that are taken from a folder; none when it is no folder. -/
def journalFiles (files : Files) (folder : Path) (exclude : List Text) (count : Option Int)
    (pattern : Text) : Except PatternFault (List Path) :=
  match locate files folder with
  | .error _ => .ok []
  | .ok place =>
    if stored? files place = some .folder then do
      let parts ← patternParts pattern
      if pattern.getLast? = some '/' then .ok []
      else .ok (takeCount count (files.select folder place parts exclude))
    else .ok []

/-- The notes that some paths name, folders by the notes in them. -/
def collect (files : Files) (settings : Settings) (paths : List Path) : List Path :=
  paths.flatMap fun path =>
    match locate files path with
    | .error _ => [path]
    | .ok place =>
      if stored? files place = some .folder then
        takeCount settings.maxFiles
          (files.select path place [twoStars, Text.of "*.md"] settings.exclude)
      else [path]

end Files
end DreamJournal
