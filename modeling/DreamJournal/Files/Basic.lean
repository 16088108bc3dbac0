import DreamJournal.Fault
import DreamJournal.Files.Path
import DreamJournal.OrderedMap
import DreamJournal.Text.Quoted
import DreamJournal.Text.Utf8

/-!
# Files and folders

The files that a run can see: what stands at every place below the working directory or below a
root. Whatever holds something is a folder. A path may lead up with two dots, but only out of
folders that are there, and never beyond the working directory, of whose surroundings nothing is
known.
-/
namespace DreamJournal

/-- What stands at a path. -/
inductive Stored where
  | file (octets : List UInt8)
  | folder
  deriving DecidableEq, Repr

/-- What stands at places. A place is the list of the components that lead there, behind the root
if it is not below the working directory. -/
abbrev Files := OrderedMap (List Text) Stored

/-- Why a file or folder cannot be used. -/
inductive FileFault where
  | notFound
  | taken
  | notAFolder
  | isFolder
  deriving DecidableEq, Repr

def FileFault.label : FileFault → String
  | notFound => "[Errno 2] No such file or directory"
  | taken => "[Errno 17] File exists"
  | notAFolder => "[Errno 20] Not a directory"
  | isFolder => "[Errno 21] Is a directory"

/-- What is said of a path that cannot be used. -/
def FileFault.message (fault : FileFault) (path : Path) : Text :=
  Text.of fault.label ++ Text.of ": " ++ Text.quoted path.toText

/-- The name of the kind of error in reports. -/
def FileFault.kind : FileFault → String
  | notFound => "FileNotFoundError"
  | taken => "FileExistsError"
  | notAFolder => "NotADirectoryError"
  | isFolder => "IsADirectoryError"

def FileFault.toFault (fault : FileFault) (path : Path) : Fault :=
  ⟨Text.of fault.kind, fault.message path⟩

namespace Files

/-- What stands at a place; the working directory is a folder. -/
def stored? (files : Files) (parts : List Text) : Option Stored :=
  match parts with
  | [] => some .folder
  | _ => OrderedMap.get? files parts

def twoDots : Text := ['.', '.']

/-- The place around another one. A root is its own surroundings; of those of the working
directory nothing is known. -/
def around? : (place : List Text) → Option (List Text)
  | [] => none
  | [['/']] | [['/', '/']] => some [['/']]
  | place => some place.dropLast

/-- Follow components from a place. -/
def follow (files : Files) (here : List Text) : List Text → Except FileFault (List Text)
  | [] => .ok here
  | part :: rest =>
    match stored? files here with
    | none => .error .notFound
    | some (.file _) => .error .notAFolder
    | some .folder =>
      if part = twoDots then
        match around? here with
        | some outer => follow files outer rest
        | none => .error .notFound
      else follow files (here ++ [part]) rest

/-- The place from which a path leads. -/
def origin (path : Path) : List Text := if path.root.isEmpty then [] else [path.root]

/-- The place that a path leads to, whether or not something stands there. -/
def locate (files : Files) (path : Path) : Except FileFault (List Text) :=
  follow files (origin path) path.parts

/-- What stands at a path. -/
def at? (files : Files) (path : Path) : Option Stored :=
  match locate files path with
  | .ok parts => stored? files parts
  | .error _ => none

def isFolder (files : Files) (path : Path) : Bool := files.at? path = some .folder

def isFile (files : Files) (path : Path) : Bool := files.at? path matches some (.file _)

/-- The octets of a file. -/
def read (files : Files) (path : Path) : Except FileFault (List UInt8) := do
  match stored? files (← locate files path) with
  | some (.file octets) => .ok octets
  | some .folder => .error .isFolder
  | none => .error .notFound

/-- Put folders where components lead from a place, as far as nothing stands there. -/
def addFolders (files : Files) (here : List Text) : List Text → Except FileFault Files
  | [] => .ok files
  | part :: rest =>
    if part = twoDots then
      match around? here with
      | some outer => addFolders files outer rest
      | none => .error .notFound
    else
      let next := here ++ [part]
      match stored? files next with
      | some .folder => addFolders files next rest
      | some (.file _) => .error (if rest.isEmpty then .taken else .notAFolder)
      | none => addFolders (OrderedMap.put files next .folder) next rest

/-- Make a folder and all folders on the way to it. -/
def makeFolder (files : Files) (path : Path) : Except FileFault Files :=
  addFolders files (origin path) path.parts

/-- Write a file into a folder that is there. -/
def write (files : Files) (path : Path) (octets : List UInt8) : Except FileFault Files := do
  let parts ← locate files path
  match stored? files parts with
  | some .folder => .error .isFolder
  | some (.file _) => .ok (OrderedMap.put files parts (.file octets))
  | none =>
    if stored? files parts.dropLast = some .folder then
      .ok (OrderedMap.put files parts (.file octets))
    else .error .notFound

/-- Put a file at a path, with all folders on the way to it. -/
def store (files : Files) (path : Path) (octets : List UInt8) : Except FileFault Files := do
  write (← makeFolder files path.parent) path octets

/-- Whether a place is below a root. -/
def isRooted : (place : List Text) → Bool
  | ('/' :: _) :: _ => true
  | _ => false

/-- The components that lead on from a place to another one below it. -/
def onward? (place other : List Text) : Option (List Text) :=
  if isRooted place = isRooted other && place.isPrefixOf other then
    some (other.drop place.length)
  else none

/-- The names of what stands in a folder. -/
def names (files : Files) (place : List Text) : List Text :=
  (OrderedMap.keys files).filterMap fun other =>
    match onward? place other with
    | some [name] => some name
    | _ => none

/-- The folders below a place, the place itself first, by the components that lead on from there. -/
def folders (files : Files) (place : List Text) : List (List Text) :=
  [] :: ((OrderedMap.keys files).filter fun other => stored? files other = some .folder).filterMap
    (onward? place)

end Files
end DreamJournal
