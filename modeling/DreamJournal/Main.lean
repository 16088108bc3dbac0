import DreamJournal.CommandLine.Mentioned
import Std.Time

/-!
# The program

Reads what stands at the paths that a command line mentions, carries the command out, writes what
it changed and shows what it has to say. Folders are read down to the last note; links to folders
are not followed. How long a command takes is not measured: it is shown as no time at all.
-/
namespace DreamJournal

/-- A path as the system names it. -/
def Path.entry (path : Path) : IO.FS.DirEntry :=
  { root := ".", fileName := String.ofList path.toText }

/-- Put what stands at a place among the files. -/
def Files.note (files : Files) (path : Path) (stored : Stored) : Files :=
  OrderedMap.put files (Files.origin path ++ path.parts) stored

/-- Read a file. What cannot be read counts as not there. -/
def readFile (files : Files) (path : Path) : IO Files := do
  try
    let octets ← IO.FS.readBinFile path.entry.path
    return files.note path (.file octets.toList)
  catch _ => return files

/-- Read a folder and all that it holds. -/
partial def readFolder (files : Files) (path : Path) : IO Files := do
  let mut files := files.note path .folder
  for entry in ← path.entry.path.readDir do
    let inner := path.append [entry.fileName.toList]
    match (← entry.path.symlinkMetadata).type with
    | .dir => files ← readFolder files inner
    | _ => unless ← entry.path.isDir do files ← readFile files inner
  return files

/-- Read what stands at a path, and the folders on the way to it. -/
def readPath (files : Files) (path : Path) : IO Files := do
  let mut files := files
  for outer in path.ancestors do
    if ← outer.entry.path.isDir then files := files.note outer .folder
  if ← path.entry.path.isDir then
    try readFolder files path catch _ => return files.note path .folder
  else readFile files path

/-- Write what stands at a path now. -/
def writeBack (change : Path × Stored) : IO Unit :=
  match change.2 with
  | .folder => IO.FS.createDirAll change.1.entry.path
  | .file octets => IO.FS.writeBinFile change.1.entry.path ⟨octets.toArray⟩

/-- A day of the system's calendar. -/
def today (date : Std.Time.PlainDate) : Date :=
  (Date.ofNumbers? date.year.toNat date.month.toNat date.day.toNat).getD ⟨1970, 1, 1, by decide⟩

/-- What a command finds around it. -/
def surroundings (files : Files) (now : Std.Time.PlainDateTime) : Surroundings :=
  let day := today now.date
  let (hour, minute, second) :=
    (now.time.hour.toNat, now.time.minute.toNat, now.time.second.val.toNat)
  let clock := Text.join [':'] ([hour, minute, second].map (Text.padded 2))
  { files := files
    today := day
    now := ⟨day, hour, minute, second, 0, none⟩
    logTime := ⟨day.iso, clock⟩
    seconds := Double.zero false }

end DreamJournal

open DreamJournal in
/-- Extracts dreams from journals, shows the callouts of a note, or starts a settings file. -/
def main (args : List String) : IO UInt32 := do
  let words := args.map Text.of
  let files ← (CommandLine.mentioned words).foldlM readPath []
  let console := CommandLine.run (surroundings files (← Std.Time.PlainDateTime.now)) words
  for change in CommandLine.changes files console.files do writeBack change
  IO.print (String.ofList console.shown)
  IO.eprint (String.ofList console.said)
  return UInt32.ofNat console.exitCode
