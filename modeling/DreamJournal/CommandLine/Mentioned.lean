import DreamJournal.CommandLine.Basic

/-!
# What a command line mentions

Before a command is carried out, what stands at the paths that it mentions has to be known. These
are its arguments and the values of its options, whether or not they are meant as paths, the file
of settings, and the files of the log. A word that is no path leads to nothing and does no harm.
-/
namespace DreamJournal.CommandLine

/-- The arguments and values of a command. -/
def wordsOf (command : List Text) : List Text :=
  match command with
  | [] => []
  | name :: rest =>
    match Command.known.find? fun known => Text.of known.1 = name with
    | none => []
    | some (_, forms, _) =>
      match Words.sort forms true rest with
      | .ok words => words.arguments ++ words.options.map Prod.snd
      | .error _ => []

/-- The paths whose files a command may use. -/
def mentioned (words : List Text) : List Path :=
  match General.ofWords words with
  | .error _ => []
  | .ok general =>
    let base := Path.ofText general.logFolder
    Path.ofText settingsFile :: Log.componentFile base component :: Log.errorFile base ::
      ((wordsOf general.command).filter fun word => !word.isEmpty).map Path.ofText

/-- What a command changed: the places at which something else stands afterwards. -/
def changes (before after : Files) : List (Path × Stored) :=
  (after.filter fun entry => OrderedMap.get? before entry.1 ≠ some entry.2).map
    fun (place, stored) =>
      match Files.isRooted place, place with
      | true, root :: parts => (⟨root, parts⟩, stored)
      | _, parts => (⟨[], parts⟩, stored)

end DreamJournal.CommandLine
