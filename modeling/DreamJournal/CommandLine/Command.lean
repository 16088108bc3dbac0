import DreamJournal.CommandLine.Options
import DreamJournal.Files.Basic
import DreamJournal.Number.Decimal
import DreamJournal.Number.Basic

/-!
# Commands

Entries are extracted from notes and folders, the callouts of one note are shown, and the
standard settings are written to a file. Paths that have to be there are looked up when the
command is read, so a command that was read can be carried out.
-/
namespace DreamJournal

/-- The file in which settings are looked for when none is named. -/
def settingsFile : Text := Text.of "oneiro.yaml"

/-- The folder of logs when none is named. -/
def logFolder : Text := Text.of "logs"

/-- What to extract, and how. -/
structure Scrape where
  paths : List Text
  config : Option Text
  exclude : List Text
  maxFiles : Option Nat
  paragraphs : Bool
  /-- The file to which the result is exported. -/
  json : Option Text
  deriving DecidableEq, Repr

/-- What is to be done. -/
inductive Command where
  | help
  | scrape (what : Scrape)
  | inspect (note : Text) (config : Option Text)
  | initConfig (output : Text) (force : Bool)
  deriving DecidableEq, Repr

/-- What is said in front of every command: where logs go and how much is shown. -/
structure General where
  help : Bool
  logFolder : Text
  verbose : Bool
  /-- The command and its words. -/
  command : List Text
  deriving DecidableEq, Repr

namespace General

def forms : List OptionForm :=
  [⟨none, "log-dir", true⟩, ⟨some 'v', "verbose", false⟩, ⟨none, "help", false⟩]

def ofWords (words : List Text) : Except UsageFault General := do
  let words ← Words.sort forms false words
  .ok { help := words.has "help"
        logFolder := (words.value? "log-dir").getD DreamJournal.logFolder
        verbose := words.has "verbose"
        command := words.arguments }

end General

namespace Command

def helpForm : OptionForm := ⟨none, "help", false⟩

def configForm : OptionForm := ⟨some 'c', "config", true⟩

def scrapeForms : List OptionForm :=
  [configForm, ⟨some 'x', "exclude", true⟩, ⟨none, "max-files", true⟩,
    ⟨none, "paragraphs", false⟩, ⟨none, "json", true⟩, helpForm]

def initForms : List OptionForm :=
  [⟨some 'o', "output", true⟩, ⟨some 'f', "force", false⟩, helpForm]

/-- A path at which something has to be there. -/
def there (files : Files) (written : Text) : Except UsageFault Text :=
  if written.isEmpty || (files.at? (Path.ofText written)).isNone then .error (.notThere written)
  else .ok written

/-- A path at which there may be no folder. -/
def notFolder (files : Files) (written : Text) : Except UsageFault Text :=
  if !written.isEmpty && files.isFolder (Path.ofText written) then .error (.isFolder written)
  else .ok written

/-- A path at which a file has to be there. -/
def fileThere (files : Files) (written : Text) : Except UsageFault Text := do
  notFolder files (← there files written)

/-- A count of at least one. -/
def count (written : Text) : Except UsageFault Nat :=
  let unsigned :=
    match Text.trimBoth Double.mayEnclose written with
    | '+' :: rest => rest
    | t => t
  match Double.plainDigits? unsigned with
  | some digits =>
    let n := Text.decimalNumber digits
    if digits.length ≤ digitLimit && 1 ≤ n then .ok n else .error (.notACount written)
  | none => .error (.notACount written)

def scrapeOf (files : Files) (words : Words) : Except UsageFault Command := do
  let paths ← words.arguments.mapM (there files)
  if paths.isEmpty then .error (.missingArgument "PATHS")
  else
    .ok <| .scrape
      { paths
        config := ← (words.value? "config").mapM (fileThere files)
        exclude := words.values "exclude"
        maxFiles := ← (words.value? "max-files").mapM count
        paragraphs := words.has "paragraphs"
        json := ← (words.value? "json").mapM (notFolder files) }

def inspectOf (files : Files) (words : Words) : Except UsageFault Command :=
  match words.arguments with
  | [] => .error (.missingArgument "NOTE")
  | [note] => do
    .ok (.inspect (← fileThere files note) (← (words.value? "config").mapM (fileThere files)))
  | _ :: extra :: _ => .error (.unexpectedArgument extra)

def initOf (files : Files) (words : Words) : Except UsageFault Command :=
  match words.arguments with
  | [] => do
    .ok (.initConfig (← notFolder files ((words.value? "output").getD settingsFile))
      (words.has "force"))
  | extra :: _ => .error (.unexpectedArgument extra)

/-- What each command is called, which options it has and how it is read. -/
def known : List (String × List OptionForm × (Files → Words → Except UsageFault Command)) :=
  [("scrape", scrapeForms, scrapeOf), ("inspect", [configForm, helpForm], inspectOf),
    ("init-config", initForms, initOf)]

/-- The command that words are. -/
def ofWords (files : Files) (words : List Text) : Except UsageFault Command :=
  match words with
  | [] => .error .noCommand
  | name :: rest =>
    match known.find? fun command => Text.of command.1 = name with
    | none => .error (.unknownCommand name)
    | some (_, forms, read) => do
      let words ← Words.sort forms true rest
      if words.has "help" then .ok .help else read files words

end Command
end DreamJournal
