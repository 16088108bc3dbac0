import DreamJournal.CommandLine.Inspection
import DreamJournal.CommandLine.Scraping
import DreamJournal.CommandLine.Starting

/-!
# The command line

A command line is read, carried out and finished. The files of the log are made before the
command itself is read. Words that are no command change nothing else and give the exit code 2; a
command that failed gives the exit code 1.
-/
namespace DreamJournal.CommandLine

/-- How the commands are used. -/
def usage : Text :=
  Text.joinLines <| [
    "Usage: oneiro [--log-dir FOLDER] [-v] COMMAND ...",
    "",
    "  scrape PATHS... [-c FILE] [-x GLOB]... [--max-files N] [--paragraphs] [--json FILE]",
    "      Extract dream entries and metrics from notes and folders.",
    "  inspect NOTE [-c FILE]",
    "      Show the callouts of a note.",
    "  init-config [-o FILE] [-f]",
    "      Write the standard settings."].map Text.of

/-- The exit code for words that are no command. -/
def usageCode : Nat := 2

/-- What is left when words are no command. -/
def misused (files : Files) (fault : UsageFault) : Console :=
  ⟨usageCode, [], shownLine (Text.of "Error: " ++ fault.message), files⟩

/-- Carry out a command. -/
def carryOut (around : Surroundings) (general : General) (files : Files) : Command → Console
  | .help => ⟨0, shownLine usage, [], files⟩
  | .scrape what =>
    (what.run around general.verbose files).finish around general what.context
  | .inspect note config =>
    (Inspection.run note config files).finish around general (Inspection.context note)
  | .initConfig output force =>
    (Starting.run output force files).finish around general (Starting.context output)

/-- Make the files of the log. -/
def prepare (around : Surroundings) (general : General) : Except FileFault Files :=
  Log.write [] around.files (Path.ofText general.logFolder) component around.logTime

/-- Read and carry out a command line. -/
def run (around : Surroundings) (words : List Text) : Console :=
  match General.ofWords words with
  | .error fault => misused around.files fault
  | .ok general =>
    if general.help then ⟨0, shownLine usage, [], around.files⟩
    else
      match general.command with
      | [] => misused around.files .noCommand
      | name :: _ =>
        if Command.known.any fun command => Text.of command.1 = name then
          match prepare around general with
          | .error fault =>
            let fault := fault.toFault (Log.folder (Path.ofText general.logFolder))
            ⟨1, [], Log.traceText fault true, around.files⟩
          | .ok files =>
            match Command.ofWords files general.command with
            | .error fault => misused files fault
            | .ok command => carryOut around general files command
        else misused around.files (.unknownCommand name)

end DreamJournal.CommandLine
