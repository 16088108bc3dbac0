import DreamJournal.Callout.Scan
import DreamJournal.CommandLine.Work
import DreamJournal.Files.Note

/-!
# Showing the callouts of a note

Every callout of a note is shown on a line of its own, indented by its depth, with the lines that
it spans, what it is under the settings, and its title. The warnings about the structure of the
note follow.
-/
namespace DreamJournal.Inspection

open Datum (field)

/-- What callouts of a kind are under the settings. When two are called the same the later
counts: diaries before journals, metrics before both. -/
def role? (settings : Settings) (kind : Text) : Option String :=
  if kind = settings.metricsCallout then some "metrics"
  else if kind = settings.diaryCallout then some "diary"
  else if kind = settings.journalCallout then some "journal"
  else none

/-- The line of a callout. -/
def calloutLine (settings : Settings) (c : Callout) : Text :=
  let metadata :=
    match c.metadataText with
    | some (first :: rest) => '|' :: first :: rest
    | _ => []
  let role := ((role? settings c.kind).map fun role => Text.of (" (" ++ role ++ ")")).getD []
  let title := if c.title.isEmpty then [] else Text.of ": " ++ c.title
  shownLine <| List.replicate (2 * c.depth) ' ' ++ Text.of "[!" ++ c.kind ++ metadata ++
    Text.of "] lines " ++ Text.ofNat (c.start + 1) ++ '-' :: Text.ofNat (c.stop + 1) ++ role ++
    title

/-- The lines of all callouts. -/
def calloutLines (settings : Settings) (roots : List Callout) : Text :=
  if roots.isEmpty then shownLine (Text.of "  (no callouts)")
  else (Callout.visits roots).flatMap fun visit => calloutLine settings visit.callout

/-- The lines of all warnings, if there are any. -/
def warningLines (warnings : List (Nat × ScanWarning)) : Text :=
  if warnings.isEmpty then []
  else
    shownLine (Text.of "\n⚠️  Warnings:") ++
      warnings.flatMap fun (line, warning) =>
        shownLine (Text.of "  line " ++ Text.ofNat line ++ Text.of ": " ++ warning.message)

/-- Show the callouts of a note. -/
def run (note : Text) (config : Option Text) (files : Files) : Work :=
  let loaded := Work.settingsFor files config
  let work := Work.begin files loaded.warning
  let read : Except Fault (Settings × Text) := do
    let settings ← loaded.settings
    .ok (settings, ← files.readNote (Path.ofText note))
  match read with
  | .error fault => work.fail fault
  | .ok (settings, written) =>
    let scan := Scan.ofText written
    work.shows (shownLine (Text.of "📄 " ++ note) ++ calloutLines settings scan.roots ++
      warningLines scan.warnings)

/-- What an error of the command is recorded with. -/
def context (note : Text) : List (Datum × Datum) :=
  [field "operation" (.text (Text.of "inspect")), field "note" (.text note)]

end DreamJournal.Inspection
