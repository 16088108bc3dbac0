import DreamJournal.CommandLine.Work
import DreamJournal.Files.Selection
import DreamJournal.Run.Export
import DreamJournal.Run.Records

/-!
# Extracting from the command line

The notes that are named are extracted in one run, under the settings with what the command says
in their stead. Shown are the counts of the run, advice when something was missing, the summaries
of the metrics and how many diagnostics there are of each kind.
-/
namespace DreamJournal

namespace Scrape

open Datum (field)

/-- The settings with what the command says in their stead. Exclusions are added. -/
def override (what : Scrape) (settings : Settings) : Except SettingsFault Settings :=
  let exclude : Datum :=
    if what.exclude.isEmpty then .null
    else .list ((settings.exclude ++ what.exclude).map .text)
  let maxFiles : Datum := (what.maxFiles.map fun n => Datum.int n).getD .null
  let mode : Datum :=
    if what.paragraphs then .text (Text.of ParagraphMode.paragraphs.label) else .null
  settings.withOverrides [(Text.of "exclude", exclude), (Text.of "max_files", maxFiles),
    (Text.of "paragraph_mode", mode)]

/-- What is shown of a report of progress. -/
def progressLine (p : Progress) : Text :=
  shownLine <| Text.of "  [" ++ Text.ofNat p.files ++ '/' :: Text.ofInt p.total ++ Text.of "] " ++
    p.source ++ Text.of " (" ++ Text.ofInt p.entries ++ Text.of " entries, " ++
    Text.ofInt p.callouts ++ Text.of " callouts so far)"

/-- One count of a run. -/
def countLine (name : String) (n : Int) : Text :=
  shownLine (Text.of "  " ++ Text.of name ++ Text.of ": " ++ Text.ofInt n)

/-- The counts of a run. -/
def countLines (t : Tally) (seconds : Double) : Text :=
  shownLine (Text.of "\n✅ Extraction complete:") ++ countLine "Files processed" t.files ++
    countLine "Journal entries" t.journals ++ countLine "Dream diaries" t.diaries ++
    countLine "Metrics callouts" t.metricsCallouts ++ countLine "Entries" t.entries ++
    (if 0 < t.errors then countLine "⚠️  Errors" t.errors else []) ++
    shownLine (Text.of "  Duration: " ++ secondsText seconds)

/-- A number with at most six significant digits. -/
def general (n : Number) : Text := ((n.toDouble?).map Double.toGeneral).getD n.toText

/-- The summary of one metric. -/
def summaryLine (name : Text) (s : Summary) : Text :=
  shownLine <| Text.of "  " ++ name ++ Text.of ": mean " ++ s.mean.toFixed 2 ++
    Text.of " (min " ++ general s.minimum ++ Text.of ", max " ++ general s.maximum ++
    Text.of ", n=" ++ Text.ofNat s.count ++ Text.of ")"

/-- The summaries of all metrics, if there are any. -/
def summaryLines (summaries : OrderedMap Text Summary) : Text :=
  if summaries.isEmpty then []
  else
    shownLine (Text.of "\n📊 Metrics:") ++
      summaries.flatMap fun (name, summary) => summaryLine name summary

/-- How many diagnostics there are of each kind, the kinds in the order of their names. -/
def diagnosticLines (ds : List Diagnostic) : Text :=
  if ds.isEmpty then []
  else
    let counts := (Diagnostic.countsByKind ds).map fun (kind, n) => (Text.of kind.label, n)
    shownLine (Text.of "\n🔎 Diagnostics:") ++
      (counts.mergeSort fun a b => Text.le a.1 b.1).flatMap fun (kind, n) =>
        shownLine (Text.of "  " ++ kind ++ Text.of ": " ++ Text.ofNat n)

/-- Show a run that is finished, and export its result if that is asked for. -/
def report (what : Scrape) (around : Surroundings) (run : Run) (work : Work) : Work :=
  let advice :=
    if run.outcome.hasData then []
    else shownLine (Text.of "\n⚠️  " ++ run.outcome.guidance run.settings)
  let work := work.shows (countLines run.tally around.seconds ++ advice)
  match run.summaries with
  | .error fault => work.fail fault.toFault
  | .ok summaries =>
    let work := work.shows (summaryLines summaries ++ diagnosticLines run.diagnostics)
    match what.json with
    | none | some [] => work
    | some written =>
      let path := Path.ofText written
      match run.writeTo work.files path (some 2) around.now around.seconds with
      | .error fault => work.fail fault.toFault
      | .ok files =>
        { work.shows (shownLine (Text.of "\n💾 JSON written to " ++ path.toText)) with
          files, log := work.log ++ [run.exportRecord path] }

/-- Extract entries from the named notes and folders. -/
def run (what : Scrape) (around : Surroundings) (verbose : Bool) (files : Files) : Work :=
  let loaded := Work.settingsFor files what.config
  let work := Work.begin files loaded.warning
  let chosen : Except Fault Settings := do
    (what.override (← loaded.settings)).mapError SettingsFault.toFault
  match chosen with
  | .error fault => work.fail fault
  | .ok settings =>
    let notes := files.collect settings (what.paths.map Path.ofText)
    let steps := notes.map (Step.ofNote settings around.today files.readNote)
    let run := (Run.start settings notes.length).takeAll steps
    let progress := if verbose then run.progress.flatMap progressLine else []
    let opening := shownLine (Text.of "🌙 Scraping " ++ Text.ofNat what.paths.length ++
      Text.of " path(s)...")
    let log := Run.startRecord settings notes.length :: steps.flatMap Step.records ++
      [run.endRecord around.seconds]
    what.report around run { work.shows (opening ++ progress) with log }

/-- What an error of the command is recorded with. -/
def context (what : Scrape) : List (Datum × Datum) :=
  [field "operation" (.text (Text.of "scrape")),
    field "paths" (.list (what.paths.map .text))]

end Scrape
end DreamJournal
