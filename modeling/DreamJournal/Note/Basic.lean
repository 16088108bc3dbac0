import DreamJournal.Callout.Scan
import DreamJournal.Entry.Assembly
import DreamJournal.FrontMatter

/-!
# What is in a note

From the text of a note come its entries, the counts of its callouts and the diagnostics about
it: first about its front matter, then about its structure, then about its dreams in the order
of the note, and last about metrics callouts that belong to no dream.

Every journal is dated once; what there is to complain of in that is reported with its first
dream. Front matter that cannot be used costs the front matter alone, except when a value in it
has the form of a date or number and is none: then the whole note is given up.
-/
namespace DreamJournal

/-- What was found in one note. -/
structure NoteExtraction where
  source : Text
  entries : List Entry
  journals : Nat
  diaries : Nat
  metricsCallouts : Nat
  diagnostics : List Diagnostic
  deriving Repr

/-- How many callouts took part in the entries. -/
def NoteExtraction.callouts (x : NoteExtraction) : Nat :=
  x.journals + x.diaries + x.metricsCallouts

namespace Note

/-- What is known of a note before its dreams are looked at. -/
structure Context where
  settings : Settings
  today : Date
  source : Text
  lines : List Text
  frontMatter : OrderedMap Text Text

/-- The front matter of a note and the diagnostics about it. -/
def frontMatterOf (source note : Text) :
    Except Fault (OrderedMap Text Text × List Diagnostic) :=
  match FrontMatter.ofNote note with
  | .ok fields => .ok (fields, [])
  | .error fault =>
    if fault.isContained then
      .ok ([], [⟨source, .frontMatterInvalid, fault.toFault.message, some 1⟩])
    else .error fault.toFault

/-- The date of a journal and what there is to complain of. -/
def Context.dateOf (context : Context) (journal : Callout) : ResolvedDate × List Diagnostic :=
  Dating.resolve ⟨journal.dateLines context.lines, context.frontMatter, context.source⟩
    context.source journal.lineNumber context.today

/-- The assembly of a dream. -/
def Context.assemble (context : Context) (d : Dream) : Assembly :=
  d.assemble context.settings context.source (context.dateOf d.journal).1

/-- What is said of a diary callout that is not inside a journal. -/
def Context.strayDiary (context : Context) (diary : Callout) : Diagnostic :=
  ⟨context.source, .orphanCallout,
    Text.of "[!" ++ context.settings.diaryCallout ++ Text.of "] is not inside a [!" ++
      context.settings.journalCallout ++ Text.of "] callout",
    some diary.lineNumber⟩

/-- What is said of a metrics callout that belongs to no dream. -/
def Context.strayMetrics (context : Context) (metrics : Callout) : Diagnostic :=
  ⟨context.source, .orphanCallout,
    Text.of "[!" ++ context.settings.metricsCallout ++ Text.of "] is not attached to a [!" ++
      context.settings.diaryCallout ++ Text.of "] inside a journal entry",
    some metrics.lineNumber⟩

/-- The diagnostics about sightings. `dated` are the first lines of the journals that have a date
already. -/
def Context.report (context : Context) (dated : List Nat) : List Sighting → List Diagnostic
  | [] => []
  | .journal :: rest => report context dated rest
  | .stray diary :: rest => context.strayDiary diary :: report context dated rest
  | .dream d :: rest =>
    let complaints := if dated.contains d.journal.start then [] else (context.dateOf d.journal).2
    complaints ++ (context.assemble d).diagnostics ++ report context (d.journal.start :: dated) rest

/-- The metrics callouts that belong to no dream. -/
def looseMetrics (kind : Text) (dreams : List Dream) (roots : List Callout) : List Callout :=
  let attached := (dreams.filterMap Dream.metrics).map Callout.start
  ((Callout.visits roots).map Callout.Visit.callout).filter fun c =>
    c.kind = kind && !attached.contains c.start

/-- What the callouts of a note hold. -/
def Context.extract (context : Context) (roots : List Callout) (earlier : List Diagnostic) :
    NoteExtraction :=
  let seen := sightings context.settings roots
  let dreams := seen.filterMap Sighting.dream?
  let loose := looseMetrics context.settings.metricsCallout dreams roots
  { source := context.source
    entries := dreams.filterMap fun d => (context.assemble d).entry.toOption
    journals := seen.countP Sighting.isJournal
    diaries := dreams.length
    metricsCallouts := (dreams.filterMap Dream.metrics).length
    diagnostics := earlier ++ context.report [] seen ++ loose.map context.strayMetrics }

/-- What is in a note. -/
def extract (settings : Settings) (today : Date) (source note : Text) :
    Except Fault NoteExtraction := do
  let (frontMatter, complaints) ← frontMatterOf source note
  let lines := Text.lines note
  let scan := Scan.ofLines lines
  let context : Context := ⟨settings, today, source, lines, frontMatter⟩
  .ok (context.extract scan.roots (complaints ++ scan.diagnostics source))

end Note
end DreamJournal
