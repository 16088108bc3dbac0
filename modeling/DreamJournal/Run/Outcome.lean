import DreamJournal.Run.Tally
import DreamJournal.Settings.Basic

/-!
# Outcomes

What a run found, from the outermost callout inward: without journals there can be no diaries,
and without diaries no metrics. The outcome names the first of these that is missing, and has
advice for the user that names the callout as the settings do.
-/
namespace DreamJournal

/-- The first thing that was missing, if any. -/
inductive Outcome where
  | complete
  | noJournals
  | noDiaries
  | noMetrics
  deriving DecidableEq, Repr

namespace Outcome

def all : List Outcome := [complete, noJournals, noDiaries, noMetrics]

/-- The name of an outcome in reports. -/
def label : Outcome → String
  | complete => "ok"
  | noJournals => "no_journal_entries"
  | noDiaries => "no_dream_diaries"
  | noMetrics => "no_metrics"

def ofLabel? (label : Text) : Option Outcome := all.find? fun o => Text.of o.label = label

/-- Whether nothing was missing. -/
def hasData (o : Outcome) : Bool := o = complete

/-- The outcome of a run that has counted so much. -/
def ofTally (t : Tally) : Outcome :=
  if t.journals = 0 then noJournals
  else if t.diaries = 0 then noDiaries
  else if t.metricsCallouts = 0 then noMetrics
  else complete

/-- Advice for the user. -/
def guidance (settings : Settings) : Outcome → Text
  | complete => Text.of "Dream entries extracted."
  | noJournals =>
    Text.of "No [!" ++ settings.journalCallout ++
      Text.of ("] callouts were found. Check that the selected notes contain journal entries " ++
        "and that the journal callout name matches your notes.")
  | noDiaries =>
    Text.of "Journal entries were found, but none contain a nested [!" ++
      settings.diaryCallout ++
      Text.of ("] callout. Check the dream diary callout name and that diaries are nested one " ++
        "level inside journal entries.")
  | noMetrics =>
    Text.of "Dream diaries were found, but none contain a [!" ++ settings.metricsCallout ++
      Text.of ("] callout. Add a metrics callout inside each dream diary, or check the metrics " ++
        "callout name.")

end Outcome
end DreamJournal
