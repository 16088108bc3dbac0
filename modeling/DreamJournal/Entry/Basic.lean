import DreamJournal.Callout.Header
import DreamJournal.Dating.Resolved
import DreamJournal.Metric.Basic

/-!
# Entries

An entry is one dream: when it was dreamt, what it is called, its narrative as plain text and the
metrics declared for it. It names the note it came from and an anchor in that note, by which it
can be found again.
-/
namespace DreamJournal

/-- One dream of a journal. -/
structure Entry where
  date : ResolvedDate
  title : Text
  content : Text
  source : Text
  anchor : Text
  metrics : OrderedMap Text Metric
  wordCount : Nat
  metadata : Metadata
  deriving Repr, DecidableEq

namespace Entry

/-- The place of an anchor in a note. -/
def place (source anchor : Text) : Text := source ++ '#' :: anchor

/-- Where the entry came from. -/
def reference (e : Entry) : Text := place e.source e.anchor

/-- An entry spelled out. -/
def spelled (e : Entry) : Text :=
  Text.of "<DreamEntry(date=" ++ e.date.iso ++ Text.of ", title=" ++ Text.quoted e.title ++
    Text.of ", anchor=" ++ Text.quoted e.anchor ++ Text.of ")>"

/-- The first metric whose name is the given one but for upper and lower case. -/
def metric? (e : Entry) (name : Text) : Option Metric :=
  (e.metrics.find? fun known => Text.fold known.1 = Text.fold name).map Prod.snd

end Entry
end DreamJournal
