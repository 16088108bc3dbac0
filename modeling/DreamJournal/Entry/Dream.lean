import DreamJournal.Callout.Basic
import DreamJournal.Dating.Resolve
import DreamJournal.Entry.Basic
import DreamJournal.Settings.Basic

/-!
# Dreams in a note

A dream is a diary callout inside a journal callout. Its journal is the nearest one around it.
Its metrics callout is the first one nested in it; when there is none, the callout directly
behind it counts, if it is a metrics callout.

A diary callout outside any journal is no dream. When journal and diary callouts have the same
name, all of them are journals.
-/
namespace DreamJournal

/-- A diary callout with what belongs to it. -/
structure Dream where
  diary : Callout
  /-- The nearest journal callout around the diary. -/
  journal : Callout
  metrics : Option Callout
  deriving Repr

/-- The callout directly behind the one that begins on a line, among siblings. -/
def Callout.following? (start : Nat) : (siblings : List Callout) → Option Callout
  | [] => none
  | c :: rest => if c.start = start then rest.head? else following? start rest

/-- The metrics callout of a visited diary. -/
def Callout.Visit.metrics? (v : Visit) (kind : Text) : Option Callout :=
  match v.callout.findNested? kind with
  | some nested => some nested
  | none =>
    match v.parent? with
    | some parent =>
      (following? v.callout.start parent.children).filter fun next => next.kind = kind
    | none => none

/-- What a callout is to the dreams of a note. -/
inductive Sighting where
  | journal
  /-- A diary callout that is not inside a journal. -/
  | stray (diary : Callout)
  | dream (dream : Dream)
  deriving Repr

/-- What a visited callout is to the dreams of a note, if anything. -/
def Sighting.ofVisit? (settings : Settings) (v : Callout.Visit) : Option Sighting :=
  if v.callout.kind = settings.journalCallout then some .journal
  else if v.callout.kind = settings.diaryCallout then
    match v.nearest? settings.journalCallout with
    | none => some (.stray v.callout)
    | some outer => some (.dream ⟨v.callout, outer, v.metrics? settings.metricsCallout⟩)
  else none

/-- The sightings in a forest of callouts, in the order of the note. -/
def sightings (settings : Settings) (roots : List Callout) : List Sighting :=
  (Callout.visits roots).filterMap (Sighting.ofVisit? settings)

def Sighting.isJournal : Sighting → Bool
  | journal => true
  | _ => false

def Sighting.dream? : Sighting → Option Dream
  | dream d => some d
  | _ => none

namespace Dream

/-- The name by which a dream is found in its note: the reference of its diary or else of its
journal, or else its line. -/
def anchor (d : Dream) : Text :=
  match d.diary.reference?, d.journal.reference? with
  | some name, _ => name
  | none, some name => name
  | none, none => Text.of "line-" ++ Text.ofNat d.diary.lineNumber

/-- Where a dream is found. -/
def reference (d : Dream) (source : Text) : Text := Entry.place source d.anchor

end Dream

/-- The lines of a journal in which its date is looked for: its header and the next two lines, as
far as they belong to it. -/
def Callout.dateLines (journal : Callout) (lines : List Text) : List Text :=
  let stop := min (journal.start + 3) (journal.stop + 1)
  journal.headerLine :: (lines.take stop).drop (journal.start + 1)

end DreamJournal
