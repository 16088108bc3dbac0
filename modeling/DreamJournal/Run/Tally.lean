import DreamJournal.Datum
import DreamJournal.Fault

/-!
# Tallies

What a run has counted so far. Files and errors are counted in every operation, callouts and
entries only in a run over notes. A tally can also be put together from numbers that come from
elsewhere; of these only the first two are required not to be negative.
-/
namespace DreamJournal

open Datum (field)

/-- How many files an operation has handled, and how many files or entries it had to skip. -/
structure FileTally where
  files : Nat
  errors : Nat
  deriving DecidableEq, Repr

/-- What a run over notes has counted. -/
structure Tally extends FileTally where
  journals : Int
  diaries : Int
  metricsCallouts : Int
  entries : Int
  deriving DecidableEq, Repr

/-- Why numbers are no tally. -/
inductive TallyFault where
  | negativeFiles (given : Int)
  | negativeErrors (given : Int)
  deriving DecidableEq, Repr

def TallyFault.message : TallyFault → Text
  | negativeFiles n => Text.of "files_processed must be non-negative, got " ++ Text.ofInt n
  | negativeErrors n => Text.of "errors must be non-negative, got " ++ Text.ofInt n

/-- A span of time in seconds as summaries show it. -/
def secondsText (seconds : Double) : Text := seconds.toFixed 2 ++ ['s']

namespace FileTally

def ofInts (files errors : Int) : Except TallyFault FileTally :=
  if files < 0 then .error (.negativeFiles files)
  else if errors < 0 then .error (.negativeErrors errors)
  else .ok ⟨files.toNat, errors.toNat⟩

/-- A count and what was counted. -/
def counted (n : Int) (what : String) : Text := Text.ofInt n ++ ' ' :: Text.of what

def summary (t : FileTally) (seconds : Double) : Text :=
  Datum.commaJoin [counted t.files "files processed", counted t.errors "errors",
    secondsText seconds]

def fields (t : FileTally) (seconds : Double) : List (Datum × Datum) :=
  [field "files_processed" (.int t.files), field "errors" (.int t.errors),
    field "duration" (.real seconds)]

end FileTally

namespace Tally

def zero : Tally := ⟨⟨0, 0⟩, 0, 0, 0, 0⟩

/-- How many callouts took part in the entries. -/
def callouts (t : Tally) : Int := t.journals + t.diaries + t.metricsCallouts

def summary (t : Tally) (seconds : Double) : Text :=
  let counted := FileTally.counted
  Datum.commaJoin [counted t.files "files processed", counted t.journals "journal entries",
    counted t.diaries "dream diaries", counted t.metricsCallouts "metrics callouts",
    counted t.entries "entries", counted t.errors "errors", secondsText seconds]

def fields (t : Tally) (seconds : Double) : List (Datum × Datum) :=
  t.toFileTally.fields seconds ++
    [field "journals_found" (.int t.journals), field "diaries_found" (.int t.diaries),
      field "metrics_found" (.int t.metricsCallouts), field "callouts_found" (.int t.callouts),
      field "entries_found" (.int t.entries)]

end Tally
end DreamJournal
