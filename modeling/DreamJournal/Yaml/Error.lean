import DreamJournal.Fault

/-!
# What can be wrong with a document
-/
namespace DreamJournal.Yaml

/-- Why a document has no value. -/
inductive ReadError where
  /-- The document does not follow the rules of its language. -/
  | malformed
  /-- A scalar has the form of a value and is none. -/
  | fault (fault : Fault)
  deriving DecidableEq, Repr

end DreamJournal.Yaml
