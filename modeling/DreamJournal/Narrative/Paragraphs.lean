import DreamJournal.Text.Basic

/-!
# Paragraphs

Paragraphs are separated by an empty line, or one that holds only spaces and tabs. When white
space is collapsed, every paragraph becomes one line with single spaces between its words, empty
paragraphs go, and the others are joined by a space or by an empty line.
-/
namespace DreamJournal

/-- Whether paragraphs stay apart when white space is collapsed. -/
inductive ParagraphMode where
  | joined
  | paragraphs
  deriving DecidableEq, Repr

namespace ParagraphMode

def all : List ParagraphMode := [joined, paragraphs]

/-- The name of a mode in settings. -/
def label : ParagraphMode → String
  | joined => "joined"
  | paragraphs => "paragraphs"

/-- The mode of a name. -/
def ofLabel? (label : Text) : Option ParagraphMode :=
  all.find? fun mode => Text.of mode.label = label

/-- What stands between two paragraphs. -/
def separator : ParagraphMode → Text
  | joined => [' ']
  | paragraphs => ['\n', '\n']

end ParagraphMode

namespace Narrative

/-- How many characters of a paragraph break a text begins with. -/
def breakSize (t : Text) : Nat :=
  match t with
  | '\n' :: rest =>
    let gap := (rest.takeWhile Text.isGap).length
    match rest.drop gap with
    | '\n' :: _ => gap + 2
    | _ => 0
  | _ => 0

/-- The paragraphs of a text, `skip` characters of which belong to a break. -/
def splitParagraphs : (skip : Nat) → Text → List Text
  | _, [] => [[]]
  | skip + 1, _ :: rest => splitParagraphs skip rest
  | 0, c :: rest =>
    match breakSize (c :: rest) with
    | size + 1 => [] :: splitParagraphs size rest
    | 0 =>
      match splitParagraphs 0 rest with
      | [] => [[c]]
      | paragraph :: more => (c :: paragraph) :: more

/-- Join the lines of every paragraph and the paragraphs as the mode says. -/
def collapse (mode : ParagraphMode) (t : Text) : Text :=
  let paragraphs := (splitParagraphs 0 t).map Text.oneSpaced
  Text.join mode.separator (paragraphs.filter fun p => !p.isEmpty)

end Narrative
end DreamJournal
