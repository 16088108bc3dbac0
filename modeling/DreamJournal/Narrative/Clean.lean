import DreamJournal.Diagnostic
import DreamJournal.Narrative.Lines
import DreamJournal.Narrative.Markup
import DreamJournal.Narrative.Paragraphs

/-!
# Cleaning a narrative

The body of a dream becomes plain text in three steps. It is cut at the line that carries the
tag of the metrics callout. The line rules then see the lines of the body once: after that, a text
that begins with a tag or a hash is narrative. Last, the inline rules repeat until nothing
changes any more, as markup that was split over two lines is seen only when they are joined.

No rule makes a text longer, and a round that changes a text whose white space is collapsed
makes it shorter. So as many rounds as the text has characters, and two more, are enough.
-/
namespace DreamJournal.Narrative

/-- Whether the tag of a callout kind, in any case, stands at the start of a text. The kind must
end there, so a longer kind with the same beginning is another. -/
def tagAt (kind here : Text) : Bool :=
  match here with
  | '[' :: '!' :: rest =>
    match Text.afterAnyCase? kind rest with
    | some (c :: _) => c == ']' || c == '|'
    | _ => false
  | _ => false

/-- Whether a line carries the tag of a callout kind. -/
def carriesTag (kind : Text) : (line : Text) → Bool
  | [] => false
  | c :: rest => tagAt kind (c :: rest) || carriesTag kind rest

/-- The text in front of the first line that carries the tag of the metrics callout, and whether
there is such a line. -/
def truncate (kind t : Text) : Text × Bool :=
  let lines := Text.splitOn '\n' t
  let kept := lines.takeWhile fun line => !carriesTag kind line
  if kept.length < lines.length then (Text.joinLines kept, true) else (t, false)

/-- The line rules, in order. -/
def lineRules (t : Text) : Text :=
  removeRules (stripBlockMarkup (stripQuotes (removeDirectives t)))

/-- One round of the inline rules. -/
def inlineRound (mode : ParagraphMode) (t : Text) : Text :=
  collapse mode (stripInlineMarkup (convertLabelledLinks (convertWikiLinks (removeEmbeds t))))

/-- Repeat the inline rules until a round changes nothing. -/
def settle (mode : ParagraphMode) : (rounds : Nat) → Text → Text
  | 0, t => t
  | rounds + 1, t =>
    let next := inlineRound mode t
    if next = t then t else settle mode rounds next

/-- The narrative in a text that is cut already. -/
def cleanWhole (mode : ParagraphMode) (t : Text) : Text :=
  let prepared := lineRules t
  settle mode (prepared.length + 2) prepared

/-- The narrative in a body and whether its end was marked. -/
def cleanWithBoundary (kind : Text) (mode : ParagraphMode) (body : Text) : Text × Bool :=
  let (kept, found) := truncate kind (Text.unixBreaks body)
  (cleanWhole mode kept, found)

/-- The narrative in a body. -/
def clean (kind : Text) (mode : ParagraphMode) (body : Text) : Text :=
  (cleanWithBoundary kind mode body).1

/-- What is said of a body without a metrics callout. -/
def boundaryMissing (kind : Text) : Text :=
  Text.of "No [!" ++ kind ++ Text.of "] callout; whole body kept as content"

/-- The diagnostic for a body whose end was not marked. -/
def boundaryDiagnostics (kind : Text) (found : Bool) (source : Text) (line : Option Nat) :
    List Diagnostic :=
  if found then [] else [⟨source, .contentBoundaryMissing, boundaryMissing kind, line⟩]

/-- How many words a narrative has. Punctuation alone is no word. -/
def wordCount (t : Text) : Nat :=
  ((Text.words t).filter fun word => word.any Text.isWordChar).length

end DreamJournal.Narrative
