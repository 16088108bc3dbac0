import DreamJournal.Narrative.Links

/-!
# Inline markup

Comments go with what they hold; code, emphasis and highlights lose their marks and keep what
stands between; tags go and what they enclose stays, except the tag of a line break.

A mark of emphasis counts only where it touches a character that is not white space on its inner
side. Of two ways to close a mark the nearer one is taken.
-/
namespace DreamJournal.Narrative

open Text (Pattern)

/-- The text in front of the first occurrence of a mark. -/
def upTo? (mark : Text) : Text → Option Text
  | [] => none
  | c :: rest =>
    if mark.isPrefixOf (c :: rest) then some [] else (upTo? mark rest).map (c :: ·)

/-- Everything from an opening to the next closing mark, line feeds included. -/
def enclosed (opening closing : Text) : Pattern := fun _ here =>
  match Text.after? opening here with
  | some rest =>
    (upTo? closing rest).map fun inner => ⟨opening.length + inner.length + closing.length, []⟩
  | none => none

def htmlComment : Pattern := enclosed (Text.of "<!--") (Text.of "-->")

def percentComment : Pattern := enclosed (Text.of "%%") (Text.of "%%")

/-- Code between runs of backticks on one line. Two or more backticks without a partner are an
empty piece of code. -/
def inlineCode : Pattern := fun _ here =>
  let opening := (here.takeWhile (· == '\x60')).length
  let inner := (here.drop opening).takeWhile fun c => c != '\x60' && c != '\n'
  let closing := ((here.drop (opening + inner.length)).takeWhile (· == '\x60')).length
  if opening = 0 then none
  else if closing ≠ 0 then some ⟨opening + inner.length + closing, inner⟩
  else if 2 ≤ opening then some ⟨opening, []⟩
  else none

/-- The shortest text in front of a closing mark on the same line that is not empty and does not
end in white space. -/
def spanTo? (mark : Text) : Text → Option Text
  | [] => none
  | c :: rest =>
    if c = '\n' then none
    else if !Text.isBlank c && mark.isPrefixOf rest then some [c]
    else (spanTo? mark rest).map (c :: ·)

/-- Text between two equal marks, touching both. -/
def between (mark : Text) : Pattern := fun _ here =>
  match Text.after? mark here with
  | some (c :: rest) =>
    if Text.isBlank c then none
    else (spanTo? mark (c :: rest)).map fun inner => ⟨2 * mark.length + inner.length, inner⟩
  | _ => none

/-- Strong emphasis, in stars or underscores. -/
def bold : Pattern := fun before here =>
  match between (Text.of "**") before here with
  | some found => some found
  | none => between (Text.of "__") before here

def strike : Pattern := between (Text.of "~~")

def highlight : Pattern := between (Text.of "==")

/-- Emphasis between single marks. No character of the class `joins` may stand outside next to
a mark. -/
def single (mark : Char) (joins : Char → Bool) : Pattern := fun before here =>
  match before.map joins, here with
  | some true, _ => none
  | _, c :: rest =>
    if c ≠ mark then none
    else
      let inner := rest.takeWhile fun c => c != mark && c != '\n'
      match inner, inner.getLast?, rest.drop inner.length with
      | first :: _, some last, closing :: after =>
        let free := match after with
          | [] => true
          | next :: _ => !joins next
        if closing = mark && !Text.isBlank first && !Text.isBlank last && free then
          some ⟨inner.length + 2, inner⟩
        else none
      | _, _, _ => none
  | _, [] => none

def italicStar : Pattern := single '*' (· == '*')

def italicUnderscore : Pattern := single '_' Text.isWordChar

/-- How many characters end a tag behind its name: a slash may stand in front of the closing
bracket, and attributes begin with white space and hold no angle bracket. -/
def tagTail? (t : Text) : Option Nat :=
  match t with
  | '>' :: _ => some 1
  | '/' :: '>' :: _ => some 2
  | c :: rest =>
    if Text.isBlank c then
      let attributes := rest.takeWhile fun c => c != '<' && c != '>'
      match rest.drop attributes.length with
      | '>' :: _ => some (attributes.length + 2)
      | _ => none
    else none
  | [] => none

/-- The name of the tag that is kept. -/
def isLineBreakName (t : Text) : Bool :=
  match Text.afterAnyCase? (Text.of "br") t with
  | some rest => Text.isWordEnd rest
  | none => false

/-- The size of a tag behind its opening bracket and slash. -/
def tagBody? (t : Text) : Option Nat :=
  match t with
  | c :: rest =>
    if isLineBreakName t || !Text.isLatinLetter c then none
    else
      let name := (rest.takeWhile fun c => Text.isWordChar c || c == '-').length
      (tagTail? (rest.drop name)).map fun tail => name + tail + 1
  | [] => none

/-- An opening or closing tag other than a line break. -/
def htmlTag : Pattern := fun _ here =>
  match here with
  | '<' :: '/' :: rest => (tagBody? rest).map fun size => ⟨size + 2, []⟩
  | '<' :: rest => (tagBody? rest).map fun size => ⟨size + 1, []⟩
  | _ => none

/-- The patterns of inline markup, in the order in which they are applied. -/
def inlineMarkup : List Pattern :=
  [htmlComment, percentComment, inlineCode, bold, italicStar, italicUnderscore, strike, highlight,
    htmlTag]

/-- Drop comments and tags and the marks of code and emphasis. -/
def stripInlineMarkup (t : Text) : Text :=
  inlineMarkup.foldl (fun t pattern => pattern.replaceAll t) t

end DreamJournal.Narrative
