import DreamJournal.Text.Case
import DreamJournal.Text.Classes
import DreamJournal.Text.Pattern

/-!
# Links and media

A link leaves the text that a reader would see; a picture, a recording or any other embedded
file leaves nothing, whether it is embedded, linked or named in plain text. No link reaches over
a line feed.
-/
namespace DreamJournal.Narrative

open Text (Pattern)

/-- The file name extensions of pictures, films, recordings and printed pages. -/
def mediaExtensions : List String :=
  ["png", "jpeg", "jpg", "gif", "webp", "svg", "bmp", "tiff", "tif", "heic", "avif", "mp4", "mov",
    "webm", "mkv", "mp3", "wav", "m4a", "ogg", "flac", "pdf"]

/-- Whether a word is one of the extensions, in any case. -/
def isMediaExtension (word : Text) : Bool :=
  mediaExtensions.any fun extension => Text.afterAnyCase? (Text.of extension) word == some []

/-- A character that can stand in the target of a wiki link. -/
def inTarget (c : Char) : Bool := c != ']' && c != '\n' && c != '|'

/-- A character that can stand between brackets. -/
def inBrackets (c : Char) : Bool := c != ']' && c != '\n'

/-- A character that can stand between parentheses. -/
def inParentheses (c : Char) : Bool := c != ')' && c != '\n'

/-- Whether a text begins with two closing brackets. -/
def closesDouble (t : Text) : Bool :=
  match t with
  | ']' :: ']' :: _ => true
  | _ => false

/-- The parts of a wiki link, `[[target]]` or `[[target|label]]`, and its length. -/
def wikiParts? (here : Text) : Option (Text × Option Text × Nat) :=
  match here with
  | '[' :: '[' :: rest =>
    let target := rest.takeWhile inTarget
    match rest.drop target.length with
    | '|' :: more =>
      let label := more.takeWhile inBrackets
      if closesDouble (more.drop label.length) then
        some (target, some label, target.length + label.length + 5)
      else none
    | closing => if closesDouble closing then some (target, none, target.length + 4) else none
  | _ => none

/-- The embedding of another note or file. -/
def embed : Pattern := fun _ here =>
  match here with
  | '!' :: '[' :: '[' :: rest =>
    let target := rest.takeWhile inBrackets
    if closesDouble (rest.drop target.length) then some ⟨target.length + 5, []⟩ else none
  | _ => none

/-- Whether a path ends in a dot and an extension of a media file. -/
def namesMedia (path : Text) : Bool :=
  path.contains '.' && isMediaExtension (path.reverse.takeWhile (· != '.')).reverse

/-- A wiki link to a media file. -/
def mediaLink : Pattern := fun _ here =>
  match wikiParts? here with
  | some (target, _, size) => if namesMedia target then some ⟨size, []⟩ else none
  | none => none

/-- A character of a file name or path in plain text. -/
def inFileName (c : Char) : Bool := Text.isWordChar c || c == '.' || c == '/' || c == '-'

/-- The length of the longest media file name at the start of a text, `n` characters of which
are read already. The name in front of the dot may not be empty. -/
def fileNameSize? (n : Nat) : Text → Option Nat
  | [] => none
  | c :: rest =>
    if inFileName c then
      match fileNameSize? (n + 1) rest with
      | some size => some size
      | none =>
        let word := rest.takeWhile Text.isWordChar
        if c == '.' && n != 0 && isMediaExtension word then some (n + 1 + word.length) else none
    else none

/-- The length of a picture size `|width` or `|widthxheight` at the start of a text. -/
def sizeSuffix (t : Text) : Nat :=
  match t with
  | '|' :: rest =>
    let width := (rest.takeWhile Text.isDecimal).length
    let after := rest.drop width
    if width = 0 then 0
    else if Text.isWordEnd after then width + 1
    else
      match after with
      | c :: more =>
        let height := (more.takeWhile Text.isDecimal).length
        if Text.sameLetter 'x' c && height != 0 && Text.isWordEnd (more.drop height) then
          width + height + 2
        else 0
      | [] => 0
  | _ => 0

/-- The name of a media file in plain text, from the start of the name. -/
def bareMedia : Pattern := fun before here =>
  match before.map inFileName with
  | some true => none
  | _ =>
    match fileNameSize? 0 here with
    | some size => some ⟨size + sizeSuffix (here.drop size), []⟩
    | none => none

/-- Drop embeds, links to media files and the names of media files. -/
def removeEmbeds (t : Text) : Text :=
  bareMedia.replaceAll (mediaLink.replaceAll (embed.replaceAll t))

/-- What a reader sees of a wiki link: its label, or else its target without an anchor. -/
def wikiDisplay (target : Text) (label : Option Text) : Text :=
  let named := match label with
    | some label => Text.trim label
    | none => []
  if named.isEmpty then Text.trim (target.takeWhile fun c => c != '#' && c != '^') else named

/-- A wiki link, replaced by what a reader sees of it. -/
def wikiLink : Pattern := fun _ here =>
  match wikiParts? here with
  | some (target, label, size) => some ⟨size, wikiDisplay target label⟩
  | none => none

/-- Replace wiki links by what a reader sees of them. -/
def convertWikiLinks (t : Text) : Text := wikiLink.replaceAll t

/-- Label and length of `[label](target)` at the start of a text. -/
def labelled? (here : Text) : Option (Text × Nat) :=
  match here with
  | '[' :: rest =>
    let label := rest.takeWhile inBrackets
    match rest.drop label.length with
    | ']' :: '(' :: more =>
      let target := more.takeWhile inParentheses
      match more.drop target.length with
      | ')' :: _ => some (label, label.length + target.length + 4)
      | _ => none
    | _ => none
  | _ => none

/-- A linked picture. -/
def imageLink : Pattern := fun _ here =>
  match here with
  | '!' :: rest => (labelled? rest).map fun (_, size) => ⟨size + 1, []⟩
  | _ => none

/-- A link with a label, replaced by the label. -/
def labelledLink : Pattern := fun _ here => (labelled? here).map fun (label, size) => ⟨size, label⟩

/-- Drop linked pictures and replace links by their labels. -/
def convertLabelledLinks (t : Text) : Text := labelledLink.replaceAll (imageLink.replaceAll t)

end DreamJournal.Narrative
