import DreamJournal.Text.Basic

/-!
# Block references

A line can end in `^id`, a name under which other notes refer to it. The caret stands at the
start or behind white space, the name begins with a letter or a digit and goes on with letters,
digits and hyphens, and only white space follows.

Which characters count as white space is a parameter: a header takes all of them, a line of a
narrative only spaces and tabs. As a name holds no caret and no white space, the reference is
found from the end of the line, and there is never a second candidate.
-/
namespace DreamJournal.Reference

def isNamePart (c : Char) : Bool := c.isAlphanum || c == '-'

/-- The text before a trailing reference, without the white space between them, and the name. -/
def split? (isSpace : Char → Bool) (t : Text) : Option (Text × Text) :=
  let back := t.reverse.dropWhile isSpace
  let name := (back.takeWhile isNamePart).reverse
  match name, back.dropWhile isNamePart with
  | first :: _, '^' :: before =>
    let exposed :=
      match before with
      | [] => true
      | c :: _ => isSpace c
    if first.isAlphanum && exposed then some ((before.dropWhile isSpace).reverse, name) else none
  | _, _ => none

/-- The name of the reference at the end of a header. -/
def name? (t : Text) : Option Text := (split? Text.isBlank t).map Prod.snd

/-- A line without the reference at its end. -/
def removeFromLine (line : Text) : Text :=
  match split? Text.isGap line with
  | some (before, _) => before
  | none => line

/-- A text without the reference at the end of any of its lines. -/
def remove (t : Text) : Text := Text.joinLines ((Text.splitOn '\n' t).map removeFromLine)

end DreamJournal.Reference
