import DreamJournal.Text.Basic

/-!
# Quote markers

A quoted line begins with a run of `>` markers, with any gaps before, between and after them.
The number of markers is the depth of the line; the gaps carry no meaning.
-/
namespace DreamJournal.Marker

/-- A character that can belong to the marker run of a line. -/
def isPart (c : Char) : Bool := c == '>' || Text.isGap c

/-- How many markers lead a line. -/
def count (line : Text) : Nat := (line.takeWhile isPart).count '>'

/-- A line without its marker run; a line without markers stays as it is. -/
def strip (line : Text) : Text := if count line = 0 then line else line.dropWhile isPart

end DreamJournal.Marker
