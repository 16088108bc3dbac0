import DreamJournal.Narrative.Clean

/-!
# Titles

A dream is named by the header of its diary. What stands in front of the first wiki link is the
title; when nothing is left of that, the first wiki link is; when there is none, the dream is
untitled.
-/
namespace DreamJournal.Narrative

def untitled : Text := Text.of "Untitled Dream"

/-- A character that may separate a title from what follows it. -/
def isTitleEdge (c : Char) : Bool :=
  c == ' ' || c == '-' || c == '–' || c == '—' || c == ':' || c == '|'

/-- The part of a text in front of its first wiki link. -/
def beforeLink : Text → Text
  | [] => []
  | '[' :: '[' :: _ => []
  | c :: rest => c :: beforeLink rest

/-- The title in the header of a diary. -/
def title (header : Text) : Text :=
  let header := Text.trim (Reference.remove header)
  let plain := stripInlineMarkup (stripBlockMarkup (beforeLink header))
  let leading := Text.trimBoth isTitleEdge (collapse .joined plain)
  if !leading.isEmpty then leading
  else
    match wikiLink.findAll header with
    | display :: _ => if display.isEmpty then untitled else display
    | [] => untitled

end DreamJournal.Narrative
