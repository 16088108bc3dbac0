import DreamJournal.Dating.Strategies

/-!
# Resolving a date

A journal gets exactly one date: that of the first strategy that finds one. The complaints of
the strategies tried up to then become diagnostics, in order. When no strategy finds a date, the
day on which the note is read stands in, and a diagnostic says so.
-/
namespace DreamJournal.Dating

/-- Where the date of a journal is looked for. -/
structure Context where
  /-- The header of the journal and the lines behind it. -/
  lines : List Text
  frontMatter : OrderedMap Text Text
  path : Text
  deriving Repr

/-- The line in which the long form of a date is looked for. -/
def Context.header (context : Context) : Text := context.lines.headD []

/-- The strategies that look at a context, in order. -/
def findings (context : Context) : List Finding :=
  [fromBlockReference context.lines, fromLongDate context.header,
    fromFrontMatter context.frontMatter, ⟨fromPath context.path, []⟩]

/-- The first date among some findings, and the complaints made up to it. -/
def firstDate : List Finding → Finding
  | [] => Finding.nothing
  | found :: rest =>
    match found.date with
    | some _ => found
    | none =>
      let later := firstDate rest
      { later with complaints := found.complaints ++ later.complaints }

def unresolved : Text :=
  Text.of "No block reference, header date, front matter date or path year; using today"

/-- The date when all strategies fail. -/
def fallback (today : Date) : ResolvedDate := .ofDate today .fallbackToday

/-- The date of a journal and the diagnostics about it. -/
def resolve (context : Context) (source : Text) (line : Option Nat) (today : Date) :
    ResolvedDate × List Diagnostic :=
  let found := firstDate (findings context)
  let complaints := found.diagnostics source
  match found.date with
  | some date => (date, complaints)
  | none => (fallback today, complaints ++ [⟨source, .dateUnresolved, unresolved, line⟩])

end DreamJournal.Dating
