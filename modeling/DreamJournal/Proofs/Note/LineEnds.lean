import DreamJournal.Note.Basic
import DreamJournal.Proofs.Text.Splitting

/-!
# Line ends

A line of a note ends in a line feed, with a carriage return in front of it or not. Whichever end
each line has, the same lines are read from the text, and all that is found in a note is found in
its lines: front matter, callouts, dates and narratives. A body that is cleaned by itself is brought
to line feeds first, so it makes no difference there either.
-/
namespace DreamJournal

/-- What can be written behind a line. -/
inductive LineEnd where
  | feed
  | returnFeed
  deriving DecidableEq, Repr

def LineEnd.text : LineEnd → Text
  | feed => ['\n']
  | returnFeed => ['\r', '\n']

/-- Lines as they are written, each with its own end. -/
def Text.terminated (ended : List (Text × LineEnd)) : Text :=
  ended.flatMap fun (line, lineEnd) => line ++ lineEnd.text

variable {line : Text} {ended others : List (Text × LineEnd)}

namespace Text

theorem terminated_cons (line : Text) (lineEnd : LineEnd) (ended : List (Text × LineEnd)) :
    terminated ((line, lineEnd) :: ended) = line ++ (lineEnd.text ++ terminated ended) := by
  rw [terminated, List.flatMap_cons, List.append_assoc]
  rfl

/-! ## Reading the lines -/

theorem lines_append_returnFeed (unbroken : ∀ c ∈ line, isLineBreak c = false) (rest : Text) :
    lines (line ++ '\r' :: '\n' :: rest) = line :: lines rest := by
  induction line with
  | nil => rw [List.nil_append, lines]
  | cons c more ih =>
    have ⟨here, later⟩ := List.forall_mem_cons.mp unbroken
    rw [List.cons_append, lines_unbroken here, ih later]

theorem lines_append_end (unbroken : ∀ c ∈ line, isLineBreak c = false) (lineEnd : LineEnd)
    (rest : Text) : lines (line ++ (lineEnd.text ++ rest)) = line :: lines rest := by
  cases lineEnd with
  | feed => exact lines_append_break unbroken rest
  | returnFeed => exact lines_append_returnFeed unbroken rest

/-- Lines are read back whatever ends they have. -/
theorem lines_terminated
    (unbroken : ∀ line ∈ ended.map Prod.fst, ∀ c ∈ line, isLineBreak c = false) :
    lines (terminated ended) = ended.map Prod.fst := by
  induction ended with
  | nil => rfl
  | cons first rest ih =>
    obtain ⟨line, lineEnd⟩ := first
    have ⟨here, later⟩ := List.forall_mem_cons.mp unbroken
    rw [terminated_cons, lines_append_end here, ih later, List.map_cons]

/-! ## Writing the ends anew -/

theorem unixBreaks_append (absent : '\r' ∉ line) (rest : Text) :
    unixBreaks (line ++ rest) = line ++ unixBreaks rest := by
  induction line with
  | nil => rfl
  | cons c more ih =>
    have other : c ≠ '\r' := fun same => absent (same ▸ List.mem_cons_self)
    have later := ih fun member => absent (List.mem_cons_of_mem c member)
    rw [List.cons_append, unixBreaks, later, List.cons_append]
    intro _ same _
    exact other same

theorem unixBreaks_end (lineEnd : LineEnd) (rest : Text) :
    unixBreaks (lineEnd.text ++ rest) = '\n' :: unixBreaks rest := by
  cases lineEnd <;> rfl

theorem unixBreaks_terminated
    (unbroken : ∀ line ∈ ended.map Prod.fst, ∀ c ∈ line, isLineBreak c = false) :
    unixBreaks (terminated ended) =
      terminated (ended.map fun (line, _) => (line, LineEnd.feed)) := by
  induction ended with
  | nil => rfl
  | cons first rest ih =>
    obtain ⟨line, lineEnd⟩ := first
    have ⟨here, later⟩ := List.forall_mem_cons.mp unbroken
    -- a carriage return would break the line
    have absent : '\r' ∉ line := fun member => Bool.false_ne_true (here '\r' member).symm
    rw [terminated_cons, unixBreaks_append absent, unixBreaks_end, ih later, List.map_cons,
      terminated_cons]
    rfl

end Text

/-- The narrative in a body does not depend on the ends of its lines. -/
theorem Narrative.cleanWithBoundary_lineEnds (kind : Text) (mode : ParagraphMode)
    (unbroken : ∀ line ∈ ended.map Prod.fst, ∀ c ∈ line, Text.isLineBreak c = false)
    (same : ended.map Prod.fst = others.map Prod.fst) :
    cleanWithBoundary kind mode (Text.terminated ended) =
      cleanWithBoundary kind mode (Text.terminated others) := by
  have feeds (choice : List (Text × LineEnd)) :
      (choice.map fun (line, _) => (line, LineEnd.feed)) =
        (choice.map Prod.fst).map fun line => (line, LineEnd.feed) := by simp
  have breaks : Text.unixBreaks (Text.terminated ended) =
      Text.unixBreaks (Text.terminated others) := by
    rw [Text.unixBreaks_terminated unbroken, Text.unixBreaks_terminated (same ▸ unbroken), feeds,
      feeds, same]
  rw [cleanWithBoundary, cleanWithBoundary, breaks]

/-! ## Notes with the same lines -/

namespace Note

variable {note other : Text}

/-- The front matter of a note is found in its lines. -/
theorem frontMatterOf_eq_of_lines (same : Text.lines note = Text.lines other) (source : Text) :
    frontMatterOf source note = frontMatterOf source other := by
  have parts : FrontMatter.split note = FrontMatter.split other := by
    rw [FrontMatter.split, FrontMatter.split, same]
  rw [frontMatterOf, frontMatterOf, FrontMatter.ofNote, FrontMatter.ofNote, parts]

/-- What is in a note is in its lines. -/
theorem extract_eq_of_lines (same : Text.lines note = Text.lines other) (settings : Settings)
    (today : Date) (source : Text) :
    extract settings today source note = extract settings today source other := by
  rw [extract, extract, frontMatterOf_eq_of_lines same, same]

/-- Notes with the same lines hold the same, or fail for the same reason, whatever end each of the
lines has. -/
theorem extract_lineEnds (settings : Settings) (today : Date) (source : Text)
    (unbroken : ∀ line ∈ ended.map Prod.fst, ∀ c ∈ line, Text.isLineBreak c = false)
    (same : ended.map Prod.fst = others.map Prod.fst) :
    extract settings today source (Text.terminated ended) =
      extract settings today source (Text.terminated others) := by
  apply extract_eq_of_lines
  rw [Text.lines_terminated unbroken, Text.lines_terminated (same ▸ unbroken), same]

/-- Front matter, a journal and a dream, with both ends among the lines. -/
def mixedLines : List (Text × LineEnd) :=
  [(Text.of "---", .returnFeed), (Text.of "mood: calm", .feed), (Text.of "---", .returnFeed),
    (Text.of "> [!journal-entry]", .feed), (Text.of "> ^20250615", .returnFeed),
    (Text.of ">> [!dream-diary] Sea", .feed), (Text.of ">> waves", .returnFeed)]

/-- The note is read as if all of its lines ended in line feeds. -/
theorem extract_lineEnds_mixed :
    let plain := mixedLines.map fun (line, _) => (line, LineEnd.feed)
    (∀ line ∈ mixedLines.map Prod.fst, ∀ c ∈ line, Text.isLineBreak c = false) ∧
      mixedLines.map Prod.fst = plain.map Prod.fst ∧
      Text.terminated mixedLines ≠ Text.terminated plain ∧
      (∀ settings today source, extract settings today source (Text.terminated mixedLines) =
        extract settings today source (Text.terminated plain)) ∧
      ∃ x, extract Settings.standard ⟨2030, 1, 1, by decide⟩ (Text.of "a.md")
          (Text.terminated mixedLines) = .ok x ∧
        x.entries.map (fun e => (e.title, e.content, e.date.month)) =
          [(Text.of "Sea", Text.of "waves", some 6)] := by
  intro plain
  have unbroken : ∀ line ∈ mixedLines.map Prod.fst, ∀ c ∈ line, Text.isLineBreak c = false := by
    have none : (mixedLines.map Prod.fst).all (fun line => !line.any Text.isLineBreak) = true := by
      decide
    intro line listed c member
    simpa using List.any_eq_false.mp (by simpa using List.all_eq_true.mp none line listed) c member
  have same : mixedLines.map Prod.fst = plain.map Prod.fst := rfl
  refine ⟨unbroken, same, by decide,
    fun settings today source => extract_lineEnds settings today source unbroken same, ?_⟩
  have read : (match extract Settings.standard ⟨2030, 1, 1, by decide⟩ (Text.of "a.md")
      (Text.terminated mixedLines) with
    | .ok x => decide (x.entries.map (fun e => (e.title, e.content, e.date.month)) =
        [(Text.of "Sea", Text.of "waves", some 6)])
    | .error _ => false) = true := by decide +kernel
  split at read
  next x returned => exact ⟨x, returned, of_decide_eq_true read⟩
  next => cases read

end Note
end DreamJournal
