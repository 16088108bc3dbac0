import DreamJournal.Note.Basic
import DreamJournal.Proofs.Callout.Writing
import DreamJournal.Proofs.Dating.Stamp
import DreamJournal.Proofs.Metric.Pair
import DreamJournal.Proofs.Narrative.Written

/-!
# Notes in canonical form

What a journal says in its plainest form: days, dreams with a title, a narrative and metrics, and
nothing that is markup. `canonicalNote` writes journals down under the default names of callouts.
The lines of such a note are the lines of outlines, so its callouts are known.
-/
namespace DreamJournal

open Outline (write writeAll draw drawAll)
open DreamJournal.Metric (Pair)

variable {depth : Nat}

/-- A dream before it is written. -/
structure WrittenDream where
  title : Phrase
  narrative : List Phrase
  pairs : List Pair
  distinct : (pairs.map fun p => Metric.key p.name.text).Nodup

/-- The dreams of a day. -/
structure WrittenJournal where
  date : Date
  dreams : List WrittenDream

def WrittenDream.lines (t : WrittenDream) : List Text :=
  (Text.of ">> [!dream-diary] " ++ t.title.text) ::
    (t.narrative.map (fun p => Text.of ">> " ++ p.text) ++
      Text.of ">>> [!dream-metrics]" :: (Pair.lines t.pairs).map (Text.of ">>> " ++ ·))

def WrittenJournal.lines (j : WrittenJournal) : List Text :=
  (Text.of "> [!journal-entry] ^" ++ j.date.stamp) :: j.dreams.flatMap WrittenDream.lines

/-- The text of a note that holds some journals. -/
def canonicalNote (journals : List WrittenJournal) : Text :=
  Text.joinLines (journals.flatMap WrittenJournal.lines)

/-- The words of a narrative. -/
def WrittenDream.words (t : WrittenDream) : List Text := t.narrative.flatMap Phrase.words

/-- The entry that a dream of a day is to become. -/
def WrittenDream.entry (settings : Settings) (source : Text) (date : Date) (t : WrittenDream) :
    Entry where
  date := .ofDate date .blockReference
  title := t.title.text
  content := Text.joinWords t.words
  source := source
  anchor := date.stamp
  metrics := t.pairs.map fun p => ((p.metric settings.metrics).name, p.metric settings.metrics)
  wordCount := t.words.length
  metadata := []

/-- What there is to report of a dream: the values that are out of range. -/
def WrittenDream.reports (settings : Settings) (t : WrittenDream) : List (DiagnosticKind × Text) :=
  (t.pairs.filterMap (Pair.report? settings.metrics)).map fun message =>
    (.metricOutOfRange, message)

/-! ## Outlines -/

def Passage.ofLetter (t : Text) (starts : ∃ c ∈ t.head?, c.isAlphanum = true) : Passage where
  text := t
  starts := by
    obtain ⟨c, first, letter⟩ := starts
    exact ⟨c, first, Text.isBlank_of_isAlphanum letter, Text.ne_of_isAlphanum letter rfl,
      Text.ne_of_isAlphanum letter rfl⟩

def Phrase.passage (p : Phrase) : Passage := .ofLetter p.text p.head_text

def Metric.Pair.passages : List Pair → List Passage
  | [] => []
  | p :: rest => [.ofLetter (line (p :: rest)) (head_line p rest)]

theorem Phrase.isTitle (p : Phrase) : Header.IsTitle p.text where
  unbroken := p.not_mem_text rfl (by decide)
  starts := Text.forall_of_exists p.head_text fun _ => Text.isGap_of_isAlphanum
  ends := Text.forall_of_exists p.last_text fun _ => Text.isGap_of_isAlphanum

/-- The title of a journal is the name under which other notes refer to it. -/
theorem Date.isTitle_stamp (d : Date) : Header.IsTitle ('^' :: d.stamp) := by
  have plain : ∀ c ∈ '^' :: d.stamp, c = '^' ∨ c.isAlphanum = true := by
    intro c member
    rcases List.mem_cons.mp member with caret | digit
    · exact .inl caret
    · exact .inr (Text.isAlphanum_of_isDigit (Date.isDigit_of_mem_stamp digit))
  have noGap : ∀ c ∈ '^' :: d.stamp, Text.isGap c = false := by
    intro c member
    rcases plain c member with rfl | alphanum
    · rfl
    · exact Text.isGap_of_isAlphanum alphanum
  constructor
  case unbroken =>
    intro member
    rcases plain _ member with caret | alphanum
    · cases caret
    · cases alphanum
  case starts => exact fun c first => noGap c (List.mem_of_head? first)
  case ends => exact fun c last => noGap c (List.mem_of_getLast? last)

def Tag.journal (d : Date) : Tag where
  kind := Text.of "journal-entry"
  title := '^' :: d.stamp
  isKind := ⟨⟨'j', rfl, rfl⟩, List.all_eq_true.mp rfl, by decide +kernel⟩
  isTitle := d.isTitle_stamp

def Tag.diary (title : Phrase) : Tag where
  kind := Text.of "dream-diary"
  title := title.text
  isKind := ⟨⟨'d', rfl, rfl⟩, List.all_eq_true.mp rfl, by decide +kernel⟩
  isTitle := title.isTitle

def Tag.metrics : Tag where
  kind := Text.of "dream-metrics"
  title := []
  isKind := ⟨⟨'d', rfl, rfl⟩, List.all_eq_true.mp rfl, by decide +kernel⟩
  isTitle := ⟨by decide, by simp, by simp⟩

def Metric.Pair.outline (pairs : List Pair) : Outline := .callout .metrics (passages pairs) []

def WrittenDream.outline (t : WrittenDream) : Outline :=
  .callout (.diary t.title) (t.narrative.map Phrase.passage) [Pair.outline t.pairs]

def WrittenJournal.outline (j : WrittenJournal) : Outline :=
  .callout (.journal j.date) [] (j.dreams.map WrittenDream.outline)

/-! ## The lines of outlines -/

theorem Metric.Pair.passages_quoted (pairs : List Pair) :
    (passages pairs).map (fun q => quoted depth q.text) = (lines pairs).map (quoted depth) := by
  cases pairs <;> rfl

theorem Tag.written_diary (title : Phrase) :
    (Tag.diary title).written = Text.of "[!dream-diary] " ++ title.text := by
  simp [Tag.written, Tag.diary, title.text_ne_nil, Text.of]

theorem WrittenDream.lines_eq (t : WrittenDream) : t.lines = write 2 t.outline := by
  have metrics : writeAll 3 [Pair.outline t.pairs] =
      Text.of ">>> [!dream-metrics]" :: (Pair.lines t.pairs).map (Text.of ">>> " ++ ·) := by
    rw [Outline.writeAll_eq, List.flatMap_singleton, Pair.outline, write, Pair.passages_quoted,
      writeAll, List.append_nil]
    rfl
  rw [lines, outline, write, metrics, Tag.written_diary, List.map_map]
  rfl

theorem WrittenJournal.lines_eq (j : WrittenJournal) : j.lines = write 1 j.outline := by
  have dreams : j.dreams.flatMap WrittenDream.lines =
      writeAll 2 (j.dreams.map WrittenDream.outline) := by
    rw [Outline.writeAll_eq, List.flatMap_map]
    exact congrArg (List.flatMap · j.dreams) (funext WrittenDream.lines_eq)
  rw [lines, outline, write, dreams]
  rfl

theorem flatMap_lines (journals : List WrittenJournal) :
    journals.flatMap WrittenJournal.lines = writeAll 1 (journals.map WrittenJournal.outline) := by
  rw [Outline.writeAll_eq, List.flatMap_map]
  exact congrArg (List.flatMap · journals) (funext WrittenJournal.lines_eq)

/-! ## Reading the lines back -/

theorem WrittenDream.isLine (t : WrittenDream) : ∀ line ∈ t.lines, Text.IsLine line := by
  have title : Text.IsLine (Text.of ">> [!dream-diary] " ++ t.title.text) :=
    Text.IsLine.append (.of_any rfl rfl) t.title.isLine_text.unbroken
  have metrics : Text.IsLine (Text.of ">>> [!dream-metrics]") := .of_any rfl rfl
  have pairs : ∀ line ∈ Pair.lines t.pairs, Text.IsLine (Text.of ">>> " ++ line) := by
    intro line listed
    cases pairs : t.pairs with
    | nil =>
      rw [pairs] at listed
      cases listed
    | cons p rest =>
      rw [pairs] at listed
      rw [List.mem_singleton.mp listed]
      exact Text.IsLine.append (.of_any rfl rfl) (Pair.isLine_line p rest).unbroken
  intro line listed
  rcases List.mem_cons.mp listed with rfl | listed
  · exact title
  · rcases List.mem_append.mp listed with narrative | listed
    · obtain ⟨p, _, rfl⟩ := List.mem_map.mp narrative
      exact Narrative.isLine_phrase 2 p
    · rcases List.mem_cons.mp listed with rfl | listed
      · exact metrics
      · obtain ⟨line, isPairs, rfl⟩ := List.mem_map.mp listed
        exact pairs line isPairs

theorem WrittenJournal.isLine (j : WrittenJournal) : ∀ line ∈ j.lines, Text.IsLine line := by
  have header : Text.IsLine (Text.of "> [!journal-entry] ^" ++ j.date.stamp) :=
    Text.IsLine.append (.of_any rfl rfl) fun c digit =>
      Text.isLineBreak_of_isAlphanum (Text.isAlphanum_of_isDigit (Date.isDigit_of_mem_stamp digit))
  intro line listed
  rcases List.mem_cons.mp listed with rfl | listed
  · exact header
  · obtain ⟨t, _, inside⟩ := List.mem_flatMap.mp listed
    exact t.isLine line inside

theorem lines_canonicalNote (journals : List WrittenJournal) :
    Text.lines (canonicalNote journals) = writeAll 1 (journals.map WrittenJournal.outline) := by
  rw [canonicalNote, Text.lines_joinLines, flatMap_lines]
  intro line listed
  obtain ⟨j, _, inside⟩ := List.mem_flatMap.mp listed
  exact j.isLine line inside

/-- The callouts of a canonical note are those of its journals, and there is nothing to warn
about. -/
theorem scan_canonicalNote (journals : List WrittenJournal) :
    Scan.ofText (canonicalNote journals) =
      ⟨drawAll 1 0 (journals.map WrittenJournal.outline), []⟩ := by
  rw [Scan.ofText, lines_canonicalNote, Scan.ofLines_writeAll]

/-- A fence begins with a hyphen, and a quoted line with a marker. -/
theorem isFence_quoted (given : depth ≠ 0) (t : Text) :
    FrontMatter.isFence (quoted depth t) = false := by
  obtain ⟨depth, rfl⟩ := Nat.exists_eq_succ_of_ne_zero given
  have starts : ∀ c ∈ (quoted (depth + 1) t).head?, Text.isBlank c = false := by
    rintro c ⟨⟩
    rfl
  refine decide_eq_false fun fence => ?_
  -- nothing is trimmed from the front, so a fence would have to begin with the marker
  have front : Text.trim (quoted (depth + 1) t) <+: quoted (depth + 1) t := by
    rw [Text.trim, Text.trimBoth, Text.dropWhile_eq_self starts]
    have kept := List.reverse_prefix.mpr
      (List.dropWhile_suffix Text.isBlank (l := (quoted (depth + 1) t).reverse))
    rwa [List.reverse_reverse] at kept
  rw [fence] at front
  have same := (List.cons_prefix_cons.mp front).1
  cases same

/-- A canonical note has no front matter. -/
theorem ofNote_canonicalNote (journals : List WrittenJournal) :
    FrontMatter.ofNote (canonicalNote journals) = .ok [] := by
  have none : FrontMatter.split (canonicalNote journals) =
      ([], writeAll 1 (journals.map WrittenJournal.outline)) := by
    rw [FrontMatter.split, lines_canonicalNote]
    -- front matter has to open on the first line, which is the header of a journal if any
    cases journals with
    | nil => rfl
    | cons j rest =>
      rw [List.map_cons, writeAll, WrittenJournal.outline, write, List.cons_append,
        FrontMatter.splitLines, isFence_quoted Nat.one_ne_zero]
      rfl
  rw [FrontMatter.ofNote, none]
  rfl

end DreamJournal
