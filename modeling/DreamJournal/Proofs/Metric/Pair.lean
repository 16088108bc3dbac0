import DreamJournal.Metric.Extraction
import DreamJournal.Proofs.Callout.Outline
import DreamJournal.Proofs.Metric.Numeral
import DreamJournal.Proofs.Narrative.Lines
import DreamJournal.Proofs.OrderedMap
import DreamJournal.Proofs.Text.Phrase

/-!
# Metrics written as pairs

Pairs of a phrase and a whole number, written on one line of a metrics callout, are read as one
metric each. The names have to differ as names of metrics do: two pairs may then neither be the
same metric under their written names nor come to be the same one by a definition.
-/
namespace DreamJournal

variable {definitions : List MetricDefinition}

/-- A name and a whole number that is short enough to be read. -/
structure Metric.Pair where
  name : Phrase
  value : Int
  short : (Text.ofNat value.natAbs).length ≤ digitLimit

namespace Metric.Pair

def written (p : Pair) : Text := p.name.text ++ ':' :: ' ' :: Text.ofInt p.value

/-- Pairs on one line. -/
def line (pairs : List Pair) : Text := Text.join (Text.of ", ") (pairs.map written)

/-- The lines of a metrics callout: there is none without a pair. -/
def lines : List Pair → List Text
  | [] => []
  | p :: rest => [line (p :: rest)]

def definition? (definitions : List MetricDefinition) (p : Pair) : Option MetricDefinition :=
  MetricDefinition.lookup? definitions p.name.text

/-- The metric that a pair stands for. -/
def metric (definitions : List MetricDefinition) (p : Pair) : Metric where
  name := ((p.definition? definitions).map MetricDefinition.name).getD p.name.text
  raw := Text.ofInt p.value
  numeric := if (p.definition? definitions).any MetricDefinition.isText then none
    else some (.whole p.value)
  configured := (p.definition? definitions).isSome

/-- What is said of a pair whose value lies outside the bounds of its definition. -/
def report? (definitions : List MetricDefinition) (p : Pair) : Option Text :=
  rangeReport? (p.definition? definitions) (Text.ofInt p.value) (p.metric definitions).numeric

end Metric.Pair

/-! ## Lines and segments -/

theorem inked_of_mem_ofInt {c : Char} {n : Int} (member : c ∈ Text.ofInt n) :
    Text.isBlank c = false := by
  rcases Text.mem_ofInt member with rfl | digit
  · rfl
  · exact Text.isBlank_of_isAlphanum (Text.isAlphanum_of_isDigit digit)

namespace Metric

theorem ofSegment_pair (name : Phrase) {value : Text} (given : value ≠ [])
    (inked : ∀ c ∈ value, Text.isBlank c = false) :
    ofSegment (name.text ++ ':' :: ' ' :: value) = .ok (name.text, value) := by
  have cut : Text.cut? ':' (name.text ++ ':' :: ' ' :: value) = some (name.text, ' ' :: value) :=
    Text.cut?_append (name.not_mem_text rfl (by decide)) _
  have trimmed : Text.trim (' ' :: value) = value := Text.trim_eq_self inked
  simp [ofSegment, cut, trimmed, name.text_ne_nil, given]

/-- A line of a metrics callout that is as plain as lines of pairs are. -/
structure IsPlain (t : Text) : Prop where
  starts : ∃ c ∈ t.head?, c.isAlphanum = true
  ends : ∃ c ∈ t.getLast?, Text.isBlank c = false
  unbroken : ∀ c ∈ t, Text.isLineBreak c = false
  caret : '^' ∉ t

namespace IsPlain

variable {t : Text} {depth : Nat}

theorem isLine (plain : IsPlain t) : Text.IsLine t := by
  refine ⟨?_, plain.unbroken⟩
  rintro rfl
  obtain ⟨c, first, _⟩ := plain.starts
  cases first

theorem trim_eq (plain : IsPlain t) : Text.trim t = t :=
  Text.trimBoth_eq_self
    (Text.forall_of_exists plain.starts fun _ => Text.isBlank_of_isAlphanum)
    (Text.forall_of_exists plain.ends fun _ inked => inked)

theorem bareLine_eq (plain : IsPlain t) (given : depth ≠ 0) : bareLine (quoted depth t) = t := by
  have stripped : Marker.strip (quoted depth t) = t :=
    strip_quoted given (Text.forall_of_exists plain.starts fun _ => Text.isPart_of_isAlphanum)
  have untagged : ∀ more, t ≠ '[' :: '!' :: more := by
    rintro more rfl
    obtain ⟨c, first, letter⟩ := plain.starts
    exact Text.ne_of_isAlphanum letter rfl (Option.some.inj first).symm
  have kept : Reference.remove t = t :=
    (Narrative.mapLines_of_unbroken (plain.isLine.not_mem rfl)).trans
      (Narrative.removeFromLine_eq_self plain.caret)
  -- there is no tag to remove, and no reference
  rw [bareLine, stripped, plain.trim_eq]
  split
  next => exact absurd rfl (untagged _)
  next => rw [kept, plain.trim_eq]

theorem textOfLines_eq (plain : IsPlain t) (given : depth ≠ 0) :
    textOfLines [[], quoted depth t] = t := by
  have title : bareLine [] = [] := rfl
  simp [textOfLines, title, plain.bareLine_eq given, plain.isLine.nonempty, Text.joinLines]

end IsPlain
end Metric

namespace Metric.Pair

/-! ## Single pairs -/

theorem mem_written {c : Char} {p : Pair} (member : c ∈ p.written) :
    c.isAlphanum = true ∨ c ∈ [' ', ':', '-'] := by
  rcases List.mem_append.mp member with name | rest
  · rcases Phrase.mem_text name with letter | rfl
    · exact .inl (Text.isAlphanum_of_isAlpha letter)
    · exact .inr (by decide)
  · rcases List.mem_cons.mp rest with rfl | rest
    · exact .inr (by decide)
    · rcases List.mem_cons.mp rest with rfl | value
      · exact .inr (by decide)
      · rcases Text.mem_ofInt value with rfl | digit
        · exact .inr (by decide)
        · exact .inl (Text.isAlphanum_of_isDigit digit)

theorem written_ne_nil (p : Pair) : p.written ≠ [] := by simp [written]

theorem head_written (p : Pair) : ∃ c ∈ p.written.head?, c.isAlphanum = true := by
  obtain ⟨c, first, letter⟩ := p.name.head_text
  refine ⟨c, ?_, letter⟩
  rw [written, List.head?_append, Option.mem_def.mp first]
  rfl

theorem last_written (p : Pair) : ∃ c ∈ p.written.getLast?, Text.isBlank c = false := by
  have given := Text.ofInt_ne_nil p.value
  refine ⟨(Text.ofInt p.value).getLast given, ?_, inked_of_mem_ofInt (List.getLast_mem given)⟩
  have ends : p.written = (p.name.text ++ [':', ' ']) ++ Text.ofInt p.value := by simp [written]
  rw [ends, List.getLast?_append_of_ne_nil _ given]
  exact List.getLast?_eq_some_getLast given

theorem ofSegment_written (p : Pair) :
    ofSegment p.written = .ok (p.name.text, Text.ofInt p.value) :=
  ofSegment_pair p.name (Text.ofInt_ne_nil p.value) fun _ => inked_of_mem_ofInt

/-! ## The line of some pairs -/

section Line

theorem separator_eq : Text.of ", " = [',', ' '] := rfl

theorem head_line (p : Pair) (rest : List Pair) :
    ∃ c ∈ (line (p :: rest)).head?, c.isAlphanum = true := by
  obtain ⟨c, first, letter⟩ := p.head_written
  refine ⟨c, ?_, letter⟩
  rw [line, List.map_cons, Text.head?_join p.written_ne_nil]
  exact first

theorem last_line (p : Pair) (rest : List Pair) :
    ∃ c ∈ (line (p :: rest)).getLast?, Text.isBlank c = false := by
  obtain ⟨front, last, parts⟩ :=
    (p :: rest).eq_nil_or_concat'.resolve_left (List.cons_ne_nil p rest)
  obtain ⟨c, isLast, inked⟩ := last.last_written
  refine ⟨c, ?_, inked⟩
  rw [parts, line, List.map_append, List.map_singleton, Text.getLast?_join last.written_ne_nil]
  exact isLast

theorem mem_line {c : Char} {pairs : List Pair} (member : c ∈ line pairs) :
    c.isAlphanum = true ∨ c ∈ [' ', ':', '-', ','] := by
  rcases Text.mem_join member with between | ⟨piece, listed, inside⟩
  · rw [separator_eq] at between
    rcases List.mem_pair.mp between with rfl | rfl
    · exact .inr (by decide)
    · exact .inr (by decide)
  · obtain ⟨p, _, rfl⟩ := List.mem_map.mp listed
    exact (mem_written inside).imp_right fun mark => List.mem_append_left [','] mark

theorem isPlain_line (p : Pair) (rest : List Pair) : IsPlain (line (p :: rest)) where
  starts := head_line p rest
  ends := last_line p rest
  unbroken := by
    have marks : Text.IsLine [' ', ':', '-', ','] := .of_any rfl rfl
    intro c member
    rcases mem_line member with letter | mark
    · exact Text.isLineBreak_of_isAlphanum letter
    · exact marks.unbroken c mark
  caret := fun member => absurd (mem_line member) (by decide)

theorem isLine_line (p : Pair) (rest : List Pair) : Text.IsLine (line (p :: rest)) :=
  (isPlain_line p rest).isLine

theorem segments_line (p : Pair) (rest : List Pair) :
    segments (line (p :: rest)) = (p :: rest).map written := by
  have pieces : Text.splitOn ',' (line (p :: rest)) =
      p.written :: (rest.map written).map (' ' :: ·) := by
    -- the separator is a comma and a space, and texts are cut at the comma alone
    rw [line, List.map_cons, separator_eq, Text.join_pair]
    refine Text.splitOn_join (List.cons_ne_nil _ _) fun piece listed => ?_
    have absent (q : Pair) : ',' ∉ q.written :=
      fun member => absurd (mem_written member) (by decide)
    rcases List.mem_cons.mp listed with rfl | later
    · exact absent p
    · simp only [List.mem_map] at later
      obtain ⟨_, ⟨q, _, rfl⟩, rfl⟩ := later
      simp [absent q]
  have trimmed (q : Pair) : Text.trim q.written = q.written := by
    have alone := (isPlain_line q []).trim_eq
    rwa [line, List.map_singleton, Text.join_singleton] at alone
  have spaced (q : Pair) : Text.trim (' ' :: q.written) = q.written := trimmed q
  rw [segments, (isLine_line p rest).lines_eq, List.flatMap_singleton, pieces]
  simp [trimmed, spaced, written_ne_nil, Function.comp_def]

/-- The segments of a metrics callout without a title are the pairs on its line. -/
theorem segments_textOfLines {depth : Nat} (given : depth ≠ 0) (pairs : List Pair) :
    segments (textOfLines ([] :: (lines pairs).map (quoted depth))) = pairs.map written := by
  cases pairs with
  | nil => rfl
  | cons p rest =>
    rw [lines, List.map_singleton, (isPlain_line p rest).textOfLines_eq given, segments_line]

end Line

/-! ## Reading pairs -/

/-- A definition changes the name of a metric, but not what the name is compared by. -/
theorem key_metric (definitions : List MetricDefinition) (p : Pair) :
    key (p.metric definitions).name = key p.name.text := by
  unfold metric
  cases found : p.definition? definitions with
  | none => rfl
  | some d => exact of_decide_eq_true (List.find?_some found :)

theorem numberUnder?_value (definitions : List MetricDefinition) (p : Pair) :
    numberUnder? (p.definition? definitions) (Text.ofInt p.value) =
      .ok (p.metric definitions).numeric := by
  unfold metric
  cases p.definition? definitions with
  | none => exact number?_of_writes (writes_ofInt p.short)
  | some d =>
    cases isText : d.isText <;>
      simp [numberUnder?, isText, number?_of_writes (writes_ofInt p.short)]

/-- One pair becomes one metric, and is reported only when its value is out of range. -/
theorem extractFrom_cons {known : OrderedMap Text Metric} {p : Pair}
    (fresh : known.has (p.metric definitions).name = false) (rest : List Text) :
    extractFrom definitions known (p.written :: rest) =
      let later := extractFrom definitions
        (known ++ [((p.metric definitions).name, p.metric definitions)]) rest
      match p.report? definitions with
      | some message => later.reportFirst .metricOutOfRange message
      | none => later := by
  have name : ((MetricDefinition.lookup? definitions p.name.text).map MetricDefinition.name).getD
      p.name.text = (p.metric definitions).name := rfl
  have number := numberUnder?_value definitions p
  rw [definition?] at number
  rw [extractFrom, ofSegment_written]
  simp only [name, fresh, number, Bool.false_eq_true, if_false]
  rfl

/-- Pairs with different names are read as one metric each, in their order. -/
theorem extractFrom_written (definitions : List MetricDefinition) (known : OrderedMap Text Metric)
    (pairs : List Pair) (fresh : ∀ p ∈ pairs, known.has (p.metric definitions).name = false)
    (distinct : (pairs.map fun p => key p.name.text).Nodup) :
    extractFrom definitions known (pairs.map written) =
      ⟨known ++ pairs.map fun p => ((p.metric definitions).name, p.metric definitions),
        (pairs.filterMap (report? definitions)).map fun message => (.metricOutOfRange, message),
        none⟩ := by
  induction pairs generalizing known with
  | nil => simp [extractFrom]
  | cons p rest ih =>
    obtain ⟨here, later⟩ := List.forall_mem_cons.mp fresh
    rw [List.map_cons, List.nodup_cons] at distinct
    have still : ∀ q ∈ rest,
        OrderedMap.has (known ++ [((p.metric definitions).name, p.metric definitions)])
          (q.metric definitions).name = false := by
      intro q member
      -- equal display names would have equal keys, and the keys differ
      have other : (p.metric definitions).name ≠ (q.metric definitions).name := by
        intro same
        have keys := congrArg key same
        rw [key_metric, key_metric] at keys
        exact distinct.1 (keys ▸ List.mem_map_of_mem member)
      rw [OrderedMap.has_append, later q member]
      simp [OrderedMap.has, other]
    rw [List.map_cons, extractFrom_cons here, ih _ still distinct.2]
    cases report : p.report? definitions <;> simp [report, Extraction.reportFirst]

end Metric.Pair
end DreamJournal
