import DreamJournal.Metric.Extraction
import DreamJournal.Proofs.OrderedMap
import DreamJournal.Proofs.Text.Splitting

/-!
# How a metrics text is read

Reading goes through the segments and knows the metrics that it has read. What can happen to a
segment is one of four things, `Reads`: it is malformed, it has the name of a metric that is known,
it is a whole number with too many digits, or it becomes a metric. All but the third leave the rest
to be read; so reading ends early at the first segment that is the third, and `Reads.ended_iff`
says which that is without going through the segments.

A metric goes by the name of its definition. So no two metrics have one name, and under the name of
a definition there are only metrics that have a definition.
-/
namespace DreamJournal

open DreamJournal.Metric

variable {definitions : List MetricDefinition} {known : OrderedMap Text Metric}
  {segment name raw : Text} {rest segments : List Text} {e : Metric.Extraction}

namespace Metric

/-- The name that a metric goes by. -/
def displayName (definitions : List MetricDefinition) (name : Text) : Text :=
  ((MetricDefinition.lookup? definitions name).map MetricDefinition.name).getD name

/-- The name that a segment would go by as a metric, when it is well formed. -/
def shownAs? (definitions : List MetricDefinition) (segment : Text) : Option Text :=
  (ofSegment segment).toOption.map fun written => displayName definitions written.1

/-- A whole number with more digits than are read. -/
def IsOverlong (raw : Text) : Prop :=
  ∃ sign ∈ [[], ['+'], ['-']], ∃ digits, Text.trim raw = sign ++ digits ∧
    digits.all Text.isDecimal = true ∧ digitLimit < digits.length

/-- A segment is a whole number with too many digits that no definition makes a text, and neither a
known metric nor a segment in front of it has its name. -/
def EndsAt (definitions : List MetricDefinition) (known : OrderedMap Text Metric)
    (before : List Text) (segment : Text) : Prop :=
  ∃ name raw, ofSegment segment = .ok (name, raw) ∧ IsOverlong raw ∧
    (∀ d, MetricDefinition.lookup? definitions name = some d → d.isText = false) ∧
    displayName definitions name ∉ known.keys ∧
    ∀ earlier ∈ before, shownAs? definitions earlier ≠ some (displayName definitions name)

/-- Among some segments is one at which reading ends. -/
def EndEarly (definitions : List MetricDefinition) (known : OrderedMap Text Metric)
    (segments : List Text) : Prop :=
  ∃ before segment after, segments = before ++ segment :: after ∧
    EndsAt definitions known before segment

/-- What comes of reading segments when some metrics are known. -/
inductive Reads (definitions : List MetricDefinition) :
    (known : OrderedMap Text Metric) → (segments : List Text) → Extraction → Prop where
  | done (known : OrderedMap Text Metric) : Reads definitions known [] ⟨known, [], none⟩
  | malformed {known : OrderedMap Text Metric} {segment : Text} {rest : List Text} {e : Extraction}
      {fault : SegmentFault} (refused : ofSegment segment = .error fault)
      (later : Reads definitions known rest e) :
      Reads definitions known (segment :: rest) (e.reportFirst .metricMalformed fault.message)
  | again {known : OrderedMap Text Metric} {segment name raw : Text} {rest : List Text}
      {e : Extraction} (isPair : ofSegment segment = .ok (name, raw))
      (isKnown : displayName definitions name ∈ known.keys)
      (later : Reads definitions known rest e) :
      Reads definitions known (segment :: rest)
        (e.reportFirst .metricMalformed (duplicate (displayName definitions name) raw))
  | overlong {known : OrderedMap Text Metric} {segment name raw : Text} {rest : List Text}
      {fault : TooManyDigits} (isPair : ofSegment segment = .ok (name, raw))
      (isNew : displayName definitions name ∉ known.keys)
      (number : numberUnder? (MetricDefinition.lookup? definitions name) raw = .error fault) :
      Reads definitions known (segment :: rest) ⟨known, [], some fault⟩
  | metric {known : OrderedMap Text Metric} {segment name raw : Text} {rest : List Text}
      {e : Extraction} {numeric : Option Number} (isPair : ofSegment segment = .ok (name, raw))
      (isNew : displayName definitions name ∉ known.keys)
      (number : numberUnder? (MetricDefinition.lookup? definitions name) raw = .ok numeric)
      (later : Reads definitions (known ++ [(displayName definitions name,
        ⟨displayName definitions name, raw, numeric,
          (MetricDefinition.lookup? definitions name).isSome⟩)]) rest e) :
      Reads definitions known (segment :: rest)
        (match rangeReport? (MetricDefinition.lookup? definitions name) raw numeric with
          | some message => e.reportFirst .metricOutOfRange message
          | none => e)

theorem reads_extractFrom (definitions : List MetricDefinition) (known : OrderedMap Text Metric)
    (segments : List Text) :
    Reads definitions known segments (extractFrom definitions known segments) := by
  induction segments generalizing known with
  | nil => exact .done known
  | cons segment rest ih =>
    rw [extractFrom]
    cases pair : ofSegment segment with
    | error fault => exact .malformed pair (ih known)
    | ok written =>
      obtain ⟨name, raw⟩ := written
      dsimp only
      split
      next isKnown =>
        exact .again pair ((OrderedMap.has_iff_mem_keys known _).mp isKnown) (ih known)
      next isNew =>
        have absent : displayName definitions name ∉ known.keys :=
          fun member => isNew ((OrderedMap.has_iff_mem_keys known _).mpr member)
        cases number : numberUnder? (MetricDefinition.lookup? definitions name) raw with
        | error fault => exact .overlong pair absent number
        | ok numeric => exact .metric pair absent number (ih _)

theorem Reads.report_kind (reads : Reads definitions known segments e) :
    ∀ report ∈ e.reports, report.1 ∈ [.metricMalformed, .metricOutOfRange] := by
  induction reads with
  | done => simp
  | malformed _ _ ih => exact List.forall_mem_cons.mpr ⟨by simp, ih⟩
  | again _ _ _ ih => exact List.forall_mem_cons.mpr ⟨by simp, ih⟩
  | overlong => simp
  | metric _ _ _ _ ih =>
    split
    · exact List.forall_mem_cons.mpr ⟨by simp, ih⟩
    · exact ih

/-! ## Numbers that are not read -/

/-- A sign is taken for one when no other sign follows it. -/
theorem signOf_signed {sign rest : Text} (isSign : sign ∈ [[], ['+'], ['-']])
    (unsigned : ∀ c ∈ rest.head?, c ≠ '+' ∧ c ≠ '-') :
    signOf (sign ++ rest) = (decide (sign = ['-']), rest) := by
  simp only [List.mem_cons, List.not_mem_nil, or_false] at isSign
  rcases isSign with rfl | rfl | rfl
  · rw [List.nil_append]
    unfold signOf
    split
    next => exact absurd rfl (unsigned '-' rfl).2
    next => exact absurd rfl (unsigned '+' rfl).1
    next => rfl
  · rfl
  · rfl

theorem unsigned_of_all_decimal {digits : Text} (decimal : digits.all Text.isDecimal = true) :
    ∀ c ∈ digits.head?, c ≠ '+' ∧ c ≠ '-' := by
  intro c first
  have isDigit := List.all_eq_true.mp decimal c (List.mem_of_head? first)
  constructor
  · rintro rfl
    exact absurd isDigit (by decide)
  · rintro rfl
    exact absurd isDigit (by decide)

theorem signOf_append {sign digits : Text} (isSign : sign ∈ [[], ['+'], ['-']])
    (decimal : digits.all Text.isDecimal = true) : (signOf (sign ++ digits)).2 = digits := by
  rw [signOf_signed isSign (unsigned_of_all_decimal decimal)]

theorem exists_sign (t : Text) : ∃ sign ∈ [[], ['+'], ['-']], t = sign ++ (signOf t).2 := by
  unfold signOf
  split
  · exact ⟨['-'], by simp, rfl⟩
  · exact ⟨['+'], by simp, rfl⟩
  · exact ⟨[], by simp, rfl⟩

theorem number?_error_iff (raw : Text) :
    (∃ fault, number? raw = .error fault) ↔ IsOverlong raw := by
  unfold number?
  constructor
  · rintro ⟨fault, refused⟩
    obtain ⟨sign, isSign, parts⟩ := exists_sign (Text.trim raw)
    dsimp only at refused
    split at refused
    · split at refused
      · cases refused
      next isNumber =>
        split at refused
        next long =>
          simp only [Bool.or_eq_true, not_or, Bool.not_eq_true, Bool.not_eq_false'] at isNumber
          exact ⟨sign, isSign, _, parts, isNumber.2, long⟩
        next => cases refused
    · split at refused <;> cases refused
  · rintro ⟨sign, isSign, digits, parts, decimal, long⟩
    have uncut : Text.cut? '.' digits = none := by
      refine Text.cut?_eq_none fun member => ?_
      exact absurd (List.all_eq_true.mp decimal _ member) (by decide)
    have nonempty : digits.isEmpty = false := by
      rw [List.isEmpty_eq_false_iff_exists_mem]
      exact List.exists_mem_of_length_pos (Nat.zero_lt_of_lt long)
    refine ⟨⟨digits.length⟩, ?_⟩
    simp [parts, signOf_append isSign decimal, uncut, decimal, nonempty, long]

theorem numberUnder?_error_iff (definition : Option MetricDefinition) (raw : Text) :
    (∃ fault, numberUnder? definition raw = .error fault) ↔
      IsOverlong raw ∧ ∀ d, definition = some d → d.isText = false := by
  cases definition with
  | none => simp [numberUnder?, number?_error_iff]
  | some d => cases text : d.isText <;> simp [numberUnder?, text, number?_error_iff]

/-! ## Where reading ends -/

/-- A segment at which reading does not end can be left out, when its name is known from there. -/
theorem endEarly_cons_iff {later : OrderedMap Text Metric}
    (notHere : ¬EndsAt definitions known [] segment)
    (same : ∀ shown, shown ∉ later.keys ↔
      shown ∉ known.keys ∧ shownAs? definitions segment ≠ some shown) :
    EndEarly definitions known (segment :: rest) ↔ EndEarly definitions later rest := by
  have moved (before : List Text) (last : Text) :
      EndsAt definitions known (segment :: before) last ↔ EndsAt definitions later before last := by
    simp only [EndsAt, List.forall_mem_cons, same, and_assoc]
  constructor
  · rintro ⟨before, last, after, parts, ends⟩
    cases before with
    | nil =>
      obtain ⟨rfl, -⟩ := List.cons.inj parts
      exact absurd ends notHere
    | cons first before =>
      obtain ⟨rfl, rfl⟩ := List.cons.inj parts
      exact ⟨before, last, after, rfl, (moved before last).mp ends⟩
  · rintro ⟨before, last, after, rfl, ends⟩
    exact ⟨segment :: before, last, after, rfl, (moved before last).mpr ends⟩

theorem shownAs?_of_ok (isPair : ofSegment segment = .ok (name, raw)) :
    shownAs? definitions segment = some (displayName definitions name) := by
  rw [shownAs?, isPair]
  rfl

theorem endsAt_nil_iff (isPair : ofSegment segment = .ok (name, raw)) :
    EndsAt definitions known [] segment ↔
      displayName definitions name ∉ known.keys ∧
        ∃ fault, numberUnder? (MetricDefinition.lookup? definitions name) raw = .error fault := by
  rw [numberUnder?_error_iff]
  constructor
  · rintro ⟨name', raw', isPair', long, notText, isNew, _⟩
    obtain ⟨rfl, rfl⟩ := Prod.mk.inj (Except.ok.inj (isPair.symm.trans isPair'))
    exact ⟨isNew, long, notText⟩
  · rintro ⟨isNew, long, notText⟩
    exact ⟨name, raw, isPair, long, notText, isNew, by simp⟩

/-- Reading ends early exactly at a segment where it has to. -/
theorem Reads.ended_iff (reads : Reads definitions known segments e) :
    (∃ fault, e.ended = some fault) ↔ EndEarly definitions known segments := by
  induction reads with
  | done known =>
    constructor
    · rintro ⟨fault, ended⟩
      cases ended
    · rintro ⟨before, segment, after, parts, _⟩
      cases before <;> cases parts
  | malformed refused later ih =>
    rw [endEarly_cons_iff, ← ih]
    · rfl
    · rintro ⟨name, raw, isPair, _⟩
      rw [refused] at isPair
      cases isPair
    · intro shown
      simp [shownAs?, refused, Except.toOption]
  | again isPair isKnown later ih =>
    rw [endEarly_cons_iff, ← ih]
    · rfl
    · rw [endsAt_nil_iff isPair]
      exact fun ends => ends.1 isKnown
    · intro shown
      rw [shownAs?_of_ok isPair]
      constructor
      · refine fun absent => ⟨absent, ?_⟩
        rintro ⟨rfl⟩
        exact absent isKnown
      · exact And.left
  | overlong isPair isNew number =>
    -- reading ends here, and nothing stands in front
    refine iff_of_true ⟨_, rfl⟩ ⟨[], _, _, rfl, ?_⟩
    exact (endsAt_nil_iff isPair).mpr ⟨isNew, _, number⟩
  | @metric known segment name raw rest e numeric isPair isNew number later ih =>
    rw [endEarly_cons_iff, ← ih]
    · split <;> rfl
    · rw [endsAt_nil_iff isPair, number]
      rintro ⟨_, fault, refused⟩
      cases refused
    · -- the one name that is known from here on is that of the segment
      intro shown
      rw [shownAs?_of_ok isPair]
      simp [OrderedMap.keys, eq_comm]

/-! ## Names of metrics -/

/-- Metrics with a name of its own each, and a definition if one has that name. -/
structure WellKept (definitions : List MetricDefinition) (metrics : OrderedMap Text Metric) :
    Prop where
  distinct : metrics.keys.Nodup
  configured_iff : ∀ entry ∈ metrics,
    entry.2.configured = true ↔ ∃ d ∈ definitions, d.name = entry.1

theorem wellKept_nil (definitions : List MetricDefinition) : WellKept definitions [] :=
  ⟨List.nodup_nil, by simp⟩

theorem isSome_lookup?_iff (definitions : List MetricDefinition) (name : Text) :
    (MetricDefinition.lookup? definitions name).isSome = true ↔
      ∃ d ∈ definitions, d.name = displayName definitions name := by
  unfold displayName
  cases found : MetricDefinition.lookup? definitions name with
  | some d =>
    refine iff_of_true rfl ⟨d, ?_, rfl⟩
    exact List.mem_reverse.mp (List.mem_of_find?_eq_some found)
  | none =>
    refine iff_of_false (by simp) ?_
    rintro ⟨d, member, same⟩
    -- its key would be the one that was looked up
    have other := List.find?_eq_none.mp found d (List.mem_reverse.mpr member)
    apply other
    rw [decide_eq_true_eq, MetricDefinition.key, same]
    rfl

theorem Reads.wellKept (reads : Reads definitions known segments e)
    (before : WellKept definitions known) : WellKept definitions e.metrics := by
  induction reads with
  | done => exact before
  | malformed _ _ ih => exact ih before
  | again _ _ _ ih => exact ih before
  | overlong => exact before
  | @metric known segment name raw rest e numeric isPair isNew number later ih =>
    -- a value out of range is reported, and the metric is kept
    have kept : (match rangeReport? (MetricDefinition.lookup? definitions name) raw numeric with
        | some message => e.reportFirst .metricOutOfRange message
        | none => e).metrics = e.metrics := by
      split <;> rfl
    rw [kept]
    apply ih
    constructor
    case distinct =>
      rw [OrderedMap.keys, List.map_append, List.nodup_append]
      refine ⟨before.distinct, by simp, ?_⟩
      rintro shown old _ new rfl
      obtain rfl := List.mem_singleton.mp new
      exact isNew old
    case configured_iff =>
      intro entry member
      rcases List.mem_append.mp member with old | new
      · exact before.configured_iff entry old
      · obtain rfl := List.mem_singleton.mp new
        exact isSome_lookup?_iff definitions name

theorem extract_wellKept (definitions : List MetricDefinition) (t : Text) :
    WellKept definitions (extract definitions t).metrics :=
  (reads_extractFrom definitions [] (segments t)).wellKept (wellKept_nil definitions)

/-- No metric that is spelled like the word count has a definition. -/
theorem WellKept.wordCount_apart {metrics : OrderedMap Text Metric}
    (kept : WellKept definitions metrics) {entry : Text × Metric} (member : entry ∈ metrics)
    (spelled : key entry.1 = key wordCountName) : entry.2.configured = false := by
  rw [← Bool.not_eq_true, kept.configured_iff entry member]
  rintro ⟨d, _, same⟩
  exact d.acceptable.2.1 (same ▸ spelled)

end Metric
end DreamJournal
