import DreamJournal.Metric.Standard
import DreamJournal.Proofs.Metric.Reading
import Mathlib.Data.List.Nodup

/-!
# Every segment is accounted for

A segment that is well formed and the first with its name becomes a metric, and every other one is
reported as malformed. So the metrics and these reports are as many as the segments, and the metrics
stand in the order of the first segments. The definition of a metric is found from its name again,
as no two definitions have one key; hence the numbers that are reported to be out of range can be
counted among the metrics that came of it.
-/
namespace DreamJournal

open DreamJournal.Metric

variable {definitions : List MetricDefinition} {known : OrderedMap Text Metric}
  {segment name raw : Text} {before segments : List Text} {e : Metric.Extraction}

/-! ## Definitions with distinct keys -/

theorem MetricDefinition.lookup?_mem {d : MetricDefinition}
    (found : lookup? definitions name = some d) : d ∈ definitions ∧ d.key = Metric.key name := by
  constructor
  · exact List.mem_reverse.mp (List.mem_of_find?_eq_some found)
  · have passed := List.find?_some found
    exact of_decide_eq_true passed

theorem MetricDefinition.lookup?_of_mem (distinct : (definitions.map key).Nodup)
    {d : MetricDefinition} (member : d ∈ definitions) (keyed : d.key = Metric.key name) :
    lookup? definitions name = some d := by
  cases found : lookup? definitions name with
  | none =>
    have other := List.find?_eq_none.mp found d (List.mem_reverse.mpr member)
    exact absurd (decide_eq_true keyed) other
  | some other =>
    have ⟨listed, same⟩ := lookup?_mem found
    rw [List.inj_on_of_nodup_map distinct listed member (same.trans keyed.symm)]

theorem MetricDefinition.lookup?_eq_none (absent : ∀ d ∈ definitions, d.key ≠ Metric.key name) :
    lookup? definitions name = none := by
  refine List.find?_eq_none.mpr fun d member => ?_
  simpa using absent d (List.mem_reverse.mp member)

namespace Metric

/-! ## Well-formed segments -/

/-- A segment is a name and a value, with the first colon between them. -/
def IsPair (segment name raw : Text) : Prop :=
  ∃ front back, segment = front ++ ':' :: back ∧ ':' ∉ front ∧
    name = Text.oneSpaced front ∧ raw = Text.trim back ∧ name ≠ [] ∧ raw ≠ []

theorem ofSegment_eq_ok_iff : ofSegment segment = .ok (name, raw) ↔ IsPair segment name raw := by
  constructor
  · intro returned
    unfold ofSegment at returned
    cases cut : Text.cut? ':' segment with
    | none => simp [cut] at returned
    | some parts =>
      obtain ⟨front, back⟩ := parts
      obtain ⟨whole, absent⟩ := Text.cut?_eq_some_iff.mp cut
      rw [cut] at returned
      dsimp only at returned
      split at returned
      · cases returned
      next named =>
        split at returned
        · cases returned
        next valued =>
          obtain ⟨rfl, rfl⟩ := Prod.mk.inj (Except.ok.inj returned)
          exact ⟨front, back, whole, absent, rfl, rfl, by simpa using named, by simpa using valued⟩
  · rintro ⟨front, back, rfl, absent, rfl, rfl, named, valued⟩
    simp [ofSegment, Text.cut?_append absent, named, valued]

/-- The metric that a well-formed segment stands for: under the name of the definition with its key,
or else under its own. -/
structure StandsFor (definitions : List MetricDefinition) (segment : Text)
    (entry : Text × Metric) : Prop where
  named : entry.2.name = entry.1
  shown : shownAs? definitions segment = some entry.1
  written : ∃ name, IsPair segment name entry.2.raw ∧
    (∀ d ∈ definitions, d.key = key name →
      entry.1 = d.name ∧ entry.2.configured = true ∧
        if d.isText then entry.2.numeric = none else number? entry.2.raw = .ok entry.2.numeric) ∧
    ((∀ d ∈ definitions, d.key ≠ key name) →
      entry.1 = name ∧ entry.2.configured = false ∧
        number? entry.2.raw = .ok entry.2.numeric)

theorem standsFor_of_pair (distinct : (definitions.map MetricDefinition.key).Nodup)
    (isPair : ofSegment segment = .ok (name, raw)) {numeric : Option Number}
    (number : numberUnder? (MetricDefinition.lookup? definitions name) raw = .ok numeric) :
    StandsFor definitions segment (displayName definitions name,
      ⟨displayName definitions name, raw, numeric,
        (MetricDefinition.lookup? definitions name).isSome⟩) := by
  refine ⟨rfl, shownAs?_of_ok isPair, name, ofSegment_eq_ok_iff.mp isPair, ?_, ?_⟩
  · intro d member keyed
    have found := MetricDefinition.lookup?_of_mem distinct member keyed
    rw [found] at number
    refine ⟨by simp [displayName, found], by simp [found], ?_⟩
    cases text : d.isText with
    | true => simpa [numberUnder?, text, eq_comm] using number
    | false => simpa [numberUnder?, text] using number
  · intro absent
    have found := MetricDefinition.lookup?_eq_none absent
    rw [found] at number
    exact ⟨by simp [displayName, found], by simp [found], number⟩

theorem IsOverlong.length_lt (long : IsOverlong raw) : digitLimit < raw.length := by
  obtain ⟨sign, _, digits, parts, _, many⟩ := long
  have part : (Text.trim raw).length ≤ raw.length :=
    (Text.trimBoth_sublist Text.isBlank raw).length_le
  rw [parts, List.length_append] at part
  omega

/-! ## The first segments with their names -/

/-- Whether a segment is well formed and none in front of it goes by its name. -/
def isFirst (definitions : List MetricDefinition) (before : List Text) (segment : Text) : Bool :=
  match shownAs? definitions segment with
  | some shown => before.all fun earlier => shownAs? definitions earlier ≠ some shown
  | none => false

/-- The segments that are the first with their names, behind some others. -/
def firstsBehind (definitions : List MetricDefinition) (before : List Text) : List Text → List Text
  | [] => []
  | segment :: rest =>
    let later := firstsBehind definitions (before ++ [segment]) rest
    if isFirst definitions before segment then segment :: later else later

/-- The segments that are the first with their names. -/
def firsts (definitions : List MetricDefinition) (segments : List Text) : List Text :=
  firstsBehind definitions [] segments

/-- The metrics that are known are those that some segments have the names of. -/
def Covers (definitions : List MetricDefinition) (before : List Text)
    (known : OrderedMap Text Metric) : Prop :=
  ∀ shown, shown ∈ known.keys ↔ ∃ earlier ∈ before, shownAs? definitions earlier = some shown

theorem Covers.isFirst_iff (covers : Covers definitions before known)
    (isPair : ofSegment segment = .ok (name, raw)) :
    isFirst definitions before segment = true ↔ displayName definitions name ∉ known.keys := by
  rw [isFirst, shownAs?_of_ok isPair, covers]
  simp

theorem Covers.pass (covers : Covers definitions before known)
    (nothingNew : ∀ shown, shownAs? definitions segment = some shown → shown ∈ known.keys) :
    Covers definitions (before ++ [segment]) known := by
  intro shown
  rw [covers]
  constructor
  · rintro ⟨earlier, listed, same⟩
    exact ⟨earlier, List.mem_append_left _ listed, same⟩
  · rintro ⟨earlier, listed, same⟩
    rcases List.mem_append.mp listed with old | here
    · exact ⟨earlier, old, same⟩
    · obtain rfl := List.mem_singleton.mp here
      exact (covers shown).mp (nothingNew shown same)

theorem Covers.add (covers : Covers definitions before known)
    (isPair : ofSegment segment = .ok (name, raw)) (metric : Metric) :
    Covers definitions (before ++ [segment])
      (known ++ [(displayName definitions name, metric)]) := by
  intro shown
  have old := covers shown
  simp only [OrderedMap.keys, List.map_append, List.mem_append, List.map_cons, List.map_nil,
    List.mem_singleton, or_and_right, exists_or, exists_eq_left, shownAs?_of_ok isPair,
    Option.some.injEq] at old ⊢
  rw [old, eq_comm (a := shown)]

/-- Unless reading ends early, the metrics are those of the first segments, in their order. -/
theorem Reads.metrics_eq (distinct : (definitions.map MetricDefinition.key).Nodup)
    (reads : Reads definitions known segments e) (covers : Covers definitions before known)
    (whole : e.ended = none) : ∃ new, e.metrics = known ++ new ∧
      List.Forall₂ (StandsFor definitions) (firstsBehind definitions before segments) new := by
  -- along the reading: the metrics that are known cover the segments in front
  induction reads generalizing before with
  | done => exact ⟨[], by simp, .nil⟩
  | @malformed known segment rest e fault refused later ih =>
    have other : isFirst definitions before segment = false := by
      simp [isFirst, shownAs?, refused, Except.toOption]
    rw [firstsBehind, if_neg (by simp [other])]
    apply ih (covers.pass _) whole
    simp [shownAs?, refused, Except.toOption]
  | again isPair isKnown later ih =>
    have other := mt (covers.isFirst_iff isPair).mp (not_not.mpr isKnown)
    rw [firstsBehind, if_neg other]
    apply ih (covers.pass _) whole
    intro shown same
    rw [shownAs?_of_ok isPair] at same
    exact Option.some.inj same ▸ isKnown
  | overlong => cases whole
  | metric isPair isNew number later ih =>
    have first := (covers.isFirst_iff isPair).mpr isNew
    rw [firstsBehind, if_pos first]
    obtain ⟨new, same, stand⟩ := ih (covers.add isPair _) (by split at whole <;> exact whole)
    refine ⟨_ :: new, ?_, .cons (standsFor_of_pair distinct isPair number) stand⟩
    split <;> simpa [Extraction.reportFirst] using same

/-! ## Counting the reports -/

/-- How many reports are of a kind. -/
def Extraction.told (e : Extraction) (kind : DiagnosticKind) : Nat :=
  e.reports.countP fun report => report.1 = kind

theorem Extraction.told_reportFirst (e : Extraction) (kind other : DiagnosticKind)
    (message : Text) :
    (e.reportFirst kind message).told other = e.told other + if kind = other then 1 else 0 := by
  by_cases same : kind = other <;> simp [told, reportFirst, same]

theorem Extraction.count_diagnostics (e : Extraction) (kind : DiagnosticKind) (source : Text)
    (line : Option Nat) : Diagnostic.count kind (e.diagnostics source line) = e.told kind := by
  simp [Diagnostic.count, Diagnostic.ofKind, diagnostics, told, List.filter_map,
    List.countP_eq_length_filter, Function.comp_def]

/-- Every segment is a metric or a report, unless reading ends early. -/
theorem Reads.told_malformed (reads : Reads definitions known segments e)
    (whole : e.ended = none) :
    segments.length + known.length = e.metrics.length + e.told .metricMalformed := by
  -- a segment that adds no metric adds a report, and one that adds a metric may add another kind
  induction reads with
  | done => simp [Extraction.told]
  | malformed _ _ ih =>
    have rest := ih whole
    rw [Extraction.told_reportFirst, if_pos rfl, List.length_cons]
    simp only [Extraction.reportFirst]
    omega
  | again _ _ _ ih =>
    have rest := ih whole
    rw [Extraction.told_reportFirst, if_pos rfl, List.length_cons]
    simp only [Extraction.reportFirst]
    omega
  | overlong => cases whole
  | metric _ _ _ _ ih =>
    have rest := ih (by split at whole <;> exact whole)
    rw [List.length_append, List.length_singleton] at rest
    rw [List.length_cons]
    split
    · rw [Extraction.told_reportFirst, if_neg (by decide)]
      simp only [Extraction.reportFirst]
      omega
    · omega

/-- A number is in range when it is neither less than the minimum nor greater than the maximum. -/
theorem inRange_iff {d : MetricDefinition} {n : Number} : d.inRange n = true ↔
    (∀ least ∈ d.minimum, n.less least = false) ∧
      ∀ greatest ∈ d.maximum, greatest.less n = false := by
  unfold MetricDefinition.inRange
  cases d.minimum <;> cases d.maximum <;> simp

theorem inRange_eq_false_iff {d : MetricDefinition} {n : Number} : d.inRange n = false ↔
    (∃ least ∈ d.minimum, n.less least = true) ∨
      ∃ greatest ∈ d.maximum, greatest.less n = true := by
  rw [← Bool.not_eq_true, inRange_iff]
  simp only [not_and_or, not_forall, exists_prop, Bool.not_eq_false]

/-- Whether a metric has a definition and is a number outside the bounds of it. -/
def isOutside (definitions : List MetricDefinition) (entry : Text × Metric) : Bool :=
  entry.2.configured && definitions.any fun d =>
    d.name = entry.1 && entry.2.numeric.any fun n => !d.inRange n

theorem isOutside_iff {entry : Text × Metric} : isOutside definitions entry = true ↔
    entry.2.configured = true ∧ ∃ d ∈ definitions, d.name = entry.1 ∧ ∃ n ∈ entry.2.numeric,
      (∃ least ∈ d.minimum, n.less least = true) ∨
        ∃ greatest ∈ d.maximum, greatest.less n = true := by
  simp only [isOutside, Bool.and_eq_true, List.any_eq_true, decide_eq_true_eq, Option.any_eq_true,
    Bool.not_eq_true', inRange_eq_false_iff, Option.mem_def]

theorem isOutside_iff_rangeReport? (distinct : (definitions.map MetricDefinition.key).Nodup)
    (name raw : Text) (numeric : Option Number) :
    isOutside definitions (displayName definitions name, ⟨displayName definitions name, raw,
      numeric, (MetricDefinition.lookup? definitions name).isSome⟩) =
    (rangeReport? (MetricDefinition.lookup? definitions name) raw numeric).isSome := by
  unfold isOutside displayName
  cases found : MetricDefinition.lookup? definitions name with
  | none => simp [rangeReport?]
  | some d =>
    have member := (MetricDefinition.lookup?_mem found).1
    -- a definition with the name of this one has its key, and so is this one
    have only : ∀ other ∈ definitions, other.name = d.name → other = d := by
      intro other listed same
      apply List.inj_on_of_nodup_map distinct listed member
      rw [MetricDefinition.key, MetricDefinition.key, same]
    cases numeric with
    | none => simp [rangeReport?]
    | some n =>
      rw [Bool.eq_iff_iff]
      simp only [Option.isSome_some, Bool.true_and, Option.map_some, Option.getD_some,
        List.any_eq_true, Bool.and_eq_true, decide_eq_true_eq, Option.any_some, Bool.not_eq_true']
      unfold rangeReport?
      constructor
      · rintro ⟨other, listed, same, outside⟩
        obtain rfl := only other listed same
        simp [outside]
      · intro reported
        refine ⟨d, member, rfl, ?_⟩
        by_contra inside
        simp [inside] at reported

theorem Reads.told_outOfRange (distinct : (definitions.map MetricDefinition.key).Nodup)
    (reads : Reads definitions known segments e) (whole : e.ended = none) :
    e.told .metricOutOfRange + known.countP (isOutside definitions) =
      e.metrics.countP (isOutside definitions) := by
  -- only a segment that adds a metric can report a number, and then it is that of the metric
  induction reads with
  | done => simp [Extraction.told]
  | malformed _ _ ih =>
    rw [Extraction.told_reportFirst, if_neg (by decide)]
    exact ih whole
  | again _ _ _ ih =>
    rw [Extraction.told_reportFirst, if_neg (by decide)]
    exact ih whole
  | overlong => cases whole
  | @metric known segment name raw rest e numeric _ _ _ _ ih =>
    have rest := ih (by split at whole <;> exact whole)
    rw [List.countP_append, List.countP_singleton, isOutside_iff_rangeReport? distinct] at rest
    cases reported : rangeReport? (MetricDefinition.lookup? definitions name) raw numeric with
    | none => simpa [reported] using rest
    | some message =>
      rw [Extraction.told_reportFirst, if_pos rfl]
      simp only [reported, Option.isSome_some, if_true, Extraction.reportFirst] at rest ⊢
      omega

/-! ## A whole text -/

/-- The segments are the metrics and the reports of malformed ones. The metrics are those of the
first segments with their names, in the order of the text, and as many numbers are reported to be
out of range as there are metrics outside the bounds of their definitions. -/
structure Accounted (definitions : List MetricDefinition) (segments : List Text)
    (e : Extraction) : Prop where
  whole : e.ended = none
  counted : ∀ source line, segments.length =
    e.metrics.length + Diagnostic.count .metricMalformed (e.diagnostics source line)
  metrics : List.Forall₂ (StandsFor definitions) (firsts definitions segments) e.metrics
  distinct : e.metrics.keys.Nodup
  outside : ∀ source line, Diagnostic.count .metricOutOfRange (e.diagnostics source line) =
    e.metrics.countP (isOutside definitions)

/-- When no value is a whole number with too many digits, every segment is accounted for once. -/
theorem extract_accounts (definitions : List MetricDefinition)
    (distinct : (definitions.map MetricDefinition.key).Nodup) (t : Text)
    (readable : ∀ segment ∈ Metric.segments t, ∀ name raw,
      IsPair segment name raw → ¬IsOverlong raw) :
    Accounted definitions (Metric.segments t) (extract definitions t) := by
  have reads : Reads definitions [] (Metric.segments t) (extract definitions t) :=
    reads_extractFrom definitions [] (Metric.segments t)
  have whole : (extract definitions t).ended = none := by
    -- reading ends early only at a value that is too long
    rw [Option.eq_none_iff_forall_ne_some]
    intro fault ended
    obtain ⟨before, segment, after, parts, name, raw, isPair, long, _⟩ :=
      reads.ended_iff.mp ⟨fault, ended⟩
    have member : segment ∈ Metric.segments t := by simp [parts]
    exact readable segment member name raw (ofSegment_eq_ok_iff.mp isPair) long
  constructor
  case whole => exact whole
  case counted =>
    intro source line
    have counted := reads.told_malformed whole
    rwa [Extraction.count_diagnostics]
  case metrics =>
    have nothing : Covers definitions [] [] := by simp [Covers, OrderedMap.keys]
    obtain ⟨new, same, stand⟩ := reads.metrics_eq distinct nothing whole
    rwa [same]
  case distinct => exact (extract_wellKept definitions t).distinct
  case outside =>
    intro source line
    have counted := reads.told_outOfRange distinct whole
    rwa [Extraction.count_diagnostics]

/-- A name in two spellings, one without a definition, one without a value, two numbers out of range
and a text that looks like a number. -/
def mixedMetrics : Text :=
  Text.of "Words: 5000, moon: 3, WORDS : 7,, Moon\n sensory  detail: 9, dream theme: 12"

theorem extract_accounts_mixed :
    (MetricDefinition.standard.map MetricDefinition.key).Nodup ∧
      (∀ segment ∈ Metric.segments mixedMetrics, ∀ name raw, IsPair segment name raw →
        ¬IsOverlong raw) ∧
      (Metric.segments mixedMetrics).length = 6 ∧
      (extract MetricDefinition.standard mixedMetrics).metrics.keys =
        ["Words", "moon", "Sensory Detail", "Dream Theme"].map Text.of ∧
      (∀ source line, Diagnostic.count .metricOutOfRange
        ((extract MetricDefinition.standard mixedMetrics).diagnostics source line) = 2) ∧
      Accounted MetricDefinition.standard (Metric.segments mixedMetrics)
        (extract MetricDefinition.standard mixedMetrics) := by
  have distinct : (MetricDefinition.standard.map MetricDefinition.key).Nodup :=
    by decide +kernel
  have short : ∀ segment ∈ Metric.segments mixedMetrics, segment.length ≤ digitLimit := by
    decide +kernel
  have readable : ∀ segment ∈ Metric.segments mixedMetrics, ∀ name raw, IsPair segment name raw →
      ¬IsOverlong raw := by
    -- a value is a part of its segment, and no segment here has so many characters
    rintro segment member name raw ⟨front, back, rfl, _, _, rfl, _⟩ long
    have bound := short _ member
    have size := long.length_lt
    have part := (Text.trimBoth_sublist Text.isBlank back).length_le
    rw [List.length_append, List.length_cons] at bound
    unfold Text.trim at size
    omega
  have accounted := extract_accounts _ distinct _ readable
  refine ⟨distinct, readable, by decide +kernel, by decide +kernel, ?_, accounted⟩
  intro source line
  rw [accounted.outside]
  decide +kernel

end Metric
end DreamJournal
