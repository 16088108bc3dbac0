import DreamJournal.Proofs.Datum
import DreamJournal.Proofs.Number.Exact
import DreamJournal.Proofs.Settings.Reading
import DreamJournal.Settings.Stored

/-!
# Settings that are written and read back

Whatever settings data describe, the data that describe these settings are read again, and nothing
is refused or warned about. Every field comes back but one: a description that is there and empty is
not written, and reads back as none. Bounds come back as numbers of the same value, since a whole
number is written without a fraction and rounds to itself.
-/
namespace DreamJournal

open Number (Alike)

/-! ## Texts in files -/

namespace Text

variable {t : Text}

/-- Characters of one octet are decoded as they were encoded. -/
theorem decodeFrom_encode (plain : ∀ c ∈ t, c.toNat < 0x80) (position : Nat) :
    decodeFrom position 0 (encode t) = .ok t := by
  induction t generalizing position with
  | nil => rfl
  | cons c rest ih =>
    obtain ⟨here, further⟩ := List.forall_mem_cons.mp plain
    have octets : encode (c :: rest) = UInt8.ofNat c.toNat :: encode rest := by
      simp [encode, encodeChar, here]
    have size : (UInt8.ofNat c.toNat).toNat = c.toNat := by
      rw [UInt8.toNat_ofNat']
      exact Nat.mod_eq_of_lt (by omega)
    have lead : leadOctet? (UInt8.ofNat c.toNat) = some (0, c.toNat) := by
      simp [leadOctet?, size, here]
    rw [octets, decodeFrom, lead]
    simp [continuation, ih further, Char.ofNat_toNat]
    rfl

theorem lineFeeds_eq_self (fed : ∀ c ∈ t, c ≠ '\r') : lineFeeds t = t := by
  induction t with
  | nil => rfl
  | cons c rest ih =>
    obtain ⟨here, further⟩ := List.forall_mem_cons.mp fed
    rw [lineFeeds]
    · rw [if_neg here, ih further]
    · exact fun _ same _ => here same

end Text

/-! ## Definitions -/

namespace MetricDefinition

variable {d d' : MetricDefinition} {n : Number}

/-- A bound that reads back as a number of the same value. -/
def IsReread (n : Number) : Prop :=
  ∃ e : Double, (plainNumber n).toDouble? = some e ∧ Alike (.real e) n

theorem isReread_real (d : Double) : IsReread (.real d) := by
  cases whole : d.toInt? with
  | none =>
    have same : plainNumber (.real d) = .real d := by rw [plainNumber, whole]
    exact ⟨d, by rw [same]; rfl, Alike.refl _⟩
  | some n =>
    have plain : plainNumber (.real d) = .whole n := by rw [plainNumber, whole]
    obtain ⟨e, read, _, alike⟩ := Number.alike_reread whole
    exact ⟨e, by rw [plain]; exact read, alike⟩

/-- Whether double precision holds a number exactly. -/
def isExact : Number → Bool
  | .whole n => (Double.ofInt? n).bind Double.toInt? == some n
  | .real _ => true

theorem isReread_of_isExact (exact : isExact n = true) : IsReread n := by
  cases n with
  | whole n =>
    obtain ⟨e, read, whole⟩ := Option.bind_eq_some_iff.mp (beq_iff_eq.mp exact)
    exact ⟨e, read, Number.alike_whole whole⟩
  | real d => exact isReread_real d

/-- What makes a definition one that can be read: its name is trimmed and its bounds are numbers of
double precision. -/
structure IsReadable (d : MetricDefinition) : Prop where
  trimmed : Text.trim d.name = d.name
  minimum : ∀ n ∈ d.minimum, IsReread n
  maximum : ∀ n ∈ d.maximum, IsReread n

theorem isReadable_standard : ∀ d ∈ standard, d.IsReadable := by
  have exact : ∀ d ∈ standard, Text.trim d.name = d.name ∧ d.minimum.all isExact = true ∧
      d.maximum.all isExact = true := by decide +kernel
  intro d listed
  obtain ⟨trimmed, least, greatest⟩ := exact d listed
  exact ⟨trimmed, fun n given => isReread_of_isExact ((Option.all_eq_true _ _).mp least n given),
    fun n given => isReread_of_isExact ((Option.all_eq_true _ _).mp greatest n given)⟩

theorem ofParts_parts {name : Text} {minimum maximum : Option Number} {enabled : Bool}
    {description : Option Text} {kind : Except Text MetricKind}
    (made : ofParts name minimum maximum enabled description kind = .ok d) :
    d.name = name ∧ d.minimum = minimum ∧ d.maximum = maximum := by
  unfold ofParts at made
  split at made
  · cases made
  · split at made
    · cases made
    · split at made
      · cases made
      · split at made
        · obtain rfl := Except.ok.inj made
          exact ⟨rfl, rfl, rfl⟩
        · cases made

theorem isReadable_of_ofDatum {given : Datum} (read : ofDatum given = .ok d) : d.IsReadable := by
  cases shown : given.opened with
  | map entries =>
    -- the fields one after the other; only name and bounds matter here
    rw [ofDatum_of_opened shown] at read
    obtain ⟨_, _, read⟩ := Except.bind_eq_ok_iff.mp read
    obtain ⟨_, _, read⟩ := Except.bind_eq_ok_iff.mp read
    obtain ⟨name, _, read⟩ := Except.bind_eq_ok_iff.mp read
    obtain ⟨least, _, read⟩ := Except.bind_eq_ok_iff.mp read
    obtain ⟨greatest, _, read⟩ := Except.bind_eq_ok_iff.mp read
    obtain ⟨_, _, read⟩ := Except.bind_eq_ok_iff.mp read
    obtain ⟨_, _, read⟩ := Except.bind_eq_ok_iff.mp read
    obtain ⟨named, minimum, maximum⟩ := ofParts_parts (ofRead_eq_ok_iff.mp read)
    have doubles (read : Option Double) : ∀ n ∈ read.map Number.real, IsReread n := by
      intro n given
      obtain ⟨e, _, rfl⟩ := Option.map_eq_some_iff.mp given
      exact isReread_real e
    exact ⟨by rw [named, Text.trim_trim], minimum ▸ doubles least, maximum ▸ doubles greatest⟩
  | _ => simp [ofDatum, shown] at read

/-- The description as it is written: an empty one is left out. -/
def writtenDescription? (d : MetricDefinition) : Option Text :=
  d.description.filter fun t => !t.isEmpty

/-- The kind as it is written: numbers are not named. -/
def writtenKind? (d : MetricDefinition) : Option Text :=
  if d.isText then some (Text.of d.kind.label) else none

/-- The definition that is read back: bounds are the same in value, and an empty description is
none. -/
structure Restored (d d' : MetricDefinition) : Prop where
  name : d'.name = d.name
  minimum : Option.Rel Alike d'.minimum d.minimum
  maximum : Option.Rel Alike d'.maximum d.maximum
  enabled : d'.enabled = d.enabled
  description : d'.description = d.writtenDescription?
  kind : d'.kind = d.kind

/-! ## Writing and reading a definition -/

/-- The entries of a written definition. -/
def entries (d : MetricDefinition) : List (Datum × Datum) :=
  Datum.field "name" (.text d.name) ::
    ((d.minimum.map fun n => Datum.field "min_value" (.number (plainNumber n))).toList ++
    ((d.maximum.map fun n => Datum.field "max_value" (.number (plainNumber n))).toList ++
    (Datum.field "enabled" (.bool d.enabled) ::
    ((d.writtenDescription?.map fun t => Datum.field "description" (.text t)).toList ++
    (d.writtenKind?.map fun t => Datum.field "type" (.text t)).toList))))

theorem toDatum_eq (d : MetricDefinition) : d.toDatum = .map d.entries := by
  obtain ⟨name, minimum, maximum, enabled, description, kind, acceptable⟩ := d
  rcases description with _ | (_ | ⟨c, rest⟩) <;> cases kind <;> cases minimum <;>
    cases maximum <;> rfl

/-- Every field is found under its name as it was written. -/
theorem lookup?_entries (d : MetricDefinition) :
    Datum.lookup? "name" d.entries = some (.text d.name) ∧
    Datum.lookup? "min_value" d.entries = d.minimum.map (fun n => .number (plainNumber n)) ∧
    Datum.lookup? "max_value" d.entries = d.maximum.map (fun n => .number (plainNumber n)) ∧
    Datum.lookup? "enabled" d.entries = some (.bool d.enabled) ∧
    Datum.lookup? "description" d.entries = d.writtenDescription?.map .text ∧
    Datum.lookup? "type" d.entries = d.writtenKind?.map .text := by
  simp [entries]

/-- A bound that is written is read as a number of the same value. -/
theorem toDouble?_written {bound : Option Number} (reread : ∀ n ∈ bound, IsReread n) :
    ∃ read : Option Double,
      ((bound.map fun n => Datum.number (plainNumber n)).getD .null).toDouble? = .ok read ∧
        Option.Rel Alike (read.map .real) bound := by
  cases bound with
  | none => exact ⟨none, rfl, .none⟩
  | some n =>
    obtain ⟨e, read, alike⟩ := reread n rfl
    refine ⟨some e, ?_, .some alike⟩
    rw [Option.map_some, Option.getD_some, Datum.toDouble?, read]

theorem boundsCross_eq {a b c e : Option Number} (least : Option.Rel Alike a c)
    (greatest : Option.Rel Alike b e) : Metric.boundsCross a b = Metric.boundsCross c e := by
  cases least with
  | none => rfl
  | some alike =>
    cases greatest with
    | none => rfl
    | some alike' => exact alike'.less_eq alike

theorem fieldValue?_text {entries : List (Datum × Datum)} {field : String} {t? : Option Text}
    (found : Datum.lookup? field entries = t?.map .text) :
    Datum.fieldValue? entries field = t?.map .text := by
  rw [Datum.fieldValue?, found]
  cases t? <;> rfl

theorem mapM_written (t? : Option Text) : (t?.map Datum.text).mapM Datum.written = .ok t? := by
  cases t? <;> rfl

theorem kindOf_written (d : MetricDefinition) : kindOf d.writtenKind? = .ok d.kind := by
  have named : MetricKind.ofLabel? (Text.lower (Text.trim (Text.of MetricKind.text.label))) =
      some .text := by decide
  cases kind : d.kind with
  | number => simp [writtenKind?, isText, kind, kindOf]
  | text => simp [writtenKind?, isText, kind, kindOf, named]

theorem ofParts_eq_ok {name : Text} {minimum maximum : Option Number} {enabled : Bool}
    {description : Option Text} {kind : MetricKind}
    (acceptable : Metric.IsAcceptable name minimum maximum) :
    ofParts name minimum maximum enabled description (.ok kind) =
      .ok ⟨name, minimum, maximum, enabled, description, kind, acceptable⟩ := by
  rw [ofParts, if_neg (by simp [acceptable.1]), if_neg acceptable.2.1]
  exact dif_pos acceptable

theorem ofDatum_toDatum (readable : d.IsReadable) :
    ∃ d', ofDatum d.toDatum = .ok d' ∧ Restored d d' := by
  obtain ⟨least, readLeast, alikeLeast⟩ := toDouble?_written readable.minimum
  obtain ⟨greatest, readGreatest, alikeGreatest⟩ := toDouble?_written readable.maximum
  have acceptable : Metric.IsAcceptable d.name (least.map .real) (greatest.map .real) :=
    ⟨d.acceptable.1, d.acceptable.2.1,
      (boundsCross_eq alikeLeast alikeGreatest).trans d.acceptable.2.2⟩
  refine ⟨⟨d.name, least.map .real, greatest.map .real, d.enabled, d.writtenDescription?, d.kind,
    acceptable⟩, ?_, rfl, alikeLeast, alikeGreatest, rfl, rfl, rfl⟩
  obtain ⟨name, minimum, maximum, enabled, description, label⟩ := d.lookup?_entries
  have given : Datum.requireFields d.entries [Text.of "name"] = .ok () := by
    have found := name
    rw [Datum.lookup?] at found
    -- a name that shows something is not empty
    have shows := d.acceptable.1
    cases named : d.name with
    | nil => simp [named, Text.isAllBlank] at shows
    | cons c rest => rw [Datum.requireFields, found, named, Datum.requireFields]
  -- each field is read as what was written of it
  rw [toDatum_eq, ofDatum_of_opened rfl]
  simp only [given, name, minimum, maximum, enabled, readLeast, readGreatest,
    fieldValue?_text description, fieldValue?_text label, mapM_written]
  refine ofRead_eq_ok_iff.mpr ?_
  change ofParts (Text.trim d.name) _ _ d.enabled _ _ = _
  rw [readable.trimmed, kindOf_written]
  exact ofParts_eq_ok acceptable

/-! ## What comes back -/

/-- A definition that comes back as it was: its bounds are numbers, and its description, where there
is one, says something. -/
structure IsWhole (d : MetricDefinition) : Prop where
  described : d.description ≠ some []
  minimum : d.minimum ≠ some (.real .nan)
  maximum : d.maximum ≠ some (.real .nan)

theorem sameBound_iff {a b : Option Number} (alike : Option.Rel Alike a b) :
    sameBound a b = true ↔ b ≠ some (.real .nan) := by
  cases alike with
  | none => simp [sameBound]
  | some alike => simp [sameBound, alike.same_iff]

theorem Restored.sameAs_iff (restored : Restored d d') : d'.sameAs d = true ↔ d.IsWhole := by
  have described : d.writtenDescription? = d.description ↔ d.description ≠ some [] := by
    rw [writtenDescription?]
    rcases d.description with _ | (_ | ⟨c, rest⟩) <;> simp
  simp only [sameAs, restored.name, restored.enabled, restored.kind, restored.description,
    Bool.and_eq_true, decide_eq_true_eq, sameBound_iff restored.minimum,
    sameBound_iff restored.maximum, described, true_and, and_true]
  exact ⟨fun ⟨⟨least, greatest⟩, given⟩ => ⟨given, least, greatest⟩,
    fun ⟨given, least, greatest⟩ => ⟨⟨least, greatest⟩, given⟩⟩

theorem IsReread.toDouble?_isSome (reread : IsReread n) : n.toDouble?.isSome = true := by
  obtain ⟨e, read, _⟩ := reread
  cases n with
  | whole n => exact Option.isSome_of_eq_some read
  | real d => rfl

theorem IsReadable.hasHugeBound_eq_false (readable : d.IsReadable) : d.hasHugeBound = false := by
  refine List.any_eq_false.mpr fun bound listed => ?_
  have reread : ∀ n ∈ bound, IsReread n := by
    rcases List.mem_pair.mp listed with rfl | rfl
    · exact readable.minimum
    · exact readable.maximum
  cases bound with
  | none => exact Bool.false_ne_true
  | some n => simpa [Option.isSome_iff_ne_none] using (reread n rfl).toDouble?_isSome

end MetricDefinition

/-! ## Settings -/

namespace Settings

variable {s s' : Settings} {d : Datum} {n : Int}

theorem toCount?_eq_some_iff {k : Nat} : d.toCount? = .ok (some k) ↔
    ∃ value : Double, d.toDouble? = .ok (some value) ∧ value.toInt? = some (k : Int) := by
  rw [Datum.toCount?, Except.bind_eq_ok_iff]
  constructor
  · rintro ⟨given, read, counted⟩
    split at counted
    next => cases counted
    next => cases counted
    next => cases counted
    next value _ _ =>
      split at counted
      next m whole =>
        obtain rfl := Option.some.inj (Except.ok.inj counted)
        exact ⟨value, read, whole⟩
      next =>
        obtain ⟨_, _, refused⟩ := Except.bind_eq_ok_iff.mp counted
        cases refused
  · rintro ⟨value, read, whole⟩
    refine ⟨some value, read, ?_⟩
    cases value with
    | nan => cases whole
    | infinity => cases whole
    | finite => simp only [whole]

/-- A count that was read reads as itself. -/
theorem maxFilesOf_int (read : maxFilesOf d = .ok n) : maxFilesOf (.int n) = .ok n := by
  obtain ⟨given, counted, checked⟩ := Except.bind_eq_ok_iff.mp read
  split at checked
  next => cases checked
  next => cases checked
  next k some_ne =>
    obtain rfl := Except.ok.inj checked
    obtain ⟨value, _, whole⟩ := toCount?_eq_some_iff.mp counted
    -- the count was rounded when it was read, so rounding it again changes nothing
    obtain ⟨e, reread, same, _⟩ := Number.alike_reread whole
    have direct : (Datum.int k).toDouble? = .ok (some e) := by
      rw [Datum.int, Datum.toDouble?, Number.toDouble?, reread]
    have again : (Datum.int k).toCount? = .ok (some k) :=
      toCount?_eq_some_iff.mpr ⟨e, direct, same⟩
    rw [maxFilesOf, again]
    cases k with
    | zero => exact absurd rfl some_ne
    | succ k => rfl

theorem ofDraft_eq_ok_iff {draft : Draft} : ofDraft draft = .ok s ↔
    draft.journalCallout.toCalloutName = .ok s.journalCallout ∧
    draft.diaryCallout.toCalloutName = .ok s.diaryCallout ∧
    draft.metricsCallout.toCalloutName = .ok s.metricsCallout ∧
    modeOf draft.paragraphMode = .ok s.paragraphMode ∧
    draft.metrics = s.metrics ∧ draft.exclude = s.exclude ∧ draft.maxFiles = s.maxFiles := by
  simp only [ofDraft, Except.bind_eq_ok_iff]
  constructor
  · rintro ⟨journal, readJournal, diary, readDiary, metrics, readMetrics, mode, readMode, made⟩
    split at made
    next =>
      obtain rfl := Except.ok.inj made
      exact ⟨readJournal, readDiary, readMetrics, readMode, rfl, rfl, rfl⟩
    next => cases made
  · rintro ⟨readJournal, readDiary, readMetrics, readMode, metrics, exclude, maxFiles⟩
    refine ⟨_, readJournal, _, readDiary, _, readMetrics, _, readMode, ?_⟩
    obtain ⟨_, _, _, _, _, exclude', maxFiles'⟩ := draft
    dsimp only at metrics exclude maxFiles ⊢
    subst metrics exclude maxFiles
    rw [dif_pos s.distinct]

/-- What makes settings ones that can be read: callout names are in their final form, definitions
can be read, and the limit is a count. -/
structure IsReadable (s : Settings) : Prop where
  journalCallout : Datum.IsCalloutName s.journalCallout
  diaryCallout : Datum.IsCalloutName s.diaryCallout
  metricsCallout : Datum.IsCalloutName s.metricsCallout
  metrics : ∀ m ∈ s.metrics, m.IsReadable
  maxFiles : ∀ n ∈ s.maxFiles, maxFilesOf (.int n) = .ok n

theorem isReadable_standard : standard.IsReadable where
  journalCallout := Datum.isCalloutName_of_toCalloutName
    (show (Datum.text standard.journalCallout).toCalloutName = .ok _ by rfl)
  diaryCallout := Datum.isCalloutName_of_toCalloutName
    (show (Datum.text standard.diaryCallout).toCalloutName = .ok _ by rfl)
  metricsCallout := Datum.isCalloutName_of_toCalloutName
    (show (Datum.text standard.metricsCallout).toCalloutName = .ok _ by rfl)
  metrics := MetricDefinition.isReadable_standard
  maxFiles := fun _ given => by cases given

theorem metricsOf_readable {metrics : List MetricDefinition} (read : metricsOf d = .ok metrics) :
    ∀ m ∈ metrics, m.IsReadable := by
  unfold metricsOf at read
  split at read
  next items =>
    intro m listed
    obtain ⟨item, _, made⟩ := Except.exists_of_mem_mapM read listed
    exact MetricDefinition.isReadable_of_ofDatum made
  next => cases read

theorem isReadable_of_ofDatum (read : ofDatum d = .ok s) : s.IsReadable := by
  unfold ofDatum at read
  split at read
  next =>
    obtain rfl := Except.ok.inj read
    exact isReadable_standard
  next entries shown =>
    obtain ⟨_, _, read⟩ := Except.bind_eq_ok_iff.mp read
    obtain ⟨draft, drafted, read⟩ := Except.bind_eq_ok_iff.mp read
    obtain ⟨metrics, readMetrics, drafted⟩ := Except.bind_eq_ok_iff.mp drafted
    obtain ⟨_, _, drafted⟩ := Except.bind_eq_ok_iff.mp drafted
    obtain ⟨_, _, drafted⟩ := Except.bind_eq_ok_iff.mp drafted
    obtain ⟨maxFiles, readMaxFiles, drafted⟩ := Except.bind_eq_ok_iff.mp drafted
    obtain rfl := Except.ok.inj drafted
    obtain ⟨journal, diary, metricsCallout, _, sameMetrics, _, sameMaxFiles⟩ :=
      ofDraft_eq_ok_iff.mp read
    refine ⟨Datum.isCalloutName_of_toCalloutName journal,
      Datum.isCalloutName_of_toCalloutName diary,
      Datum.isCalloutName_of_toCalloutName metricsCallout, ?_, ?_⟩
    -- what is not given is standard, and that can be read too
    · rw [← sameMetrics]
      rcases Except.optionMapM_eq_ok_iff.mp readMetrics with ⟨_, rfl⟩ | ⟨given, own, _, rfl, made⟩
      · exact MetricDefinition.isReadable_standard
      · exact metricsOf_readable made
    · rw [← sameMaxFiles]
      rcases Except.optionMapM_eq_ok_iff.mp readMaxFiles with ⟨_, rfl⟩ | ⟨given, n, _, rfl, made⟩
      · exact fun _ given => by cases given
      · rintro _ ⟨⟩
        exact maxFilesOf_int made
  next => cases read

/-! ## Writing and reading settings -/

/-- The settings that are read back: all fields are the same but the definitions, which are read
back one by one. -/
structure Restored (s s' : Settings) : Prop where
  journalCallout : s'.journalCallout = s.journalCallout
  diaryCallout : s'.diaryCallout = s.diaryCallout
  metricsCallout : s'.metricsCallout = s.metricsCallout
  metrics : List.Forall₂ MetricDefinition.Restored s.metrics s'.metrics
  paragraphMode : s'.paragraphMode = s.paragraphMode
  exclude : s'.exclude = s.exclude
  maxFiles : s'.maxFiles = s.maxFiles

theorem sameAs_iff_of_forall₂ {metrics metrics' : List MetricDefinition}
    (restored : List.Forall₂ MetricDefinition.Restored metrics metrics') :
    (metrics'.zip metrics).all (fun (d, e) => d.sameAs e) = true ↔ ∀ m ∈ metrics, m.IsWhole := by
  induction restored with
  | nil => simp
  | cons first _ ih => simp [first.sameAs_iff, ih]

/-- The settings that are read back are the same unless a description is empty or a bound is no
number. -/
theorem Restored.sameAs_iff (restored : Restored s s') :
    s'.sameAs s = true ↔ ∀ m ∈ s.metrics, m.IsWhole := by
  rw [← sameAs_iff_of_forall₂ restored.metrics]
  simp [sameAs, restored.journalCallout, restored.diaryCallout, restored.metricsCallout,
    restored.paragraphMode, restored.exclude, restored.maxFiles, restored.metrics.length_eq]

/-- Every field that is written is known. -/
theorem unknownWarning?_toDatum (s : Settings) : unknownWarning? s.toDatum = .ok none := by
  have names : ∀ key ∈ s.entries.map Prod.fst, ∃ field ∈ fields, key = .text (Text.of field) := by
    cases limit : s.maxFiles <;> simp [entries, limit, fields, Datum.field, Datum.text_of_inj]
  have known : (s.entries.map Prod.fst).filter
      (fun key => !fields.any fun field => key.sameKey (.text (Text.of field))) = [] := by
    refine List.filter_eq_nil_iff.mpr fun key listed => ?_
    obtain ⟨field, isField, rfl⟩ := names key listed
    simpa [Datum.sameKey_field] using isField
  simp only [toDatum, unknownWarning?, Datum.opened_map, known]
  rfl

theorem metricsOf_written {metrics : List MetricDefinition}
    (readable : ∀ m ∈ metrics, m.IsReadable) :
    ∃ metrics', metricsOf (.list (metrics.map MetricDefinition.toDatum)) = .ok metrics' ∧
      List.Forall₂ MetricDefinition.Restored metrics metrics' := by
  simp only [metricsOf, Datum.opened_list, Except.mapM_eq_ok_iff, List.forall₂_map_left_iff]
  induction metrics with
  | nil => exact ⟨[], .nil, .nil⟩
  | cons m metrics ih =>
    have ⟨here, later⟩ := List.forall_mem_cons.mp readable
    obtain ⟨m', read, restored⟩ := MetricDefinition.ofDatum_toDatum here
    obtain ⟨metrics', reads, all⟩ := ih later
    exact ⟨m' :: metrics', .cons read reads, .cons restored all⟩

theorem keys_eq_of_restored {metrics metrics' : List MetricDefinition}
    (restored : List.Forall₂ MetricDefinition.Restored metrics metrics') :
    metrics'.map MetricDefinition.key = metrics.map MetricDefinition.key := by
  induction restored with
  | nil => rfl
  | cons first _ ih => rw [List.map_cons, List.map_cons, ih, MetricDefinition.key,
      MetricDefinition.key, first.name]

/-- Every field holds what was written of it. -/
theorem fieldValue?_entries (s : Settings) :
    Datum.fieldValue? s.entries "journal_callout" = some (.text s.journalCallout) ∧
    Datum.fieldValue? s.entries "diary_callout" = some (.text s.diaryCallout) ∧
    Datum.fieldValue? s.entries "metrics_callout" = some (.text s.metricsCallout) ∧
    Datum.fieldValue? s.entries "paragraph_mode" =
      some (.text (Text.of s.paragraphMode.label)) ∧
    Datum.fieldValue? s.entries "exclude" = some (.list (s.exclude.map .text)) ∧
    Datum.fieldValue? s.entries "metrics" =
      some (.list (s.metrics.map MetricDefinition.toDatum)) ∧
    Datum.fieldValue? s.entries "max_files" = s.maxFiles.map .int := by
  cases limit : s.maxFiles <;> simp [Datum.fieldValue?, entries, limit, Datum.int]

theorem draftOf_entries {metrics : List MetricDefinition}
    (read : metricsOf (.list (s.metrics.map MetricDefinition.toDatum)) = .ok metrics)
    (limit : ∀ n ∈ s.maxFiles, maxFilesOf (.int n) = .ok n) :
    draftOf s.entries = .ok { s.draft with metrics } := by
  obtain ⟨journal, diary, metricsCallout, mode, exclude, definitions, maxFiles⟩ :=
    s.fieldValue?_entries
  have patterns : excludeOf (.list (s.exclude.map .text)) = .ok s.exclude := by
    simp only [excludeOf, Datum.opened_list, Except.mapM_eq_ok_iff, List.forall₂_map_left_iff,
      List.forall₂_same]
    exact fun _ _ => rfl
  have count : (s.maxFiles.map Datum.int).mapM maxFilesOf = .ok s.maxFiles := by
    cases given : s.maxFiles with
    | none => rfl
    | some n => exact Except.optionMapM_eq_ok_iff.mpr (.inr ⟨_, n, rfl, rfl, limit n given⟩)
  have label : Text.lower (Text.trim (Text.of s.paragraphMode.label)) =
      Text.of s.paragraphMode.label := by
    cases s.paragraphMode <;> rfl
  simp only [draftOf, journal, diary, metricsCallout, mode, exclude, definitions, maxFiles, count]
  refine Except.bind_eq_ok_iff.mpr
    ⟨some metrics, Except.optionMapM_eq_ok_iff.mpr (.inr ⟨_, _, rfl, rfl, read⟩), ?_⟩
  refine Except.bind_eq_ok_iff.mpr ⟨some (Text.of s.paragraphMode.label), rfl, ?_⟩
  refine Except.bind_eq_ok_iff.mpr
    ⟨some s.exclude, Except.optionMapM_eq_ok_iff.mpr (.inr ⟨_, _, rfl, rfl, patterns⟩), ?_⟩
  simp only [Option.map_some, Option.getD_some, label]
  rfl

theorem ofDatum_toDatum (readable : s.IsReadable) :
    ∃ s', ofDatum s.toDatum = .ok s' ∧ Restored s s' := by
  obtain ⟨metrics, read, restored⟩ := metricsOf_written readable.metrics
  have distinct : (metrics.map MetricDefinition.key).Nodup :=
    keys_eq_of_restored restored ▸ s.distinct
  -- nothing but the definitions can have changed
  refine ⟨{ s with metrics, distinct }, ?_, rfl, rfl, rfl, restored, rfl, rfl, rfl⟩
  have known : unknownWarning? (.map s.entries) = .ok none := s.unknownWarning?_toDatum
  have mode : modeOf (.text (Text.of s.paragraphMode.label)) = .ok s.paragraphMode := by
    cases s.paragraphMode <;> rfl
  refine Except.bind_eq_ok_iff.mpr ⟨none, known, Except.bind_eq_ok_iff.mpr
    ⟨_, draftOf_entries read readable.maxFiles, ofDraft_eq_ok_iff.mpr ?_⟩⟩
  exact ⟨Datum.toCalloutName_of_isCalloutName readable.journalCallout,
    Datum.toCalloutName_of_isCalloutName readable.diaryCallout,
    Datum.toCalloutName_of_isCalloutName readable.metricsCallout, mode, rfl, rfl, rfl⟩

/-- Whatever data describe, the data that describe these settings are read again without a warning,
and give the same settings unless a description is empty or a bound is no number; so does the
document that is written, where it is read as these data. -/
theorem ofDatum_restores (d : Datum) (s : Settings) (accepted : ofDatum d = .ok s) :
    ∃ s', s.entries? = .ok s.entries ∧ unknownWarning? s.toDatum = .ok none ∧
      ofDatum s.toDatum = .ok s' ∧ Restored s s' ∧
      (s'.sameAs s = true ↔ ∀ m ∈ s.metrics, m.IsWhole) ∧
      ∀ (files : Files) (path : Path), files.readText path = .ok (Yaml.write s.entries) →
        Yaml.read (Yaml.write s.entries) = .ok s.toDatum →
        load files (some path) = ⟨none, .ok s'⟩ := by
  have readable := isReadable_of_ofDatum accepted
  obtain ⟨s', read, restored⟩ := ofDatum_toDatum readable
  have small : s.metrics.any MetricDefinition.hasHugeBound = false :=
    List.any_eq_false.mpr fun m listed => by
      simp [(readable.metrics m listed).hasHugeBound_eq_false]
  refine ⟨s', if_neg (by simp [small]), unknownWarning?_toDatum s, read, restored,
    restored.sameAs_iff, fun files path stored document => ?_⟩
  rw [load, stored]
  dsimp only
  rw [ofDocument, document]
  dsimp only
  rw [loadedOf, unknownWarning?_toDatum, read]
  rfl

/-- A metric with a bound, and a limit. -/
def moodData : Datum :=
  .map [Datum.field "metrics" (.list [.map [Datum.field "name" (.text (Text.of "Mood")),
      Datum.field "min_value" (.int 1)]]), Datum.field "max_files" (.int 3)]

/-- Settings in a file of their own. -/
def storedIn (s : Settings) : Files :=
  [([Text.of "oneiro.yaml"], .file (Text.encode (Yaml.write s.entries)))]

/-- Whether a character is one octet in a file, and no carriage return. -/
def isPlainOctet (c : Char) : Bool := c.toNat < 0x80 && c != '\r'

theorem readText_storedIn {s : Settings} (plain : (Yaml.write s.entries).all isPlainOctet = true) :
    (storedIn s).readText (Path.ofText (Text.of "oneiro.yaml")) = .ok (Yaml.write s.entries) := by
  have read : (storedIn s).read (Path.ofText (Text.of "oneiro.yaml")) =
      .ok (Text.encode (Yaml.write s.entries)) := rfl
  simp only [List.all_eq_true, isPlainOctet, Bool.and_eq_true, decide_eq_true_eq,
    bne_iff_ne] at plain
  rw [Files.readText, read]
  dsimp only
  rw [Text.decode, Text.decodeFrom_encode fun c written => (plain c written).1]
  dsimp only
  rw [Text.lineFeeds_eq_self fun c written => (plain c written).2]

theorem ofDatum_restores_mood : ∃ s s', ofDatum moodData = .ok s ∧ ofDatum s.toDatum = .ok s' ∧
    s'.sameAs s = true ∧
    load (storedIn s) (some (Path.ofText (Text.of "oneiro.yaml"))) = ⟨none, .ok s'⟩ := by
  obtain ⟨s, accepted, checked⟩ := Except.exists_ok_of_all (ofDatum moodData)
    (fun s => decide ((∀ m ∈ s.metrics, m.description ≠ some [] ∧
        m.minimum ≠ some (.real .nan) ∧ m.maximum ≠ some (.real .nan)) ∧
      (Yaml.write s.entries).all isPlainOctet = true ∧
      Yaml.read (Yaml.write s.entries) = .ok s.toDatum)) (by decide +kernel)
  obtain ⟨whole, plain, document⟩ := of_decide_eq_true checked
  obtain ⟨s', _, _, read, _, same, loads⟩ := ofDatum_restores moodData s accepted
  exact ⟨s, s', accepted, read, same.mpr fun m listed => ⟨(whole m listed).1, (whole m listed).2.1,
    (whole m listed).2.2⟩, loads _ _ (readText_storedIn plain) document⟩

/-- A metric with a description that is there and empty. -/
def undescribedData : Datum :=
  .map [Datum.field "metrics" (.list [.map [Datum.field "name" (.text (Text.of "A")),
      Datum.field "description" (.text [])]])]

theorem ofDatum_loses_description : ∃ s s', ofDatum undescribedData = .ok s ∧
    (∀ m ∈ s.metrics, m.minimum = none ∧ m.maximum = none) ∧
    ofDatum s.toDatum = .ok s' ∧ s'.sameAs s = false := by
  obtain ⟨s, accepted, checked⟩ := Except.exists_ok_of_all (ofDatum undescribedData)
    (fun s => decide (∀ m ∈ s.metrics, m.minimum = none ∧ m.maximum = none) &&
      ((ofDatum s.toDatum).map fun s' => !s'.sameAs s).toOption == some true) (by decide +kernel)
  rw [Bool.and_eq_true, decide_eq_true_iff, beq_iff_eq] at checked
  obtain ⟨s', read, other⟩ := Except.exists_ok_of_all _ _ checked.2
  exact ⟨s, s', accepted, checked.1, read, by simpa using other⟩

end Settings
end DreamJournal
