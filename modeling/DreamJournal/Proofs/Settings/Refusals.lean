import DreamJournal.Proofs.Datum.Opened
import DreamJournal.Proofs.Number.Rounding
import DreamJournal.Proofs.Settings.Reading
import DreamJournal.Proofs.Yaml.Faults
import DreamJournal.Settings.Stored

/-!
# Settings that are refused with another error

Whoever reads settings expects either settings or an error of the settings. The data that are
refused with an error of another kind are told here, field by field: they hold a whole number that
is too large or too long, a count that is infinite or no number, or unknown keys that cannot be put
in order. Reading stops at the first value that is refused, so such a value shows only where all
that is read before it is accepted.
-/
namespace DreamJournal

/-! ## Errors of other kinds -/

section Escapes

variable {α β : Type} {fault : SettingsFault}

/-- Reading that ends with an error that is not one of the settings. -/
def Escapes (read : Except SettingsFault α) : Prop :=
  ∃ fault, read = .error fault ∧ fault.kind ≠ "ConfigError"

@[simp] theorem not_escapes_ok (a : α) : ¬Escapes (.ok a) := by simp [Escapes]

@[simp] theorem not_escapes_pure (a : α) : ¬Escapes (pure a) := not_escapes_ok a

@[simp] theorem escapes_error_iff :
    Escapes (.error fault : Except SettingsFault α) ↔ fault.kind ≠ "ConfigError" := by
  simp [Escapes]

theorem not_escapes_iff {read : Except SettingsFault α} : ¬Escapes read ↔
    (∃ a, read = .ok a) ∨ ∃ fault, read = .error fault ∧ fault.kind = "ConfigError" := by
  cases read <;> simp

theorem escapes_bind_iff {first : Except SettingsFault α} {next : α → Except SettingsFault β} :
    Escapes (first >>= next) ↔ Escapes first ∨ ∃ a, first = .ok a ∧ Escapes (next a) := by
  cases first with
  | error fault => simp [bind, Except.bind, Escapes]
  | ok a => simp [bind, Except.bind]

/-- One of the values that are read in turn: whether it is accepted, and whether it is refused with
another error. -/
structure Stage where
  accepted : Prop
  derails : Prop

def Stage.reading (read : Except SettingsFault α) (derails : Prop) : Stage :=
  ⟨∃ a, read = .ok a, derails⟩

/-- At some stage reading ends with another error, and everything before it is accepted. -/
def Derails (stages : List Stage) : Prop :=
  ∃ before stage after, stages = before ++ stage :: after ∧ (∀ s ∈ before, s.accepted) ∧
    stage.derails

@[simp] theorem not_derails_nil : ¬Derails [] := by simp [Derails]

theorem derails_cons_iff {stage : Stage} {rest : List Stage} :
    Derails (stage :: rest) ↔ stage.derails ∨ stage.accepted ∧ Derails rest := by
  constructor
  · rintro ⟨_ | ⟨first, before⟩, last, after, whole, accepted, derails⟩
    · obtain ⟨rfl, rfl⟩ := List.cons.inj whole
      exact .inl derails
    · obtain ⟨rfl, rfl⟩ := List.cons.inj whole
      obtain ⟨here, further⟩ := List.forall_mem_cons.mp accepted
      exact .inr ⟨here, before, last, after, rfl, further, derails⟩
  · rintro (here | ⟨accepted, before, last, after, rfl, further, derails⟩)
    · exact ⟨[], stage, rest, rfl, by simp, here⟩
    · exact ⟨stage :: before, last, after, rfl, List.forall_mem_cons.mpr ⟨accepted, further⟩,
        derails⟩

/-- Where nothing is refused with an error of the settings, it does not matter what comes before. -/
theorem derails_iff_exists {stages : List Stage}
    (accepted : ∀ stage ∈ stages, ¬stage.derails → stage.accepted) :
    Derails stages ↔ ∃ stage ∈ stages, stage.derails := by
  induction stages with
  | nil => simp
  | cons stage rest ih =>
    obtain ⟨here, further⟩ := List.forall_mem_cons.mp accepted
    rw [derails_cons_iff, ih further, List.exists_mem_cons_iff]
    by_cases derails : stage.derails
    · simp [derails]
    · simp [derails, here derails]

/-- What is read first may matter for what is read later, but not for which error that ends with. -/
theorem escapes_bind_iff_derails {first : Except SettingsFault α}
    {next : α → Except SettingsFault β} {derails : Prop} {rest : List Stage}
    (here : Escapes first ↔ derails) (later : ∀ a, Escapes (next a) ↔ Derails rest) :
    Escapes (first >>= next) ↔ Derails (.reading first derails :: rest) := by
  simp only [escapes_bind_iff, derails_cons_iff, Stage.reading, here, later, exists_and_right]

theorem escapes_optionMapM_iff {read : α → Except SettingsFault β} {given : Option α} :
    Escapes (given.mapM read) ↔ ∃ a ∈ given, Escapes (read a) := by
  cases given with
  | none => simp
  | some a =>
    cases value : read a with
    | error fault => simp [value, Functor.map, Except.map]
    | ok b => simp [value, Functor.map, Except.map]

theorem escapes_mapM_iff {read : α → Except SettingsFault β} {derails : α → Prop}
    (each : ∀ a, Escapes (read a) ↔ derails a) {items : List α} :
    Escapes (items.mapM read) ↔ Derails (items.map fun a => .reading (read a) (derails a)) := by
  induction items with
  | nil => simp
  | cons a rest ih =>
    rw [List.mapM_cons]
    refine escapes_bind_iff_derails (each a) fun value => ?_
    -- what is left puts the value in front of the others, which cannot fail
    rw [← ih, escapes_bind_iff]
    simp

end Escapes

/-! ## Values -/

namespace Datum

variable {d : Datum} {n : Int}

/-- A number that is too large for double precision, or data that are too long to be written. -/
def IsTooLarge (d : Datum) : Prop :=
  (∃ n : Int, d = .int n ∧ Double.limit ≤ n.natAbs) ∨ d.isTooLong = true

theorem escapes_written_iff : Escapes d.written ↔ d.isTooLong = true := by
  unfold written
  split
  next long => simp [long, SettingsFault.kind]
  next short => simp [short]

theorem escapes_shown_iff : Escapes d.shown ↔ d.isTooLong = true := by
  unfold shown
  split
  next long => simp [long, SettingsFault.kind]
  next short => simp [short]

theorem not_isTooLong_int (short : (Text.ofNat n.natAbs).length ≤ digitLimit) :
    (int n).isTooLong = false := by
  simp [int, isTooLong, short]

theorem limit_lt : Double.limit < 10 ^ digitLimit := by
  have places : 54 + 970 ≤ digitLimit := by decide
  unfold Double.limit Double.slack
  -- so that no step evaluates the powers
  generalize digitLimit = most at places ⊢
  generalize 970 = k at places ⊢
  calc (2 ^ 54 - 1) * Nat.pow 2 k
      _ < 2 ^ 54 * 2 ^ k := Nat.mul_lt_mul_of_pos_right (by decide) (Nat.two_pow_pos k)
      _ = 2 ^ (54 + k) := (Nat.pow_add 2 54 k).symm
      _ ≤ 10 ^ (54 + k) := Nat.pow_le_pow_left (by decide) _
      _ ≤ 10 ^ most := Nat.pow_le_pow_right (by decide) places

/-- A number within double precision is short enough to be written. -/
theorem not_isTooLong_of_lt (moderate : n.natAbs < Double.limit) : (int n).isTooLong = false :=
  not_isTooLong_int
    ((Nat.length_toDigits_le_iff (by decide) (by decide)).mpr (moderate.trans limit_lt))

theorem isTooLarge_int_iff : (int n).IsTooLarge ↔ Double.limit ≤ n.natAbs := by
  constructor
  · rintro (⟨m, whole, large⟩ | long)
    · obtain rfl : n = m := by simpa [int] using whole
      exact large
    · by_contra moderate
      rw [not_isTooLong_of_lt (Nat.lt_of_not_le moderate)] at long
      cases long
  · exact fun large => .inl ⟨n, rfl, large⟩

theorem not_isTooLong_of_same {n : Number} (k : Int)
    (short : (Text.ofNat k.natAbs).length ≤ digitLimit) (same : n.same (.whole k) = true) :
    (number n).isTooLong = false := by
  cases n with
  | whole m =>
    obtain rfl : m = k := by simpa [Number.same, Number.compare?] using same
    exact not_isTooLong_int short
  | real x => simp [isTooLong]

/-- Only a number that is too long is refused as a flag with another error. -/
theorem escapes_toFlag?_iff :
    Escapes d.toFlag? ↔ (∃ n, d = .number n) ∧ d.isTooLong = true := by
  cases d with
  | number n =>
    simp only [toFlag?]
    split
    next zero => simp [not_isTooLong_of_same 0 (by decide) zero]
    next =>
      split
      next one => simp [not_isTooLong_of_same 1 (by decide) one]
      next => simp [escapes_bind_iff, escapes_written_iff, SettingsFault.kind]
  | text t =>
    simp only [toFlag?]
    split <;> simp [SettingsFault.kind]
  | _ => simp [toFlag?]

theorem escapes_toDouble?_iff : Escapes d.toDouble? ↔ d.IsTooLarge := by
  cases d with
  | number n =>
    cases n with
    | whole n =>
      have finite := Double.ofInt?_isSome_iff n
      rw [← int, isTooLarge_int_iff, ← Nat.not_lt, ← finite]
      simp only [int, toDouble?, Number.toDouble?]
      cases Double.ofInt? n <;> simp [SettingsFault.kind]
    | real x => simp [toDouble?, Number.toDouble?, IsTooLarge, isTooLong, int]
  | text t =>
    simp only [toDouble?]
    split <;> simp [IsTooLarge, isTooLong, int, SettingsFault.kind]
  | bytes octets =>
    simp only [toDouble?]
    split <;> simp [IsTooLarge, isTooLong, int, SettingsFault.kind]
  | null => simp [toDouble?, IsTooLarge, isTooLong, int]
  | bool b => simp [toDouble?, IsTooLarge, isTooLong, int, SettingsFault.kind]
  | _ => simp [toDouble?, escapes_bind_iff, escapes_shown_iff, IsTooLarge, int, SettingsFault.kind]

theorem not_isTooLong_of_toDouble? {x? : Option Double} (read : d.toDouble? = .ok x?) :
    d.isTooLong = false := by
  by_contra long
  have escapes : Escapes d.toDouble? := escapes_toDouble?_iff.mpr (.inr (by simpa using long))
  rw [read] at escapes
  exact not_escapes_ok _ escapes

/-- A number that is too large, or that is read as an infinite one or as none. -/
def IsUncountable (d : Datum) : Prop :=
  d.IsTooLarge ∨ ∃ x : Double, d.toDouble? = .ok (some x) ∧ x.isFinite = false

theorem not_isUncountable_null : ¬IsUncountable null := by
  simp [IsUncountable, IsTooLarge, isTooLong, int, toDouble?]

theorem escapes_toCount?_iff : Escapes d.toCount? ↔ d.IsUncountable := by
  rw [toCount?, escapes_bind_iff, escapes_toDouble?_iff]
  refine or_congr_right ⟨?_, ?_⟩
  · rintro ⟨x?, read, escapes⟩
    have short := not_isTooLong_of_toDouble? read
    match x? with
    | none => simp at escapes
    | some .nan => exact ⟨_, read, rfl⟩
    | some (.infinity _) => exact ⟨_, read, rfl⟩
    | some (.finite ..) =>
      -- a finite number is short, so the message about it can be written
      simp only at escapes
      split at escapes
      next => simp at escapes
      next => simp [escapes_bind_iff, escapes_shown_iff, short, SettingsFault.kind] at escapes
  · rintro ⟨x, read, special⟩
    refine ⟨some x, read, ?_⟩
    cases x with
    | finite => cases special
    | _ => simp [SettingsFault.kind]

theorem escapes_toCalloutName_iff : Escapes d.toCalloutName ↔ d.isTooLong = true := by
  cases d with
  | text name =>
    simp only [toCalloutName]
    split <;> simp [isTooLong, SettingsFault.kind]
  | _ => simp [toCalloutName, escapes_bind_iff, escapes_shown_iff, SettingsFault.kind]

/-! ## Fields -/

variable {entries : List (Datum × Datum)} {field : String}

/-- The value of a field; nothing where there is no such field. -/
def given (entries : List (Datum × Datum)) (field : String) : Datum :=
  (lookup? field entries).getD .null

theorem not_escapes_requireFields {names : List Text} : ¬Escapes (requireFields entries names) := by
  induction names with
  | nil => simp [requireFields]
  | cons name rest ih =>
    simp only [requireFields]
    split
    all_goals first | exact ih | simp [SettingsFault.kind]

theorem mem_fieldValue?_iff :
    d ∈ fieldValue? entries field ↔ d = given entries field ∧ d ≠ .null := by
  rw [fieldValue?, given]
  cases lookup? field entries with
  | none => simp
  | some value => cases value <;> simp +contextual [eq_comm]

/-- A field that is missing or holds nothing is not read. -/
theorem escapes_field_iff {α : Type} {read : Datum → Except SettingsFault α} {p : Datum → Prop}
    (each : ∀ d, Escapes (read d) ↔ p d) (nothing : ¬p .null) :
    Escapes ((fieldValue? entries field).mapM read) ↔ p (given entries field) := by
  simp only [escapes_optionMapM_iff, mem_fieldValue?_iff, each]
  constructor
  · rintro ⟨_, ⟨rfl, _⟩, holds⟩
    exact holds
  · intro holds
    exact ⟨_, ⟨rfl, fun null => nothing (null ▸ holds)⟩, holds⟩

theorem escapes_written_field_iff :
    Escapes ((fieldValue? entries field).mapM written) ↔ (given entries field).isTooLong = true :=
  escapes_field_iff (fun _ => escapes_written_iff) (by simp [isTooLong])

theorem anyTooLong_iff {items : List Datum} :
    anyTooLong items = true ↔ ∃ item ∈ items, item.isTooLong = true := by
  rw [anyTooLong_eq_any, List.any_eq_true]

theorem escapes_mapM_written_iff {items : List Datum} :
    Escapes (items.mapM written) ↔ anyTooLong items = true := by
  rw [escapes_mapM_iff fun _ => escapes_written_iff, derails_iff_exists, anyTooLong_iff]
  · simp [Stage.reading]
  · intro stage listed short
    obtain ⟨item, _, rfl⟩ := List.mem_map.mp listed
    exact ⟨item.plain, if_neg short⟩

/-! ## Keys -/

/-- The sorts of keys: two keys can be compared when they are of one sort. -/
inductive KeySort where
  | number
  | text
  | bytes
  | date
  | moment (zoned : Bool)

def keySort? : Datum → Option KeySort
  | bool _ | number _ => some .number
  | text _ => some .text
  | bytes _ => some .bytes
  | date _ => some .date
  | moment m => some (.moment m.offset.isSome)
  | _ => none

/-- Two keys that can be put in order. -/
def AreComparable (a b : Datum) : Prop := a.keySort? = b.keySort? ∧ a.keySort?.isSome = true

variable {a b c : Datum}

theorem AreComparable.symm (comparable : AreComparable a b) : AreComparable b a :=
  ⟨comparable.1.symm, comparable.1 ▸ comparable.2⟩

theorem AreComparable.trans (first : AreComparable a b) (second : AreComparable b c) :
    AreComparable a c :=
  ⟨first.1.trans second.1, first.2⟩

theorem keyLe?_isSome_iff :
    (Settings.keyLe? a b).isSome = true ↔ AreComparable a b := by
  unfold AreComparable
  cases a <;> cases b <;>
    simp [Settings.keyLe?, keyNumber?, keySort?, Moment.isComparable]

end Datum

/-! ## Definitions -/

namespace MetricDefinition

open Datum (given)

theorem not_escapes_ofRead {name : Text} {least greatest : Option Double} {enabled : Option Bool}
    {description label? : Option Text} :
    ¬Escapes (ofRead name least greatest enabled description label?) := by
  unfold ofRead
  split <;> simp [SettingsFault.kind]

/-- How the entries of a definition are read. -/
def stages (entries : List (Datum × Datum)) : List Stage :=
  let enabled := (Datum.lookup? "enabled" entries).getD (.bool true)
  [.reading (Datum.requireFields entries [Text.of "name"]) False,
    .reading enabled.toFlag? ((∃ n, enabled = .number n) ∧ enabled.isTooLong = true),
    .reading (given entries "name").written ((given entries "name").isTooLong = true),
    .reading (given entries "min_value").toDouble? (given entries "min_value").IsTooLarge,
    .reading (given entries "max_value").toDouble? (given entries "max_value").IsTooLarge,
    .reading ((Datum.fieldValue? entries "description").mapM Datum.written)
      ((given entries "description").isTooLong = true),
    .reading ((Datum.fieldValue? entries "type").mapM Datum.written)
      ((given entries "type").isTooLong = true)]

theorem escapes_ofDatum_iff {d : Datum} :
    Escapes (ofDatum d) ↔ ∃ entries, d.opened = .map entries ∧ Derails (stages entries) := by
  cases shown : d.opened with
  | map entries =>
    -- one stage for each field, in the order of reading
    simp only [Datum.map.injEq, exists_eq_left', ofDatum_of_opened shown]
    refine escapes_bind_iff_derails (iff_false_intro Datum.not_escapes_requireFields) fun _ => ?_
    refine escapes_bind_iff_derails Datum.escapes_toFlag?_iff fun _ => ?_
    refine escapes_bind_iff_derails Datum.escapes_written_iff fun _ => ?_
    refine escapes_bind_iff_derails Datum.escapes_toDouble?_iff fun _ => ?_
    refine escapes_bind_iff_derails Datum.escapes_toDouble?_iff fun _ => ?_
    refine escapes_bind_iff_derails Datum.escapes_written_field_iff fun _ => ?_
    refine escapes_bind_iff_derails Datum.escapes_written_field_iff fun _ => ?_
    simp [not_escapes_ofRead]
  | _ => simp [ofDatum, shown, SettingsFault.kind]

/-- One of several definitions. -/
def stage (d : Datum) : Stage :=
  .reading (ofDatum d) (∃ entries, d.opened = .map entries ∧ Derails (stages entries))

end MetricDefinition

/-! ## Settings -/

namespace Settings

open Datum (given AreComparable)

variable {d : Datum} {keys : List Datum}

theorem pairwise_cons_iff {first : Datum} {rest : List Datum} :
    (first :: rest).Pairwise AreComparable ↔ ∀ key ∈ rest, AreComparable key first := by
  rw [List.pairwise_cons]
  constructor
  · rintro ⟨comparable, _⟩ key listed
    exact (comparable key listed).symm
  · intro comparable
    refine ⟨fun key listed => (comparable key listed).symm, ?_⟩
    exact List.pairwise_of_forall_mem_list fun key listed other known =>
      (comparable key listed).trans (comparable other known).symm

/-- Sorting compares all keys with the first one, which is enough. -/
theorem escapes_sortKeys (apart : ¬keys.Pairwise AreComparable) : Escapes (sortKeys keys) := by
  cases keys with
  | nil => exact absurd List.Pairwise.nil apart
  | cons first rest =>
    rw [sortKeys]
    split
    next key found => simp [SettingsFault.kind]
    next none =>
      rw [List.find?_eq_none] at none
      refine absurd (pairwise_cons_iff.mpr fun key listed => ?_) apart
      rw [← Datum.keyLe?_isSome_iff, Option.isSome_iff_ne_none]
      simpa using none key listed

theorem exists_sortKeys (comparable : keys.Pairwise AreComparable) :
    ∃ sorted, sortKeys keys = .ok sorted ∧ ∀ key, key ∈ sorted ↔ key ∈ keys := by
  cases keys with
  | nil => exact ⟨[], rfl, fun key => Iff.rfl⟩
  | cons first rest =>
    have none : rest.find? (fun key => (keyLe? key first).isNone) = none := by
      rw [List.find?_eq_none]
      intro key listed
      have ordered := Datum.keyLe?_isSome_iff.mpr (pairwise_cons_iff.mp comparable key listed)
      simpa [Option.isSome_iff_ne_none] using ordered
    exact ⟨_, by rw [sortKeys, none], fun key => List.mem_mergeSort⟩

/-- The keys that are no fields of settings. -/
def unknownKeys (entries : List (Datum × Datum)) : List Datum :=
  (entries.map Prod.fst).filter fun key =>
    !fields.any fun field => key.sameKey (.text (Text.of field))

/-- The warning about some keys, if there are any. -/
def warningOf (unknown : List Datum) : Except SettingsFault (Option Text) :=
  if unknown.isEmpty then .ok none
  else do
    let names ← unknown.mapM Datum.written
    .ok (some (Text.of "Ignoring unknown settings keys: " ++ Text.join (Text.of ", ") names))

theorem escapes_warningOf_iff : Escapes (warningOf keys) ↔ Datum.anyTooLong keys = true := by
  unfold warningOf
  split
  next none => simp [List.isEmpty_iff.mp none, Datum.anyTooLong]
  next => rw [escapes_bind_iff, Datum.escapes_mapM_written_iff]; simp

/-- Unknown keys are put in order and then written. -/
theorem escapes_unknownWarning?_iff {entries : List (Datum × Datum)} :
    Escapes (unknownWarning? (.map entries)) ↔
      ¬(unknownKeys entries).Pairwise AreComparable ∨
        Datum.anyTooLong (unknownKeys entries) = true := by
  have inTurn : unknownWarning? (.map entries) = sortKeys (unknownKeys entries) >>= warningOf := rfl
  rw [inTurn, escapes_bind_iff]
  by_cases comparable : (unknownKeys entries).Pairwise AreComparable
  · obtain ⟨sorted, ordered, same⟩ := exists_sortKeys comparable
    -- sorting moves keys about and loses none
    have long : Datum.anyTooLong sorted = Datum.anyTooLong (unknownKeys entries) := by
      rw [Bool.eq_iff_iff, Datum.anyTooLong_iff, Datum.anyTooLong_iff]
      simp only [same]
    simp [ordered, comparable, escapes_warningOf_iff, long]
  · exact iff_of_true (.inl (escapes_sortKeys comparable)) (.inl comparable)

theorem escapes_excludeOf_iff :
    Escapes (excludeOf d) ↔ (∃ patterns, d.opened = .list patterns) ∧ d.isTooLong = true := by
  rw [← d.isTooLong_opened]
  cases shown : d.opened with
  | list patterns => simp [excludeOf, shown, Datum.escapes_mapM_written_iff, Datum.isTooLong]
  | _ => simp [excludeOf, shown, SettingsFault.kind]

theorem escapes_metricsOf_iff : Escapes (metricsOf d) ↔
    ∃ items, d.opened = .list items ∧ Derails (items.map MetricDefinition.stage) := by
  cases shown : d.opened with
  | list items =>
    simp only [metricsOf, shown, Datum.list.injEq, exists_eq_left']
    exact escapes_mapM_iff fun _ => MetricDefinition.escapes_ofDatum_iff
  | _ => simp [metricsOf, shown, SettingsFault.kind]

theorem escapes_maxFilesOf_iff : Escapes (maxFilesOf d) ↔ d.IsUncountable := by
  rw [maxFilesOf, escapes_bind_iff, Datum.escapes_toCount?_iff, or_iff_left]
  rintro ⟨count?, _, escapes⟩
  split at escapes <;> simp [SettingsFault.kind] at escapes

/-- The data of a callout name, or its standard value. -/
def calloutOf (entries : List (Datum × Datum)) (field standard : String) : Datum :=
  (Datum.fieldValue? entries field).getD (.text (Text.of standard))

def calloutStage (d : Datum) : Stage := .reading d.toCalloutName (d.isTooLong = true)

/-- How the entries of settings are read. -/
def stages (entries : List (Datum × Datum)) : List Stage :=
  let value := Datum.fieldValue? entries
  let exclude := given entries "exclude"
  [.reading (unknownWarning? (.map entries))
      (¬(unknownKeys entries).Pairwise AreComparable ∨
        Datum.anyTooLong (unknownKeys entries) = true),
    .reading ((value "metrics").mapM metricsOf)
      (∃ items, (given entries "metrics").opened = .list items ∧
        Derails (items.map MetricDefinition.stage)),
    .reading ((value "paragraph_mode").mapM Datum.written)
      ((given entries "paragraph_mode").isTooLong = true),
    .reading ((value "exclude").mapM excludeOf)
      ((∃ patterns, exclude.opened = .list patterns) ∧ exclude.isTooLong = true),
    .reading ((value "max_files").mapM maxFilesOf) (given entries "max_files").IsUncountable,
    calloutStage (calloutOf entries "journal_callout" "journal-entry"),
    calloutStage (calloutOf entries "diary_callout" "dream-diary"),
    calloutStage (calloutOf entries "metrics_callout" "dream-metrics")]

theorem not_escapes_modeOf {label : Text} : ¬Escapes (modeOf (.text label)) := by
  simp only [modeOf]
  split <;> simp [SettingsFault.kind]

theorem escapes_ofDraft_iff {draft : Draft} {label : Text}
    (mode : draft.paragraphMode = .text label) :
    Escapes (ofDraft draft) ↔ Derails [calloutStage draft.journalCallout,
      calloutStage draft.diaryCallout, calloutStage draft.metricsCallout] := by
  unfold ofDraft
  refine escapes_bind_iff_derails Datum.escapes_toCalloutName_iff fun _ => ?_
  refine escapes_bind_iff_derails Datum.escapes_toCalloutName_iff fun _ => ?_
  refine escapes_bind_iff_derails Datum.escapes_toCalloutName_iff fun _ => ?_
  rw [mode, escapes_bind_iff]
  refine iff_of_false ?_ not_derails_nil
  rintro (escapes | ⟨_, _, escapes⟩)
  · exact not_escapes_modeOf escapes
  · split at escapes <;> simp [SettingsFault.kind] at escapes

theorem escapes_ofDatum_iff :
    Escapes (ofDatum d) ↔ ∃ entries, d.opened = .map entries ∧ Derails (stages entries) := by
  cases shown : d.opened with
  | map entries =>
    have inTurn : ofDatum d =
        unknownWarning? (.map entries) >>= fun _ => draftOf entries >>= ofDraft := by
      rw [ofDatum, unknownWarning?, shown]
      rfl
    simp only [Datum.map.injEq, exists_eq_left', inTurn, draftOf, bind_assoc]
    refine escapes_bind_iff_derails escapes_unknownWarning?_iff fun _ => ?_
    refine escapes_bind_iff_derails
      (Datum.escapes_field_iff (fun _ => escapes_metricsOf_iff) (by simp)) fun _ => ?_
    refine escapes_bind_iff_derails Datum.escapes_written_field_iff fun label? => ?_
    refine escapes_bind_iff_derails
      (Datum.escapes_field_iff (fun _ => escapes_excludeOf_iff) (by simp)) fun _ => ?_
    refine escapes_bind_iff_derails
      (Datum.escapes_field_iff (fun _ => escapes_maxFilesOf_iff) Datum.not_isUncountable_null)
      fun _ => ?_
    -- the mode is a text by now, whether it was given or not
    cases label? with
    | none => exact escapes_ofDraft_iff rfl
    | some label => exact escapes_ofDraft_iff rfl
  | _ => simp [ofDatum, shown, SettingsFault.kind]

/-! ## Settings in files -/

/-- An error of a scalar is none of the settings. -/
theorem kind_of_scalar {document : Text} {fault : Fault}
    (raised : Yaml.read document = .error (.fault fault)) :
    fault.kind ≠ Text.of "ConfigError" := by
  obtain ⟨kind, listed, named⟩ := Yaml.kind_of_read raised
  rw [named, ne_eq, Datum.text_of_inj]
  rintro rfl
  revert listed
  decide

theorem loadedOf_iff : ((∃ s, (loadedOf d).settings = .ok s) ∨ ∃ fault,
      (loadedOf d).settings = .error fault ∧ fault.kind = Text.of "ConfigError") ↔
    ¬Escapes (ofDatum d) := by
  unfold loadedOf
  cases ofDatum d with
  | ok s => simp
  | error fault => simp [SettingsFault.toFault, Datum.text_of_inj]

/-- Data give settings or an error of the settings, unless they are of these; so does a file, unless
it holds such data or a scalar that is not what it has the form of. -/
theorem answered_iff (d : Datum) (files : Files) (path : Path) :
    (((∃ s, ofDatum d = .ok s) ∨
        ∃ fault, ofDatum d = .error fault ∧ fault.kind = "ConfigError") ↔
      ¬∃ entries, d.opened = .map entries ∧ Derails (stages entries)) ∧
    (((∃ s, (load files (some path)).settings = .ok s) ∨
        ∃ fault, (load files (some path)).settings = .error fault ∧
          fault.kind = Text.of "ConfigError") ↔
      ¬∃ document, files.readText path = .ok document ∧
        ((∃ fault, Yaml.read document = .error (.fault fault)) ∨
          ∃ d entries, Yaml.read document = .ok d ∧ d.opened = .map entries ∧
            Derails (stages entries))) ∧
    (load files none).settings = .ok standard := by
  refine ⟨?_, ?_, rfl⟩
  · rw [← escapes_ofDatum_iff, not_escapes_iff]
  · simp only [load]
    cases found : files.readText path with
    | error fault => simp [Fault.badSetting]
    | ok document =>
      simp only [Except.ok.injEq, exists_eq_left', ofDocument]
      cases read : Yaml.read document with
      | error e =>
        cases e with
        | malformed => simp [Fault.badSetting]
        | fault fault => simp [kind_of_scalar read]
      | ok d => simp [loadedOf_iff, escapes_ofDatum_iff]

/-- Settings that ask for infinitely many files. -/
def infiniteData : Datum := .map [Datum.field "max_files" (.real (.infinity false))]

theorem ofDatum_infiniteData : ofDatum infiniteData = .error .infiniteCount ∧
    SettingsFault.infiniteCount.kind = "OverflowError" := by
  decide +kernel

end Settings
end DreamJournal
