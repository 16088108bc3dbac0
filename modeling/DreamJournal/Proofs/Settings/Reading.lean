import DreamJournal.Proofs.Text.Lower
import DreamJournal.Proofs.Text.Splitting
import DreamJournal.Settings.Data

/-!
# Reading settings, field by field

Data are read one field after the other, and reading ends with the first value that is refused. What
a field holds depends on the entries with its name alone. A callout name that was read is in its
final form: reading it again changes nothing.
-/
namespace DreamJournal

/-! ## One reader after the other -/

section Except

variable {ε α β : Type}

theorem Except.bind_eq_ok_iff {first : Except ε α} {next : α → Except ε β} {b : β} :
    (first >>= next) = .ok b ↔ ∃ a, first = .ok a ∧ next a = .ok b := by
  cases first with
  | error e => simp [bind, Except.bind]
  | ok a => simp [bind, Except.bind]

/-- What holds of all that is read can be computed. -/
theorem Except.exists_ok_of_all (read : Except ε α) (test : α → Bool)
    (passed : (read.map test).toOption = some true) : ∃ a, read = .ok a ∧ test a = true := by
  cases read with
  | error e => cases passed
  | ok a => exact ⟨a, rfl, Option.some.inj passed⟩

/-- Reading a list reads its members, one by one. -/
theorem Except.mapM_eq_ok_iff {read : α → Except ε β} {items : List α} {values : List β} :
    items.mapM read = .ok values ↔ List.Forall₂ (fun a b => read a = .ok b) items values := by
  induction items generalizing values with
  | nil =>
    cases values with
    | nil => simp [pure, Except.pure]
    | cons b values => simp [pure, Except.pure]
  | cons a items ih =>
    simp only [List.mapM_cons, Except.bind_eq_ok_iff, ih, pure, Except.pure, Except.ok.injEq]
    constructor
    · rintro ⟨b, first, rest, later, rfl⟩
      exact .cons first later
    · rintro (_ | ⟨first, later⟩)
      exact ⟨_, first, _, later, rfl⟩

theorem Except.exists_of_mem_mapM {read : α → Except ε β} {items : List α} {values : List β} {b : β}
    (reads : items.mapM read = .ok values) (member : b ∈ values) :
    ∃ a ∈ items, read a = .ok b := by
  induction Except.mapM_eq_ok_iff.mp reads with
  | nil => cases member
  | cons first later ih =>
    rcases List.mem_cons.mp member with rfl | behind
    · exact ⟨_, List.mem_cons_self, first⟩
    · obtain ⟨a, listed, value⟩ := ih (Except.mapM_eq_ok_iff.mpr later) behind
      exact ⟨a, List.mem_cons_of_mem _ listed, value⟩

/-- A field that is missing is not read. -/
theorem Except.optionMapM_eq_ok_iff {read : α → Except ε β} {given : Option α} {b? : Option β} :
    given.mapM read = .ok b? ↔
      (given = none ∧ b? = none) ∨ ∃ a b, given = some a ∧ b? = some b ∧ read a = .ok b := by
  cases given with
  | none => simp [pure, Except.pure, eq_comm]
  | some a =>
    cases value : read a with
    | error e => simp [value, Functor.map, Except.map]
    | ok b => simp [value, Functor.map, Except.map, eq_comm]

end Except

/-! ## Looking fields up -/

namespace Datum

variable {key name : String} {value : Datum} {entries rest : List (Datum × Datum)}

theorem text_of_inj {s t : String} : Text.of s = Text.of t ↔ s = t := String.toList_inj

theorem sameKey_field :
    (text (Text.of name)).sameKey (text (Text.of key)) = decide (name = key) := by
  have texts : (text (Text.of name)).sameKey (text (Text.of key)) =
      (Text.of name == Text.of key) := rfl
  rw [texts, Bool.eq_iff_iff, beq_iff_eq, decide_eq_true_iff, text_of_inj]

@[simp] theorem lookup?_nil : lookup? key [] = none := rfl

@[simp] theorem lookup?_field :
    lookup? key (field name value :: rest) =
      if name = key then some value else lookup? key rest := by
  rw [lookup?, List.find?_cons, field, sameKey_field]
  by_cases same : name = key
  · simp [same]
  · simp [same, lookup?]

@[simp] theorem lookup?_append :
    lookup? key (entries ++ rest) = (lookup? key entries).or (lookup? key rest) := by
  rw [lookup?, List.find?_append]
  cases found : entries.find? fun entry => entry.1.sameKey (text (Text.of key)) with
  | none => simp [lookup?, found]
  | some entry => simp [lookup?, found]

/-- A field that is written only when there is a value for it. -/
@[simp] theorem lookup?_optional {α : Type} {given : Option α} {write : α → Datum} :
    lookup? key (given.map fun a => field name (write a)).toList =
      if name = key then given.map write else none := by
  cases given with
  | none => simp
  | some a => simp

/-! ## Callout names -/

theorem isAllBlank_eq_false_iff {t : Text} :
    Text.isAllBlank t = false ↔ ∃ c ∈ t, Text.isBlank c = false := by
  simp [Text.isAllBlank]

/-- A callout name has no white space and nothing in upper case. -/
structure IsCalloutName (name : Text) : Prop where
  isWord : Text.IsWord name
  small : ∀ c ∈ name, Text.IsSmall c

theorem isCalloutName_calloutName {name : Text} (given : Text.isAllBlank name = false) :
    IsCalloutName (calloutName name) := by
  obtain ⟨c, member, inked⟩ := isAllBlank_eq_false_iff.mp given
  obtain ⟨d, inside, shows⟩ :=
    Text.exists_inked_lower ⟨c, Text.mem_trimBoth member inked, inked⟩
  have hyphen : Text.isBlank '-' = false := rfl
  constructor
  case isWord =>
    constructor
    case unbroken =>
      intro e part
      rcases Text.mem_join part with between | ⟨word, listed, within⟩
      · rwa [List.mem_singleton.mp between]
      · exact (Text.isWord_of_mem listed).unbroken e within
    case nonempty =>
      -- the character that shows something is in one of the words
      have kept : d ∈ (Text.words (Text.lower (Text.trim name))).flatten := by
        rw [Text.flatten_words]
        exact List.mem_filter.mpr ⟨inside, by simp [shows]⟩
      obtain ⟨word, listed, within⟩ := List.mem_flatten.mp kept
      exact List.ne_nil_of_mem (Text.mem_join_of_mem listed within)
  case small =>
    intro e part
    rcases Text.mem_join part with between | ⟨word, listed, within⟩
    · rw [List.mem_singleton.mp between]
      exact ⟨by decide, by decide, rfl⟩
    · exact Text.isSmall_of_mem_lower (Text.mem_of_mem_words listed within)

/-- Reading a callout name gives its final form. -/
theorem toCalloutName_of_isCalloutName {name : Text} (isName : IsCalloutName name) :
    (text name).toCalloutName = .ok name := by
  obtain ⟨isWord, small⟩ := isName
  obtain ⟨c, member⟩ := List.exists_mem_of_ne_nil name isWord.nonempty
  have shows : Text.isAllBlank name = false :=
    isAllBlank_eq_false_iff.mpr ⟨c, member, isWord.unbroken c member⟩
  have same : calloutName name = name := by
    rw [calloutName, Text.trim_eq_self isWord.unbroken, Text.lower_eq_self small, isWord.words_eq,
      Text.join_singleton]
  rw [toCalloutName, if_neg (by simp [shows]), same]

theorem isCalloutName_of_toCalloutName {d : Datum} {name : Text}
    (read : d.toCalloutName = .ok name) : IsCalloutName name := by
  unfold toCalloutName at read
  split at read
  next given =>
    split at read
    next => cases read
    next shows =>
      obtain rfl := Except.ok.inj read
      exact isCalloutName_calloutName (by simpa using shows)
  next =>
    obtain ⟨_, _, refused⟩ := Except.bind_eq_ok_iff.mp read
    cases refused

end Datum

/-! ## Definitions -/

namespace MetricDefinition

/-- The kind that a label names; no label stands for numbers. -/
def kindOf (label? : Option Text) : Except Text MetricKind :=
  match label? with
  | none => .ok .number
  | some label =>
    let label := Text.lower (Text.trim label)
    match MetricKind.ofLabel? label with
    | some kind => .ok kind
    | none => .error (Text.quoted label)

/-- The definition with the parts that were read. -/
def ofRead (name : Text) (least greatest : Option Double) (enabled : Option Bool)
    (description label? : Option Text) : Except SettingsFault MetricDefinition :=
  match ofParts (Text.trim name) (least.map .real) (greatest.map .real) (enabled.getD true)
      description (kindOf label?) with
  | .ok definition => .ok definition
  | .error fault => .error (.badDefinition fault)

theorem ofRead_eq_ok_iff {name : Text} {least greatest : Option Double} {enabled : Option Bool}
    {description label? : Option Text} {d : MetricDefinition} :
    ofRead name least greatest enabled description label? = .ok d ↔
      ofParts (Text.trim name) (least.map .real) (greatest.map .real) (enabled.getD true)
        description (kindOf label?) = .ok d := by
  unfold ofRead
  split
  next made => rw [made, Except.ok.injEq, Except.ok.injEq]
  next made => simp [made]

/-- A definition is read in the order of these fields. -/
theorem ofDatum_of_opened {d : Datum} {entries : List (Datum × Datum)}
    (shown : d.opened = .map entries) : ofDatum d = (do
    Datum.requireFields entries [Text.of "name"]
    let enabled ← ((Datum.lookup? "enabled" entries).getD (.bool true)).toFlag?
    let name ← ((Datum.lookup? "name" entries).getD .null).written
    let least ← ((Datum.lookup? "min_value" entries).getD .null).toDouble?
    let greatest ← ((Datum.lookup? "max_value" entries).getD .null).toDouble?
    let description ← (Datum.fieldValue? entries "description").mapM Datum.written
    let label? ← (Datum.fieldValue? entries "type").mapM Datum.written
    ofRead name least greatest enabled description label?) := by
  rw [ofDatum, shown]
  rfl

end MetricDefinition
end DreamJournal
