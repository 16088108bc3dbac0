import DreamJournal.Proofs.Yaml.Tokens
import DreamJournal.Yaml.Value

/-!
# Which errors a document ends with

A text is refused because it is no document, or because of a scalar that has the form of a value and
is none. The error of such a scalar is of one of seven kinds.
-/
namespace DreamJournal.Yaml

/-! ## Nodes -/

namespace Node

variable {α β : Type}

/-- Reading from tokens that break off with a known error, if they do, ends with a known error, if
with one, and leaves such tokens. -/
def IsSteady (read : Reader α) : Prop :=
  ∀ s : Reading, AreKnown s.tokens →
    IsSound (read s) ∧ Returns (fun found => AreKnown found.2.tokens) (read s)

theorem isSteady_pure (a : α) : IsSteady (pure a : Reader α) :=
  fun _ known => ⟨failsWith_ok _, returns_ok.mpr known⟩

theorem isSteady_malformed : IsSteady (malformed : Reader α) :=
  fun _ _ => ⟨failsWith_error.mpr isKnown_malformed, returns_error _⟩

theorem isSteady_get : IsSteady (get : Reader Reading) :=
  fun _ known => ⟨failsWith_ok _, returns_ok.mpr known⟩

theorem isSteady_modify {change : Reading → Reading}
    (keeps : ∀ s, AreKnown s.tokens → AreKnown (change s).tokens) :
    IsSteady (modify change : Reader Unit) :=
  fun s known => ⟨failsWith_ok _, returns_ok.mpr (keeps s known)⟩

theorem IsSteady.bind {first : Reader α} {next : α → Reader β} (steady : IsSteady first)
    (later : ∀ a, IsSteady (next a)) : IsSteady (first >>= next) := by
  intro s known
  obtain ⟨sound, returns⟩ := steady s known
  have inTurn : (first >>= next) s = first s >>= fun found => next found.1 found.2 := rfl
  rw [inTurn]
  constructor
  · exact failsWith_bind.mpr ⟨sound, fun found read => (later _ _ (returns found read)).1⟩
  · exact returns.bind fun found known => (later _ _ known).2

theorem isSteady_peek : IsSteady peek := by
  rintro ⟨tokens, handles, names⟩ known
  match tokens with
  | [] => exact ⟨failsWith_error.mpr isKnown_malformed, returns_error _⟩
  | token :: rest =>
    -- only here does an error of the tokens become one of the reader
    cases token with
    | broken e => exact ⟨failsWith_error.mpr (known e List.mem_cons_self), returns_error _⟩
    | _ => exact ⟨failsWith_ok _, returns_ok.mpr known⟩

theorem isSteady_take : IsSteady take :=
  isSteady_peek.bind fun token =>
    (isSteady_modify fun _ known => known.drop 1).bind fun _ => isSteady_pure token

theorem isSteady_expect (token : Token) : IsSteady (expect token) := by
  refine isSteady_take.bind fun found => ?_
  split
  next => exact isSteady_malformed
  next => exact isSteady_pure ()

theorem isSteady_takeIf (token : Token) : IsSteady (takeIf token) := by
  refine isSteady_peek.bind fun found => ?_
  split
  next => exact isSteady_take.bind fun _ => isSteady_pure true
  next => exact isSteady_pure false

theorem isSteady_seesAny (tokens : List Token) : IsSteady (seesAny tokens) :=
  isSteady_peek.bind fun _ => isSteady_pure _

theorem isSteady_properties : IsSteady properties := by
  refine isSteady_peek.bind fun found => ?_
  split
  next =>
    refine isSteady_take.bind fun _ => isSteady_peek.bind fun _ => ?_
    split
    next => exact isSteady_take.bind fun _ => isSteady_pure _
    next => exact isSteady_pure _
  next =>
    refine isSteady_take.bind fun _ => isSteady_peek.bind fun _ => ?_
    split
    next => exact isSteady_take.bind fun _ => isSteady_pure _
    next => exact isSteady_pure _
  next => exact isSteady_pure _

theorem isSteady_tagName (tag : Option (Option Text × Text)) : IsSteady (tagName tag) := by
  unfold tagName
  split
  next => exact isSteady_pure _
  next => exact isSteady_pure _
  next =>
    refine isSteady_get.bind fun s => ?_
    split
    next => exact isSteady_pure _
    next => exact isSteady_malformed

theorem isSteady_start (name : Option Text) : IsSteady (start name) := by
  refine isSteady_get.bind fun s => ?_
  split
  next =>
    refine IsSteady.bind (isSteady_modify ?_) fun _ => isSteady_pure _
    exact fun _ known => known
  next =>
    refine isSteady_get.bind fun s => ?_
    split
    next => exact isSteady_malformed.bind fun _ => isSteady_pure _
    next =>
      refine IsSteady.bind (isSteady_modify ?_) fun _ => isSteady_pure _
      exact fun _ known => known

theorem isSteady_finish (n : Nat) (node : Node) : IsSteady (finish n node) := by
  refine IsSteady.bind (isSteady_modify ?_) fun _ => isSteady_pure _
  exact fun _ known => known

theorem isSteady_empty : IsSteady empty := isSteady_start none

theorem isSteady_named (name : Text) : IsSteady (named name) := by
  refine isSteady_get.bind fun s => ?_
  split
  next => exact isSteady_pure _
  next => exact isSteady_malformed

/-- The value of an entry may be missing. -/
theorem IsSteady.optional {part : Reader Nat} {next : Nat → Reader α} (token : Token)
    (steady : IsSteady part) (later : ∀ value, IsSteady (next value)) :
    IsSteady (takeIf token >>= fun seen =>
      if seen then part >>= next else empty >>= next) := by
  refine (isSteady_takeIf token).bind fun _ => ?_
  split
  next => exact steady.bind later
  next => exact isSteady_empty.bind later

/-- Between the parts of a flow collection stands a comma. -/
theorem IsSteady.separated {next : Unit → Reader α} (first : Bool)
    (later : ∀ nothing, IsSteady (next nothing)) :
    IsSteady (if !first then expect .flowEntry >>= next else next ()) := by
  split
  next => exact (isSteady_expect _).bind later
  next => exact later ()

mutual

theorem isSteady_read (block unindented : Bool) :
    (fuel : Nat) → IsSteady (read block unindented fuel)
  | 0 => isSteady_malformed
  | fuel + 1 => by
    unfold read
    refine isSteady_peek.bind fun _ => ?_
    split
    next => exact isSteady_take.bind fun _ => isSteady_named _
    next =>
      -- a node with properties is a collection, a scalar or empty
      refine isSteady_properties.bind fun written => (isSteady_tagName _).bind fun tag => ?_
      have around {β : Type} {inner : Reader β} (steady : IsSteady inner) (node : β → Node) :
          IsSteady (do
            let n ← start written.name
            finish n (node (← inner))) :=
        (isSteady_start _).bind fun _ => steady.bind fun _ => isSteady_finish _ _
      refine isSteady_peek.bind fun _ => ?_
      split
      next => exact around (isSteady_unindentedItems fuel) _
      next => exact isSteady_take.bind fun _ =>
          (isSteady_start _).bind fun _ => isSteady_finish _ _
      next => exact isSteady_take.bind fun _ => around (isSteady_flowItems true fuel) _
      next => exact isSteady_take.bind fun _ => around (isSteady_flowEntries true fuel) _
      next => exact isSteady_take.bind fun _ => around (isSteady_blockItems fuel) _
      next => exact isSteady_take.bind fun _ => around (isSteady_blockEntries fuel) _
      next =>
        split
        next => exact (isSteady_start _).bind fun _ => isSteady_finish _ _
        next => exact isSteady_malformed

theorem isSteady_readUnless (tokens : List Token) (block unindented : Bool) :
    (fuel : Nat) → IsSteady (readUnless tokens block unindented fuel)
  | 0 => isSteady_malformed
  | fuel + 1 => by
    unfold readUnless
    refine (isSteady_seesAny _).bind fun _ => ?_
    split
    next => exact isSteady_empty
    next => exact isSteady_read block unindented fuel

theorem isSteady_blockItems : (fuel : Nat) → IsSteady (blockItems fuel)
  | 0 => isSteady_malformed
  | fuel + 1 => by
    unfold blockItems
    refine (isSteady_takeIf _).bind fun _ => ?_
    split
    next =>
      exact (isSteady_readUnless _ _ _ fuel).bind fun _ =>
        (isSteady_blockItems fuel).bind fun _ => isSteady_pure _
    next => exact (isSteady_expect _).bind fun _ => isSteady_pure _

theorem isSteady_unindentedItems : (fuel : Nat) → IsSteady (unindentedItems fuel)
  | 0 => isSteady_malformed
  | fuel + 1 => by
    unfold unindentedItems
    refine (isSteady_takeIf _).bind fun _ => ?_
    split
    next =>
      exact (isSteady_readUnless _ _ _ fuel).bind fun _ =>
        (isSteady_unindentedItems fuel).bind fun _ => isSteady_pure _
    next => exact isSteady_pure _

theorem isSteady_blockEntries : (fuel : Nat) → IsSteady (blockEntries fuel)
  | 0 => isSteady_malformed
  | fuel + 1 => by
    unfold blockEntries
    refine (isSteady_takeIf _).bind fun _ => ?_
    split
    next =>
      exact (isSteady_readUnless _ _ _ fuel).bind fun _ =>
        (isSteady_readUnless _ _ _ fuel).optional _ fun _ =>
          (isSteady_blockEntries fuel).bind fun _ => isSteady_pure _
    next => exact (isSteady_expect _).bind fun _ => isSteady_pure _

theorem isSteady_flowItems (first : Bool) : (fuel : Nat) → IsSteady (flowItems first fuel)
  | 0 => isSteady_malformed
  | fuel + 1 => by
    unfold flowItems
    refine (isSteady_takeIf _).bind fun _ => ?_
    split
    next => exact isSteady_pure _
    next =>
      refine IsSteady.separated first fun _ => (isSteady_takeIf _).bind fun _ => ?_
      split
      next =>
        exact (isSteady_start _).bind fun _ => (isSteady_readUnless _ _ _ fuel).bind fun _ =>
          (isSteady_readUnless _ _ _ fuel).optional _ fun _ => (isSteady_finish _ _).bind fun _ =>
            (isSteady_flowItems false fuel).bind fun _ => isSteady_pure _
      next =>
        refine (isSteady_takeIf _).bind fun _ => ?_
        split
        next => exact isSteady_pure _
        next =>
          exact (isSteady_read _ _ fuel).bind fun _ =>
            (isSteady_flowItems false fuel).bind fun _ => isSteady_pure _

theorem isSteady_flowEntries (first : Bool) : (fuel : Nat) → IsSteady (flowEntries first fuel)
  | 0 => isSteady_malformed
  | fuel + 1 => by
    unfold flowEntries
    refine (isSteady_takeIf _).bind fun _ => ?_
    split
    next => exact isSteady_pure _
    next =>
      refine IsSteady.separated first fun _ => (isSteady_takeIf _).bind fun _ => ?_
      split
      next =>
        exact (isSteady_readUnless _ _ _ fuel).bind fun _ =>
          (isSteady_readUnless _ _ _ fuel).optional _ fun _ =>
            (isSteady_flowEntries false fuel).bind fun _ => isSteady_pure _
      next =>
        refine (isSteady_takeIf _).bind fun _ => ?_
        split
        next => exact isSteady_pure _
        next =>
          exact (isSteady_read _ _ fuel).bind fun _ => isSteady_empty.bind fun _ =>
            (isSteady_flowEntries false fuel).bind fun _ => isSteady_pure _

end

theorem isSteady_directives (fuel : Nat) (versioned : Bool) (handles : OrderedMap Text Text) :
    IsSteady (directives fuel versioned handles) := by
  induction fuel generalizing versioned handles with
  | zero => exact isSteady_malformed
  | succ fuel ih =>
    unfold directives
    refine isSteady_peek.bind fun _ => ?_
    split
    next =>
      refine isSteady_take.bind fun _ => ?_
      split
      next => exact isSteady_malformed
      next => exact ih _ _
    next =>
      refine isSteady_take.bind fun _ => ?_
      split
      next => exact isSteady_malformed
      next => exact ih _ _
    next => exact isSteady_take.bind fun _ => ih _ _
    next => exact isSteady_pure _

theorem isSteady_skipEnds (fuel : Nat) : IsSteady (skipEnds fuel) := by
  induction fuel with
  | zero => exact isSteady_pure _
  | succ fuel ih =>
    unfold skipEnds
    refine (isSteady_takeIf _).bind fun _ => ?_
    split
    next => exact ih
    next => exact isSteady_pure _

theorem isSteady_explicitStart (fuel : Nat) : IsSteady (explicitStart fuel) := by
  refine (isSteady_directives _ _ _).bind fun _ => (isSteady_expect _).bind fun _ =>
    isSteady_modify ?_
  exact fun _ known => known

theorem isSteady_document (fuel : Nat) : IsSteady (document fuel) := by
  have close (root : Option Nat) : IsSteady (do
      skipEnds fuel
      expect .streamEnd
      pure root) :=
    (isSteady_skipEnds fuel).bind fun _ => (isSteady_expect _).bind fun _ => isSteady_pure root
  have written : IsSteady (some <$> read true false fuel) :=
    (isSteady_read true false fuel).bind fun _ => isSteady_pure _
  unfold document
  refine isSteady_peek.bind fun first => ?_
  split
  next =>
    refine (isSteady_explicitStart fuel).bind fun _ => isSteady_peek.bind fun _ => ?_
    split
    next => exact (isSteady_empty.bind fun _ => isSteady_pure _).bind close
    next => exact written.bind close
  next =>
    split
    next => exact (isSteady_pure _).bind close
    next => exact written.bind close

end Node

theorem Document.ofText_sound (t : Text) : IsSound (ofText t) :=
  failsWith_bind.mpr ⟨(Node.isSteady_document _ _ (areKnown_ofText t)).1, fun _ _ => failsWith_ok _⟩

/-! ## Values -/

namespace Scalar

theorem fault_sound {α : Type} {kind : String} (listed : kind ∈ faultKinds) (message : Text) :
    IsSound (fault (Text.of kind) message : Except ReadError α) :=
  failsWith_error.mpr (isKnown_fault listed message)

@[simp] theorem badValue_sound {α : Type} (message : Text) :
    IsSound (badValue message : Except ReadError α) :=
  fault_sound (by decide) message

@[simp] theorem noDigit_sound {α : Type} : IsSound (noDigit : Except ReadError α) :=
  fault_sound (by decide) _

@[simp] theorem intOf_sound (base : Nat) (t : Text) : IsSound (intOf base t) := by
  simp [intOf]

@[simp] theorem signed_sound (t : Text) : IsSound (signed t) := by
  unfold signed
  split <;> simp

@[simp] theorem unsignedInt_sound (t : Text) : IsSound (unsignedInt t) := by
  unfold unsignedInt
  split <;> simp [failsWith_mapM]

@[simp] theorem int_sound (t : Text) : IsSound (int t) := by simp [int]

@[simp] theorem floatOf_sound (t : Text) : IsSound (floatOf t) := by
  unfold floatOf
  split <;> simp

@[simp] theorem addGroups_sound (base : Int) (sum : Double) (groups : List Double) :
    IsSound (addGroups base sum groups) := by
  induction groups generalizing base sum with
  | nil => exact failsWith_ok sum
  | cons group rest ih =>
    rw [addGroups]
    split
    next => exact ih _ _
    next => exact fault_sound (by decide) _

@[simp] theorem unsignedFloat_sound (t : Text) : IsSound (unsignedFloat t) := by
  simp [unsignedFloat, failsWith_mapM]

@[simp] theorem float_sound (t : Text) : IsSound (float t) := by simp [float]

@[simp] theorem bool_sound (t : Text) : IsSound (bool t) := by
  simp only [bool]
  split
  next => simp
  next => exact fault_sound (by decide) _

@[simp] theorem zoneMinutes_sound (zone : Char × Text × Text) : IsSound (zoneMinutes zone) := by
  simp [zoneMinutes]

@[simp] theorem ofTimeParts_sound (parts : Tag.TimeParts) : IsSound (ofTimeParts parts) := by
  simp only [ofTimeParts]
  split
  next =>
    refine failsWith_bind.mpr ⟨?_, fun _ _ => failsWith_ok _⟩
    split <;> simp
  next =>
    refine failsWith_bind.mpr ⟨failsWith_optionMapM zoneMinutes_sound, fun _ _ =>
      failsWith_bind.mpr ⟨?_, fun _ _ => by simp⟩⟩
    split <;> simp

@[simp] theorem timestamp_sound (t : Text) : IsSound (timestamp t) := by
  unfold timestamp
  split
  next => simp
  next => exact fault_sound (by decide) _

@[simp] theorem binary_sound (t : Text) : IsSound (binary t) := by
  simp only [binary]
  split
  next => split <;> simp
  next => simp

@[simp] theorem datum_sound (tag : Tag) (t : Text) : IsSound (datum tag t) := by
  unfold datum
  split <;> simp

end Scalar

namespace Graph

variable (g : Graph)

theorem scalarText_sound (fuel n : Nat) : IsSound (g.scalarText fuel n) := by
  induction fuel generalizing n with
  | zero => exact failsWith_error.mpr (isKnown_fault (by decide) _)
  | succ fuel ih =>
    rw [scalarText]
    split
    next => exact failsWith_ok _
    next => exact failsWith_error.mpr isKnown_malformed
    next =>
      split
      next => exact ih _
      next => exact failsWith_error.mpr isKnown_malformed

theorem scalar_sound (n : Nat) : IsSound (g.scalar n) := by
  refine failsWith_bind.mpr ⟨g.scalarText_sound _ n, fun text _ => ?_⟩
  split
  next => exact Scalar.fault_sound (by decide) _
  next => exact Scalar.datum_sound _ _

end Graph

namespace Making

variable {α β : Type}

/-- A step that fails with a known error, if it fails. -/
def Maker.IsSound (step : Maker α) : Prop := ∀ s, Yaml.IsSound (step s)

theorem isSound_pure (a : α) : Maker.IsSound (pure a) := fun _ => failsWith_ok _

theorem isSound_malformed : Maker.IsSound (malformed : Maker α) :=
  fun _ => failsWith_error.mpr isKnown_malformed

theorem isSound_get : Maker.IsSound get := fun _ => failsWith_ok _

theorem isSound_modify (change : Making → Making) : Maker.IsSound (modify change) :=
  fun _ => failsWith_ok _

theorem Maker.IsSound.bind {first : Maker α} {next : α → Maker β} (sound : first.IsSound)
    (later : ∀ a, (next a).IsSound) : (first >>= next).IsSound :=
  fun s => failsWith_bind.mpr ⟨sound s, fun found _ => later found.1 found.2⟩

theorem isSound_mapM {step : α → Maker β} (each : ∀ a, (step a).IsSound) (all : List α) :
    (all.mapM step).IsSound := by
  induction all with
  | nil => exact isSound_pure []
  | cons a rest ih =>
    rw [List.mapM_cons]
    exact (each a).bind fun _ => ih.bind fun _ => isSound_pure _

theorem isSound_addLeaf (d : Datum) : (addLeaf d).IsSound := fun _ => failsWith_ok _

theorem isSound_addCell (cell : Web.Cell) : (addCell cell).IsSound := fun _ => failsWith_ok _

theorem isSound_make (n : Nat) : (make n).IsSound := by
  refine isSound_get.bind fun s => ?_
  dsimp only
  split
  next =>
    exact (isSound_addCell _).bind fun _ => (isSound_modify _).bind fun _ => isSound_pure _
  next =>
    refine Maker.IsSound.bind (fun _ => ?_) fun d => isSound_addLeaf d
    exact failsWith_map.mpr (s.graph.scalar_sound n)

theorem isSound_part (n : Nat) : (part n).IsSound := by
  refine isSound_get.bind fun s => ?_
  split
  next => exact isSound_pure _
  next => exact (isSound_make n).bind fun _ => (isSound_modify _).bind fun _ => isSound_pure _

theorem isSound_key (n : Nat) : (key n).IsSound := by
  refine (isSound_part n).bind fun part => ?_
  split
  next => exact isSound_pure _
  next => exact isSound_malformed

theorem isSound_entries (n : Nat) : (entries n).IsSound := by
  refine isSound_get.bind fun s => ?_
  dsimp only
  split
  next => exact isSound_malformed
  next =>
    refine (isSound_modify _).bind fun _ => (isSound_mapM (fun entry => ?_) _).bind fun _ =>
      isSound_get.bind fun _ => isSound_pure _
    exact (isSound_key _).bind fun _ => (isSound_part _).bind fun _ => isSound_pure _

theorem isSound_items (n : Nat) : (items n).IsSound := by
  refine isSound_get.bind fun s => ?_
  split
  next => exact isSound_pure _
  next => exact isSound_malformed

theorem isSound_pair (n : Nat) : (pair n).IsSound := by
  refine isSound_get.bind fun s => ?_
  split
  next =>
    exact (isSound_part _).bind fun _ => (isSound_part _).bind fun _ =>
      (isSound_addCell _).bind fun _ => isSound_pure _
  next => exact isSound_malformed

theorem isSound_content (n : Nat) : (content n).IsSound := by
  refine isSound_get.bind fun s => ?_
  split
  next => exact (isSound_entries n).bind fun _ => isSound_pure _
  next => exact (isSound_entries n).bind fun _ => isSound_pure _
  next =>
    exact (isSound_items n).bind fun _ => (isSound_mapM isSound_part _).bind fun _ => isSound_pure _
  next =>
    exact (isSound_items n).bind fun _ => (isSound_mapM isSound_pair _).bind fun _ => isSound_pure _

theorem isSound_fillAll (fuel : Nat) : (fillAll fuel).IsSound := by
  induction fuel with
  | zero => exact isSound_pure ()
  | succ fuel ih =>
    refine isSound_get.bind fun s => ?_
    split
    next => exact isSound_pure ()
    next =>
      exact (isSound_modify _).bind fun _ => (isSound_content _).bind fun _ =>
        (isSound_modify _).bind fun _ => ih

end Making

theorem Document.toDatum_sound (d : Document) : IsSound d.toDatum := by
  have sound : Making.Maker.IsSound (do
      let start ← Making.part d.root
      Making.fillAll d.graph.nodes.length
      return start) :=
    (Making.isSound_part _).bind fun _ => (Making.isSound_fillAll _).bind fun _ =>
      Making.isSound_pure _
  exact failsWith_bind.mpr ⟨sound _, fun _ _ => failsWith_ok _⟩

theorem read_sound (t : Text) : IsSound (read t) := by
  unfold read
  refine failsWith_bind.mpr ⟨Document.ofText_sound t, fun document? _ => ?_⟩
  split
  next => exact Document.toDatum_sound _
  next => exact failsWith_ok _

/-- The error of a scalar is of one of seven kinds. -/
theorem kind_of_read {t : Text} {raised : Fault} (failed : read t = .error (.fault raised)) :
    ∃ kind ∈ faultKinds, raised.kind = Text.of kind :=
  read_sound t _ failed raised rfl

end DreamJournal.Yaml
