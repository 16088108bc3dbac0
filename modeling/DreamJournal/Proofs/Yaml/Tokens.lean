import DreamJournal.Yaml.Token.Lexer

/-!
# Where the tokens of a text break off

Reading tokens ends at the end of the text or where it is not well formed; an escape between quotes
may also stand for no character. No step of the reader emits a token that tells of an error, so only
the last token does, and its error is the one that the last step ended with.
-/
namespace DreamJournal

/-! ## Results that can be errors -/

section FailsWith

variable {ε δ α β : Type} {p : ε → Prop} {q : δ → Prop}

/-- An error, if there is one, has a property. -/
def FailsWith (p : ε → Prop) (result : Except ε α) : Prop := ∀ e, result = .error e → p e

@[simp] theorem failsWith_ok (a : α) : FailsWith p (.ok a) := fun _ failed => by cases failed

@[simp] theorem failsWith_pure (a : α) : FailsWith p (pure a) := failsWith_ok a

@[simp] theorem failsWith_error {e : ε} : FailsWith p (.error e : Except ε α) ↔ p e := by
  simp [FailsWith]

@[simp] theorem failsWith_bind {first : Except ε α} {next : α → Except ε β} :
    FailsWith p (first >>= next) ↔
      FailsWith p first ∧ ∀ a, first = .ok a → FailsWith p (next a) := by
  cases first with
  | error e => simp [bind, Except.bind]
  | ok a => simp [bind, Except.bind]

@[simp] theorem failsWith_map {f : α → β} {result : Except ε α} :
    FailsWith p (f <$> result) ↔ FailsWith p result := by
  cases result <;> simp [Functor.map, Except.map]

@[simp] theorem failsWith_map' {f : α → β} {result : Except ε α} :
    FailsWith p (result.map f) ↔ FailsWith p result := by
  cases result <;> simp [Except.map]

@[simp] theorem Except.mapError_error {f : ε → δ} (e : ε) :
    (Except.error e : Except ε α).mapError f = .error (f e) := rfl

@[simp] theorem Except.mapError_ok {f : ε → δ} (a : α) :
    (Except.ok a : Except ε α).mapError f = .ok a := rfl

theorem failsWith_mapError {f : ε → δ} {result : Except ε α} :
    FailsWith q (result.mapError f) ↔ FailsWith (fun e => q (f e)) result := by
  cases result <;> simp

@[simp] theorem failsWith_ite {c : Prop} [Decidable c] {yes no : Except ε α} :
    FailsWith p (if c then yes else no) ↔
      (c → FailsWith p yes) ∧ (¬c → FailsWith p no) := by
  split <;> simp_all

theorem failsWith_mapM {read : α → Except ε β} {items : List α}
    (each : ∀ a, FailsWith p (read a)) : FailsWith p (items.mapM read) := by
  induction items with
  | nil => simp
  | cons a rest ih => simp [List.mapM_cons, each a, ih]

theorem failsWith_optionMapM {read : α → Except ε β} {given : Option α}
    (each : ∀ a, FailsWith p (read a)) : FailsWith p (given.mapM read) := by
  cases given with
  | none => simp
  | some a => simp [each a]

/-- What is returned, if something is, has a property. -/
def Returns (r : α → Prop) (result : Except ε α) : Prop := ∀ a, result = .ok a → r a

variable {r : α → Prop}

@[simp] theorem returns_ok {a : α} : Returns r (.ok a : Except ε α) ↔ r a := by simp [Returns]

@[simp] theorem returns_error (e : ε) : Returns r (.error e) := fun _ given => by cases given

@[simp] theorem returns_ite {c : Prop} [Decidable c] {yes no : Except ε α} :
    Returns r (if c then yes else no) ↔ (c → Returns r yes) ∧ (¬c → Returns r no) := by
  split <;> simp_all

theorem returns_bind_iff {s : β → Prop} {first : Except ε α} {next : α → Except ε β} :
    Returns s (first >>= next) ↔ ∀ a, first = .ok a → Returns s (next a) := by
  cases first with
  | error e => simp [bind, Except.bind]
  | ok a => simp [bind, Except.bind]

theorem Returns.bind {s : β → Prop} {first : Except ε α} {next : α → Except ε β}
    (returns : Returns r first) (later : ∀ a, r a → Returns s (next a)) :
    Returns s (first >>= next) :=
  returns_bind_iff.mpr fun a returned => later a (returns a returned)

/-- What is read first may be anything. -/
theorem Returns.after {s : β → Prop} {first : Except ε α} {next : α → Except ε β}
    (later : ∀ a, Returns s (next a)) : Returns s (first >>= next) :=
  returns_bind_iff.mpr fun a _ => later a

end FailsWith

namespace Yaml

/-- The kinds of the errors of scalars. -/
def faultKinds : List String :=
  ["ValueError", "IndexError", "KeyError", "AttributeError", "OverflowError", "TypeError",
    "RecursionError"]

/-- An error of reading: what is read is not well formed, or a scalar is of one of these kinds. -/
def ReadError.IsKnown (e : ReadError) : Prop :=
  ∀ raised, e = .fault raised → ∃ kind ∈ faultKinds, raised.kind = Text.of kind

@[simp] theorem isKnown_malformed : ReadError.malformed.IsKnown := fun _ given => by cases given

theorem isKnown_fault {kind : String} (listed : kind ∈ faultKinds) (message : Text) :
    ReadError.IsKnown (.fault ⟨Text.of kind, message⟩) := by
  rintro _ ⟨⟩
  exact ⟨kind, listed, rfl⟩

/-- Reading that ends with no other error. -/
abbrev IsSound {α : Type} (result : Except ReadError α) : Prop := FailsWith ReadError.IsKnown result

/-- Where tokens break off, they do so with a known error. -/
def AreKnown (tokens : List Token) : Prop := ∀ e, Token.broken e ∈ tokens → e.IsKnown

variable {tokens rest : List Token} {token : Token} {l : Lexer}

@[simp] theorem areKnown_nil : AreKnown [] := by simp [AreKnown]

@[simp] theorem areKnown_cons_iff :
    AreKnown (token :: rest) ↔ (∀ e, token = .broken e → e.IsKnown) ∧ AreKnown rest := by
  simp only [AreKnown, List.mem_cons, or_imp, forall_and, eq_comm]

@[simp] theorem areKnown_append_iff :
    AreKnown (tokens ++ rest) ↔ AreKnown tokens ∧ AreKnown rest := by
  simp only [AreKnown, List.mem_append, or_imp, forall_and]

@[simp] theorem areKnown_reverse_iff : AreKnown tokens.reverse ↔ AreKnown tokens := by
  simp [AreKnown]

theorem AreKnown.take (known : AreKnown tokens) (n : Nat) : AreKnown (tokens.take n) :=
  fun e member => known e (List.mem_of_mem_take member)

theorem AreKnown.drop (known : AreKnown tokens) (n : Nat) : AreKnown (tokens.drop n) :=
  fun e member => known e (List.mem_of_mem_drop member)

/-! ## Reading scalars between quotes -/

namespace Cursor

@[simp] theorem charOfCode_sound (n : Nat) : IsSound (charOfCode n) := by
  unfold charOfCode
  split
  next => exact failsWith_error.mpr (isKnown_fault (by decide) _)
  next =>
    split
    next => exact failsWith_error.mpr (isKnown_fault (by decide) _)
    next => simp

@[simp] theorem quotedBlank_sound (fuel : Nat) (c : Cursor) : IsSound (quotedBlank fuel c) := by
  induction fuel generalizing c with
  | zero => simp [quotedBlank]
  | succ fuel ih =>
    simp only [quotedBlank]
    split
    next => simp
    next => split <;> simp [ih]

@[simp] theorem escape_sound (c : Cursor) : IsSound (escape c) := by
  unfold escape
  split
  next => simp
  next => split <;> simp

@[simp] theorem quotedGap_sound (c : Cursor) : IsSound (quotedGap c) := by
  simp only [quotedGap]
  split <;> simp

@[simp] theorem quotedFrom_sound (mark : Char) (fuel : Nat) (c : Cursor) :
    IsSound (quotedFrom mark fuel c) := by
  induction fuel generalizing c with
  | zero => simp [quotedFrom]
  | succ fuel ih =>
    simp only [quotedFrom]
    split
    next => simp
    next => simp [ih]

@[simp] theorem quotedScalar_sound (mark : Char) (c : Cursor) : IsSound (quotedScalar mark c) :=
  quotedFrom_sound mark _ _

@[simp] theorem blockHeader_sound (c : Cursor) : IsSound (blockHeader c) := by
  simp [blockHeader]

@[simp] theorem blockScalar_sound (fold : Bool) (indent : Int) (c : Cursor) :
    IsSound (blockScalar fold indent c) := by
  simp [blockScalar]

end Cursor

/-! ## Reading tokens -/

namespace Lexer

@[simp] theorem dropStale_sound (l : Lexer) : IsSound l.dropStale := by simp [dropStale]

@[simp] theorem dropKey_sound (l : Lexer) : IsSound l.dropKey := by
  unfold dropKey
  split <;> simp

@[simp] theorem markKey_sound (l : Lexer) : IsSound l.markKey := by simp [markKey]

@[simp] theorem name_sound (c : Cursor) (ends : Cursor → Bool) : IsSound (name c ends) := by
  simp [name]

@[simp] theorem number_sound (c : Cursor) : IsSound (number c) := by simp [number]

@[simp] theorem tagHandle_sound (c : Cursor) : IsSound (tagHandle c) := by simp [tagHandle]

@[simp] theorem percentOctets_sound (fuel : Nat) (c : Cursor) : IsSound (percentOctets fuel c) := by
  induction fuel generalizing c with
  | zero => simp [percentOctets]
  | succ fuel ih =>
    simp only [percentOctets]
    split
    next => split <;> simp [ih]
    next => simp
    next => simp

@[simp] theorem tagSuffix_sound (fuel : Nat) (c : Cursor) : IsSound (tagSuffix fuel c) := by
  induction fuel generalizing c with
  | zero => simp [tagSuffix]
  | succ fuel ih =>
    simp only [tagSuffix]
    split
    next =>
      refine failsWith_bind.mpr ⟨percentOctets_sound _ _, fun octets _ => ?_⟩
      split <;> simp [ih]
    next => simp [ih]

@[simp] theorem someSuffix_sound (c : Cursor) : IsSound (someSuffix c) := by simp [someSuffix]

@[simp] theorem tag_sound (c : Cursor) : IsSound (tag c) := by simp [tag]

@[simp] theorem directiveBody_sound (name : Text) (c : Cursor) :
    IsSound (directiveBody name c) := by
  simp [directiveBody]

@[simp] theorem directive_sound (c : Cursor) : IsSound (directive c) := by simp [directive]

@[simp] theorem betweenDocuments_sound (l : Lexer) : IsSound l.betweenDocuments := by
  simp [betweenDocuments]

@[simp] theorem readNamed_sound (l : Lexer) {token : Cursor → Except ReadError (Token × Cursor)}
    (sound : ∀ c, IsSound (token c)) : IsSound (l.readNamed token) := by
  simp [readNamed, sound]

@[simp] theorem readValue_sound (l : Lexer) : IsSound l.readValue := by
  unfold readValue
  split <;> simp

@[simp] theorem readToken_sound (l : Lexer) : IsSound l.readToken := by
  simp only [readToken]
  split
  next => simp [readEnd]
  -- one case for each character that can begin a token
  next =>
    simp [readDirective, readDocumentMark, openBracket, closeBracket, readComma, readEntry, readKey,
      readBlock, readPlain]

@[simp] theorem next_sound (l : Lexer) : IsSound l.next := by simp [next]

/-- A reader whose tokens are known. Every step keeps this, as what it emits breaks off nowhere. -/
def IsKnown (l : Lexer) : Prop := AreKnown l.tokens

theorem IsKnown.emit (known : l.IsKnown) (whole : ∀ e, token ≠ .broken e) :
    (l.emit token).IsKnown :=
  areKnown_cons_iff.mpr ⟨fun e broken => absurd broken (whole e), known⟩

theorem IsKnown.insert (known : l.IsKnown) (whole : ∀ e, token ≠ .broken e) (n : Nat) :
    (l.insert n token).IsKnown :=
  areKnown_append_iff.mpr ⟨known.take _, areKnown_cons_iff.mpr
    ⟨fun e broken => absurd broken (whole e), known.drop _⟩⟩

theorem IsKnown.indentTo (known : l.IsKnown) (whole : ∀ e, token ≠ .broken e)
    (column position : Nat) : (l.indentTo column position token).IsKnown := by
  unfold Lexer.indentTo
  split
  next => exact known.insert whole position
  next => exact known

theorem IsKnown.unwindThrough (known : l.IsKnown) (column : Int) (outer : List Int) :
    (unwindThrough column outer l).IsKnown := by
  induction outer generalizing l with
  | nil => exact known
  | cons further outer ih =>
    unfold Lexer.unwindThrough
    split
    next => exact ih (known.emit (by simp))
    next => exact known

theorem IsKnown.unwind (known : l.IsKnown) (column : Int) : (l.unwind column).IsKnown := by
  unfold Lexer.unwind
  split
  next => exact known.unwindThrough column _
  next => exact known

theorem IsKnown.skipBlank (known : l.IsKnown) (fuel : Nat) : (skipBlank fuel l).IsKnown := by
  induction fuel generalizing l with
  | zero => exact known
  | succ fuel ih =>
    simp only [Lexer.skipBlank]
    split
    next => exact ih known
    next => exact known

theorem IsKnown.dropStale (known : l.IsKnown) : Returns IsKnown l.dropStale := by
  simp only [Lexer.dropStale, returns_ite, returns_error, returns_ok]
  exact ⟨fun _ => trivial, fun _ => known⟩

theorem IsKnown.dropKey (known : l.IsKnown) : Returns IsKnown l.dropKey := by
  unfold Lexer.dropKey
  split
  next =>
    simp only [returns_ite, returns_error, returns_ok]
    exact ⟨fun _ => trivial, fun _ => known⟩
  next => exact returns_ok.mpr known

theorem IsKnown.markKey (known : l.IsKnown) : Returns IsKnown l.markKey := by
  unfold Lexer.markKey
  split
  next => exact known.dropKey.bind fun _ known => returns_ok.mpr known
  next => exact returns_ok.mpr known

theorem IsKnown.betweenDocuments (known : l.IsKnown) : Returns IsKnown l.betweenDocuments :=
  (known.unwind (-1)).dropKey.bind fun _ known => returns_ok.mpr known

theorem IsKnown.readDirective (known : l.IsKnown) : Returns IsKnown l.readDirective :=
  known.betweenDocuments.bind fun _ known =>
    .after fun _ => returns_ok.mpr (known.emit (by simp))

theorem IsKnown.readDocumentMark (known : l.IsKnown) (whole : ∀ e, token ≠ .broken e) :
    Returns IsKnown (l.readDocumentMark token) :=
  known.betweenDocuments.bind fun _ known => returns_ok.mpr (known.emit whole)

theorem IsKnown.readEnd (known : l.IsKnown) : Returns IsKnown l.readEnd :=
  known.betweenDocuments.bind fun _ known => returns_ok.mpr (known.emit (by simp))

theorem IsKnown.openBracket (known : l.IsKnown) (whole : ∀ e, token ≠ .broken e) :
    Returns IsKnown (l.openBracket token) :=
  known.markKey.bind fun _ known => returns_ok.mpr (IsKnown.emit known whole)

theorem IsKnown.closeBracket (known : l.IsKnown) (whole : ∀ e, token ≠ .broken e) :
    Returns IsKnown (l.closeBracket token) :=
  known.dropKey.bind fun _ known => returns_ok.mpr (IsKnown.emit known whole)

theorem IsKnown.readComma (known : l.IsKnown) : Returns IsKnown l.readComma :=
  known.dropKey.bind fun _ known => returns_ok.mpr (IsKnown.emit known (by simp))

/-- Outside of brackets a block may begin. -/
theorem IsKnown.indented (known : l.IsKnown) (whole : ∀ e, token ≠ .broken e) :
    (if l.flow = 0 then l.indentHere token else l).IsKnown := by
  split
  next => exact known.indentTo whole _ _
  next => exact known

theorem IsKnown.readEntry (known : l.IsKnown) : Returns IsKnown l.readEntry := by
  unfold Lexer.readEntry
  split
  next => simp
  next =>
    exact (known.indented (by simp)).dropKey.bind fun _ known =>
      returns_ok.mpr (IsKnown.emit known (by simp))

theorem IsKnown.readKey (known : l.IsKnown) : Returns IsKnown l.readKey := by
  unfold Lexer.readKey
  split
  next => simp
  next =>
    exact (known.indented (by simp)).dropKey.bind fun _ known =>
      returns_ok.mpr (IsKnown.emit known (by simp))

theorem IsKnown.readValue (known : l.IsKnown) : Returns IsKnown l.readValue := by
  simp only [Lexer.readValue]
  split
  next key _ =>
    have marked : (l.withoutKey.insert key.token .key).IsKnown :=
      IsKnown.insert known (by simp) _
    refine returns_ok.mpr (IsKnown.emit ?_ (by simp))
    split
    next => exact marked.indentTo (by simp) _ _
    next => exact marked
  next =>
    split
    next => simp
    next => exact returns_ok.mpr (IsKnown.emit (known.indented (by simp)) (by simp))

theorem IsKnown.readBlock (known : l.IsKnown) (fold : Bool) : Returns IsKnown (l.readBlock fold) :=
  known.dropKey.bind fun _ known => .after fun _ => returns_ok.mpr (IsKnown.emit known (by simp))

theorem IsKnown.readPlain (known : l.IsKnown) : Returns IsKnown l.readPlain :=
  known.markKey.bind fun _ known => returns_ok.mpr (IsKnown.emit known (by simp))

/-- A tag is no place where a text breaks off. -/
theorem tag_whole (c : Cursor) : Returns (fun found => ∀ e, found.1 ≠ .broken e) (tag c) := by
  simp [tag, returns_bind_iff]

theorem IsKnown.readNamed (known : l.IsKnown) {read : Cursor → Except ReadError (Token × Cursor)}
    (whole : ∀ c, Returns (fun found => ∀ e, found.1 ≠ .broken e) (read c)) :
    Returns IsKnown (l.readNamed read) :=
  known.markKey.bind fun _ known => (whole _).bind fun _ whole => returns_ok.mpr (known.emit whole)

theorem IsKnown.readToken (known : l.IsKnown) : Returns IsKnown l.readToken := by
  have named (read : Cursor → Except ReadError (Text × Cursor)) (token : Text → Token)
      (whole : ∀ name e, token name ≠ .broken e) :
      Returns IsKnown (l.readNamed fun c => do
        let found ← read c
        .ok (token found.1, found.2)) :=
    known.readNamed fun c => .after fun _ => returns_ok.mpr (whole _)
  -- simp does not find the tokens of quoted scalars by itself
  have quoted (mark : Char) := named (Cursor.quotedScalar mark) (.scalar · false) (by simp)
  simp only [Lexer.readToken]
  split
  next => exact known.readEnd
  next =>
    simp [known.readDirective, known.readDocumentMark, known.openBracket, known.closeBracket,
      known.readComma, known.readEntry, known.readKey, known.readValue, known.readBlock,
      known.readPlain, known.readNamed tag_whole, named, quoted]

theorem IsKnown.next (known : l.IsKnown) : Returns IsKnown l.next :=
  (known.skipBlank _).dropStale.bind fun _ known => (known.unwind _).readToken

theorem areKnown_run (known : l.IsKnown) (fuel : Nat) : AreKnown (run fuel l) := by
  induction fuel generalizing l with
  | zero => exact (areKnown_reverse_iff.mpr known).take _
  | succ fuel ih =>
    -- the step fails, ends the text or is followed by others
    rw [run]
    have returned := known.next
    have sound := next_sound l
    split
    next e failed =>
      have isKnown : e.IsKnown := sound e failed
      refine areKnown_append_iff.mpr ⟨(areKnown_reverse_iff.mpr known).take _, ?_⟩
      simpa using isKnown
    next l' read =>
      rw [read, returns_ok] at returned
      split
      next => exact areKnown_reverse_iff.mpr returned
      next => exact ih returned

end Lexer

theorem areKnown_ofText (t : Text) : AreKnown (Token.ofText t) := by
  unfold Token.ofText
  split
  next =>
    refine Lexer.areKnown_run ?_ _
    split <;> exact areKnown_nil
  next => simp

end Yaml
end DreamJournal
