import DreamJournal.Proofs.Datum.Opened
import DreamJournal.Proofs.Note.Reports

/-!
# What the front matter can cost a note

Front matter that is not well formed, or that is no map, costs itself alone: the note is read as if
it had none, and one diagnostic says so. But a scalar that has the form of a day or number and is
none, a whole number that is too long to be written, and a list that holds itself cost the whole
note, dreams and all.
`extract_returns_iff` draws the line between the two, and says that on the near side of it the
front matter touches nothing of an entry but its date.
-/
namespace DreamJournal

open Diagnostic

namespace FrontMatter

/-- The front matter of a note holds a value that costs the note: a scalar that is not what it has
the form of, a whole number with too many digits, or a list that holds itself. -/
def HasBadValue (note : Text) : Prop :=
  Text.isAllBlank (split note).1 = false ∧
    ((∃ fault, Yaml.read (split note).1 = .error (.fault fault)) ∨
      ∃ d entries, Yaml.read (split note).1 = .ok d ∧ d.opened = .map entries ∧
        ((Datum.map entries).isTooLong = true ∨ ∃ entry ∈ entries, entry.2.IsEndless))

/-! ## Writing data as texts -/

/-- A datum that has no text. -/
def HasNoText (d : Datum) : Prop := d.isTooLong = true ∨ d.IsEndless

/-- What is asked for is refused for a bad value, or given where there is none. -/
inductive Answers {α : Type} (bad : Prop) : Except FrontMatterFault α → Prop where
  | refused (fault : Fault) (isBad : bad) : Answers bad (.error (.badValue fault))
  | given (a : α) (isGood : ¬bad) : Answers bad (.ok a)

section Answers

variable {α β : Type} {p q : Prop}

theorem Answers.congr {result : Except FrontMatterFault α} (answers : Answers p result)
    (same : p ↔ q) : Answers q result := propext same ▸ answers

theorem Answers.bind {first : Except FrontMatterFault α} {next : α → Except FrontMatterFault β}
    (answers : Answers p first) (later : ∀ a, Answers q (next a)) :
    Answers (p ∨ q) (first >>= next) := by
  cases answers with
  | refused fault isBad => exact .refused fault (.inl isBad)
  | given a isGood => exact (later a).congr (or_iff_right isGood).symm

theorem Answers.map {first : Except FrontMatterFault α} (answers : Answers p first) (f : α → β) :
    Answers p (first >>= fun a => .ok (f a)) :=
  (answers.bind fun a => .given (f a) not_false).congr (iff_of_eq (or_false p))

theorem Answers.mapM {bad : α → Prop} {read : α → Except FrontMatterFault β}
    (each : ∀ a, Answers (bad a) (read a)) (items : List α) :
    Answers (∃ a ∈ items, bad a) (items.mapM read) := by
  induction items with
  | nil => exact .given [] (by simp)
  | cons a rest ih =>
    rw [List.mapM_cons]
    refine ((each a).bind fun b => ih.map (b :: ·)).congr ?_
    simp

theorem Answers.refused_iff {result : Except FrontMatterFault α} (answers : Answers p result) :
    (∃ fault, result = .error (.badValue fault)) ↔ p := by
  cases answers with
  | refused fault isBad => simp [isBad]
  | given a isGood => simp [isGood]

end Answers

theorem written_answers (d : Datum) (t : Text) :
    Answers (d.isTooLong = true) (FrontMatter.written d t) := by
  unfold FrontMatter.written
  split
  next long => exact .refused _ long
  next short => exact .given t short

theorem hasNoText_iff {d : Datum} {items : List Datum}
    (opens : d.opened = .list items ∨ d.opened = .tuple items) :
    HasNoText d ↔ ∃ item ∈ items, HasNoText item := by
  have long : d.isTooLong = items.any Datum.isTooLong := by
    rw [← Datum.isTooLong_opened, ← Datum.anyTooLong_eq_any]
    rcases opens with opens | opens <;> rw [opens, Datum.isTooLong]
  have listed : d.items = items := by
    rcases opens with opens | opens <;> rw [Datum.items, opens]
  rw [HasNoText, long, List.any_eq_true, Datum.isEndless_iff, listed]
  simp only [HasNoText, and_or_left, exists_or]

/-- Of what is no list only numbers can be too long to be written. -/
theorem hasNoText_iff_isTooLong {d : Datum} (single : d.items = []) :
    HasNoText d ↔ d.isTooLong = true := by
  rw [HasNoText, Datum.isEndless_iff, single]
  simp

section Parts

variable {cells : Web} {leaves : List Datum} {parts : List Web.Part}

theorem hasNoText_or_goesOn_iff {n : Nat} (depth : Nat)
    (kind : cells.cell n = .list parts ∨ cells.cell n = .tuple parts) :
    HasNoText (.web cells leaves n) ∨ cells.GoesOn (depth + 1) (.cell n) ↔
      ∃ part ∈ parts, HasNoText (.part cells leaves part) ∨ cells.GoesOn depth part := by
  have opens : (Datum.web cells leaves n).opened = .list (parts.map (.part cells leaves)) ∨
      (Datum.web cells leaves n).opened = .tuple (parts.map (.part cells leaves)) := by
    apply kind.imp <;> intro kind <;> rw [Datum.opened, kind]
  have items : (cells.cell n).items = parts := by
    rcases kind with kind | kind <;> rw [kind, Web.Cell.items]
  rw [hasNoText_iff opens, Web.GoesOn, items]
  simp only [List.mem_map, exists_exists_and_eq_and, and_or_left, exists_or]

theorem hasNoText_or_goesOn_iff_isTooLong {n : Nat} (depth : Nat)
    (single : (cells.cell n).items = []) :
    HasNoText (.web cells leaves n) ∨ cells.GoesOn (depth + 1) (.cell n) ↔
      (Datum.web cells leaves n).isTooLong = true := by
  rw [hasNoText_iff_isTooLong (by rw [Datum.items_web, single, List.map_nil]), Web.GoesOn, single]
  simp

/-- In a web, a list has no text either if one can go on from it for too long. -/
theorem flattenPart_answers {leaf whole : Nat → Except FrontMatterFault Text}
    (leafAnswers : ∀ n, Answers (HasNoText (leaves.getD n .null)) (leaf n))
    (wholeAnswers : ∀ n, Answers ((Datum.web cells leaves n).isTooLong = true) (whole n))
    (depth : Nat) (part : Web.Part) :
    Answers (HasNoText (.part cells leaves part) ∨ cells.GoesOn depth part)
      (flattenPart cells leaf whole depth part) := by
  induction depth generalizing part with
  | zero =>
    cases part with
    | leaf n => exact (leafAnswers n).congr (or_iff_left id).symm
    | cell n => exact .refused _ (.inr trivial)
  | succ depth ih =>
    cases part with
    | leaf n => exact (leafAnswers n).congr (or_iff_left id).symm
    | cell n =>
      have inTurn (parts : List Web.Part) := (Answers.mapM ih parts).map Datum.commaJoin
      rw [flattenPart]
      -- the items of a list are written in turn, and other collections as a whole
      cases kind : cells.cell n with
      | list parts => exact (inTurn parts).congr (hasNoText_or_goesOn_iff depth (.inl kind)).symm
      | tuple parts => exact (inTurn parts).congr (hasNoText_or_goesOn_iff depth (.inr kind)).symm
      | set items =>
        apply (wholeAnswers n).congr
        exact (hasNoText_or_goesOn_iff_isTooLong depth (by rw [kind, Web.Cell.items])).symm
      | map entries =>
        apply (wholeAnswers n).congr
        exact (hasNoText_or_goesOn_iff_isTooLong depth (by rw [kind, Web.Cell.items])).symm

end Parts

mutual

theorem flatten_answers : (d : Datum) → Answers (HasNoText d) (flatten d)
  | .null | .date _ | .moment _ | .bool _ | .text _ | .bytes _ =>
    .given _ fun bad => by cases (hasNoText_iff_isTooLong rfl).mp bad
  | .number n => (written_answers (.number n) n.toText).congr (hasNoText_iff_isTooLong rfl).symm
  | .set items => (written_answers (.set items) _).congr (hasNoText_iff_isTooLong rfl).symm
  | .map entries => (written_answers (.map entries) _).congr (hasNoText_iff_isTooLong rfl).symm
  | .list items =>
    ((flattenAll_answers items).map Datum.commaJoin).congr (hasNoText_iff (.inl rfl)).symm
  | .tuple items =>
    ((flattenAll_answers items).map Datum.commaJoin).congr (hasNoText_iff (.inr rfl)).symm
  | .web cells leaves start => by
    rw [flatten]
    refine (flattenPart_answers (flattenEach_answers leaves) (fun n => written_answers _ _) _
      (.cell start)).congr (or_iff_left_of_imp fun goesOn => ?_)
    exact .inr (Datum.isEndless_web (Web.isEndless_of_goesOn goesOn))

theorem flattenAll_answers : (items : List Datum) →
    Answers (∃ item ∈ items, HasNoText item) (flattenAll items)
  | [] => .given [] (by simp)
  | item :: rest => by
    have answers := (flatten_answers item).bind fun text =>
      (flattenAll_answers rest).map (text :: ·)
    exact answers.congr (by simp)

theorem flattenEach_answers : (leaves : List Datum) → ∀ n,
    Answers (HasNoText (leaves.getD n .null)) ((flattenEach leaves).getD n (.ok []))
  | [], _ => flatten_answers .null
  | leaf :: _, 0 => flatten_answers leaf
  | _ :: rest, n + 1 => flattenEach_answers rest n

end

theorem fieldsOf_answers (entries : List (Datum × Datum)) (known : OrderedMap Text Text) :
    Answers ((Datum.map entries).isTooLong = true ∨ ∃ entry ∈ entries, entry.2.IsEndless)
      (fieldsOf entries known) := by
  induction entries generalizing known with
  | nil => exact .given known (by simp [Datum.isTooLong, Datum.anyEntryTooLong])
  | cons entry rest ih =>
    obtain ⟨key, value⟩ := entry
    -- key, value and the other fields are written in turn; the first refusal ends it
    refine ((written_answers key _).bind fun name =>
      (flatten_answers value).bind fun text => ih _).congr ?_
    simp only [HasNoText, Datum.isTooLong, Datum.anyEntryTooLong, Bool.or_eq_true,
      List.exists_mem_cons_iff]
    tauto

/-! ## Which front matter is refused for a value -/

theorem ofNote_badValue_iff (note : Text) :
    (∃ fault, ofNote note = .error (.badValue fault)) ↔ HasBadValue note := by
  unfold ofNote ofBlock HasBadValue
  cases blank : Text.isAllBlank (split note).1 with
  | true => simp
  | false =>
    cases read : Yaml.read (split note).1 with
    | error e => cases e <;> simp
    | ok d =>
      cases shown : d.opened with
      | map entries =>
        simpa [shown] using (fieldsOf_answers entries []).refused_iff
      | _ => simp [shown]

/-- A list that holds itself has no text. -/
example : ofBlock (Text.of "a: &x [*x]") = .error (.badValue .endless) := by decide +kernel

/-- A map that holds itself is cut off where it comes again. -/
example : ofBlock (Text.of "a: &x \x7bsea: *x\x7d") =
    .ok [(Text.of "a", Text.of "\x7b'sea': \x7b...\x7d\x7d")] := by decide +kernel

end FrontMatter

/-! ## The note around it -/

/-- An entry moved to another date. -/
def Entry.redate (date : ResolvedDate) (e : Entry) : Entry := { e with date }

/-- What is in a note whose front matter is left aside. -/
def Note.extractBody (settings : Settings) (today : Date) (source note : Text) : NoteExtraction :=
  Note.Context.extract ⟨settings, today, source, Text.lines note, []⟩ (Scan.ofText note).roots
    ((Scan.ofText note).diagnostics source)

/-- The date is all that an entry has from elsewhere than its dream. -/
theorem Dream.entry_redate (d : Dream) (settings : Settings) (source : Text)
    (first second date : ResolvedDate) :
    (d.entry settings source first).toOption.map (Entry.redate date) =
      (d.entry settings source second).toOption.map (Entry.redate date) := by
  unfold Dream.entry
  cases (d.metricsRead settings).ended with
  | some fault => rfl
  | none => by_cases void : d.isVoid settings <;> simp [void, Except.toOption, Entry.redate]

namespace Note

/-- Two notes that differ in their front matter alone hold the same dreams on other dates. -/
theorem Context.entries_redate (context : Context) (fields : OrderedMap Text Text)
    (roots : List Callout) (earlier before : List Diagnostic) (date : ResolvedDate) :
    (context.extract roots earlier).entries.map (Entry.redate date) =
      (Context.extract { context with frontMatter := fields } roots before).entries.map
        (Entry.redate date) := by
  simp only [Context.extract, List.map_filterMap]
  refine List.filterMap_congr fun d _ => ?_
  exact d.entry_redate context.settings context.source _ _ date

/-- The front matter of a note costs no entry, and is reported if it is not used. -/
structure Unharmed (settings : Settings) (today : Date) (source note : Text)
    (x : NoteExtraction) : Prop where
  journals : x.journals = (extractBody settings today source note).journals
  diaries : x.diaries = (extractBody settings today source note).diaries
  metricsCallouts : x.metricsCallouts = (extractBody settings today source note).metricsCallouts
  entries : ∀ date, x.entries.map (Entry.redate date) =
    (extractBody settings today source note).entries.map (Entry.redate date)
  refused : ∀ fault, FrontMatter.ofNote note = .error fault →
    x = { extractBody settings today source note with
      diagnostics := ⟨source, .frontMatterInvalid, fault.toFault.message, some 1⟩ ::
        (extractBody settings today source note).diagnostics }
  accepted : ∀ fields, FrontMatter.ofNote note = .ok fields →
    count .frontMatterInvalid x.diagnostics = 0

theorem Context.extract_invalid (context : Context) (roots : List Callout) (scan : Scan) :
    count .frontMatterInvalid
      (context.extract roots (scan.diagnostics context.source)).diagnostics = 0 := by
  rw [Context.extract, count_append, count_append,
    (context.report_among [] _).count_eq_zero (by decide),
    (Scan.diagnostics_among scan _).count_eq_zero (by decide),
    (strayMetrics_among context _).count_eq_zero (by decide)]

section Outcomes

variable (settings : Settings) (today : Date) (source : Text) {note : Text}

/-- Front matter that is used moves the dreams to its dates and is not reported. -/
theorem extract_of_accepted {fields : OrderedMap Text Text}
    (front : FrontMatter.ofNote note = .ok fields) :
    ∃ x, extract settings today source note = .ok x ∧ Unharmed settings today source note x := by
  have kept : frontMatterOf source note = .ok (fields, []) := by rw [frontMatterOf, front]
  refine ⟨_, extract_eq_of_frontMatter kept, rfl, rfl, rfl,
    fun date => Context.entries_redate _ _ _ _ _ date, ?_, ?_⟩
  · intro fault refused
    rw [front] at refused
    cases refused
  · intro _ _
    exact Context.extract_invalid _ _ (Scan.ofText note)

/-- Front matter that is refused is reported, and the note is read as if it had none. -/
theorem extract_of_contained {fault : FrontMatterFault}
    (front : FrontMatter.ofNote note = .error fault) (contained : fault.isContained = true) :
    ∃ x, extract settings today source note = .ok x ∧ Unharmed settings today source note x := by
  have kept : frontMatterOf source note =
      .ok ([], [⟨source, .frontMatterInvalid, fault.toFault.message, some 1⟩]) := by
    rw [frontMatterOf, front]
    exact if_pos contained
  refine ⟨_, extract_eq_of_frontMatter kept, rfl, rfl, rfl,
    fun date => Context.entries_redate _ _ _ _ _ date, ?_, ?_⟩
  · intro other refused
    rw [front] at refused
    cases refused
    rfl
  · intro fields accepted
    rw [front] at accepted
    cases accepted

/-- A bad value is no fault of the front matter, but one of the note. -/
theorem extract_of_badValue {bad : Fault}
    (front : FrontMatter.ofNote note = .error (.badValue bad)) :
    extract settings today source note = .error bad := by
  simp [extract, frontMatterOf, front, FrontMatterFault.isContained, FrontMatterFault.toFault, bind,
    Except.bind]

end Outcomes

/-- A note is given up exactly when its front matter holds a bad value. Whatever else is wrong with
the front matter costs the front matter alone, and no front matter costs an entry. -/
theorem extract_returns_iff (settings : Settings) (today : Date) (source note : Text) :
    ((∃ x, extract settings today source note = .ok x) ↔ ¬FrontMatter.HasBadValue note) ∧
      ∀ x, extract settings today source note = .ok x →
        Unharmed settings today source note x := by
  rw [← FrontMatter.ofNote_badValue_iff]
  cases front : FrontMatter.ofNote note with
  | ok fields =>
    obtain ⟨x, returned, unharmed⟩ := extract_of_accepted settings today source front
    simp [returned, unharmed]
  | error fault =>
    -- of the faults, a bad value alone is not contained
    cases fault with
    | badValue bad => simp [extract_of_badValue settings today source front]
    | malformed =>
      obtain ⟨x, returned, unharmed⟩ := extract_of_contained settings today source front rfl
      simp [returned, unharmed]
    | notAMapping kind =>
      obtain ⟨x, returned, unharmed⟩ := extract_of_contained settings today source front rfl
      simp [returned, unharmed]

/-- A dream behind front matter whose one field is given. -/
def frontedNote (field : String) : Text := Text.joinLines <|
  ["---", field, "---", "> [!journal-entry] ^20250615", ">> [!dream-diary] Sea", ">> waves"].map
    Text.of

/-- Whether the front matter of a note is a list. -/
def readsList (note : Text) : Bool :=
  match Yaml.read (FrontMatter.split note).1 with
  | .ok (.list _) => true
  | _ => false

/-- Front matter that is a list costs itself: the dream behind it is still extracted. -/
theorem extract_returns_list :
    ¬FrontMatter.HasBadValue (frontedNote "- sea") ∧
      ∃ x, extract Settings.standard ⟨2030, 1, 1, by decide⟩ (Text.of "a.md")
          (frontedNote "- sea") = .ok x ∧
        Unharmed Settings.standard ⟨2030, 1, 1, by decide⟩ (Text.of "a.md") (frontedNote "- sea")
          x := by
  have kind : readsList (frontedNote "- sea") = true := by decide +kernel
  have fine : ¬FrontMatter.HasBadValue (frontedNote "- sea") := by
    rintro ⟨_, ⟨fault, read⟩ | ⟨d, entries, read, shown, _⟩⟩
    · simp [readsList, read] at kind
    · cases d <;> simp_all [readsList, Datum.opened]
  have answer := extract_returns_iff Settings.standard ⟨2030, 1, 1, by decide⟩ (Text.of "a.md")
    (frontedNote "- sea")
  obtain ⟨x, returned⟩ := answer.1.mpr fine
  exact ⟨fine, x, returned, answer.2 x returned⟩

/-- A day that does not exist costs the note with its dream. -/
theorem extract_impossible_day :
    (∀ x, extract Settings.standard ⟨2030, 1, 1, by decide⟩ (Text.of "a.md")
        (frontedNote "created: 2025-02-30") ≠ .ok x) ∧
      (extractBody Settings.standard ⟨2030, 1, 1, by decide⟩ (Text.of "a.md")
        (frontedNote "created: 2025-02-30")).entries.length = 1 := by
  have read : (match Yaml.read (FrontMatter.split (frontedNote "created: 2025-02-30")).1 with
      | .error (.fault fault) => some fault
      | _ => none) =
      some (.badValue (Text.of "day is out of range for month")) := by decide +kernel
  have bad : FrontMatter.HasBadValue (frontedNote "created: 2025-02-30") := by
    refine ⟨by decide +kernel, .inl ?_⟩
    split at read
    next fault found => exact ⟨fault, found⟩
    next => cases read
  refine ⟨fun x returned => ?_, by decide +kernel⟩
  exact (extract_returns_iff Settings.standard ⟨2030, 1, 1, by decide⟩ (Text.of "a.md")
    (frontedNote "created: 2025-02-30")).1.mp ⟨x, returned⟩ bad

end Note
end DreamJournal
