import DreamJournal.FrontMatter
import DreamJournal.Proofs.Text.Splitting

/-!
# Where front matter ends

Of the lines of a note with front matter, the two fences and the blank lines behind the second one
are dropped, the lines between the fences are the block, and all others are the body. No line is
read twice and none is lost. The block ends at the first fence that can end it, so in whatever way
lines fall into these parts, the parts are what is read; and a note in which they do not is all
body.
-/
namespace DreamJournal.FrontMatter

variable {line : Text} {lines inside behind body : List Text}

/-- There is no first line, the first line is no fence, or no line behind it is one. -/
def IsAbsent (lines : List Text) : Prop :=
  lines = [] ∨ ∃ first rest, lines = first :: rest ∧
    (Text.trim first ≠ ['-', '-', '-'] ∨ ∀ line ∈ rest, Text.trim line ≠ ['-', '-', '-'])

/-- Lines are a fence, a block, the first fence behind it, blank lines and a body that does not
begin with one. -/
structure IsParted (lines inside body : List Text) : Prop where
  whole : ∃ first closer gap, lines = [first] ++ inside ++ [closer] ++ gap ++ body ∧
    Text.trim first = ['-', '-', '-'] ∧ Text.trim closer = ['-', '-', '-'] ∧
    ∀ line ∈ gap, Text.trim line = []
  unfenced : ∀ line ∈ inside, Text.trim line ≠ ['-', '-', '-']
  begins : ∀ line ∈ body.head?, Text.trim line ≠ []

/-! ## Lines -/

theorem isFence_iff : isFence line = true ↔ Text.trim line = ['-', '-', '-'] := decide_eq_true_iff

theorem isFence_eq_false_iff : isFence line = false ↔ Text.trim line ≠ ['-', '-', '-'] :=
  decide_eq_false_iff_not

/-! ## The block -/

theorem block?_eq_none_iff : block? lines = none ↔ ∀ line ∈ lines, isFence line = false := by
  induction lines with
  | nil => simp [block?]
  | cons line rest ih =>
    rw [block?, List.forall_mem_cons, ← ih]
    cases fence : isFence line <;> simp

/-- A block ends in front of the first fence. -/
theorem block?_eq_some_iff : block? lines = some (inside, behind) ↔
    (∀ line ∈ inside, isFence line = false) ∧
      ∃ closer, isFence closer = true ∧ lines = inside ++ closer :: behind := by
  induction lines generalizing inside with
  | nil => simp [block?]
  | cons line rest ih =>
    rw [block?]
    split
    next closing =>
      constructor
      · intro found
        obtain ⟨rfl, rfl⟩ := Prod.mk.inj (Option.some.inj found)
        exact ⟨by simp, line, closing, rfl⟩
      · rintro ⟨unfenced, closer, closes, parts⟩
        -- were there a line in the block, the first would be this fence
        cases inside with
        | nil =>
          obtain ⟨rfl, rfl⟩ := List.cons.inj parts
          rfl
        | cons first more =>
          obtain ⟨rfl, -⟩ := List.cons.inj parts
          have other := unfenced line List.mem_cons_self
          rw [closing] at other
          cases other
    next notClosing =>
      constructor
      · intro found
        obtain ⟨⟨more, after⟩, later, same⟩ := Option.map_eq_some_iff.mp found
        obtain ⟨rfl, rfl⟩ := Prod.mk.inj same
        obtain ⟨unfenced, closer, closes, rfl⟩ := ih.mp later
        refine ⟨List.forall_mem_cons.mpr ⟨?_, unfenced⟩, closer, closes, rfl⟩
        exact Bool.eq_false_iff.mpr notClosing
      · rintro ⟨unfenced, closer, closes, parts⟩
        cases inside with
        | nil =>
          obtain ⟨rfl, -⟩ := List.cons.inj parts
          exact absurd closes notClosing
        | cons first more =>
          obtain ⟨rfl, below⟩ := List.cons.inj parts
          have others : ∀ line ∈ more, isFence line = false :=
            fun other member => unfenced other (List.mem_cons_of_mem _ member)
          have later : block? rest = some (more, behind) :=
            ih.mpr ⟨others, closer, closes, below⟩
          rw [later]
          rfl

/-! ## All lines -/

theorem isAbsent_cons_iff {first : Text} {rest : List Text} : IsAbsent (first :: rest) ↔
    isFence first = false ∨ block? rest = none := by
  simp [IsAbsent, isFence_eq_false_iff, block?_eq_none_iff]

theorem splitLines_of_isAbsent (absent : IsAbsent lines) : splitLines lines = ([], lines) := by
  cases lines with
  | nil => rfl
  | cons first rest =>
    have none : (if isFence first then block? rest else none) = none := by
      rcases isAbsent_cons_iff.mp absent with unfenced | unclosed
      · simp [unfenced]
      · simp [unclosed]
    rw [splitLines, none]

theorem exists_isParted (present : ¬IsAbsent lines) : ∃ inside body, IsParted lines inside body := by
  cases lines with
  | nil => exact absurd (.inl rfl) present
  | cons first rest =>
    rw [isAbsent_cons_iff, not_or, Bool.not_eq_false] at present
    obtain ⟨opens, closed⟩ := present
    obtain ⟨⟨inside, behind⟩, found⟩ := Option.ne_none_iff_exists'.mp closed
    obtain ⟨unfenced, closer, closes, rfl⟩ := block?_eq_some_iff.mp found
    refine ⟨inside, behind.dropWhile Text.isAllBlank, ⟨first, closer,
      behind.takeWhile Text.isAllBlank, ?_, isFence_iff.mp opens, isFence_iff.mp closes, ?_⟩, ?_, ?_⟩
    · simp [List.takeWhile_append_dropWhile]
    · exact fun line member => Text.isAllBlank_iff.mp (List.mem_takeWhile_imp member)
    · exact fun line member => isFence_eq_false_iff.mp (unfenced line member)
    · intro line isFirst blank
      have stopped := List.head?_dropWhile_not Text.isAllBlank behind
      rw [Option.mem_def.mp isFirst] at stopped
      simp [Text.isAllBlank_iff.mpr blank] at stopped

/-- What is read of lines that fall into parts are two of these parts. -/
theorem IsParted.splitLines_eq (parted : IsParted lines inside body) :
    splitLines lines = (Text.joinLines inside, body) := by
  obtain ⟨⟨first, closer, gap, rfl, opens, closes, blank⟩, unfenced, begins⟩ := parted
  have found : block? (inside ++ closer :: (gap ++ body)) = some (inside, gap ++ body) :=
    block?_eq_some_iff.mpr ⟨fun line member => isFence_eq_false_iff.mpr (unfenced line member),
      closer, isFence_iff.mpr closes, rfl⟩
  have dropped : (gap ++ body).dropWhile Text.isAllBlank = body := by
    rw [List.dropWhile_append_of_pos fun line member => Text.isAllBlank_iff.mpr (blank line member)]
    cases body with
    | nil => rfl
    | cons line rest =>
      exact List.dropWhile_cons_of_neg fun isBlank => begins line rfl (Text.isAllBlank_iff.mp isBlank)
  have parts : [first] ++ inside ++ [closer] ++ gap ++ body =
      first :: (inside ++ closer :: (gap ++ body)) := by simp
  rw [parts, splitLines, if_pos (isFence_iff.mpr opens), found]
  simp only [dropped]

theorem IsParted.length_lt (parted : IsParted lines inside body) : body.length < lines.length := by
  obtain ⟨first, closer, gap, rfl, -⟩ := parted.whole
  simp only [List.length_append, List.length_singleton]
  omega

/-- A note is all body when it has no front matter, and only then. Otherwise its lines are two
fences, the block between them, blank lines, and the body. -/
theorem split_parted (note : Text) :
    (split note = ([], Text.lines note) ↔ IsAbsent (Text.lines note)) ∧
      (IsAbsent (Text.lines note) ∨ ∃ inside body, IsParted (Text.lines note) inside body) ∧
      ∀ inside body, IsParted (Text.lines note) inside body →
        split note = (Text.joinLines inside, body) := by
  refine ⟨?_, ?_, fun inside body parted => parted.splitLines_eq⟩
  · constructor
    · intro whole
      by_contra present
      obtain ⟨inside, body, parted⟩ := exists_isParted present
      -- at least the fences are not in the body
      obtain ⟨-, rfl⟩ := Prod.mk.inj (parted.splitLines_eq.symm.trans whole)
      exact Nat.lt_irrefl _ parted.length_lt
    · exact splitLines_of_isAbsent
  · by_cases absent : IsAbsent (Text.lines note)
    · exact .inl absent
    · exact .inr (exists_isParted absent)

/-- A note whose fences are indented, with a third fence in its body. -/
def indentedNote : Text := Text.of "--- \nmood: calm\n\n\t---\n \n\n---\nwaves\n\n"

theorem split_parted_indented :
    IsParted (Text.lines indentedNote) (["mood: calm", ""].map Text.of)
        (["---", "waves", ""].map Text.of) ∧
      split indentedNote = (Text.of "mood: calm\n", ["---", "waves", ""].map Text.of) := by
  have parted : IsParted (Text.lines indentedNote) (["mood: calm", ""].map Text.of)
      (["---", "waves", ""].map Text.of) := by
    refine ⟨⟨Text.of "--- ", Text.of "\t---", [Text.of " ", []], ?_, ?_, ?_, ?_⟩, ?_, ?_⟩
    all_goals decide +kernel
  exact ⟨parted, (split_parted indentedNote).2.2 _ _ parted⟩

end DreamJournal.FrontMatter
