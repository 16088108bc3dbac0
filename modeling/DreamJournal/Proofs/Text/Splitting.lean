import DreamJournal.Text.Basic
import Mathlib.Data.List.Basic
import Mathlib.Data.List.TakeWhile

/-!
# Pieces and breaks

Joining the pieces of a text with the character at which it was cut gives the text back, and a text
without carriage returns is not touched when its breaks are rewritten. Cutting at two kinds of
characters is cutting twice. What is taken from the ends of a text leaves a part of it, from which
nothing more is taken.
-/
namespace DreamJournal.Text

open scoped List

variable {t : Text}

theorem splitOn_eq (separator : Char) (t : Text) :
    splitOn separator t = List.splitOn separator t := by
  induction t with
  | nil => rfl
  | cons c rest ih =>
    rw [splitOn, ih, List.splitOn_cons_eq_if_modifyHead]
    by_cases found : c = separator
    · simp [found]
    · have given := List.splitOn_ne_nil separator rest
      cases pieces : List.splitOn separator rest with
      | nil => exact absurd pieces given
      | cons first more => simp [found]

@[simp] theorem joinLines_splitOn (t : Text) : joinLines (splitOn '\n' t) = t := by
  rw [splitOn_eq]
  exact List.intercalate_splitOn '\n'

theorem splitOn_of_not_mem {separator : Char} (absent : separator ∉ t) :
    splitOn separator t = [t] := by
  rw [splitOn_eq, List.splitOn_eq_singleton absent]

theorem not_mem_of_mem_splitOn {separator : Char} {piece : Text}
    (member : piece ∈ splitOn separator t) : separator ∉ piece := by
  induction t generalizing piece with
  | nil =>
    rw [List.mem_singleton.mp member]
    exact List.not_mem_nil
  | cons c rest ih =>
    rw [splitOn] at member
    split at member
    · rcases List.mem_cons.mp member with rfl | later
      · exact List.not_mem_nil
      · exact ih later
    · rename_i other
      cases pieces : splitOn separator rest with
      | nil =>
        rw [pieces] at member
        simpa [List.mem_singleton.mp member] using Ne.symm other
      | cons first more =>
        rw [pieces] at member ih
        rcases List.mem_cons.mp member with rfl | later
        · simpa [Ne.symm other] using ih List.mem_cons_self
        · exact ih (List.mem_cons_of_mem first later)

theorem splitOn_join {separator : Char} {pieces : List Text} (given : pieces ≠ [])
    (absent : ∀ piece ∈ pieces, separator ∉ piece) :
    splitOn separator (join [separator] pieces) = pieces := by
  rw [splitOn_eq, join, List.splitOn_intercalate separator absent given]

theorem splitOn_joinLines {pieces : List Text} (given : pieces ≠ [])
    (unbroken : ∀ piece ∈ pieces, '\n' ∉ piece) : splitOn '\n' (joinLines pieces) = pieces :=
  splitOn_join given unbroken

/-- Cutting at two kinds of characters is cutting at the one kind and then at the other. -/
theorem flatMap_splitOnP (p q : Char → Bool) (t : Text) :
    (List.splitOnP p t).flatMap (List.splitOnP q) = List.splitOnP (fun c => p c || q c) t := by
  induction t with
  | nil => simp [List.splitOnP_nil]
  | cons c rest ih =>
    obtain ⟨first, more, pieces⟩ := List.exists_cons_of_ne_nil (List.splitOnP_ne_nil p rest)
    rw [pieces, List.flatMap_cons] at ih
    rw [List.splitOnP_cons_eq_if_modifyHead, List.splitOnP_cons_eq_if_modifyHead, ← ih, pieces]
    cases here : p c with
    | true => simp [List.splitOnP_nil]
    | false =>
      -- the character goes in front of the first piece, unless the text is cut there after all
      obtain ⟨head, tail, inner⟩ := List.exists_cons_of_ne_nil (List.splitOnP_ne_nil q first)
      cases there : q c <;> simp [List.splitOnP_cons_eq_if_modifyHead, there, inner]

/-! ## Cutting -/

theorem cut?_append {mark : Char} {front : Text} (absent : mark ∉ front) (back : Text) :
    cut? mark (front ++ mark :: back) = some (front, back) := by
  induction front with
  | nil => simp [cut?]
  | cons c front ih =>
    have other : c ≠ mark := fun same => absent (same ▸ List.mem_cons_self)
    simp [cut?, other, ih fun later => absent (List.mem_cons_of_mem c later)]

theorem cut?_eq_some_iff {mark : Char} {front back : Text} :
    cut? mark t = some (front, back) ↔ t = front ++ mark :: back ∧ mark ∉ front := by
  constructor
  · intro found
    induction t generalizing front with
    | nil => cases found
    | cons c t ih =>
      rw [cut?] at found
      split at found
      next same =>
        obtain ⟨rfl, rfl⟩ := Prod.mk.inj (Option.some.inj found)
        exact ⟨same ▸ rfl, List.not_mem_nil⟩
      next other =>
        obtain ⟨⟨rest, behind⟩, later, same⟩ := Option.map_eq_some_iff.mp found
        obtain ⟨rfl, rfl⟩ := Prod.mk.inj same
        obtain ⟨rfl, absent⟩ := ih later
        exact ⟨rfl, List.not_mem_cons_of_ne_of_not_mem (Ne.symm other) absent⟩
  · rintro ⟨rfl, absent⟩
    exact cut?_append absent back

theorem cut?_eq_none {mark : Char} (absent : mark ∉ t) : cut? mark t = none := by
  induction t with
  | nil => rfl
  | cons c t ih =>
    have other : c ≠ mark := fun same => absent (same ▸ List.mem_cons_self)
    simp [cut?, other, ih fun later => absent (List.mem_cons_of_mem c later)]

theorem not_mem_of_cut?_eq_none {mark : Char} (uncut : cut? mark t = none) : mark ∉ t := by
  intro member
  obtain ⟨front, back, rfl, absent⟩ := List.eq_append_cons_of_mem member
  rw [cut?_append absent] at uncut
  cases uncut

/-! ## Lines -/

theorem unixBreaks_eq_self (absent : '\r' ∉ t) : unixBreaks t = t := by
  fun_induction unixBreaks t with
  | case1 => rfl
  | case2 rest ih => exact absurd List.mem_cons_self absent
  | case3 c rest other ih => rw [ih fun later => absent (List.mem_cons_of_mem c later)]

theorem unixBreaks_sublist (t : Text) : unixBreaks t <+ t := by
  fun_induction unixBreaks t with
  | case1 => exact .slnil
  | case2 rest ih => exact (ih.cons_cons '\n').cons '\r'
  | case3 c rest _ ih => exact ih.cons_cons c

/-- The breaks that end lines are white space. -/
theorem isLineBreak_of_inked {c : Char} (inked : isBlank c = false) : isLineBreak c = false := by
  simp only [isBlank, Bool.or_eq_false_iff, Bool.and_eq_false_iff, decide_eq_false_iff_not,
    beq_eq_false_iff_ne] at inked
  simp only [isLineBreak, Bool.or_eq_false_iff, Bool.and_eq_false_iff, decide_eq_false_iff_not,
    beq_eq_false_iff_ne]
  omega

/-- Something to be read, without a character that ends a line. -/
structure IsLine (t : Text) : Prop where
  nonempty : t ≠ []
  unbroken : ∀ c ∈ t, isLineBreak c = false

theorem IsLine.not_mem {mark : Char} (isLine : IsLine t) (breaks : isLineBreak mark = true) :
    mark ∉ t := by
  intro member
  rw [isLine.unbroken mark member] at breaks
  cases breaks

/-- Whether a text is a line can be computed. -/
theorem IsLine.of_any (given : t.isEmpty = false) (unbroken : t.any isLineBreak = false) :
    IsLine t := by
  refine ⟨by simpa using given, fun c member => ?_⟩
  simpa using List.any_eq_false.mp unbroken c member

theorem IsLine.append {back : Text} (isLine : IsLine t)
    (unbroken : ∀ c ∈ back, isLineBreak c = false) : IsLine (t ++ back) := by
  refine ⟨List.append_ne_nil_of_left_ne_nil isLine.nonempty back, fun c member => ?_⟩
  rcases List.mem_append.mp member with front | behind
  · exact isLine.unbroken c front
  · exact unbroken c behind

theorem lines_break {rest : Text} : lines ('\n' :: rest) = [] :: lines rest := by
  rw [lines.eq_def]
  rfl

theorem lines_unbroken {c : Char} {rest : Text} (unbroken : isLineBreak c = false) :
    lines (c :: rest) =
      match lines rest with
      | [] => [[c]]
      | line :: more => (c :: line) :: more := by
  have other : c ≠ '\r' := by
    rintro rfl
    cases unbroken
  rw [lines.eq_def]
  split
  next same => cases same
  next same => exact absurd (List.cons.inj same).1 other
  next same =>
    obtain ⟨rfl, rfl⟩ := List.cons.inj same
    exact if_neg (by simp [unbroken])

theorem lines_append_break (unbroken : ∀ c ∈ t, isLineBreak c = false) (rest : Text) :
    lines (t ++ '\n' :: rest) = t :: lines rest := by
  induction t with
  | nil => exact lines_break
  | cons c more ih =>
    have ⟨here, later⟩ := List.forall_mem_cons.mp unbroken
    rw [List.cons_append, lines_unbroken here, ih later]

theorem IsLine.lines_eq (isLine : IsLine t) : lines t = [t] := by
  obtain ⟨nonempty, unbroken⟩ := isLine
  induction t with
  | nil => exact absurd rfl nonempty
  | cons c more ih =>
    have ⟨here, later⟩ := List.forall_mem_cons.mp unbroken
    rw [lines_unbroken here]
    cases more with
    | nil => rfl
    | cons next more => rw [ih (List.cons_ne_nil _ _) later]

/-- Lines that are joined are read back. -/
theorem lines_joinLines {pieces : List Text} (areLines : ∀ piece ∈ pieces, IsLine piece) :
    lines (joinLines pieces) = pieces := by
  induction pieces with
  | nil => rfl
  | cons first rest ih =>
    have ⟨here, later⟩ := List.forall_mem_cons.mp areLines
    cases rest with
    | nil => rw [joinLines, join, List.intercalate_singleton, here.lines_eq]
    | cons second rest =>
      have joined := ih later
      rw [joinLines, join] at joined
      rw [joinLines, join, List.intercalate_cons_cons, List.append_assoc, List.singleton_append,
        lines_append_break here.unbroken, joined]

/-- Lines that are joined are read back, but for an empty one at the end. -/
theorem lines_joinLines_cases {pieces : List Text}
    (unbroken : ∀ piece ∈ pieces, ∀ c ∈ piece, isLineBreak c = false) :
    lines (joinLines pieces) = pieces ∨ pieces = lines (joinLines pieces) ++ [[]] := by
  induction pieces with
  | nil => exact .inl rfl
  | cons first rest ih =>
    have ⟨here, later⟩ := List.forall_mem_cons.mp unbroken
    cases rest with
    | nil =>
      rw [joinLines, join, List.intercalate_singleton]
      by_cases empty : first = []
      · exact .inr (by rw [empty]; rfl)
      · exact .inl (IsLine.lines_eq ⟨empty, here⟩)
    | cons second rest =>
      have joined := ih later
      rw [joinLines, join] at joined
      rw [joinLines, join, List.intercalate_cons_cons, List.append_assoc, List.singleton_append,
        lines_append_break here]
      exact joined.imp (congrArg (first :: ·)) (congrArg (first :: ·))

/-- No line of a text holds a character that ends a line. -/
theorem unbroken_of_mem_lines {line : Text} (member : line ∈ lines t) :
    ∀ c ∈ line, isLineBreak c = false := by
  fun_induction lines t generalizing line with
  | case1 => exact absurd member List.not_mem_nil
  | case2 rest ih | case3 c rest _ _ ih =>
    rcases List.mem_cons.mp member with rfl | later
    · exact List.forall_mem_nil _
    · exact ih later
  | case4 c rest _ unbroken none _ =>
    obtain rfl := List.mem_singleton.mp member
    simpa using unbroken
  | case5 c rest _ unbroken first more found ih =>
    rcases List.mem_cons.mp member with rfl | later
    · exact List.forall_mem_cons.mpr
        ⟨by simpa using unbroken, ih (found ▸ List.mem_cons_self)⟩
    · exact ih (found ▸ List.mem_cons_of_mem first later)

/-- What comes of the lines of a text comes of its pieces between line breaks, if nothing comes of
an empty piece. -/
theorem flatMap_lines {α : Type} {f : Text → List α} (nothing : f [] = []) (t : Text) :
    (lines t).flatMap f = (List.splitOnP isLineBreak t).flatMap f := by
  -- the first line is the first piece, if there is a line
  have first : ∃ piece more, List.splitOnP isLineBreak t = piece :: more ∧
      (lines t = [] ∧ piece = [] ∧ more = [] ∨
        ∃ rest, lines t = piece :: rest ∧ rest.flatMap f = more.flatMap f) := by
    fun_induction lines t with
    | case1 => exact ⟨[], [], List.splitOnP_nil, .inl ⟨rfl, rfl, rfl⟩⟩
    | case2 rest ih =>
      obtain ⟨piece, more, pieces, lined⟩ := ih
      refine ⟨[], [] :: piece :: more, ?_, .inr ⟨_, rfl, ?_⟩⟩
      · have carriage : isLineBreak '\r' = true := rfl
        have feed : isLineBreak '\n' = true := rfl
        simp [List.splitOnP_cons_eq_if_modifyHead, carriage, feed, pieces]
      · rcases lined with ⟨none, rfl, rfl⟩ | ⟨rest, some, same⟩
        · simp [none, nothing]
        · simp [some, nothing, same]
    | case3 c rest _ breaks ih =>
      obtain ⟨piece, more, pieces, lined⟩ := ih
      refine ⟨[], piece :: more, ?_, .inr ⟨_, rfl, ?_⟩⟩
      · rw [List.splitOnP_cons_eq_if_modifyHead, if_pos breaks, pieces]
      · rcases lined with ⟨none, rfl, rfl⟩ | ⟨rest, some, same⟩
        · simp [none, nothing]
        · simp [some, same]
    | case4 c rest _ unbroken none ih =>
      obtain ⟨piece, more, pieces, ⟨_, rfl, rfl⟩ | ⟨rest, some, _⟩⟩ := ih
      · refine ⟨[c], [], ?_, .inr ⟨[], rfl, rfl⟩⟩
        rw [List.splitOnP_cons_eq_if_modifyHead, if_neg unbroken, pieces, List.modifyHead_cons]
      · rw [none] at some
        cases some
    | case5 c rest _ unbroken line later found ih =>
      obtain ⟨piece, more, pieces, ⟨none, _⟩ | ⟨rest', some, same⟩⟩ := ih
      · rw [found] at none
        cases none
      · rw [found, List.cons.injEq] at some
        obtain ⟨rfl, rfl⟩ := some
        refine ⟨c :: line, more, ?_, .inr ⟨later, rfl, same⟩⟩
        rw [List.splitOnP_cons_eq_if_modifyHead, if_neg unbroken, pieces, List.modifyHead_cons]
  obtain ⟨piece, more, pieces, ⟨none, rfl, rfl⟩ | ⟨rest, some, same⟩⟩ := first
  · simp [none, pieces, nothing]
  · rw [pieces, some, List.flatMap_cons, List.flatMap_cons, same]

/-! ## Runs at the ends -/

theorem takeWhile_append_drop (p : Char → Bool) (t : Text) :
    t.takeWhile p ++ t.drop (t.takeWhile p).length = t :=
  List.prefix_iff_eq_append.mp (List.takeWhile_prefix p)

theorem drop_length_takeWhile (p : Char → Bool) (t : Text) :
    t.drop (t.takeWhile p).length = t.dropWhile p :=
  List.append_cancel_left ((takeWhile_append_drop p t).trans List.takeWhile_append_dropWhile.symm)

theorem exists_head_of_takeWhile {p : Char → Bool} (given : 0 < (t.takeWhile p).length) :
    ∃ c ∈ t.head?, p c = true := by
  obtain ⟨c, rest, parts⟩ := List.exists_cons_of_length_pos given
  refine ⟨c, ?_, List.mem_takeWhile_imp (parts ▸ List.mem_cons_self)⟩
  have whole := takeWhile_append_drop p t
  rw [parts] at whole
  rw [← whole]
  rfl

theorem length_takeWhile_add_drop (p : Char → Bool) (t : Text) :
    (t.takeWhile p).length + (t.drop (t.takeWhile p).length).length = t.length := by
  rw [← List.length_append, takeWhile_append_drop]

theorem trimBoth_sublist (drop : Char → Bool) (t : Text) : trimBoth drop t <+ t := by
  have behind : (t.dropWhile drop).reverse.dropWhile drop <+ (t.dropWhile drop).reverse :=
    List.dropWhile_sublist _
  have trimmed := behind.reverse
  rw [List.reverse_reverse] at trimmed
  exact trimmed.trans (List.dropWhile_sublist _)

theorem mem_dropWhile {drop : Char → Bool} {c : Char} (member : c ∈ t) (kept : drop c = false) :
    c ∈ t.dropWhile drop := by
  rw [← List.takeWhile_append_dropWhile (p := drop) (l := t)] at member
  rcases List.mem_append.mp member with front | behind
  · have dropped := List.all_eq_true.mp List.all_takeWhile c front
    rw [kept] at dropped
    cases dropped
  · exact behind

theorem mem_trimBoth {drop : Char → Bool} {c : Char} (member : c ∈ t) (kept : drop c = false) :
    c ∈ trimBoth drop t := by
  unfold trimBoth
  have behind := List.mem_reverse.mpr (mem_dropWhile member kept)
  exact List.mem_reverse.mpr (mem_dropWhile behind kept)

/-- What is known of the character at one end of a text, said of every such character. -/
theorem forall_of_exists {end? : Option Char} {p q : Char → Prop} (found : ∃ c ∈ end?, p c)
    (keeps : ∀ c, p c → q c) : ∀ c ∈ end?, q c := by
  intro c same
  obtain ⟨d, isEnd, holds⟩ := found
  obtain rfl := Option.some.inj (isEnd.symm.trans same)
  exact keeps d holds

theorem head?_dropWhile {drop : Char → Bool} (t : Text) :
    ∀ c ∈ (t.dropWhile drop).head?, drop c = false := by
  intro c first
  have stopped := List.head?_dropWhile_not drop t
  rw [Option.mem_def.mp first] at stopped
  simpa using stopped

theorem dropWhile_eq_self {drop : Char → Bool} (starts : ∀ c ∈ t.head?, drop c = false) :
    t.dropWhile drop = t := by
  cases t with
  | nil => rfl
  | cons c rest => rw [List.dropWhile_cons_of_neg (by simp [starts c rfl])]

/-- A run of one class reaches up to the first character of another. -/
theorem takeWhile_run {p : Char → Bool} {run behind : Text} (inside : ∀ c ∈ run, p c = true)
    (ends : ∀ c ∈ behind.head?, p c = false) : (run ++ behind).takeWhile p = run := by
  rw [List.takeWhile_append_of_pos inside]
  cases behind with
  | nil => exact List.append_nil run
  | cons c rest =>
    have other := ends c rfl
    rw [List.takeWhile_cons_of_neg (by simp [other]), List.append_nil]

theorem dropWhile_append_of_ends {p : Char → Bool} {behind : Text}
    (ends : ∀ c ∈ behind.head?, p c = false) (front : Text) :
    (front ++ behind).dropWhile p = front.dropWhile p ++ behind := by
  rw [List.dropWhile_append]
  split
  next empty => rw [List.isEmpty_iff.mp empty, List.nil_append, dropWhile_eq_self ends]
  next => rfl

theorem dropWhile_run {p : Char → Bool} {run behind : Text} (inside : ∀ c ∈ run, p c = true)
    (ends : ∀ c ∈ behind.head?, p c = false) : (run ++ behind).dropWhile p = behind := by
  rw [dropWhile_append_of_ends ends, List.dropWhile_eq_nil_iff.mpr inside, List.nil_append]

theorem trimEnd_append (drop : Char → Bool) (t : Text) :
    trimEnd drop t ++ (t.reverse.takeWhile drop).reverse = t := by
  rw [trimEnd, ← List.reverse_append, List.takeWhile_append_dropWhile, List.reverse_reverse]

theorem trimEnd_eq_self {drop : Char → Bool} (ends : ∀ c ∈ t.getLast?, drop c = false) :
    trimEnd drop t = t := by
  rw [trimEnd, dropWhile_eq_self (by rwa [List.head?_reverse]), List.reverse_reverse]

theorem trimBoth_eq_self {drop : Char → Bool} (starts : ∀ c ∈ t.head?, drop c = false)
    (ends : ∀ c ∈ t.getLast?, drop c = false) : trimBoth drop t = t := by
  rw [trimBoth, dropWhile_eq_self starts]
  exact trimEnd_eq_self ends

theorem trim_eq_self (inked : ∀ c ∈ t, isBlank c = false) : trim t = t :=
  trimBoth_eq_self (fun c first => inked c (List.mem_of_head? first))
    fun c last => inked c (List.mem_of_getLast? last)

theorem trimBoth_trimBoth (drop : Char → Bool) (t : Text) :
    trimBoth drop (trimBoth drop t) = trimBoth drop t := by
  refine trimBoth_eq_self ?_ ?_
  · intro c first
    -- what is taken from the end leaves the beginning, unless nothing is left
    have kept : trimBoth drop t <+: t.dropWhile drop := by
      have suffix := List.dropWhile_suffix (l := (t.dropWhile drop).reverse) drop
      have turned := List.reverse_prefix.mpr suffix
      rwa [List.reverse_reverse] at turned
    obtain ⟨back, whole⟩ := kept
    refine head?_dropWhile t c ?_
    rw [← whole, List.head?_append, Option.mem_def.mp first]
    rfl
  · intro c last
    rw [trimBoth, List.getLast?_reverse] at last
    exact head?_dropWhile _ c last

theorem trim_trim (t : Text) : trim (trim t) = trim t := trimBoth_trimBoth isBlank t

/-- White space at the end of a text is trimmed away. -/
theorem trim_append_blank {b : Text} (blank : ∀ c ∈ b, isBlank c = true) (t : Text) :
    trim (t ++ b) = trim t := by
  rw [trim, trim, trimBoth, trimBoth, List.dropWhile_append]
  split
  next empty =>
    rw [List.isEmpty_iff.mp empty, List.dropWhile_eq_nil_iff.mpr blank]
  next =>
    rw [List.reverse_append,
      List.dropWhile_append_of_pos fun c member => blank c (List.mem_reverse.mp member)]

theorem trim_cons_blank {c : Char} (blank : isBlank c = true) (t : Text) :
    trim (c :: t) = trim t := by
  rw [trim, trim, trimBoth, trimBoth, List.dropWhile_cons_of_pos blank]

/-- White space in front of a text is trimmed away. -/
theorem trim_blank_append {a : Text} (blank : ∀ c ∈ a, isBlank c = true) (t : Text) :
    trim (a ++ t) = trim t := by
  rw [trim, trim, trimBoth, trimBoth, List.dropWhile_append_of_pos blank]

/-- What trimming takes away is white space, in front and behind. -/
theorem exists_trim (t : Text) : ∃ front behind, t = front ++ (trim t ++ behind) ∧
    (∀ c ∈ front, isBlank c = true) ∧ ∀ c ∈ behind, isBlank c = true := by
  refine ⟨t.takeWhile isBlank, ((t.dropWhile isBlank).reverse.takeWhile isBlank).reverse, ?_, ?_, ?_⟩
  · rw [trim, trimBoth, ← List.reverse_append, List.takeWhile_append_dropWhile,
      List.reverse_reverse, List.takeWhile_append_dropWhile]
  · exact fun c member => List.mem_takeWhile_imp member
  · exact fun c member => List.mem_takeWhile_imp (List.mem_reverse.mp member)

theorem last_of_trimmed (trimmed : trim t = t) : ∀ c ∈ t.getLast?, isBlank c = false := by
  intro c last
  rw [← trimmed, trim, trimBoth, List.getLast?_reverse] at last
  exact head?_dropWhile _ c last

/-- A text is blank if trimming leaves nothing of it. -/
theorem isAllBlank_iff {t : Text} : isAllBlank t = true ↔ trim t = [] := by
  constructor
  · intro blank
    have none := trim_append_blank (List.all_eq_true.mp blank) []
    rwa [List.nil_append] at none
  · intro none
    obtain ⟨front, behind, parts, frontBlank, behindBlank⟩ := exists_trim t
    rw [none, List.nil_append] at parts
    rw [parts, isAllBlank, List.all_append, List.all_eq_true.mpr frontBlank,
      List.all_eq_true.mpr behindBlank]
    rfl

end DreamJournal.Text
