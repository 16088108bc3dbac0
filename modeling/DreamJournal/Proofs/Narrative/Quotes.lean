import DreamJournal.Narrative.Lines
import DreamJournal.Proofs.Callout.Marker
import DreamJournal.Proofs.Text.Replacement
import DreamJournal.Proofs.Text.Words

/-!
# Quote markers, line by line and all at once

A line that is scanned loses its quote markers by itself. A narrative loses those of all its lines,
and there the same can be said of the text as a whole: wherever a line starts, the run of markers
that begins there is replaced by nothing. No run reaches beyond its line, so the two ways agree. What
a line loses is the longest run that it begins with, and what is left begins with none.
-/
namespace DreamJournal

open Text (isGap joinLines)

/-! ## Runs of markers -/

namespace Marker

variable {line run other t : Text} {marked : Bool}

/-- A run of quote markers: gaps, and then one marker or more, each with gaps behind it. -/
def IsRun (run : Text) : Prop :=
  ∃ (gaps : Text) (behind : List Text), behind ≠ [] ∧ (∀ c ∈ gaps, isGap c = true) ∧
    (∀ more ∈ behind, ∀ c ∈ more, isGap c = true) ∧ run = gaps ++ behind.flatMap ('>' :: ·)

/-- The run that a text begins with, read from left to right; `marked` says whether a marker has
been passed. -/
def readRun? : (marked : Bool) → Text → Option Text
  | marked, [] => if marked then some [] else none
  | marked, c :: rest =>
    if c = '>' then (readRun? true rest).map (c :: ·)
    else if isGap c then (readRun? marked rest).map (c :: ·)
    else if marked then some [] else none

/-- The run that a line begins with is as long as it can be, and empty only when there is none. -/
structure IsLeading (line run : Text) : Prop where
  front : run <+: line
  isRun : run = [] ∨ IsRun run
  longest : ∀ other, IsRun other → other <+: line → other <+: run

/-- What a line loses with its markers, and what is left of it. -/
structure IsStripped (line : Text) : Prop where
  parts : ∃ run, line = run ++ strip line ∧ IsLeading line run ∧ run.count '>' = count line
  bare : count (strip line) = 0
  again : strip (strip line) = strip line

theorem exists_gaps (parts : ∀ c ∈ t, isPart c = true) :
    ∃ (gaps : Text) (behind : List Text), (∀ c ∈ gaps, isGap c = true) ∧
      (∀ more ∈ behind, ∀ c ∈ more, isGap c = true) ∧ t = gaps ++ behind.flatMap ('>' :: ·) := by
  induction t with
  | nil => exact ⟨[], [], by simp, by simp, rfl⟩
  | cons c rest ih =>
    obtain ⟨here, later⟩ := List.forall_mem_cons.mp parts
    obtain ⟨gaps, behind, areGaps, areAlso, rfl⟩ := ih later
    by_cases marker : c = '>'
    · -- what were the gaps in front are now the gaps behind this marker
      subst marker
      exact ⟨[], gaps :: behind, by simp, List.forall_mem_cons.mpr ⟨areGaps, areAlso⟩, rfl⟩
    · have gap : isGap c = true := by simpa [isPart, marker] using here
      exact ⟨c :: gaps, behind, List.forall_mem_cons.mpr ⟨gap, areGaps⟩, areAlso, rfl⟩

theorem isRun_iff : IsRun run ↔ (∀ c ∈ run, isPart c = true) ∧ '>' ∈ run := by
  constructor
  · rintro ⟨gaps, behind, given, areGaps, areAlso, rfl⟩
    constructor
    · intro c member
      rcases List.mem_append.mp member with inFront | inBehind
      · simp [isPart, areGaps c inFront]
      · obtain ⟨more, listed, inside⟩ := List.mem_flatMap.mp inBehind
        rcases List.mem_cons.mp inside with rfl | isGap
        · rfl
        · simp [isPart, areAlso more listed c isGap]
    · obtain ⟨first, rest, rfl⟩ := List.exists_cons_of_ne_nil given
      simp
  · rintro ⟨parts, marker⟩
    obtain ⟨gaps, behind, areGaps, areAlso, rfl⟩ := exists_gaps parts
    refine ⟨gaps, behind, ?_, areGaps, areAlso, rfl⟩
    -- without a marker behind them, the marker would be one of the gaps
    rintro rfl
    have inFront : '>' ∈ gaps := by simpa using marker
    exact absurd (areGaps '>' inFront) (by decide)

theorem count_cons (c : Char) (rest : Text) : count (c :: rest) =
    if c = '>' then count rest + 1 else if isGap c then count rest else 0 := by
  by_cases marker : c = '>'
  · subst marker
    rw [if_pos rfl, count, List.takeWhile_cons_of_pos rfl, List.count_cons_self, count]
  · rw [if_neg marker]
    split
    next gap =>
      rw [count, List.takeWhile_cons_of_pos (by simp [isPart, gap]), List.count_cons_of_ne marker,
        count]
    next other =>
      rw [count, List.takeWhile_cons_of_neg (by simp [isPart, marker, other]), List.count_nil]

/-- Reading goes on as long as a run can, and finds nothing without a marker. -/
theorem readRun?_eq (marked : Bool) (t : Text) : readRun? marked t =
    if marked = true ∨ count t ≠ 0 then some (t.takeWhile isPart) else none := by
  induction t generalizing marked with
  | nil => cases marked <;> simp [readRun?, count]
  | cons c rest ih =>
    rw [readRun?, ih, ih, count_cons]
    by_cases marker : c = '>'
    · subst marker
      simp [isPart]
    · by_cases gap : isGap c = true
      · by_cases found : marked = true ∨ count rest ≠ 0 <;> simp [isPart, marker, gap, found]
      · simp [isPart, marker, gap]

/-! ## What a line loses -/

theorem count_dropWhile (line : Text) : count (line.dropWhile isPart) = 0 := by
  have ends : ∀ c ∈ (line.dropWhile isPart).head?, isPart c = false := Text.head?_dropWhile line
  have stopped := Text.takeWhile_run (List.forall_mem_nil _) ends
  rw [count, ← List.nil_append (line.dropWhile isPart), stopped, List.count_nil]

theorem count_strip (line : Text) : count (strip line) = 0 := by
  unfold strip
  split
  next unquoted => exact unquoted
  next => exact count_dropWhile line

theorem isRun_takeWhile (quoted : count line ≠ 0) : IsRun (line.takeWhile isPart) :=
  isRun_iff.mpr ⟨fun _ member => List.mem_takeWhile_imp member, mem_of_marked quoted⟩

/-- A run at the beginning of a line is part of the characters from which markers are counted. -/
theorem prefix_takeWhile (isRun : IsRun run) (front : run <+: line) :
    run <+: line.takeWhile isPart := by
  obtain ⟨rest, rfl⟩ := front
  rw [List.takeWhile_append_of_pos (isRun_iff.mp isRun).1]
  exact List.prefix_append run _

theorem quoted_of_isRun (isRun : IsRun run) (front : run <+: line) : count line ≠ 0 := by
  have member : '>' ∈ line.takeWhile isPart :=
    (prefix_takeWhile isRun front).subset (isRun_iff.mp isRun).2
  exact Nat.ne_of_gt (List.count_pos_iff.mpr member)

theorem isStripped (line : Text) : IsStripped line := by
  refine ⟨?_, count_strip line, by rw [strip, if_pos (count_strip line)]⟩
  by_cases unquoted : count line = 0
  · -- there is no run, so there is none that is longer
    refine ⟨[], by rw [strip, if_pos unquoted, List.nil_append], ⟨List.nil_prefix, .inl rfl, ?_⟩, ?_⟩
    · intro other isRun front
      exact absurd unquoted (quoted_of_isRun isRun front)
    · rw [unquoted, List.count_nil]
  · refine ⟨line.takeWhile isPart, ?_, ⟨List.takeWhile_prefix _, ?_, ?_⟩, rfl⟩
    · rw [strip, if_neg unquoted, List.takeWhile_append_dropWhile]
    · exact .inr (isRun_takeWhile unquoted)
    · exact fun other isRun front => prefix_takeWhile isRun front

end Marker

/-! ## All lines at once -/

namespace Narrative

variable {before : Option Char} {c : Char} {line tail t : Text} {lines : List Text}

/-- The run of markers at the start of a line, for which nothing is put. -/
def quoteRun : Text.Pattern := fun before here =>
  if before = none ∨ before = some '\n' then
    (Marker.readRun? false here).map fun run => ⟨run.length, []⟩
  else none

/-- Inside a line nothing is replaced. -/
theorem replaceFrom_inside (inside : c ≠ '\n') (unbroken : '\n' ∉ line) (tail : Text) :
    ∃ last, quoteRun.replaceFrom 0 (some c) (line ++ tail) =
      line ++ quoteRun.replaceFrom 0 last tail := by
  induction line generalizing c with
  | nil => exact ⟨some c, rfl⟩
  | cons d line ih =>
    obtain ⟨here, later⟩ := not_or.mp (mt List.mem_cons.mpr unbroken)
    obtain ⟨last, same⟩ := ih (Ne.symm here) later
    have unfound : quoteRun (some c) (d :: (line ++ tail)) = none := by simp [quoteRun, inside]
    refine ⟨last, ?_⟩
    rw [List.cons_append, Text.Pattern.replaceFrom, unfound]
    exact congrArg (d :: ·) same

/-- What stands behind a line feed has no part in the run of a line. -/
theorem takeWhile_line (ends : ∀ c ∈ tail.head?, c = '\n') (line : Text) :
    (line ++ tail).takeWhile Marker.isPart = line.takeWhile Marker.isPart := by
  have none : tail.takeWhile Marker.isPart = [] := by
    cases tail with
    | nil => rfl
    | cons c rest =>
      obtain rfl := ends c rfl
      exact List.takeWhile_cons_of_neg (by decide)
  rw [List.takeWhile_append, none, List.append_nil]
  split
  next all => exact ((List.takeWhile_prefix _).eq_of_length all).symm
  next => rfl

/-- At the start of a line its run is found, and nothing of the lines behind it. -/
theorem quoteRun_line (starts : before = none ∨ before = some '\n')
    (ends : ∀ c ∈ tail.head?, c = '\n') (line : Text) : quoteRun before (line ++ tail) =
      if Marker.count line ≠ 0 then some ⟨(line.takeWhile Marker.isPart).length, []⟩
      else none := by
  have run := takeWhile_line ends line
  have counted : Marker.count (line ++ tail) = Marker.count line := by
    rw [Marker.count, run, Marker.count]
  rw [quoteRun, if_pos starts, Marker.readRun?_eq, counted, run]
  by_cases quoted : Marker.count line ≠ 0 <;> simp [quoted]

/-- From the start of a line on, the line loses its markers. -/
theorem replaceFrom_line (starts : before = none ∨ before = some '\n') (unbroken : '\n' ∉ line)
    (tail : Text) (ends : ∀ c ∈ tail.head?, c = '\n') :
    ∃ last, quoteRun.replaceFrom 0 before (line ++ tail) =
      Marker.strip line ++ quoteRun.replaceFrom 0 last tail := by
  have found := quoteRun_line starts ends line
  by_cases unquoted : Marker.count line = 0
  · -- the first character is passed, and from there on the walk is inside the line
    rw [Marker.strip, if_pos unquoted]
    rw [if_neg (not_not.mpr unquoted)] at found
    cases line with
    | nil => exact ⟨before, rfl⟩
    | cons c rest =>
      obtain ⟨here, later⟩ := not_or.mp (mt List.mem_cons.mpr unbroken)
      obtain ⟨last, same⟩ := replaceFrom_inside (Ne.symm here) later tail
      refine ⟨last, ?_⟩
      rw [List.cons_append] at found ⊢
      rw [Text.Pattern.replaceFrom, found]
      exact congrArg (c :: ·) same
  · rw [Marker.strip, if_neg unquoted]
    rw [if_pos unquoted] at found
    have parts := List.takeWhile_append_dropWhile (p := Marker.isPart) (l := line)
    have marker := Marker.mem_of_marked unquoted
    -- the walk goes on behind the last character of the run, which is inside the line
    obtain ⟨d, last⟩ := Option.ne_none_iff_exists'.mp
      (mt List.getLast?_eq_none_iff.mp (List.ne_nil_of_mem marker))
    have inside : d ≠ '\n' := by
      rintro rfl
      have isPart := List.mem_takeWhile_imp (List.mem_of_getLast? last)
      exact absurd isPart (by decide)
    have later : '\n' ∉ line.dropWhile Marker.isPart :=
      fun member => unbroken ((List.dropWhile_sublist _).subset member)
    obtain ⟨behind, same⟩ := replaceFrom_inside inside later tail
    refine ⟨behind, ?_⟩
    have whole : line ++ tail = line.takeWhile Marker.isPart ++
        (line.dropWhile Marker.isPart ++ tail) := by
      rw [← List.append_assoc, parts]
    rw [whole] at found ⊢
    rw [Text.Pattern.replaceFrom_found (List.ne_nil_of_mem marker) found, last]
    exact same

/-- A line feed stays, whatever stands in front of it. -/
theorem replaceFrom_break (before : Option Char) (rest : Text) :
    quoteRun.replaceFrom 0 before ('\n' :: rest) =
      '\n' :: quoteRun.replaceFrom 0 (some '\n') rest := by
  have unfound : quoteRun before ('\n' :: rest) = none := by
    have noRun : Marker.readRun? false ('\n' :: rest) = none := rfl
    simp [quoteRun, noRun]
  rw [Text.Pattern.replaceFrom, unfound]

theorem replaceFrom_joinLines (before : Option Char) (starts : before = none ∨ before = some '\n')
    (unbroken : ∀ line ∈ lines, '\n' ∉ line) :
    quoteRun.replaceFrom 0 before (joinLines lines) = joinLines (lines.map Marker.strip) := by
  induction lines generalizing before with
  | nil => rfl
  | cons line rest ih =>
    obtain ⟨here, later⟩ := List.forall_mem_cons.mp unbroken
    cases rest with
    | nil =>
      obtain ⟨last, same⟩ := replaceFrom_line starts here [] (by simp)
      rw [List.append_nil] at same
      rw [joinLines, Text.join_singleton, same, List.map_singleton, joinLines, Text.join_singleton]
      exact List.append_nil _
    | cons next rest =>
      obtain ⟨last, same⟩ :=
        replaceFrom_line starts here ('\n' :: joinLines (next :: rest)) (by simp)
      have joined (line next : Text) (more : List Text) :
          joinLines (line :: next :: more) = line ++ '\n' :: joinLines (next :: more) := by
        simp [joinLines, Text.join_cons_cons]
      rw [joined, same, replaceFrom_break, ih _ (.inr rfl) later]
      exact (joined _ _ _).symm

/-- The markers of all lines are taken by replacing the runs at the starts of lines. -/
theorem stripQuotes_eq_replaceAll (t : Text) : stripQuotes t = quoteRun.replaceAll t := by
  have pieces := replaceFrom_joinLines none (.inl rfl) fun line member =>
    Text.not_mem_of_mem_splitOn (t := t) member
  rw [Text.joinLines_splitOn] at pieces
  exact pieces.symm

/-- Taking the markers of a whole text is taking those of every line, and of every line as many as
are counted: the longest run in front, and nothing else. -/
theorem stripQuotes_agrees (lines : List Text) (unbroken : ∀ line ∈ lines, '\n' ∉ line) :
    stripQuotes (joinLines lines) = joinLines (lines.map Marker.strip) ∧
      quoteRun.replaceAll (joinLines lines) = joinLines (lines.map Marker.strip) ∧
      ∀ line ∈ lines, Marker.IsStripped line := by
  have replaced := replaceFrom_joinLines none (.inl rfl) unbroken
  refine ⟨?_, replaced, fun line _ => Marker.isStripped line⟩
  rw [stripQuotes_eq_replaceAll]
  exact replaced

/-- Lines with markers in front, behind and alone, a line of gaps and an empty line. -/
def quotedLines : List Text :=
  ["\t> >>\tsea > hill", " \t", ">> >", "", "sea > hill", " >\r> sea"].map Text.of

theorem stripQuotes_agrees_quoted :
    (∀ line ∈ quotedLines, '\n' ∉ line) ∧
      stripQuotes (joinLines quotedLines) = joinLines (quotedLines.map Marker.strip) ∧
      quotedLines.map Marker.strip =
        ["sea > hill", " \t", "", "", "sea > hill", "\r> sea"].map Text.of ∧
      ∀ line ∈ quotedLines, Marker.IsStripped line := by
  have unbroken : ∀ line ∈ quotedLines, '\n' ∉ line := by decide +kernel
  obtain ⟨agree, _, stripped⟩ := stripQuotes_agrees quotedLines unbroken
  exact ⟨unbroken, agree, by decide +kernel, stripped⟩

end Narrative
end DreamJournal
