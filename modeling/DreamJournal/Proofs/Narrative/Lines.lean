import DreamJournal.Narrative.Clean
import DreamJournal.Proofs.Callout.Marker
import DreamJournal.Proofs.Callout.Reference
import DreamJournal.Proofs.Narrative.Trimming

/-!
# What the line rules leave alone

Every line rule trims: what it takes from a line holds a quote marker, a caret, a hash, a fence or
a rule, and is never white space alone. So a line passes all of them unchanged exactly when none
of them finds its mark.
-/
namespace DreamJournal.Narrative

open Text (isBlank isGap content splitOn joinLines)
open scoped List

variable {kind line t : Text} {cond : Text → Bool} {rule : Text → Text}
  {found : Text → Prop}

/-- Empty the lines of a kind. -/
def emptyIf (cond : Text → Bool) (line : Text) : Text := if cond line then [] else line

/-- The rules on single lines, in the order in which they are applied. -/
def lineStages : List (Text → Text) :=
  [emptyIf isDirective, Reference.removeFromLine, Marker.strip, emptyIf isFence, stripHeading,
    emptyIf isRule]

theorem emptyIf_eq (cond : Text → Bool) :
    emptyIf cond = fun line => if cond line then [] else line := rfl

theorem lineRules_eq (t : Text) : lineRules t = applyEach (lineStages.map mapLines) t := by
  simp only [lineRules, removeRules, stripBlockMarkup, stripQuotes, removeDirectives,
    Reference.remove, applyEach, lineStages, List.map_cons, List.map_nil, List.foldl_cons,
    List.foldl_nil, mapLines, emptyIf_eq]

/-- Some text was taken out of another, and not white space alone. -/
def TakenFrom (short t : Text) : Prop :=
  ∃ front middle back, t = front ++ middle ++ back ∧ short = front ++ back ∧
    ∃ c ∈ middle, isBlank c = false

theorem TakenFrom.nil {c : Char} (member : c ∈ t) (inked : isBlank c = false) : TakenFrom [] t :=
  ⟨[], t, [], by simp, rfl, c, member, inked⟩

theorem TakenFrom.front {c : Char} {front back : Text} (member : c ∈ front)
    (inked : isBlank c = false) : TakenFrom back (front ++ back) :=
  ⟨[], front, back, rfl, rfl, c, member, inked⟩

theorem TakenFrom.back {c : Char} {front back : Text} (member : c ∈ back)
    (inked : isBlank c = false) : TakenFrom front (front ++ back) :=
  ⟨front, back, [], by simp, by simp, c, member, inked⟩

theorem TakenFrom.kept {short : Text} (taken : TakenFrom short t) : short <+ t := by
  obtain ⟨front, middle, back, rfl, rfl, _⟩ := taken
  exact (List.sublist_append_left front middle).append (List.Sublist.refl back)

theorem TakenFrom.inked {short : Text} (taken : TakenFrom short t) :
    (content short).length < (content t).length := by
  obtain ⟨front, middle, back, rfl, rfl, c, member, inked⟩ := taken
  exact Text.content_length_lt front back inked member

/-- A rule takes something from the texts in which it finds its mark and leaves all others. -/
structure TakesWhere (found : Text → Prop) (rule : Text → Text) : Prop where
  taken : ∀ t, found t → TakenFrom (rule t) t
  left : ∀ t, ¬found t → rule t = t

theorem TakesWhere.trims (takes : TakesWhere found rule) : Trims rule := by
  constructor
  case kept =>
    intro t
    by_cases holds : found t
    · exact (takes.taken t holds).kept
    · rw [takes.left t holds]
  case inked =>
    intro t changed
    by_cases holds : found t
    · exact (takes.taken t holds).inked
    · exact absurd (takes.left t holds) changed

theorem TakesWhere.eq_self_iff (takes : TakesWhere found rule) (t : Text) :
    rule t = t ↔ ¬found t := by
  -- a text never has less content than itself
  refine ⟨fun same holds => ?_, takes.left t⟩
  have lost := (takes.taken t holds).inked
  rw [same] at lost
  exact absurd lost (Nat.lt_irrefl _)

/-! ## Lines that are emptied -/

/-- When every line of a kind shows something, emptying these lines takes something. -/
theorem emptyIf_takes (shows : ∀ line, cond line = true → ∃ c ∈ line, isBlank c = false) :
    TakesWhere (fun line => cond line = true) (emptyIf cond) := by
  constructor
  case taken =>
    intro line holds
    obtain ⟨c, member, inked⟩ := shows line holds
    rw [emptyIf, if_pos holds]
    exact TakenFrom.nil member inked
  case left => exact fun line fails => if_neg fails

theorem isDirective_marked (directive : isDirective line = true) : Marker.count line ≠ 0 := by
  rw [isDirective, Bool.and_eq_true] at directive
  simpa using directive.1

theorem isDirective_takes :
    TakesWhere (fun line => isDirective line = true) (emptyIf isDirective) :=
  emptyIf_takes fun _ directive =>
    ⟨'>', (List.takeWhile_sublist _).subset (Marker.mem_of_marked (isDirective_marked directive)), rfl⟩

theorem isFence_takes : TakesWhere (fun line => isFence line = true) (emptyIf isFence) := by
  refine emptyIf_takes fun line fence => ?_
  unfold isFence at fence
  split at fence
  next a b c rest starts =>
    have member : a ∈ line := (List.dropWhile_sublist isGap).subset (by simp [starts])
    simp only [Bool.and_eq_true, Bool.or_eq_true, beq_iff_eq] at fence
    refine ⟨a, member, ?_⟩
    rcases fence.2 with rfl | rfl <;> rfl
  next => exact absurd fence Bool.false_ne_true

theorem isRule_takes : TakesWhere (fun line => isRule line = true) (emptyIf isRule) := by
  refine emptyIf_takes fun line ruled => ?_
  unfold isRule at ruled
  split at ruled
  next c rest starts =>
    have member : c ∈ line := (Text.trimBoth_sublist isGap line).subset (by simp [starts])
    simp only [Bool.and_eq_true, Bool.or_eq_true, beq_iff_eq] at ruled
    refine ⟨c, member, ?_⟩
    rcases ruled.1.1 with (rfl | rfl) | rfl <;> rfl
  next => exact absurd ruled Bool.false_ne_true

/-! ## Lines that lose a part -/

theorem strip_takes : TakesWhere (fun line => Marker.count line ≠ 0) Marker.strip := by
  constructor
  case taken =>
    intro line given
    have cut : TakenFrom (line.dropWhile Marker.isPart)
        (line.takeWhile Marker.isPart ++ line.dropWhile Marker.isPart) :=
      TakenFrom.front (Marker.mem_of_marked given) rfl
    rw [List.takeWhile_append_dropWhile] at cut
    rwa [Marker.strip, if_neg given]
  case left => exact fun line none => if_pos (Decidable.not_not.mp none)

/-- A reference at the end of a text is cut off together with its caret. -/
theorem split?_covers {isSpace : Char → Bool} {before name : Text}
    (returned : Reference.split? isSpace t = some (before, name)) :
    ∃ behind, t = before ++ behind ∧ '^' ∈ behind := by
  obtain ⟨front, rest, ends, rfl⟩ := Reference.endsIn_of_split? returned
  refine ⟨(front.reverse.takeWhile isSpace).reverse ++ '^' :: (name ++ rest), ?_, by simp⟩
  rw [← List.append_assoc, Text.trimEnd_append, ends.whole]

theorem split?_eq_none {isSpace : Char → Bool} (absent : '^' ∉ t) :
    Reference.split? isSpace t = none := by
  cases returned : Reference.split? isSpace t with
  | none => rfl
  | some parts =>
    obtain ⟨behind, whole, caret⟩ := split?_covers returned
    exact absurd (whole ▸ List.mem_append_right _ caret) absent

theorem removeFromLine_takes :
    TakesWhere (fun line => Reference.split? isGap line ≠ none) Reference.removeFromLine := by
  constructor
  case taken =>
    intro line given
    obtain ⟨⟨before, name⟩, returned⟩ := Option.ne_none_iff_exists'.mp given
    obtain ⟨behind, rfl, member⟩ := split?_covers returned
    rw [Reference.removeFromLine, returned]
    exact TakenFrom.back member rfl
  case left =>
    intro line none
    rw [Reference.removeFromLine, Decidable.not_not.mp none]

theorem removeFromLine_eq_self (absent : '^' ∉ line) : Reference.removeFromLine line = line := by
  rw [Reference.removeFromLine, split?_eq_none absent]

/-- One to six hashes and a gap behind them, at the start of a line. -/
def isHeading (line : Text) : Bool :=
  let written := line.dropWhile isGap
  let hashes := (written.takeWhile (· == '#')).length
  1 ≤ hashes && hashes ≤ 6 && (written.drop hashes).head?.any isGap

theorem stripHeading_takes : TakesWhere (fun line => isHeading line = true) stripHeading := by
  constructor
  case taken =>
    intro line heading
    unfold isHeading at heading
    unfold stripHeading
    have indented := List.takeWhile_append_dropWhile (p := isGap) (l := line)
    generalize line.dropWhile isGap = written at heading indented ⊢
    have marked := Text.takeWhile_append_drop (· == '#') written
    dsimp only at heading ⊢
    generalize hashes : written.takeWhile (· == '#') = marks at heading marked ⊢
    rw [Bool.and_eq_true] at heading
    split
    next c rest starts =>
      have gaps := List.takeWhile_append_dropWhile (p := isGap) (l := rest)
      have isMark : (decide (1 ≤ marks.length) && decide (marks.length ≤ 6) && isGap c) = true := by
        simpa [starts] using heading
      rw [if_pos isMark]
      simp only [Bool.and_eq_true, decide_eq_true_eq] at isMark
      obtain ⟨mark, member⟩ := List.exists_mem_of_length_pos isMark.1.1
      rw [← hashes] at member
      have same := List.mem_takeWhile_imp member
      obtain rfl : mark = '#' := beq_iff_eq.mp same
      rw [hashes] at member
      have parts : line = (line.takeWhile isGap ++ (marks ++ c :: rest.takeWhile isGap)) ++
          rest.dropWhile isGap := by
        rw [List.append_assoc, List.append_assoc, List.cons_append, gaps, ← starts, marked,
          indented]
      -- the gaps, the hashes and the gap behind them go, and there is a hash among them
      conv_rhs => rw [parts]
      exact TakenFrom.front (List.mem_append_right _ (List.mem_append_left _ member)) rfl
    next none => simp [none] at heading
  case left =>
    intro line other
    unfold isHeading at other
    unfold stripHeading
    dsimp only at other ⊢
    split
    next c rest starts =>
      rw [starts] at other
      exact if_neg (by simpa using other)
    next => rfl

end DreamJournal.Narrative
