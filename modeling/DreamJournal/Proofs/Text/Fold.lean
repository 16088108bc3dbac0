import DreamJournal.Proofs.Text.Lower

/-!
# Folding leaves words apart

Folding puts one or more characters in the place of one. White space stays what it is, and what is
no white space becomes none, so the words of a folded text are its words folded. Therefore it does
not matter whether the white space of a name is tidied before its case is forgotten or after that.

Outside the first 128 characters this is a fact about the case tables, which are checked by their
runs.
-/
namespace DreamJournal.Text

variable {c : Char} {a b t : Text} {m n : Nat} {run : CaseRun}

/-! ## White space in the case tables -/

/-- The code points of white space. -/
def blankRanges : List CodeRange :=
  [⟨0x09, 0x0D⟩, ⟨0x1C, 0x20⟩, ⟨0x85, 0x85⟩, ⟨0xA0, 0xA0⟩, ⟨0x1680, 0x1680⟩, ⟨0x2000, 0x200A⟩,
    ⟨0x2028, 0x2029⟩, ⟨0x202F, 0x202F⟩, ⟨0x205F, 0x205F⟩, ⟨0x3000, 0x3000⟩]

theorem isBlank_eq (c : Char) : isBlank c = CodeRange.anyContains blankRanges c.toNat := by
  rw [Bool.eq_iff_iff]
  simp only [isBlank, CodeRange.anyContains, blankRanges, CodeRange.contains, List.any_cons,
    List.any_nil, Bool.or_eq_true, Bool.and_eq_true, decide_eq_true_eq, beq_iff_eq,
    Bool.false_eq_true, or_false]
  omega

namespace CaseRun

/-- Whether a run neither moves white space nor moves a letter to it. -/
def sparesBlanks (run : CaseRun) : Bool :=
  (run.up || Nat.ble run.distance run.range.first) &&
    blankRanges.all fun range => areApart run.range range && areApart run.image range

theorem sparesBlanks_iff : run.sparesBlanks = true ↔
    (run.up = true ∨ run.distance ≤ run.range.first) ∧
      ∀ range ∈ blankRanges, areApart run.range range = true ∧ areApart run.image range = true := by
  simp [sparesBlanks]

/-- A run that spares white space does not move it. -/
theorem send?_of_blank (spares : run.sparesBlanks = true)
    (blank : CodeRange.anyContains blankRanges n = true) : run.send? n = none := by
  obtain ⟨range, listed, inside⟩ := List.any_eq_true.mp blank
  have ends := areApart_iff.mp ((sparesBlanks_iff.mp spares).2 range listed).1
  refine if_neg fun covers => ?_
  simp only [CodeRange.contains, Bool.and_eq_true, decide_eq_true_eq] at covers inside
  omega

/-- A run that spares white space moves nothing there. -/
theorem not_blank_of_send? (spares : run.sparesBlanks = true) (sent : run.send? n = some m) :
    CodeRange.anyContains blankRanges m = false := by
  obtain ⟨low, apart⟩ := sparesBlanks_iff.mp spares
  obtain ⟨lower, upper, _⟩ := mem_image sent low
  refine List.any_eq_false.mpr fun range listed inside => ?_
  have ends := areApart_iff.mp (apart range listed).2
  simp only [CodeRange.contains, Bool.and_eq_true, decide_eq_true_eq] at inside
  omega

theorem lowerRuns_spareBlanks : lowerRuns.all sparesBlanks = true := by
  simp only [lowerRuns, readAll, List.flatMap_cons, List.flatMap_nil, of]
  repeat rw [String.toList_ofList]
  decide +kernel

theorem foldRuns_spareBlanks : foldRuns.all sparesBlanks = true := by
  simp only [foldRuns, readAll, List.flatMap_cons, List.flatMap_nil, of]
  repeat rw [String.toList_ofList]
  decide +kernel

end CaseRun

/-- Whether an expansion puts some characters in the place of one, none of them white space. -/
def Expansion.sparesBlanks (e : Expansion) : Bool :=
  !CodeRange.anyContains blankRanges e.source && !e.target.isEmpty &&
    e.target.all fun c => !isBlank c

theorem foldExpansions_spareBlanks : foldExpansions.all Expansion.sparesBlanks = true := by
  simp only [foldExpansions, Expansion.readAll, List.flatMap_cons, List.flatMap_nil, of]
  repeat rw [String.toList_ofList]
  decide +kernel

/-! ## Characters -/

theorem foldChar_plain (plain : c.toNat < 0x80) : foldChar c = [lowerChar c] := by
  rw [lowerChar_plain plain]
  exact if_pos plain

theorem lowerChar_of_blank (blank : isBlank c = true) : lowerChar c = c := by
  rw [isBlank_eq] at blank
  by_cases plain : c.toNat < 0x80
  · rw [lowerChar_plain plain]
    rcases toLower_cases c with ⟨capital, _⟩ | ⟨_, same⟩
    · simp only [CodeRange.anyContains, blankRanges, CodeRange.contains, List.any_cons,
        List.any_nil, Bool.or_eq_true, Bool.and_eq_true, decide_eq_true_eq, Bool.false_eq_true,
        or_false] at blank
      omega
    · exact same
  · have noDot : c.toNat ≠ 0x130 := by
      intro dotted
      rw [dotted] at blank
      exact absurd blank (by decide)
    rw [lowerChar, if_neg plain, if_neg noDot, CaseRun.sendFirst_eq_self, Char.ofNat_toNat]
    intro run listed
    exact CaseRun.send?_of_blank (List.all_eq_true.mp CaseRun.lowerRuns_spareBlanks run listed)
      blank

/-- White space has no case. -/
theorem foldChar_of_blank (blank : isBlank c = true) : foldChar c = [c] := by
  by_cases plain : c.toNat < 0x80
  · rw [foldChar_plain plain, lowerChar_of_blank blank]
  · have coded := isBlank_eq c ▸ blank
    have noExpansion : Expansion.find? foldExpansions c.toNat = none := by
      rw [Expansion.find?, Option.map_eq_none_iff, List.find?_eq_none]
      intro e listed same
      have spares := List.all_eq_true.mp foldExpansions_spareBlanks e listed
      rw [beq_iff_eq] at same
      simp [Expansion.sparesBlanks, same, coded] at spares
    have noRun : (foldRuns.findSome? fun run => run.send? c.toNat) = none := by
      rw [List.findSome?_eq_none_iff]
      intro run listed
      exact CaseRun.send?_of_blank (List.all_eq_true.mp CaseRun.foldRuns_spareBlanks run listed)
        coded
    rw [foldChar, if_neg plain, noExpansion, noRun, lowerChar_of_blank blank]

/-- What is no white space becomes some characters that are none. -/
theorem isWord_foldChar (inked : isBlank c = false) : IsWord (foldChar c) := by
  have small : IsWord [lowerChar c] :=
    ⟨List.cons_ne_nil _ _, List.forall_mem_singleton.mpr (isBlank_lowerChar inked)⟩
  by_cases plain : c.toNat < 0x80
  · rwa [foldChar_plain plain]
  · rw [foldChar, if_neg plain]
    cases expanded : Expansion.find? foldExpansions c.toNat with
    | some folded =>
      obtain ⟨e, found, rfl⟩ := Option.map_eq_some_iff.mp expanded
      have spares := List.all_eq_true.mp foldExpansions_spareBlanks e
        (List.mem_of_find?_eq_some found)
      simp only [Expansion.sparesBlanks, Bool.and_eq_true, Bool.not_eq_true',
        List.isEmpty_eq_false_iff, List.all_eq_true] at spares
      exact ⟨spares.1.2, spares.2⟩
    | none =>
      cases moved : foldRuns.findSome? fun run => run.send? c.toNat with
      | none => exact small
      | some m =>
        obtain ⟨run, listed, sent⟩ := List.exists_of_findSome?_eq_some moved
        have away := CaseRun.not_blank_of_send?
          (List.all_eq_true.mp CaseRun.foldRuns_spareBlanks run listed) sent
        refine ⟨List.cons_ne_nil _ _, List.forall_mem_singleton.mpr ?_⟩
        -- a number that is no character stands for the first one, which is no white space either
        by_cases valid : m.isValidChar
        · rw [isBlank_eq, Char.ofNat, dif_pos valid]
          exact away
        · rw [Char.ofNat, dif_neg valid]
          rfl

/-! ## Texts -/

theorem fold_append (front back : Text) : fold (front ++ back) = fold front ++ fold back :=
  List.flatMap_append

theorem isWord_fold (isWord : IsWord t) : IsWord (fold t) := by
  obtain ⟨nonempty, unbroken⟩ := isWord
  constructor
  · obtain ⟨c, rest, rfl⟩ := List.exists_cons_of_ne_nil nonempty
    have here := isWord_foldChar (unbroken c List.mem_cons_self)
    exact List.append_ne_nil_of_left_ne_nil here.nonempty _
  · intro c member
    obtain ⟨d, listed, inside⟩ := List.mem_flatMap.mp member
    exact (isWord_foldChar (unbroken d listed)).unbroken c inside

theorem edge_fold (edge : Edge t) : Edge (fold t) := by
  cases t with
  | nil => exact edge
  | cons c rest =>
    have blank : isBlank c = true := edge c rfl
    intro d first
    rw [fold, List.flatMap_cons, foldChar_of_blank blank] at first
    exact Option.some.inj first ▸ blank

/-- The words of a folded text are its words folded. -/
theorem words_fold (t : Text) : words (fold t) = (words t).map fold := by
  induction t using words_induction with
  | nil => rfl
  | blank c rest isSpace ih =>
    rw [fold, List.flatMap_cons, foldChar_of_blank isSpace, List.singleton_append,
      words_blank isSpace, words_blank isSpace]
    exact ih
  | word word rest isWord edge ih =>
    rw [fold_append, words_word (isWord_fold isWord) (edge_fold edge), words_word isWord edge, ih,
      List.map_cons]

theorem fold_joinWords (ws : List Text) : fold (joinWords ws) = joinWords (ws.map fold) := by
  induction ws with
  | nil => rfl
  | cons first rest ih =>
    cases rest with
    | nil => rw [joinWords, join_singleton, List.map_singleton, joinWords, join_singleton]
    | cons second rest =>
      have space : fold [' '] = [' '] := rfl
      rw [joinWords, join_cons_cons, fold_append, fold_append, space, List.map_cons, List.map_cons,
        joinWords, join_cons_cons]
      rw [joinWords, List.map_cons, joinWords] at ih
      rw [ih]

/-- White space is tidied before folding or after it. -/
theorem fold_oneSpaced (t : Text) : fold (oneSpaced t) = oneSpaced (fold t) := by
  rw [oneSpaced, fold_joinWords, oneSpaced, words_fold]

/-- Texts with their white space tidied are the same when their words are. -/
theorem oneSpaced_eq_iff : oneSpaced a = oneSpaced b ↔ words a = words b := by
  constructor
  · intro same
    rw [← words_oneSpaced a, same, words_oneSpaced]
  · intro same
    rw [oneSpaced, same, oneSpaced]

end DreamJournal.Text
