import DreamJournal.Proofs.Text.Fold
import DreamJournal.Proofs.Text.Letters
import DreamJournal.Text.Classes

/-!
# Classes that keep apart

What reads a date looks for white space, for decimal digits and for letters, one class behind the
other. No character is of two of these classes, whatever script it is from, so where one run ends
is never a question of which class is asked for first. Up to 0x7F this can be told from the codes,
and from there on it is a fact about the tables, which are compared range by range.
-/
namespace DreamJournal.Text

open CaseRun (areApart)

variable {c w : Char} {n : Nat} {ranges others : List CodeRange}

/-! ## Ranges -/

/-- Whether no range of one table meets a range of the other. -/
def areDisjoint (ranges others : List CodeRange) : Bool :=
  ranges.all fun range => others.all (areApart range)

theorem not_anyContains (disjoint : areDisjoint ranges others = true)
    (inside : CodeRange.anyContains ranges n = true) : CodeRange.anyContains others n = false := by
  obtain ⟨range, listed, here⟩ := List.any_eq_true.mp inside
  refine List.any_eq_false.mpr fun other among there => ?_
  have ends := CaseRun.areApart_iff.mp
    (List.all_eq_true.mp (List.all_eq_true.mp disjoint range listed) other among)
  simp only [CodeRange.contains, Bool.and_eq_true, decide_eq_true_eq] at here there
  omega

/-- The code points of the letters that a search without regard to case takes for A to Z. -/
def latinRanges : List CodeRange :=
  [⟨0x41, 0x5A⟩, ⟨0x61, 0x7A⟩, ⟨0x130, 0x131⟩, ⟨0x17F, 0x17F⟩, ⟨0x212A, 0x212A⟩]

theorem decimalZeros_apart :
    areDisjoint decimalZeros (blankRanges ++ latinRanges) = true := by
  simp only [decimalZeros, CodeRange.readAll, List.flatMap_cons, List.flatMap_nil, of]
  repeat rw [String.toList_ofList]
  decide +kernel

theorem letterRanges_apart : areDisjoint letterRanges blankRanges = true := by
  simp only [letterRanges, CodeRange.readAll, List.flatMap_cons, List.flatMap_nil, of]
  repeat rw [String.toList_ofList]
  decide +kernel

/-! ## Characters -/

theorem anyContains_of_isDecimal (decimal : isDecimal c = true) :
    CodeRange.anyContains decimalZeros c.toNat = true := by
  unfold isDecimal decimalValue? at decimal
  split at decimal
  next =>
    -- the first range of the table are the plain digits
    have digit : c.isDigit = true := by
      by_contra other
      rw [if_neg other] at decimal
      cases decimal
    have code := code_of_isDigit digit
    have plain : (⟨0x30, 0x39⟩ : CodeRange) ∈ decimalZeros := by
      simp only [decimalZeros, CodeRange.readAll, List.flatMap_cons, of]
      rw [String.toList_ofList]
      exact List.mem_append_left _ List.mem_cons_self
    exact List.any_eq_true.mpr ⟨_, plain, by simp [CodeRange.contains, code]⟩
  next =>
    rw [Option.isSome_map, CodeRange.find?, List.find?_isSome] at decimal
    exact List.any_eq_true.mpr decimal

theorem isLatinLetter_eq (c : Char) :
    isLatinLetter c = CodeRange.anyContains latinRanges c.toNat := by
  rw [Bool.eq_iff_iff]
  simp only [isLatinLetter, Bool.or_eq_true, beq_iff_eq, isAlpha_iff_code, CodeRange.anyContains,
    latinRanges, CodeRange.contains, List.any_cons, List.any_nil, Bool.and_eq_true,
    decide_eq_true_eq, Bool.false_eq_true, or_false]
  omega

/-- Decimal digits are neither white space nor letters. -/
theorem isBlank_of_isDecimal (decimal : isDecimal c = true) :
    isBlank c = false ∧ isLatinLetter c = false := by
  have apart := not_anyContains decimalZeros_apart (anyContains_of_isDecimal decimal)
  rw [CodeRange.anyContains, List.any_append, Bool.or_eq_false_iff] at apart
  constructor
  · rw [isBlank_eq]
    exact apart.1
  · rw [isLatinLetter_eq]
    exact apart.2

theorem wideLatin_areLetters :
    [0x130, 0x131, 0x17F, 0x212A].all (CodeRange.anyContains letterRanges) = true := by
  simp only [letterRanges, CodeRange.readAll, List.flatMap_cons, List.flatMap_nil, of]
  repeat rw [String.toList_ofList]
  decide +kernel

theorem isWordChar_of_isLatinLetter (letter : isLatinLetter c = true) : isWordChar c = true := by
  rw [isLatinLetter, Bool.or_assoc, Bool.or_assoc, Bool.or_assoc, Bool.or_eq_true] at letter
  rcases letter with plain | wide
  · exact isWordChar_of_isAlphanum (isAlphanum_of_isAlpha plain)
  · simp only [Bool.or_eq_true, beq_iff_eq] at wide
    have listed : c.toNat ∈ [0x130, 0x131, 0x17F, 0x212A] := by simpa using wide
    have high : ¬c.toNat < 0x80 := by omega
    rw [isWordChar, isLetterOrNumber, if_neg high,
      List.all_eq_true.mp wideLatin_areLetters _ listed, Bool.or_true]

/-- White space stands in no word. -/
theorem isWordChar_of_isBlank (blank : isBlank c = true) : isWordChar c = false := by
  have noLine : c ≠ '_' := by
    rintro rfl
    exact absurd blank (by decide)
  have noLetter : isLetterOrNumber c = false := by
    unfold isLetterOrNumber
    split
    next =>
      by_contra given
      rw [isBlank_of_isAlphanum (Bool.of_not_eq_false given)] at blank
      cases blank
    next =>
      by_contra given
      have apart := not_anyContains letterRanges_apart (Bool.of_not_eq_false given)
      rw [← isBlank_eq, blank] at apart
      cases apart
  simp [isWordChar, noLine, noLetter]

theorem isLatinLetter_of_isBlank (blank : isBlank c = true) : isLatinLetter c = false := by
  by_contra letter
  have word := isWordChar_of_isLatinLetter (Bool.of_not_eq_false letter)
  rw [isWordChar_of_isBlank blank] at word
  cases word

theorem isDecimal_of_isBlank (blank : isBlank c = true) : isDecimal c = false := by
  by_contra decimal
  rw [(isBlank_of_isDecimal (Bool.of_not_eq_false decimal)).1] at blank
  cases blank

theorem isDecimal_of_isLatinLetter (letter : isLatinLetter c = true) : isDecimal c = false := by
  by_contra decimal
  rw [(isBlank_of_isDecimal (Bool.of_not_eq_false decimal)).2] at letter
  cases letter

theorem isLatinLetter_of_isAlpha (letter : c.isAlpha = true) : isLatinLetter c = true := by
  simp [isLatinLetter, letter]

/-! ## Letters in any case -/

/-- The code points of the lower case forms of those letters. -/
def smallLatinRanges : List CodeRange := [⟨0x61, 0x7A⟩, ⟨0x131, 0x131⟩, ⟨0x17F, 0x17F⟩]

theorem isLatinLetter_of_small (small : CodeRange.anyContains smallLatinRanges c.toNat = true) :
    isLatinLetter c = true := by
  rw [isLatinLetter_eq]
  simp only [CodeRange.anyContains, smallLatinRanges, latinRanges, CodeRange.contains,
    List.any_cons, List.any_nil, Bool.or_eq_true, Bool.and_eq_true, decide_eq_true_eq,
    Bool.false_eq_true, or_false] at small ⊢
  omega

/-- Whether a run sends nothing to these letters; the Kelvin sign alone goes to one of them. -/
def sparesLatin (run : CaseRun) : Bool :=
  (run.range.first == 0x212A && run.range.last == 0x212A) ||
    smallLatinRanges.all (areApart run.image)

theorem lowerRuns_spareLatin : lowerRuns.all sparesLatin = true := by
  simp only [lowerRuns, CaseRun.readAll, List.flatMap_cons, List.flatMap_nil, of]
  repeat rw [String.toList_ofList]
  decide +kernel

/-- Whether what shares a capital with one of these letters is one of them. -/
def Expansion.staysLatin (e : Expansion) : Bool :=
  !CodeRange.anyContains smallLatinRanges e.source ||
    e.target.all fun c => CodeRange.anyContains smallLatinRanges c.toNat

theorem sharedCapitals_stayLatin : sharedCapitals.all Expansion.staysLatin = true := by
  simp only [sharedCapitals, Expansion.readAll, List.flatMap_cons, List.flatMap_nil, of]
  repeat rw [String.toList_ofList]
  decide +kernel

/-- A run that moves a letter to one of these moves the Kelvin sign. -/
theorem eq_kelvin_of_send? {run : CaseRun} {m : Nat} (listed : run ∈ lowerRuns)
    (sent : run.send? n = some m)
    (small : CodeRange.anyContains smallLatinRanges m = true) : n = 0x212A := by
  have settled := CaseRun.isSettled_of_mem listed
  simp only [CaseRun.isSettled, Bool.and_eq_true, Bool.or_eq_true, Nat.ble_eq] at settled
  have spares := List.all_eq_true.mp lowerRuns_spareLatin run listed
  rw [sparesLatin, Bool.or_eq_true, Bool.and_eq_true, beq_iff_eq, beq_iff_eq] at spares
  rcases spares with kelvin | apart
  · obtain ⟨covers, _⟩ := Option.ite_none_right_eq_some.mp sent
    simp only [CodeRange.contains, Bool.and_eq_true, decide_eq_true_eq] at covers
    omega
  · obtain ⟨lower, upper, _⟩ := CaseRun.mem_image sent settled.1.1.1.1
    obtain ⟨range, among, here⟩ := List.any_eq_true.mp small
    have ends := CaseRun.areApart_iff.mp (List.all_eq_true.mp apart range among)
    simp only [CodeRange.contains, Bool.and_eq_true, decide_eq_true_eq] at here
    omega

theorem isLatinLetter_of_lowerChar
    (small : CodeRange.anyContains smallLatinRanges (lowerChar c).toNat = true) :
    isLatinLetter c = true := by
  by_cases plain : c.toNat < 0x80
  · rw [lowerChar_plain plain] at small
    rcases toLower_cases c with ⟨capital, _⟩ | ⟨_, same⟩
    · rw [isLatinLetter, isAlpha_iff_code.mpr (.inl capital)]
      rfl
    · exact isLatinLetter_of_small (same ▸ small)
  · by_cases dotted : c.toNat = 0x130
    · simp [isLatinLetter, dotted]
    · rw [lowerChar, if_neg plain, if_neg dotted, CaseRun.sendFirst] at small
      cases found : lowerRuns.findSome? fun run => run.send? c.toNat with
      | none =>
        rw [found, Option.getD_none, Char.ofNat_toNat] at small
        exact isLatinLetter_of_small small
      | some m =>
        rw [found, Option.getD_some] at small
        obtain ⟨run, listed, sent⟩ := List.exists_of_findSome?_eq_some found
        by_cases valid : m.isValidChar
        · rw [Char.ofNat, dif_pos valid] at small
          simp [isLatinLetter, eq_kelvin_of_send? listed sent small]
        · rw [Char.ofNat, dif_neg valid] at small
          exact absurd small (by decide)

/-- A search without regard to case finds nothing but such letters where it looks for one. -/
theorem isLatinLetter_of_sameLetter (letter : w.isAlpha = true) (same : sameLetter w c = true) :
    isLatinLetter c = true := by
  have wanted : CodeRange.anyContains smallLatinRanges (lowerChar w).toNat = true := by
    have code := code_of_isAlpha letter
    rw [lowerChar_plain (by omega)]
    refine List.any_eq_true.mpr ⟨⟨0x61, 0x7A⟩, List.mem_cons_self, ?_⟩
    simp only [CodeRange.contains, Bool.and_eq_true, decide_eq_true_eq]
    rcases toLower_cases w with ⟨capital, moved⟩ | ⟨noCapital, same⟩
    · omega
    · rw [same]
      omega
  apply isLatinLetter_of_lowerChar
  rw [sameLetter, Bool.or_eq_true] at same
  rcases same with same | shared
  · rw [beq_iff_eq.mp same]
    exact wanted
  · split at shared
    next partners found =>
      obtain ⟨e, listed, rfl⟩ := Option.map_eq_some_iff.mp found
      have source := List.find?_some listed
      rw [beq_iff_eq] at source
      have stays := List.all_eq_true.mp sharedCapitals_stayLatin e
        (List.mem_of_find?_eq_some listed)
      rw [Expansion.staysLatin, source, wanted, Bool.not_true, Bool.false_or,
        List.all_eq_true] at stays
      exact stays _ (List.contains_iff_mem.mp shared)
    next => cases shared

/-- What such a search passes over are as many such letters as it looks for. -/
theorem exists_of_afterAnyCase? {start t rest : Text} (letters : ∀ w ∈ start, w.isAlpha = true)
    (found : afterAnyCase? start t = some rest) :
    ∃ word, t = word ++ rest ∧ word.length = start.length ∧
      ∀ c ∈ word, isLatinLetter c = true := by
  fun_induction afterAnyCase? start t with
  | case1 t => exact ⟨[], by simpa using found, rfl, List.forall_mem_nil _⟩
  | case2 => cases found
  | case3 s start c t same ih =>
    obtain ⟨here, later⟩ := List.forall_mem_cons.mp letters
    obtain ⟨word, rfl, long, latin⟩ := ih later found
    refine ⟨c :: word, rfl, by rw [List.length_cons, List.length_cons, long], ?_⟩
    exact List.forall_mem_cons.mpr ⟨isLatinLetter_of_sameLetter here same, latin⟩
  | case4 => cases found

end DreamJournal.Text
