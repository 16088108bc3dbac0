import DreamJournal.Callout.Reference
import DreamJournal.Proofs.Text.Letters
import DreamJournal.Proofs.Text.Splitting

/-!
# Texts that end in a reference

What it is for a text to end in a reference is said from its start to its end: something in front
of a caret, a name behind it, and white space to the end. The search runs from the end instead, and
finds what the text ends in, as no character of a name is white space.
-/
namespace DreamJournal.Reference

variable {isSpace isOther : Char → Bool} {t front name behind before : Text}

/-- A letter or digit, and letters, digits and hyphens behind it. -/
structure IsName (name : Text) : Prop where
  starts : ∃ c ∈ name.head?, c.isAlphanum = true
  parts : ∀ c ∈ name, isNamePart c = true

/-- A text that ends in a reference: what stands in front of the caret, where it is empty or ends in
white space, the name, and the white space behind it. -/
structure EndsIn (isSpace : Char → Bool) (t front name behind : Text) : Prop where
  whole : t = front ++ '^' :: (name ++ behind)
  isName : IsName name
  exposed : ∀ c ∈ front.getLast?, isSpace c = true
  blank : ∀ c ∈ behind, isSpace c = true

/-- Next to a reference at the end of a text there are spaces and tabs, and no other white space. -/
def IsSpaced (t : Text) : Prop :=
  ∀ front name behind, EndsIn Text.isBlank t front name behind →
    (∀ c ∈ front.getLast?, Text.isGap c = true) ∧ ∀ c ∈ behind, Text.isGap c = true

theorem isNamePart_inked {c : Char} (part : isNamePart c = true) : Text.isBlank c = false := by
  rcases Bool.or_eq_true_iff.mp part with letter | hyphen
  · exact Text.isBlank_of_isAlphanum letter
  · rw [beq_iff_eq.mp hyphen]
    rfl

/-- With less white space, fewer texts end in a reference. -/
theorem EndsIn.mono (given : EndsIn isSpace t front name behind)
    (less : ∀ c, isSpace c = true → isOther c = true) : EndsIn isOther t front name behind :=
  ⟨given.whole, given.isName, fun c last => less c (given.exposed c last),
    fun c member => less c (given.blank c member)⟩

/-- Where all white space is spaces and tabs, it is so next to a reference. -/
theorem isSpaced_of_gaps (gaps : ∀ c ∈ t, Text.isBlank c = true → Text.isGap c = true) :
    IsSpaced t := by
  rintro front name behind ⟨rfl, _, exposed, blank⟩
  constructor
  · intro c last
    exact gaps c (List.mem_append_left _ (List.mem_of_getLast? last)) (exposed c last)
  · intro c member
    have inside : c ∈ name ++ behind := List.mem_append_right _ member
    exact gaps c (List.mem_append_right _ (List.mem_cons_of_mem _ inside)) (blank c member)

/-! ## The search from the end -/

/-- What the search finds is there. -/
theorem endsIn_of_split? (returned : split? isSpace t = some (before, name)) :
    ∃ front behind, EndsIn isSpace t front name behind ∧
      before = Text.trimEnd isSpace front := by
  unfold split? at returned
  have spaces := List.takeWhile_append_dropWhile (p := isSpace) (l := t.reverse)
  generalize t.reverse.dropWhile isSpace = back at returned spaces
  have named := List.takeWhile_append_dropWhile (p := isNamePart) (l := back)
  dsimp only at returned
  split at returned
  next first more front written caret =>
    obtain ⟨checked, finding⟩ := Option.ite_none_right_eq_some.mp returned
    obtain ⟨rfl, rfl⟩ := Prod.mk.inj (Option.some.inj finding)
    rw [Bool.and_eq_true] at checked
    have turned : t.reverse =
        t.reverse.takeWhile isSpace ++ (back.takeWhile isNamePart ++ '^' :: front) := by
      rw [← caret, named, spaces]
    refine ⟨front.reverse, (t.reverse.takeWhile isSpace).reverse, ?_, ?_⟩
    · constructor
      case whole =>
        -- the search runs from the end, so what it passed over is put together in reverse
        have whole := congrArg List.reverse turned
        simpa only [List.reverse_reverse, List.reverse_append, List.reverse_cons,
          List.append_assoc, List.singleton_append, List.cons_append, List.nil_append] using whole
      case isName =>
        refine ⟨⟨first, by rw [written]; rfl, checked.1⟩, fun c member => ?_⟩
        exact List.mem_takeWhile_imp (List.mem_reverse.mp member)
      case exposed =>
        intro c last
        rw [List.getLast?_reverse] at last
        cases front with
        | nil => cases last
        | cons d rest => exact Option.some.inj last ▸ checked.2
      case blank => exact fun c member => List.mem_takeWhile_imp (List.mem_reverse.mp member)
    · rw [Text.trimEnd, List.reverse_reverse]
  next => cases returned

/-- What is there is found: the name holds no white space, and no caret either. -/
theorem EndsIn.split?_eq (given : EndsIn isSpace t front name behind)
    (apart : ∀ c, isNamePart c = true → isSpace c = false) :
    split? isSpace t = some (Text.trimEnd isSpace front, name) := by
  obtain ⟨rfl, ⟨⟨first, starts, letter⟩, parts⟩, exposed, blank⟩ := given
  obtain ⟨more, rfl⟩ : ∃ more, name = first :: more := by
    cases name with
    | nil => cases starts
    | cons c more => exact ⟨more, by rw [Option.some.inj starts]⟩
  have turned : (front ++ '^' :: (first :: more ++ behind)).reverse =
      behind.reverse ++ ((first :: more).reverse ++ '^' :: front.reverse) := by simp
  have back : (front ++ '^' :: (first :: more ++ behind)).reverse.dropWhile isSpace =
      (first :: more).reverse ++ '^' :: front.reverse := by
    rw [turned]
    apply Text.dropWhile_run
    · exact fun c member => blank c (List.mem_reverse.mp member)
    · intro c head
      rw [List.head?_append_of_ne_nil _ (by simp), List.head?_reverse] at head
      exact apart c (parts c (List.mem_of_getLast? head))
  have isPart : ∀ c ∈ (first :: more).reverse, isNamePart c = true :=
    fun c member => parts c (List.mem_reverse.mp member)
  have caret : ∀ c ∈ ('^' :: front.reverse).head?, isNamePart c = false := by
    rintro _ ⟨⟩
    rfl
  unfold split?
  rw [back]
  dsimp only
  rw [Text.takeWhile_run isPart caret, Text.dropWhile_run isPart caret, List.reverse_reverse]
  refine (if_pos ?_).trans rfl
  cases ends : front.reverse with
  | nil => simp [letter]
  | cons c rest =>
    have last : c ∈ front.getLast? := by
      rw [← List.reverse_reverse front, List.getLast?_reverse, ends]
      rfl
    simp [letter, exposed c last]

theorem split?_isSome_iff (apart : ∀ c, isNamePart c = true → isSpace c = false) :
    (split? isSpace t).isSome = true ↔ ∃ front name behind, EndsIn isSpace t front name behind := by
  rw [Option.isSome_iff_exists]
  constructor
  · rintro ⟨⟨before, name⟩, returned⟩
    obtain ⟨front, behind, given, _⟩ := endsIn_of_split? returned
    exact ⟨front, name, behind, given⟩
  · rintro ⟨front, name, behind, given⟩
    exact ⟨_, given.split?_eq apart⟩

theorem name?_isSome_iff :
    (name? t).isSome = true ↔ ∃ front name behind, EndsIn Text.isBlank t front name behind := by
  rw [name?, Option.isSome_map, split?_isSome_iff fun _ => isNamePart_inked]

theorem EndsIn.name?_eq (given : EndsIn Text.isBlank t front name behind) :
    name? t = some name := by
  rw [name?, given.split?_eq fun _ => isNamePart_inked]
  rfl

end DreamJournal.Reference
