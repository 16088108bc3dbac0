import DreamJournal.Narrative.Title
import DreamJournal.Proofs.Callout.Reference
import DreamJournal.Proofs.Narrative.Lines
import DreamJournal.Proofs.Narrative.Paragraphs

/-!
# References and titles

A header that ends in a reference is referred to by its name, and the reference is no part of the
title. The search for a name takes white space of any kind next to the reference, the rule for
titles only spaces and tabs: where nothing else stands there, a header has a name exactly when its
title loses a reference, and then the title is that of what stands in front. One reference is taken
away and no more, so what stands in front is read as it is, even where it ends like a reference.
-/
namespace DreamJournal.Narrative

open Text (isBlank isGap isLineBreak trim trimEnd)
open Reference (EndsIn split? name?)

variable {t front name behind : Text}

/-- The title in a header without a reference. -/
def titleUnreferenced (header : Text) : Text :=
  let header := trim header
  let plain := stripInlineMarkup (stripBlockMarkup (beforeLink header))
  let leading := Text.trimBoth isTitleEdge (collapse .joined plain)
  if !leading.isEmpty then leading
  else
    match wikiLink.findAll header with
    | display :: _ => if display.isEmpty then untitled else display
    | [] => untitled

theorem title_eq (t : Text) : title t = titleUnreferenced (Reference.remove t) := rfl

theorem titleUnreferenced_trim (same : trim t = trim front) :
    titleUnreferenced t = titleUnreferenced front := by
  rw [titleUnreferenced, titleUnreferenced, same]

/-! ## What is taken away -/

theorem trim_trimEnd {drop : Char → Bool} (blank : ∀ c, drop c = true → isBlank c = true)
    (t : Text) : trim (trimEnd drop t) = trim t := by
  have parts := (Text.trimEnd_append drop t).symm
  conv_rhs => rw [parts]
  refine (Text.trim_append_blank (fun c member => ?_) _).symm
  exact blank c (List.mem_takeWhile_imp (List.mem_reverse.mp member))

theorem remove_unbroken (unbroken : '\n' ∉ t) :
    Reference.remove t = Reference.removeFromLine t := by
  rw [Reference.remove, Text.splitOn_of_not_mem unbroken]
  exact Text.join_singleton _

theorem remove_eq_self (unbroken : '\n' ∉ t) (none : split? isGap t = none) :
    Reference.remove t = t := by
  rw [remove_unbroken unbroken, Reference.removeFromLine, none]

theorem isNamePart_ungapped {c : Char} (part : Reference.isNamePart c = true) :
    isGap c = false := by
  by_contra gap
  have blank := isBlank_of_isGap (by simpa using gap)
  rw [Reference.isNamePart_inked part] at blank
  cases blank

/-- A title is that of what stands in front of the reference. -/
theorem title_endsIn (unbroken : '\n' ∉ t) (given : EndsIn isGap t front name behind) :
    title t = titleUnreferenced (trimEnd isBlank front) := by
  have found := given.split?_eq fun _ => isNamePart_ungapped
  rw [title_eq, remove_unbroken unbroken, Reference.removeFromLine, found]
  apply titleUnreferenced_trim
  rw [trim_trimEnd fun _ => isBlank_of_isGap, trim_trimEnd fun _ => id]

/-! ## Names and titles -/

/-- In a header with nothing but spaces and tabs next to a reference at its end, the reference names
the callout exactly when it is taken out of the title, which is read from what stands in front. -/
theorem title_named (unbroken : ∀ c ∈ t, isLineBreak c = false) (spaced : Reference.IsSpaced t) :
    ((name? t).isSome = true ↔ (split? isGap t).isSome = true) ∧
      (∀ front name behind, EndsIn isBlank t front name behind →
        name? t = some name ∧ title t = titleUnreferenced (trimEnd isBlank front) ∧
          (split? isGap (trimEnd isBlank front) = none →
            title t = title (trimEnd isBlank front))) ∧
      (name? t = none → title t = titleUnreferenced t) := by
  have noFeed : '\n' ∉ t := fun member => Bool.false_ne_true (unbroken '\n' member).symm
  have gapped {front name behind : Text} (given : EndsIn isBlank t front name behind) :
      EndsIn isGap t front name behind :=
    ⟨given.whole, given.isName, (spaced _ _ _ given).1, (spaced _ _ _ given).2⟩
  have both : (name? t).isSome = true ↔ (split? isGap t).isSome = true := by
    rw [Reference.name?_isSome_iff, Reference.split?_isSome_iff fun _ => isNamePart_ungapped]
    constructor
    · rintro ⟨front, name, behind, given⟩
      exact ⟨front, name, behind, gapped given⟩
    · rintro ⟨front, name, behind, given⟩
      exact ⟨front, name, behind, given.mono fun _ => isBlank_of_isGap⟩
  refine ⟨both, fun front name behind given => ⟨given.name?_eq, ?_, fun single => ?_⟩, ?_⟩
  · exact title_endsIn noFeed (gapped given)
  · have within : '\n' ∉ trimEnd isBlank front := by
      intro member
      have kept : '\n' ∈ front :=
        List.mem_reverse.mp ((List.dropWhile_sublist _).subset (List.mem_reverse.mp member))
      exact noFeed (given.whole ▸ List.mem_append_left _ kept)
    rw [title_endsIn noFeed (gapped given), title_eq, remove_eq_self within single]
  · intro none
    have absent : split? isGap t = Option.none := by
      rw [← Option.not_isSome_iff_eq_none, ← both, none]
      simp
    rw [title_eq, remove_eq_self noFeed absent]

/-- A link, a tab in front of the reference and a space behind it. -/
theorem title_named_flying :
    let front := Text.of "Flying [[Dreams/Flying|over the sea]]\t"
    let header := front ++ Text.of "^d1 "
    (∀ c ∈ header, isLineBreak c = false) ∧ Reference.IsSpaced header ∧
      EndsIn isBlank header front (Text.of "d1") [' '] ∧
      name? header = some (Text.of "d1") ∧ (split? isGap header).isSome = true ∧
      title header = title (Text.of "Flying [[Dreams/Flying|over the sea]]") ∧
      title header = Text.of "Flying" := by
  intro front header
  have isLine : Text.IsLine header := .of_any (by decide) (by decide)
  have unbroken : ∀ c ∈ header, isLineBreak c = false := isLine.unbroken
  have spaced : Reference.IsSpaced header := by
    have gaps : header.all (fun c => !isBlank c || isGap c) = true := by decide
    refine Reference.isSpaced_of_gaps fun c member blank => ?_
    simpa [blank] using List.all_eq_true.mp gaps c member
  have exposed : ∀ c ∈ front.getLast?, isBlank c = true := by
    rintro _ ⟨⟩
    rfl
  have ends : EndsIn isBlank header front (Text.of "d1") [' '] :=
    ⟨rfl, ⟨⟨'d', rfl, rfl⟩, List.all_eq_true.mp (by decide)⟩, exposed,
      List.all_eq_true.mp (by decide)⟩
  have rest : trimEnd isBlank front = Text.of "Flying [[Dreams/Flying|over the sea]]" := rfl
  obtain ⟨both, named, _⟩ := title_named unbroken spaced
  obtain ⟨name, _, single⟩ := named front (Text.of "d1") [' '] ends
  rw [rest] at single
  exact ⟨unbroken, spaced, ends, name, both.mp (by rw [name]; rfl), single (by decide),
    by decide +kernel⟩

/-- Of two references at the end of a header the second is taken away; what stands in front of it
would lose the first. -/
theorem title_keeps_first :
    let header := Text.of "Sea ^a ^b"
    (∀ c ∈ header, isLineBreak c = false) ∧ name? header = some (Text.of "b") ∧
      split? isGap header = some (Text.of "Sea ^a", Text.of "b") ∧
      title header = Text.of "Sea ^a" ∧ title (Text.of "Sea ^a") = Text.of "Sea" ∧
      title header ≠ title (Text.of "Sea ^a") := by
  intro header
  have isLine : Text.IsLine header := .of_any (by decide) (by decide)
  exact ⟨isLine.unbroken, by decide +kernel⟩

end DreamJournal.Narrative
