import DreamJournal.Proofs.Callout.Outline
import DreamJournal.Proofs.Callout.Warnings
import DreamJournal.Proofs.Narrative.Cut
import DreamJournal.Proofs.Note.Narrative

/-!
# Headers and directives

Two rules say which quoted lines are headers. The scanner asks for a tag that names a kind; a line
that only begins like a tag is text, with a warning. The cleaner empties every quoted line that
begins with a closed tag, whatever the tag names.

So no header reaches a narrative. The two rules part on the closed tags that name no kind: the
scanner reports such a line as text, and the cleaner takes it away.
-/
namespace DreamJournal

open Text (joinLines)
open scoped List

variable {line name t : Text} {lines : List Text}

namespace Header

/-! ## What a tag names -/

/-- What a closed tag at the start of a text names: all in front of the metadata or the bracket. -/
def namedIn? (t : Text) : Option Text :=
  match t with
  | '[' :: '!' :: rest =>
    (Text.cut? ']' rest).map fun (inside, _) => inside.takeWhile fun c => c ≠ '|'
  | _ => none

/-- What the closed tag of a quoted line names. -/
def tagName? (line : Text) : Option Text :=
  if Marker.count line = 0 then none else namedIn? (Marker.strip line)

/-! ## Names and headers -/

theorem title?_isSome (unbroken : '\n' ∉ t) : (title? t).isSome = true := by
  -- neither the sign nor the gaps behind it bring a line feed in
  obtain ⟨unsigned, kept, same⟩ : ∃ unsigned, unsigned <:+ t ∧ title? t =
      let line := chomp (unsigned.dropWhile Text.isGap)
      if line.contains '\n' then none else some (Text.trimEnd Text.isGap line) := by
    unfold title?
    split
    next rest => exact ⟨rest, List.suffix_cons '+' rest, rfl⟩
    next rest => exact ⟨rest, List.suffix_cons '-' rest, rfl⟩
    next => exact ⟨t, List.suffix_rfl, rfl⟩
  have absent : '\n' ∉ unsigned.dropWhile Text.isGap :=
    fun member => unbroken (kept.subset ((List.dropWhile_sublist _).subset member))
  rw [same, chomp_eq_self absent]
  simp [absent]

theorem metadata?_eq_some_iff {metadata : Option Text} {after : Text} :
    metadata? t = some (metadata, after) ↔
      (metadata = none ∧ t = ']' :: after) ∨
      ∃ suffix, metadata = some suffix ∧ t = '|' :: (suffix ++ ']' :: after) ∧ ']' ∉ suffix := by
  unfold metadata?
  split
  next rest =>
    constructor
    · rintro ⟨rfl, rfl⟩
      exact .inl ⟨rfl, rfl⟩
    · rintro (⟨rfl, same⟩ | ⟨suffix, _, same, _⟩)
      · rw [List.cons.inj same |>.2]
      · cases same
  next rest =>
    constructor
    · intro found
      obtain ⟨⟨suffix, behind⟩, cut, same⟩ := Option.map_eq_some_iff.mp found
      obtain ⟨rfl, rfl⟩ := Prod.mk.inj same
      obtain ⟨rfl, absent⟩ := Text.cut?_eq_some_iff.mp cut
      exact .inr ⟨suffix, rfl, rfl, absent⟩
    · rintro (⟨_, same⟩ | ⟨suffix, rfl, same, absent⟩)
      · cases same
      · obtain ⟨_, rfl⟩ := List.cons.inj same
        rw [Text.cut?_append absent]
        rfl
  next notClosed notSuffix =>
    constructor
    · intro found
      cases found
    · rintro (⟨_, rfl⟩ | ⟨suffix, _, rfl, _⟩)
      · exact absurd rfl (notClosed after)
      · exact absurd rfl (notSuffix _)

theorem takeWhile_eq_self_of_bar (absent : '|' ∉ name) :
    name.takeWhile (fun c => c ≠ '|') = name := by
  refine List.takeWhile_eq_self_iff.mpr fun c member => ?_
  exact decide_eq_true fun same => absent (same ▸ member)

theorem takeWhile_bar (absent : '|' ∉ name) (rest : Text) :
    (name ++ '|' :: rest).takeWhile (fun c => c ≠ '|') = name := by
  rw [List.takeWhile_append, takeWhile_eq_self_of_bar absent, if_pos rfl,
    List.takeWhile_cons_of_neg (by decide), List.append_nil]

theorem namedIn?_eq_some_iff :
    namedIn? t = some name ↔
      (']' ∉ name ∧ '|' ∉ name) ∧
        ∃ tail, t = '[' :: '!' :: (name ++ tail) ∧ (metadata? tail).isSome = true := by
  constructor
  · intro found
    unfold namedIn? at found
    split at found
    next rest =>
      obtain ⟨⟨inside, after⟩, cut, same⟩ := Option.map_eq_some_iff.mp found
      obtain ⟨rfl, absent⟩ := Text.cut?_eq_some_iff.mp cut
      dsimp only at same
      -- the first bar in the tag begins the metadata
      by_cases bar : '|' ∈ inside
      · obtain ⟨front, suffix, rfl, noBar⟩ := List.eq_append_cons_of_mem bar
        rw [takeWhile_bar noBar] at same
        subst same
        obtain ⟨noBracket, noneLeft⟩ : ']' ∉ front ∧ ']' ∉ suffix := by
          simpa [not_or] using absent
        have closed : metadata? ('|' :: (suffix ++ ']' :: after)) = some (some suffix, after) :=
          metadata?_eq_some_iff.mpr (.inr ⟨suffix, rfl, rfl, noneLeft⟩)
        exact ⟨⟨noBracket, noBar⟩, _, by simp, Option.isSome_of_eq_some closed⟩
      · rw [takeWhile_eq_self_of_bar bar] at same
        subst same
        exact ⟨⟨absent, bar⟩, ']' :: after, rfl, rfl⟩
    next => cases found
  · rintro ⟨⟨noBracket, noBar⟩, tail, rfl, closed⟩
    obtain ⟨⟨metadata, after⟩, found⟩ := Option.isSome_iff_exists.mp closed
    rcases metadata?_eq_some_iff.mp found with ⟨_, rfl⟩ | ⟨suffix, _, rfl, absent⟩
    · simp only [namedIn?, Text.cut?_append noBracket, Option.map_some,
        takeWhile_eq_self_of_bar noBar]
    · have inside : name ++ '|' :: (suffix ++ ']' :: after) =
          (name ++ '|' :: suffix) ++ ']' :: after := by simp
      have absentAll : ']' ∉ name ++ '|' :: suffix := by simp [noBracket, absent]
      simp only [namedIn?, inside, Text.cut?_append absentAll, Option.map_some, takeWhile_bar noBar]

/-- A tag is a closed tag that names a kind. -/
theorem tag?_isSome_iff (unbroken : '\n' ∉ t) :
    (tag? t).isSome = true ↔ ∃ name, namedIn? t = some name ∧ IsKindName name := by
  constructor
  · intro isTag
    unfold tag? at isTag
    split at isTag
    next c rest =>
      split at isTag
      next starts =>
        have closed : (metadata? (rest.dropWhile inKind)).isSome = true := by
          by_contra absent
          rw [Bool.not_eq_true, Option.isSome_eq_false_iff, Option.isNone_iff_eq_none] at absent
          simp [absent] at isTag
        have parts : ∀ d ∈ c :: rest.takeWhile inKind, inKind d = true := by
          refine List.forall_mem_cons.mpr ⟨?_, fun d member => List.mem_takeWhile_imp member⟩
          simp only [startsKind] at starts
          simp [inKind, starts]
        refine ⟨c :: rest.takeWhile inKind, namedIn?_eq_some_iff.mpr ⟨⟨?_, ?_⟩, ?_⟩,
          ⟨c, rfl, starts⟩, parts⟩
        · exact fun member => absurd (parts _ member) (by decide)
        · exact fun member => absurd (parts _ member) (by decide)
        · refine ⟨rest.dropWhile inKind, ?_, closed⟩
          rw [List.cons_append, List.takeWhile_append_dropWhile]
      next => cases isTag
    next => cases isTag
  · rintro ⟨name, named, ⟨c, first, starts⟩, parts⟩
    obtain ⟨_, tail, rfl, closed⟩ := namedIn?_eq_some_iff.mp named
    obtain ⟨more, rfl⟩ := List.head?_eq_some_iff.mp first
    obtain ⟨⟨metadata, after⟩, found⟩ := Option.isSome_iff_exists.mp closed
    obtain ⟨mark, behind, rfl, ends⟩ := metadata?_closes found
    -- a bar or a bracket is in no kind, so the kind is read up to the end of the name
    have stops : inKind mark = false := by rcases ends with rfl | rfl <;> rfl
    have rest : (more ++ mark :: behind).dropWhile inKind = mark :: behind := by
      rw [List.dropWhile_append_of_pos fun d member => parts d (List.mem_cons_of_mem c member),
        List.dropWhile_cons_of_neg (by simp [stops])]
    have noBreak : '\n' ∉ after := by
      rcases metadata?_eq_some_iff.mp found with ⟨_, same⟩ | ⟨suffix, _, same, _⟩
      · intro member
        simp [same, member] at unbroken
      · intro member
        simp [same, member] at unbroken
    obtain ⟨title, isTitle⟩ := Option.isSome_iff_exists.mp (title?_isSome noBreak)
    simp only [tag?, List.cons_append, starts, if_true, rest, found, isTitle, Option.bind_eq_bind,
      Option.bind_some, Option.isSome_some]

theorem strip_suffix (line : Text) : Marker.strip line <:+ line := by
  unfold Marker.strip
  split
  · exact List.suffix_rfl
  · exact List.dropWhile_suffix _

/-- A header is a quoted line with a closed tag that names a kind. -/
theorem ofLine?_isSome_iff (unbroken : '\n' ∉ line) :
    (ofLine? line).isSome = true ↔ ∃ name, tagName? line = some name ∧ IsKindName name := by
  have rest : '\n' ∉ Marker.strip line := fun member => unbroken ((strip_suffix line).subset member)
  unfold ofLine? tagName?
  split
  next => simp
  next => rw [Option.isSome_map, tag?_isSome_iff rest]

end Header

namespace Narrative

/-- A directive is a quoted line with a closed tag, whatever the tag names. -/
theorem isDirective_iff : isDirective line = true ↔ (Header.tagName? line).isSome = true := by
  have closed (rest : Text) : rest.contains ']' = (Text.cut? ']' rest).isSome := by
    by_cases member : ']' ∈ rest
    · obtain ⟨front, back, rfl, absent⟩ := List.eq_append_cons_of_mem member
      simp [Text.cut?_append absent]
    · simp [Text.cut?_eq_none member, member]
  unfold isDirective Header.tagName? Header.namedIn?
  by_cases unquoted : Marker.count line = 0
  · simp [unquoted]
  · simp only [ne_eq, unquoted, not_false_eq_true, decide_true, Bool.true_and, if_false]
    by_cases opens : ∃ rest, Marker.strip line = '[' :: '!' :: rest
    · obtain ⟨rest, shape⟩ := opens
      simp only [shape, closed, Option.isSome_map]
    · refine iff_of_false ?_ ?_
      · split
        next rest shape => exact absurd ⟨rest, shape⟩ opens
        next => simp
      · split
        next rest shape => exact absurd ⟨rest, shape⟩ opens
        next => simp

end Narrative

/-! ## What the cleaner takes away -/

namespace Narrative

variable {kind : Text} {mode : ParagraphMode}

theorem emptyIf_idem (cond : Text → Bool) (line : Text) :
    emptyIf cond (emptyIf cond line) = emptyIf cond line := by
  unfold emptyIf
  split
  next => exact ite_self _
  next => rfl

theorem emptyIf_eq_self_iff (given : line ≠ []) (cond : Text → Bool) :
    emptyIf cond line = line ↔ cond line = false := by
  unfold emptyIf
  split
  next holds => simp [holds, Ne.symm given]
  next fails => simpa using fails

theorem emptyIf_unbroken (cond : Text → Bool) (unbroken : Unbroken line) :
    Unbroken (emptyIf cond line) := by
  unfold emptyIf
  split
  next => exact ⟨List.not_mem_nil, List.not_mem_nil⟩
  next => exact unbroken

theorem emptyIf_untagged (cond : Text → Bool) (untagged : ¬Tagged kind line) :
    ¬Tagged kind (emptyIf cond line) := by
  unfold emptyIf
  split
  next =>
    rintro ⟨before, name, mark, after, same, _⟩
    simp at same
  next => exact untagged

theorem boundary_take (kind : Text) (lines : List Text) :
    boundary kind (lines.take (boundary kind lines)) =
      (lines.take (boundary kind lines)).length := by
  refine boundary_eq_length.mpr fun line member tagged => ?_
  rw [take_boundary] at member
  have free := List.mem_takeWhile_imp member
  simp [carriesTag_iff.mpr tagged] at free

theorem mapLines_joinLines (rule : Text → Text) (given : lines ≠ [])
    (unbroken : ∀ line ∈ lines, Unbroken line) :
    mapLines rule (joinLines lines) = joinLines (lines.map rule) := by
  rw [mapLines, Text.splitOn_joinLines given fun line member => (unbroken line member).1]

/-- The line rules empty the directives before anything else, so they can be emptied beforehand. -/
theorem lineRules_emptied (unbroken : ∀ line ∈ lines, Unbroken line) :
    lineRules (joinLines (lines.map (emptyIf isDirective))) = lineRules (joinLines lines) := by
  by_cases empty : lines = []
  · rw [empty, List.map_nil]
  · have emptied : ∀ line ∈ lines.map (emptyIf isDirective), Unbroken line := by
      simpa using fun line member => emptyIf_unbroken isDirective (unbroken line member)
    have same : mapLines (emptyIf isDirective) (joinLines (lines.map (emptyIf isDirective))) =
        mapLines (emptyIf isDirective) (joinLines lines) := by
      rw [mapLines_joinLines _ (by simpa using empty) emptied, mapLines_joinLines _ empty unbroken,
        List.map_map]
      simp only [Function.comp_def, emptyIf_idem]
    simp only [lineRules_eq, lineStages, List.map_cons, applyEach_cons, same]

/-- Cleaning sees the lines in front of the boundary, and of these the directives as empty lines. -/
theorem clean_emptied (unbroken : ∀ line ∈ lines, Unbroken line) :
    clean kind mode (joinLines ((lines.take (boundary kind lines)).map (emptyIf isDirective))) =
      clean kind mode (joinLines lines) := by
  have kept : ∀ line ∈ lines.take (boundary kind lines), Unbroken line :=
    fun line member => unbroken line (List.mem_of_mem_take member)
  have emptied : ∀ line ∈ (lines.take (boundary kind lines)).map (emptyIf isDirective),
      Unbroken line :=
    List.forall_mem_map.mpr fun line member => emptyIf_unbroken isDirective (kept line member)
  have untagged : ∀ line ∈ (lines.take (boundary kind lines)).map (emptyIf isDirective),
      ¬Tagged kind line := by
    have free := boundary_eq_length.mp (boundary_take kind lines)
    exact List.forall_mem_map.mpr fun line member => emptyIf_untagged isDirective (free line member)
  -- emptied lines have no tag, so nothing more is cut off
  rw [clean_joinLines emptied, clean_joinLines unbroken, boundary_eq_length.mpr untagged,
    List.take_length, cleanWhole, cleanWhole, lineRules_emptied kept]

theorem clean_nil : clean kind mode [] = [] := by
  cases mode <;> rfl

/-- A body that is one directive has no narrative, cut off or not. -/
theorem clean_directive (unbroken : Unbroken line) (directive : isDirective line = true) :
    clean kind mode line = [] := by
  have alone : clean kind mode (joinLines [line]) = clean kind mode
      (joinLines (([line].take (boundary kind [line])).map (emptyIf isDirective))) :=
    (clean_emptied (List.forall_mem_singleton.mpr unbroken)).symm
  rw [joinLines, Text.join, List.intercalate_singleton] at alone
  have within := boundary_le kind [line]
  -- the line stands behind the boundary, or in front of it and is emptied
  rw [alone]
  rcases Nat.le_one_iff_eq_zero_or_eq_one.mp within with cut | whole
  · rw [cut]
    exact clean_nil
  · rw [whole, List.take_one, List.head?_cons, Option.toList_some, List.map_singleton, emptyIf,
      if_pos directive]
    exact clean_nil

/-- The two rules agree on a line unless its closed tag names no kind. -/
theorem agree_iff (unbroken : '\n' ∉ line) :
    (isDirective line = true ↔ (Header.ofLine? line).isSome = true) ↔
      ∀ name, Header.tagName? line = some name → Header.IsKindName name := by
  rw [isDirective_iff, Header.ofLine?_isSome_iff unbroken]
  cases Header.tagName? line with
  | none => simp
  | some name => simp

/-- Every header is emptied, and an emptied line is a header exactly when its closed tag names a
kind. A line that the scan reports as text keeps its text exactly when its tag is not closed. What
is cleaned is the lines in front of the boundary, without the emptied ones. -/
theorem clean_directives (kind : Text) (mode : ParagraphMode) (lines : List Text)
    (unbroken : ∀ line ∈ lines, Unbroken line) :
    (∀ line ∈ lines,
      ((Header.ofLine? line).isSome = true → isDirective line = true) ∧
      ((isDirective line = true ↔ (Header.ofLine? line).isSome = true) ↔
        ∀ name, Header.tagName? line = some name → Header.IsKindName name)) ∧
    (∀ number line, (number, .malformedTag line) ∈ (Scan.ofLines lines).warnings →
      (emptyIf isDirective line = line ↔ Header.tagName? line = none)) ∧
    clean kind mode (joinLines lines) =
      clean kind mode
        (joinLines ((lines.take (boundary kind lines)).map (emptyIf isDirective))) := by
  refine ⟨fun line member => ⟨fun isHeader => ?_, agree_iff (unbroken line member).1⟩,
    fun number line reported => ?_, (clean_emptied unbroken).symm⟩
  · obtain ⟨name, named, _⟩ := (Header.ofLine?_isSome_iff (unbroken line member).1).mp isHeader
    exact isDirective_iff.mpr (Option.isSome_of_eq_some named)
  · obtain ⟨_, _, _, malformed⟩ := Scan.mem_warnings_iff.mp reported
    have given : line ≠ [] := by
      rintro rfl
      exact malformed.quoted rfl
    rw [emptyIf_eq_self_iff given, ← Bool.not_eq_true, isDirective_iff, Bool.not_eq_true,
      Option.isSome_eq_false_iff, Option.isNone_iff_eq_none]

/-- A header, a tag that names no kind, and a tag that is not closed. -/
def tagLines : List Text :=
  ["> waves", "> [!mood|x] hill", "> [!my note] the wind", "> [!mist sea"].map Text.of

/-- Of the two lines that are reported as text only the one with the open tag is cleaned as text. -/
theorem clean_directives_tags :
    (∀ line ∈ tagLines, Unbroken line) ∧
      (3, .malformedTag (Text.of "> [!my note] the wind")) ∈ (Scan.ofLines tagLines).warnings ∧
      (4, .malformedTag (Text.of "> [!mist sea")) ∈ (Scan.ofLines tagLines).warnings ∧
      emptyIf isDirective (Text.of "> [!my note] the wind") ≠ Text.of "> [!my note] the wind" ∧
      emptyIf isDirective (Text.of "> [!mist sea") = Text.of "> [!mist sea" ∧
      clean (Text.of "m") .joined (joinLines tagLines) =
        clean (Text.of "m") .joined
          (joinLines (["> waves", "", "", "> [!mist sea"].map Text.of)) := by
  have unbroken : ∀ line ∈ tagLines, Unbroken line := by decide
  have closed : (3, .malformedTag (Text.of "> [!my note] the wind")) ∈
      (Scan.ofLines tagLines).warnings :=
    Scan.mem_warnings_iff.mpr ⟨2, rfl, rfl, by decide, ⟨_, rfl⟩, by decide +kernel⟩
  have opened : (4, .malformedTag (Text.of "> [!mist sea")) ∈ (Scan.ofLines tagLines).warnings :=
    Scan.mem_warnings_iff.mpr ⟨3, rfl, rfl, by decide, ⟨_, rfl⟩, by decide +kernel⟩
  have taken : (tagLines.take (boundary (Text.of "m") tagLines)).map (emptyIf isDirective) =
      ["> waves", "", "", "> [!mist sea"].map Text.of := by decide +kernel
  obtain ⟨_, keeps, emptied⟩ := clean_directives (Text.of "m") .joined _ unbroken
  refine ⟨unbroken, closed, opened, ?_, (keeps 4 _ opened).mpr (by decide +kernel), ?_⟩
  · exact mt (keeps 3 _ closed).mp (by decide +kernel)
  · rw [emptied, taken]

/-- A line that is reported as text and taken away with all of its text. -/
theorem clean_loses_text :
    Unbroken (Text.of "> [!my note] the wind") ∧
      Header.ofLine? (Text.of "> [!my note] the wind") = none ∧
      (Scan.ofLines [Text.of "> [!my note] the wind"]).warnings =
        [(1, .malformedTag (Text.of "> [!my note] the wind"))] ∧
      isDirective (Text.of "> [!my note] the wind") = true ∧
      clean (Text.of "dream-metrics") .joined (Text.of "> [!my note] the wind") = [] := by
  have unbroken : Unbroken (Text.of "> [!my note] the wind") := by decide
  have directive : isDirective (Text.of "> [!my note] the wind") = true := by decide
  exact ⟨unbroken, by decide +kernel, by decide +kernel, directive,
    clean_directive unbroken directive⟩

end Narrative
end DreamJournal
