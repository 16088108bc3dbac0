import DreamJournal.Proofs.Narrative.Boundary
import DreamJournal.Proofs.Narrative.Settling

/-!
# When cleaning again changes nothing

A cleaned narrative is at rest for the inline rules, but the line rules and the cut at the metrics
boundary see it for the first time: they saw the lines before the inline rules joined them and
took the marks off. Taking emphasis off `**# sea**` leaves a heading, and only a second cleaning
takes that off too.

So a cleaned narrative stays as it is exactly when each of its lines is plain. In one direction
nothing is left to do; in the other, whatever the line rules or the cut take is content, and the
inline rules never bring content back.
-/
namespace DreamJournal.Narrative

open Text (isBlank isGap content splitOn joinLines)
open scoped List

variable {kind line t : Text} {mode : ParagraphMode}

/-- A line with nothing in it for the line rules or the cut at the boundary. -/
structure Plain (kind line : Text) : Prop where
  untagged : carriesTag kind line = false
  unquoted : Marker.count line = 0
  unreferenced : Reference.split? isGap line = none
  unfenced : isFence line = false
  unheaded : isHeading line = false
  unruled : isRule line = false

/-! ## What happens before the inline rules -/

/-- The cut at the boundary and the line rules, in order. -/
def preparations (kind : Text) : List (Text → Text) :=
  (fun t => (truncate kind t).1) :: lineStages.map mapLines

theorem applyEach_preparations (kind t : Text) :
    applyEach (preparations kind) t = lineRules (truncate kind t).1 := by
  rw [preparations, applyEach_cons, ← lineRules_eq]

theorem clean_eq (kind : Text) (mode : ParagraphMode) (t : Text) :
    clean kind mode t =
      settle mode ((applyEach (preparations kind) (Text.unixBreaks t)).length + 2)
        (applyEach (preparations kind) (Text.unixBreaks t)) := by
  rw [applyEach_preparations]
  simp only [clean, cleanWithBoundary, cleanWhole]

theorem lineStages_trim : ∀ rule ∈ lineStages, Trims rule := by
  simp only [lineStages, List.forall_mem_cons]
  exact ⟨isDirective_takes.trims, removeFromLine_takes.trims, strip_takes.trims,
    isFence_takes.trims, stripHeading_takes.trims, isRule_takes.trims, by simp⟩

theorem preparations_trim (kind : Text) : ∀ rule ∈ preparations kind, Trims rule := by
  refine List.forall_mem_cons.mpr ⟨(truncate_takes kind).trims, fun rule member => ?_⟩
  obtain ⟨stage, listed, rfl⟩ := List.mem_map.mp member
  exact mapLines_trims (lineStages_trim stage listed)

theorem preparations_sublist (kind t : Text) :
    applyEach (preparations kind) (Text.unixBreaks t) <+ t :=
  ((applyEach_trims (preparations_trim kind)).kept _).trans (Text.unixBreaks_sublist t)

/-- Cleaning only deletes, and where it rewrites it writes white space. -/
theorem content_clean_sublist (kind : Text) (mode : ParagraphMode) (t : Text) :
    content (clean kind mode t) <+ content t := by
  rw [clean_eq]
  exact (content_settle_sublist mode _ _).trans (Text.content_sublist (preparations_sublist kind t))

theorem plain_iff : Plain kind line ↔
    carriesTag kind line = false ∧ ∀ rule ∈ lineStages, rule line = line := by
  simp only [lineStages, List.forall_mem_cons, isDirective_takes.eq_self_iff,
    removeFromLine_takes.eq_self_iff, strip_takes.eq_self_iff, isFence_takes.eq_self_iff,
    stripHeading_takes.eq_self_iff, isRule_takes.eq_self_iff]
  constructor
  · intro plain
    -- a directive is quoted, so a line without markers is none
    refine ⟨plain.untagged, fun directive => isDirective_marked directive plain.unquoted, ?_⟩
    simp [plain.unquoted, plain.unreferenced, plain.unfenced, plain.unheaded, plain.unruled]
  · rintro ⟨untagged, _, unreferenced, unquoted, unfenced, unheaded, unruled, _⟩
    exact ⟨untagged, by simpa using unquoted, by simpa using unreferenced, by simpa using unfenced,
      by simpa using unheaded, by simpa using unruled⟩

theorem preparations_eq_self_iff (kind t : Text) :
    applyEach (preparations kind) t = t ↔ ∀ line ∈ splitOn '\n' t, Plain kind line := by
  rw [applyEach_eq_self_iff (preparations_trim kind), preparations, List.forall_mem_cons,
    (truncate_takes kind).eq_self_iff, List.forall_mem_map]
  have each (stage : Text → Text) (listed : stage ∈ lineStages) :
      mapLines stage t = t ↔ ∀ line ∈ splitOn '\n' t, stage line = line :=
    mapLines_eq_self_iff (lineStages_trim stage listed) t
  constructor
  · rintro ⟨untagged, fixed⟩ line member
    refine plain_iff.mpr ⟨?_, fun stage listed => ?_⟩
    · simpa using fun carries => untagged ⟨line, member, carries⟩
    · exact (each stage listed).mp (fixed stage listed) line member
  · intro plain
    refine ⟨?_, fun stage listed => (each stage listed).mpr fun line member =>
      (plain_iff.mp (plain line member)).2 stage listed⟩
    rintro ⟨line, member, carries⟩
    rw [(plain line member).untagged] at carries
    exact Bool.false_ne_true carries

/-! ## Cleaning what is clean -/

theorem clean_settled (kind : Text) (mode : ParagraphMode) (t : Text) :
    inlineRound mode (clean kind mode t) = clean kind mode t := by
  rw [clean_eq]
  exact inlineRound_settle mode _

theorem unixBreaks_settled (settled : inlineRound mode t = t) : Text.unixBreaks t = t := by
  refine Text.unixBreaks_eq_self fun member => ?_
  rw [← settled, inlineRound_eq] at member
  -- a collapsed text has no white space but spaces and line feeds
  rcases blank_of_mem_collapse member rfl with space | feed
  · exact absurd space (by decide)
  · exact absurd feed (by decide)

/-- A text at rest is its own cleaning exactly when its lines are plain. -/
theorem clean_eq_self_iff (settled : inlineRound mode t = t) :
    clean kind mode t = t ↔ ∀ line ∈ splitOn '\n' t, Plain kind line := by
  rw [← preparations_eq_self_iff, clean_eq, unixBreaks_settled settled]
  constructor
  · intro fixed
    by_contra changed
    -- what the preparations take is content, and the rounds cannot bring it back
    have lost := (applyEach_trims (preparations_trim kind)).inked t changed
    have less := (content_settle_sublist mode ((applyEach (preparations kind) t).length + 2)
      (applyEach (preparations kind) t)).length_le
    rw [fixed] at less
    omega
  · intro same
    rw [same, settle_eq_self settled]

/-- Cleaning a narrative again changes nothing exactly when no line of it reads as block markup or
carries the tag of the metrics callout. -/
theorem clean_clean_iff (kind : Text) (mode : ParagraphMode) (t : Text) :
    clean kind mode (clean kind mode t) = clean kind mode t ↔
      ∀ line ∈ splitOn '\n' (clean kind mode t), Plain kind line :=
  clean_eq_self_iff (clean_settled kind mode t)

set_option maxRecDepth 4000 in
/-- A heading inside strong emphasis is seen by the second cleaning only. -/
theorem clean_clean_heading :
    clean (Text.of "dream-metrics") .joined
        (clean (Text.of "dream-metrics") .joined (Text.of "**# sea**")) ≠
      clean (Text.of "dream-metrics") .joined (Text.of "**# sea**") := by
  decide +kernel

end DreamJournal.Narrative
