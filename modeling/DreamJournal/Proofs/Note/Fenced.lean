import DreamJournal.Proofs.Callout.Separation
import DreamJournal.Proofs.FrontMatter
import DreamJournal.Proofs.Note.Counted
import DreamJournal.Proofs.Note.FrontMatter

/-!
# What a scan finds in front matter

The scan does not know of front matter. A fence is text outside any quote, so a closed block is
separated from what is behind it, and nothing in it contains anything there. But a line inside the
block that has the form of a header, as a line of a YAML text may have, opens a callout like any
other line; and a journal in the block is counted, and its dreams become entries.

`extract_fenced` says how far that goes: what a note holds is what its block holds and then what the
rest holds, and the block holds nothing exactly when no line in it is the header of a journal.
-/
namespace DreamJournal

open Callout Containment

namespace FrontMatter

/-- Lines begin with front matter between two fences. -/
def Begins (lines inside behind : List Text) : Prop :=
  ∃ first rest, lines = first :: rest ∧ isFence first = true ∧ block? rest = some (inside, behind)

/-- The callouts of the lines between the fences, at their places. -/
def calloutsInside (inside : List Text) : List Callout := (Scan.ofLines ([] :: inside)).roots

/-- The callouts of the lines behind the fences, at their places. -/
def calloutsBehind (inside behind : List Text) : List Callout :=
  (Scan.ofLines (List.replicate (inside.length + 2) [] ++ behind)).roots

variable {line : Text} {lines inside behind : List Text}

theorem trim_fence (isFence : FrontMatter.isFence line = true) :
    Text.trimBoth Text.isBlank line = ['-', '-', '-'] := isFence_iff.mp isFence

theorem count_fence (isFence : FrontMatter.isFence line = true) : Marker.count line = 0 := by
  rw [Marker.count, List.count_eq_zero]
  -- around a fence there is white space alone, and a marker is none
  intro marker
  have member : '>' ∈ line := (List.takeWhile_sublist _).subset marker
  have trimmed : '>' ∈ Text.trimBoth Text.isBlank line := Text.mem_trimBoth member (by decide)
  rw [trim_fence isFence] at trimmed
  revert trimmed
  decide

theorem fence_not_blank (isFence : FrontMatter.isFence line = true) :
    Text.isAllBlank line = false := by
  have hyphen : '-' ∈ Text.trimBoth Text.isBlank line := by simp [trim_fence isFence]
  exact List.all_eq_false.mpr ⟨'-', (Text.trimBoth_sublist _ line).subset hyphen, by decide⟩

/-- At the beginning of a note a fence is to a scan what a blank line is. -/
theorem ofLines_fence (isFence : FrontMatter.isFence line = true) (rest : List Text) :
    Scan.ofLines (line :: rest) = Scan.ofLines ([] :: rest) := by
  have opening : Scan.step .initial 0 line = Scan.step .initial 0 [] := by
    rw [Scan.step, if_neg (by simp [fence_not_blank isFence]), if_pos (count_fence isFence)]
    unfold Scan.State.closeTo
    simp only [Scan.State.initial, Scan.closeDeeper]
    rfl
  unfold Scan.ofLines
  rw [Scan.run, Scan.run, opening]

/-- The callouts of a note are those inside its block and then those behind it. -/
theorem roots_of_begins (begins : Begins lines inside behind) :
    (Scan.ofLines lines).roots = calloutsInside inside ++ calloutsBehind inside behind := by
  obtain ⟨first, rest, rfl, opening, isBlock⟩ := begins
  obtain ⟨-, fence, closing, rfl⟩ := block?_eq_some_iff.mp isBlock
  rw [ofLines_fence opening, ← List.cons_append,
    Scan.ofLines_separated (count_fence closing) (fence_not_blank closing)]
  rfl

theorem start_of_inside {c : Callout} (member : c ∈ walkAll (calloutsInside inside)) :
    c.start < inside.length + 2 := Nat.lt_succ_of_lt (Scan.start_lt member)

theorem start_of_behind {c : Callout} (member : c ∈ walkAll (calloutsBehind inside behind)) :
    inside.length + 2 ≤ c.start := Scan.le_start member

theorem exists_inside_iff (inside : List Text) (isKind : Text → Prop) :
    (∃ c ∈ walkAll (calloutsInside inside), isKind c.kind) ↔
      ∃ line ∈ inside, ∃ header, Header.ofLine? line = some header ∧ isKind header.kind := by
  -- the blank line stands for the fence
  have noHeader : Header.ofLine? [] = none := rfl
  rw [calloutsInside, Scan.exists_callout_iff (Scan.ofLines_scanned _)]
  simp [noHeader]

end FrontMatter

/-! ## What comes of the callouts -/

/-- What a note holds is what one of two parts holds and then what the other does. -/
structure NoteExtraction.IsJoined (x front back : NoteExtraction) : Prop where
  journals : x.journals = front.journals + back.journals
  diaries : x.diaries = front.diaries + back.diaries
  metricsCallouts : x.metricsCallouts = front.metricsCallouts + back.metricsCallouts
  entries : x.entries = front.entries ++ back.entries

/-- Nothing was counted, and nothing became an entry. -/
structure NoteExtraction.IsBare (x : NoteExtraction) : Prop where
  journals : x.journals = 0
  diaries : x.diaries = 0
  metricsCallouts : x.metricsCallouts = 0
  entries : x.entries = []

theorem sightings_append (settings : Settings) (front back : List Callout) :
    sightings settings (front ++ back) = sightings settings front ++ sightings settings back := by
  simp only [sightings, visits_eq, visitsOfAll_eq, List.flatMap_append, List.filterMap_append]

theorem Note.Context.extract_append (context : Note.Context) (front back : List Callout)
    (earlier : List Diagnostic) : (context.extract (front ++ back) earlier).IsJoined
      (context.extract front []) (context.extract back []) := by
  constructor <;>
    simp only [Note.Context.extract, sightings_append, List.filterMap_append, List.countP_append,
      List.length_append]

theorem Note.Context.isBare_iff (context : Note.Context) (roots : List Callout)
    (earlier : List Diagnostic) : (context.extract roots earlier).IsBare ↔
      ¬∃ c ∈ walkAll roots, c.kind = context.settings.journalCallout := by
  have counted := Note.Context.journals_ne_zero_iff context roots earlier
  constructor
  · intro isBare found
    exact counted.mpr found isBare.journals
  · intro none
    -- every dream has a journal around it
    have noDream : (sightings context.settings roots).filterMap Sighting.dream? = [] := by
      apply List.eq_nil_iff_forall_not_mem.mpr
      intro d isDream
      obtain ⟨member, isJournal⟩ := journal_of_dream isDream
      exact none ⟨d.journal, member, isJournal⟩
    have noJournal : (context.extract roots earlier).journals = 0 := by
      by_contra found
      exact none (counted.mp found)
    refine ⟨noJournal, ?_, ?_, ?_⟩ <;> simp [Note.Context.extract, noDream]

/-- What the scan of a note finds in its front matter, and what comes of it. -/
structure Note.Fenced (settings : Settings) (today : Date) (source note : Text)
    (inside behind : List Text) : Prop where
  /-- The callouts of the block are followed by those of the rest. -/
  parted : (Scan.ofText note).roots =
    FrontMatter.calloutsInside inside ++ FrontMatter.calloutsBehind inside behind
  within : ∀ c ∈ walkAll (FrontMatter.calloutsInside inside), c.start < inside.length + 2
  beyond : ∀ c ∈ walkAll (FrontMatter.calloutsBehind inside behind), inside.length + 2 ≤ c.start
  /-- A callout begins in the block where a line of it is a header. -/
  starts : (∃ c ∈ walkAll (Scan.ofText note).roots, c.start < inside.length + 2) ↔
    ∃ line ∈ inside, (Header.ofLine? line).isSome = true
  /-- Whatever fields the front matter has, what the note holds is what the block holds and then
  what the rest holds; and the block holds nothing unless a line of it is the header of a
  journal. -/
  holds : ∀ fields complaints, Note.frontMatterOf source note = .ok (fields, complaints) →
    let context : Note.Context := ⟨settings, today, source, Text.lines note, fields⟩
    ∃ x, Note.extract settings today source note = .ok x ∧
      x.IsJoined (context.extract (FrontMatter.calloutsInside inside) [])
        (context.extract (FrontMatter.calloutsBehind inside behind) []) ∧
      ((context.extract (FrontMatter.calloutsInside inside) []).IsBare ↔
        ∀ line ∈ inside, ∀ header, Header.ofLine? line = some header →
          header.kind ≠ settings.journalCallout)

/-- Front matter is scanned like the rest of a note, and apart from it. -/
theorem Note.extract_fenced (settings : Settings) (today : Date) (source note : Text)
    {inside behind : List Text} (begins : FrontMatter.Begins (Text.lines note) inside behind) :
    Note.Fenced settings today source note inside behind := by
  have parted := FrontMatter.roots_of_begins begins
  constructor
  case parted => exact parted
  case within => exact fun _ => FrontMatter.start_of_inside
  case beyond => exact fun _ => FrontMatter.start_of_behind
  case starts =>
    have headers := FrontMatter.exists_inside_iff inside fun _ => True
    simp only [and_true, ← Option.isSome_iff_exists] at headers
    rw [← headers, Scan.ofText, parted]
    constructor
    · rintro ⟨c, member, early⟩
      rw [walkAll_append] at member
      rcases List.mem_append.mp member with isInside | isBehind
      · exact ⟨c, isInside⟩
      · have late := FrontMatter.start_of_behind isBehind
        omega
    · rintro ⟨c, member⟩
      refine ⟨c, ?_, FrontMatter.start_of_inside member⟩
      rw [walkAll_append]
      exact List.mem_append_left _ member
  case holds =>
    intro fields complaints front
    refine ⟨_, extract_eq_of_frontMatter front, ?_, ?_⟩
    · rw [Scan.ofText, parted]
      exact Note.Context.extract_append _ _ _ _
    · rw [Note.Context.isBare_iff,
        FrontMatter.exists_inside_iff inside fun kind => kind = settings.journalCallout]
      simp only [not_exists, not_and, ne_eq]

theorem Note.extract_fenced_mood :
    FrontMatter.Begins (Text.lines (frontedNote "mood: calm")) [Text.of "mood: calm"]
        ((Text.lines (frontedNote "mood: calm")).drop 3) ∧
      Note.Fenced Settings.standard ⟨2030, 1, 1, by decide⟩ (Text.of "a.md")
        (frontedNote "mood: calm") [Text.of "mood: calm"]
        ((Text.lines (frontedNote "mood: calm")).drop 3) := by
  have begins : FrontMatter.Begins (Text.lines (frontedNote "mood: calm"))
      [Text.of "mood: calm"] ((Text.lines (frontedNote "mood: calm")).drop 3) :=
    ⟨_, _, rfl, by decide +kernel, by decide +kernel⟩
  exact ⟨begins, Note.extract_fenced _ _ _ _ begins⟩

/-- A dream behind front matter that quotes another one in a text. -/
def quotingNote : Text := Text.joinLines <|
  ["---", "note: |", "  > [!journal-entry] ^20250101", "  >> [!dream-diary] Sea", "---",
    "> [!journal-entry] ^20250202", ">> [!dream-diary] Hill", ">> wind"].map Text.of

/-- The dream in the front matter is counted, and becomes an entry. -/
theorem Note.extract_quoting :
    FrontMatter.Begins (Text.lines quotingNote) (((Text.lines quotingNote).take 4).drop 1)
        ((Text.lines quotingNote).drop 5) ∧
      (∃ c ∈ walkAll (Scan.ofText quotingNote).roots, c.start < 5) ∧
      ∃ x, Note.extract Settings.standard ⟨2030, 1, 1, by decide⟩ (Text.of "a.md") quotingNote =
          .ok x ∧ x.journals = 2 ∧ x.diaries = 2 ∧
        x.entries.map Entry.title = [Text.of "Sea", Text.of "Hill"] := by
  refine ⟨⟨_, _, rfl, by decide +kernel, by decide +kernel⟩, ?_, ?_⟩
  · have found : ((walkAll (Scan.ofText quotingNote).roots).any fun c => c.start < 5) = true := by
      decide +kernel
    simpa using found
  · have read : (match Note.extract Settings.standard ⟨2030, 1, 1, by decide⟩ (Text.of "a.md")
        quotingNote with
      | .ok x => decide (x.journals = 2 ∧ x.diaries = 2 ∧
          x.entries.map Entry.title = [Text.of "Sea", Text.of "Hill"])
      | .error _ => false) = true := by decide +kernel
    split at read
    next x returned => exact ⟨x, returned, of_decide_eq_true read⟩
    next => cases read

end DreamJournal
