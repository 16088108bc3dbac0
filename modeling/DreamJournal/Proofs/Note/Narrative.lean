import DreamJournal.Proofs.Narrative.Cut
import DreamJournal.Proofs.Note.Attachment
import DreamJournal.Proofs.Text.Letters

/-!
# The narrative of a dream ends where its metrics begin

A dream finds its metrics callout in the tree of callouts, and its narrative ends at a line of its
body that names a metrics callout. The two agree. The header of a callout names the kind of the
callout, and it stands in the body of each callout around it, at the place that its line number
says. So the text is cut at this header or in front of it, and nothing from the metrics callout on
gets into the narrative.
-/
namespace DreamJournal

open Callout Narrative
open Text (joinLines)
open scoped List

variable {settings : Settings} {lines : List Text} {roots : List Callout} {outer m : Callout}
  {kind line t : Text} {d : Dream} {e : Entry}

/-- The lines of a callout in front of one that is nested in it. -/
def Callout.linesBefore (outer inner : Callout) : List Text :=
  outer.body.take (inner.start - (outer.start + 1))

/-- Of the callouts of one kind that are nested in a callout, the one that begins first. -/
structure FirstNested (kind : Text) (outer m : Callout) : Prop where
  nested : m ∈ walkAll outer.children
  isKind : m.kind = kind
  first : ∀ other ∈ walkAll outer.children, other.kind = kind → m.start ≤ other.start

/-- What an entry tells is what stands in front of a nested callout. -/
structure EndsBefore (settings : Settings) (outer m : Callout) (e : Entry) : Prop where
  header : ∃ behind, outer.body = outer.linesBefore m ++ m.headerLine :: behind
  content : e.content =
    clean settings.metricsCallout settings.paragraphMode (joinLines (outer.linesBefore m))
  kept : Text.content e.content <+ Text.content (joinLines (outer.linesBefore m))
  words : e.wordCount = wordCount e.content

/-! ## The tag of a header -/

theorem Narrative.Tagged.behind (tagged : Tagged kind t) (front : Text) :
    Tagged kind (front ++ t) := by
  obtain ⟨before, name, mark, after, rfl, tag⟩ := tagged
  exact ⟨front ++ before, name, mark, after, (List.append_assoc _ _ _).symm, tag⟩

theorem Header.code_of_inKind {c : Char} (inside : inKind c = true) : c.toNat < 0x80 := by
  simp only [inKind, Bool.or_eq_true, beq_iff_eq] at inside
  rcases inside with (letter | rfl) | rfl
  · have code := Text.code_of_isAlphanum letter
    omega
  · decide
  · decide

/-- A tag is closed at once or goes on with metadata. -/
theorem Header.metadata?_closes {parts : Option Text × Text} (closed : metadata? t = some parts) :
    ∃ mark after, t = mark :: after ∧ (mark = ']' ∨ mark = '|') := by
  unfold metadata? at closed
  split at closed
  next more => exact ⟨']', more, rfl, .inl rfl⟩
  next more => exact ⟨'|', more, rfl, .inr rfl⟩
  next => cases closed

theorem Header.tag?_tagged {metadata : Option Text} {title : Text}
    (found : tag? t = some (kind, metadata, title)) : Tagged kind t := by
  unfold tag? at found
  split at found
  next c rest =>
    split at found
    next starts =>
      obtain ⟨_, closed, found⟩ := Option.bind_eq_some_iff.mp found
      obtain ⟨_, _, same⟩ := Option.bind_eq_some_iff.mp found
      obtain ⟨rfl, _⟩ := Prod.mk.inj (Option.some.inj same)
      obtain ⟨mark, after, behind, ends⟩ := metadata?_closes closed
      have parts : rest = rest.takeWhile inKind ++ mark :: after := by
        rw [← behind, List.takeWhile_append_dropWhile]
      -- a name has no characters but those whose lower case is found letter by letter
      have plain : ∀ d ∈ c :: rest.takeWhile inKind, d.toNat < 0x80 := by
        refine List.forall_mem_cons.mpr ⟨code_of_inKind ?_, fun d member => ?_⟩
        · simp only [startsKind] at starts
          simp [inKind, starts]
        · exact code_of_inKind (List.mem_takeWhile_imp member)
      refine ⟨[], c :: rest.takeWhile inKind, mark, after, ?_, Text.sameLetters_lower plain, ends⟩
      rw [List.cons_append, ← parts]
      rfl
    next => cases found
  next => cases found

/-- A header is a line that names its own kind. -/
theorem Header.ofLine?_tagged {header : Header} (found : ofLine? line = some header) :
    Tagged header.kind line := by
  unfold ofLine? at found
  split at found
  · cases found
  next quoted =>
    obtain ⟨⟨kind, metadata, title⟩, tag, rfl⟩ := Option.map_eq_some_iff.mp found
    rw [Marker.strip, if_neg quoted] at tag
    have tagged := (tag?_tagged tag).behind (line.takeWhile Marker.isPart)
    rwa [List.takeWhile_append_dropWhile] at tagged

/-! ## A header in the body around it -/

theorem headerLine_tagged (scanned : Scan.Scanned lines roots) (member : m ∈ walkAll roots) :
    Tagged m.kind m.headerLine := by
  have faithful := scanned.faithful m member
  rw [faithful.headerLine]
  exact Header.ofLine?_tagged faithful.header

theorem body_split (scanned : Scan.Scanned lines roots) (member : outer ∈ walkAll roots)
    (nested : m ∈ walkAll outer.children) :
    ∃ behind, outer.body = outer.linesBefore m ++ m.headerLine :: behind := by
  have own := scanned.faithful outer member
  have inner := scanned.faithful m (mem_walkAll_trans member nested)
  have ⟨behind, inside⟩ := scanned.nested_span member nested
  have reached : m.start ≤ m.stop ∧ m.stop < lines.length := ⟨inner.ends.1.1, inner.ends.1.2.1⟩
  -- the body begins behind the header, so what line of it a line of the note is can be counted
  have placed : outer.body[m.start - (outer.start + 1)]? = some m.headerLine := by
    have number : outer.start + 1 + (m.start - (outer.start + 1)) = m.start := by omega
    rw [own.body, List.getElem?_drop, number, List.getElem?_take_of_lt (by omega),
      List.getElem?_eq_getElem (by omega), inner.headerLine,
      Containment.lineAt_eq_getElem (by omega)]
  obtain ⟨lt, here⟩ := List.getElem?_eq_some_iff.mp placed
  refine ⟨outer.body.drop (m.start - (outer.start + 1) + 1), ?_⟩
  rw [← here, ← List.drop_eq_getElem_cons lt, linesBefore, List.take_append_drop]

theorem unbroken_body (scanned : Scan.Scanned (Text.lines t) roots)
    (member : outer ∈ walkAll roots) : ∀ line ∈ outer.body, Unbroken line := by
  intro line listed
  rw [(scanned.faithful outer member).body] at listed
  have unbroken := Text.unbroken_of_mem_lines (List.mem_of_mem_take (List.mem_of_mem_drop listed))
  constructor
  · exact fun feed => absurd (unbroken _ feed) (by decide)
  · exact fun carriage => absurd (unbroken _ carriage) (by decide)

/-- Cleaning the body of a callout stops at every nested callout of the kind that it looks for. -/
theorem clean_body (scanned : Scan.Scanned (Text.lines t) roots) (member : outer ∈ walkAll roots)
    (nested : m ∈ walkAll outer.children) (mode : ParagraphMode) :
    clean m.kind mode (joinLines outer.body) =
      clean m.kind mode (joinLines (outer.linesBefore m)) := by
  have unbroken := unbroken_body scanned member
  obtain ⟨behind, split⟩ := body_split scanned member nested
  rw [split] at unbroken ⊢
  exact clean_cut unbroken (headerLine_tagged scanned (mem_walkAll_trans member nested))

/-! ## The first metrics callout of a dream -/

/-- A dream with a nested metrics callout takes the first of them. -/
theorem exists_firstNested (scanned : Scan.Scanned lines roots)
    (isDream : d ∈ dreamsOf settings roots)
    (given : ∃ m ∈ walkAll d.diary.children, m.kind = settings.metricsCallout) :
    ∃ m, d.metrics = some m ∧ FirstNested settings.metricsCallout d.diary m := by
  obtain ⟨v, visited, diary, taken⟩ := exists_visit_of_dream isDream
  have member := mem_walkAll_of_visit visited
  rw [← diary] at given ⊢
  have found : (v.callout.findNested? settings.metricsCallout).isSome = true := by
    simpa [findNested?] using given
  obtain ⟨m, found⟩ := Option.isSome_iff_exists.mp found
  have ⟨nested, isKind⟩ := findNested?_mem found
  rw [Visit.metrics?, found] at taken
  exact ⟨m, taken.symm, nested, isKind, fun other => findNested?_le scanned member found⟩

theorem Dream.entry_endsBefore {source : Text} {date : ResolvedDate}
    (scanned : Scan.Scanned (Text.lines t) roots) (isDream : d ∈ dreamsOf settings roots)
    (isEntry : d.entry settings source date = .ok e)
    (first : FirstNested settings.metricsCallout d.diary m) : EndsBefore settings d.diary m e := by
  have member := mem_walkAll_of_dream isDream
  obtain ⟨told, counted, _⟩ := Dream.entry_parts isEntry
  have cleaned := clean_body scanned member first.nested settings.paragraphMode
  rw [first.isKind] at cleaned
  constructor
  case header => exact body_split scanned member first.nested
  case content => rw [told, Dream.content, cleaned]
  case kept =>
    rw [told, Dream.content, cleaned]
    exact content_clean_sublist _ _ _
  case words => exact counted

/-- When a metrics callout is nested in the diary of an entry, the entry has the numbers of the
first one and tells what stands in front of its header: nothing from that line on is in the content
or counted. -/
theorem narrative_ends_before_metrics (settings : Settings) (today : Date) (source note : Text)
    (x : NoteExtraction) (returned : Note.extract settings today source note = .ok x) :
    ∃ kept, kept.Sublist (dreamsOf settings (Scan.ofText note).roots) ∧
      List.Forall₂ (fun d e => (∃ date, d.entry settings source date = .ok e) ∧
        ((∃ m ∈ walkAll d.diary.children, m.kind = settings.metricsCallout) →
          ∃ m, d.metrics = some m ∧ FirstNested settings.metricsCallout d.diary m ∧
            EndsBefore settings d.diary m e)) kept x.entries := by
  have scanned : Scan.Scanned (Text.lines note) (Scan.ofText note).roots :=
    Scan.ofLines_scanned (Text.lines note)
  refine forall_entries returned fun d isDream e date isEntry given => ?_
  obtain ⟨m, taken, first⟩ := exists_firstNested scanned isDream given
  exact ⟨m, taken, first, Dream.entry_endsBefore scanned isDream isEntry first⟩

/-- Metrics inside another callout of the dream, whose kind begins like theirs, with text behind
both. -/
def shellsNote : Text := Text.joinLines <|
  ["> [!journal-entry] ^20250101", ">> [!dream-diary] Sea", ">> waves",
    ">>> [!dream-metrics-extra] shells", ">>> sand", ">>>> [!Dream-METRICS|x]+ numbers",
    ">>>> Words: 5", ">>> foam", ">> shore"].map Text.of

set_option maxRecDepth 4000 in
theorem narrative_ends_before_shells :
    ∃ x, Note.extract Settings.standard ⟨2030, 1, 1, by decide⟩ (Text.of "a.md") shellsNote =
        .ok x ∧
      ∃ d ∈ dreamsOf Settings.standard (Scan.ofText shellsNote).roots, ∃ e ∈ x.entries,
        e.content = Text.of "waves sand" ∧
        ∃ m, d.metrics = some m ∧ FirstNested Settings.standard.metricsCallout d.diary m ∧
          EndsBefore Settings.standard d.diary m e := by
  have front : Note.frontMatterOf (Text.of "a.md") shellsNote = .ok ([], []) := by rfl
  obtain ⟨x, returned, contents⟩ : ∃ x, Note.extract Settings.standard ⟨2030, 1, 1, by decide⟩
      (Text.of "a.md") shellsNote = .ok x ∧ x.entries.map Entry.content = [Text.of "waves sand"] :=
    ⟨_, extract_eq_of_frontMatter front, by decide +kernel⟩
  have given : ∀ d ∈ dreamsOf Settings.standard (Scan.ofText shellsNote).roots,
      ∃ m ∈ walkAll d.diary.children, m.kind = Settings.standard.metricsCallout := by
    decide +kernel
  obtain ⟨e, entries, content⟩ := List.map_eq_singleton_iff.mp contents
  have member : e ∈ x.entries := entries ▸ List.mem_singleton_self e
  obtain ⟨kept, sub, related⟩ := narrative_ends_before_metrics _ _ _ _ x returned
  obtain ⟨d, listed, _, ends⟩ := exists_left_of_forall₂ related member
  have isDream := sub.subset listed
  exact ⟨x, returned, d, isDream, e, member, content, ends (given d isDream)⟩

end DreamJournal
