import DreamJournal.Proofs.Note.Reports
import DreamJournal.Proofs.Note.Written

/-!
# Canonical notes are read back

Reading a canonical note gives the entries that its dreams are to become, in their order. Nothing
is dropped, and the values that are out of range are all that is reported.
-/
namespace DreamJournal

open Callout
open Outline (draw drawAll)
open DreamJournal.Metric (Pair)

variable {settings : Settings} {j : WrittenJournal} {t : WrittenDream} {d : Dream} {n : Nat}

/-- The settings that canonical notes are written for: any metrics, and otherwise the defaults. -/
structure Settings.IsCanonical (s : Settings) : Prop where
  journal : s.journalCallout = Text.of "journal-entry"
  diary : s.diaryCallout = Text.of "dream-diary"
  metrics : s.metricsCallout = Text.of "dream-metrics"
  mode : s.paragraphMode = .joined

/-- A dream that was found in a note is the written dream of a written journal. -/
structure Shows (j : WrittenJournal) (t : WrittenDream) (d : Dream) : Prop where
  journal : ∃ n, d.journal = draw 1 n j.outline
  diary : ∃ n, d.diary = draw 2 n t.outline
  metrics : ∃ n, d.metrics = some (draw 3 n (Pair.outline t.pairs))

/-! ## The callouts of a journal -/

theorem exists_dream {c : Callout} (member : c ∈ (draw 1 n j.outline).children) :
    ∃ t ∈ j.dreams, ∃ m, c = draw 2 m t.outline := by
  obtain ⟨o, listed, drawn⟩ := Outline.mem_drawAll member
  obtain ⟨t, isDream, rfl⟩ := List.mem_map.mp listed
  exact ⟨t, isDream, drawn⟩

theorem exists_metrics (t : WrittenDream) (n : Nat) :
    ∃ m, (draw 2 n t.outline).children = [draw 3 m (Pair.outline t.pairs)] :=
  ⟨_, rfl⟩

theorem visitsOf_journal (j : WrittenJournal) (n : Nat) :
    visitsOf [] (draw 1 n j.outline) =
      ⟨draw 1 n j.outline, []⟩ :: (draw 1 n j.outline).children.flatMap fun c =>
        ⟨c, [draw 1 n j.outline]⟩ :: c.children.map (⟨·, [draw 1 n j.outline, c]⟩) := by
  rw [visitsOf_eq, visitsOfAll_eq, List.nil_append]
  congr 1
  refine List.flatMap_congr fun c member => ?_
  obtain ⟨t, _, m, rfl⟩ := exists_dream member
  obtain ⟨k, inside⟩ := exists_metrics t m
  rw [visitsOf_eq, visitsOfAll_eq, inside]
  simp [visitsOf_eq]
  rfl

/-! ## Sightings -/

/-- The dreams in a journal callout, each with the first callout nested in it. -/
def dreamsIn (journal : Callout) : List Dream :=
  journal.children.map fun c => ⟨c, journal, c.children.head?⟩

theorem ofVisit?_diary (canonical : settings.IsCanonical) (t : WrittenDream) (m n : Nat) :
    Sighting.ofVisit? settings ⟨draw 2 m t.outline, [draw 1 n j.outline]⟩ =
      some (.dream
        ⟨draw 2 m t.outline, draw 1 n j.outline, (draw 2 m t.outline).children.head?⟩) := by
  obtain ⟨k, inside⟩ := exists_metrics t m
  have kind : (draw 2 m t.outline).kind = Text.of "dream-diary" := rfl
  have outer : (draw 1 n j.outline).kind = Text.of "journal-entry" := rfl
  have inner : (draw 3 k (Pair.outline t.pairs)).kind = Text.of "dream-metrics" := rfl
  have differ : Text.of "dream-diary" ≠ Text.of "journal-entry" := by decide
  simp [Sighting.ofVisit?, canonical.journal, canonical.diary, canonical.metrics, kind, differ,
    Visit.nearest?, outer, Visit.metrics?, findNested?, inside, walkAll_singleton, inner]

theorem ofVisit?_metrics (canonical : settings.IsCanonical) (pairs : List Pair) (m : Nat)
    (around : List Callout) :
    Sighting.ofVisit? settings ⟨draw 3 m (Pair.outline pairs), around⟩ = none := by
  have kind : (draw 3 m (Pair.outline pairs)).kind = Text.of "dream-metrics" := rfl
  have other : Text.of "dream-metrics" ≠ Text.of "journal-entry" ∧
      Text.of "dream-metrics" ≠ Text.of "dream-diary" := by decide
  simp [Sighting.ofVisit?, canonical.journal, canonical.diary, kind, other]

theorem sightings_journal (canonical : settings.IsCanonical) (j : WrittenJournal) (n : Nat) :
    (visitsOf [] (draw 1 n j.outline)).filterMap (Sighting.ofVisit? settings) =
      .journal :: (dreamsIn (draw 1 n j.outline)).map .dream := by
  have journal : Sighting.ofVisit? settings ⟨draw 1 n j.outline, []⟩ = some .journal := by
    have kind : (draw 1 n j.outline).kind = Text.of "journal-entry" := rfl
    simp [Sighting.ofVisit?, canonical.journal, kind]
  rw [visitsOf_journal, List.filterMap_cons_some journal, List.filterMap_flatMap, dreamsIn,
    List.map_map, List.map_eq_flatMap]
  congr 1
  refine List.flatMap_congr fun c member => ?_
  obtain ⟨t, _, m, rfl⟩ := exists_dream member
  obtain ⟨k, inside⟩ := exists_metrics t m
  rw [List.filterMap_cons_some (ofVisit?_diary canonical t m n)]
  simp [inside, ofVisit?_metrics canonical]

/-- The callouts of journals are seen as journals and their dreams. -/
theorem sightings_canonical (canonical : settings.IsCanonical) (js : List WrittenJournal) :
    sightings settings (drawAll 1 n (js.map WrittenJournal.outline)) =
      (drawAll 1 n (js.map WrittenJournal.outline)).flatMap fun c =>
        .journal :: (dreamsIn c).map .dream := by
  rw [sightings, visits_eq, visitsOfAll_eq, List.filterMap_flatMap]
  refine List.flatMap_congr fun c member => ?_
  obtain ⟨o, listed, m, rfl⟩ := Outline.mem_drawAll member
  obtain ⟨j, _, rfl⟩ := List.mem_map.mp listed
  exact sightings_journal canonical j m

theorem countP_isJournal_flatMap (roots : List Callout) :
    (roots.flatMap fun c => .journal :: (dreamsIn c).map .dream).countP Sighting.isJournal =
      roots.length := by
  induction roots with
  | nil => rfl
  | cons c rest ih =>
    have none : ((dreamsIn c).map .dream).countP Sighting.isJournal = 0 := by
      simp [List.countP_map, Sighting.isJournal]
    rw [List.flatMap_cons, List.countP_append, ih, List.countP_cons, none, List.length_cons]
    simp [Sighting.isJournal, Nat.add_comm]

theorem dreamsOf_canonical (canonical : settings.IsCanonical) (js : List WrittenJournal) :
    dreamsOf settings (drawAll 1 n (js.map WrittenJournal.outline)) =
      (drawAll 1 n (js.map WrittenJournal.outline)).flatMap dreamsIn := by
  have dreams (ds : List Dream) : (ds.map .dream).filterMap Sighting.dream? = ds := by
    simp [List.filterMap_map, Function.comp_def, Sighting.dream?]
  rw [dreamsOf, sightings_canonical canonical, List.filterMap_flatMap]
  refine List.flatMap_congr fun c _ => ?_
  rw [List.filterMap_cons_none rfl, dreams]

/-- The dreams of a canonical note are the written ones, in their order. -/
theorem dreamsOf_forall₂ (canonical : settings.IsCanonical) (js : List WrittenJournal) (n : Nat) :
    List.Forall₂ (fun written d => Shows written.1 written.2 d)
      (js.flatMap fun j => j.dreams.map (j, ·))
      (dreamsOf settings (drawAll 1 n (js.map WrittenJournal.outline))) := by
  rw [dreamsOf_canonical canonical]
  have drawn := Outline.drawAll_forall₂ 1 n (js.map WrittenJournal.outline)
  refine List.rel_flatMap (List.forall₂_map_left_iff.mp drawn) ?_
  rintro j c ⟨m, rfl⟩
  rw [dreamsIn, List.forall₂_map_left_iff, List.forall₂_map_right_iff]
  refine (List.forall₂_map_left_iff.mp (Outline.drawAll_forall₂ 2 _ _)).imp ?_
  rintro t c ⟨k, rfl⟩
  obtain ⟨i, inside⟩ := exists_metrics t k
  exact ⟨⟨m, rfl⟩, ⟨k, rfl⟩, ⟨i, by rw [inside]; rfl⟩⟩

/-! ## One dream -/

namespace Shows

variable (shows : Shows j t d)
include shows

theorem title_eq : d.diary.title = t.title.text := by
  obtain ⟨n, same⟩ := shows.diary
  rw [same]
  rfl

theorem metadata_eq : d.diary.metadata = [] := by
  obtain ⟨n, same⟩ := shows.diary
  rw [same]
  rfl

/-- The narrative ends where the metrics begin. -/
theorem content_eq (canonical : settings.IsCanonical) :
    d.content settings = Text.joinWords t.words := by
  obtain ⟨n, same⟩ := shows.diary
  have body : d.diary.body = (t.narrative.map fun p => quoted 2 p.text) ++
      quoted 3 Tag.metrics.written :: (Pair.lines t.pairs).map (quoted 3) := by
    rw [same, ← Pair.passages_quoted]
    simp [draw, WrittenDream.outline, Pair.outline, Outline.writeAll, Outline.write, Phrase.passage,
      Passage.ofLetter]
  -- the header of the metrics callout is where the narrative is cut off
  have tagged : Narrative.carriesTag (Text.of "dream-metrics") (quoted 3 Tag.metrics.written) =
      true := Narrative.carriesTag_written 3 Tag.metrics
  have areLines : ∀ line ∈ quoted 3 Tag.metrics.written :: (Pair.lines t.pairs).map (quoted 3),
      Text.IsLine line := by
    intro line listed
    refine t.isLine line ?_
    rw [WrittenDream.lines]
    exact List.mem_cons_of_mem _ (List.mem_append_right _ listed)
  rw [Dream.content, body, canonical.metrics, canonical.mode]
  exact Narrative.clean_quoted (by decide) t.narrative tagged areLines

theorem metricsRead_eq : d.metricsRead settings =
    ⟨t.pairs.map fun p => ((p.metric settings.metrics).name, p.metric settings.metrics),
      t.reports settings, none⟩ := by
  obtain ⟨n, same⟩ := shows.metrics
  have text : Metric.textOfCallout (draw 3 n (Pair.outline t.pairs)) =
      Metric.textOfLines ([] :: (Pair.lines t.pairs).map (quoted 3)) := by
    rw [← Pair.passages_quoted]
    simp [Metric.textOfCallout, draw, Pair.outline, Outline.writeAll, Tag.metrics]
  have known : ∀ p ∈ t.pairs,
      OrderedMap.has ([] : OrderedMap Text Metric) (p.metric settings.metrics).name = false :=
    fun _ _ => rfl
  rw [Dream.metricsRead, same]
  -- nothing is known in front of the first pair
  simp only [text, Metric.extract, Pair.segments_textOfLines (by decide : 3 ≠ 0),
    Pair.extractFrom_written settings.metrics [] t.pairs known t.distinct, List.nil_append]
  rfl

theorem anchor_eq : d.anchor = j.date.stamp := by
  obtain ⟨n, same⟩ := shows.journal
  have diary : d.diary.reference? = none := by
    rw [Callout.reference?, shows.title_eq]
    exact Reference.name?_eq_none (t.title.not_mem_text rfl (by decide))
  have journal : d.journal.reference? = some j.date.stamp := by
    rw [same]
    exact Reference.name?_stamp j.date
  rw [Dream.anchor, diary, journal]

theorem isVoid_eq : d.isVoid settings = false := by
  obtain ⟨c, first, letter⟩ := t.title.head_text
  have member := List.mem_of_head? first
  have inked : Text.isAllBlank t.title.text = false := by
    rw [Text.isAllBlank, List.all_eq_false]
    exact ⟨c, member, by simp [Text.isBlank_of_isAlphanum letter]⟩
  rw [Dream.isVoid, shows.title_eq, inked, Bool.and_false]

/-- The block reference in the header of the journal dates it. -/
theorem dateOf_eq (context : Note.Context) :
    context.dateOf d.journal = (.ofDate j.date .blockReference, []) := by
  obtain ⟨n, same⟩ := shows.journal
  have header : d.journal.headerLine = Text.of "> [!journal-entry] " ++ '^' :: j.date.stamp := by
    rw [same]
    rfl
  rw [Note.Context.dateOf, Callout.dateLines, header]
  exact Dating.resolve_stamp (by decide) _ _ _ _ _ _ _

theorem entry_eq (canonical : settings.IsCanonical) (source : Text) :
    d.entry settings source (.ofDate j.date .blockReference) =
      .ok (t.entry settings source j.date) := by
  simp [Dream.entry, shows.metricsRead_eq, shows.isVoid_eq, shows.content_eq canonical,
    shows.title_eq, shows.anchor_eq, shows.metadata_eq, Narrative.title_phrase, WrittenDream.entry,
    WrittenDream.words, Narrative.wordCount_phrases]

theorem assemble_entry {context : Note.Context} (canonical : context.settings.IsCanonical) :
    (context.assemble d).entry = .ok (t.entry context.settings context.source j.date) := by
  rw [Note.Context.assemble, shows.dateOf_eq]
  exact shows.entry_eq canonical context.source

theorem assemble_reports {context : Note.Context} (canonical : context.settings.IsCanonical) :
    ((context.assemble d).diagnostics.map fun r => (r.kind, r.message)) =
      t.reports context.settings := by
  obtain ⟨n, same⟩ := shows.metrics
  rw [Note.Context.assemble, shows.dateOf_eq, Dream.assemble, shows.entry_eq canonical]
  simp [Dream.metricsDiagnostics, same, shows.metricsRead_eq, Metric.Extraction.diagnostics,
    Function.comp_def]

end Shows

/-! ## All dreams of a note -/

section Related

variable {α β γ : Type} {related : α → β → Prop} {as : List α} {bs : List β}

theorem flatMap_eq_of_forall₂ {f : β → List γ} {g : α → List γ}
    (pairwise : List.Forall₂ related as bs) (same : ∀ a b, related a b → f b = g a) :
    bs.flatMap f = as.flatMap g := by
  induction pairwise with
  | nil => rfl
  | cons first _ ih => rw [List.flatMap_cons, List.flatMap_cons, same _ _ first, ih]

end Related

theorem exists_shows (canonical : settings.IsCanonical) {js : List WrittenJournal}
    (isDream : d ∈ dreamsOf settings (drawAll 1 n (js.map WrittenJournal.outline))) :
    ∃ j t, Shows j t d := by
  obtain ⟨⟨j, t⟩, _, shows⟩ := exists_left_of_forall₂ (dreamsOf_forall₂ canonical js n) isDream
  exact ⟨j, t, shows⟩

/-- What is collected from the dreams of a canonical note, when it can be told from the written
dreams. -/
theorem dreamsOf_flatMap {β : Type} (canonical : settings.IsCanonical) (js : List WrittenJournal)
    (n : Nat) {f : Dream → List β} {g : WrittenJournal → WrittenDream → List β}
    (same : ∀ j t d, Shows j t d → f d = g j t) :
    (dreamsOf settings (drawAll 1 n (js.map WrittenJournal.outline))).flatMap f =
      js.flatMap fun j => j.dreams.flatMap (g j) := by
  have told := flatMap_eq_of_forall₂ (g := fun w => g w.1 w.2) (dreamsOf_forall₂ canonical js n)
    fun w d shows => same w.1 w.2 d shows
  rw [told, List.flatMap_assoc]
  simp only [List.flatMap_map]

theorem length_dreamsOf (canonical : settings.IsCanonical) (js : List WrittenJournal) (n : Nat) :
    (dreamsOf settings (drawAll 1 n (js.map WrittenJournal.outline))).length =
      (js.flatMap WrittenJournal.dreams).length := by
  rw [← (dreamsOf_forall₂ canonical js n).length_eq]
  simp [List.length_flatMap]

/-- Every metrics callout of a canonical note belongs to a dream. -/
theorem exists_dream_of_metrics (canonical : settings.IsCanonical) {js : List WrittenJournal}
    {v : Visit} (visited : v ∈ visits (drawAll 1 n (js.map WrittenJournal.outline)))
    (kind : v.callout.kind = Text.of "dream-metrics") :
    ∃ d ∈ dreamsOf settings (drawAll 1 n (js.map WrittenJournal.outline)),
      d.metrics = some v.callout := by
  rw [visits_eq, visitsOfAll_eq] at visited
  obtain ⟨journal, isRoot, below⟩ := List.mem_flatMap.mp visited
  obtain ⟨o, isWritten, m, rfl⟩ := Outline.mem_drawAll isRoot
  obtain ⟨j, _, rfl⟩ := List.mem_map.mp isWritten
  rw [visitsOf_journal] at below
  -- a journal and a dream are no metrics callouts, and what is nested in a dream is its own
  rcases List.mem_cons.mp below with rfl | below
  · cases kind
  · obtain ⟨diary, isDiary, below⟩ := List.mem_flatMap.mp below
    obtain ⟨t, _, k, rfl⟩ := exists_dream isDiary
    rcases List.mem_cons.mp below with rfl | below
    · cases kind
    · obtain ⟨i, inside⟩ := exists_metrics t k
      rw [inside, List.map_singleton, List.mem_singleton] at below
      subst below
      rw [dreamsOf_canonical canonical]
      refine ⟨⟨draw 2 k t.outline, draw 1 m j.outline, _⟩, ?_, rfl⟩
      refine List.mem_flatMap.mpr ⟨_, isRoot, List.mem_map.mpr ⟨_, isDiary, ?_⟩⟩
      rw [inside]
      rfl

theorem looseMetrics_canonical (canonical : settings.IsCanonical) (js : List WrittenJournal)
    (n : Nat) :
    Note.looseMetrics settings.metricsCallout
      (dreamsOf settings (drawAll 1 n (js.map WrittenJournal.outline)))
      (drawAll 1 n (js.map WrittenJournal.outline)) = [] := by
  rw [Note.looseMetrics, List.filter_eq_nil_iff]
  intro c listed loose
  rw [Bool.and_eq_true, decide_eq_true_eq, Bool.not_eq_true', canonical.metrics] at loose
  obtain ⟨kind, unattached⟩ := loose
  obtain ⟨v, visited, rfl⟩ := List.mem_map.mp listed
  obtain ⟨d, isDream, own⟩ := exists_dream_of_metrics canonical visited kind
  have taken : v.callout ∈ (dreamsOf settings
      (drawAll 1 n (js.map WrittenJournal.outline))).filterMap Dream.metrics :=
    List.mem_filterMap.mpr ⟨d, isDream, own⟩
  have attached := List.contains_iff_mem.mpr (List.mem_map_of_mem (f := Callout.start) taken)
  exact Bool.false_ne_true (unattached.symm.trans attached)

/-! ## A whole note -/

/-- What reading a canonical note has to give. -/
structure RoundTrips (settings : Settings) (source : Text) (journals : List WrittenJournal)
    (x : NoteExtraction) : Prop where
  entries : x.entries =
    journals.flatMap fun j => j.dreams.map (WrittenDream.entry settings source j.date)
  journal_count : x.journals = journals.length
  dream_count : x.diaries = (journals.flatMap WrittenJournal.dreams).length
  metrics_count : x.metricsCallouts = (journals.flatMap WrittenJournal.dreams).length
  reports : (x.diagnostics.map fun d => (d.kind, d.message)) =
    (journals.flatMap WrittenJournal.dreams).flatMap (WrittenDream.reports settings)

theorem context_roundTrips (context : Note.Context) (canonical : context.settings.IsCanonical)
    (js : List WrittenJournal) :
    RoundTrips context.settings context.source js
      (context.extract (drawAll 1 0 (js.map WrittenJournal.outline)) []) := by
  constructor
  case entries =>
    have told := dreamsOf_flatMap canonical js 0 (f := fun d =>
      (context.assemble d).entry.toOption.toList)
      (g := fun j t => [t.entry context.settings context.source j.date])
      fun j t d shows => by rw [shows.assemble_entry canonical]; rfl
    rw [← List.filterMap_eq_flatMap_toList] at told
    simp only [← List.map_eq_flatMap] at told
    exact told
  case journal_count =>
    have drawn := (Outline.drawAll_forall₂ 1 0 (js.map WrittenJournal.outline)).length_eq
    rw [Note.Context.extract, sightings_canonical canonical, countP_isJournal_flatMap, ← drawn,
      List.length_map]
  case dream_count => exact length_dreamsOf canonical js 0
  case metrics_count =>
    rw [← length_dreamsOf canonical js 0]
    refine List.filterMap_length_eq_length.mpr fun d isDream => ?_
    obtain ⟨j, t, shows⟩ := exists_shows canonical isDream
    obtain ⟨n, same⟩ := shows.metrics
    rw [same]
    rfl
  case reports =>
    -- no diary stands outside of a journal and every journal is dated by its reference, so that
    -- what is left to report comes from the dreams
    have noStray : ∀ sighting ∈ sightings context.settings
        (drawAll 1 0 (js.map WrittenJournal.outline)), sighting.isStray = false := by
      rw [sightings_canonical canonical]
      intro sighting listed
      obtain ⟨c, _, member⟩ := List.mem_flatMap.mp listed
      rcases List.mem_cons.mp member with rfl | dream
      · rfl
      · obtain ⟨d, _, rfl⟩ := List.mem_map.mp dream
        rfl
    have told := context.report_eq [] _ noStray fun d isDream => by
      obtain ⟨j, t, shows⟩ := exists_shows canonical isDream
      rw [shows.dateOf_eq]
    have reports := dreamsOf_flatMap canonical js 0 (g := fun _ t => t.reports context.settings)
      fun j t d shows => shows.assemble_reports canonical
    have loose := looseMetrics_canonical canonical js 0
    rw [dreamsOf] at loose reports
    simp only [Note.Context.extract, loose, told, List.map_nil, List.append_nil, List.nil_append,
      List.map_flatMap, reports, List.flatMap_assoc]

/-- Extracting a canonical note gives the entries of its dreams, whatever metrics are configured. -/
theorem extract_canonicalNote (settings : Settings) (today : Date) (source : Text)
    (journals : List WrittenJournal) (canonical : settings.IsCanonical) :
    ∃ x, Note.extract settings today source (canonicalNote journals) = .ok x ∧
      RoundTrips settings source journals x := by
  have front : Note.frontMatterOf source (canonicalNote journals) = .ok ([], []) := by
    rw [Note.frontMatterOf, ofNote_canonicalNote]
  refine ⟨_, extract_eq_of_frontMatter front, ?_⟩
  rw [scan_canonicalNote]
  exact context_roundTrips ⟨settings, today, source, Text.lines (canonicalNote journals), []⟩
    canonical journals

/-- A day with a dream that has a metric with bounds and one without a definition. -/
def seaJournal : WrittenJournal where
  date := ⟨2025, 6, 15, by decide⟩
  dreams := [
    { title := .ofWords (["The", "Sea"].map Text.of) rfl rfl
      narrative := [.ofWords (["Waves", "rose"].map Text.of) rfl rfl,
        .ofWords (["again"].map Text.of) rfl rfl]
      pairs := [⟨.ofWords (["lucidity", "level"].map Text.of) rfl rfl, 9, by decide⟩,
        ⟨.ofWords (["Mood"].map Text.of) rfl rfl, -2, by decide⟩]
      distinct := by decide +kernel }]

theorem extract_canonicalNote_sea : Settings.standard.IsCanonical ∧
    ∃ x, Note.extract Settings.standard ⟨2030, 1, 1, by decide⟩ (Text.of "a.md")
        (canonicalNote [seaJournal]) = .ok x ∧
      RoundTrips Settings.standard (Text.of "a.md") [seaJournal] x ∧
      (x.entries.map fun e => (e.anchor, e.title, e.content, e.wordCount)) =
        [(Text.of "20250615", Text.of "The Sea", Text.of "Waves rose again", 3)] := by
  have canonical : Settings.standard.IsCanonical := ⟨rfl, rfl, rfl, rfl⟩
  obtain ⟨x, returned, trips⟩ := extract_canonicalNote Settings.standard ⟨2030, 1, 1, by decide⟩
    (Text.of "a.md") [seaJournal] canonical
  refine ⟨canonical, x, returned, trips, ?_⟩
  rw [trips.entries]
  decide

example : canonicalNote [seaJournal] = Text.joinLines (
    ["> [!journal-entry] ^20250615", ">> [!dream-diary] The Sea", ">> Waves rose", ">> again",
      ">>> [!dream-metrics]", ">>> lucidity level: 9, Mood: -2"].map Text.of) := by
  decide +kernel

end DreamJournal
