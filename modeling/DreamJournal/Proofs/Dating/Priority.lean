import DreamJournal.Proofs.Dating.Order

/-!
# The order of the strategies

A journal gets its date from one strategy, the first in the order that finds one, and nothing of
what the others would find goes into it. The strategies before it are only heard in their
complaints, and those behind it not at all. `resolve_first` puts the five strategies on a par: the
fallback is the last of them and always finds the day on which the note is read.
-/
namespace DreamJournal

open ResolvedDate

variable {context : Dating.Context} {today : Date} {strategy : DateStrategy} {d : ResolvedDate}

namespace Dating

/-- What a strategy finds on its own. -/
def attempt (context : Context) (today : Date) : DateStrategy → Finding
  | .blockReference => fromBlockReference context.lines
  | .headerDate => fromLongDate context.header
  | .frontMatterField => fromFrontMatter context.frontMatter
  | .pathInference => ⟨fromPath context.path, []⟩
  | .fallbackToday => ⟨some (fallback today), []⟩

/-- The strategies that look at a context. -/
def searching : List DateStrategy := DateStrategy.all.dropLast

theorem findings_eq (context : Context) (today : Date) :
    findings context = searching.map (attempt context today) := rfl

/-! ## The first finding with a date -/

theorem firstDate_behind {failed : List Finding} (none : ∀ f ∈ failed, f.date = none)
    (rest : List Finding) : firstDate (failed ++ rest) =
      ⟨(firstDate rest).date,
        failed.flatMap Finding.complaints ++ (firstDate rest).complaints⟩ := by
  induction failed with
  | nil => rfl
  | cons f failed ih =>
    have ⟨here, later⟩ := List.forall_mem_cons.mp none
    rw [List.cons_append, firstDate, here, ih later, List.flatMap_cons, List.append_assoc]

theorem firstDate_of_some {f : Finding} (found : f.date = some d) (rest : List Finding) :
    firstDate (f :: rest) = f := by
  rw [firstDate, found]

/-- The complaints of several findings are, as diagnostics, their diagnostics one after another. -/
theorem diagnostics_flatMap {α : Type} (date : Option ResolvedDate) (f : α → Finding)
    (xs : List α) (source : Text) :
    Finding.diagnostics ⟨date, xs.flatMap fun x => (f x).complaints⟩ source =
      xs.flatMap fun x => (f x).diagnostics source := by
  rw [Finding.diagnostics, List.map_flatMap]
  rfl

/-! ## What a strategy can find -/

/-- The dates that a strategy can come to: that of a path is a year of our time, and every other
one is a day of the calendar. -/
inductive IsOf : DateStrategy → ResolvedDate → Prop where
  | day {strategy : DateStrategy} (other : strategy ≠ .pathInference) (date : Date) :
    IsOf strategy (.ofDate date strategy)
  | year {n : Nat} (first : 1900 ≤ n) (last : n ≤ 2100) :
    IsOf .pathInference (.ofYear n .pathInference)

theorem isOf_attempt (found : (attempt context today strategy).date = some d) :
    IsOf strategy d := by
  have ofDay (other : strategy ≠ .pathInference) (day : ∃ date, d = ofDate date strategy) :
      IsOf strategy d := by
    obtain ⟨date, rfl⟩ := day
    exact .day other date
  cases strategy with
  | blockReference => exact ofDay (by decide) (Finding.exists_day_of_candidates found)
  | headerDate => exact ofDay (by decide) (Finding.exists_day_of_candidates found)
  | frontMatterField => exact ofDay (by decide) (Finding.exists_day_of_candidates found)
  | pathInference =>
    obtain ⟨n, first, last, rfl⟩ := exists_year_of_path found
    exact .year first last
  | fallbackToday => exact ofDay (by decide) ⟨today, (Option.some.inj found).symm⟩

/-! ## The strategy that settles the date -/

/-- What some strategies say about dates that are no day, one after another. -/
def told (context : Context) (today : Date) (source : Text) (tried : List DateStrategy) :
    List Diagnostic :=
  tried.flatMap fun strategy => (attempt context today strategy).diagnostics source

theorem told_append (source : Text) (tried others : List DateStrategy) :
    told context today source (tried ++ others) =
      told context today source tried ++ told context today source others :=
  List.flatMap_append

theorem told_invalid (source : Text) (tried : List DateStrategy) :
    ∀ diagnostic ∈ told context today source tried, diagnostic.kind = .dateInvalid := by
  intro diagnostic member
  obtain ⟨strategy, _, said⟩ := List.mem_flatMap.mp member
  obtain ⟨complaint, _, rfl⟩ := List.mem_map.mp said
  rfl

theorem resolve_found (source : Text) (line : Option Nat) {earlier later : List DateStrategy}
    (split : searching = earlier ++ strategy :: later)
    (failed : ∀ other ∈ earlier, (attempt context today other).date = none)
    (found : (attempt context today strategy).date = some d) :
    resolve context source line today = (d, told context today source (earlier ++ [strategy])) := by
  have settled : firstDate (findings context) = ⟨some d,
      (earlier ++ [strategy]).flatMap fun tried => (attempt context today tried).complaints⟩ := by
    rw [findings_eq context today, split, List.map_append, List.map_cons,
      firstDate_behind (List.forall_mem_map.mpr failed), firstDate_of_some found, found]
    simp [List.flatMap_map]
  simp only [resolve, settled, told, ← diagnostics_flatMap (some d)]

theorem resolve_fallback (source : Text) (line : Option Nat)
    (failed : ∀ other ∈ searching, (attempt context today other).date = none) :
    resolve context source line today = (fallback today,
      told context today source searching ++ [⟨source, .dateUnresolved, unresolved, line⟩]) := by
  have settled : firstDate (findings context) = ⟨none,
      searching.flatMap fun tried => (attempt context today tried).complaints⟩ := by
    rw [findings_eq context today, ← List.append_nil (searching.map _),
      firstDate_behind (List.forall_mem_map.mpr failed)]
    simp [firstDate, Finding.nothing, List.flatMap_map]
  simp only [resolve, settled, told, ← diagnostics_flatMap none]

/-- A date and diagnostics are due to one strategy: it finds the date when it is asked alone, those
in front of it find none, and the diagnostics are those about dates that are no day, strategy by
strategy, and one more when no strategy but the fallback finds a date. -/
structure SettledBy (context : Context) (source : Text) (line : Option Nat) (today : Date)
    (earlier : List DateStrategy) (strategy : DateStrategy)
    (result : ResolvedDate × List Diagnostic) : Prop where
  ordered : ∃ later, DateStrategy.all = earlier ++ strategy :: later
  failed : ∀ other ∈ earlier, (attempt context today other).date = none
  found : (attempt context today strategy).date = some result.1
  diagnostics : result.2 = told context today source (earlier ++ [strategy]) ++
    if strategy = .fallbackToday then [⟨source, .dateUnresolved, unresolved, line⟩] else []
  invalid : ∀ diagnostic ∈ told context today source (earlier ++ [strategy]),
    diagnostic.kind = .dateInvalid
  isOf : IsOf strategy result.1

/-- One of the strategies is the first that finds a date, or all of them fail. -/
theorem exists_first_or_failed (context : Context) (today : Date) :
    (∃ earlier strategy later d, searching = earlier ++ strategy :: later ∧
      (∀ other ∈ earlier, (attempt context today other).date = none) ∧
      (attempt context today strategy).date = some d) ∨
    ∀ other ∈ searching, (attempt context today other).date = none := by
  cases first : searching.find? fun tried => (attempt context today tried).date.isSome with
  | some strategy =>
    obtain ⟨finds, earlier, later, split, none⟩ := List.find?_eq_some_iff_append.mp first
    obtain ⟨date, found⟩ := Option.isSome_iff_exists.mp finds
    refine .inl ⟨earlier, strategy, later, date, split, fun other member => ?_, found⟩
    simpa using none other member
  | none =>
    refine .inr fun other member => ?_
    simpa using List.find?_eq_none.mp first other member

/-- One strategy settles the date: the first that finds one. -/
theorem resolve_first (context : Context) (source : Text) (line : Option Nat) (today : Date) :
    ∃ earlier strategy, SettledBy context source line today earlier strategy
      (resolve context source line today) := by
  have whole : DateStrategy.all = searching ++ [.fallbackToday] := rfl
  rcases exists_first_or_failed context today with
    ⟨earlier, strategy, later, date, split, failed, found⟩ | failed
  · have searched : strategy ≠ .fallbackToday := by
      rintro rfl
      have member : .fallbackToday ∈ searching := by simp [split]
      exact absurd member (by decide)
    rw [resolve_found source line split failed found]
    refine ⟨earlier, strategy, ⟨later ++ [.fallbackToday], ?_⟩, failed, found, ?_,
      told_invalid source _, isOf_attempt found⟩
    · rw [whole, split, List.append_assoc, List.cons_append]
    · rw [if_neg searched, List.append_nil]
  · rw [resolve_fallback source line failed]
    refine ⟨searching, .fallbackToday, ⟨[], whole⟩, failed, rfl, ?_, told_invalid source _,
      .day (by decide) today⟩
    -- the fallback has nothing to complain of
    have silent : told context today source [.fallbackToday] = [] := rfl
    rw [told_append, silent, List.append_nil, if_pos rfl]

end Dating
end DreamJournal
