import DreamJournal.Proofs.Dating.Stamp
import DreamJournal.Proofs.Text.Order

/-!
# Dates in the order of their texts

Dates are put in order by their numbers, and an open month or day counts as zero. The text of a day
has its year, its month and its day in fixed widths, and that of a year alone is how the texts of
its days begin. So for all dates that a journal can get, the order of the numbers is the order of
the texts.

Without the widths this fails: a year of five digits would come too early as a text. That all dates
have them is due to where they come from, a day of the calendar or a year of our time.
-/
namespace DreamJournal

namespace ResolvedDate

/-- A date that some journal gets. -/
def IsResolved (d : ResolvedDate) : Prop :=
  ∃ context source line today, (Dating.resolve context source line today).1 = d

/-- What the strategies can come to: a day of the calendar, or a year alone that a path names. -/
inductive IsKnown : ResolvedDate → Prop where
  | day (date : Date) (strategy : DateStrategy) : IsKnown (ofDate date strategy)
  | year {n : Nat} (first : 1900 ≤ n) (last : n ≤ 2100) : IsKnown (ofYear n .pathInference)

end ResolvedDate

open ResolvedDate

/-! ## Where dates come from -/

theorem Finding.exists_day_of_candidates {strategy : DateStrategy} {candidates : List Candidate}
    {d : ResolvedDate} (found : (ofCandidates strategy candidates).date = some d) :
    ∃ date, d = ofDate date strategy := by
  induction candidates with
  | nil => cases found
  | cons candidate rest ih =>
    cases candidate with
    | day date => exact ⟨date, (Option.some.inj found).symm⟩
    | impossible complaint => exact ih found
    | other => exact ih found

namespace Dating

theorem exists_year_of_path {path : Text} {d : ResolvedDate} (found : fromPath path = some d) :
    ∃ n, 1900 ≤ n ∧ n ≤ 2100 ∧ d = ofYear n .pathInference := by
  obtain ⟨year, first, rfl⟩ := Option.map_eq_some_iff.mp found
  have inRange := List.find?_some first
  simp only [Bool.and_eq_true, decide_eq_true_eq] at inRange
  exact ⟨year, inRange.1, inRange.2, rfl⟩

theorem findings_isKnown {context : Context} {found : Finding} (member : found ∈ findings context)
    {d : ResolvedDate} (isDate : found.date = some d) : IsKnown d := by
  have known {strategy : DateStrategy} (date : ∃ date, d = ofDate date strategy) : IsKnown d := by
    obtain ⟨date, rfl⟩ := date
    exact .day date strategy
  simp only [findings, List.mem_cons, List.not_mem_nil, or_false] at member
  rcases member with rfl | rfl | rfl | rfl
  · exact known (Finding.exists_day_of_candidates isDate)
  · exact known (Finding.exists_day_of_candidates isDate)
  · exact known (Finding.exists_day_of_candidates isDate)
  · obtain ⟨n, first, last, rfl⟩ := exists_year_of_path isDate
    exact .year first last

theorem exists_of_firstDate {fs : List Finding} {d : ResolvedDate}
    (isDate : (firstDate fs).date = some d) : ∃ found ∈ fs, found.date = some d := by
  induction fs with
  | nil => cases isDate
  | cons f rest ih =>
    rw [firstDate] at isDate
    split at isDate
    · exact ⟨f, List.mem_cons_self, isDate⟩
    · obtain ⟨found, later, here⟩ := ih isDate
      exact ⟨found, List.mem_cons_of_mem f later, here⟩

end Dating

namespace ResolvedDate

variable {a b d : ResolvedDate}

theorem IsResolved.isKnown (resolved : IsResolved d) : IsKnown d := by
  obtain ⟨context, source, line, today, rfl⟩ := resolved
  unfold Dating.resolve
  cases isDate : (Dating.firstDate (Dating.findings context)).date with
  | some date =>
    obtain ⟨found, member, here⟩ := Dating.exists_of_firstDate isDate
    simpa only [isDate] using Dating.findings_isKnown member here
  | none => simpa only [isDate] using .day today .fallbackToday

/-! ## The order of the numbers -/

theorem keyLe_iff (a b : Nat × Nat × Nat) : keyLe a b = true ↔
    a.1 < b.1 ∨ a.1 = b.1 ∧ (a.2.1 < b.2.1 ∨ a.2.1 = b.2.1 ∧ a.2.2 ≤ b.2.2) := by
  simp [keyLe]

theorem keyLe_total (a b : Nat × Nat × Nat) : (keyLe a b || keyLe b a) = true := by
  rw [Bool.or_eq_true, keyLe_iff, keyLe_iff]
  omega

theorem keyLe_trans {a b c : Nat × Nat × Nat} (first : keyLe a b = true)
    (second : keyLe b c = true) : keyLe a c = true := by
  rw [keyLe_iff] at first second ⊢
  omega

theorem keyLe_antisymm {a b : Nat × Nat × Nat} (first : keyLe a b = true)
    (second : keyLe b a = true) : a = b := by
  rw [keyLe_iff] at first second
  apply Prod.ext
  · omega
  · apply Prod.ext <;> omega

/-! ## The order of the texts -/

theorem IsKnown.length_year (known : IsKnown d) : (Text.padded 4 d.year).length = 4 := by
  cases known with
  | day date strategy => exact date.stamp_widths.1
  | @year n first last => exact Text.length_padded (n := n) (by decide) (by omega)

/-- What follows the year in the text of a date. -/
def behindYear (d : ResolvedDate) : Text :=
  match d.month, d.day with
  | some month, some day => '-' :: (Text.padded 2 month ++ '-' :: Text.padded 2 day)
  | _, _ => []

theorem iso_eq (d : ResolvedDate) : d.iso = Text.padded 4 d.year ++ d.behindYear := by
  obtain ⟨year, month, day, strategy⟩ := d
  cases month <;> cases day <;> simp [iso, behindYear, Date.isoText]

theorem behindYear_lt_of_days {x y : Date} {s t : DateStrategy} :
    (ofDate x s).behindYear < (ofDate y t).behindYear ↔
      x.month < y.month ∨ x.month = y.month ∧ x.day < y.day := by
  obtain ⟨_, xMonth, xDay⟩ := x.stamp_widths
  obtain ⟨_, yMonth, yDay⟩ := y.stamp_widths
  have months := xMonth.trans yMonth.symm
  have days := xDay.trans yDay.symm
  simp only [behindYear, ofDate, List.cons_lt_cons_iff, lt_irrefl, true_and, false_or,
    Text.append_lt_append_iff months, Text.padded_lt_padded_iff months,
    Text.padded_lt_padded_iff days, Text.padded_inj]

/-- Within a year, texts are in order by month and day, and the year alone is in front. -/
theorem IsKnown.behindYear_lt_iff (left : IsKnown a) (right : IsKnown b) :
    a.behindYear < b.behindYear ↔ a.sortKey.2.1 < b.sortKey.2.1 ∨
      a.sortKey.2.1 = b.sortKey.2.1 ∧ a.sortKey.2.2 < b.sortKey.2.2 := by
  cases left with
  | day x s =>
    cases right with
    | day y t => exact behindYear_lt_of_days
    | year first last => simp [behindYear, ofDate, ofYear, sortKey]
  | year first last =>
    cases right with
    | day y t =>
      obtain ⟨_, _, given, _⟩ := y.real
      have later : 0 < y.month := given
      simp [behindYear, ofDate, ofYear, sortKey, later]
    | year first last => simp [behindYear, ofYear, sortKey]

/-- Of two dates that a journal can get, the one with the smaller numbers has the earlier text. -/
theorem IsKnown.iso_lt_iff (left : IsKnown a) (right : IsKnown b) :
    a.iso < b.iso ↔ ¬keyLe b.sortKey a.sortKey = true := by
  have years := left.length_year.trans right.length_year.symm
  rw [iso_eq, iso_eq, Text.append_lt_append_iff years, Text.padded_lt_padded_iff years,
    Text.padded_inj, left.behindYear_lt_iff right, keyLe_iff]
  have leftYear : a.sortKey.1 = a.year := rfl
  have rightYear : b.sortKey.1 = b.year := rfl
  omega

theorem IsKnown.iso_le_iff (left : IsKnown a) (right : IsKnown b) :
    a.iso ≤ b.iso ↔ keyLe a.sortKey b.sortKey = true := by
  rw [← not_lt, right.iso_lt_iff left, not_not]

theorem behindYear_eq_nil_iff (d : ResolvedDate) : d.behindYear = [] ↔ d.isPartial = true := by
  obtain ⟨year, month, day, strategy⟩ := d
  cases month <;> cases day <;> simp [behindYear, isPartial]

/-- A year alone comes before all days of that year. -/
theorem iso_lt_of_isPartial (yearAlone : a.isPartial = true) (full : b.isPartial = false)
    (same : a.year = b.year) : a.iso < b.iso := by
  have nothing := (behindYear_eq_nil_iff a).mpr yearAlone
  have more : b.behindYear ≠ [] := by
    rw [ne_eq, behindYear_eq_nil_iff, full]
    exact Bool.false_ne_true
  rw [iso_eq, iso_eq, nothing, List.append_nil, same]
  exact Text.lt_append more

end ResolvedDate
end DreamJournal
