import DreamJournal.Callout.Header
import DreamJournal.Proofs.Text.Splitting

/-!
# Runs of quote markers

Between the markers of a line there can be any gaps. Of a quoted line only the number of markers and
what stands behind them are ever read, and these two also tell whether the line is blank. Two lines
that agree in them are spellings of one line; in the tight spelling nothing stands between the
markers.
-/
namespace DreamJournal.Marker

variable {line other run behind : Text} {lines others : List Text}

theorem count_run (parts : ∀ c ∈ run, isPart c = true)
    (ends : ∀ c ∈ behind.head?, isPart c = false) : count (run ++ behind) = run.count '>' := by
  rw [count, Text.takeWhile_run parts ends]

theorem strip_run (parts : ∀ c ∈ run, isPart c = true)
    (ends : ∀ c ∈ behind.head?, isPart c = false) (quoted : run.count '>' ≠ 0) :
    strip (run ++ behind) = behind := by
  rw [strip, count_run parts ends, if_neg quoted, Text.dropWhile_run parts ends]

theorem mem_of_marked (given : count line ≠ 0) : '>' ∈ line.takeWhile isPart :=
  List.count_pos_iff.mp (Nat.pos_of_ne_zero given)

theorem isAllBlank_of_marked (given : count line ≠ 0) : Text.isAllBlank line = false := by
  have member : '>' ∈ line := (List.takeWhile_prefix _).subset (mem_of_marked given)
  exact List.all_eq_false.mpr ⟨'>', member, by decide⟩

/-! ## Spellings -/

/-- Two spellings of a line. -/
structure Respelled (line other : Text) : Prop where
  count_eq : count line = count other
  strip_eq : strip line = strip other

instance (line other : Text) : Decidable (Respelled line other) :=
  decidable_of_iff (count line = count other ∧ strip line = strip other)
    ⟨fun ⟨counted, stripped⟩ => ⟨counted, stripped⟩, fun same => ⟨same.count_eq, same.strip_eq⟩⟩

theorem Respelled.eq_of_unquoted (same : Respelled line other) (unquoted : count line = 0) :
    line = other := by
  have stripped := same.strip_eq
  rwa [strip, if_pos unquoted, strip, if_pos (same.count_eq ▸ unquoted)] at stripped

theorem Respelled.isAllBlank_eq (same : Respelled line other) :
    Text.isAllBlank line = Text.isAllBlank other := by
  by_cases unquoted : count line = 0
  · rw [same.eq_of_unquoted unquoted]
  · rw [isAllBlank_of_marked unquoted, isAllBlank_of_marked (same.count_eq ▸ unquoted)]

theorem Respelled.ofLine?_eq (same : Respelled line other) :
    Header.ofLine? line = Header.ofLine? other := by
  rw [Header.ofLine?, Header.ofLine?, same.count_eq, same.strip_eq]

/-- A line with nothing between its markers. -/
def tight (line : Text) : Text :=
  if count line = 0 then line else List.replicate (count line) '>' ++ strip line

theorem tight_respelled (line : Text) : Respelled line (tight line) := by
  by_cases unquoted : count line = 0
  · rw [tight, if_pos unquoted]
    exact ⟨rfl, rfl⟩
  · have markers : ∀ c ∈ List.replicate (count line) '>', isPart c = true := by
      intro c member
      rw [List.eq_of_mem_replicate member]
      rfl
    have stops : ∀ c ∈ (strip line).head?, isPart c = false := by
      rw [strip, if_neg unquoted]
      exact Text.head?_dropWhile line
    have counted : (List.replicate (count line) '>').count '>' = count line :=
      List.count_replicate_self
    rw [tight, if_neg unquoted]
    constructor
    · rw [count_run markers stops, counted]
    · rw [strip_run markers stops (by rwa [counted])]

theorem Respelled.tight_eq (same : Respelled line other) : tight line = tight other := by
  by_cases unquoted : count line = 0
  · rw [same.eq_of_unquoted unquoted]
  · rw [tight, if_neg unquoted, tight, if_neg (same.count_eq ▸ unquoted), same.count_eq,
      same.strip_eq]

theorem map_tight_eq (same : List.Forall₂ Respelled lines others) :
    lines.map tight = others.map tight := by
  induction same with
  | nil => rfl
  | cons here _ ih => rw [List.map_cons, List.map_cons, here.tight_eq, ih]

end DreamJournal.Marker
