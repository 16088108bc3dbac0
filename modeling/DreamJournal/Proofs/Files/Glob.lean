import DreamJournal.Files.Glob

/-!
# What glob patterns stand for

The pieces of a pattern stand for a text that falls into stretches, one for each piece: any stretch
for a star, and one admitted character for everything else. The matcher decides this, a star either
giving up or taking one more character.
-/
namespace DreamJournal.Glob

open scoped List

/-- Pieces stand for a text that falls into stretches of theirs. -/
def Stands : (ps : List Piece) → (t : Text) → Prop
  | [], t => t = []
  | .anyText :: more, t => ∃ rest, rest <:+ t ∧ Stands more rest
  | piece :: more, t => ∃ c rest, t = c :: rest ∧ piece.admits c = true ∧ Stands more rest

/-- A pattern covers the texts that its pieces stand for. -/
def Covers (pattern t : Text) : Prop := Stands (pieces pattern) t

variable {ps : List Piece} {pattern t : Text}

theorem stand_iff : stand ps t = true ↔ Stands ps t := by
  fun_induction stand ps t with
  | case1 t => simp [Stands]
  | case2 more ih => simp [Stands, ih]
  | case3 more c rest here later =>
    -- what a star leaves over is the whole text, or a suffix of what is behind its first character
    simp only [Stands, Bool.or_eq_true, here, later, List.suffix_cons_iff, or_and_right, exists_or,
      exists_eq_left]
  | case4 piece more single => simp [Stands]
  | case5 piece more c rest single ih => simp [Stands, ih, and_assoc]

theorem covers_iff : covers pattern t = true ↔ Covers pattern t := stand_iff

end DreamJournal.Glob
