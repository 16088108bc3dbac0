import DreamJournal.Callout.Basic
import DreamJournal.Proofs.Callout.Marker
import Mathlib.Data.List.TakeWhile

/-!
# Writing callouts

An outline is a callout before it is written: a tag, passages of text, and the callouts inside it.
It is written with as many quote markers as callouts are around it and one more, the passages in
front of the inner callouts. `draw` is the callout that an outline stands for when its first line
is known. Only tags and passages that a single line can hold go into an outline, so what a line of
it is read as does not depend on where it stands.
-/
namespace DreamJournal

open Text (isGap isBlank)

/-- A name of a kind, as callouts carry it. -/
structure Header.IsKind (kind : Text) : Prop where
  starts : ∃ c ∈ kind.head?, Header.startsKind c = true
  parts : ∀ c ∈ kind, Header.inKind c = true
  small : Text.lower kind = kind

/-- A title, as callouts carry it; it may be empty. -/
structure Header.IsTitle (title : Text) : Prop where
  unbroken : '\n' ∉ title
  starts : ∀ c ∈ title.head?, isGap c = false
  ends : ∀ c ∈ title.getLast?, isGap c = false

structure Tag where
  kind : Text
  title : Text
  isKind : Header.IsKind kind
  isTitle : Header.IsTitle title

/-- A text that begins with a character that neither quotes it nor makes a tag of it. -/
structure Passage where
  text : Text
  starts : ∃ c ∈ text.head?, isBlank c = false ∧ c ≠ '>' ∧ c ≠ '['

/-- What stands behind the markers of a header. -/
def Tag.written (tag : Tag) : Text :=
  '[' :: '!' :: (tag.kind ++ ']' :: if tag.title = [] then [] else ' ' :: tag.title)

/-- A line with quote markers. -/
def quoted (depth : Nat) (t : Text) : Text := List.replicate depth '>' ++ ' ' :: t

inductive Outline where
  | callout (tag : Tag) (passages : List Passage) (inner : List Outline)

namespace Outline

mutual

/-- The lines of an outline whose header gets `depth` markers. -/
def write (depth : Nat) : Outline → List Text
  | callout tag passages inner =>
    quoted depth tag.written ::
      (passages.map (fun p => quoted depth p.text) ++ writeAll (depth + 1) inner)

def writeAll (depth : Nat) : List Outline → List Text
  | [] => []
  | first :: rest => write depth first ++ writeAll depth rest

end

mutual

/-- The callout of an outline that begins on line `start`. -/
def draw (depth start : Nat) : Outline → Callout
  | callout tag passages inner =>
    let body := passages.map (fun p => quoted depth p.text) ++ writeAll (depth + 1) inner
    { depth, kind := tag.kind, metadataText := none
      headerLine := quoted depth tag.written
      title := tag.title
      body, start
      stop := start + body.length
      children := drawAll (depth + 1) (start + 1 + passages.length) inner }

def drawAll (depth start : Nat) : List Outline → List Callout
  | [] => []
  | first :: rest =>
    draw depth start first :: drawAll depth (start + (write depth first).length) rest

end

end Outline

namespace Outline

theorem writeAll_eq (depth : Nat) (os : List Outline) :
    writeAll depth os = os.flatMap (write depth) := by
  induction os with
  | nil => rfl
  | cons first rest ih => rw [writeAll, ih, List.flatMap_cons]

/-- The callouts that outlines stand for are drawn in the order of the outlines. -/
theorem drawAll_forall₂ (depth start : Nat) (os : List Outline) :
    List.Forall₂ (fun o c => ∃ n, c = draw depth n o) os (drawAll depth start os) := by
  induction os generalizing start with
  | nil => exact .nil
  | cons first rest ih => exact .cons ⟨start, rfl⟩ (ih _)

theorem mem_drawAll {depth start : Nat} {os : List Outline} {c : Callout}
    (member : c ∈ drawAll depth start os) : ∃ o ∈ os, ∃ n, c = draw depth n o := by
  induction os generalizing start with
  | nil => cases member
  | cons first rest ih =>
    rcases List.mem_cons.mp member with rfl | later
    · exact ⟨first, List.mem_cons_self, start, rfl⟩
    · obtain ⟨o, listed, drawn⟩ := ih later
      exact ⟨o, List.mem_cons_of_mem _ listed, drawn⟩

end Outline

/-! ## Quoted lines -/

section Quoted

variable {depth : Nat} {t : Text}

theorem quoted_eq (depth : Nat) (t : Text) :
    quoted depth t = (List.replicate depth '>' ++ [' ']) ++ t := by
  rw [quoted, List.append_assoc, List.singleton_append]

theorem isPart_of_mem {c : Char} (member : c ∈ List.replicate depth '>' ++ [' ']) :
    Marker.isPart c = true := by
  rcases List.mem_append.mp member with marker | space
  · rw [List.eq_of_mem_replicate marker]
    rfl
  · rw [List.mem_singleton.mp space]
    rfl

theorem count_markers : (List.replicate depth '>' ++ [' ']).count '>' = depth := by simp

theorem count_quoted (starts : ∀ c ∈ t.head?, Marker.isPart c = false) :
    Marker.count (quoted depth t) = depth := by
  rw [quoted_eq, Marker.count_run (fun _ => isPart_of_mem) starts, count_markers]

theorem strip_quoted (given : depth ≠ 0) (starts : ∀ c ∈ t.head?, Marker.isPart c = false) :
    Marker.strip (quoted depth t) = t := by
  rw [quoted_eq, Marker.strip_run (fun _ => isPart_of_mem) starts (by rwa [count_markers])]

theorem not_mem_quoted {mark : Char} (noMarker : mark ≠ '>') (noSpace : mark ≠ ' ')
    (absent : mark ∉ t) : mark ∉ quoted depth t := by
  simp [quoted, List.mem_replicate, noMarker, noSpace, absent]

theorem isLine_quoted (unbroken : ∀ c ∈ t, Text.isLineBreak c = false) :
    Text.IsLine (quoted depth t) := by
  refine ⟨by simp [quoted], fun c member => ?_⟩
  rcases List.mem_append.mp member with marker | further
  · rw [List.eq_of_mem_replicate marker]
    rfl
  · rcases List.mem_cons.mp further with rfl | inside
    · rfl
    · exact unbroken c inside

theorem isAllBlank_quoted (given : depth ≠ 0) : Text.isAllBlank (quoted depth t) = false := by
  obtain ⟨depth, rfl⟩ := Nat.exists_eq_succ_of_ne_zero given
  rfl

end Quoted

/-! ## Tags -/

/-- A text without the line feed at its end. -/
def chomp (written : Text) : Text :=
  match written.reverse with
  | '\n' :: body => body.reverse
  | _ => written

theorem chomp_eq_self (unbroken : '\n' ∉ t) : chomp t = t := by
  unfold chomp
  split
  next body reversed =>
    have member : '\n' ∈ t.reverse := by rw [reversed]; exact List.mem_cons_self
    exact absurd (List.mem_reverse.mp member) unbroken
  next => rfl

/-- A name that a callout kind can have, in any case. -/
structure Header.IsKindName (name : Text) : Prop where
  starts : ∃ c ∈ name.head?, startsKind c = true
  parts : ∀ c ∈ name, inKind c = true

instance (name : Text) : Decidable (Header.IsKindName name) :=
  decidable_of_iff (name.head?.any Header.startsKind = true ∧ name.all Header.inKind = true)
    ⟨fun both => ⟨(Option.any_eq_true _ _).mp both.1, List.all_eq_true.mp both.2⟩,
      fun isName => ⟨(Option.any_eq_true _ _).mpr isName.starts, List.all_eq_true.mpr isName.parts⟩⟩

theorem Header.title?_spaced {title : Text} (isTitle : IsTitle title) :
    title? (' ' :: title) = some title := by
  have unsigned : title? (' ' :: title) =
      let line := chomp ((' ' :: title).dropWhile isGap)
      if line.contains '\n' then none else some (Text.trimEnd isGap line) := rfl
  have written : (' ' :: title).dropWhile isGap = title := by
    rw [List.dropWhile_cons_of_pos rfl, Text.dropWhile_eq_self isTitle.starts]
  -- a line break at the very end would be taken off, but a title has none
  rw [unsigned, written, chomp_eq_self isTitle.unbroken]
  simp only [List.contains_iff_mem, isTitle.unbroken, if_false, Text.trimEnd_eq_self isTitle.ends]

theorem Header.title?_of_isTitle {title : Text} (isTitle : IsTitle title) :
    title? (if title = [] then [] else ' ' :: title) = some title := by
  by_cases empty : title = []
  · rw [if_pos empty, empty]
    rfl
  · rw [if_neg empty, title?_spaced isTitle]

/-- A tag is read as its parts when nothing of what closes it runs on from the name. -/
theorem Header.tag?_named {name tail after title : Text} {metadata : Option Text}
    (isName : IsKindName name) (ends : ∀ c ∈ tail.head?, inKind c = false)
    (closed : metadata? tail = some (metadata, after)) (titled : title? after = some title) :
    tag? ('[' :: '!' :: (name ++ tail)) = some (Text.lower name, metadata, title) := by
  obtain ⟨⟨c, first, starts⟩, parts⟩ := isName
  obtain ⟨rest, rfl⟩ := List.head?_eq_some_iff.mp first
  have inside : ∀ d ∈ rest, inKind d = true :=
    fun d member => parts d (List.mem_cons_of_mem c member)
  simp only [List.cons_append, tag?, starts, if_true, Text.takeWhile_run inside ends,
    Text.dropWhile_run inside ends, closed, titled, Option.bind_eq_bind, Option.bind_some]

theorem Header.tag?_written (tag : Tag) : tag? tag.written = some (tag.kind, none, tag.title) := by
  obtain ⟨kind, title, ⟨starts, parts, small⟩, isTitle⟩ := tag
  -- the name ends at the bracket, which no name holds
  have ends (tail : Text) : ∀ c ∈ (']' :: tail).head?, inKind c = false := by
    rintro c ⟨⟩
    rfl
  have read := tag?_named ⟨starts, parts⟩ (ends _) rfl (title?_of_isTitle isTitle)
  rwa [small] at read

theorem Header.ofLine?_tag {depth : Nat} (given : depth ≠ 0) (tag : Tag) :
    ofLine? (quoted depth tag.written) = some ⟨depth, tag.kind, none, tag.title⟩ := by
  have starts : ∀ c ∈ tag.written.head?, Marker.isPart c = false := by
    rintro c ⟨⟩
    rfl
  rw [ofLine?, count_quoted starts, if_neg given, strip_quoted given starts, tag?_written]
  rfl

/-! ## Passages -/

theorem Passage.head_notPart (p : Passage) : ∀ c ∈ p.text.head?, Marker.isPart c = false := by
  refine Text.forall_of_exists p.starts fun c ⟨inked, other, _⟩ => ?_
  have noGap : isGap c = false := by
    cases gap : isGap c with
    | false => rfl
    | true =>
      rw [isGap, Bool.or_eq_true, beq_iff_eq, beq_iff_eq] at gap
      rcases gap with rfl | rfl <;> cases inked
  rw [Marker.isPart, noGap, Bool.or_false, beq_eq_false_iff_ne]
  exact other

theorem Passage.not_tag (p : Passage) {rest : Text} : p.text ≠ '[' :: '!' :: rest := by
  intro same
  obtain ⟨c, isFirst, _, _, other⟩ := p.starts
  rw [same] at isFirst
  exact other (Option.some.inj isFirst).symm

theorem Passage.tag?_eq_none (p : Passage) : Header.tag? p.text = none := by
  unfold Header.tag?
  split
  next same => exact absurd same p.not_tag
  next => rfl

theorem Passage.looksLikeTag_eq_false (p : Passage) : Header.looksLikeTag p.text = false := by
  unfold Header.looksLikeTag
  split
  next same => exact absurd same p.not_tag
  next => rfl

theorem Header.ofLine?_passage {depth : Nat} (given : depth ≠ 0) (p : Passage) :
    ofLine? (quoted depth p.text) = none := by
  rw [ofLine?, count_quoted p.head_notPart, if_neg given, strip_quoted given p.head_notPart,
    p.tag?_eq_none]
  rfl

end DreamJournal
