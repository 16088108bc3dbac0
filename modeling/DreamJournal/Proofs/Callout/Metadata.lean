import DreamJournal.Proofs.Callout.Nesting
import DreamJournal.Proofs.Callout.Outline
import DreamJournal.Proofs.OrderedMap
import DreamJournal.Proofs.Text.Letters
import DreamJournal.Proofs.Text.Words

/-!
# Headers with metadata are read back

A label is a header in all its parts before it is written: a run of quote markers, a name in any
case, metadata, perhaps a fold sign, and a title. The line that a label is written on is read as
these parts, and the callout that a scan opens at such a line has the metadata of the label, entry
by entry and in order.

An item of the metadata holds no separator, so cutting at separators finds the items again; its key
holds no equals sign, so the first one ends the key, whatever the value holds; and its keys differ,
so every item adds an entry.
-/
namespace DreamJournal

open Text (isBlank isLineBreak)

namespace Metadata

variable {entry : Text × MetadataValue} {metadata known : Metadata}

/-- A key that can be written: it is in lower case, and nothing in it ends it. -/
structure IsKey (key : Text) : Prop where
  nonempty : key ≠ []
  small : Text.lower key = key
  inside : ∀ c ∈ key, isSeparator c = false ∧ c ≠ '=' ∧ c ≠ ']'

/-- A value that can be written. It may be empty, and it may hold equals signs. -/
def IsValue : MetadataValue → Prop
  | .flag => True
  | .text value => ∀ c ∈ value, isSeparator c = false ∧ c ≠ ']'

structure IsWritable (metadata : Metadata) : Prop where
  distinct : (OrderedMap.keys metadata).Nodup
  keys : ∀ entry ∈ metadata, IsKey entry.1
  values : ∀ entry ∈ metadata, IsValue entry.2

instance (key : Text) : Decidable (IsKey key) :=
  decidable_of_iff (key ≠ [] ∧ Text.lower key = key ∧
      (key.all fun c => !isSeparator c && (c != '=' && c != ']')) = true) <| by
    simp only [List.all_eq_true, Bool.and_eq_true, Bool.not_eq_true', bne_iff_ne]
    exact ⟨fun ⟨nonempty, small, inside⟩ => ⟨nonempty, small, inside⟩,
      fun isKey => ⟨isKey.nonempty, isKey.small, isKey.inside⟩⟩

instance (value : MetadataValue) : Decidable (IsValue value) :=
  match value with
  | .flag => .isTrue trivial
  | .text value =>
    decidable_of_iff ((value.all fun c => !isSeparator c && c != ']') = true) <| by
      simp only [List.all_eq_true, Bool.and_eq_true, Bool.not_eq_true', bne_iff_ne]
      exact Iff.rfl

instance (metadata : Metadata) : Decidable (IsWritable metadata) :=
  decidable_of_iff ((OrderedMap.keys metadata).Nodup ∧ (∀ entry ∈ metadata, IsKey entry.1) ∧
      ∀ entry ∈ metadata, IsValue entry.2)
    ⟨fun ⟨distinct, keys, values⟩ => ⟨distinct, keys, values⟩,
      fun isWritable => ⟨isWritable.distinct, isWritable.keys, isWritable.values⟩⟩

/-- How an entry is written. -/
def item : Text × MetadataValue → Text
  | (key, .flag) => key
  | (key, .text value) => key ++ '=' :: value

def written (metadata : Metadata) : Text := Text.join [','] (metadata.map item)

theorem item_ne_nil (isKey : IsKey entry.1) : item entry ≠ [] := by
  obtain ⟨key, value⟩ := entry
  cases value with
  | flag => exact isKey.nonempty
  | text value => exact List.append_ne_nil_of_left_ne_nil isKey.nonempty _

theorem inside_item (isKey : IsKey entry.1) (isValue : IsValue entry.2) :
    ∀ c ∈ item entry, isSeparator c = false ∧ c ≠ ']' := by
  obtain ⟨key, value⟩ := entry
  intro c member
  cases value with
  | flag => exact ⟨(isKey.inside c member).1, (isKey.inside c member).2.2⟩
  | text value =>
    rcases List.mem_append.mp member with front | behind
    · exact ⟨(isKey.inside c front).1, (isKey.inside c front).2.2⟩
    · rcases List.mem_cons.mp behind with rfl | further
      · exact ⟨rfl, by decide⟩
      · exact isValue c further

theorem isBlank_of_inside {c : Char} (inside : isSeparator c = false) : isBlank c = false := by
  rw [isSeparator, Bool.or_eq_false_iff] at inside
  exact inside.2

theorem isWord_item (isKey : IsKey entry.1) (isValue : IsValue entry.2) :
    Text.IsWord (item entry) :=
  ⟨item_ne_nil isKey, fun c member => isBlank_of_inside (inside_item isKey isValue c member).1⟩

/-- Separators are written as spaces, and nothing else is changed. -/
theorem map_join_spaced {pieces : List Text}
    (inside : ∀ piece ∈ pieces, ∀ c ∈ piece, isSeparator c = false) :
    (Text.join [','] pieces).map (fun c => if isSeparator c then ' ' else c) =
      Text.joinWords pieces := by
  have same : ∀ piece ∈ pieces,
      piece.map (fun c => if isSeparator c then ' ' else c) = piece := by
    intro piece listed
    refine (List.map_congr_left fun c member => ?_).trans (List.map_id piece)
    rw [inside piece listed c member]
    rfl
  rw [Text.map_join, List.map_congr_left same, List.map_id']
  rfl

theorem items_written (isWritable : IsWritable metadata) :
    items (written metadata) = metadata.map item := by
  have isWord : ∀ piece ∈ metadata.map item, Text.IsWord piece := by
    intro piece listed
    obtain ⟨entry, member, rfl⟩ := List.mem_map.mp listed
    exact isWord_item (isWritable.keys entry member) (isWritable.values entry member)
  have inside : ∀ piece ∈ metadata.map item, ∀ c ∈ piece, isSeparator c = false := by
    intro piece listed c here
    obtain ⟨entry, member, rfl⟩ := List.mem_map.mp listed
    exact (inside_item (isWritable.keys entry member) (isWritable.values entry member) c here).1
  rw [items, written, map_join_spaced inside, Text.words_joinWords isWord]

theorem add_item (isKey : IsKey entry.1) (known : Metadata) :
    add known (item entry) = known.put entry.1 entry.2 := by
  obtain ⟨key, value⟩ := entry
  have noSign : '=' ∉ key := fun member => (isKey.inside '=' member).2.1 rfl
  cases value with
  | flag =>
    rw [add, item, Text.cut?_eq_none noSign]
    exact congrArg (known.put · _) isKey.small
  | text value =>
    -- an item without a key would be dropped
    obtain ⟨c, rest, rfl⟩ := List.exists_cons_of_ne_nil isKey.nonempty
    rw [add, item, Text.cut?_append noSign]
    exact congrArg (known.put · _) isKey.small

theorem ofSuffix_written (isWritable : IsWritable metadata) :
    ofSuffix (written metadata) = metadata := by
  have added (known : Metadata) : (metadata.map item).foldl add known =
      metadata.foldl (fun map entry => OrderedMap.put map entry.1 entry.2) known := by
    rw [List.foldl_map]
    refine List.foldl_ext _ _ known fun known entry member => ?_
    exact add_item (isWritable.keys entry member) known
  rw [ofSuffix, items_written isWritable, added]
  exact OrderedMap.foldl_put [] metadata isWritable.distinct

theorem inside_written (isWritable : IsWritable metadata) :
    ∀ c ∈ written metadata, isBlank c = false ∧ c ≠ ']' := by
  intro c member
  rcases Text.mem_join member with comma | ⟨piece, listed, here⟩
  · rw [List.mem_singleton.mp comma]
    decide
  · obtain ⟨entry, isEntry, rfl⟩ := List.mem_map.mp listed
    have ⟨apart, open_⟩ := inside_item (isWritable.keys entry isEntry)
      (isWritable.values entry isEntry) c here
    exact ⟨isBlank_of_inside apart, open_⟩

end Metadata

/-! ## Labels -/

theorem Header.isLineBreak_of_inKind {c : Char} (inside : inKind c = true) :
    isLineBreak c = false := by
  simp only [inKind, Bool.or_eq_true, beq_iff_eq] at inside
  rcases inside with (letter | rfl) | rfl
  · exact Text.isLineBreak_of_isAlphanum letter
  · rfl
  · rfl

theorem Marker.isLineBreak_of_isPart {c : Char} (part : isPart c = true) :
    isLineBreak c = false := by
  simp only [isPart, Text.isGap, Bool.or_eq_true, beq_iff_eq] at part
  rcases part with rfl | rfl | rfl <;> rfl

/-- A header in all its parts, before it is written. -/
structure Label where
  /-- The quote markers with the gaps before, between and behind them. -/
  run : Text
  name : Text
  metadata : Metadata
  fold : Option Char
  title : Text
  isRun : ∀ c ∈ run, Marker.isPart c = true
  quoted : 1 ≤ run.count '>'
  isName : Header.IsKindName name
  isWritable : metadata.IsWritable
  isFold : ∀ sign ∈ fold, sign = '+' ∨ sign = '-'
  unbroken : ∀ c ∈ title, isLineBreak c = false
  starts : ∀ c ∈ title.head?, Text.isGap c = false
  ends : ∀ c ∈ title.getLast?, Text.isGap c = false

namespace Label

variable {label : Label} {note : Text} {k : Nat}

/-- What stands behind the bracket of a written label. -/
def tail (label : Label) : Text := label.fold.toList ++ ' ' :: label.title

/-- The line on which a label is written. -/
def line (label : Label) : Text :=
  label.run ++ '[' :: '!' ::
    (label.name ++ '|' :: (label.metadata.written ++ ']' :: label.tail))

/-- What a label says, as headers carry it. -/
def header (label : Label) : Header :=
  ⟨label.run.count '>', Text.lower label.name, some label.metadata.written, label.title⟩

theorem isTitle (label : Label) : Header.IsTitle label.title := by
  refine ⟨fun member => ?_, label.starts, label.ends⟩
  exact absurd (label.unbroken '\n' member) (by decide)

theorem title?_tail (label : Label) : Header.title? label.tail = some label.title := by
  have spaced := Header.title?_spaced label.isTitle
  rw [tail]
  cases given : label.fold with
  | none => exact spaced
  | some sign =>
    -- the title begins behind the space, so a sign of its own is not taken for a fold sign
    rcases label.isFold sign given with rfl | rfl <;> exact spaced

theorem ofLine?_line (label : Label) : Header.ofLine? label.line = some label.header := by
  have quoted := Nat.pos_iff_ne_zero.mp label.quoted
  have noBracket : ']' ∉ label.metadata.written :=
    fun member => (Metadata.inside_written label.isWritable _ member).2 rfl
  have closed : Header.metadata? ('|' :: (label.metadata.written ++ ']' :: label.tail)) =
      some (some label.metadata.written, label.tail) := by
    rw [Header.metadata?, Text.cut?_append noBracket]
    rfl
  have tagged := Header.tag?_named label.isName (by rintro c ⟨⟩; rfl) closed label.title?_tail
  have opens : ∀ c ∈ ('[' :: '!' :: (label.name ++
      '|' :: (label.metadata.written ++ ']' :: label.tail))).head?, Marker.isPart c = false := by
    rintro c ⟨⟩
    rfl
  rw [Header.ofLine?, line, Marker.count_run label.isRun opens, if_neg quoted,
    Marker.strip_run label.isRun opens quoted, tagged]
  rfl

theorem isLine (label : Label) : Text.IsLine label.line := by
  refine ⟨by simp [line], fun c member => ?_⟩
  simp only [line, tail, List.mem_append, List.mem_cons, Option.mem_toList] at member
  rcases member with part | rfl | rfl | letter | rfl | inside | rfl | sign | rfl | titled
  · exact Marker.isLineBreak_of_isPart (label.isRun c part)
  · rfl
  · rfl
  · exact Header.isLineBreak_of_inKind (label.isName.parts c letter)
  · rfl
  · exact Text.isLineBreak_of_inked (Metadata.inside_written label.isWritable c inside).1
  · rfl
  · rcases label.isFold c sign with rfl | rfl <;> rfl
  · rfl
  · exact label.unbroken c titled

/-- A label comes back from its line, and from any note with such a line. -/
structure ReadBack (label : Label) : Prop where
  header : Header.ofLine? label.line = some label.header
  metadata : Metadata.ofSuffix label.metadata.written = label.metadata
  isLine : Text.lines label.line = [label.line]
  opens : ∀ note k, (Text.lines note)[k]? = some label.line →
    ∃ c ∈ Callout.walkAll (Scan.ofText note).roots, c.start = k
  carries : ∀ note k, (Text.lines note)[k]? = some label.line →
    ∀ c ∈ Callout.walkAll (Scan.ofText note).roots, c.start = k →
      c.headerLine = label.line ∧ c.kind = Text.lower label.name ∧
        c.metadataText = some label.metadata.written ∧ c.title = label.title ∧
        c.metadata = label.metadata

theorem reads_back (label : Label) : ReadBack label := by
  have read := label.ofLine?_line
  have restored := Metadata.ofSuffix_written label.isWritable
  have here {note : Text} {k : Nat} (there : (Text.lines note)[k]? = some label.line) :
      Containment.lineAt (Text.lines note) k = label.line := by
    rw [Containment.lineAt, List.getD_eq_getElem?_getD, there, Option.getD_some]
  refine ⟨read, restored, label.isLine.lines_eq, ?_, ?_⟩
  · intro note k there
    apply (Scan.ofLines_scanned (Text.lines note)).exists_of_opens
    rw [Containment.opens_iff, here there, read]
    rfl
  · rintro note _ there c member rfl
    have faithful := (Scan.ofLines_scanned (Text.lines note)).faithful c member
    have same := faithful.header
    rw [here there, read, Option.some.injEq, header, Header.mk.injEq] at same
    obtain ⟨_, kind, suffix, title⟩ := same
    refine ⟨faithful.headerLine.trans (here there), kind.symm, suffix.symm, title.symm, ?_⟩
    rw [Callout.metadata, ← suffix]
    exact restored

/-- Gaps between the markers, a value with an equals sign, an empty one, and a title that begins
like a fold sign and holds a bracket. -/
theorem reads_back_lucid : ∃ label : Label,
    label.line = Text.of " > >\t> [!Dream_2|mood=a=b,lucid,place=]- +Sea] ^d1" ∧
      label.header = ⟨3, Text.of "dream_2", some (Text.of "mood=a=b,lucid,place="),
        Text.of "+Sea] ^d1"⟩ ∧
      ReadBack label := by
  refine ⟨{
    run := Text.of " > >\t> "
    name := Text.of "Dream_2"
    metadata := [(Text.of "mood", .text (Text.of "a=b")), (Text.of "lucid", .flag),
      (Text.of "place", .text [])]
    fold := some '-'
    title := Text.of "+Sea] ^d1"
    isRun := List.all_eq_true.mp (by decide)
    quoted := by decide
    isName := by decide
    isWritable := by decide
    isFold := by
      rintro _ ⟨⟩
      exact .inr rfl
    unbroken := (Text.IsLine.of_any rfl rfl).unbroken
    starts := by
      rintro _ ⟨⟩
      rfl
    ends := by
      rintro _ ⟨⟩
      rfl }, ?_, ?_, reads_back _⟩
  · decide
  · decide

end Label
end DreamJournal
