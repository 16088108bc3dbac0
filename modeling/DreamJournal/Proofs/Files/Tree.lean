import DreamJournal.Files.Basic
import DreamJournal.Proofs.OrderedMap
import DreamJournal.Proofs.Text.Splitting
import Mathlib.Data.List.Induction

/-!
# Trees of files

The files of a run make a tree: a place is a path of names, behind a root or below the working
directory, and there is a folder around whatever stands anywhere. Making a folder and storing a file
keep it one.

In a tree a path of names leads to the place that it spells, when something stands there.
-/
namespace DreamJournal.Files

open scoped List

/-- A name that a file or folder can have. -/
def IsName (name : Text) : Prop := Path.isPart name = true ∧ name ≠ twoDots ∧ '/' ∉ name

instance : DecidablePred IsName := fun name =>
  inferInstanceAs (Decidable (Path.isPart name = true ∧ name ≠ twoDots ∧ '/' ∉ name))

/-- A place is a path of names, below the working directory or behind a root. -/
def IsPlace : (place : List Text) → Prop
  | [] => True
  | first :: names =>
    (IsName first ∨ first = ['/'] ∨ first = ['/', '/']) ∧ ∀ name ∈ names, IsName name

instance : DecidablePred IsPlace
  | [] => inferInstanceAs (Decidable True)
  | _ :: _ => inferInstanceAs (Decidable (_ ∧ _))

/-- Whatever stands somewhere has a place in a folder. -/
structure IsTree (files : Files) : Prop where
  places : ∀ place ∈ OrderedMap.keys files, IsPlace place
  closed : ∀ place ∈ OrderedMap.keys files, stored? files place.dropLast = some .folder

variable {files : Files} {found : Stored} {front here names other place rest : List Text}
  {name part : Text}

/-! ## Places -/

theorem stored?_eq_get? (given : place ≠ []) :
    stored? files place = OrderedMap.get? files place := by
  cases place with
  | nil => exact absurd rfl given
  | cons => rfl

theorem mem_keys_of_stored? (given : place ≠ []) (stands : stored? files place = some found) :
    place ∈ OrderedMap.keys files :=
  (OrderedMap.mem_keys_iff files place).mpr ⟨found, stored?_eq_get? given ▸ stands⟩

theorem onward?_eq_some_iff :
    onward? place other = some rest ↔ isRooted place = isRooted other ∧ other = place ++ rest := by
  simp only [onward?, Option.ite_none_right_eq_some, Bool.and_eq_true, decide_eq_true_eq,
    List.isPrefixOf_iff_prefix, Option.some.injEq]
  constructor
  · rintro ⟨⟨sameRoot, behind, rfl⟩, rfl⟩
    exact ⟨sameRoot, by rw [List.drop_left]⟩
  · rintro ⟨sameRoot, rfl⟩
    exact ⟨⟨sameRoot, List.prefix_append place rest⟩, List.drop_left⟩

theorem isRooted_cons (first : Text) (names : List Text) :
    isRooted (first :: names) = decide (first.head? = some '/') := by
  match first with
  | [] => rfl
  | c :: rest =>
    by_cases slash : c = '/'
    · subst slash
      rfl
    · simp [isRooted, slash]

/-- Names lead on below the same root. -/
theorem isRooted_append (isName : ∀ name ∈ names, IsName name) :
    isRooted (place ++ names) = isRooted place := by
  cases place with
  | cons first more => rw [List.cons_append, isRooted_cons, isRooted_cons]
  | nil =>
    cases names with
    | nil => rfl
    | cons name more =>
      have ⟨_, _, whole⟩ := isName name List.mem_cons_self
      rw [List.nil_append, isRooted_cons]
      exact decide_eq_false fun first => whole (List.mem_of_mem_head? first)

theorem onward?_append (isName : ∀ name ∈ names, IsName name) :
    onward? place (place ++ names) = some names :=
  onward?_eq_some_iff.mpr ⟨(isRooted_append isName).symm, rfl⟩

theorem isName_of_onward? (isPlace : IsPlace other) (leads : onward? place other = some rest) :
    ∀ name ∈ rest, IsName name := by
  obtain ⟨sameRoot, rfl⟩ := onward?_eq_some_iff.mp leads
  cases place with
  | cons first more => exact fun name member => isPlace.2 name (List.mem_append_right more member)
  | nil =>
    cases rest with
    | nil => exact fun _ member => nomatch member
    | cons first more =>
      -- a root does not lead on from the working directory
      rw [List.nil_append, isRooted_cons] at sameRoot
      rcases isPlace.1 with isName | rfl | rfl
      · exact List.forall_mem_cons.mpr ⟨isName, isPlace.2⟩
      · cases sameRoot
      · cases sameRoot

/-! ## Following components -/

/-- What stands where components lead from a place. -/
def along? (files : Files) (here parts : List Text) : Option Stored :=
  match follow files here parts with
  | .ok place => stored? files place
  | .error _ => none

theorem along?_nil : along? files here [] = stored? files here := rfl

theorem along?_cons (named : part ≠ twoDots) : along? files here (part :: rest) =
    if stored? files here = some .folder then along? files (here ++ [part]) rest else none := by
  cases stands : stored? files here with
  | none => simp [along?, follow, stands]
  | some found => cases found <;> simp [along?, follow, stands, named]

theorem along?_twoDots : along? files here (twoDots :: rest) =
    if stored? files here = some .folder then (around? here).bind (along? files · rest)
    else none := by
  cases stands : stored? files here with
  | none => simp [along?, follow, stands]
  | some found =>
    cases found with
    | file octets => simp [along?, follow, stands]
    | folder => cases outer : around? here <;> simp [along?, follow, stands, outer]

/-- What leads on from a place leads through a folder. -/
theorem folder_of_along? (given : rest ≠ []) (leads : along? files here rest = some found) :
    stored? files here = some .folder := by
  obtain ⟨part, rest, rfl⟩ := List.exists_cons_of_ne_nil given
  by_contra noFolder
  by_cases up : part = twoDots
  · simp [up, along?_twoDots, noFolder] at leads
  · simp [along?_cons up, noFolder] at leads

theorem mem_keys_of_along? (given : here ≠ []) (leads : along? files here rest = some found) :
    here ∈ OrderedMap.keys files := by
  by_cases last : rest = []
  · rw [last, along?_nil] at leads
    exact mem_keys_of_stored? given leads
  · exact mem_keys_of_stored? given (folder_of_along? last leads)

theorem follow_append (parts : List Text) :
    follow files here (parts ++ rest) = (follow files here parts).bind (follow files · rest) := by
  induction parts generalizing here with
  | nil => rfl
  | cons part parts ih =>
    rw [List.cons_append, follow, follow]
    split
    · rfl
    · rfl
    · by_cases up : part = twoDots
      · rw [if_pos up, if_pos up]
        cases around? here with
        | none => rfl
        | some outer => exact ih
      · rw [if_neg up, if_neg up]
        exact ih

theorem at?_append {folder : Path} (located : locate files folder = .ok place) :
    at? files (folder.append rest) = along? files place rest := by
  have leads :=
    calc locate files (folder.append rest)
      _ = (locate files folder).bind (follow files · rest) := follow_append folder.parts
      _ = follow files place rest := by rw [located]; rfl
  rw [at?, leads]
  rfl

namespace IsTree

variable (tree : IsTree files)

include tree

/-- There are folders all the way to where something stands. -/
theorem folder_of_append (given : names ≠ [])
    (stands : stored? files (place ++ names) = some found) :
    stored? files place = some .folder := by
  induction names using List.reverseRecOn generalizing found with
  | nil => exact absurd rfl given
  | append_singleton names name ih =>
    have around := tree.closed _ (mem_keys_of_stored? (by simp) stands)
    rw [← List.append_assoc, List.dropLast_concat] at around
    by_cases first : names = []
    · rwa [first, List.append_nil] at around
    · exact ih first around

/-- Names lead to the place that they spell. -/
theorem along?_append (isName : ∀ name ∈ names, IsName name) :
    along? files here (names ++ rest) = along? files (here ++ names) rest := by
  induction names generalizing here with
  | nil => rw [List.append_nil, List.nil_append]
  | cons name names ih =>
    have ⟨first, more⟩ := List.forall_mem_cons.mp isName
    have place : here ++ name :: names = here ++ [name] ++ names := by simp
    rw [List.cons_append, along?_cons first.2.1, ih more, ← place]
    split
    · rfl
    · -- without a folder here nothing stands further down
      rename_i noFolder
      cases leads : along? files (here ++ name :: names) rest with
      | none => rfl
      | some found =>
        by_cases last : rest = []
        · rw [last, along?_nil] at leads
          exact absurd (tree.folder_of_append (by simp) leads) noFolder
        · have folder := folder_of_along? last leads
          exact absurd (tree.folder_of_append (by simp) folder) noFolder

end IsTree

/-! ## Making folders and storing files -/

variable {files' : Files} {octets : List UInt8} {outer parts : List Text} {path : Path}

theorem stored?_put (given : place ≠ []) : stored? (OrderedMap.put files place found) other =
    if other = place then some found else stored? files other := by
  by_cases whole : other = []
  · subst whole
    rw [if_neg given.symm]
    rfl
  · rw [stored?_eq_get? whole, stored?_eq_get? whole, OrderedMap.put, OrderedMap.get?_alter]

theorem IsPlace.dropLast (isPlace : IsPlace place) : IsPlace place.dropLast := by
  match place with
  | [] | [_] => trivial
  | _ :: second :: more =>
    have fewer : (second :: more).dropLast ⊆ second :: more := List.dropLast_subset _
    exact ⟨isPlace.1, fun name member => isPlace.2 name (fewer member)⟩

theorem IsPlace.append (isPlace : IsPlace place) (isName : IsName name) :
    IsPlace (place ++ [name]) := by
  cases place with
  | nil => exact ⟨.inl isName, fun _ member => nomatch member⟩
  | cons first more =>
    refine ⟨isPlace.1, fun other member => ?_⟩
    rcases List.mem_append.mp member with before | last
    · exact isPlace.2 other before
    · exact List.mem_singleton.mp last ▸ isName

/-- Away from the roots a place is surrounded by the one that it leads on from. -/
theorem around?_of_unrooted (unrooted : isRooted here = false)
    (around : around? here = some outer) :
    here ≠ [] ∧ outer = here.dropLast ∧ isRooted outer = false := by
  unfold around? at around
  split at around
  · cases around
  · cases unrooted
  · cases unrooted
  · rename_i given _ _
    obtain rfl := Option.some.inj around
    refine ⟨given, rfl, ?_⟩
    match here with
    | [_] => rfl
    | first :: second :: more =>
      rw [isRooted_cons] at unrooted
      rw [List.dropLast_cons_cons, isRooted_cons, unrooted]

theorem origin_of_unrooted (unrooted : path.root = []) : origin path = [] := by
  simp [origin, unrooted]

namespace IsTree

theorem nil : IsTree [] := ⟨fun _ member => (nomatch member), fun _ member => nomatch member⟩

/-- Something may be put into a folder, but nothing but a folder in the place of a folder. -/
theorem put (tree : IsTree files) (isPlace : IsPlace place) (given : place ≠ [])
    (around : stored? files place.dropLast = some .folder)
    (kept : found = .folder ∨ stored? files place ≠ some .folder) :
    IsTree (OrderedMap.put files place found) := by
  constructor
  · intro other member
    rcases (OrderedMap.mem_keys_alter files place other _).mp member with known | rfl
    · exact tree.places other known
    · exact isPlace
  · intro other member
    rw [stored?_put given]
    split
    · rename_i same
      rcases (OrderedMap.mem_keys_alter files place other _).mp member with known | rfl
      · -- the place is around something, so it is a folder already
        have folder := tree.closed other known
        rw [same] at folder
        rcases kept with rfl | noFolder
        · rfl
        · exact absurd folder noFolder
      · have := congrArg List.length same
        have := List.length_pos_iff.mpr given
        simp only [List.length_dropLast] at *
        omega
    · rcases (OrderedMap.mem_keys_alter files place other _).mp member with known | rfl
      · exact tree.closed other known
      · exact around

theorem addFolders (tree : IsTree files) (isPlace : IsPlace here) (unrooted : isRooted here = false)
    (folder : stored? files here = some .folder)
    (proper : ∀ part ∈ parts, part = twoDots ∨ IsName part)
    (made : addFolders files here parts = .ok files') : IsTree files' := by
  induction parts generalizing files here with
  | nil => exact Except.ok.inj made ▸ tree
  | cons part parts ih =>
    have ⟨first, more⟩ := List.forall_mem_cons.mp proper
    rw [Files.addFolders] at made
    split at made
    · split at made
      · rename_i outer around
        obtain ⟨below, rfl, free⟩ := around?_of_unrooted unrooted around
        have folder := tree.closed here (mem_keys_of_stored? below folder)
        exact ih tree isPlace.dropLast free folder more made
      · cases made
    · rename_i named
      have isName : IsName part := first.resolve_left named
      have free : isRooted (here ++ [part]) = false :=
        (isRooted_append (by simpa using isName)).trans unrooted
      cases next : stored? files (here ++ [part]) with
      | some stands =>
        cases stands with
        | file => simp [next] at made
        | folder =>
          exact ih tree (isPlace.append isName) free next more (by simpa [next] using made)
      | none =>
        have grown : IsTree (OrderedMap.put files (here ++ [part]) .folder) :=
          tree.put (isPlace.append isName) (by simp) (by simpa using folder) (.inl rfl)
        have stands : stored? (OrderedMap.put files (here ++ [part]) .folder) (here ++ [part]) =
            some .folder := by rw [stored?_put (by simp), if_pos rfl]
        exact ih grown (isPlace.append isName) free stands more (by simpa [next] using made)

theorem makeFolder (tree : IsTree files) (unrooted : path.root = [])
    (proper : ∀ part ∈ path.parts, part = twoDots ∨ IsName part)
    (made : makeFolder files path = .ok files') : IsTree files' := by
  rw [Files.makeFolder, origin_of_unrooted unrooted] at made
  have start : IsPlace [] := trivial
  exact tree.addFolders start rfl rfl proper made

end IsTree

theorem isPlace_of_follow (isPlace : IsPlace here) (unrooted : isRooted here = false)
    (proper : ∀ part ∈ parts, part = twoDots ∨ IsName part)
    (leads : follow files here parts = .ok place) : IsPlace place := by
  induction parts generalizing here with
  | nil => exact Except.ok.inj leads ▸ isPlace
  | cons part parts ih =>
    have ⟨first, more⟩ := List.forall_mem_cons.mp proper
    rw [follow] at leads
    split at leads
    · cases leads
    · cases leads
    · split at leads
      · split at leads
        · rename_i outer around
          obtain ⟨-, rfl, free⟩ := around?_of_unrooted unrooted around
          exact ih isPlace.dropLast free more leads
        · cases leads
      · rename_i named
        have isName : IsName part := first.resolve_left named
        have free : isRooted (here ++ [part]) = false :=
          (isRooted_append (by simpa using isName)).trans unrooted
        exact ih (isPlace.append isName) free more leads

namespace IsTree

theorem write (tree : IsTree files) (unrooted : path.root = [])
    (proper : ∀ part ∈ path.parts, part = twoDots ∨ IsName part)
    (written : write files path octets = .ok files') : IsTree files' := by
  rw [Files.write] at written
  cases located : locate files path with
  | error fault => simp [located, bind, Except.bind] at written
  | ok place =>
    have isPlace : IsPlace place := by
      rw [locate, origin_of_unrooted unrooted] at located
      have start : IsPlace [] := trivial
      exact isPlace_of_follow start rfl proper located
    simp only [located, bind, Except.bind] at written
    split at written
    · cases written
    · rename_i before stands
      have given : place ≠ [] := by
        rintro rfl
        cases stands
      obtain rfl := Except.ok.inj written
      have around := tree.closed place (mem_keys_of_stored? given stands)
      exact tree.put isPlace given around (.inr (by simp [stands]))
    · rename_i free
      have given : place ≠ [] := by
        rintro rfl
        cases free
      split at written
      · rename_i around
        obtain rfl := Except.ok.inj written
        exact tree.put isPlace given around (.inr (by simp [free]))
      · cases written

end IsTree

theorem isName_of_mem_ofText {t : Text} (member : part ∈ (Path.ofText t).parts) :
    part = twoDots ∨ IsName part := by
  have ⟨piece, isPart⟩ := List.mem_filter.mp member
  by_cases up : part = twoDots
  · exact .inl up
  · exact .inr ⟨isPart, up, Text.not_mem_of_mem_splitOn piece⟩

/-- Storing a file at a path below the working directory keeps a tree. -/
theorem IsTree.store {t : Text} (tree : IsTree files) (unrooted : (Path.ofText t).root = [])
    (stored : store files (Path.ofText t) octets = .ok files') : IsTree files' := by
  have proper : ∀ part ∈ (Path.ofText t).parts, part = twoDots ∨ IsName part := fun _ =>
    isName_of_mem_ofText
  have alike : (Path.ofText t).parent.root = [] := unrooted
  have onTheWay : ∀ part ∈ (Path.ofText t).parent.parts, part = twoDots ∨ IsName part :=
    fun part member => proper part (List.dropLast_subset _ member)
  rw [Files.store] at stored
  cases made : Files.makeFolder files (Path.ofText t).parent with
  | error fault => simp [made, bind, Except.bind] at stored
  | ok grown =>
    simp only [made, bind, Except.bind] at stored
    exact (tree.makeFolder alike onTheWay made).write unrooted proper stored

end DreamJournal.Files
