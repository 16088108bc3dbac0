import DreamJournal.Proofs.Files.Exclusion
import DreamJournal.Proofs.Files.Tree
import DreamJournal.Proofs.Text.Order

/-!
# Selected notes

A pattern leads along the components of a path: two dots along themselves, two stars along any
number of names, and everything else along one name that it covers. What is selected from a folder
are the paths to files along which the pattern leads and that no exclusion keeps away, each once and
in order, before any of them are counted.
-/
namespace DreamJournal.Files

open scoped List

/-- A pattern leads along the components of a path, two stars never up to its end. -/
inductive Leads : (pattern parts : List Text) → Prop where
  | done : Leads [] []
  | up {more behind : List Text} (leads : Leads more behind) :
      Leads (twoDots :: more) (twoDots :: behind)
  | named {part name : Text} {more behind : List Text} (single : part ≠ twoStars)
      (onward : part ≠ twoDots) (isName : IsName name) (covers : Glob.Covers part name)
      (leads : Leads more behind) : Leads (part :: more) (name :: behind)
  | folders {front more behind : List Text} (areNames : ∀ name ∈ front, IsName name)
      (given : behind ≠ []) (leads : Leads more behind) : Leads (twoStars :: more) (front ++ behind)

variable {files : Files} {front more pattern place rest : List Text} {part : Text}

theorem leads_twoDots_iff :
    Leads (twoDots :: more) rest ↔ ∃ behind, rest = twoDots :: behind ∧ Leads more behind := by
  constructor
  · intro leads
    generalize whole : twoDots :: more = pattern at leads
    cases leads with
    | done => cases whole
    | up leads => exact ⟨_, rfl, (List.cons.inj whole).2 ▸ leads⟩
    | named _ onward => exact absurd (List.cons.inj whole).1.symm onward
    | folders => cases (List.cons.inj whole).1
  · rintro ⟨behind, rfl, leads⟩
    exact .up leads

theorem leads_twoStars_iff : Leads (twoStars :: more) rest ↔
    ∃ front behind, rest = front ++ behind ∧ (∀ name ∈ front, IsName name) ∧ behind ≠ [] ∧
      Leads more behind := by
  constructor
  · intro leads
    generalize whole : twoStars :: more = pattern at leads
    cases leads with
    | done => cases whole
    | up => cases (List.cons.inj whole).1
    | named single => exact absurd (List.cons.inj whole).1.symm single
    | folders areNames given leads =>
      exact ⟨_, _, rfl, areNames, given, (List.cons.inj whole).2 ▸ leads⟩
  · rintro ⟨front, behind, rfl, areNames, given, leads⟩
    exact .folders areNames given leads

theorem leads_named_iff (onward : part ≠ twoDots) (single : part ≠ twoStars) :
    Leads (part :: more) rest ↔ ∃ name behind, rest = name :: behind ∧ IsName name ∧
      Glob.Covers part name ∧ Leads more behind := by
  constructor
  · intro leads
    cases leads with
    | up => exact absurd rfl onward
    | named _ _ isName covers leads => exact ⟨_, _, rfl, isName, covers, leads⟩
    | folders => exact absurd rfl single
  · rintro ⟨name, behind, rfl, isName, covers, leads⟩
    exact .named single onward isName covers leads

theorem Leads.ne_nil (leads : Leads (part :: more) rest) : rest ≠ [] := by
  cases leads with
  | up => exact List.cons_ne_nil _ _
  | named => exact List.cons_ne_nil _ _
  | folders _ given => exact List.append_ne_nil_of_right_ne_nil _ given

/-- Every component of a path that a pattern leads along is a name or two dots. -/
theorem Leads.isPart (leads : Leads pattern rest) : ∀ part ∈ rest, Path.isPart part = true := by
  induction leads with
  | done => exact fun _ member => (nomatch member)
  | up _ ih => exact List.forall_mem_cons.mpr ⟨rfl, ih⟩
  | named _ _ isName _ _ ih => exact List.forall_mem_cons.mpr ⟨isName.1, ih⟩
  | folders areNames _ _ ih =>
    exact List.forall_mem_append.mpr ⟨fun name member => (areNames name member).1, ih⟩

/-! ## Finding files -/

theorem mem_names_iff (tree : IsTree files) {name : Text} : name ∈ names files place ↔
    IsName name ∧ place ++ [name] ∈ OrderedMap.keys files := by
  simp only [names, List.mem_filterMap]
  constructor
  · rintro ⟨other, member, found⟩
    split at found
    · rename_i leads
      obtain rfl := Option.some.inj found
      have areNames := isName_of_onward? (tree.places other member) leads
      obtain ⟨-, rfl⟩ := onward?_eq_some_iff.mp leads
      exact ⟨areNames _ List.mem_cons_self, member⟩
    · cases found
  · rintro ⟨isName, member⟩
    exact ⟨_, member, by rw [onward?_append (by simpa using isName)]⟩

theorem mem_folders_iff (tree : IsTree files) (folder : stored? files place = some .folder) :
    front ∈ folders files place ↔
      (∀ name ∈ front, IsName name) ∧ stored? files (place ++ front) = some .folder := by
  simp only [folders, List.mem_cons, List.mem_filterMap, List.mem_filter, decide_eq_true_eq]
  constructor
  · rintro (rfl | ⟨other, ⟨member, found⟩, leads⟩)
    · exact ⟨fun _ member => (nomatch member), by rwa [List.append_nil]⟩
    · have areNames := isName_of_onward? (tree.places other member) leads
      obtain ⟨-, rfl⟩ := onward?_eq_some_iff.mp leads
      exact ⟨areNames, found⟩
  · rintro ⟨areNames, found⟩
    by_cases here : front = []
    · exact .inl here
    · have member := mem_keys_of_stored? (by simp [here]) found
      exact .inr ⟨_, ⟨member, found⟩, onward?_append areNames⟩

/-- A pattern finds the files that stand at the end of a path along which it leads. -/
def Finds (files : Files) (pattern place rest : List Text) : Prop :=
  Leads pattern rest ∧ ∃ octets, along? files place rest = some (.file octets)

theorem mem_reached_nil_iff : rest ∈ reached files [] place ↔ Finds files [] place rest := by
  rw [reached]
  constructor
  · intro member
    split at member
    · rename_i octets stands
      obtain rfl := List.mem_singleton.mp member
      exact ⟨.done, octets, stands⟩
    · cases member
  · rintro ⟨⟨⟩, octets, stands⟩
    rw [along?_nil] at stands
    simp [stands]

/-! Each kind of component is walked along by `reached` as files are found behind it. -/

theorem mem_reached_twoDots_iff (folder : stored? files place = some .folder) :
    rest ∈ reached files (twoDots :: more) place ↔ ∃ outer behind, around? place = some outer ∧
      rest = twoDots :: behind ∧ behind ∈ reached files more outer := by
  rw [reached, if_neg (not_not_intro folder), if_pos rfl]
  cases around? place with
  | none => simp
  | some outer => simp [and_comm, eq_comm]

theorem finds_twoDots_iff (folder : stored? files place = some .folder) :
    Finds files (twoDots :: more) place rest ↔ ∃ outer behind, around? place = some outer ∧
      rest = twoDots :: behind ∧ Finds files more outer behind := by
  rw [Finds, leads_twoDots_iff]
  constructor
  · rintro ⟨⟨behind, rfl, leads⟩, octets, stands⟩
    rw [along?_twoDots, if_pos folder] at stands
    obtain ⟨outer, around, stands⟩ := Option.bind_eq_some_iff.mp stands
    exact ⟨outer, behind, around, rfl, leads, octets, stands⟩
  · rintro ⟨outer, behind, around, rfl, leads, octets, stands⟩
    refine ⟨⟨behind, rfl, leads⟩, octets, ?_⟩
    rw [along?_twoDots, if_pos folder, around]
    exact stands

theorem mem_reached_twoStars_iff (tree : IsTree files)
    (folder : stored? files place = some .folder) :
    rest ∈ reached files (twoStars :: more) place ↔ ∃ front behind, rest = front ++ behind ∧
      (∀ name ∈ front, IsName name) ∧ stored? files (place ++ front) = some .folder ∧
      behind ∈ reached files more (place ++ front) := by
  rw [reached, if_neg (not_not_intro folder), if_neg (by decide), if_pos rfl]
  simp only [List.mem_flatMap, List.mem_map, mem_folders_iff tree folder]
  grind

theorem finds_twoStars_iff (tree : IsTree files) :
    Finds files (twoStars :: more) place rest ↔ ∃ front behind, rest = front ++ behind ∧
      (∀ name ∈ front, IsName name) ∧ stored? files (place ++ front) = some .folder ∧
      Finds files more (place ++ front) behind := by
  rw [Finds, leads_twoStars_iff]
  constructor
  · rintro ⟨⟨front, behind, rfl, areNames, given, leads⟩, octets, stands⟩
    rw [tree.along?_append areNames] at stands
    have found := folder_of_along? given stands
    exact ⟨front, behind, rfl, areNames, found, leads, octets, stands⟩
  · rintro ⟨front, behind, rfl, areNames, found, leads, octets, stands⟩
    -- something leads on behind the stars, as they end at a folder
    have given : behind ≠ [] := by
      rintro rfl
      rw [along?_nil, found] at stands
      cases stands
    rw [← tree.along?_append areNames] at stands
    exact ⟨⟨front, behind, rfl, areNames, given, leads⟩, octets, stands⟩

theorem mem_reached_named_iff (tree : IsTree files) (folder : stored? files place = some .folder)
    (onward : part ≠ twoDots) (single : part ≠ twoStars) :
    rest ∈ reached files (part :: more) place ↔ ∃ name behind, rest = name :: behind ∧
      IsName name ∧ Glob.Covers part name ∧ place ++ [name] ∈ OrderedMap.keys files ∧
      behind ∈ reached files more (place ++ [name]) := by
  rw [reached, if_neg (not_not_intro folder), if_neg onward, if_neg single]
  simp only [List.mem_flatMap, List.mem_filter, List.mem_map, mem_names_iff tree, Glob.covers_iff]
  grind

theorem finds_named_iff (folder : stored? files place = some .folder) (onward : part ≠ twoDots)
    (single : part ≠ twoStars) :
    Finds files (part :: more) place rest ↔ ∃ name behind, rest = name :: behind ∧
      IsName name ∧ Glob.Covers part name ∧ place ++ [name] ∈ OrderedMap.keys files ∧
      Finds files more (place ++ [name]) behind := by
  rw [Finds, leads_named_iff onward single]
  constructor
  · rintro ⟨⟨name, behind, rfl, isName, covers, leads⟩, octets, stands⟩
    rw [along?_cons isName.2.1, if_pos folder] at stands
    have member := mem_keys_of_along? (by simp) stands
    exact ⟨name, behind, rfl, isName, covers, member, leads, octets, stands⟩
  · rintro ⟨name, behind, rfl, isName, covers, -, leads, octets, stands⟩
    refine ⟨⟨name, behind, rfl, isName, covers, leads⟩, octets, ?_⟩
    rw [along?_cons isName.2.1, if_pos folder, stands]

theorem mem_reached_iff (tree : IsTree files) :
    rest ∈ reached files pattern place ↔ Finds files pattern place rest := by
  induction pattern generalizing place rest with
  | nil => exact mem_reached_nil_iff
  | cons part more ih =>
    by_cases folder : stored? files place = some .folder
    · by_cases up : part = twoDots
      · subst up
        simp only [mem_reached_twoDots_iff folder, finds_twoDots_iff folder, ih]
      · by_cases stars : part = twoStars
        · subst stars
          simp only [mem_reached_twoStars_iff tree folder, finds_twoStars_iff tree, ih]
        · simp only [mem_reached_named_iff tree folder up stars, finds_named_iff folder up stars,
            ih]
    · -- only a folder leads on to anything
      constructor
      · rw [reached, if_pos folder]
        exact fun member => nomatch member
      · rintro ⟨leads, octets, stands⟩
        exact absurd (folder_of_along? leads.ne_nil stands) folder

/-! ## Selecting them -/

variable {exclude : List Text} {folder path : Path}

/-- The paths that are meant from a folder: those to files along which the pattern leads, without
those that an exclusion keeps away. -/
def Selects (files : Files) (folder : Path) (pattern exclude : List Text) (path : Path) : Prop :=
  files.isFile path = true ∧ ∃ rest, path = folder.append rest ∧ Leads pattern rest ∧
    ∀ exclusion ∈ exclude, ¬ Path.Excludes exclusion rest

theorem isFile_append_iff (located : locate files folder = .ok place) :
    files.isFile (folder.append rest) = true ↔
      ∃ octets, along? files place rest = some (.file octets) := by
  rw [isFile, at?_append located]
  cases along? files place rest with
  | none => simp
  | some found => cases found <;> simp

theorem mem_select_iff (tree : IsTree files) (located : locate files folder = .ok place)
    (isFolder : stored? files place = some .folder) :
    path ∈ select files folder place pattern exclude ↔
      Selects files folder pattern exclude path := by
  have kept {rest : List Text} (finds : Finds files pattern place rest) :
      (Path.mk [] rest).isExcluded exclude = false ↔
        ∀ exclusion ∈ exclude, ¬ Path.Excludes exclusion rest := by
    obtain ⟨leads, octets, stands⟩ := finds
    -- the folder itself is no file, so the path leads on from it
    have given : rest ≠ [] := by
      rintro rfl
      rw [along?_nil, isFolder] at stands
      cases stands
    rw [← Bool.not_eq_true, Path.isExcluded_iff given leads.isPart]
    simp
  simp only [select, List.mem_map, List.mem_mergeSort, List.mem_filter, List.mem_eraseDups,
    mem_reached_iff tree, Bool.not_eq_true']
  constructor
  · rintro ⟨rest, ⟨finds, free⟩, rfl⟩
    exact ⟨(isFile_append_iff located).mpr finds.2, rest, rfl, finds.1, (kept finds).mp free⟩
  · rintro ⟨found, rest, rfl, leads, free⟩
    have finds : Finds files pattern place rest := ⟨leads, (isFile_append_iff located).mp found⟩
    exact ⟨rest, ⟨finds, (kept finds).mpr free⟩, rfl⟩

theorem nodup_eraseDups (paths : List (List Text)) : paths.eraseDups.Nodup := by
  match paths with
  | [] => exact List.nodup_nil
  | first :: more =>
    rw [List.eraseDups_cons, List.nodup_cons]
    exact ⟨by simp, nodup_eraseDups _⟩
termination_by paths.length
decreasing_by exact Nat.lt_succ_of_le (List.length_filter_le _ more)

theorem partsLe_iff {s t : List Text} : Path.partsLe s t = true ↔ s ≤ t := by
  fun_induction Path.partsLe s t with
  | case1 t => simpa using not_lt.mp (List.not_lt_nil t)
  | case2 name s => simp
  | case3 name s t ih => simp [Text.cons_le_cons_iff, ih]
  | case4 name s other t apart =>
    rw [Text.le_iff, Text.cons_le_cons_iff, le_iff_lt_or_eq]
    simp [apart]

theorem pairwise_mergeSort {paths : List (List Text)} (once : paths.Nodup) :
    (paths.mergeSort Path.partsLe).Pairwise (· < ·) := by
  have ordered : (paths.mergeSort Path.partsLe).Pairwise fun a b => Path.partsLe a b = true := by
    apply List.pairwise_mergeSort
    · simpa only [partsLe_iff] using fun a b c => le_trans
    · simpa only [Bool.or_eq_true, partsLe_iff] using le_total
  have apart := (List.mergeSort_perm paths Path.partsLe).nodup_iff.mpr once
  exact (ordered.and apart).imp fun ⟨le, other⟩ => lt_of_le_of_ne (partsLe_iff.mp le) other

/-- What is selected is in order, so no path is there twice. -/
theorem pairwise_select (files : Files) (folder : Path) (place pattern exclude : List Text) :
    (select files folder place pattern exclude).Pairwise fun a b => a.parts < b.parts := by
  rw [select, List.pairwise_map]
  have once := (nodup_eraseDups (reached files pattern place)).filter fun rest =>
    !(Path.mk [] rest).isExcluded exclude
  exact (pairwise_mergeSort once).imp List.append_left_lt

/-- Whatever a path is excluded with excludes all that it leads to, and exclusions keep away what
any of them does. Of a folder those files are taken, in the order of their paths, along which the
pattern leads and that no exclusion keeps away; a limit only takes the first of them. -/
theorem journalFiles_selects :
    (∀ (t c : Text) (exclude : List Text), (Path.ofText t).root = [] → (Path.ofText t).parts ≠ [] →
      (Path.ofText t).isExcluded exclude = true →
      (Path.ofText (t ++ '/' :: c)).isExcluded exclude = true) ∧
    (∀ (t : Text) (exclude more : List Text), (Path.ofText t).isExcluded (exclude ++ more) =
      ((Path.ofText t).isExcluded exclude || (Path.ofText t).isExcluded more)) ∧
    ∀ (files : Files) (folder : Path) (exclude : List Text) (pattern : Text) (parts : List Text),
      IsTree files → patternParts pattern = .ok parts →
      ∃ all : List Path,
        journalFiles files folder exclude none pattern = .ok all ∧
        (∀ count : Nat, journalFiles files folder exclude (some count) pattern =
          .ok (all.take count)) ∧
        all.Pairwise (fun a b => a.parts < b.parts) ∧
        ∀ path, path ∈ all ↔ files.isFolder folder = true ∧ pattern.getLast? ≠ some '/' ∧
          Selects files folder parts exclude path := by
  refine ⟨fun t c exclude unrooted given excluded =>
    Path.isExcluded_slash unrooted given excluded c, fun t exclude more =>
    Path.isExcluded_append _ more, ?_⟩
  intro files folder exclude pattern parts tree read
  cases located : locate files folder with
  | error fault => exact ⟨[], by simp [journalFiles, located, isFolder, at?]⟩
  | ok place =>
    by_cases here : stored? files place = some .folder
    · by_cases slash : pattern.getLast? = some '/'
      · exact ⟨[], by simp [journalFiles, located, here, read, slash, bind, Except.bind]⟩
      · have taken (count : Option Int) : journalFiles files folder exclude count pattern =
            .ok (takeCount count (select files folder place parts exclude)) := by
          simp [journalFiles, located, here, read, slash, bind, Except.bind]
        refine ⟨select files folder place parts exclude, taken none,
          fun count => taken (some count), pairwise_select files folder place parts exclude,
          fun path => ?_⟩
        simp [mem_select_iff tree located here, isFolder, at?, located, here, slash]
    · exact ⟨[], by simp [journalFiles, located, isFolder, at?, here]⟩

/-- A folder with a note in a folder, and with a template in a folder of its own. -/
def vault : Files :=
  [([Text.of "v"], .folder), ([Text.of "v", Text.of "b"], .folder),
    ([Text.of "v", Text.of "b", Text.of "a.md"], .file []),
    ([Text.of "v", Text.of "Templates"], .folder),
    ([Text.of "v", Text.of "Templates", Text.of "t.md"], .file [])]

theorem journalFiles_selects_vault :
    (Path.ofText (Text.of "Templates/t.md")).isExcluded [Text.of " /Templates/ "] = true ∧
    ∃ all : List Path,
      journalFiles vault (Path.ofText (Text.of "v")) [Text.of " /Templates/ "] none notes =
        .ok all ∧
      journalFiles vault (Path.ofText (Text.of "v")) [Text.of " /Templates/ "] (some 1) notes =
        .ok (all.take 1) ∧
      Path.ofText (Text.of "v/b/a.md") ∈ all ∧ Path.ofText (Text.of "v/Templates/t.md") ∉ all := by
  have ⟨downward, _, selects⟩ := journalFiles_selects
  have excluded : (Path.ofText (Text.of "Templates/t.md")).isExcluded [Text.of " /Templates/ "] =
      true :=
    downward (Text.of "Templates") (Text.of "t.md") _ rfl (by decide) (by decide +kernel)
  have tree : IsTree vault := ⟨by decide +kernel, by decide +kernel⟩
  obtain ⟨all, whole, first, -, member⟩ := selects vault (Path.ofText (Text.of "v"))
    [Text.of " /Templates/ "] notes [twoStars, Text.of "*.md"] tree (by decide +kernel)
  have folders : ∀ name ∈ [Text.of "b"], IsName name := by decide +kernel
  have covers : Glob.Covers (Text.of "*.md") (Text.of "a.md") :=
    Glob.covers_iff.mp (by decide +kernel)
  have leads : Leads [twoStars, Text.of "*.md"] ([Text.of "b"] ++ [Text.of "a.md"]) :=
    .folders folders (by decide) (.named (by decide) (by decide) (by decide) covers .done)
  refine ⟨excluded, all, whole, first 1, (member _).mpr ⟨by decide +kernel, by decide +kernel,
    by decide +kernel, _, by decide +kernel, leads, ?_⟩, fun listed => ?_⟩
  · intro exclusion listed excludes
    have kept := (Path.isExcluded_iff (by decide) leads.isPart).mpr ⟨exclusion, listed, excludes⟩
    revert kept
    decide +kernel
  · obtain ⟨-, -, -, rest, same, leads, free⟩ := (member _).mp listed
    have whole : [Text.of "Templates", Text.of "t.md"] = rest :=
      List.cons.inj (congrArg Path.parts same) |>.2
    subst whole
    obtain ⟨exclusion, listed, excludes⟩ :=
      (Path.isExcluded_iff (by decide) leads.isPart).mp excluded
    exact free exclusion listed excludes

end DreamJournal.Files
