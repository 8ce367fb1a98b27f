import Gherkin.Check.FoundFile
import Gherkin.Proofs.Check.FileTree
import Mathlib.Data.List.Permutation

/-!
# The files that paths name

Which files are found does not depend on how often or in which order paths are given: the files that
are named are put in order, and of those whose paths have the same components one is kept.
Components decide throughout, so that names which only look alike stay apart (`a.feature`,
`a/b.feature`, `a-b/c.feature`).

Main statements: what a path names (`mem_gather_iff`), that the files which are kept are strictly in
order (`pairwise_dropRepeats`), and what is found for a list of paths (`findFiles_lists`).
-/

namespace Gherkin.Check

/-- What a path names, given what stands at its end: the components at which each file is named, and
its content. -/
inductive Names (path : OsText) : FileTree → List PathComponent → Option Text → Prop
  | file {content : Option Text} : Names path (.file content) (Path.components path) content
  | below {entries : List (OsText × FileTree)} {names : List OsText} {name : OsText}
    {content : Option Text} :
    (FileTree.directory entries).at? (names ++ [name]) = some (.file content) → FeatureName name →
      Names path (.directory entries) (Path.components path ++ (names ++ [name]).map .name) content

/-- One of the paths leads to something and names a file there. -/
def Named (find : OsText → Except ReadFailure FileTree) (args : List OsText)
    (components : List PathComponent) (content : Option Text) : Prop :=
  ∃ path ∈ args, ∃ t, find path = .ok t ∧ Names path t components content

section Gather

variable {path : OsText} {t : FileTree} {found : List FoundFile}

theorem gather_eq_error_iff {r : Except ReadFailure FileTree} {e : CheckError} :
    gather path r = .error e ↔ (∀ t, r ≠ .ok t) ∧ e = .missingPath path := by
  cases r with
  | error failure => simp [gather, eq_comm]
  | ok t => cases t <;> simp [gather]

theorem exists_gather_eq_ok_iff {r : Except ReadFailure FileTree} :
    (∃ found, gather path r = .ok found) ↔ ∃ t, r = .ok t := by
  cases r with
  | error failure => simp [gather]
  | ok t => cases t <;> simp [gather]

/-- What is gathered is what the path names. -/
theorem mem_gather_iff (hne : path ≠ []) (ht : t.Proper) (h : gather path (.ok t) = .ok found)
    {components : List PathComponent} {content : Option Text} :
    (∃ f ∈ found, Path.components f.path = components ∧ f.content = content) ↔
      Names path t components content := by
  cases t with
  | file content' =>
    cases h
    constructor
    · rintro ⟨f, hf, rfl, rfl⟩
      cases List.mem_singleton.1 hf
      exact .file
    · rintro ⟨⟩
      exact ⟨_, List.mem_singleton_self _, rfl, rfl⟩
  | directory entries =>
    cases h
    have hfiles (names : List OsText) (content : Option Text) :
        (names, content) ∈ FileTree.filesIn entries ↔
          (FileTree.directory entries).at? names = some (.file content) :=
      FileTree.mem_files_iff ht names
    have hcomponents {names : List OsText} {content : Option Text}
        (hat : (FileTree.directory entries).at? names = some (.file content)) :
        Path.components (names.foldl Path.extend path) = Path.components path ++ names.map .name :=
      Path.components_foldl_extend hne (ht.at? hat).2
    constructor
    · rintro ⟨f, hf, rfl, rfl⟩
      obtain ⟨⟨names, content⟩, hmem, rfl⟩ := List.mem_map.1 hf
      obtain ⟨hmem, hname⟩ := List.mem_filter.1 hmem
      obtain ⟨name, hlast, hfeature⟩ := (Option.any_eq_true _ _).1 hname
      obtain ⟨names, rfl⟩ := List.getLast?_eq_some_iff.1 hlast
      have hat := (hfiles _ _).1 hmem
      rw [hcomponents hat]
      exact .below hat (Path.isFeatureName_iff.1 hfeature)
    · rintro ⟨⟩
      next names name hfeature hat =>
      refine ⟨_, List.mem_map.2 ⟨(names ++ [name], content), List.mem_filter.2 ⟨?_, ?_⟩, rfl⟩,
        hcomponents hat, rfl⟩
      · exact (hfiles _ _).2 hat
      · simpa using Path.isFeatureName_iff.2 hfeature

end Gather

section DropRepeats

variable {files : List FoundFile}

theorem sublist_dropRepeats (files : List FoundFile) : (dropRepeats files).Sublist files := by
  fun_induction dropRepeats files with
  | case1 => exact .refl _
  | case2 => exact .refl _
  | case3 f g rest _ ih => exact ih.trans (.cons_cons f (List.sublist_cons_self g rest))
  | case4 f g rest _ ih => exact ih.cons_cons f

/-- For each file one with the same components is kept. -/
theorem exists_mem_dropRepeats {f : FoundFile} (h : f ∈ files) :
    ∃ g ∈ dropRepeats files, Path.components g.path = Path.components f.path := by
  fun_induction dropRepeats files generalizing f with
  | case1 => cases h
  | case2 g => exact ⟨f, h, rfl⟩
  | case3 g g' rest halike ih =>
    have halike := Path.alike_iff.1 halike
    rcases List.mem_cons.1 h with rfl | h
    · exact ih List.mem_cons_self
    · rcases List.mem_cons.1 h with rfl | h
      · exact halike ▸ ih List.mem_cons_self
      · exact ih (List.mem_cons_of_mem _ h)
  | case4 g g' rest _ ih =>
    rcases List.mem_cons.1 h with rfl | h
    · exact ⟨f, List.mem_cons_self, rfl⟩
    · obtain ⟨k, hk, heq⟩ := ih h
      exact ⟨k, List.mem_cons_of_mem _ hk, heq⟩

/-- Of files in order, those that are kept are strictly in order. -/
theorem pairwise_dropRepeats (h : files.Pairwise fun f g ↦ Path.le f.path g.path) :
    (dropRepeats files).Pairwise fun f g ↦ Path.compare f.path g.path = .lt := by
  fun_induction dropRepeats files with
  | case1 => exact .nil
  | case2 => exact List.pairwise_singleton _ _
  | case3 f g rest _ ih => exact ih (h.sublist (.cons_cons f (List.sublist_cons_self g rest)))
  | case4 f g rest hdiffer ih =>
    obtain ⟨hf, hrest⟩ := List.pairwise_cons.1 h
    have hlt : Path.compare f.path g.path = .lt :=
      Path.compare_eq_lt_of_le (hf g List.mem_cons_self) fun heq ↦ hdiffer (Path.alike_iff.2 heq)
    refine List.pairwise_cons.2 ⟨fun k hk ↦ ?_, ih hrest⟩
    rcases List.mem_cons.1 ((sublist_dropRepeats _).subset hk) with rfl | hk
    · exact hlt
    · exact Path.compare_lt_of_lt_of_le hlt ((List.pairwise_cons.1 hrest).1 k hk)

end DropRepeats

/-! ## Files that are found -/

section FindFiles

variable {find : OsText → Except ReadFailure FileTree} {args args' : List OsText}
  {files files' : List FoundFile}

/-- Nothing is found if a path leads nowhere, and the first one that does is told. -/
theorem findFiles_eq_error_iff {e : CheckError} :
    findFiles find args = .error e ↔ ∃ before path after, args = before ++ path :: after ∧
      (∀ p ∈ before, ∃ t, find p = .ok t) ∧ (∀ t, find path ≠ .ok t) ∧ e = .missingPath path := by
  have hgather : findFiles find args = .error e ↔
      args.mapM (fun path ↦ gather path (find path)) = .error e := by
    rw [findFiles]
    cases args.mapM fun path ↦ gather path (find path) <;>
      simp [bind, Except.bind, pure, Except.pure]
  rw [hgather, list_mapM_eq_error_iff]
  simp only [exists_gather_eq_ok_iff, gather_eq_error_iff]

theorem findFiles_eq_ok_iff :
    findFiles find args = .ok files ↔ ∃ found : List (List FoundFile),
      args.map (fun path ↦ gather path (find path)) = found.map .ok ∧
        dropRepeats (found.flatten.mergeSort fun a b ↦ Path.le a.path b.path) = files := by
  simp only [findFiles, bind_eq_ok_iff, list_mapM_eq_ok_iff, pure, Except.pure, Except.ok.injEq]

/-- What is found at all is what is found at one of the paths. -/
theorem mem_found_iff {found : List (List FoundFile)}
    (h : args.map (fun path ↦ gather path (find path)) = found.map .ok) {fs : List FoundFile} :
    fs ∈ found ↔ ∃ path ∈ args, gather path (find path) = .ok fs := by
  have hok : fs ∈ found ↔ (.ok fs : Except CheckError (List FoundFile)) ∈ found.map .ok := by simp
  rw [hok, ← h, List.mem_map]

/-- Files are found if each path leads somewhere. -/
theorem exists_findFiles_iff :
    (∃ files, findFiles find args = .ok files) ↔ ∀ path ∈ args, ∃ t, find path = .ok t := by
  constructor
  · rintro ⟨files, hfiles⟩ path hpath
    obtain ⟨found, hfound, -⟩ := findFiles_eq_ok_iff.1 hfiles
    have hmem : gather path (find path) ∈ found.map .ok := hfound ▸ List.mem_map_of_mem hpath
    obtain ⟨fs, -, hfs⟩ := List.mem_map.1 hmem
    exact exists_gather_eq_ok_iff.1 ⟨fs, hfs.symm⟩
  · intro h
    cases hfiles : findFiles find args with
    | ok files => exact ⟨files, rfl⟩
    | error e =>
      obtain ⟨before, path, after, rfl, -, hnone, -⟩ := findFiles_eq_error_iff.1 hfiles
      obtain ⟨t, ht⟩ := h path (by simp)
      exact absurd ht (hnone t)

/-- The files are strictly in the order of their paths, each is named by one of the arguments, and
wherever a file is named there is one whose path has the same components. -/
structure Lists (find : OsText → Except ReadFailure FileTree) (args : List OsText)
    (files : List FoundFile) : Prop where
  ordered : files.Pairwise fun f g ↦ Path.compare f.path g.path = .lt
  named : ∀ f ∈ files, Named find args (Path.components f.path) f.content
  complete {components : List PathComponent} {content : Option Text} :
    Named find args components content → ∃ f ∈ files, Path.components f.path = components

theorem lists_of_findFiles (hfind : ∀ path t, find path = .ok t → path ≠ [] ∧ t.Proper)
    (h : findFiles find args = .ok files) : Lists find args files := by
  obtain ⟨found, hfound, rfl⟩ := findFiles_eq_ok_iff.1 h
  have hnamed (components : List PathComponent) (content : Option Text) :
      (∃ f ∈ found.flatten, Path.components f.path = components ∧ f.content = content) ↔
        Named find args components content := by
    constructor
    · rintro ⟨f, hf, hcomponents⟩
      obtain ⟨fs, hfs, hf⟩ := List.mem_flatten.1 hf
      obtain ⟨path, hpath, hgather⟩ := (mem_found_iff hfound).1 hfs
      obtain ⟨t, ht⟩ := exists_gather_eq_ok_iff.1 ⟨fs, hgather⟩
      obtain ⟨hne, hproper⟩ := hfind path t ht
      rw [ht] at hgather
      exact ⟨path, hpath, t, ht, (mem_gather_iff hne hproper hgather).1 ⟨f, hf, hcomponents⟩⟩
    · rintro ⟨path, hpath, t, ht, hnames⟩
      obtain ⟨fs, hgather⟩ := exists_gather_eq_ok_iff.2 ⟨t, ht⟩
      have hfs := (mem_found_iff hfound).2 ⟨path, hpath, hgather⟩
      obtain ⟨hne, hproper⟩ := hfind path t ht
      rw [ht] at hgather
      obtain ⟨f, hf, hcomponents⟩ := (mem_gather_iff hne hproper hgather).2 hnames
      exact ⟨f, List.mem_flatten.2 ⟨fs, hfs, hf⟩, hcomponents⟩
  have hsorted : (found.flatten.mergeSort fun a b ↦ Path.le a.path b.path).Pairwise
      fun f g ↦ Path.le f.path g.path := by
    apply List.pairwise_mergeSort
    · exact fun _ _ _ ↦ Path.le_trans
    · exact fun a b ↦ Path.le_total a.path b.path
  refine ⟨pairwise_dropRepeats hsorted, fun f hf ↦ ?_, fun h ↦ ?_⟩
  · have hf := List.mem_mergeSort.1 ((sublist_dropRepeats _).subset hf)
    exact (hnamed _ _).1 ⟨f, hf, rfl, rfl⟩
  · obtain ⟨f, hf, rfl, -⟩ := (hnamed _ _).2 h
    exact exists_mem_dropRepeats (List.mem_mergeSort.2 hf)

theorem Named.mono {components : List PathComponent} {content : Option Text}
    (h : Named find args components content) (hsub : args ⊆ args') :
    Named find args' components content := by
  obtain ⟨path, hpath, hnames⟩ := h
  exact ⟨path, hsub hpath, hnames⟩

namespace Lists

theorem components_subset (h : Lists find args files) (h' : Lists find args' files')
    (hsub : args ⊆ args') :
    files.map (Path.components ·.path) ⊆ files'.map (Path.components ·.path) := by
  intro components hcomponents
  obtain ⟨f, hf, rfl⟩ := List.mem_map.1 hcomponents
  obtain ⟨g, hg, heq⟩ := h'.complete ((h.named f hf).mono hsub)
  exact List.mem_map.2 ⟨g, hg, heq⟩

theorem pairwise_components (h : Lists find args files) :
    (files.map (Path.components ·.path)).Pairwise
      fun a b ↦ List.compareLex PathComponent.compare a b = .lt :=
  List.pairwise_map.2 h.ordered

theorem nodup_components (h : Lists find args files) :
    (files.map (Path.components ·.path)).Nodup :=
  h.pairwise_components.imp fun {a b} hlt heq ↦ by
    subst heq
    have hself := @Std.ReflCmp.compare_self _ (List.compareLex PathComponent.compare) _ a
    rw [hself] at hlt
    cases hlt

/-- The paths of files that are listed for the same arguments are spelled alike. -/
theorem components_eq (h : Lists find args files) (h' : Lists find args' files')
    (hargs : ∀ path, path ∈ args' ↔ path ∈ args) :
    files'.map (Path.components ·.path) = files.map (Path.components ·.path) := by
  have hmem (components : List PathComponent) : components ∈ files'.map (Path.components ·.path) ↔
      components ∈ files.map (Path.components ·.path) :=
    ⟨fun hp ↦ h'.components_subset h (fun p ↦ (hargs p).1) hp,
      fun hp ↦ h.components_subset h' (fun p ↦ (hargs p).2) hp⟩
  have hperm := (List.perm_ext_iff_of_nodup h'.nodup_components h.nodup_components).2 hmem
  refine hperm.eq_of_pairwise (fun a b _ _ hab hba ↦ ?_) h'.pairwise_components
    h.pairwise_components
  exact absurd hba (Std.OrientedCmp.not_lt_of_lt hab)

end Lists

/-- Files are found unless a path leads nowhere, and then the first such path is told. What is found
are the files that the paths name, strictly in order, and they are the same for the same paths in
any order and however often each is given. -/
theorem findFiles_lists (hfind : ∀ path t, find path = .ok t → path ≠ [] ∧ t.Proper) :
    (∀ e, findFiles find args = .error e ↔ ∃ before path after, args = before ++ path :: after ∧
      (∀ p ∈ before, ∃ t, find p = .ok t) ∧ (∀ t, find path ≠ .ok t) ∧ e = .missingPath path) ∧
    ∀ files, findFiles find args = .ok files → Lists find args files ∧
      ∀ args', (∀ path, path ∈ args' ↔ path ∈ args) → ∃ files', findFiles find args' = .ok files' ∧
        files'.map (Path.components ·.path) = files.map (Path.components ·.path) := by
  refine ⟨fun e ↦ findFiles_eq_error_iff, fun files hfiles ↦ ?_⟩
  have hlists := lists_of_findFiles hfind hfiles
  refine ⟨hlists, fun args' hargs ↦ ?_⟩
  have hlead := exists_findFiles_iff.1 ⟨files, hfiles⟩
  obtain ⟨files', hfiles'⟩ := exists_findFiles_iff.2 fun path h ↦ hlead path ((hargs path).1 h)
  exact ⟨files', hfiles', hlists.components_eq (lists_of_findFiles hfind hfiles') hargs⟩

end FindFiles

/-- A tree with names that look alike. -/
def lookalikes : FileTree :=
  .directory
    [(.ofText "a".toList, .directory
      [(.ofText "b.feature".toList, .file (some "Feature: b\n".toList)),
        (.ofText "notes.md".toList, .file (some []))]),
    (.ofText "a-b".toList, .directory [(.ofText "c.feature".toList, .file none)]),
    (.ofText "a.feature".toList, .file (some "Feature: a\n".toList)),
    (.ofText "story.txt".toList, .file (some "Feature: s\n".toList))]

theorem proper_lookalikes : lookalikes.Proper := by
  refine .directory (by decide) (by decide) ?_
  simp only [List.forall_mem_cons]
  refine ⟨.directory (by decide) (by decide) ?_, .directory (by decide) (by decide) ?_, .file _,
    .file _, nofun⟩ <;>
    simp [FileTree.Proper.file]

/-- Paths that overlap. -/
def overlapping : List OsText :=
  ["story.txt".toList, "./".toList, "a-b/c.feature".toList, "a//".toList, "a".toList,
    "a.feature".toList].map .ofText

theorem lists_lookalikes : ∃ files, findFiles lookalikes.find overlapping = .ok files ∧
    files.map (·.path) = ["./a/b.feature".toList, "./a-b/c.feature".toList, "./a.feature".toList,
      "a//b.feature".toList, "a-b/c.feature".toList, "a.feature".toList, "story.txt".toList].map
        .ofText ∧
    Lists lookalikes.find overlapping files ∧
    ∃ files', findFiles lookalikes.find overlapping.reverse = .ok files' ∧
      files'.map (Path.components ·.path) = files.map (Path.components ·.path) := by
  obtain ⟨files, hfiles, hpaths⟩ := toOption_map_eq_some_iff.1 (by cbv :
    (findFiles lookalikes.find overlapping).toOption.map (·.map (·.path)) =
      some (["./a/b.feature".toList, "./a-b/c.feature".toList, "./a.feature".toList,
        "a//b.feature".toList, "a-b/c.feature".toList, "a.feature".toList,
        "story.txt".toList].map .ofText))
  have hlooksUp := FileTree.looksUp_find lookalikes
  obtain ⟨hlists, hsame⟩ := (findFiles_lists fun path t h ↦
    ⟨hlooksUp.path_ne_nil h, hlooksUp.proper proper_lookalikes h⟩).2 files hfiles
  exact ⟨files, hfiles, hpaths, hlists, hsame _ fun path ↦ List.mem_reverse⟩

end Gherkin.Check
