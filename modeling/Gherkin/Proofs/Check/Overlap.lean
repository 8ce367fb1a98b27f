import Mathlib.Data.List.DropRight
import Gherkin.Check.Report.Basic
import Gherkin.Proofs.Check.FoundFile

/-!
# Files reported once

Paths that overlap lead to the same files. A file is kept once for each way in which its path is
spelled, and spellings that begin alike and go on in names only lead to different places. So a file
is reported twice only through paths that begin differently: with a dot in front and without one,
back through the parent of a directory, or from the root and from home.

Main statement: `pairwise_place_of_reportsOn`; with paths that begin differently a file can be
reported twice (`not_pairwise_place_of_reportsOn`).
-/

namespace Gherkin.Check

/-- Whether a component is a name. -/
def PathComponent.isName : PathComponent → Bool
  | name _ => true
  | _ => false

namespace Path

/-- The components of a path up to the last one that is no name. -/
def anchor (path : OsText) : List PathComponent :=
  (components path).rdropWhile PathComponent.isName

variable {a b : OsText}

theorem exists_components_eq (path : OsText) :
    ∃ names : List OsText, components path = anchor path ++ names.map .name := by
  let last := (components path).rtakeWhile PathComponent.isName
  have hlast : last.map (fun c ↦ PathComponent.name c.text) = last := by
    refine (List.map_congr_left fun c hc ↦ ?_).trans (List.map_id _)
    cases c with
    | name t => rfl
    | _ => cases List.mem_rtakeWhile_imp hc
  refine ⟨last.map PathComponent.text, ?_⟩
  calc
    components path = anchor path ++ last := List.rdropWhile_append_rtakeWhile.symm
    _ = anchor path ++ (last.map PathComponent.text).map .name := by
      rw [List.map_map]
      exact congrArg _ hlast.symm

theorem rdropWhile_append_names (start : List PathComponent) (names : List OsText) :
    (start ++ names.map PathComponent.name).rdropWhile PathComponent.isName =
      start.rdropWhile PathComponent.isName := by
  induction names using List.reverseRecOn with
  | nil => simp
  | append_singleton names name ih =>
    rw [List.map_append, ← List.append_assoc, List.map_singleton,
      List.rdropWhile_concat_pos _ _ _ rfl, ih]

/-- Names at the end of a path do not change how it begins. -/
theorem anchor_eq_of_components_eq {names : List OsText}
    (h : components a = components b ++ names.map .name) : anchor a = anchor b := by
  rw [anchor, anchor, h, rdropWhile_append_names]

theorem foldl_follow_name (place names : List OsText) :
    (names.map PathComponent.name).foldl PathComponent.follow place = place ++ names := by
  induction names generalizing place with
  | nil => simp
  | cons name names ih => simp [PathComponent.follow, ih]

/-- Of paths that begin alike, different ones lead to different places. -/
theorem components_eq_of_place_eq {home : List OsText} (hanchor : anchor a = anchor b)
    (h : place home a = place home b) : components a = components b := by
  obtain ⟨names, ha⟩ := exists_components_eq a
  obtain ⟨names', hb⟩ := exists_components_eq b
  rw [place, place, ha, hb, hanchor, List.foldl_append, List.foldl_append, foldl_follow_name,
    foldl_follow_name] at h
  rw [ha, hb, hanchor, List.append_cancel_left h]

end Path

section Reports

variable {root : FileTree} {home : List OsText} {find : OsText → Except ReadFailure FileTree}
  {config : Settings} {expand : Bool} {args : List OsText} {files : List FoundFile}
  {reports : List FileReport}

theorem FileReport.path_ofFile (options : ParseOptions) (expand : Bool) (f : FoundFile) :
    (FileReport.ofFile options expand f).path = f.path := by
  rw [ofFile]
  cases parseFeatureFile options f.path.display f.read <;> rfl

theorem reportsOn_eq_ok_iff : reportsOn find config expand args = .ok reports ↔
    ∃ files, findFiles find args = .ok files ∧
      files.map (FileReport.ofFile config.parseOptions expand) = reports := by
  simp only [reportsOn, bind_eq_ok_iff, pure, Except.pure, Except.ok.injEq]

/-- Reports have the paths of the files that are found. -/
theorem exists_reportsOn {paths : List OsText}
    (h : (findFiles find args).toOption.map (·.map (·.path)) = some paths) (config : Settings)
    (expand : Bool) : ∃ reports, reportsOn find config expand args = .ok reports ∧
      reports.map (·.path) = paths := by
  obtain ⟨files, hfiles, rfl⟩ := toOption_map_eq_some_iff.1 h
  refine ⟨_, reportsOn_eq_ok_iff.2 ⟨files, hfiles, rfl⟩, ?_⟩
  rw [List.map_map]
  exact List.map_congr_left fun f _ ↦ FileReport.path_ofFile _ _ f

/-- A file that is named at some components stands where they lead. -/
theorem Named.at_place {components : List PathComponent} {content : Option Text}
    (hfind : root.LooksUp home find) (h : Named find args components content) :
    root.at? (components.foldl PathComponent.follow home) = some (.file content) := by
  obtain ⟨path, -, t, ht, hnames⟩ := h
  have hplace := hfind.at_place ht
  cases hnames with
  | file => exact hplace
  | below hat _ =>
    rw [List.foldl_append, Path.foldl_follow_name, FileTree.at?_append, ← Path.place, hplace]
    exact hat

/-- The path of a file that is named begins as one of the arguments does. -/
theorem Named.exists_anchor_eq {path : OsText} {content : Option Text}
    (h : Named find args (Path.components path) content) :
    ∃ arg ∈ args, Path.anchor path = Path.anchor arg := by
  obtain ⟨arg, harg, t, -, hnames⟩ := h
  refine ⟨arg, harg, ?_⟩
  generalize hcomponents : Path.components path = components at hnames
  cases hnames with
  | file => rw [Path.anchor, Path.anchor, hcomponents]
  | below => exact Path.anchor_eq_of_components_eq hcomponents

/-- Each report is on a file, and its path begins as one of the arguments does. Reports whose paths
begin alike are on different files. -/
theorem pairwise_place_of_reportsOn (hroot : root.Proper) (hfind : root.LooksUp home find)
    (h : reportsOn find config expand args = .ok reports) :
    (∀ r ∈ reports, (∃ content, root.at? (Path.place home r.path) = some (.file content)) ∧
      ∃ arg ∈ args, Path.anchor r.path = Path.anchor arg) ∧
    reports.Pairwise fun r r' ↦ Path.anchor r.path = Path.anchor r'.path →
      Path.place home r.path ≠ Path.place home r'.path := by
  obtain ⟨files, hfiles, rfl⟩ := reportsOn_eq_ok_iff.1 h
  have hlists : Lists find args files :=
    lists_of_findFiles (fun _ _ ht ↦ ⟨hfind.path_ne_nil ht, hfind.proper hroot ht⟩) hfiles
  constructor
  · intro r hr
    obtain ⟨f, hf, rfl⟩ := List.mem_map.1 hr
    have hnamed := hlists.named f hf
    rw [FileReport.path_ofFile]
    exact ⟨⟨f.content, hnamed.at_place hfind⟩, hnamed.exists_anchor_eq⟩
  · refine List.pairwise_map.2 ((List.pairwise_map.1 hlists.nodup_components).imp ?_)
    intro f g hne hanchor hplace
    rw [FileReport.path_ofFile, FileReport.path_ofFile] at hanchor hplace
    exact hne (Path.components_eq_of_place_eq hanchor hplace)

end Reports

/-- Paths that overlap and begin alike. -/
def nested : List OsText :=
  ["./a-b".toList, ".".toList, "./a/b.feature".toList, "./a//".toList, "././story.txt".toList].map
    .ofText

theorem pairwise_place_nested : ∃ reports, reportsOn lookalikes.find {} true nested = .ok reports ∧
    reports.map (·.path) = ["./a/b.feature".toList, "./a-b/c.feature".toList,
      "./a.feature".toList, "././story.txt".toList].map .ofText ∧
    reports.Pairwise fun r r' ↦ Path.place [] r.path ≠ Path.place [] r'.path := by
  obtain ⟨reports, hreports, hpaths⟩ := exists_reportsOn (by cbv :
    (findFiles lookalikes.find nested).toOption.map (·.map (·.path)) =
      some (["./a/b.feature".toList, "./a-b/c.feature".toList, "./a.feature".toList,
        "././story.txt".toList].map .ofText)) {} true
  obtain ⟨hbegin, hpairwise⟩ := pairwise_place_of_reportsOn proper_lookalikes
    (FileTree.looksUp_find lookalikes) hreports
  have hnested : ∀ arg ∈ nested, Path.anchor arg = [.current] := by decide +kernel
  have hanchor (r : FileReport) (hr : r ∈ reports) : Path.anchor r.path = [.current] := by
    obtain ⟨-, arg, harg, heq⟩ := hbegin r hr
    rw [heq, hnested arg harg]
  refine ⟨reports, hreports, hpaths, hpairwise.imp_of_mem fun {r r'} hr hr' hdiffer ↦ ?_⟩
  exact hdiffer (by rw [hanchor r hr, hanchor r' hr'])

/-- A file below the current directory that is named by itself too is reported twice. -/
theorem not_pairwise_place_of_reportsOn :
    ¬ ∀ (root : FileTree) (home : List OsText) (find : OsText → Except ReadFailure FileTree)
        (config : Settings) (expand : Bool) (args : List OsText) (reports : List FileReport),
      root.Proper → root.LooksUp home find → reportsOn find config expand args = .ok reports →
        reports.Pairwise fun r r' ↦ Path.place home r.path ≠ Path.place home r'.path := by
  intro h
  obtain ⟨reports, hreports, hpaths⟩ := exists_reportsOn (by cbv :
    (findFiles lookalikes.find ([".".toList, "a.feature".toList].map .ofText)).toOption.map
      (·.map (·.path)) = some (["./a/b.feature".toList, "./a-b/c.feature".toList,
        "./a.feature".toList, "a.feature".toList].map .ofText)) {} false
  have hdiffer : (reports.map (·.path)).Pairwise fun a b ↦ Path.place [] a ≠ Path.place [] b :=
    List.pairwise_map.2
      (h _ _ _ _ _ _ _ proper_lookalikes (FileTree.looksUp_find lookalikes) hreports)
  rw [hpaths] at hdiffer
  revert hdiffer
  decide +kernel

end Gherkin.Check
