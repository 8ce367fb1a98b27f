import Gherkin.Check.FileTree
import Gherkin.Proofs.Check.Path
import Gherkin.Proofs.Readings

/-!
# Places in a file tree

Where no name leads back or elsewhere, a file stands at one place only: the names that lead to it
from the root of its tree. A path is followed from a home directory, and where it leads can be read
off its components alone, if it leads anywhere.

Main statements: the files of a tree are those at its places (`mem_files_iff`), and what is found at
the end of a path stands at the place that its components tell (`looksUp_find`).
-/

namespace Gherkin.Check

namespace FileTree

/-- The entries of each directory have names that entries can have, and no two have the same. -/
inductive Proper : FileTree → Prop
  | file (content : Option Text) : Proper (file content)
  | directory {entries : List (OsText × FileTree)} :
    (entries.map Prod.fst).Nodup → (∀ e ∈ entries, EntryName e.1) → (∀ e ∈ entries, Proper e.2) →
      Proper (directory entries)

/-- What stands at the end of a chain of names. -/
def at? : FileTree → List OsText → Option FileTree
  | t, [] => some t
  | file _, _ :: _ => none
  | directory entries, name :: names => (child? name entries).bind (·.at? names)

section Entries

variable {entries : List (OsText × FileTree)} {name : OsText} {names : List OsText} {t : FileTree}
  {content : Option Text}

theorem mem_of_child? (h : child? name entries = some t) : (name, t) ∈ entries := by
  induction entries with
  | nil => cases h
  | cons e entries ih =>
    rw [child?] at h
    split at h
    · next heq =>
      cases h
      subst heq
      exact List.mem_cons_self
    · exact List.mem_cons_of_mem _ (ih h)

theorem at?_append (t : FileTree) (names more : List OsText) :
    t.at? (names ++ more) = (t.at? names).bind (·.at? more) := by
  induction names generalizing t with
  | nil => rfl
  | cons name names ih =>
    cases t with
    | file => rfl
    | directory entries =>
      rw [List.cons_append, at?, at?]
      cases child? name entries with
      | none => rfl
      | some t => exact ih t

/-- What stands in a proper tree is proper, and the names that lead to it are names of entries. -/
theorem Proper.at? (h : t.Proper) {u : FileTree} (hat : t.at? names = some u) :
    u.Proper ∧ ∀ name ∈ names, EntryName name := by
  induction names generalizing t with
  | nil =>
    cases hat
    exact ⟨h, nofun⟩
  | cons name names ih =>
    cases h with
    | file => cases hat
    | directory _ hnames hentries =>
      obtain ⟨v, hchild, hat⟩ := Option.bind_eq_some_iff.1 hat
      have hmem := mem_of_child? hchild
      obtain ⟨hu, hrest⟩ := ih (hentries _ hmem) hat
      exact ⟨hu, List.forall_mem_cons.2 ⟨hnames _ hmem, hrest⟩⟩

end Entries

section Files

variable {content : Option Text}

mutual

/-- The files of a tree are those that names lead to. -/
theorem mem_files_iff : {t : FileTree} → t.Proper → (names : List OsText) →
    ((names, content) ∈ t.files ↔ t.at? names = some (file content))
  | file c, _, names => by
    cases names with
    | nil => simp [files, FileTree.at?, eq_comm]
    | cons => simp [files, FileTree.at?]
  | directory entries, h, names => by
    cases h with
    | directory hnodup _ hentries => rw [files, mem_filesIn_iff hnodup hentries]

theorem mem_filesIn_iff : {entries : List (OsText × FileTree)} → (entries.map Prod.fst).Nodup →
    (∀ e ∈ entries, Proper e.2) → (names : List OsText) →
    ((names, content) ∈ filesIn entries ↔ (directory entries).at? names = some (file content))
  | [], _, _, names => by cases names <;> simp [filesIn, FileTree.at?, child?]
  | (name, t) :: rest, hnodup, hproper, names => by
    obtain ⟨hnot, hnodup⟩ := List.nodup_cons.1 hnodup
    obtain ⟨ht, hrest⟩ := List.forall_mem_cons.1 hproper
    have hfirst (ns : List OsText) : (ns, content) ∈ t.files ↔ t.at? ns = some (file content) :=
      mem_files_iff ht ns
    rw [filesIn, List.mem_append, mem_filesIn_iff hnodup hrest, List.mem_map]
    cases names with
    | nil => simp [FileTree.at?]
    | cons n ns =>
      rw [FileTree.at?, FileTree.at?, child?]
      split
      · next heq =>
        -- no later entry has the name of this one
        have hnone : child? n rest = none := by
          apply Option.eq_none_iff_forall_ne_some.2
          intro u hu
          exact hnot (List.mem_map.2 ⟨_, mem_of_child? hu, heq.symm⟩)
        simp [heq, hnone, hfirst]
      · next hne => simp [hne]

end

end Files

end FileTree

/-- The place that a component leads to from another place. -/
def PathComponent.follow (place : List OsText) : PathComponent → List OsText
  | root => []
  | current => place
  | parent => place.dropLast
  | name t => place ++ [t]

/-- The place that a path leads to from a home directory. -/
def Path.place (home : List OsText) (path : OsText) : List OsText :=
  (components path).foldl PathComponent.follow home

/-- A path that does not begin with a separator goes on from home, piece by piece. -/
theorem Path.place_eq_of_head?_ne {home : List OsText} {path : OsText} (hne : path ≠ [])
    (hhead : path.head? ≠ some slash) : place home path =
      ((segments path).filterMap component?).foldl PathComponent.follow home := by
  obtain ⟨first, rest, hsegments⟩ : ∃ first rest, segments path = first :: rest :=
    List.exists_cons_of_ne_nil (List.splitOn_ne_nil slash path)
  have hfirst : first ≠ [] := by
    rintro rfl
    cases path with
    | nil => exact hne rfl
    | cons c path =>
      have hc : (c == slash) = false := by simpa using hhead
      rw [segments, List.splitOn_cons_eq_if_modifyHead, hc] at hsegments
      cases hsplit : List.splitOn slash path <;> simp [hsplit] at hsegments
  rw [place, components_eq hne hsegments, hsegments]
  by_cases hdot : first = dot
  · rw [start, if_neg hfirst, if_pos hdot]
    simp [hdot, component?, PathComponent.follow]
  · rw [start, if_neg hfirst, if_neg hdot]
    cases hcomponent : component? first <;> simp [hcomponent]

namespace FileTree

/-- Paths are looked up in a tree from a home directory. -/
structure LooksUp (root : FileTree) (home : List OsText)
    (find : OsText → Except ReadFailure FileTree) : Prop where
  path_ne_nil {path : OsText} {t : FileTree} : find path = .ok t → path ≠ []
  at_place {path : OsText} {t : FileTree} :
    find path = .ok t → root.at? (Path.place home path) = some t

theorem LooksUp.proper {root t : FileTree} {home : List OsText} {path : OsText}
    {find : OsText → Except ReadFailure FileTree} (h : root.LooksUp home find) (hroot : root.Proper)
    (hfind : find path = .ok t) : t.Proper :=
  (hroot.at? (h.at_place hfind)).1

/-- What stands along the way to a place, the innermost first. -/
inductive Chain (root : FileTree) : List OsText → List FileTree → Prop
  | root : Chain root [] [root]
  | child {names : List OsText} {entries : List (OsText × FileTree)} {outer : List FileTree}
    {name : OsText} {t : FileTree} : Chain root names (directory entries :: outer) →
      child? name entries = some t → Chain root (names ++ [name]) (t :: directory entries :: outer)

variable {root : FileTree} {names : List OsText} {chain chain' : List FileTree} {segment : OsText}

namespace Chain

theorem at?_eq (h : Chain root names chain) : root.at? names = chain.head? := by
  induction h with
  | root => rfl
  | child _ hchild ih =>
    rw [at?_append, ih]
    simp [FileTree.at?, hchild]

/-- One step along a path goes where the component tells. -/
theorem step (h : Chain root names chain) (hstep : step segment chain = .ok chain') :
    Chain root ((Path.component? segment).toList.foldl PathComponent.follow names) chain' := by
  rw [Path.component?]
  cases chain with
  | nil => cases hstep
  | cons t outer =>
    cases t with
    | file => cases hstep
    | directory entries =>
      rw [FileTree.step] at hstep
      by_cases hstay : segment = [] ∨ segment = Path.dot
      · rw [if_pos hstay] at hstep ⊢
        cases hstep
        exact h
      rw [if_neg hstay] at hstep ⊢
      by_cases hback : segment = Path.dots
      · rw [if_pos hback] at hstep ⊢
        cases h with
        | root => cases hstep
        | child houter =>
          cases hstep
          simpa [PathComponent.follow] using houter
      rw [if_neg hback] at hstep ⊢
      split at hstep
      · next t hchild =>
        cases hstep
        exact h.child hchild
      · cases hstep

theorem steps {segments : List OsText} (h : Chain root names chain)
    (hsteps : segments.foldlM (fun chain segment ↦ FileTree.step segment chain) chain =
      .ok chain') :
    Chain root ((segments.filterMap Path.component?).foldl PathComponent.follow names) chain' := by
  induction segments generalizing names chain with
  | nil =>
    cases hsteps
    exact h
  | cons segment segments ih =>
    rw [List.foldlM_cons, bind_eq_ok_iff] at hsteps
    obtain ⟨middle, hstep, hsteps⟩ := hsteps
    have hrest := ih (h.step hstep) hsteps
    cases hcomponent : Path.component? segment with
    | none => simpa [hcomponent] using hrest
    | some c => simpa [hcomponent] using hrest

end Chain

theorem looksUp_find (root : FileTree) : root.LooksUp [] root.find where
  path_ne_nil {path t} h := by
    rintro rfl
    cases h
  at_place {path t} h := by
    rw [find] at h
    split at h
    · cases h
    next hrelative =>
    obtain ⟨hne, hhead⟩ : path ≠ [] ∧ path.head? ≠ some Path.slash := by
      simpa using hrelative
    obtain ⟨chain, hsteps, h⟩ := bind_eq_ok_iff.1 h
    have hat := (Chain.root.steps hsteps).at?_eq
    rw [Path.place_eq_of_head?_ne hne hhead, hat]
    cases chain with
    | nil => cases h
    | cons =>
      cases h
      rfl

end FileTree

end Gherkin.Check
