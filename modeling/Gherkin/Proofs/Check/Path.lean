import Gherkin.Check.Path
import Gherkin.Proofs.Language.Legible

/-!
# Paths and their components

Paths are put in order by their components, and the order is total: of two paths that differ in a
component one comes first. A path that names something and is followed by the name of an entry has
the components of the path and then that name, however the path ends.

Main statements: two paths are level exactly if their components are the same
(`Path.compare_eq_eq_iff`), and what a path followed by names consists of
(`Path.components_foldl_extend`).
-/

namespace Gherkin.Check

instance : Std.TransCmp PathComponent.compare :=
  inferInstanceAs (Std.TransCmp
    (compareLex (compareOn PathComponent.rank) (compareOn PathComponent.text)))

instance : Std.LawfulEqCmp PathComponent.compare where
  compare_self {a} := @Std.ReflCmp.compare_self _ PathComponent.compare _ a
  eq_of_compare {a b} h := by
    have hboth : a.rank = b.rank ∧ a.text = b.text := by
      simpa [PathComponent.compare, compareLex_eq_eq, compareOn] using h
    cases a <;> cases b <;> simp_all [PathComponent.rank, PathComponent.text]

namespace Path

theorem compare_eq_eq_iff {a b : OsText} : compare a b = .eq ↔ components a = components b :=
  @Std.LawfulEqCmp.compare_eq_iff_eq _ (List.compareLex PathComponent.compare) _ _ _

theorem alike_iff {a b : OsText} : alike a b = true ↔ components a = components b :=
  decide_eq_true_iff

theorem le_total (a b : OsText) : le a b || le b a := by
  have hswap : compare b a = (compare a b).swap :=
    @Std.OrientedCmp.eq_swap _ (List.compareLex PathComponent.compare) _ _ _
  rw [le, le, hswap]
  cases compare a b <;> rfl

theorem le_trans {a b c : OsText} (h : le a b = true) (h' : le b c = true) : le a c = true :=
  @Std.TransCmp.isLE_trans _ (List.compareLex PathComponent.compare) _ _ _ _ h h'

theorem compare_lt_of_lt_of_le {a b c : OsText} (h : compare a b = .lt) (h' : le b c = true) :
    compare a c = .lt :=
  @Std.TransCmp.lt_of_lt_of_isLE _ (List.compareLex PathComponent.compare) _ _ _ _ h h'

/-- Of two paths that are in order and differ in a component, the first comes before the other. -/
theorem compare_eq_lt_of_le {a b : OsText} (h : le a b = true) (hne : components a ≠ components b) :
    compare a b = .lt := by
  rw [le] at h
  cases hcompare : compare a b with
  | lt => rfl
  | eq => exact absurd (compare_eq_eq_iff.1 hcompare) hne
  | gt => simp [hcompare] at h

end Path

/-- A name that an entry of a directory can have. -/
structure EntryName (name : OsText) : Prop where
  ne_nil : name ≠ []
  ne_current : name ≠ Path.dot
  ne_parent : name ≠ Path.dots
  not_mem : Path.slash ∉ name

instance (name : OsText) : Decidable (EntryName name) :=
  decidable_of_iff (name ≠ [] ∧ name ≠ Path.dot ∧ name ≠ Path.dots ∧ Path.slash ∉ name)
    ⟨fun ⟨hne, hcurrent, hparent, hmem⟩ ↦ ⟨hne, hcurrent, hparent, hmem⟩,
      fun h ↦ ⟨h.ne_nil, h.ne_current, h.ne_parent, h.not_mem⟩⟩

/-- The name ends in `.feature` with something in front. -/
def FeatureName (name : OsText) : Prop :=
  ∃ stem, stem ≠ [] ∧ name = stem ++ OsText.ofText ".feature".toList

theorem Path.isFeatureName_iff {name : OsText} : isFeatureName name = true ↔ FeatureName name := by
  rw [isFeatureName, Bool.and_eq_true, List.isSuffixOf_iff_suffix, bne_iff_ne]
  constructor
  · rintro ⟨⟨stem, rfl⟩, hne⟩
    exact ⟨stem, fun hnil ↦ hne (by rw [hnil, List.nil_append]), rfl⟩
  · rintro ⟨stem, hne, rfl⟩
    exact ⟨List.suffix_append stem _, fun heq ↦ hne (List.append_left_eq_self.1 heq)⟩

namespace Path

variable {path name : OsText}

/-- The component that the first piece of a path stands for. -/
def start (first : OsText) : List PathComponent :=
  if first = [] then [.root] else if first = dot then [.current] else (component? first).toList

theorem components_eq {first : OsText} {rest : List OsText} (hne : path ≠ [])
    (h : segments path = first :: rest) :
    components path = start first ++ rest.filterMap component? := by
  rw [components, h]
  simp [start, hne]

theorem component?_of_entryName (h : EntryName name) : component? name = some (.name name) := by
  simp [component?, h.ne_nil, h.ne_current, h.ne_parent]

/-- A name behind a separator is a piece of its own. -/
theorem segments_append (h : slash ∉ name) :
    segments (path ++ slash :: name) = segments path ++ [name] := by
  rw [segments, segments, List.splitOn_append_cons_self, List.splitOn_eq_singleton h]

theorem components_extend (hne : path ≠ []) (h : EntryName name) :
    components (extend path name) = components path ++ [.name name] := by
  have hname : [name].filterMap component? = [.name name] :=
    List.filterMap_cons_some (component?_of_entryName h)
  rw [extend]
  split
  · next hlast =>
    -- the empty piece behind the last separator gives way to the name
    obtain ⟨init, rfl⟩ := List.getLast?_eq_some_iff.1 hlast
    obtain ⟨first, rest, hsegments⟩ := List.exists_cons_of_ne_nil (List.splitOn_ne_nil slash init)
    have hbefore : segments (init ++ [slash]) = first :: (rest ++ [[]]) := by
      rw [segments_append List.not_mem_nil, segments, hsegments, List.cons_append]
    have hafter : segments (init ++ slash :: name) = first :: (rest ++ [name]) := by
      rw [segments_append h.not_mem, segments, hsegments, List.cons_append]
    rw [List.append_assoc, List.singleton_append, components_eq hne hbefore,
      components_eq (by simp) hafter, List.filterMap_append, List.filterMap_append, hname]
    simp [component?]
  · obtain ⟨first, rest, hsegments⟩ := List.exists_cons_of_ne_nil (List.splitOn_ne_nil slash path)
    have hafter : segments (path ++ slash :: name) = first :: (rest ++ [name]) := by
      rw [segments_append h.not_mem, segments, hsegments, List.cons_append]
    rw [components_eq hne hsegments, components_eq (by simp) hafter, List.filterMap_append, hname,
      List.append_assoc]

theorem extend_ne_nil (hne : path ≠ []) (name : OsText) : extend path name ≠ [] := by
  rw [extend]
  split <;> simp [hne]

/-- A path followed by names of entries has the components of the path and then the names. -/
theorem components_foldl_extend (hne : path ≠ []) {names : List OsText}
    (h : ∀ name ∈ names, EntryName name) :
    components (names.foldl extend path) = components path ++ names.map .name := by
  induction names generalizing path with
  | nil => simp
  | cons name names ih =>
    obtain ⟨hname, hnames⟩ := List.forall_mem_cons.1 h
    rw [List.foldl_cons, ih (extend_ne_nil hne name) hnames, components_extend hne hname,
      List.append_assoc, List.map_cons, List.singleton_append]

end Path

end Gherkin.Check
