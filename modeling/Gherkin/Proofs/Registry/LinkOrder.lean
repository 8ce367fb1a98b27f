import Gherkin.Proofs.Registry.Sound

/-!
# The order in which declarations are found

Declared steps are found in an order that the linker chooses, and are registered in the order of
the places where they are declared. Sorting keeps declarations at one place in the order in which
they were found, so that the registry, or the fault that is reported, depends on that order only as
far as it tells such declarations apart: two patterns that are declared on one line of a file are
tried in the order in which they were found.

Main statement: `Registry.ofDeclarations_eq_of_perm`.
-/

namespace Gherkin

variable {σ : Type}

theorem Text.le_refl (a : Text) : le a a := by
  have hsame : compare a a = .eq := Std.ReflCmp.compare_self
  rw [le, hsame]
  rfl

theorem Text.le_trans {a b c : Text} (hab : le a b) (hbc : le b c) : le a c :=
  Std.TransCmp.isLE_trans hab hbc

theorem Text.le_total (a b : Text) : le a b || le b a := isLE_compare_total a b

theorem Text.le_antisymm {a b : Text} (hab : le a b) (hba : le b a) : a = b :=
  Std.LawfulEqCmp.eq_of_compare (Std.OrientedCmp.isLE_antisymm hab hba)

namespace Registry

section Order

variable {a b c : DeclaredStep σ}

theorem declaredBefore_iff :
    declaredBefore a b ↔ Text.le a.origin.file b.origin.file ∧
      (a.origin.file = b.origin.file → a.origin.line ≤ b.origin.line) := by
  rw [declaredBefore]
  split
  · next hfile =>
    rw [decide_eq_true_iff, hfile]
    exact ⟨fun hline ↦ ⟨Text.le_refl _, fun _ ↦ hline⟩, fun h ↦ h.2 rfl⟩
  · next hfile => exact ⟨fun hle ↦ ⟨hle, fun heq ↦ absurd heq hfile⟩, fun h ↦ h.1⟩

theorem declaredBefore_trans (a b c : DeclaredStep σ) (hab : declaredBefore a b)
    (hbc : declaredBefore b c) : declaredBefore a c := by
  obtain ⟨hfile, hline⟩ := declaredBefore_iff.1 hab
  obtain ⟨hfile', hline'⟩ := declaredBefore_iff.1 hbc
  refine declaredBefore_iff.2 ⟨Text.le_trans hfile hfile', fun heq ↦ ?_⟩
  -- a file between one file and itself is that file
  have hmiddle : a.origin.file = b.origin.file :=
    Text.le_antisymm hfile (by rw [heq]; exact hfile')
  exact Nat.le_trans (hline hmiddle) (hline' (hmiddle.symm.trans heq))

theorem declaredBefore_total (a b : DeclaredStep σ) :
    declaredBefore a b || declaredBefore b a := by
  rw [Bool.or_eq_true, declaredBefore_iff, declaredBefore_iff]
  by_cases hfile : a.origin.file = b.origin.file
  · rw [hfile]
    exact (Nat.le_total a.origin.line b.origin.line).imp (fun h ↦ ⟨Text.le_refl _, fun _ ↦ h⟩)
      fun h ↦ ⟨Text.le_refl _, fun _ ↦ h⟩
  · exact (Bool.or_eq_true _ _ ▸ Text.le_total a.origin.file b.origin.file).imp
      (fun h ↦ ⟨h, fun heq ↦ absurd heq hfile⟩) fun h ↦ ⟨h, fun heq ↦ absurd heq.symm hfile⟩

/-- Only declarations at one place may come in either order. -/
theorem origin_eq_of_declaredBefore (hab : declaredBefore a b) (hba : declaredBefore b a) :
    a.origin = b.origin := by
  obtain ⟨hfile, hline⟩ := declaredBefore_iff.1 hab
  obtain ⟨hfile', hline'⟩ := declaredBefore_iff.1 hba
  have hsame := Text.le_antisymm hfile hfile'
  have hsame' := Nat.le_antisymm (hline hsame) (hline' hsame.symm)
  calc a.origin = ⟨a.origin.file, a.origin.line⟩ := rfl
    _ = b.origin := by rw [hsame, hsame']

theorem declaredBefore_of_origin_eq (h : a.origin = b.origin) : declaredBefore a b := by
  rw [declaredBefore, h, if_pos rfl]
  exact decide_eq_true (Nat.le_refl _)

end Order

/-- The declarations at a place, in the order in which they were found. -/
def declaredAt (ds : List (DeclaredStep σ)) (site : DeclarationSite) : List (DeclaredStep σ) :=
  ds.filter (·.origin = site)

variable {ds ds' : List (DeclaredStep σ)}

theorem mem_declaredAt {site : DeclarationSite} {d : DeclaredStep σ} :
    d ∈ declaredAt ds site ↔ d ∈ ds ∧ d.origin = site := by
  rw [declaredAt, List.mem_filter, decide_eq_true_iff]

theorem declaredAt_cons (d : DeclaredStep σ) (ds : List (DeclaredStep σ)) (site : DeclarationSite) :
    declaredAt (d :: ds) site =
      if d.origin = site then d :: declaredAt ds site else declaredAt ds site := by
  rw [declaredAt, List.filter_cons]
  simp only [decide_eq_true_iff]
  rfl

theorem declaredAt_append (ds ds' : List (DeclaredStep σ)) (site : DeclarationSite) :
    declaredAt (ds ++ ds') site = declaredAt ds site ++ declaredAt ds' site :=
  List.filter_append ..

theorem mem_iff_of_declaredAt_eq (h : ∀ site, declaredAt ds site = declaredAt ds' site)
    {d : DeclaredStep σ} : d ∈ ds ↔ d ∈ ds' := by
  have hat : d ∈ declaredAt ds d.origin ↔ d ∈ declaredAt ds' d.origin := by rw [h]
  simpa only [mem_declaredAt, and_true] using hat

/-- Sorting keeps the order of declarations at one place. -/
theorem declaredAt_mergeSort (ds : List (DeclaredStep σ)) (site : DeclarationSite) :
    declaredAt (ds.mergeSort declaredBefore) site = declaredAt ds site := by
  have htied : (declaredAt ds site).Pairwise fun a b ↦ declaredBefore a b := by
    refine List.Pairwise.imp_of_mem (R := fun _ _ ↦ True) (fun ha hb _ ↦ ?_)
      (List.pairwise_of_forall fun _ _ ↦ trivial)
    exact declaredBefore_of_origin_eq ((mem_declaredAt.1 ha).2.trans (mem_declaredAt.1 hb).2.symm)
  have hsub : (declaredAt ds site).Sublist (ds.mergeSort declaredBefore) :=
    List.sublist_mergeSort declaredBefore_trans declaredBefore_total htied List.filter_sublist
  have hkept : (declaredAt ds site).Sublist (declaredAt (ds.mergeSort declaredBefore) site) := by
    have hfilter := hsub.filter fun d ↦ decide (d.origin = site)
    rw [declaredAt, List.filter_filter] at hfilter
    simp only [Bool.and_self] at hfilter
    exact hfilter
  have hlength : (declaredAt (ds.mergeSort declaredBefore) site).length =
      (declaredAt ds site).length :=
    ((List.mergeSort_perm ds declaredBefore).filter _).length_eq
  exact (hkept.eq_of_length hlength.symm).symm

/-- Declarations in the order of their places are told by those at each place. -/
theorem eq_of_declaredAt_eq (hds : ds.Pairwise fun a b ↦ declaredBefore a b)
    (hds' : ds'.Pairwise fun a b ↦ declaredBefore a b)
    (h : ∀ site, declaredAt ds site = declaredAt ds' site) : ds = ds' := by
  induction ds generalizing ds' with
  | nil =>
    cases ds' with
    | nil => rfl
    | cons d' ds' =>
      exact absurd ((mem_iff_of_declaredAt_eq h).2 List.mem_cons_self) (List.not_mem_nil (a := d'))
  | cons d ds ih =>
    cases ds' with
    | nil =>
      exact absurd ((mem_iff_of_declaredAt_eq h).1 List.mem_cons_self) (List.not_mem_nil (a := d))
    | cons d' ds' =>
      obtain ⟨hfirst, hrest⟩ := List.pairwise_cons.1 hds
      obtain ⟨hfirst', hrest'⟩ := List.pairwise_cons.1 hds'
      have hle : declaredBefore d d' := by
        rcases List.mem_cons.1 ((mem_iff_of_declaredAt_eq h).2 (List.mem_cons_self (a := d'))) with rfl | hd'
        · exact declaredBefore_of_origin_eq rfl
        · exact hfirst d' hd'
      have hle' : declaredBefore d' d := by
        rcases List.mem_cons.1 ((mem_iff_of_declaredAt_eq h).1 (List.mem_cons_self (a := d))) with rfl | hd
        · exact declaredBefore_of_origin_eq rfl
        · exact hfirst' d hd
      have hsite : d'.origin = d.origin := (origin_eq_of_declaredBefore hle hle').symm
      have hhead : d = d' := by
        have hat := h d.origin
        rw [declaredAt_cons, declaredAt_cons, if_pos rfl, if_pos hsite] at hat
        exact (List.cons.inj hat).1
      have htail (site : DeclarationSite) : declaredAt ds site = declaredAt ds' site := by
        have hat := h site
        rw [declaredAt_cons, declaredAt_cons, hhead] at hat
        split at hat
        · exact (List.cons.inj hat).2
        · exact hat
      rw [hhead, ih hrest hrest' htail]

/-- Declarations that come in another order load alike, with the same fault or the same registry, if
those that share a place come in the same order. -/
theorem ofDeclarations_eq_of_perm (h : ds.Perm ds')
    (hties : ∀ site, 1 < (declaredAt ds site).length →
      declaredAt ds site = declaredAt ds' site) :
    ofDeclarations ds = ofDeclarations ds' := by
  have hsites (site : DeclarationSite) : declaredAt ds site = declaredAt ds' site := by
    have hperm : (declaredAt ds site).Perm (declaredAt ds' site) := h.filter _
    by_cases hmany : 1 < (declaredAt ds site).length
    · exact hties site hmany
    · -- one declaration has no other order
      cases hat : declaredAt ds site with
      | nil =>
        rw [hat] at hperm
        exact hperm.nil_eq
      | cons d rest =>
        rw [hat, List.length_cons] at hmany
        obtain rfl : rest = [] := List.eq_nil_of_length_eq_zero (by omega)
        rw [hat] at hperm
        exact hperm.singleton_eq
  have hsorted (ds : List (DeclaredStep σ)) :
      (ds.mergeSort declaredBefore).Pairwise fun a b ↦ declaredBefore a b :=
    List.pairwise_mergeSort declaredBefore_trans declaredBefore_total ds
  have hsame : ds.mergeSort declaredBefore = ds'.mergeSort declaredBefore := by
    refine eq_of_declaredAt_eq (hsorted ds) (hsorted ds') fun site ↦ ?_
    rw [declaredAt_mergeSort, declaredAt_mergeSort, hsites]
  rw [ofDeclarations, ofDeclarations, hsame]

def lowerStep : DeclaredStep Nat :=
  ⟨some ['^', '^'], none, [], fun _ ↦ .pure (), ⟨"steps".toList, 2⟩⟩

/-- A step that is declared on the line of `anyStep`, and which every sentence matches as well. -/
def besideStep : DeclaredStep Nat :=
  ⟨some ['$'], none, [], fun _ ↦ .pure (), ⟨"steps".toList, 1⟩⟩

/-- Two steps on one line and one below them, which may be found before or after the others. -/
theorem ofDeclarations_eq_of_perm_lowerStep :
    ([anyStep, besideStep] ++ [lowerStep]).Perm ([lowerStep] ++ [anyStep, besideStep]) ∧
      (declaredAt ([anyStep, besideStep] ++ [lowerStep]) anyStep.origin).length = 2 ∧
      ofDeclarations ([anyStep, besideStep] ++ [lowerStep]) =
        ofDeclarations ([lowerStep] ++ [anyStep, besideStep]) := by
  have hperm : ([anyStep, besideStep] ++ [lowerStep]).Perm ([lowerStep] ++ [anyStep, besideStep]) :=
    List.perm_append_comm
  refine ⟨hperm, by decide, ofDeclarations_eq_of_perm hperm fun site _ ↦ ?_⟩
  by_cases hsite : lowerStep.origin = site
  · subst hsite
    rfl
  · have hlower : declaredAt [lowerStep] site = [] := by
      rw [declaredAt_cons, if_neg hsite]
      rfl
    rw [declaredAt_append, declaredAt_append, hlower, List.append_nil, List.nil_append]

theorem registerDeclared_of_ok {d : DeclaredStep σ} {pattern : Text} {compiled : StepPattern}
    (hpattern : d.sentence = .ok pattern) (hcompiled : StepPattern.ofText pattern = .ok compiled)
    (r : Registry σ) :
    r.registerDeclared d = .ok (r.withStep compiled d.handler (some d.origin)) := by
  rw [registerDeclared, hpattern]
  change (r.register pattern d.handler (some d.origin) >>= _) = _
  rw [register_of_ok hcompiled]
  rfl

/-- A pattern that is new comes last. -/
theorem patternsOf_withStep {r : Registry σ} (h : r.Indexed) (compiled : StepPattern)
    (handler : Handler σ) (origin : Option DeclarationSite) :
    patternsOf (r.withStep compiled handler origin).steps =
      if compiled.text ∈ patternsOf r.steps then patternsOf r.steps
      else patternsOf r.steps ++ [compiled.text] := by
  rw [h.steps_withStep, patternsOf_replaceOrAppend]
  rfl

section Pair

variable {a b : DeclaredStep σ} {pattern pattern' : Text} {compiled compiled' : StepPattern}

/-- Two steps at one place are registered in the order in which they were found. -/
theorem patternsOf_ofDeclarations_pair (hsite : a.origin = b.origin)
    (ha : a.sentence = .ok pattern) (hb : b.sentence = .ok pattern')
    (hcompiled : StepPattern.ofText pattern = .ok compiled)
    (hcompiled' : StepPattern.ofText pattern' = .ok compiled') (hne : pattern ≠ pattern') :
    ∃ r, ofDeclarations [a, b] = .ok r ∧ patternsOf r.steps = [pattern, pattern'] := by
  have hsorted : [a, b].mergeSort declaredBefore = [a, b] :=
    List.mergeSort_of_pairwise (List.pairwise_pair.2 (declaredBefore_of_origin_eq hsite))
  have htext := StepPattern.text_of_ofText hcompiled
  have htext' := StepPattern.text_of_ofText hcompiled'
  have hfirst : (empty.withStep compiled a.handler (some a.origin)).Sound :=
    Sound.empty.withStep hcompiled a.handler (some a.origin)
  refine ⟨(empty.withStep compiled a.handler (some a.origin)).withStep compiled' b.handler
    (some b.origin), ?_, ?_⟩
  · rw [ofDeclarations, hsorted, List.foldlM_cons, registerDeclared_of_ok ha hcompiled]
    change (registerDeclared _ b >>= _) = _
    rw [registerDeclared_of_ok hb hcompiled']
    rfl
  · have hnone : pattern ∉ patternsOf (empty : Registry σ).steps := List.not_mem_nil
    have hother : pattern' ∉ patternsOf (empty : Registry σ).steps ++ [pattern] :=
      fun hmem ↦ hne (List.mem_singleton.1 hmem).symm
    rw [patternsOf_withStep hfirst.indexed, patternsOf_withStep Sound.empty.indexed, htext, htext',
      if_neg hnone, if_neg hother]
    rfl

/-- Which of two steps at one place is tried first depends on which was found first. -/
theorem ofDeclarations_pair_ne (hsite : a.origin = b.origin)
    (ha : a.sentence = .ok pattern) (hb : b.sentence = .ok pattern')
    (hcompiled : StepPattern.ofText pattern = .ok compiled)
    (hcompiled' : StepPattern.ofText pattern' = .ok compiled') (hne : pattern ≠ pattern') :
    ofDeclarations [a, b] ≠ ofDeclarations [b, a] := by
  obtain ⟨r, hr, hpatterns⟩ :=
    patternsOf_ofDeclarations_pair hsite ha hb hcompiled hcompiled' hne
  obtain ⟨r', hr', hpatterns'⟩ :=
    patternsOf_ofDeclarations_pair hsite.symm hb ha hcompiled' hcompiled hne.symm
  intro hsame
  rw [hr, hr', Except.ok.injEq] at hsame
  rw [hsame, hpatterns'] at hpatterns
  exact hne (List.cons.inj hpatterns).1.symm

end Pair

/-- The steps that are declared on one line load in either order, not alike. -/
theorem not_ofDeclarations_eq_of_perm :
    [anyStep, besideStep].Perm [besideStep, anyStep] ∧
      ofDeclarations [anyStep, besideStep] ≠ ofDeclarations [besideStep, anyStep] := by
  have hcompiled : (StepPattern.ofText ['^']).toOption.map (fun _ ↦ ()) = some () := by
    decide +kernel
  have hcompiled' : (StepPattern.ofText ['$']).toOption.map (fun _ ↦ ()) = some () := by
    decide +kernel
  obtain ⟨compiled, hcompiled, -⟩ := toOption_map_eq_some_iff.1 hcompiled
  obtain ⟨compiled', hcompiled', -⟩ := toOption_map_eq_some_iff.1 hcompiled'
  exact ⟨.swap .., ofDeclarations_pair_ne rfl rfl rfl hcompiled hcompiled' (by decide)⟩

end Registry

end Gherkin
