import Gherkin.Registry.Basic
import Gherkin.Proofs.Readings

/-!
# Definitions and their positions

A registry keeps its definitions in a list and beside it an index of the places where their patterns
stand. Seen without the index, registering replaces the definition of the same pattern or appends
one, and removing drops the one definition that a handle was given for.

Main statements: the index of a list is right (`Registry.indexOf_eq_some_iff`), an indexed registry
stays indexed (`Registry.Indexed.withStep`, `Registry.Indexed.unregister`), and what happens to its
list can be told without the index (`Registry.Indexed.steps_withStep`,
`Registry.Indexed.unregister_cases`).
-/

namespace Gherkin

variable {σ : Type}

/-! ## Lists of definitions -/

def patternsOf (steps : List (StepDefinition σ)) : List Text := steps.map (·.pattern.text)

/-- A definition in the place of the one with its pattern, or at the end if there is none. -/
def replaceOrAppend (d : StepDefinition σ) : List (StepDefinition σ) → List (StepDefinition σ)
  | [] => [d]
  | e :: rest => if e.pattern.text = d.pattern.text then d :: rest else e :: replaceOrAppend d rest

/-- The definitions except the one that a handle was given for. -/
def withoutHandle (handle : StepHandle) (steps : List (StepDefinition σ)) :
    List (StepDefinition σ) :=
  steps.filter fun d ↦ ¬(d.pattern.text = handle.pattern ∧ d.id = handle.id)

section Lists

variable {d : StepDefinition σ} {steps : List (StepDefinition σ)} {i : Nat}

@[simp] theorem patternsOf_nil : patternsOf ([] : List (StepDefinition σ)) = [] := rfl

@[simp] theorem patternsOf_cons (d : StepDefinition σ) (steps : List (StepDefinition σ)) :
    patternsOf (d :: steps) = d.pattern.text :: patternsOf steps := rfl

@[simp] theorem patternsOf_append (before after : List (StepDefinition σ)) :
    patternsOf (before ++ after) = patternsOf before ++ patternsOf after := List.map_append

@[simp] theorem length_patternsOf (steps : List (StepDefinition σ)) :
    (patternsOf steps).length = steps.length := List.length_map _

theorem mem_patternsOf {t : Text} : t ∈ patternsOf steps ↔ ∃ d ∈ steps, d.pattern.text = t :=
  List.mem_map

theorem patternsOf_replaceOrAppend (d : StepDefinition σ) (steps : List (StepDefinition σ)) :
    patternsOf (replaceOrAppend d steps) =
      if d.pattern.text ∈ patternsOf steps then patternsOf steps
      else patternsOf steps ++ [d.pattern.text] := by
  induction steps with
  | nil => simp [replaceOrAppend]
  | cons e rest ih =>
    by_cases h : e.pattern.text = d.pattern.text
    · simp [replaceOrAppend, h]
    · rw [replaceOrAppend, if_neg h, patternsOf_cons, patternsOf_cons, ih]
      by_cases hrest : d.pattern.text ∈ patternsOf rest
      · rw [if_pos hrest, if_pos (List.mem_cons_of_mem _ hrest)]
      · rw [if_neg hrest, if_neg (by simpa [Ne.symm h] using hrest), List.cons_append]

/-- Where a text spells one pattern only, replacing a definition leaves the patterns as they are. -/
theorem map_pattern_replaceOrAppend (hmem : d.pattern.text ∈ patternsOf steps)
    (hspells : ∀ e ∈ steps, e.pattern.text = d.pattern.text → e.pattern = d.pattern) :
    (replaceOrAppend d steps).map StepDefinition.pattern = steps.map StepDefinition.pattern := by
  induction steps with
  | nil => exact absurd hmem List.not_mem_nil
  | cons e rest ih =>
    rw [replaceOrAppend]
    split
    · next heq => rw [List.map_cons, List.map_cons, hspells e List.mem_cons_self heq]
    · next hne =>
      have hrest : d.pattern.text ∈ patternsOf rest :=
        (List.mem_cons.1 hmem).resolve_left (Ne.symm hne)
      rw [List.map_cons, List.map_cons,
        ih hrest fun e' he' ↦ hspells e' (List.mem_cons_of_mem _ he')]

theorem mem_of_mem_replaceOrAppend {e : StepDefinition σ} (h : e ∈ replaceOrAppend d steps) :
    e = d ∨ e ∈ steps := by
  induction steps with
  | nil => exact .inl (List.mem_singleton.1 h)
  | cons e' rest ih =>
    rw [replaceOrAppend] at h
    split at h
    · exact (List.mem_cons.1 h).imp_right (List.mem_cons_of_mem _)
    · rcases List.mem_cons.1 h with rfl | h
      · exact .inr List.mem_cons_self
      · exact (ih h).imp_right (List.mem_cons_of_mem _)

/-- Definitions with numbers of their own keep them if the one that comes in has a new number. -/
theorem pairwise_id_replaceOrAppend (h : steps.Pairwise fun a b ↦ a.id ≠ b.id)
    (hnew : ∀ e ∈ steps, e.id ≠ d.id) :
    (replaceOrAppend d steps).Pairwise fun a b ↦ a.id ≠ b.id := by
  induction steps with
  | nil => exact List.pairwise_singleton ..
  | cons e rest ih =>
    obtain ⟨hfirst, hrest⟩ := List.pairwise_cons.1 h
    have hnewRest : ∀ e' ∈ rest, e'.id ≠ d.id :=
      fun e' he' ↦ hnew e' (List.mem_cons_of_mem _ he')
    rw [replaceOrAppend]
    split
    · exact List.pairwise_cons.2 ⟨fun e' he' ↦ Ne.symm (hnewRest e' he'), hrest⟩
    · refine List.pairwise_cons.2 ⟨fun e' he' ↦ ?_, ih hrest hnewRest⟩
      rcases mem_of_mem_replaceOrAppend he' with rfl | he'
      · exact hnew e List.mem_cons_self
      · exact hfirst e' he'

/-- Where each pattern comes once, setting an entry replaces the only one of its pattern. -/
theorem set_eq_replaceOrAppend (hnodup : (patternsOf steps).Nodup)
    (h : (patternsOf steps)[i]? = some d.pattern.text) :
    steps.set i d = replaceOrAppend d steps := by
  induction steps generalizing i with
  | nil => simp at h
  | cons e rest ih =>
    obtain ⟨hfirst, hrest⟩ := List.nodup_cons.1 hnodup
    cases i with
    | zero =>
      have heq : e.pattern.text = d.pattern.text := by simpa using h
      rw [replaceOrAppend, if_pos heq, List.set_cons_zero]
    | succ i =>
      have hi : (patternsOf rest)[i]? = some d.pattern.text := h
      have hne : e.pattern.text ≠ d.pattern.text := by
        intro heq
        rw [← heq] at hi
        exact hfirst (List.mem_of_getElem? hi)
      rw [replaceOrAppend, if_neg hne, List.set_cons_succ, ih hrest hi]

theorem append_eq_replaceOrAppend (h : d.pattern.text ∉ patternsOf steps) :
    steps ++ [d] = replaceOrAppend d steps := by
  induction steps with
  | nil => rfl
  | cons e rest ih =>
    obtain ⟨hne, hrest⟩ := not_or.1 (mt List.mem_cons.2 h)
    rw [replaceOrAppend, if_neg (Ne.symm hne), List.cons_append, ih hrest]

/-- Where each pattern comes once, leaving out what a handle was given for leaves out one entry. -/
theorem withoutHandle_append_cons {before after : List (StepDefinition σ)} {handle : StepHandle}
    (hnodup : (patternsOf (before ++ d :: after)).Nodup) (hpattern : d.pattern.text = handle.pattern)
    (hid : d.id = handle.id) : withoutHandle handle (before ++ d :: after) = before ++ after := by
  have hothers : ∀ e ∈ before ++ after, e.pattern.text ≠ handle.pattern := by
    intro e he heq
    have hmiddle : (d.pattern.text :: patternsOf (before ++ after)).Nodup := by
      rw [patternsOf_append, patternsOf_cons] at hnodup
      rw [patternsOf_append]
      exact List.perm_middle.nodup hnodup
    exact (List.nodup_cons.1 hmiddle).1 (mem_patternsOf.2 ⟨e, he, heq.trans hpattern.symm⟩)
  have hkeep : ∀ part, part ⊆ before ++ after → withoutHandle handle part = part := by
    intro part hpart
    exact List.filter_eq_self.2 fun e he ↦ by simp [hothers e (hpart he)]
  calc
    withoutHandle handle (before ++ d :: after) =
        withoutHandle handle before ++ withoutHandle handle after := by
      simp [withoutHandle, List.filter_append, hpattern, hid]
    _ = before ++ after := by
      rw [hkeep before (List.subset_append_left _ _), hkeep after (List.subset_append_right _ _)]

end Lists

/-- A pattern keeps the text that spells it. -/
theorem StepPattern.text_of_ofText {pattern : Text} {compiled : StepPattern}
    (h : StepPattern.ofText pattern = .ok compiled) : compiled.text = pattern := by
  obtain ⟨e, -, hcompiled⟩ := bind_eq_ok_iff.1 h
  cases hcompiled
  rfl

namespace Registry

theorem getElem?_insert_index (m : Std.TreeMap Text Nat) (key t : Text) (i : Nat) :
    (m.insert key i)[t]? = if key = t then some i else m[t]? := by
  rw [Std.TreeMap.getElem?_insert]
  simp only [Std.LawfulEqCmp.compare_eq_iff_eq]

/-- Entries are added to an index from a place on; patterns that were in it before keep their place
unless they come again. -/
theorem foldl_insert_eq_some_iff {steps : List (StepDefinition σ)} (h : (patternsOf steps).Nodup)
    (n : Nat) (m : Std.TreeMap Text Nat) (t : Text) (i : Nat) :
    ((steps.zipIdx n).foldl (fun m (d, i) ↦ m.insert d.pattern.text i) m)[t]? = some i ↔
      (∃ j, i = n + j ∧ (patternsOf steps)[j]? = some t) ∨
        (t ∉ patternsOf steps ∧ m[t]? = some i) := by
  induction steps generalizing n m with
  | nil => simp
  | cons d rest ih =>
    obtain ⟨hfirst, hrest⟩ := List.nodup_cons.1 h
    rw [List.zipIdx_cons, List.foldl_cons, ih hrest, getElem?_insert_index, patternsOf_cons]
    by_cases ht : d.pattern.text = t
    · subst ht
      have hnone : ∀ j, (patternsOf rest)[j]? ≠ some d.pattern.text :=
        fun j hj ↦ hfirst (List.mem_of_getElem? hj)
      constructor
      · rintro (⟨j, -, hj⟩ | ⟨-, hi⟩)
        · exact absurd hj (hnone j)
        · rw [if_pos rfl, Option.some.injEq] at hi
          exact .inl ⟨0, hi.symm, rfl⟩
      · rintro (⟨j, rfl, hj⟩ | ⟨hmem, -⟩)
        · cases j with
          | zero => exact .inr ⟨hfirst, if_pos rfl⟩
          | succ j => exact absurd hj (hnone j)
        · exact absurd List.mem_cons_self hmem
    · rw [if_neg ht]
      refine or_congr ⟨?_, ?_⟩ (and_congr_left fun _ ↦ ?_)
      · rintro ⟨j, rfl, hj⟩
        exact ⟨j + 1, by omega, hj⟩
      · rintro ⟨j, rfl, hj⟩
        cases j with
        | zero => exact absurd (Option.some.inj hj) ht
        | succ j => exact ⟨j, by omega, hj⟩
      · simp [Ne.symm ht]

/-- The index of a list in which each pattern comes once. -/
theorem indexOf_eq_some_iff {steps : List (StepDefinition σ)} (h : (patternsOf steps).Nodup)
    (t : Text) (i : Nat) : (indexOf steps)[t]? = some i ↔ (patternsOf steps)[i]? = some t := by
  rw [indexOf, foldl_insert_eq_some_iff h]
  simp

@[simp] theorem put_lastId (r : Registry σ) (d : StepDefinition σ) :
    (r.put d).lastId = r.lastId := by
  unfold put
  split <;> rfl

@[simp] theorem put_hooks (r : Registry σ) (d : StepDefinition σ) :
    (r.put d).hooks = r.hooks := by
  unfold put
  split <;> rfl

/-- The definition that the next registration makes. -/
def nextStep (r : Registry σ) (compiled : StepPattern) (handler : Handler σ)
    (origin : Option DeclarationSite) : StepDefinition σ :=
  ⟨⟨r.lastId + 1⟩, compiled, handler, origin⟩

/-- The registry after a registration that is not refused. -/
def withStep (r : Registry σ) (compiled : StepPattern) (handler : Handler σ)
    (origin : Option DeclarationSite) : Registry σ :=
  Registry.put { r with lastId := r.lastId + 1 } (r.nextStep compiled handler origin)

theorem register_eq_ok_iff {r r' : Registry σ} {pattern : Text} {handler : Handler σ}
    {origin : Option DeclarationSite} {handle : StepHandle} :
    r.register pattern handler origin = .ok (handle, r') ↔
      ∃ compiled, StepPattern.ofText pattern = .ok compiled ∧ handle = ⟨⟨r.lastId + 1⟩, pattern⟩ ∧
        r' = r.withStep compiled handler origin := by
  rw [register]
  cases StepPattern.ofText pattern with
  | error fault => simp
  | ok compiled => simp [withStep, nextStep, eq_comm]

theorem register_of_ok {pattern : Text} {compiled : StepPattern}
    (h : StepPattern.ofText pattern = .ok compiled) (r : Registry σ) (handler : Handler σ)
    (origin : Option DeclarationSite) :
    r.register pattern handler origin =
      .ok (⟨⟨r.lastId + 1⟩, pattern⟩, r.withStep compiled handler origin) :=
  register_eq_ok_iff.2 ⟨compiled, h, rfl, rfl⟩

@[simp] theorem withStep_lastId (r : Registry σ) (compiled : StepPattern) (handler : Handler σ)
    (origin : Option DeclarationSite) :
    (r.withStep compiled handler origin).lastId = r.lastId + 1 := put_lastId ..

@[simp] theorem withStep_hooks (r : Registry σ) (compiled : StepPattern) (handler : Handler σ)
    (origin : Option DeclarationSite) :
    (r.withStep compiled handler origin).hooks = r.hooks := put_hooks ..

@[simp] theorem unregister_lastId (r : Registry σ) (handle : StepHandle) :
    (r.unregister handle).2.lastId = r.lastId := by
  unfold unregister
  split
  · rfl
  · split <;> rfl

@[simp] theorem unregister_hooks (r : Registry σ) (handle : StepHandle) :
    (r.unregister handle).2.hooks = r.hooks := by
  unfold unregister
  split
  · rfl
  · split <;> rfl

/-- The index tells of each registered pattern where it stands and of no other text anything, and
every pattern is the one that its text spells. -/
structure Indexed (r : Registry σ) : Prop where
  index_eq_some_iff : ∀ (t : Text) (i : Nat),
    r.index[t]? = some i ↔ (patternsOf r.steps)[i]? = some t
  compiled : ∀ d ∈ r.steps, StepPattern.ofText d.pattern.text = .ok d.pattern

namespace Indexed

variable {r : Registry σ} {d : StepDefinition σ}

theorem empty : (Registry.empty : Registry σ).Indexed := by
  refine ⟨fun t i ↦ ?_, fun d hd ↦ absurd hd List.not_mem_nil⟩
  change (∅ : Std.TreeMap Text Nat)[t]? = some i ↔ ([] : List Text)[i]? = some t
  rw [Std.TreeMap.getElem?_emptyc, List.getElem?_nil]
  simp

/-- Nothing but the list and its index has a part in this. -/
theorem congr {r' : Registry σ} (h : r.Indexed) (hindex : r'.index = r.index)
    (hsteps : r'.steps = r.steps) : r'.Indexed := by
  refine ⟨fun t i ↦ ?_, fun d hd ↦ h.compiled d (hsteps ▸ hd)⟩
  rw [hindex, hsteps]
  exact h.index_eq_some_iff t i

/-- The places of an index are those of one text each. -/
theorem nodup (h : r.Indexed) : (patternsOf r.steps).Nodup := by
  refine List.pairwise_iff_getElem.2 fun i j hi hj hlt heq ↦ ?_
  have hi' := (h.index_eq_some_iff _ i).2 (List.getElem?_eq_getElem hi)
  have hj' := (h.index_eq_some_iff _ j).2 (List.getElem?_eq_getElem hj)
  rw [heq, hj', Option.some.injEq] at hi'
  omega

/-- Putting a definition into the list, whichever branch the index takes. -/
theorem put_cases (h : r.Indexed) (d : StepDefinition σ) :
    (d.pattern.text ∈ patternsOf r.steps ∧
      r.put d = { r with steps := replaceOrAppend d r.steps }) ∨
    (d.pattern.text ∉ patternsOf r.steps ∧
      r.put d = { r with
        steps := r.steps ++ [d]
        index := r.index.insert d.pattern.text r.steps.length }) := by
  cases hindex : r.index[d.pattern.text]? with
  | none =>
    refine .inr ⟨fun hmem ↦ ?_, ?_⟩
    · obtain ⟨i, hi⟩ := List.mem_iff_getElem?.1 hmem
      rw [(h.index_eq_some_iff _ i).2 hi] at hindex
      cases hindex
    · rw [put, hindex]
      rfl
  | some i =>
    have hi := (h.index_eq_some_iff _ i).1 hindex
    have hlt : i < r.steps.length := by
      simpa using (List.getElem?_eq_some_iff.1 hi).1
    refine .inl ⟨List.mem_of_getElem? hi, ?_⟩
    have hfilter : (some i).filter (fun i ↦ decide (i < r.steps.length)) = some i := by
      simp [hlt]
    rw [put, hindex, hfilter, ← set_eq_replaceOrAppend h.nodup hi]

theorem steps_put (h : r.Indexed) (d : StepDefinition σ) :
    (r.put d).steps = replaceOrAppend d r.steps := by
  rcases h.put_cases d with ⟨-, heq⟩ | ⟨hmem, heq⟩
  · rw [heq]
  · rw [heq, append_eq_replaceOrAppend hmem]

theorem put (h : r.Indexed) (hd : StepPattern.ofText d.pattern.text = .ok d.pattern) :
    (r.put d).Indexed := by
  have hcompiled : ∀ e ∈ (r.put d).steps, StepPattern.ofText e.pattern.text = .ok e.pattern := by
    intro e he
    rw [h.steps_put d] at he
    rcases mem_of_mem_replaceOrAppend he with rfl | he
    · exact hd
    · exact h.compiled e he
  refine ⟨fun t i ↦ ?_, hcompiled⟩
  have hpatterns := patternsOf_replaceOrAppend d r.steps
  rw [h.steps_put d, hpatterns]
  rcases h.put_cases d with ⟨hmem, heq⟩ | ⟨hmem, heq⟩
  · rw [heq, if_pos hmem]
    exact h.index_eq_some_iff t i
  · rw [heq, if_neg hmem, getElem?_insert_index, List.getElem?_append]
    have hlength := length_patternsOf r.steps
    by_cases ht : d.pattern.text = t
    · subst ht
      rw [if_pos rfl, Option.some.injEq]
      split
      · next hlt =>
        refine iff_of_false (by omega) fun hi ↦ hmem (List.mem_of_getElem? hi)
      · rw [List.getElem?_singleton]
        split <;> simp <;> omega
    · rw [if_neg ht, h.index_eq_some_iff t i]
      split
      · exact Iff.rfl
      · next hge =>
        rw [List.getElem?_eq_none (by omega), List.getElem?_singleton]
        split <;> simp [ht]

theorem steps_withStep (h : r.Indexed) (compiled : StepPattern) (handler : Handler σ)
    (origin : Option DeclarationSite) :
    (r.withStep compiled handler origin).steps =
      replaceOrAppend (r.nextStep compiled handler origin) r.steps :=
  steps_put (r := { r with lastId := r.lastId + 1 }) (h.congr rfl rfl) _

theorem withStep (h : r.Indexed) {pattern : Text} {compiled : StepPattern}
    (hcompiled : StepPattern.ofText pattern = .ok compiled) (handler : Handler σ)
    (origin : Option DeclarationSite) : (r.withStep compiled handler origin).Indexed := by
  refine put (r := { r with lastId := r.lastId + 1 }) (h.congr rfl rfl) ?_
  exact (congrArg StepPattern.ofText (StepPattern.text_of_ofText hcompiled)).trans hcompiled

/-- Removing takes out the one definition that the handle was given for, or finds none and changes
nothing. -/
theorem unregister_cases (h : r.Indexed) (handle : StepHandle) :
    (r.unregister handle = (false, r) ∧
      ∀ d ∈ r.steps, ¬(d.pattern.text = handle.pattern ∧ d.id = handle.id)) ∨
    ∃ before d after, r.steps = before ++ d :: after ∧ d.pattern.text = handle.pattern ∧
      d.id = handle.id ∧
      r.unregister handle =
        (true, { r with steps := before ++ after, index := indexOf (before ++ after) }) := by
  -- a definition of the handle's pattern stands where the index says
  have hplace : ∀ i d, r.index[handle.pattern]? = some i → d ∈ r.steps →
      d.pattern.text = handle.pattern → r.steps[i]? = some d := by
    intro i d hi hd hpattern
    obtain ⟨j, hj⟩ := List.mem_iff_getElem?.1 hd
    have hj' : (patternsOf r.steps)[j]? = some handle.pattern := by
      rw [patternsOf, List.getElem?_map, hj, Option.map_some, hpattern]
    rw [(h.index_eq_some_iff _ j).2 hj', Option.some.injEq] at hi
    rw [← hi, hj]
  cases hindex : r.index[handle.pattern]? with
  | none =>
    refine .inl ⟨by rw [Registry.unregister, hindex], fun d hd hmatch ↦ ?_⟩
    obtain ⟨i, hi⟩ := List.mem_iff_getElem?.1 (mem_patternsOf.2 ⟨d, hd, hmatch.1⟩)
    rw [(h.index_eq_some_iff _ i).2 hi] at hindex
    cases hindex
  | some i =>
    have hi := (h.index_eq_some_iff _ i).1 hindex
    rw [patternsOf, List.getElem?_map, Option.map_eq_some_iff] at hi
    obtain ⟨e, he, hpattern⟩ := hi
    by_cases hid : e.id = handle.id
    · obtain ⟨hlt, hget⟩ := List.getElem?_eq_some_iff.1 he
      have hsteps : r.steps = r.steps.take i ++ e :: r.steps.drop (i + 1) := by
        rw [← hget, ← List.drop_eq_getElem_cons hlt, List.take_append_drop]
      refine .inr ⟨_, e, _, hsteps, hpattern, hid, ?_⟩
      rw [Registry.unregister, hindex, ← List.eraseIdx_eq_take_drop_succ]
      simp [he, hid]
    · refine .inl ⟨by rw [Registry.unregister, hindex]; simp [he, hid], ?_⟩
      rintro d hd ⟨hpattern', hid'⟩
      rw [hplace i d hindex hd hpattern', Option.some.injEq] at he
      exact hid (he ▸ hid')

theorem steps_unregister (h : r.Indexed) (handle : StepHandle) :
    (r.unregister handle).2.steps = withoutHandle handle r.steps := by
  rcases h.unregister_cases handle with ⟨heq, hnone⟩ | ⟨before, d, after, hsteps, hpattern, hid, heq⟩
  · rw [heq]
    exact (List.filter_eq_self.2 fun d hd ↦ decide_eq_true (hnone d hd)).symm
  · rw [heq, hsteps]
    exact (withoutHandle_append_cons (hsteps ▸ h.nodup) hpattern hid).symm

theorem unregister (h : r.Indexed) (handle : StepHandle) : (r.unregister handle).2.Indexed := by
  rcases h.unregister_cases handle with ⟨heq, -⟩ | ⟨before, d, after, hsteps, -, -, heq⟩
  · rw [heq]
    exact h
  · rw [heq]
    have hsub : (before ++ after).Sublist r.steps := by
      rw [hsteps]
      exact List.Sublist.append_left (List.sublist_cons_self d after) before
    exact ⟨indexOf_eq_some_iff (h.nodup.sublist (hsub.map _)),
      fun e he ↦ h.compiled e (hsub.subset he)⟩

/-- Nothing is left of an index once there are no definitions. -/
theorem clear (r : Registry σ) : r.clear.Indexed := empty.congr rfl rfl

end Indexed

end Registry

end Gherkin
