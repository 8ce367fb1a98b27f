import Gherkin.Proofs.Hooks.History
import Mathlib.Data.List.Forall2
import Mathlib.Data.List.Pairwise

/-!
# The order in which hooks are run

Whatever is registered and removed, the hooks of a scope and timing are run in an order that the
history of this scope and timing decides: those that last, each once, by tier, then by priority,
then by the registration since which their names are there; and in the opposite order after the
call. So hooks that are registered on both sides of a call in the same way, however the changes of
one side come between those of the other, are run in opposite orders.

Main statement: `HookSession.ordered_tells_history`.
-/

namespace Gherkin

variable {σ : Type} {t : Timing}

/-- What the place of a hook depends on: how it was asked for, and when its name came in. -/
def Hook.station (h : Hook σ t) : HookPlacement × Nat := (h.placement, h.insertion)

/-- The first hook stands further outside, by its tier, else by its priority, else because its name
came in earlier. -/
def Outside (a b : HookPlacement × Nat) : Prop :=
  a.1.tier.rank < b.1.tier.rank ∨ a.1.tier = b.1.tier ∧
    (a.1.priority < b.1.priority ∨ a.1.priority = b.1.priority ∧ a.2 < b.2)

/-- The hooks outside come first on the way in and last on the way out. -/
def Hook.RunsBefore (a b : Hook σ t) : Prop :=
  match t with
  | .before | .around => Outside a.station b.station
  | .after => Outside b.station a.station

/-- The hooks that a history tells of, each once and in the order of their stations. -/
def InRunOrder (history : List (HookChange σ t)) (hooks : List (Hook σ t)) : Prop :=
  ∃ told : List (Hook σ t), (∀ h, h ∈ told ↔ h.Told history) ∧ told.Pairwise Hook.RunsBefore ∧
    hooks.map (fun h ↦ (h.placement, h.callback)) = told.map fun h ↦ (h.placement, h.callback)

theorem Tier.rank_injective : Function.Injective Tier.rank := by
  intro a b h
  cases a <;> cases b <;> first | rfl | cases h

theorem Outside.asymm {a b : HookPlacement × Nat} (h : Outside a b) : ¬Outside b a := by
  rintro (hrank | ⟨htier, hpriority⟩)
  · rcases h with h | ⟨h, -⟩
    · omega
    · rw [h] at hrank
      omega
  · rcases h with h | ⟨-, h⟩
    · rw [htier] at h
      omega
    · omega

/-- Lists of numbers are compared by what comes first. -/
theorem isLE_compare_cons_iff {a b : Int} {as bs : List Int} :
    (compare (a :: as) (b :: bs)).isLE ↔ a < b ∨ a = b ∧ (compare as bs).isLE := by
  rw [List.compare_cons_cons]
  rcases Int.lt_trichotomy a b with h | rfl | h
  · simp [Int.compare_eq_lt.2 h, h]
  · simp
  · simp [Int.compare_eq_gt.2 h, Int.le_of_lt h, Int.ne_of_gt h]

theorem Hook.le_iff {a b : Hook σ t} :
    a.le b ↔ t.direction * a.tier.rank < t.direction * b.tier.rank ∨
      t.direction * a.tier.rank = t.direction * b.tier.rank ∧
        (t.direction * a.priority < t.direction * b.priority ∨
          t.direction * a.priority = t.direction * b.priority ∧
            t.direction * a.insertion ≤ t.direction * b.insertion) := by
  have hnil : (compare ([] : List Int) []).isLE := rfl
  simp only [le, key, isLE_compare_cons_iff, hnil, and_true, ← Int.le_iff_lt_or_eq]

/-- Hooks whose names came in at different times are never of the same rank. -/
theorem Hook.runsBefore_of_le {a b : Hook σ t} (hle : a.le b) (hne : a.insertion ≠ b.insertion) :
    a.RunsBefore b := by
  rw [le_iff] at hle
  cases t <;> simp only [Timing.direction] at hle <;>
    simp only [RunsBefore, Outside, station, placement, ← Tier.rank_injective.eq_iff] <;> omega

/-- Hooks with names of their own are run one before the other. -/
theorem HookTable.InOrder.pairwise_runsBefore {hooks : List (Hook σ t)}
    {lastId lastInsertion : Nat} (h : InOrder lastId lastInsertion hooks) :
    (hooks.mergeSort Hook.le).Pairwise Hook.RunsBefore := by
  have hsorted : (hooks.mergeSort Hook.le).Pairwise fun a b ↦ a.le b :=
    List.pairwise_mergeSort Hook.le_trans Hook.le_total hooks
  have hapart : (hooks.mergeSort Hook.le).Pairwise fun a b ↦ a.insertion ≠ b.insertion := by
    refine (List.mergeSort_perm hooks Hook.le).symm.pairwise ?_ fun hne ↦ hne.symm
    exact h.apart.imp fun hab ↦ Nat.ne_of_lt hab.2.2
  exact (hsorted.and hapart).imp fun ⟨hle, hne⟩ ↦ Hook.runsBefore_of_le hle hne

section Alike

variable {u : Timing} {R : Hook σ t → Hook σ u → Prop} {as : List (Hook σ t)}
  {bs : List (Hook σ u)}

theorem HookTable.placed_eq_map_append (options : HookPlacement) (id insertion : Nat)
    (callback : Callback σ t) (hooks : List (Hook σ t)) :
    placed options id insertion callback hooks =
      hooks.map (replaced options id callback) ++
        if hooks.any (·.name = options.name) then []
        else [⟨options.name, id, options.priority, options.tier, insertion, callback⟩] := by
  unfold placed
  split
  · rw [List.append_nil]
  · next hany =>
    rw [List.any_eq_true, not_exists] at hany
    have hsame : hooks.map (replaced options id callback) = hooks.map fun h ↦ h :=
      List.map_congr_left fun h hmem ↦
        if_neg fun hname ↦ hany h ⟨hmem, decide_eq_true hname⟩
    rw [hsame, List.map_id']

/-- A registration keeps lists alike, if it does so with each hook. -/
theorem forall₂_placed {S : Hook σ t → Hook σ u → Prop} {options : HookPlacement}
    {id id' insertion insertion' : Nat} {c : Callback σ t} {c' : Callback σ u}
    (h : List.Forall₂ R as bs) (hname : ∀ a b, R a b → a.name = b.name)
    (hreplaced : ∀ a b, R a b →
      S (HookTable.replaced options id c a) (HookTable.replaced options id' c' b))
    (hnew : S ⟨options.name, id, options.priority, options.tier, insertion, c⟩
      ⟨options.name, id', options.priority, options.tier, insertion', c'⟩) :
    List.Forall₂ S (HookTable.placed options id insertion c as)
      (HookTable.placed options id' insertion' c' bs) := by
  have hany : as.any (·.name = options.name) = bs.any (·.name = options.name) := by
    induction h with
    | nil => rfl
    | cons hab _ ih => simp only [List.any_cons, hname _ _ hab, ih]
  rw [HookTable.placed_eq_map_append, HookTable.placed_eq_map_append, hany]
  refine List.rel_append ?_ ?_
  · exact List.rel_map (fun a b hab ↦ hreplaced a b hab) h
  · split
    · exact .nil
    · exact .cons hnew .nil

end Alike

/-! ## What is done with a table -/

theorem HookTable.bucket_remove_self (table : HookTable σ) (handle : HookHandle) :
    (table.remove handle).2.bucket handle.scope handle.timing =
      (table.bucket handle.scope handle.timing).filter (·.id ≠ handle.id) := by
  unfold remove
  dsimp only
  split
  · exact bucket_putBucket_self ..
  · next hany =>
    refine (List.filter_eq_self.2 fun h hmem ↦ ?_).symm
    simpa using fun hid ↦ hany (List.any_eq_true.2 ⟨h, hmem, decide_eq_true hid⟩)

theorem HookTable.bucket_remove_of_ne (table : HookTable σ) {handle : HookHandle} {scope : Scope}
    {t : Timing} (h : ¬(handle.scope = scope ∧ handle.timing = t)) :
    (table.remove handle).2.bucket scope t = table.bucket scope t := by
  unfold remove
  dsimp only
  split
  · exact bucket_putBucket_of_ne table _ fun hself ↦ h ⟨hself.1.symm, hself.2⟩
  · rfl

/-- One thing that is done with a table of hooks. -/
structure TableChange (σ : Type) where
  scope : Scope
  timing : Timing
  change : HookChange σ timing

/-- What was done at a scope and timing. -/
def historyAt (scope : Scope) (t : Timing) (changes : List (TableChange σ)) :
    List (HookChange σ t) :=
  changes.filterMap fun c ↦
    if h : c.scope = scope ∧ c.timing = t then some (h.2 ▸ c.change) else none

/-- The handle of the registration with a number, counted from one. -/
def numbered? (handles : List HookHandle) : Nat → Option HookHandle
  | 0 => none
  | n + 1 => handles[n]?

theorem historyAt_append_self (changes : List (TableChange σ)) (scope : Scope) (t : Timing)
    (change : HookChange σ t) :
    historyAt scope t (changes ++ [⟨scope, t, change⟩]) =
      historyAt scope t changes ++ [change] := by
  simp [historyAt]

theorem historyAt_append_of_ne {scope : Scope} {t : Timing} (changes : List (TableChange σ))
    {c : TableChange σ} (h : ¬(c.scope = scope ∧ c.timing = t)) :
    historyAt scope t (changes ++ [c]) = historyAt scope t changes := by
  simp [historyAt, h]

section Numbered

variable {handles : List HookHandle} {h g : HookHandle} {m n : Nat}

theorem mem_of_numbered? (hn : numbered? handles n = some h) : h ∈ handles := by
  cases n with
  | zero => cases hn
  | succ n => exact List.mem_of_getElem? hn

theorem numbered?_append (hn : numbered? handles n = some h) (more : List HookHandle) :
    numbered? (handles ++ more) n = some h := by
  cases n with
  | zero => cases hn
  | succ n =>
    obtain ⟨hlt, -⟩ := List.getElem?_eq_some_iff.1 hn
    exact (List.getElem?_append_left hlt).trans hn

theorem numbered?_append_singleton (handles : List HookHandle) (h : HookHandle) :
    numbered? (handles ++ [h]) (handles.length + 1) = some h :=
  List.getElem?_concat_length ..

/-- Handles with ids of their own have numbers of their own. -/
theorem numbered?_inj (hids : handles.Pairwise fun h g ↦ h.id < g.id)
    (hm : numbered? handles m = some h) (hn : numbered? handles n = some g) :
    h.id = g.id ↔ m = n := by
  cases m with
  | zero => cases hm
  | succ m =>
  cases n with
  | zero => cases hn
  | succ n =>
    obtain ⟨hm', rfl⟩ := List.getElem?_eq_some_iff.1 hm
    obtain ⟨hn', rfl⟩ := List.getElem?_eq_some_iff.1 hn
    have hlt := List.pairwise_iff_getElem.1 hids
    rcases Nat.lt_trichotomy m n with hmn | rfl | hmn
    · have := hlt m n hm' hn' hmn
      omega
    · simp
    · have := hlt n m hn' hm' hmn
      omega

end Numbered

/-- A table of hooks and the handles that were given out, oldest first. -/
structure HookSession (σ : Type) where
  table : HookTable σ := {}
  handles : List HookHandle := []

namespace HookSession

def handlesAt (s : HookSession σ) (scope : Scope) (t : Timing) : List HookHandle :=
  s.handles.filter fun h ↦ h.scope = scope ∧ h.timing = t

/-- The session after one more change. -/
def perform (s : HookSession σ) (c : TableChange σ) : HookSession σ :=
  match c.change with
  | .register placement callback =>
    let (handle, table) := s.table.insert c.scope c.timing placement callback
    ⟨table, s.handles ++ [handle]⟩
  | .remove number =>
    match numbered? (s.handlesAt c.scope c.timing) number with
    | none => s
    | some handle => { s with table := (s.table.remove handle).2 }

def after (changes : List (TableChange σ)) : HookSession σ := changes.foldl perform {}

/-- The hook of a table that a history tells of, with its handle known by the number that the
history gives to it. -/
structure ToldAs (handles : List HookHandle) (a b : Hook σ t) : Prop where
  placement : a.placement = b.placement
  callback : a.callback = b.callback
  handle : (numbered? handles b.id).map HookHandle.id = some a.id

/-- The session is what the changes leave behind. -/
structure Follows (s : HookSession σ) (changes : List (TableChange σ)) : Prop where
  sound : s.table.Sound
  id_le : ∀ h ∈ s.handles, h.id ≤ s.table.lastId
  increasing : s.handles.Pairwise fun h g ↦ h.id < g.id
  length_handlesAt (scope : Scope) (t : Timing) :
    (s.handlesAt scope t).length = HookChange.registrations (historyAt scope t changes)
  told (scope : Scope) (t : Timing) :
    List.Forall₂ (ToldAs (s.handlesAt scope t)) (s.table.bucket scope t)
      (HookChange.told (historyAt scope t changes))

theorem Follows.start : Follows ({} : HookSession σ) [] where
  sound := .empty
  id_le _ h := absurd h List.not_mem_nil
  increasing := .nil
  length_handlesAt _ _ := rfl
  told _ _ := .nil

theorem ToldAs.append {handles : List HookHandle} {a b : Hook σ t} (h : ToldAs handles a b)
    (more : List HookHandle) : ToldAs (handles ++ more) a b where
  placement := h.placement
  callback := h.callback
  handle := by
    obtain ⟨handle, hnumbered, hid⟩ := Option.map_eq_some_iff.1 h.handle
    rw [numbered?_append hnumbered more, ← hid]
    rfl

variable {s : HookSession σ} {changes : List (TableChange σ)}

theorem handlesAt_append_self (table : HookTable σ) (handles : List HookHandle)
    (handle : HookHandle) :
    handlesAt ⟨table, handles ++ [handle]⟩ handle.scope handle.timing =
      handlesAt ⟨table, handles⟩ handle.scope handle.timing ++ [handle] := by
  simp [handlesAt]

theorem handlesAt_append_of_ne (table : HookTable σ) (handles : List HookHandle)
    {handle : HookHandle} {scope : Scope} {t : Timing}
    (h : ¬(handle.scope = scope ∧ handle.timing = t)) :
    handlesAt ⟨table, handles ++ [handle]⟩ scope t = handlesAt ⟨table, handles⟩ scope t := by
  simp [handlesAt, h]

/-- What a registration puts in is told by the history with that registration. -/
theorem ToldAs.forall₂_placed {handles : List HookHandle} {as bs : List (Hook σ t)}
    (h : List.Forall₂ (ToldAs handles) as bs) (p : HookPlacement) (callback : Callback σ t)
    {handle : HookHandle} {insertion insertion' : Nat} :
    List.Forall₂ (ToldAs (handles ++ [handle]))
      (HookTable.placed p handle.id insertion callback as)
      (HookTable.placed p (handles.length + 1) insertion' callback bs) := by
  have hnumber : (numbered? (handles ++ [handle]) (handles.length + 1)).map HookHandle.id =
      some handle.id := by
    rw [numbered?_append_singleton]
    rfl
  have hname (a b : Hook σ t) (hab : ToldAs handles a b) : a.name = b.name :=
    congrArg HookPlacement.name hab.placement
  refine Gherkin.forall₂_placed h hname (fun a b hab ↦ ?_) ⟨rfl, rfl, hnumber⟩
  have hname' := hname a b hab
  unfold HookTable.replaced
  rw [hname']
  split
  · exact ⟨congrArg (HookPlacement.mk · p.priority p.tier) rfl, rfl, hnumber⟩
  · exact hab.append [handle]

theorem Follows.register (hs : s.Follows changes) (scope : Scope) (t : Timing)
    (p : HookPlacement) (callback : Callback σ t) :
    (s.perform ⟨scope, t, .register p callback⟩).Follows
      (changes ++ [⟨scope, t, .register p callback⟩]) := by
  obtain ⟨hsound, hle, hincreasing, hlength, htold⟩ := hs
  let handle : HookHandle := ⟨scope, t, p.name, s.table.lastId + 1⟩
  have hperform : s.perform ⟨scope, t, .register p callback⟩ =
      ⟨(s.table.insert scope t p callback).2, s.handles ++ [handle]⟩ := rfl
  rw [hperform]
  refine ⟨hsound.insert scope t p callback, ?_, ?_, fun u v ↦ ?_, fun u v ↦ ?_⟩
  · exact List.forall_mem_append.2 ⟨fun h hmem ↦ Nat.le_succ_of_le (hle h hmem),
      List.forall_mem_singleton.2 (Nat.le_refl _)⟩
  · refine List.pairwise_append.2 ⟨hincreasing, List.pairwise_singleton .., fun h hmem g hg ↦ ?_⟩
    rw [List.mem_singleton.1 hg]
    exact Nat.lt_succ_of_le (hle h hmem)
  · by_cases hself : scope = u ∧ t = v
    · obtain ⟨rfl, rfl⟩ := hself
      rw [handlesAt_append_self _ _ handle, historyAt_append_self,
        HookChange.registrations_append_register, List.length_append]
      exact congrArg (· + 1) (hlength scope t)
    · rw [handlesAt_append_of_ne _ _ hself, historyAt_append_of_ne _ hself]
      exact hlength u v
  · by_cases hself : scope = u ∧ t = v
    · obtain ⟨rfl, rfl⟩ := hself
      rw [handlesAt_append_self _ _ handle, historyAt_append_self, HookTable.bucket_insert_self,
        HookChange.told_append_singleton, HookChange.apply, ← hlength scope t]
      exact ToldAs.forall₂_placed (htold scope t) p callback
    · rw [handlesAt_append_of_ne _ _ hself, historyAt_append_of_ne _ hself,
        HookTable.bucket_insert_of_ne _ _ _ fun h ↦ hself ⟨h.1.symm, h.2⟩]
      exact htold u v

/-- What is left of hooks that a history tells of when one is taken out by its handle. -/
theorem ToldAs.forall₂_filter {handles : List HookHandle} {as bs : List (Hook σ t)}
    (h : List.Forall₂ (ToldAs handles) as bs)
    (hids : handles.Pairwise fun h g ↦ h.id < g.id) {handle : HookHandle} {number : Nat}
    (hnumber : numbered? handles number = some handle) :
    List.Forall₂ (ToldAs handles) (as.filter (·.id ≠ handle.id)) (bs.filter (·.id ≠ number)) := by
  have hid (a b : Hook σ t) (hab : ToldAs handles a b) : a.id = handle.id ↔ b.id = number := by
    obtain ⟨own, hown, heq⟩ := Option.map_eq_some_iff.1 hab.handle
    rw [← heq]
    exact numbered?_inj hids hown hnumber
  refine List.rel_filter (fun a b hab ↦ ?_) h
  simp [hid a b hab]

/-- Hooks that a history tells of have numbers that were given out. -/
theorem ToldAs.filter_eq_self {handles : List HookHandle} {as bs : List (Hook σ t)}
    (h : List.Forall₂ (ToldAs handles) as bs) {number : Nat}
    (hnumber : numbered? handles number = none) : bs.filter (·.id ≠ number) = bs := by
  refine List.filter_eq_self.2 fun b hb ↦ decide_eq_true ?_
  induction h with
  | nil => exact absurd hb List.not_mem_nil
  | cons hab _ ih =>
    rcases List.mem_cons.1 hb with rfl | hb
    · rintro rfl
      have := hab.handle
      rw [hnumber] at this
      cases this
    · exact ih hb

theorem mem_handlesAt {handle : HookHandle} {scope : Scope} {t : Timing}
    (h : handle ∈ s.handlesAt scope t) :
    handle ∈ s.handles ∧ handle.scope = scope ∧ handle.timing = t :=
  ⟨List.mem_of_mem_filter h, by simpa using (List.mem_filter.1 h).2⟩

/-- A removal with a number that was given out takes out the hook of that number, else nothing. -/
theorem Follows.remove (hs : s.Follows changes) (scope : Scope) (t : Timing) (number : Nat) :
    (s.perform ⟨scope, t, .remove number⟩).Follows (changes ++ [⟨scope, t, .remove number⟩]) := by
  obtain ⟨hsound, hle, hincreasing, hlength, htold⟩ := hs
  have hlength' (u : Scope) (v : Timing) : (s.handlesAt u v).length =
      HookChange.registrations (historyAt u v (changes ++ [⟨scope, t, .remove number⟩])) := by
    by_cases hself : scope = u ∧ t = v
    · obtain ⟨rfl, rfl⟩ := hself
      rw [historyAt_append_self, HookChange.registrations_append_remove, hlength scope t]
    · rw [historyAt_append_of_ne _ hself, hlength u v]
  cases hnumber : numbered? (s.handlesAt scope t) number with
  | none =>
    have hperform : s.perform ⟨scope, t, .remove number⟩ = s := by
      simp only [perform, hnumber]
    rw [hperform]
    refine ⟨hsound, hle, hincreasing, hlength', fun u v ↦ ?_⟩
    by_cases hself : scope = u ∧ t = v
    · obtain ⟨rfl, rfl⟩ := hself
      rw [historyAt_append_self, HookChange.told_append_singleton, HookChange.apply,
        ToldAs.filter_eq_self (htold scope t) hnumber]
      exact htold scope t
    · rw [historyAt_append_of_ne _ hself]
      exact htold u v
  | some handle =>
    have hperform : s.perform ⟨scope, t, .remove number⟩ =
        { s with table := (s.table.remove handle).2 } := by
      simp only [perform, hnumber]
    obtain ⟨-, rfl, rfl⟩ := mem_handlesAt (mem_of_numbered? hnumber)
    rw [hperform]
    refine ⟨hsound.remove handle, by simpa using hle, hincreasing, hlength', fun u v ↦ ?_⟩
    by_cases hself : handle.scope = u ∧ handle.timing = v
    · obtain ⟨rfl, rfl⟩ := hself
      rw [historyAt_append_self, HookChange.told_append_singleton, HookChange.apply,
        HookTable.bucket_remove_self]
      exact ToldAs.forall₂_filter (htold _ _) (hincreasing.sublist List.filter_sublist) hnumber
    · rw [historyAt_append_of_ne _ hself, HookTable.bucket_remove_of_ne _ hself]
      exact htold u v

theorem Follows.perform (hs : s.Follows changes) (c : TableChange σ) :
    (s.perform c).Follows (changes ++ [c]) := by
  obtain ⟨scope, t, change⟩ := c
  cases change with
  | register p callback => exact hs.register scope t p callback
  | remove number => exact hs.remove scope t number

theorem after_append_singleton (changes : List (TableChange σ)) (c : TableChange σ) :
    after (changes ++ [c]) = (after changes).perform c := by
  rw [after, List.foldl_append]
  rfl

theorem follows_after (changes : List (TableChange σ)) : (after changes).Follows changes := by
  induction changes using List.reverseRecOn with
  | nil => exact .start
  | append_singleton changes c ih =>
    rw [after_append_singleton]
    exact ih.perform c

/-- Lists that are in order agree on which of two names came in earlier. -/
theorem insertion_lt_iff_of_mem_zip {as bs : List (Hook σ t)}
    {lastId lastInsertion lastId' lastInsertion' : Nat} (hlength : as.length = bs.length)
    (has : HookTable.InOrder lastId lastInsertion as)
    (hbs : HookTable.InOrder lastId' lastInsertion' bs) {p q : Hook σ t × Hook σ t}
    (hp : p ∈ as.zip bs) (hq : q ∈ as.zip bs) :
    p.1.insertion < q.1.insertion ↔ p.2.insertion < q.2.insertion := by
  let Agree (p q : Hook σ t × Hook σ t) : Prop :=
    (p.1.insertion < q.1.insertion ↔ p.2.insertion < q.2.insertion) ∧
      (q.1.insertion < p.1.insertion ↔ q.2.insertion < p.2.insertion)
  have hfst := has.apart
  have hsnd := hbs.apart
  rw [← List.map_fst_zip (Nat.le_of_eq hlength), List.pairwise_map] at hfst
  rw [← List.map_snd_zip (Nat.le_of_eq hlength.symm), List.pairwise_map] at hsnd
  have hagree : (as.zip bs).Pairwise Agree := (hfst.and hsnd).imp fun ⟨hab, hab'⟩ ↦ by
    have := hab.2.2
    have := hab'.2.2
    constructor <;> omega
  have : Std.Symm Agree := ⟨fun _ _ h ↦ h.symm⟩
  exact (hagree.forall_of_forall (fun _ _ ↦ ⟨by simp, by simp⟩) hp hq).1

/-- Hooks that differ from those of another list in nothing but numbers are sorted alike, if their
names came in in the same order. -/
theorem map_mergeSort_of_forall₂ {as bs : List (Hook σ t)}
    {lastId lastInsertion lastId' lastInsertion' : Nat}
    (h : List.Forall₂ (fun a b ↦ a.placement = b.placement ∧ a.callback = b.callback) as bs)
    (has : HookTable.InOrder lastId lastInsertion as)
    (hbs : HookTable.InOrder lastId' lastInsertion' bs) :
    (as.mergeSort Hook.le).map (fun h ↦ (h.placement, h.callback)) =
      (bs.mergeSort Hook.le).map fun h ↦ (h.placement, h.callback) := by
  have hlength := h.length_eq
  have hle : ∀ p ∈ as.zip bs, ∀ q ∈ as.zip bs, p.1.le q.1 = p.2.le q.2 := by
    intro p hp q hq
    have hp' := (List.forall₂_zip h hp).1
    have hq' := (List.forall₂_zip h hq).1
    have hpq := insertion_lt_iff_of_mem_zip hlength has hbs hp hq
    have hqp := insertion_lt_iff_of_mem_zip hlength has hbs hq hp
    simp only [Hook.placement, HookPlacement.mk.injEq] at hp' hq'
    rw [Bool.eq_iff_iff, Hook.le_iff, Hook.le_iff, hp'.2.1, hp'.2.2, hq'.2.1, hq'.2.2]
    cases t <;> simp only [Timing.direction] <;> omega
  calc (as.mergeSort Hook.le).map (fun h ↦ (h.placement, h.callback))
      = ((as.zip bs).mergeSort fun p q ↦ p.1.le q.1).map
          ((fun h ↦ (h.placement, h.callback)) ∘ Prod.fst) := by
        have hfst : ∀ p ∈ as.zip bs, ∀ q ∈ as.zip bs, p.1.le q.1 = p.1.le q.1 :=
          fun _ _ _ _ ↦ rfl
        rw [← List.map_map, List.map_mergeSort hfst, List.map_fst_zip (Nat.le_of_eq hlength)]
    _ = ((as.zip bs).mergeSort fun p q ↦ p.1.le q.1).map
          ((fun h ↦ (h.placement, h.callback)) ∘ Prod.snd) := by
        refine List.map_congr_left fun p hp ↦ ?_
        have := List.forall₂_zip h (List.mem_mergeSort.1 hp)
        exact Prod.ext this.1 this.2
    _ = (bs.mergeSort Hook.le).map fun h ↦ (h.placement, h.callback) := by
        rw [← List.map_map, List.map_mergeSort hle, List.map_snd_zip (Nat.le_of_eq hlength.symm)]

/-- The hooks are run as the history of their scope and timing tells. -/
theorem Follows.map_ordered (hs : s.Follows changes) (scope : Scope) (t : Timing) :
    (s.table.ordered scope t).map (fun h ↦ (h.placement, h.callback)) =
      ((HookChange.told (historyAt scope t changes)).mergeSort Hook.le).map fun h ↦
        (h.placement, h.callback) :=
  map_mergeSort_of_forall₂ ((hs.told scope t).imp fun _ _ h ↦ ⟨h.placement, h.callback⟩)
    (hs.sound scope t) (HookChange.inOrder_told _)

theorem Follows.inRunOrder (hs : s.Follows changes) (scope : Scope) (t : Timing) :
    InRunOrder (historyAt scope t changes) (s.table.ordered scope t) := by
  refine ⟨(HookChange.told (historyAt scope t changes)).mergeSort Hook.le, fun h ↦ ?_,
    (HookChange.inOrder_told _).pairwise_runsBefore, hs.map_ordered scope t⟩
  rw [List.mem_mergeSort, HookChange.mem_told_iff]

end HookSession

/-! ## Both sides of a call -/

/-- Histories with the same outline have as many registrations. -/
theorem HookChange.registrations_eq_of_outline {u : Timing} {history : List (HookChange σ t)}
    {history' : List (HookChange σ u)} (h : history.map outline = history'.map outline) :
    registrations history = registrations history' := by
  have hcount {v : Timing} (xs : List (HookChange σ v)) :
      registrations xs = (xs.map outline).countP Sum.isLeft := by
    rw [List.countP_map]
    exact List.countP_congr fun x _ ↦ by cases x <;> exact Iff.rfl
  rw [hcount, hcount, h]

/-- Histories with the same outline tell of hooks that differ in nothing but callbacks. -/
theorem HookChange.forall₂_told {u : Timing} {history : List (HookChange σ t)}
    {history' : List (HookChange σ u)} (h : history.map outline = history'.map outline) :
    List.Forall₂ (fun a b ↦ a.station = b.station ∧ a.id = b.id) (told history)
      (told history') := by
  induction history using List.reverseRecOn generalizing history' with
  | nil =>
    rw [List.map_eq_nil_iff.1 h.symm]
    exact .nil
  | append_singleton history x ih =>
    rw [List.map_append, List.map_singleton] at h
    obtain ⟨front, back, rfl, hfront, hback⟩ := List.map_eq_append_iff.1 h.symm
    obtain ⟨y, rfl, hy⟩ := List.map_eq_singleton_iff.1 hback
    have hmade := registrations_eq_of_outline hfront.symm
    have htold := ih hfront.symm
    rw [told_append_singleton, told_append_singleton, hmade]
    cases x with
    | register p c =>
      cases y with
      | remove number => cases hy
      | register q c' =>
        cases hy
        refine forall₂_placed htold ?_ ?_ ⟨rfl, rfl⟩
        · exact fun a b hab ↦ congrArg (·.1.name) hab.1
        · rintro a b ⟨hstation, hid⟩
          simp only [Hook.station, Hook.placement, Prod.mk.injEq, HookPlacement.mk.injEq]
            at hstation
          unfold HookTable.replaced
          rw [hstation.1.1]
          split
          · simp [Hook.station, Hook.placement, hstation]
          · simp [Hook.station, Hook.placement, hstation, hid]
    | remove number =>
      cases y with
      | register q c' => cases hy
      | remove number' =>
        cases hy
        exact List.rel_filter (fun a b hab ↦ by simp [hab.2]) htold

/-- Hooks that are sorted on the way in stand the other way round on the way out. -/
theorem HookChange.map_station_mergeSort {history : List (HookChange σ .before)}
    {history' : List (HookChange σ .after)} (h : history.map outline = history'.map outline) :
    ((told history').mergeSort Hook.le).map Hook.station =
      (((told history).mergeSort Hook.le).map Hook.station).reverse := by
  have hstations : (told history).map Hook.station = (told history').map Hook.station := by
    rw [← List.forall₂_eq_eq_eq, List.forall₂_map_left_iff, List.forall₂_map_right_iff]
    exact (forall₂_told h).imp fun _ _ hab ↦ hab.1
  have hperm : (((told history').mergeSort Hook.le).map Hook.station).Perm
      (((told history).mergeSort Hook.le).map Hook.station).reverse := by
    refine ((List.mergeSort_perm _ _).map _).trans ?_
    rw [← hstations]
    exact ((List.mergeSort_perm _ _).map _).symm.trans (List.reverse_perm _).symm
  have hout : (((told history').mergeSort Hook.le).map Hook.station).Pairwise
      fun a b ↦ Outside b a :=
    List.pairwise_map.2 (inOrder_told history').pairwise_runsBefore
  have hin : (((told history).mergeSort Hook.le).map Hook.station).reverse.Pairwise
      fun a b ↦ Outside b a := by
    rw [List.pairwise_reverse]
    exact List.pairwise_map.2 (inOrder_told history).pairwise_runsBefore
  exact hperm.eq_of_pairwise (fun a b _ _ hab hba ↦ absurd hba hab.asymm) hout hin

namespace HookSession

/-- The hook of a name that is registered again takes what it is asked for and keeps its turn. -/
theorem exists_mem_ordered_of_replaced (s : HookSession σ) {scope : Scope} {g : Hook σ t}
    (hg : g ∈ s.table.ordered scope t) {p : HookPlacement} (callback : Callback σ t)
    (hname : g.name = p.name) :
    ∃ h ∈ (s.perform ⟨scope, t, .register p callback⟩).table.ordered scope t,
      h.station = (p, g.insertion) ∧ h.callback = callback := by
  have hbucket : (s.perform ⟨scope, t, .register p callback⟩).table.bucket scope t =
      (s.table.bucket scope t).map (HookTable.replaced p (s.table.lastId + 1) callback) := by
    refine (HookTable.bucket_insert_self s.table scope t p callback).trans ?_
    exact HookTable.placed_of_mem ⟨g, List.mem_mergeSort.1 hg, hname⟩
  refine ⟨HookTable.replaced p (s.table.lastId + 1) callback g, ?_, ?_⟩
  · rw [HookTable.ordered, hbucket]
    exact List.mem_mergeSort.2 (List.mem_map_of_mem (List.mem_mergeSort.1 hg))
  · rw [HookTable.replaced, if_pos hname, Hook.station, Hook.placement, hname]
    exact ⟨rfl, rfl⟩

/-- Whatever is registered and removed, the hooks of every scope and timing are run in the order
that the history there decides. A hook that is replaced keeps its turn among equals, and hooks with
the same outline before and after a call are run in opposite orders. -/
theorem ordered_tells_history (changes : List (TableChange σ)) (scope : Scope) :
    (∀ t, InRunOrder (historyAt scope t changes) ((after changes).table.ordered scope t)) ∧
      (∀ t, ∀ g ∈ (after changes).table.ordered scope t, ∀ p callback, g.name = p.name →
        ∃ h ∈ (after (changes ++ [⟨scope, t, .register p callback⟩])).table.ordered scope t,
          h.station = (p, g.insertion) ∧ h.callback = callback) ∧
      ((historyAt scope .before changes).map HookChange.outline =
          (historyAt scope .after changes).map HookChange.outline →
        ((after changes).table.ordered scope .after).map Hook.placement =
          (((after changes).table.ordered scope .before).map Hook.placement).reverse) := by
  have hfollows := follows_after changes
  refine ⟨hfollows.inRunOrder scope, fun t g hg p callback hname ↦ ?_, fun h ↦ ?_⟩
  · rw [after_append_singleton]
    exact exists_mem_ordered_of_replaced (after changes) hg callback hname
  · have hplacement {u : Timing} : ((after changes).table.ordered scope u).map Hook.placement =
        (((HookChange.told (historyAt scope u changes)).mergeSort Hook.le).map
          Hook.station).map Prod.fst := by
      rw [List.map_map]
      have := congrArg (List.map Prod.fst) (hfollows.map_ordered scope u)
      rwa [List.map_map, List.map_map] at this
    rw [hplacement, hplacement, HookChange.map_station_mergeSort h, List.map_reverse]

/-- The name `a` comes in before `b`, is replaced, and comes in anew after its removal: first on the
way in, then, with another hook in between, on the way out. A handle that has been replaced removes
nothing. -/
def aComesInAgain : List (TableChange Unit) :=
  let register (t : Timing) (name : Text) (callback : Callback Unit t) : TableChange Unit :=
    ⟨.step, t, .register ⟨name, 0, .user⟩ callback⟩
  let pass : HookSubject → Call Unit Text Unit := fun _ ↦ Call.pure ()
  [register .before "a" pass, register .before "b" pass, register .after "a" pass,
    register .before "a" pass, ⟨.step, .before, .remove 1⟩, register .after "b" pass,
    ⟨.feature, .before, .register ⟨"c", 1, .outer⟩ pass⟩, register .after "a" pass,
    ⟨.step, .after, .remove 1⟩, ⟨.step, .after, .remove 3⟩, register .after "a" pass,
    ⟨.step, .before, .remove 3⟩, register .before "a" pass]

theorem ordered_aComesInAgain :
    (historyAt .step .before aComesInAgain).map HookChange.outline =
        (historyAt .step .after aComesInAgain).map HookChange.outline ∧
      ((after aComesInAgain).table.ordered .step .before).map Hook.name = ["b", "a"] ∧
      ((after aComesInAgain).table.ordered .step .after).map Hook.placement =
        (((after aComesInAgain).table.ordered .step .before).map Hook.placement).reverse := by
  have houtline : (historyAt .step .before aComesInAgain).map HookChange.outline =
      (historyAt .step .after aComesInAgain).map HookChange.outline := by decide
  have hsorted : ((after aComesInAgain).table.bucket .step .before).Pairwise fun a b ↦ a.le b := by
    decide
  have hbucket : ((after aComesInAgain).table.bucket .step .before).map Hook.name = ["b", "a"] := by
    decide
  refine ⟨houtline, ?_, (ordered_tells_history aComesInAgain .step).2.2 houtline⟩
  rw [HookTable.ordered, List.mergeSort_of_pairwise hsorted, hbucket]

end HookSession

end Gherkin
