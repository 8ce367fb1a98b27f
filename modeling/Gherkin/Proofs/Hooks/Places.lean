import Gherkin.Hooks.Table

/-!
# Hooks and their places

The hooks of one scope and timing stand in the order in which their names came in. They keep that
order, and names and numbers of their own, whatever is registered and removed; so a hook under a new
name comes after those that were there, as long as tier and priority do not decide otherwise.

Main statements: a table stays sound (`HookTable.Sound.insert`, `HookTable.Sound.remove`), removing
takes out one hook or none (`HookTable.Sound.remove_cases`), and new names come last on the way in
(`HookTable.Sound.pair_sublist_ordered`).
-/

namespace Gherkin

variable {σ : Type} {t : Timing}

/-- What is asked for when a hook is registered. -/
structure HookRequest (σ : Type) where
  scope : Scope
  timing : Timing
  placement : HookPlacement
  callback : Callback σ timing

/-! ## Lists of hooks -/

namespace HookTable

/-- The hooks of a list after one more registration. -/
def placed (options : HookPlacement) (id insertion : Nat) (callback : Callback σ t)
    (hooks : List (Hook σ t)) : List (Hook σ t) :=
  if hooks.any (·.name = options.name) then hooks.map (replaced options id callback)
  else hooks ++ [⟨options.name, id, options.priority, options.tier, insertion, callback⟩]

/-- Hooks with names and numbers of their own, in the order in which their names came in. -/
structure InOrder (lastId lastInsertion : Nat) (hooks : List (Hook σ t)) : Prop where
  apart : hooks.Pairwise fun a b ↦ a.name ≠ b.name ∧ a.id ≠ b.id ∧ a.insertion < b.insertion
  id_le : ∀ h ∈ hooks, h.id ≤ lastId
  insertion_le : ∀ h ∈ hooks, h.insertion ≤ lastInsertion

section Lists

variable {options : HookPlacement} {id insertion lastId lastInsertion : Nat}
  {callback : Callback σ t} {hooks : List (Hook σ t)}

@[simp] theorem name_replaced (options : HookPlacement) (id : Nat) (callback : Callback σ t)
    (h : Hook σ t) : (replaced options id callback h).name = h.name := by
  unfold replaced
  split <;> rfl

@[simp] theorem insertion_replaced (options : HookPlacement) (id : Nat) (callback : Callback σ t)
    (h : Hook σ t) : (replaced options id callback h).insertion = h.insertion := by
  unfold replaced
  split <;> rfl

theorem id_replaced (options : HookPlacement) (id : Nat) (callback : Callback σ t)
    (h : Hook σ t) :
    (replaced options id callback h).id = if h.name = options.name then id else h.id := by
  unfold replaced
  split <;> rfl

/-- A registration leaves the names as they are, or puts a new one behind them. -/
theorem map_name_placed (options : HookPlacement) (id insertion : Nat) (callback : Callback σ t)
    (hooks : List (Hook σ t)) :
    (placed options id insertion callback hooks).map Hook.name =
      if options.name ∈ hooks.map Hook.name then hooks.map Hook.name
      else hooks.map Hook.name ++ [options.name] := by
  have hany : hooks.any (·.name = options.name) = true ↔ options.name ∈ hooks.map Hook.name := by
    simp [List.any_eq_true]
  unfold placed
  by_cases h : options.name ∈ hooks.map Hook.name
  · rw [if_pos (hany.2 h), if_pos h, List.map_map]
    apply List.map_congr_left
    intro hook _
    exact name_replaced options id callback hook
  · rw [if_neg (mt hany.1 h), if_neg h, List.map_append, List.map_singleton]

/-- A hook after a registration is the new one or was there before. -/
theorem of_mem_placed {h : Hook σ t} (hmem : h ∈ placed options id insertion callback hooks) :
    (∃ n, h = ⟨options.name, id, options.priority, options.tier, n, callback⟩) ∨ h ∈ hooks := by
  unfold placed at hmem
  split at hmem
  · obtain ⟨old, hold, rfl⟩ := List.mem_map.1 hmem
    unfold replaced
    split
    · next hname => exact .inl ⟨old.insertion, by rw [hname]⟩
    · exact .inr hold
  · rcases List.mem_append.1 hmem with hmem | hmem
    · exact .inr hmem
    · exact .inl ⟨insertion, List.mem_singleton.1 hmem⟩

namespace InOrder

theorem nil : InOrder lastId lastInsertion ([] : List (Hook σ t)) :=
  ⟨.nil, fun _ h ↦ absurd h List.not_mem_nil, fun _ h ↦ absurd h List.not_mem_nil⟩

theorem mono (h : InOrder lastId lastInsertion hooks) {id insertion : Nat} (hid : lastId ≤ id)
    (hinsertion : lastInsertion ≤ insertion) : InOrder id insertion hooks where
  apart := h.apart
  id_le hook hmem := Nat.le_trans (h.id_le hook hmem) hid
  insertion_le hook hmem := Nat.le_trans (h.insertion_le hook hmem) hinsertion

theorem sublist (h : InOrder lastId lastInsertion hooks) {part : List (Hook σ t)}
    (hpart : part.Sublist hooks) : InOrder lastId lastInsertion part where
  apart := h.apart.sublist hpart
  id_le hook hmem := h.id_le hook (hpart.subset hmem)
  insertion_le hook hmem := h.insertion_le hook (hpart.subset hmem)

/-- A hook that takes the place of another one gets a number that no other hook has. -/
theorem replaced (h : InOrder lastId lastInsertion hooks) (options : HookPlacement)
    (callback : Callback σ t) :
    InOrder (lastId + 1) lastInsertion
      (hooks.map (HookTable.replaced options (lastId + 1) callback)) := by
  refine ⟨List.pairwise_map.2 (h.apart.imp_of_mem ?_), ?_, ?_⟩
  · rintro a b ha hb ⟨hname, hid, hinsertion⟩
    have ha' := h.id_le a ha
    have hb' := h.id_le b hb
    refine ⟨by simpa using hname, ?_, by simpa using hinsertion⟩
    rw [id_replaced, id_replaced]
    split <;> split
    · next hone htwo => exact absurd (hone.trans htwo.symm) hname
    all_goals omega
  · intro hook hmem
    obtain ⟨old, hold, rfl⟩ := List.mem_map.1 hmem
    have := h.id_le old hold
    rw [id_replaced]
    split <;> omega
  · intro hook hmem
    obtain ⟨old, hold, rfl⟩ := List.mem_map.1 hmem
    rw [insertion_replaced]
    exact h.insertion_le old hold

/-- A hook under a new name gets numbers that are larger than all others. -/
theorem append (h : InOrder lastId lastInsertion hooks) {hook : Hook σ t}
    (hname : hook.name ∉ hooks.map Hook.name) (hid : hook.id = lastId + 1)
    (hinsertion : hook.insertion = lastInsertion + 1) :
    InOrder (lastId + 1) (lastInsertion + 1) (hooks ++ [hook]) := by
  refine ⟨List.pairwise_append.2 ⟨h.apart, List.pairwise_singleton .., fun a ha b hb ↦ ?_⟩,
    List.forall_mem_append.2 ⟨fun a ha ↦ Nat.le_succ_of_le (h.id_le a ha), ?_⟩,
    List.forall_mem_append.2 ⟨fun a ha ↦ Nat.le_succ_of_le (h.insertion_le a ha), ?_⟩⟩
  · obtain rfl := List.mem_singleton.1 hb
    have hid' := h.id_le a ha
    have hinsertion' := h.insertion_le a ha
    refine ⟨fun heq ↦ hname (heq ▸ List.mem_map_of_mem ha), ?_, ?_⟩ <;> omega
  · exact List.forall_mem_singleton.2 (Nat.le_of_eq hid)
  · exact List.forall_mem_singleton.2 (Nat.le_of_eq hinsertion)

/-- Leaving out the hooks with a number leaves out one or none. -/
theorem filter_cases (h : InOrder lastId lastInsertion hooks) (id : Nat) :
    (∀ hook ∈ hooks, hook.id ≠ id) ∨
    ∃ before hook after, hooks = before ++ hook :: after ∧ hook.id = id ∧
      hooks.filter (·.id ≠ id) = before ++ after := by
  by_cases hany : ∃ hook ∈ hooks, hook.id = id
  · obtain ⟨hook, hmem, rfl⟩ := hany
    obtain ⟨before, after, rfl⟩ := List.append_of_mem hmem
    refine .inr ⟨before, hook, after, rfl, rfl, ?_⟩
    obtain ⟨-, hafter, hbefore⟩ := List.pairwise_append.1 h.apart
    have hb : before.filter (·.id ≠ hook.id) = before := by
      refine List.filter_eq_self.2 fun a ha ↦ decide_eq_true ?_
      exact (hbefore a ha hook List.mem_cons_self).2.1
    have ha : after.filter (·.id ≠ hook.id) = after := by
      refine List.filter_eq_self.2 fun a ha ↦ decide_eq_true ?_
      exact ((List.pairwise_cons.1 hafter).1 a ha).2.1.symm
    rw [List.filter_append, List.filter_cons_of_neg (by simp), hb, ha]
  · exact .inl fun hook hmem heq ↦ hany ⟨hook, hmem, heq⟩

end InOrder

end Lists

variable {table : HookTable σ}

theorem insert_eq (table : HookTable σ) (scope : Scope) (t : Timing) (options : HookPlacement)
    (callback : Callback σ t) :
    table.insert scope t options callback =
      (⟨scope, t, options.name, table.lastId + 1⟩,
        { table.putBucket scope t (placed options (table.lastId + 1) (table.lastInsertion + 1)
            callback (table.bucket scope t)) with
          lastId := table.lastId + 1
          lastInsertion :=
            if (table.bucket scope t).any (·.name = options.name) then table.lastInsertion
            else table.lastInsertion + 1 }) := by
  unfold insert placed
  by_cases h : (table.bucket scope t).any (·.name = options.name)
  · simp only [h, if_true]
    rfl
  · simp only [h, Bool.false_eq_true, if_false]

theorem lastInsertion_le_insert (table : HookTable σ) (scope : Scope) (t : Timing)
    (options : HookPlacement) (callback : Callback σ t) :
    table.lastInsertion ≤ (table.insert scope t options callback).2.lastInsertion := by
  rw [insert_eq]
  dsimp only
  split <;> omega

theorem bucket_insert_self (table : HookTable σ) (scope : Scope) (t : Timing)
    (options : HookPlacement) (callback : Callback σ t) :
    (table.insert scope t options callback).2.bucket scope t =
      placed options (table.lastId + 1) (table.lastInsertion + 1) callback
        (table.bucket scope t) := by
  rw [insert_eq]
  exact bucket_putBucket_self table scope t _

theorem bucket_insert_of_ne (table : HookTable σ) {scope s : Scope} {t u : Timing}
    (options : HookPlacement) (callback : Callback σ t) (h : ¬(s = scope ∧ t = u)) :
    (table.insert scope t options callback).2.bucket s u = table.bucket s u := by
  rw [insert_eq]
  exact bucket_putBucket_of_ne table _ h

@[simp] theorem lastId_remove (table : HookTable σ) (handle : HookHandle) :
    (table.remove handle).2.lastId = table.lastId := by
  unfold remove
  dsimp only
  split <;> rfl

/-- All lists of a table are in order. -/
def Sound (table : HookTable σ) : Prop :=
  ∀ (scope : Scope) (t : Timing), InOrder table.lastId table.lastInsertion (table.bucket scope t)

namespace Sound

theorem empty : ({} : HookTable σ).Sound := fun _ _ ↦ .nil

theorem cleared (table : HookTable σ) : table.cleared.Sound := fun _ _ ↦ .nil

theorem skipIds (h : table.Sound) (other : HookTable σ) : (table.skipIds other).Sound :=
  fun scope t ↦ (h scope t).mono (Nat.le_max_left _ _) (Nat.le_refl _)

theorem insert (h : table.Sound) (scope : Scope) (t : Timing) (options : HookPlacement)
    (callback : Callback σ t) : (table.insert scope t options callback).2.Sound := by
  intro s u
  by_cases hself : s = scope ∧ t = u
  · obtain ⟨rfl, rfl⟩ := hself
    rw [bucket_insert_self, insert_eq]
    unfold placed
    by_cases hany : (table.bucket s t).any (·.name = options.name)
    · simp only [hany, if_true]
      exact (h s t).replaced options callback
    · simp only [hany, Bool.false_eq_true, if_false]
      refine (h s t).append ?_ rfl rfl
      simpa using hany
  · rw [bucket_insert_of_ne table options callback hself]
    exact (h s u).mono (Nat.le_succ _) (lastInsertion_le_insert ..)

/-- Removing takes out the one hook that has the handle's number, or finds none and changes
nothing. -/
theorem remove_cases (h : table.Sound) (handle : HookHandle) :
    (table.remove handle = (false, table) ∧
      ∀ hook ∈ table.bucket handle.scope handle.timing, hook.id ≠ handle.id) ∨
    ∃ before hook after,
      table.bucket handle.scope handle.timing = before ++ hook :: after ∧ hook.id = handle.id ∧
      table.remove handle =
        (true, table.putBucket handle.scope handle.timing (before ++ after)) := by
  rcases (h handle.scope handle.timing).filter_cases handle.id with hnone | ⟨before, hook, after,
    hbucket, hid, hfilter⟩
  · refine .inl ⟨?_, hnone⟩
    have hany : (table.bucket handle.scope handle.timing).any (·.id = handle.id) = false :=
      List.any_eq_false.2 fun hook hmem ↦ by simpa using hnone hook hmem
    unfold remove
    simp only [hany, Bool.false_eq_true, if_false]
  · refine .inr ⟨before, hook, after, hbucket, hid, ?_⟩
    have hany : (table.bucket handle.scope handle.timing).any (·.id = handle.id) = true :=
      List.any_eq_true.2 ⟨hook, by rw [hbucket]; simp, by simpa using hid⟩
    unfold remove
    simp only [hany, if_true, hfilter]

theorem sublist_remove (h : table.Sound) (handle : HookHandle) (scope : Scope) (t : Timing) :
    ((table.remove handle).2.bucket scope t).Sublist (table.bucket scope t) := by
  rcases h.remove_cases handle with ⟨heq, -⟩ | ⟨before, hook, after, hbucket, -, heq⟩
  · simp only [heq, List.Sublist.refl]
  · by_cases hself : scope = handle.scope ∧ handle.timing = t
    · obtain ⟨rfl, rfl⟩ := hself
      rw [heq, bucket_putBucket_self, hbucket]
      exact List.Sublist.append_left (List.sublist_cons_self hook after) before
    · simp only [heq, bucket_putBucket_of_ne table _ hself, List.Sublist.refl]

theorem remove (h : table.Sound) (handle : HookHandle) : (table.remove handle).2.Sound := by
  intro scope t
  have hsame : (table.remove handle).2.lastInsertion = table.lastInsertion := by
    unfold HookTable.remove
    dsimp only
    split <;> rfl
  rw [lastId_remove, hsame]
  exact (h scope t).sublist (h.sublist_remove handle scope t)

end Sound

end HookTable

/-- Of two things that can be compared, one does not come after the other. -/
theorem isLE_compare_total {α : Type} [Ord α] [Std.OrientedOrd α] (a b : α) :
    (compare a b).isLE || (compare b a).isLE := by
  cases h : compare a b with
  | gt => rw [Std.OrientedCmp.gt_iff_lt.1 h]; rfl
  | _ => rfl

namespace Hook

theorem le_trans (a b c : Hook σ t) (hab : a.le b) (hbc : b.le c) : a.le c :=
  Std.TransCmp.isLE_trans hab hbc

theorem le_total (a b : Hook σ t) : a.le b || b.le a := isLE_compare_total a.key b.key

/-- On the way in, hooks that nothing else tells apart are run in the order in which their names
came in. -/
theorem le_of_insertion_lt (ht : t ≠ .after) {a b : Hook σ t} (htier : a.tier = b.tier)
    (hpriority : a.priority = b.priority) (h : a.insertion < b.insertion) : a.le b := by
  have hdirection : t.direction = 1 := by
    cases t with
    | after => exact absurd rfl ht
    | _ => rfl
  have hlt : compare (a.insertion : Int) b.insertion = .lt := Int.compare_eq_lt.2 (Int.ofNat_lt.2 h)
  unfold le key
  rw [hdirection, htier, hpriority]
  simp [List.compare_cons_cons, hlt]

end Hook

namespace HookTable

variable {table : HookTable σ}

def insertAll (table : HookTable σ) (requests : List (HookRequest σ)) : HookTable σ :=
  requests.foldl (fun table q ↦ (table.insert q.scope q.timing q.placement q.callback).2) table

theorem Sound.insertAll (h : table.Sound) (requests : List (HookRequest σ)) :
    (table.insertAll requests).Sound := by
  induction requests generalizing table with
  | nil => exact h
  | cons q requests ih => exact ih (h.insert q.scope q.timing q.placement q.callback)

/-- Registrations leave the names of a list where they are. -/
theorem map_name_prefix_insertAll (table : HookTable σ) (requests : List (HookRequest σ))
    (scope : Scope) (t : Timing) :
    (table.bucket scope t).map Hook.name <+:
      ((table.insertAll requests).bucket scope t).map Hook.name := by
  induction requests generalizing table with
  | nil => exact List.prefix_rfl
  | cons q requests ih =>
    refine List.IsPrefix.trans ?_ (ih (table.insert q.scope q.timing q.placement q.callback).2)
    by_cases hself : scope = q.scope ∧ q.timing = t
    · obtain ⟨rfl, rfl⟩ := hself
      rw [bucket_insert_self, map_name_placed]
      split
      · exact List.prefix_rfl
      · exact List.prefix_append ..
    · simp only [bucket_insert_of_ne table q.placement q.callback hself, List.prefix_rfl]

/-- On the way in, a hook whose name stands among the first names of its list is run before one
whose name does not, if neither tier nor priority tells them apart. -/
theorem Sound.pair_sublist_ordered (h : table.Sound) {scope : Scope} {t : Timing} (ht : t ≠ .after)
    {names : List Text} (hnames : names <+: (table.bucket scope t).map Hook.name)
    {a b : Hook σ t} (ha : a ∈ table.bucket scope t) (hb : b ∈ table.bucket scope t)
    (haname : a.name ∈ names) (hbname : b.name ∉ names) (htier : a.tier = b.tier)
    (hpriority : a.priority = b.priority) : [a, b].Sublist (table.ordered scope t) := by
  obtain ⟨more, hmore⟩ := hnames
  obtain ⟨front, back, hbucket, rfl, rfl⟩ := List.map_eq_append_iff.1 hmore.symm
  have hapart := (h scope t).apart
  rw [hbucket, List.pairwise_append] at hapart
  rw [hbucket, List.mem_append] at ha hb
  have hbback : b ∈ back := hb.resolve_left fun hmem ↦ hbname (List.mem_map_of_mem hmem)
  have hafront : a ∈ front := by
    refine ha.resolve_right fun hmem ↦ ?_
    obtain ⟨a', ha', heq⟩ := List.mem_map.1 haname
    exact (hapart.2.2 a' ha' a hmem).1 heq
  refine List.pair_sublist_mergeSort Hook.le_trans Hook.le_total ?_ ?_
  · exact Hook.le_of_insertion_lt ht htier hpriority (hapart.2.2 a hafront b hbback).2.2
  · rw [hbucket]
    exact (List.singleton_sublist.2 hafront).append (List.singleton_sublist.2 hbback)

end HookTable

end Gherkin
