import Gherkin.Proofs.Hooks.Places
import Mathlib.Data.List.Induction

/-!
# The history of a list of hooks

The hooks of one scope and timing have a history of registrations and removals. The history alone
tells which registrations last, and since when a name has been there without a break. What lasts can
be told again as a list of hooks, each numbered by its own registration and by the one that brought
in its name.

Main statements: the hooks told of a history are those that last (`mem_told_iff`), and they stand in
the order in which their names came in (`inOrder_told`).
-/

namespace Gherkin

variable {σ : Type} {t : Timing}

/-- One thing that is done to the hooks of a scope and timing. What a removal is done with is the
handle of a registration, whose number is counted from one among those of this scope and timing. -/
inductive HookChange (σ : Type) (t : Timing) where
  | register (placement : HookPlacement) (callback : Callback σ t)
  | remove (number : Nat)

namespace HookChange

def isRegistration : HookChange σ t → Bool
  | register .. => true
  | remove _ => false

/-- A change without the callback. -/
def outline : HookChange σ t → HookPlacement ⊕ Nat
  | register placement _ => .inl placement
  | remove number => .inr number

def registrations (history : List (HookChange σ t)) : Nat := history.countP isRegistration

/-- The registration with the given number lasts to the end of a history: its name is not registered
again, and nothing is removed with its handle. -/
def Lasts (history : List (HookChange σ t)) (placement : HookPlacement) (callback : Callback σ t)
    (number : Nat) : Prop :=
  ∃ before after, history = before ++ .register placement callback :: after ∧
    number = registrations before + 1 ∧
    (∀ p c, .register p c ∈ after → p.name ≠ placement.name) ∧ .remove number ∉ after

/-- There is a hook of the given name at the end of a history. -/
def Present (history : List (HookChange σ t)) (name : Text) : Prop :=
  ∃ placement callback number, Lasts history placement callback number ∧ placement.name = name

/-- The registration with the given number found no hook of the given name, and there has been one
ever since. -/
def PresentSince (history : List (HookChange σ t)) (name : Text) (number : Nat) : Prop :=
  ∃ before placement callback after,
    history = before ++ .register placement callback :: after ∧
    number = registrations before + 1 ∧ placement.name = name ∧ ¬Present before name ∧
    ∀ part, part <+: after → Present (before ++ .register placement callback :: part) name

end HookChange

def Hook.placement (h : Hook σ t) : HookPlacement := ⟨h.name, h.priority, h.tier⟩

/-- The hook is what a history tells of a registration that lasts; its insertion is the number of
the registration since which its name is there. -/
structure Hook.Told (history : List (HookChange σ t)) (h : Hook σ t) : Prop where
  lasts : HookChange.Lasts history h.placement h.callback h.id
  since : HookChange.PresentSince history h.name h.insertion

namespace HookTable

variable {options : HookPlacement} {id insertion : Nat} {callback : Callback σ t}
  {hooks : List (Hook σ t)}

theorem placed_of_mem (h : ∃ g ∈ hooks, g.name = options.name) :
    placed options id insertion callback hooks = hooks.map (replaced options id callback) := by
  rw [placed, if_pos (by simpa using h)]

theorem placed_of_forall (h : ∀ g ∈ hooks, g.name ≠ options.name) :
    placed options id insertion callback hooks =
      hooks ++ [⟨options.name, id, options.priority, options.tier, insertion, callback⟩] := by
  rw [placed, if_neg (by simpa using h)]

end HookTable

namespace HookChange

/-! ## One more change -/

theorem registrations_append_register (history : List (HookChange σ t)) (p : HookPlacement)
    (c : Callback σ t) :
    registrations (history ++ [.register p c]) = registrations history + 1 := by
  rw [registrations, List.countP_append, registrations]
  rfl

theorem registrations_append_remove (history : List (HookChange σ t)) (number : Nat) :
    registrations (history ++ [.remove number]) = registrations history := by
  rw [registrations, List.countP_append, registrations]
  rfl

/-- Where a list with one more entry is cut at an entry, this is the last one or stands in the list
before. -/
theorem append_singleton_eq_append_cons_iff {α : Type} {xs before after : List α} {x y : α} :
    xs ++ [x] = before ++ y :: after ↔
      (after = [] ∧ xs = before ∧ x = y) ∨
        ∃ rest, after = rest ++ [x] ∧ xs = before ++ y :: rest := by
  constructor
  · intro h
    rcases List.eq_nil_or_concat after with rfl | ⟨rest, z, rfl⟩
    · obtain ⟨rfl, hxy⟩ := List.append_inj' h rfl
      exact .inl ⟨rfl, rfl, List.singleton_inj.1 hxy⟩
    · rw [List.concat_eq_append, ← List.cons_append, ← List.append_assoc] at h
      obtain ⟨rfl, hxz⟩ := List.append_inj' h rfl
      exact .inr ⟨rest, by rw [List.concat_eq_append, List.singleton_inj.1 hxz], rfl⟩
  · rintro (⟨rfl, rfl, rfl⟩ | ⟨rest, rfl, rfl⟩)
    · rfl
    · rw [List.append_assoc, List.cons_append]

section Changes

variable {history : List (HookChange σ t)} {p placement : HookPlacement}
  {c callback : Callback σ t} {name : Text} {number removed : Nat}

theorem lasts_append_register_iff :
    Lasts (history ++ [.register p c]) placement callback number ↔
      (placement = p ∧ callback = c ∧ number = registrations history + 1) ∨
        (Lasts history placement callback number ∧ placement.name ≠ p.name) := by
  constructor
  · rintro ⟨before, after, heq, hnumber, hnames, hremove⟩
    rcases append_singleton_eq_append_cons_iff.1 heq with ⟨rfl, rfl, hlast⟩ | ⟨rest, rfl, rfl⟩
    · cases hlast
      exact .inl ⟨rfl, rfl, hnumber⟩
    · have hlast := hnames p c (List.mem_append_right _ (List.mem_singleton_self _))
      refine .inr ⟨⟨before, rest, rfl, hnumber, fun p' c' h ↦ ?_, fun h ↦ ?_⟩, hlast.symm⟩
      · exact hnames p' c' (List.mem_append_left _ h)
      · exact hremove (List.mem_append_left _ h)
  · rintro (⟨rfl, rfl, rfl⟩ | ⟨⟨before, after, rfl, hnumber, hnames, hremove⟩, hname⟩)
    · exact ⟨history, [], rfl, rfl, fun _ _ h ↦ absurd h List.not_mem_nil, List.not_mem_nil⟩
    · refine ⟨before, after ++ [.register p c], List.append_assoc .., hnumber, ?_, ?_⟩
      · intro p' c' h
        rcases List.mem_append.1 h with h | h
        · exact hnames p' c' h
        · cases List.mem_singleton.1 h
          exact hname.symm
      · intro h
        rcases List.mem_append.1 h with h | h
        · exact hremove h
        · cases List.mem_singleton.1 h

theorem lasts_append_remove_iff :
    Lasts (history ++ [.remove removed]) placement callback number ↔
      Lasts history placement callback number ∧ number ≠ removed := by
  constructor
  · rintro ⟨before, after, heq, hnumber, hnames, hremove⟩
    rcases append_singleton_eq_append_cons_iff.1 heq with ⟨-, -, hlast⟩ | ⟨rest, rfl, rfl⟩
    · cases hlast
    · refine ⟨⟨before, rest, rfl, hnumber, fun p' c' h ↦ ?_, fun h ↦ ?_⟩, ?_⟩
      · exact hnames p' c' (List.mem_append_left _ h)
      · exact hremove (List.mem_append_left _ h)
      · rintro rfl
        exact hremove (List.mem_append_right _ (List.mem_singleton_self _))
  · rintro ⟨⟨before, after, rfl, hnumber, hnames, hremove⟩, hne⟩
    refine ⟨before, after ++ [.remove removed], List.append_assoc .., hnumber, ?_, ?_⟩
    · intro p' c' h
      rcases List.mem_append.1 h with h | h
      · exact hnames p' c' h
      · cases List.mem_singleton.1 h
    · intro h
      rcases List.mem_append.1 h with h | h
      · exact hremove h
      · cases List.mem_singleton.1 h
        exact hne rfl

/-- A name that is registered is there. -/
theorem present_append_register (history : List (HookChange σ t)) (p : HookPlacement)
    (c : Callback σ t) : Present (history ++ [.register p c]) p.name :=
  ⟨p, c, _, lasts_append_register_iff.2 (.inl ⟨rfl, rfl, rfl⟩), rfl⟩

/-- A registration takes no name away. -/
theorem Present.append_register (h : Present history name) (p : HookPlacement)
    (c : Callback σ t) : Present (history ++ [.register p c]) name := by
  by_cases hname : name = p.name
  · rw [hname]
    exact present_append_register history p c
  · obtain ⟨placement, callback, number, hlasts, rfl⟩ := h
    exact ⟨placement, callback, number, lasts_append_register_iff.2 (.inr ⟨hlasts, hname⟩), rfl⟩

theorem PresentSince.present (h : PresentSince history name number) : Present history name := by
  obtain ⟨before, placement, callback, after, rfl, -, -, -, hpresent⟩ := h
  exact hpresent after List.prefix_rfl

/-- A name is there since the last change if this registered it and it was not there before; else
since when it was, if it is there still. -/
theorem presentSince_append_iff {x : HookChange σ t} :
    PresentSince (history ++ [x]) name number ↔
      (∃ p c, x = .register p c ∧ p.name = name ∧ ¬Present history name ∧
        number = registrations history + 1) ∨
      (PresentSince history name number ∧ Present (history ++ [x]) name) := by
  constructor
  · intro h
    have hnow := h.present
    obtain ⟨before, placement, callback, after, heq, hnumber, hname, habsent, hpresent⟩ := h
    rcases append_singleton_eq_append_cons_iff.1 heq with ⟨rfl, rfl, rfl⟩ | ⟨rest, rfl, rfl⟩
    · exact .inl ⟨placement, callback, rfl, hname, habsent, hnumber⟩
    · refine .inr ⟨⟨before, placement, callback, rest, rfl, hnumber, hname, habsent, ?_⟩, hnow⟩
      exact fun part hpart ↦ hpresent part (hpart.trans (List.prefix_append ..))
  · rintro (⟨p, c, rfl, rfl, habsent, hnumber⟩ |
      ⟨⟨before, placement, callback, after, rfl, hnumber, hname, habsent, hpresent⟩, hnow⟩)
    · refine ⟨history, p, c, [], rfl, hnumber, rfl, habsent, fun part hpart ↦ ?_⟩
      rw [List.prefix_nil.1 hpart]
      exact present_append_register history p c
    · refine ⟨before, placement, callback, after ++ [x], List.append_assoc .., hnumber, hname,
        habsent, fun part hpart ↦ ?_⟩
      rcases List.prefix_concat_iff.1 hpart with rfl | hpart
      · rw [List.append_assoc] at hnow
        exact hnow
      · exact hpresent part hpart

end Changes

/-- The registration that brought a name in is the only one that did. -/
theorem PresentSince.unique {history : List (HookChange σ t)} {name : Text} {m n : Nat}
    (hm : PresentSince history name m) (hn : PresentSince history name n) : m = n := by
  induction history using List.reverseRecOn with
  | nil =>
    obtain ⟨before, placement, callback, after, heq, -⟩ := hm
    exact absurd heq.symm (by simp)
  | append_singleton history x ih =>
    rcases presentSince_append_iff.1 hm with ⟨_, _, -, -, habsent, hm⟩ | ⟨hm, -⟩ <;>
      rcases presentSince_append_iff.1 hn with ⟨_, _, -, -, habsent', hn⟩ | ⟨hn, -⟩
    · rw [hm, hn]
    · exact absurd hn.present habsent
    · exact absurd hm.present habsent'
    · exact ih hm hn

/-- A name that is there is there since some registration. -/
theorem Present.exists_since {history : List (HookChange σ t)} {name : Text}
    (h : Present history name) : ∃ number, PresentSince history name number := by
  induction history using List.reverseRecOn with
  | nil =>
    obtain ⟨placement, callback, number, ⟨before, after, heq, -⟩, -⟩ := h
    exact absurd heq.symm (by simp)
  | append_singleton history x ih =>
    by_cases hbefore : Present history name
    · obtain ⟨number, hnumber⟩ := ih hbefore
      exact ⟨number, presentSince_append_iff.2 (.inr ⟨hnumber, h⟩)⟩
    · cases x with
      | register p c =>
        refine ⟨_, presentSince_append_iff.2 (.inl ⟨p, c, rfl, ?_, hbefore, rfl⟩)⟩
        obtain ⟨placement, callback, number, hlasts, rfl⟩ := h
        rcases lasts_append_register_iff.1 hlasts with ⟨rfl, -, -⟩ | ⟨hold, -⟩
        · rfl
        · exact absurd ⟨placement, callback, number, hold, rfl⟩ hbefore
      | remove removed =>
        obtain ⟨placement, callback, number, hlasts, hname⟩ := h
        have hold := (lasts_append_remove_iff.1 hlasts).1
        exact absurd ⟨placement, callback, number, hold, hname⟩ hbefore

/-! ## The hooks that a history tells of -/

/-- The hooks after one more change, when so many registrations have been made. -/
def apply (made : Nat) (hooks : List (Hook σ t)) : HookChange σ t → List (Hook σ t)
  | register p c => HookTable.placed p (made + 1) (made + 1) c hooks
  | remove number => hooks.filter (·.id ≠ number)

/-- The hooks that last, in the order in which their names came in. -/
def told (history : List (HookChange σ t)) : List (Hook σ t) :=
  (history.foldl (fun (made, hooks) x ↦ (registrations [x] + made, x.apply made hooks)) (0, [])).2

theorem told_append_singleton (history : List (HookChange σ t)) (x : HookChange σ t) :
    told (history ++ [x]) = x.apply (registrations history) (told history) := by
  have hmade : (history.foldl (fun (made, hooks) (x : HookChange σ t) ↦
      (registrations [x] + made, x.apply made hooks)) (0, [])).1 = registrations history := by
    induction history using List.reverseRecOn with
    | nil => rfl
    | append_singleton history y ih =>
      rw [List.foldl_append, registrations, List.countP_append, Nat.add_comm]
      exact congrArg (registrations [y] + ·) ih
  rw [told, List.foldl_append, ← hmade]
  rfl

/-- The hooks told of a history have names and numbers of their own, in the order in which their
names came in. -/
theorem inOrder_told (history : List (HookChange σ t)) :
    HookTable.InOrder (registrations history) (registrations history) (told history) := by
  induction history using List.reverseRecOn with
  | nil => exact .nil
  | append_singleton history x ih =>
    rw [told_append_singleton]
    cases x with
    | register p c =>
      rw [registrations_append_register, apply]
      by_cases hany : ∃ g ∈ told history, g.name = p.name
      · rw [HookTable.placed_of_mem hany]
        exact (ih.replaced p c).mono (Nat.le_refl _) (Nat.le_succ _)
      · have hnone : ∀ g ∈ told history, g.name ≠ p.name := fun g hg hname ↦ hany ⟨g, hg, hname⟩
        rw [HookTable.placed_of_forall hnone]
        exact ih.append (by simpa using hnone) rfl rfl
    | remove number =>
      rw [registrations_append_remove]
      exact ih.sublist List.filter_sublist

/-- The names of the hooks that are told are those that are there. -/
theorem Present.exists_mem {history : List (HookChange σ t)} {name : Text}
    {hooks : List (Hook σ t)} (hooks_iff : ∀ h : Hook σ t, h ∈ hooks ↔ h.Told history)
    (h : Present history name) : ∃ g ∈ hooks, g.name = name := by
  obtain ⟨number, hsince⟩ := h.exists_since
  obtain ⟨placement, callback, id, hlasts, rfl⟩ := h
  refine ⟨⟨placement.name, id, placement.priority, placement.tier, number, callback⟩, ?_, rfl⟩
  exact (hooks_iff _).2 ⟨hlasts, hsince⟩

section Placed

variable {history : List (HookChange σ t)} {hooks : List (Hook σ t)} {h : Hook σ t}
  (hooks_iff : ∀ h : Hook σ t, h ∈ hooks ↔ h.Told history) (p : HookPlacement) (c : Callback σ t)

include hooks_iff

theorem told_of_mem_placed
    (hmem :
      h ∈ HookTable.placed p (registrations history + 1) (registrations history + 1) c hooks) :
    h.Told (history ++ [.register p c]) := by
  have hold {g : Hook σ t} (hg : g ∈ hooks) (hname : g.name ≠ p.name) :
      g.Told (history ++ [.register p c]) := by
    have hg' := (hooks_iff g).1 hg
    exact ⟨lasts_append_register_iff.2 (.inr ⟨hg'.lasts, hname⟩),
      presentSince_append_iff.2 (.inr ⟨hg'.since, hg'.since.present.append_register p c⟩)⟩
  have hnew : Lasts (history ++ [.register p c]) p c (registrations history + 1) :=
    lasts_append_register_iff.2 (.inl ⟨rfl, rfl, rfl⟩)
  by_cases hany : ∃ g ∈ hooks, g.name = p.name
  · rw [HookTable.placed_of_mem hany] at hmem
    obtain ⟨g, hg, rfl⟩ := List.mem_map.1 hmem
    by_cases hname : g.name = p.name
    · have hsince := ((hooks_iff g).1 hg).since
      rw [HookTable.replaced, if_pos hname]
      refine ⟨?_, presentSince_append_iff.2 (.inr ⟨hsince, hsince.present.append_register p c⟩)⟩
      simpa only [Hook.placement, hname] using hnew
    · rw [HookTable.replaced, if_neg hname]
      exact hold hg hname
  · have hnone : ∀ g ∈ hooks, g.name ≠ p.name := fun g hg hname ↦ hany ⟨g, hg, hname⟩
    rw [HookTable.placed_of_forall hnone] at hmem
    rcases List.mem_append.1 hmem with hmem | hmem
    · exact hold hmem (hnone h hmem)
    · rw [List.mem_singleton.1 hmem]
      refine ⟨hnew, presentSince_append_iff.2 (.inl ⟨p, c, rfl, rfl, fun hpresent ↦ ?_, rfl⟩)⟩
      obtain ⟨g, hg, hname⟩ := hpresent.exists_mem hooks_iff
      exact hnone g hg hname

theorem mem_placed_of_told (htold : h.Told (history ++ [.register p c])) :
    h ∈ HookTable.placed p (registrations history + 1) (registrations history + 1) c hooks := by
  obtain ⟨hlasts, hsince⟩ := htold
  rcases lasts_append_register_iff.1 hlasts with ⟨rfl, rfl, hid⟩ | ⟨hlasts, hother⟩
  · rcases presentSince_append_iff.1 hsince with ⟨_, _, -, -, habsent, hinsertion⟩ | ⟨hsince, -⟩
    · have hnone : ∀ g ∈ hooks, g.name ≠ h.name := fun g hg hname ↦
        habsent (hname ▸ ((hooks_iff g).1 hg).since.present)
      rw [HookTable.placed_of_forall hnone]
      refine List.mem_append_right _ (List.mem_singleton.2 ?_)
      exact congrArg₂ (fun id insertion ↦ ({ h with id, insertion } : Hook σ t)) hid hinsertion
    · -- the hook that was replaced is there since the same registration
      obtain ⟨g, hg, hname⟩ := hsince.present.exists_mem hooks_iff
      have hinsertion : g.insertion = h.insertion :=
        (hname ▸ ((hooks_iff g).1 hg).since).unique hsince
      have hreplaced : g.name = h.placement.name := hname
      rw [HookTable.placed_of_mem ⟨g, hg, hname⟩, ← hid]
      refine List.mem_map.2 ⟨g, hg, ?_⟩
      rw [HookTable.replaced, if_pos hreplaced, hname, hinsertion]
      rfl
  · have hname : h.name ≠ p.name := hother
    have hsince : PresentSince history h.name h.insertion := by
      rcases presentSince_append_iff.1 hsince with ⟨_, _, hx, hp, -⟩ | ⟨hsince, -⟩
      · cases hx
        exact absurd hp.symm hname
      · exact hsince
    have hmem : h ∈ hooks := (hooks_iff h).2 ⟨hlasts, hsince⟩
    rw [HookTable.placed]
    split
    · exact List.mem_map.2 ⟨h, hmem, by rw [HookTable.replaced, if_neg hname]⟩
    · exact List.mem_append_left _ hmem

end Placed

/-- A history tells of the hooks that last, each with the registration since which its name is
there. -/
theorem mem_told_iff {history : List (HookChange σ t)} {h : Hook σ t} :
    h ∈ told history ↔ h.Told history := by
  induction history using List.reverseRecOn generalizing h with
  | nil =>
    refine iff_of_false List.not_mem_nil fun htold ↦ ?_
    obtain ⟨before, after, heq, -⟩ := htold.lasts
    exact absurd heq.symm (by simp)
  | append_singleton history x ih =>
    rw [told_append_singleton]
    cases x with
    | register p c =>
      exact ⟨told_of_mem_placed (fun _ ↦ ih) p c, mem_placed_of_told (fun _ ↦ ih) p c⟩
    | remove number =>
      rw [apply, List.mem_filter, decide_eq_true_eq, ih]
      constructor
      · rintro ⟨⟨hlasts, hsince⟩, hid⟩
        have hlasts' := lasts_append_remove_iff.2 ⟨hlasts, hid⟩
        exact ⟨hlasts', presentSince_append_iff.2 (.inr ⟨hsince, ⟨_, _, _, hlasts', rfl⟩⟩)⟩
      · rintro ⟨hlasts, hsince⟩
        obtain ⟨hlasts, hid⟩ := lasts_append_remove_iff.1 hlasts
        rcases presentSince_append_iff.1 hsince with ⟨_, _, hx, -⟩ | ⟨hsince, -⟩
        · cases hx
        · exact ⟨⟨hlasts, hsince⟩, hid⟩

end HookChange

end Gherkin
