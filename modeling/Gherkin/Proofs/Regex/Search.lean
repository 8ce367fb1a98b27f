import Gherkin.Regex.Search
import Mathlib.Data.List.Infix
import Mathlib.Logic.Relation
import Mathlib.Tactic.Common

/-!
# What a search finds

A way through a program ends in a match if its instructions, one after the other, get past the
characters in front of it until a match is reached. A search follows all ways at once, and of two
ways that reach one instruction it drops the second. Nothing is lost by that, because how a way goes
on depends only on the instruction that it has reached.

Main statement: a search finds something exactly if from some place of the text on a way ends in a
match (`Program.isSome_search_iff`).
-/

namespace Gherkin.Regex.Program

open Relation (ReflTransGen)

variable {p : Program}

/-- A step that takes no character, at a place between two characters. -/
inductive Moves (p : Program) (before after : Option Char) : Nat → Nat → Prop
  | first {pc first second : Nat} :
    p.insts[pc]? = some (.fork first second) → Moves p before after pc first
  | second {pc first second : Nat} :
    p.insts[pc]? = some (.fork first second) → Moves p before after pc second
  | look {pc next : Nat} {a : Assertion} :
    p.insts[pc]? = some (.look a next) → a.holds before after → Moves p before after pc next
  | save {pc slot next : Nat} :
    p.insts[pc]? = some (.save slot next) → Moves p before after pc next

/-- From this instruction on a way ends in a match, behind the character `before` and in front of a
text. -/
inductive Accepts (p : Program) : Option Char → Nat → Text → Prop
  | accept {before : Option Char} {pc : Nat} {t : Text} :
    p.insts[pc]? = some .accept → Accepts p before pc t
  | consume {before : Option Char} {pc next : Nat} {table : Unicode.RangeTable} {c : Char}
    {t : Text} : p.insts[pc]? = some (.consume table next) → table.contains c →
      Accepts p (some c) next t → Accepts p before pc (c :: t)
  | move {before : Option Char} {pc pc' : Nat} {t : Text} :
    p.Moves before t.head? pc pc' → Accepts p before pc' t → Accepts p before pc t

/-- From some place of a text on a way ends in a match. -/
inductive Occurs (p : Program) : Option Char → Text → Prop
  | here {before : Option Char} {t : Text} : p.Accepts before p.start t → Occurs p before t
  | later {before : Option Char} {c : Char} {t : Text} :
    Occurs p (some c) t → Occurs p before (c :: t)

/-- A way waits at an instruction that takes a character, and at a match. -/
inductive Waits (p : Program) : Nat → Prop
  | consume {pc next : Nat} {table : Unicode.RangeTable} :
    p.insts[pc]? = some (.consume table next) → Waits p pc
  | accept {pc : Nat} : p.insts[pc]? = some .accept → Waits p pc

/-- A way that waits here goes on to a match, or has reached it. -/
inductive GoesOn (p : Program) (pc : Nat) : Text → Prop
  | accept {t : Text} : p.insts[pc]? = some .accept → GoesOn p pc t
  | consume {next : Nat} {table : Unicode.RangeTable} {c : Char} {t : Text} :
    p.insts[pc]? = some (.consume table next) → table.contains c → p.Accepts (some c) next t →
      GoesOn p pc (c :: t)

theorem GoesOn.waits {pc : Nat} {t : Text} (h : p.GoesOn pc t) : p.Waits pc := by
  cases h with
  | accept h => exact .accept h
  | consume h _ _ => exact .consume h

/-- A way ends in a match if steps without a character lead to where it goes on. -/
theorem accepts_iff {before : Option Char} {pc : Nat} {t : Text} :
    p.Accepts before pc t ↔
      ∃ pc', ReflTransGen (p.Moves before t.head?) pc pc' ∧ p.GoesOn pc' t := by
  constructor
  · intro h
    induction h with
    | accept h => exact ⟨_, .refl, .accept h⟩
    | consume h hc hnext => exact ⟨_, .refl, .consume h hc hnext⟩
    | move hmove _ ih =>
      obtain ⟨pc', hmoves, hgoes⟩ := ih
      exact ⟨pc', .head hmove hmoves, hgoes⟩
  · rintro ⟨pc', hmoves, hgoes⟩
    induction hmoves using ReflTransGen.head_induction_on with
    | refl =>
      cases hgoes with
      | accept h => exact .accept h
      | consume h hc hnext => exact .consume h hc hnext
    | head hmove _ ih => exact .move hmove ih

/-- An instruction is marked if a way has reached it. What is no instruction counts as marked. -/
def Marked (f : Frontier) (pc : Nat) : Prop := f.seen.getD pc true = true

/-- The ways that a way goes on in without taking a character. -/
def branches (p : Program) (place : Place) (t : Thread) : List Thread :=
  match p.insts[t.pc]? with
  | some (.fork first second) => [{ t with pc := first }, { t with pc := second }]
  | some (.look a next) =>
    if a.holds place.before place.after then [{ t with pc := next }] else []
  | some (.save slot next) => [⟨next, (slot, place.index) :: t.saves⟩]
  | _ => []

/-- The frontier after a way has reached an instruction first. -/
def visit (p : Program) (t : Thread) (f : Frontier) : Frontier where
  seen := f.seen.set! t.pc true
  waiting :=
    match p.insts[t.pc]? with
    | some (.consume ..) | some .accept => t :: f.waiting
    | _ => f.waiting

theorem follow_nil (place : Place) (fuel : Nat) (f : Frontier) : p.follow place fuel [] f = f := by
  cases fuel <;> rfl

/-- A way that comes late is dropped. -/
theorem follow_cons_of_marked {place : Place} {fuel : Nat} {t : Thread} {rest : List Thread}
    {f : Frontier} (h : Marked f t.pc) :
    p.follow place (fuel + 1) (t :: rest) f = p.follow place fuel rest f := by
  rw [Marked] at h
  rw [follow, if_pos h]

/-- A way that has reached an instruction first marks it and goes on. -/
theorem follow_cons_of_not {place : Place} {fuel : Nat} {t : Thread} {rest : List Thread}
    {f : Frontier} (h : ¬Marked f t.pc) :
    p.follow place (fuel + 1) (t :: rest) f =
      p.follow place fuel (p.branches place t ++ rest) (p.visit t f) := by
  rw [Marked] at h
  rw [follow, if_neg h, branches, visit]
  cases p.insts[t.pc]? with
  | none => rfl
  | some inst =>
    cases inst with
    | look a next => cases ha : a.holds place.before place.after <;> simp [ha]
    | consume => rfl
    | fork => rfl
    | save => rfl
    | accept => rfl

theorem exists_branch_iff {place : Place} {t : Thread} {pc : Nat} :
    (∃ w ∈ p.branches place t, w.pc = pc) ↔ p.Moves place.before place.after t.pc pc := by
  constructor
  · rintro ⟨w, hw, rfl⟩
    rw [branches] at hw
    split at hw
    · next hinst =>
      rcases List.mem_cons.1 hw with rfl | hw
      · exact .first hinst
      · rw [List.mem_singleton.1 hw]
        exact .second hinst
    · next hinst =>
      split at hw
      · next ha =>
        rw [List.mem_singleton.1 hw]
        exact .look hinst ha
      · cases hw
    · next hinst =>
      rw [List.mem_singleton.1 hw]
      exact .save hinst
    · cases hw
  · intro h
    rw [branches]
    cases h with
    | first hinst => simp [hinst]
    | second hinst => simp [hinst]
    | look hinst ha => simp [hinst, ha]
    | save hinst => simp [hinst]

theorem length_branches_le (place : Place) (t : Thread) : (p.branches place t).length ≤ 2 := by
  rw [branches]
  split
  · exact le_rfl
  · split <;> simp
  · simp
  · simp

theorem mem_waiting_visit {t w : Thread} {f : Frontier} :
    w ∈ (p.visit t f).waiting ↔ w = t ∧ p.Waits t.pc ∨ w ∈ f.waiting := by
  rw [visit]
  constructor
  · intro h
    dsimp only at h
    split at h
    · next hinst => exact (List.mem_cons.1 h).imp_left fun heq ↦ ⟨heq, .consume hinst⟩
    · next hinst => exact (List.mem_cons.1 h).imp_left fun heq ↦ ⟨heq, .accept hinst⟩
    · exact .inr h
  · rintro (⟨rfl, hwaits⟩ | hw)
    · cases hwaits with
      | consume hinst => simp [hinst]
      | accept hinst => simp [hinst]
    · dsimp only
      split <;> simp [hw]

/-! ## All turns -/

def unmarked (f : Frontier) : Nat := f.seen.count false

theorem marked_visit_iff {t : Thread} {f : Frontier} {pc : Nat} (h : ¬Marked f t.pc) :
    Marked (p.visit t f) pc ↔ pc = t.pc ∨ Marked f pc := by
  have hsize : t.pc < f.seen.size := by
    by_contra hge
    exact h (by simp [Marked, Array.getD, hge])
  by_cases hpc : pc = t.pc
  · subst hpc
    simp [Marked, visit, Array.getD, hsize]
  · simp only [Marked, visit, Array.getD_eq_getD_getElem?, Array.set!_eq_setIfInBounds,
      Array.getElem?_setIfInBounds_ne (Ne.symm hpc), hpc, false_or]

theorem unmarked_visit {t : Thread} {f : Frontier} (h : ¬Marked f t.pc) :
    unmarked (p.visit t f) + 1 = unmarked f := by
  have hsize : t.pc < f.seen.size := by
    by_contra hge
    exact h (by simp [Marked, Array.getD, hge])
  have hfalse : f.seen[t.pc] = false := by
    simpa [Marked, Array.getD, hsize] using h
  have hpos : 0 < f.seen.count false :=
    Array.count_pos_iff.2 (hfalse ▸ Array.getElem_mem hsize)
  rw [unmarked, unmarked, visit, Array.set!_eq_setIfInBounds, Array.setIfInBounds, dif_pos hsize,
    Array.count_set, hfalse]
  simp
  omega

/-- From a marked instruction each step leads to a marked one or to a way that is yet to be
followed, and where a way waits there is one in the frontier. -/
structure Explored (p : Program) (place : Place) (ways : List Thread) (f : Frontier) : Prop where
  moves : ∀ {pc pc' : Nat}, Marked f pc → p.Moves place.before place.after pc pc' →
    Marked f pc' ∨ ∃ w ∈ ways, w.pc = pc'
  waits : ∀ {pc : Nat}, Marked f pc → p.Waits pc → ∃ w ∈ f.waiting, w.pc = pc

namespace Explored

variable {place : Place} {ways : List Thread} {t : Thread} {f : Frontier}

/-- Before a way is followed no instruction is marked. -/
theorem blank (place : Place) (ways : List Thread) :
    p.Explored place ways ⟨Array.replicate p.insts.size false, []⟩ := by
  have hnone {pc : Nat} (h : Marked ⟨Array.replicate p.insts.size false, []⟩ pc) :
      p.insts[pc]? = none := by
    rw [Array.getElem?_eq_none_iff]
    by_contra hlt
    simp [Marked, Array.getD, not_le.1 hlt] at h
  refine ⟨fun hpc hmove ↦ ?_, fun hpc hwaits ↦ ?_⟩
  · cases hmove <;> simp_all
  · cases hwaits <;> simp_all

/-- A way that comes late may be dropped. -/
theorem drop (h : p.Explored place (t :: ways) f) (ht : Marked f t.pc) :
    p.Explored place ways f where
  moves hpc hmove := by
    rcases h.moves hpc hmove with hmarked | ⟨w, hw, rfl⟩
    · exact .inl hmarked
    · rcases List.mem_cons.1 hw with rfl | hw
      · exact .inl ht
      · exact .inr ⟨w, hw, rfl⟩
  waits := h.waits

/-- A way that has reached an instruction first goes on in its branches. -/
theorem visit (h : p.Explored place (t :: ways) f) (ht : ¬Marked f t.pc) :
    p.Explored place (p.branches place t ++ ways) (p.visit t f) where
  moves {pc pc'} hpc hmove := by
    rcases (marked_visit_iff ht).1 hpc with rfl | hpc
    · obtain ⟨w, hw, hpc'⟩ := exists_branch_iff.2 hmove
      exact .inr ⟨w, List.mem_append_left _ hw, hpc'⟩
    · rcases h.moves hpc hmove with hmarked | ⟨w, hw, rfl⟩
      · exact .inl ((marked_visit_iff ht).2 (.inr hmarked))
      · rcases List.mem_cons.1 hw with rfl | hw
        · exact .inl ((marked_visit_iff ht).2 (.inl rfl))
        · exact .inr ⟨w, List.mem_append_right _ hw, rfl⟩
  waits hpc hwaits := by
    rcases (marked_visit_iff ht).1 hpc with rfl | hpc
    · exact ⟨t, mem_waiting_visit.2 (.inl ⟨rfl, hwaits⟩), rfl⟩
    · obtain ⟨w, hw, hwpc⟩ := h.waits hpc hwaits
      exact ⟨w, mem_waiting_visit.2 (.inr hw), hwpc⟩

/-- If no way is left to be followed, what steps lead to from a marked instruction is marked. -/
theorem marked (h : p.Explored place [] f) {pc pc' : Nat} (hpc : Marked f pc)
    (hmoves : ReflTransGen (p.Moves place.before place.after) pc pc') : Marked f pc' := by
  induction hmoves with
  | refl => exact hpc
  | tail _ hmove ih => exact (h.moves ih hmove).resolve_right (by simp)

end Explored

/-- All ways are followed to their ends: each turn drops a way or marks an instruction, and a marked
instruction adds at most one way, so the turns suffice. -/
theorem explored_follow {place : Place} {fuel : Nat} {ways : List Thread} {f : Frontier}
    (h : p.Explored place ways f) (hfuel : ways.length + 2 * unmarked f ≤ fuel) :
    p.Explored place [] (p.follow place fuel ways f) ∧
      (∀ pc, Marked f pc → Marked (p.follow place fuel ways f) pc) ∧
      ∀ w ∈ ways, Marked (p.follow place fuel ways f) w.pc := by
  induction fuel generalizing ways f with
  | zero =>
    have hnil : ways = [] := List.length_eq_zero_iff.1 (by omega)
    subst hnil
    exact ⟨h, fun _ hpc ↦ hpc, List.forall_mem_nil _⟩
  | succ fuel ih =>
    cases ways with
    | nil =>
      rw [follow_nil]
      exact ⟨h, fun _ hpc ↦ hpc, List.forall_mem_nil _⟩
    | cons t rest =>
      rw [List.length_cons] at hfuel
      by_cases ht : Marked f t.pc
      · rw [follow_cons_of_marked ht]
        obtain ⟨hexplored, hmarked, hways⟩ := ih (h.drop ht) (by omega)
        exact ⟨hexplored, hmarked, List.forall_mem_cons.2 ⟨hmarked _ ht, hways⟩⟩
      · have hlength := p.length_branches_le place t
        have hcount := unmarked_visit (p := p) ht
        rw [follow_cons_of_not ht]
        obtain ⟨hexplored, hmarked, hways⟩ := ih (h.visit ht) (by
          rw [List.length_append]
          omega)
        have hvisited {pc : Nat} (hpc : pc = t.pc ∨ Marked f pc) :=
          hmarked pc ((marked_visit_iff (p := p) ht).2 hpc)
        exact ⟨hexplored, fun pc hpc ↦ hvisited (.inr hpc), List.forall_mem_cons.2
          ⟨hvisited (.inl rfl), fun w hw ↦ hways w (List.mem_append_right _ hw)⟩⟩

/-- A way that waits in the end was waiting before, or steps led to it. -/
theorem of_mem_waiting_follow {place : Place} {fuel : Nat} {ways : List Thread} {f : Frontier}
    {w : Thread} (h : w ∈ (p.follow place fuel ways f).waiting) :
    w ∈ f.waiting ∨ p.Waits w.pc ∧
      ∃ v ∈ ways, ReflTransGen (p.Moves place.before place.after) v.pc w.pc := by
  induction fuel generalizing ways f with
  | zero => exact .inl h
  | succ fuel ih =>
    cases ways with
    | nil =>
      rw [follow_nil] at h
      exact .inl h
    | cons t rest =>
      by_cases ht : Marked f t.pc
      · rw [follow_cons_of_marked ht] at h
        exact (ih h).imp_right fun ⟨hwaits, v, hv, hmoves⟩ ↦
          ⟨hwaits, v, List.mem_cons_of_mem t hv, hmoves⟩
      · rw [follow_cons_of_not ht] at h
        rcases ih h with hw | ⟨hwaits, v, hv, hmoves⟩
        · rcases mem_waiting_visit.1 hw with ⟨rfl, hwaits⟩ | hw
          · exact .inr ⟨hwaits, w, List.mem_cons_self, .refl⟩
          · exact .inl hw
        · rcases List.mem_append.1 hv with hv | hv
          · exact .inr ⟨hwaits, t, List.mem_cons_self,
              .head (exists_branch_iff.1 ⟨v, hv, rfl⟩) hmoves⟩
          · exact .inr ⟨hwaits, v, List.mem_cons_of_mem t hv, hmoves⟩

/-- The ways that wait at a place, in order of preference, after some ways were followed. -/
def waitingAt (p : Program) (place : Place) (ways : List Thread) : List Thread :=
  (p.follow place (ways.length + 2 * p.insts.size + 1) ways
    ⟨Array.replicate p.insts.size false, []⟩).waiting.reverse

/-- At a place there waits a way at each instruction that steps lead to. -/
theorem exists_mem_waitingAt_iff {place : Place} {ways : List Thread} {P : Nat → Prop}
    (hP : ∀ {pc}, P pc → p.Waits pc) :
    (∃ w ∈ p.waitingAt place ways, P w.pc) ↔
      ∃ w ∈ ways, ∃ pc, ReflTransGen (p.Moves place.before place.after) w.pc pc ∧ P pc := by
  constructor
  · rintro ⟨w, hw, hPw⟩
    rw [waitingAt, List.mem_reverse] at hw
    rcases of_mem_waiting_follow hw with hnil | ⟨-, v, hv, hmoves⟩
    · cases hnil
    · exact ⟨v, hv, w.pc, hmoves, hPw⟩
  · rintro ⟨w, hw, pc, hmoves, hPpc⟩
    have hfuel : ways.length + 2 * unmarked ⟨Array.replicate p.insts.size false, []⟩ ≤
        ways.length + 2 * p.insts.size + 1 := by
      simp [unmarked]
    obtain ⟨hexplored, -, hways⟩ := explored_follow (Explored.blank (p := p) place ways) hfuel
    obtain ⟨v, hv, rfl⟩ := hexplored.waits (hexplored.marked (hways w hw) hmoves) (hP hPpc)
    exact ⟨v, List.mem_reverse.2 hv, hPpc⟩

theorem untilAccept_cons_of_ne {w : Thread} (h : p.insts[w.pc]? ≠ some .accept)
    (ways : List Thread) : p.untilAccept (w :: ways) =
      (w :: (p.untilAccept ways).1, (p.untilAccept ways).2) := by
  rw [untilAccept]
  split
  · next hinst => exact absurd hinst h
  · rfl

/-- Up to a match the ways are kept as they are. -/
theorem untilAccept_cases (ways : List Thread) :
    (∃ saves, (p.untilAccept ways).2 = some saves ∧ ∃ w ∈ ways, p.insts[w.pc]? = some .accept) ∨
      p.untilAccept ways = (ways, none) ∧ ∀ w ∈ ways, p.insts[w.pc]? ≠ some .accept := by
  induction ways with
  | nil => exact .inr ⟨rfl, List.forall_mem_nil _⟩
  | cons w ways ih =>
    by_cases hinst : p.insts[w.pc]? = some .accept
    · exact .inl ⟨w.saves, by rw [untilAccept, hinst], w, List.mem_cons_self, hinst⟩
    · rw [untilAccept_cons_of_ne hinst]
      rcases ih with ⟨saves, hsaves, v, hv, hvinst⟩ | ⟨heq, hnone⟩
      · exact .inl ⟨saves, hsaves, v, List.mem_cons_of_mem w hv, hvinst⟩
      · exact .inr ⟨by rw [heq], List.forall_mem_cons.2 ⟨hinst, hnone⟩⟩

/-- A way that gets past a character goes on behind it. -/
theorem exists_mem_advance_iff {c : Char} {ways : List Thread} {P : Nat → Prop} :
    (∃ w ∈ p.advance c ways, P w.pc) ↔ ∃ w ∈ ways, ∃ table next,
      p.insts[w.pc]? = some (.consume table next) ∧ table.contains c ∧ P next := by
  simp only [advance, List.mem_filterMap]
  constructor
  · rintro ⟨v, ⟨w, hw, hv⟩, hP⟩
    split at hv
    · next table next hinst =>
      split at hv
      · next hc =>
        obtain rfl := Option.some.inj hv
        exact ⟨w, hw, table, next, hinst, hc, hP⟩
      · cases hv
    · cases hv
  · rintro ⟨w, hw, table, next, hinst, hc, hP⟩
    exact ⟨{ w with pc := next }, ⟨w, hw, by simp [hinst, hc]⟩, hP⟩

theorem goesOn_cons_iff {pc : Nat} {c : Char} {t : Text} (h : p.insts[pc]? ≠ some .accept) :
    p.GoesOn pc (c :: t) ↔ ∃ table next, p.insts[pc]? = some (.consume table next) ∧
      table.contains c ∧ p.Accepts (some c) next t := by
  constructor
  · intro hgoes
    cases hgoes with
    | accept hinst => exact absurd hinst h
    | consume hinst hc hnext => exact ⟨_, _, hinst, hc, hnext⟩
  · rintro ⟨table, next, hinst, hc, hnext⟩
    exact .consume hinst hc hnext

/-- A way ends in a match if one that waits here goes on to it. -/
theorem exists_goesOn_iff {index : Nat} {before : Option Char} {ways : List Thread} {t : Text} :
    (∃ w ∈ p.waitingAt ⟨index, before, t.head?⟩ ways, p.GoesOn w.pc t) ↔
      ∃ w ∈ ways, p.Accepts before w.pc t := by
  rw [exists_mem_waitingAt_iff (P := (p.GoesOn · t)) GoesOn.waits]
  simp only [accepts_iff]

/-- One turn of the search, at one place. -/
theorem run_eq (index : Nat) (before : Option Char) (ways : List Thread)
    (best : Option (List (Nat × Nat))) (t : Text) :
    p.run index before ways best t =
      let ways := if best.isNone then ways ++ [⟨p.start, []⟩] else ways
      let reached := p.untilAccept (p.waitingAt ⟨index, before, t.head?⟩ ways)
      let best := reached.2 <|> best
      match t with
      | [] => best
      | c :: rest =>
        if reached.1.isEmpty && best.isSome then best
        else p.run (index + 1) (some c) (p.advance c reached.1) best rest := by
  cases t <;> rw [run] <;> rfl

/-- What was found is not lost, though a preferred match may take its place. -/
theorem isSome_run {index : Nat} {before : Option Char} {ways : List Thread}
    {best : Option (List (Nat × Nat))} {t : Text} (h : best.isSome) :
    (p.run index before ways best t).isSome := by
  induction t generalizing index before ways best with
  | nil =>
    rw [run_eq]
    simp [h]
  | cons c t ih =>
    obtain ⟨found, rfl⟩ := Option.isSome_iff_exists.1 h
    rw [run_eq]
    dsimp only [Option.isNone_some, Bool.false_eq_true]
    rw [if_neg Bool.false_ne_true]
    split
    · simp
    · exact ih (by simp)

/-- One of some ways, or one that starts here, ends in a match if one that waits here goes on to
it. -/
theorem exists_goesOn_start_iff (index : Nat) {before : Option Char} {ways : List Thread}
    {t : Text} : (∃ w ∈ p.waitingAt ⟨index, before, t.head?⟩ (ways ++ [⟨p.start, []⟩]),
      p.GoesOn w.pc t) ↔
        (∃ w ∈ ways, p.Accepts before w.pc t) ∨ p.Accepts before p.start t := by
  rw [exists_goesOn_iff]
  simp [or_and_right, exists_or]

/-- While nothing is found, something will be found if a way that came this far ends in a match, or
one that starts here or later. -/
theorem isSome_run_iff {index : Nat} {before : Option Char} {ways : List Thread} {t : Text} :
    (p.run index before ways none t).isSome ↔
      (∃ w ∈ ways, p.Accepts before w.pc t) ∨ p.Occurs before t := by
  induction t generalizing index before ways with
  | nil =>
    have hoccurs : p.Occurs before [] ↔ p.Accepts before p.start [] ∨ False := by
      rw [or_false]
      constructor
      · rintro ⟨h⟩
        exact h
      · exact .here
    rw [hoccurs, ← or_assoc, ← exists_goesOn_start_iff index, or_false, run_eq]
    rcases p.untilAccept_cases (p.waitingAt ⟨index, before, none⟩ (ways ++ [⟨p.start, []⟩])) with
      ⟨saves, hsaves, w, hw, hinst⟩ | ⟨heq, hnone⟩
    · exact iff_of_true (by simp [hsaves]) ⟨w, hw, .accept hinst⟩
    · refine iff_of_false (by simp [heq]) ?_
      rintro ⟨w, hw, ⟨hinst⟩⟩
      exact hnone w hw hinst
  | cons c t ih =>
    have hoccurs : p.Occurs before (c :: t) ↔
        p.Accepts before p.start (c :: t) ∨ p.Occurs (some c) t := by
      constructor
      · intro h
        cases h with
        | here h => exact .inl h
        | later h => exact .inr h
      · rintro (h | h)
        · exact .here h
        · exact .later h
    rw [hoccurs, ← or_assoc, ← exists_goesOn_start_iff index, run_eq]
    rcases p.untilAccept_cases
        (p.waitingAt ⟨index, before, some c⟩ (ways ++ [⟨p.start, []⟩])) with
      ⟨saves, hsaves, w, hw, hinst⟩ | ⟨heq, hnone⟩
    · refine iff_of_true ?_ (.inl ⟨w, hw, .accept hinst⟩)
      simp only [Option.isNone_none, if_true, List.head?_cons, hsaves]
      split
      · rfl
      · exact isSome_run rfl
    · simp only [Option.isNone_none, if_true, List.head?_cons, heq]
      rw [if_neg (by simp)]
      refine (ih ..).trans (or_congr_left ?_)
      rw [exists_mem_advance_iff (P := fun pc ↦ p.Accepts (some c) pc t)]
      exact exists_congr fun w ↦ and_congr_right fun hw ↦ (goesOn_cons_iff (hnone w hw)).symm

/-- A search finds something exactly if from some place of the text on a way ends in a match. -/
theorem isSome_search_iff {t : Text} : (p.search t).isSome ↔ p.Occurs none t := by
  rw [search, isSome_run_iff]
  simp

end Gherkin.Regex.Program
