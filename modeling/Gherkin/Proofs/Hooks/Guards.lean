import Gherkin.Proofs.Hooks.Passage

/-!
# The guards of a bracket

Whoever holds a bracket may enter it and leave it as often as they like and in any order, whatever
comes of it, and gives it up in the end. The guards that are handed out meanwhile are a stack: one
that is handed out comes on top, and only the top one is ever released. What is still held when the
bracket is given up is released then, but a guard that breaks off at that time takes those below it
along.

Main statement: guards are released newest first and never twice, and all of them are released
unless one breaks off while the bracket is given up (`guards_released_newest_first`).
-/

namespace Gherkin

variable {σ : Type}

namespace Bracket

/-- One half of a bracket, which is run for a target. -/
inductive Move where
  | enter (target : HookSubject)
  | leave (target : HookSubject)

/-- Runs a half of a bracket. -/
def move (b : Bracket σ) : Move → σ → Outcome HookFailure Unit × Bracket σ × σ
  | .enter target => b.enter target
  | .leave target => b.leave target

/-- Runs halves of a bracket one after the other, whatever comes of them. -/
def moves : List Move → Bracket σ → σ → Bracket σ × σ
  | [], b, w => (b, w)
  | m :: ms, b, w =>
    let (_, b, w) := b.move m w
    moves ms b w

/-- Runs halves of a bracket and gives it up. -/
def live (b : Bracket σ) (ms : List Move) : Call σ HookFailure Unit := fun w ↦
  let (b, w) := moves ms b w
  b.abandon w

end Bracket

/-- What becomes of a guard. -/
inductive GuardEvent (σ : Type) where
  | handedOut (g : HeldGuard σ)
  | released (g : HeldGuard σ)

namespace GuardEvent

/-- The guard that is handed out, if one is. -/
def handedOut? : GuardEvent σ → Option (HeldGuard σ)
  | handedOut g => some g
  | released _ => none

/-- The guard that is released, if one is. -/
def released? : GuardEvent σ → Option (HeldGuard σ)
  | handedOut _ => none
  | released g => some g

end GuardEvent

/-- With some guards held, newest first, these events lead to others being held: a guard that is
handed out comes on top of them, and the one that is released is on top. -/
inductive Stacked : List (HeldGuard σ) → List (GuardEvent σ) → List (HeldGuard σ) → Prop
  | nil {held : List (HeldGuard σ)} : Stacked held [] held
  | handedOut {g : HeldGuard σ} {held held' : List (HeldGuard σ)} {events : List (GuardEvent σ)} :
    Stacked (g :: held) events held' → Stacked held (.handedOut g :: events) held'
  | released {g : HeldGuard σ} {held held' : List (HeldGuard σ)} {events : List (GuardEvent σ)} :
    Stacked held events held' → Stacked (g :: held) (.released g :: events) held'

namespace Stacked

variable {held held' held'' : List (HeldGuard σ)} {events more : List (GuardEvent σ)}

theorem append (h : Stacked held events held') (h' : Stacked held' more held'') :
    Stacked held (events ++ more) held'' := by
  induction h with
  | nil => exact h'
  | handedOut _ ih => exact .handedOut (ih h')
  | released _ ih => exact .released (ih h')

/-- Guards that are handed out one after the other are held with the last of them on top. -/
theorem map_handedOut (guards held : List (HeldGuard σ)) :
    Stacked held (guards.map .handedOut) (guards.reverse ++ held) := by
  induction guards generalizing held with
  | nil => exact .nil
  | cons g guards ih =>
    rw [List.map_cons, List.reverse_cons, List.append_assoc]
    exact .handedOut (ih (g :: held))

/-- What is on top is released before what is below. -/
theorem map_released (guards held : List (HeldGuard σ)) :
    Stacked (guards ++ held) (guards.map .released) held := by
  induction guards with
  | nil => exact .nil
  | cons g guards ih => exact .released ih

/-- What was held or handed out has been released once, or it is still held. -/
theorem perm (h : Stacked held events held') :
    (held ++ events.filterMap (·.handedOut?)).Perm
      (events.filterMap (·.released?) ++ held') := by
  induction h with
  | nil => rw [List.filterMap_nil, List.filterMap_nil, List.append_nil, List.nil_append]
  | handedOut _ ih => exact List.perm_middle.trans ih
  | @released g held held' events _ ih => exact ih.cons g

end Stacked

/-- The record of a half: what was called, in time, and how each of it ended. -/
inductive Half (σ : Type) where
  | wayIn (target : HookSubject) (befores : List (Hook σ .before × Outcome Text Unit))
      (entries : List (Hook σ .around × Outcome Text (Guard σ)))
  | wayOut (target : HookSubject) (exits : List (HeldGuard σ × Outcome Text Unit))
      (afters : List (Hook σ .after × Outcome Text Unit))

def releases (exits : List (HeldGuard σ × Outcome Text Unit)) : List (GuardEvent σ) :=
  (exits.map Prod.fst).map .released

namespace Half

def move : Half σ → Bracket.Move
  | wayIn target _ _ => .enter target
  | wayOut target _ _ => .leave target

def events : Half σ → List (GuardEvent σ)
  | wayIn _ _ entries => (guardsOf entries).map .handedOut
  | wayOut _ exits _ => releases exits

/-- The payloads of what broke off in the half. -/
def breaks : Half σ → List Payload
  | wayIn _ befores entries => payloads befores ++ payloads entries
  | wayOut _ exits afters => payloads exits ++ payloads afters

/-- The half happens between two states. -/
def Happens (w w' : σ) : Half σ → Prop
  | wayIn target befores entries => ∃ w₁,
    Called (fun hook ↦ hook.callback target) w befores w₁ ∧
      Called (fun hook ↦ hook.callback target) w₁ entries w'
  | wayOut target exits afters => ∃ w₁, Called HeldGuard.exit w exits w₁ ∧
    Called (fun hook ↦ hook.callback target) w₁ afters w'

/-- The half leads through a bracket that holds some guards before and others afterwards. On the way
out, a guard that breaks off leaves those below it held and skips the after hooks. -/
inductive Through (b : Bracket σ) : List (HeldGuard σ) → Half σ → List (HeldGuard σ) → Prop
  | wayIn {target : HookSubject} {befores : List (Hook σ .before × Outcome Text Unit)}
      {entries : List (Hook σ .around × Outcome Text (Guard σ))} {held : List (HeldGuard σ)} :
    b.WentIn befores entries →
      Through b held (.wayIn target befores entries) ((guardsOf entries).reverse ++ held)
  | wayOut {target : HookSubject} {exits : List (HeldGuard σ × Outcome Text Unit)}
      {afters : List (Hook σ .after × Outcome Text Unit)} {held held' : List (HeldGuard σ)} :
    UpTo (·.payload?.isNone) held exits → exits.map Prod.fst ++ held' = held →
      (payloads exits = [] → held' = [] ∧ UpTo (·.payload?.isNone) b.afters afters) →
      (payloads exits ≠ [] → afters = []) →
      Through b held (.wayOut target exits afters) held'

/-- No half does anything else with the guards than put some on top or take some from it. -/
theorem Through.stacked {b : Bracket σ} {held held' : List (HeldGuard σ)} {half : Half σ}
    (h : half.Through b held held') : Stacked held half.events held' := by
  cases h with
  | wayIn _ => exact .map_handedOut _ _
  | wayOut _ hguards _ _ =>
    rw [← hguards]
    exact .map_released _ _

/-- Where a half leads depends on the hooks of the bracket only. -/
theorem Through.of_entered {b : Bracket σ} {entered held held' : List (HeldGuard σ)}
    {half : Half σ} (h : half.Through { b with entered := entered } held held') :
    half.Through b held held' := by
  cases h with
  | wayIn hin => exact .wayIn ⟨hin.begun, hin.entered, hin.stopped⟩
  | wayOut hup hguards hquiet hskipped => exact .wayOut hup hguards hquiet hskipped

end Half

/-- The halves happen one after the other between two states, and lead through a bracket that holds
some guards at first and others in the end. -/
inductive Bracket.Lives (b : Bracket σ) :
    List (HeldGuard σ) → σ → List (Half σ) → List (HeldGuard σ) → σ → Prop
  | nil {held : List (HeldGuard σ)} {w : σ} : Lives b held w [] held w
  | cons {held held' held'' : List (HeldGuard σ)} {w w' w'' : σ} {half : Half σ}
      {halves : List (Half σ)} : half.Happens w w' → half.Through b held held' →
    Lives b held' w' halves held'' w'' → Lives b held w (half :: halves) held'' w''

/-- What becomes of the guards of a bracket that is given up in the end. -/
def guardEvents (halves : List (Half σ)) (last : List (HeldGuard σ × Outcome Text Unit)) :
    List (GuardEvent σ) :=
  halves.flatMap Half.events ++ releases last

namespace Bracket

theorem Lives.stacked {b : Bracket σ} {held held' : List (HeldGuard σ)} {w w' : σ}
    {halves : List (Half σ)} (h : b.Lives held w halves held' w') :
    Stacked held (halves.flatMap Half.events) held' := by
  induction h with
  | nil => exact .nil
  | cons _ hthrough _ ih => exact hthrough.stacked.append ih

/-! ## Running a bracket -/

/-- Leaving a bracket releases guards until one breaks off, and runs after hooks if none does. -/
theorem leave_called (b : Bracket σ) (target : HookSubject) (w : σ) :
    ∃ exits held afters outcome w₁ w₂,
      b.leave target w = (outcome, { b with entered := held }, w₂) ∧
      Called HeldGuard.exit w exits w₁ ∧
      Called (fun hook ↦ hook.callback target) w₁ afters w₂ ∧
      UpTo (·.payload?.isNone) b.entered exits ∧ exits.map Prod.fst ++ held = b.entered ∧
      (payloads exits = [] → held = [] ∧ UpTo (·.payload?.isNone) b.afters afters) ∧
      (payloads exits ≠ [] → afters = []) := by
  obtain ⟨exits, held, result, w₁, heq, hexits, hup, hguards, hpayloads, hheld⟩ :=
    releaseGuards_called b.scope b.entered none w
  rw [leave, heq]
  cases result with
  | ok first =>
    obtain ⟨afters, hafters, hafters', -⟩ := runAfters_called b.scope target b.afters first w₁
    have hnone : payloads exits = [] := by
      rw [hpayloads]
      cases first <;> rfl
    exact ⟨exits, held, afters, _, w₁, _, rfl, hexits, hafters, hup, hguards,
      fun h ↦ ⟨hheld h, hafters'⟩, fun h ↦ absurd hnone h⟩
  | error p =>
    refine ⟨exits, held, [], _, w₁, w₁, rfl, hexits, .nil, hup, hguards, fun h ↦ ?_, fun _ ↦ rfl⟩
    rw [hpayloads] at h
    cases h

/-- A half is run as some record says, and it changes nothing about a bracket but the guards that
are held. -/
theorem exists_half (b : Bracket σ) (m : Move) (w : σ) :
    ∃ (half : Half σ) (held : List (HeldGuard σ)) (outcome : Outcome HookFailure Unit) (w' : σ),
      b.move m w = (outcome, { b with entered := held }, w') ∧ half.move = m ∧
      half.Happens w w' ∧ half.Through b b.entered held := by
  cases m with
  | enter target =>
    obtain ⟨befores, entries, outcome, w₁, w₂, heq, hbefores, hentries, hin, -⟩ :=
      b.enter_called target w
    exact ⟨.wayIn target befores entries, _, outcome, w₂, heq, rfl, ⟨w₁, hbefores, hentries⟩,
      .wayIn hin⟩
  | leave target =>
    obtain ⟨exits, held, afters, outcome, w₁, w₂, heq, hexits, hafters, hup, hguards, hquiet,
      hskipped⟩ := b.leave_called target w
    exact ⟨.wayOut target exits afters, held, outcome, w₂, heq, rfl, ⟨w₁, hexits, hafters⟩,
      .wayOut hup hguards hquiet hskipped⟩

/-- Halves are run as some records say. -/
theorem exists_lives (b : Bracket σ) (ms : List Move) (held : List (HeldGuard σ)) (w : σ) :
    ∃ (halves : List (Half σ)) (held' : List (HeldGuard σ)) (w' : σ),
      moves ms { b with entered := held } w = ({ b with entered := held' }, w') ∧
      halves.map Half.move = ms ∧ b.Lives held w halves held' w' := by
  induction ms generalizing held w with
  | nil => exact ⟨[], held, w, rfl, rfl, .nil⟩
  | cons m ms ih =>
    obtain ⟨half, held₁, outcome, w₁, hmove, rfl, hhappens, hthrough⟩ :=
      exists_half { b with entered := held } m w
    obtain ⟨halves, held', w', hmoves, rfl, hlives⟩ := ih held₁ w₁
    refine ⟨half :: halves, held', w', ?_, rfl, .cons hhappens hthrough.of_entered hlives⟩
    rw [moves, hmove]
    exact hmoves

/-- Giving a bracket up releases guards until one breaks off, which takes those below it along. -/
theorem abandon_upTo (b : Bracket σ) (w : σ) :
    ∃ last lost, Called HeldGuard.exit w last (b.abandon w).2 ∧
      UpTo (·.payload?.isNone) b.entered last ∧ last.map Prod.fst ++ lost = b.entered ∧
      (payloads last = [] → lost = []) := by
  obtain ⟨last, lost, result, w', heq, hlast, hup, hguards, -, hlost⟩ :=
    releaseGuards_called b.scope b.entered none w
  refine ⟨last, lost, ?_, hup, hguards, hlost⟩
  rw [abandon, heq]
  cases result <;> exact hlast

end Bracket

/-- Whatever is done with a bracket before it is given up, and whatever comes of it, the guards that
are handed out are released newest first. Each of them is released once, but for those that were
below one that broke off while the bracket was given up: these are lost. -/
theorem guards_released_newest_first (b : Bracket σ) (ms : List Bracket.Move) (w : σ) :
    ∃ (halves : List (Half σ)) (held : List (HeldGuard σ)) (w₁ : σ)
      (last : List (HeldGuard σ × Outcome Text Unit)) (lost : List (HeldGuard σ)),
      halves.map Half.move = ms ∧ b.Lives b.entered w halves held w₁ ∧
      Called HeldGuard.exit w₁ last (b.live ms w).2 ∧ UpTo (·.payload?.isNone) held last ∧
      last.map Prod.fst ++ lost = held ∧ (payloads last = [] → lost = []) ∧
      Stacked b.entered (guardEvents halves last) lost ∧
      (b.entered ++ (guardEvents halves last).filterMap (·.handedOut?)).Perm
        ((guardEvents halves last).filterMap (·.released?) ++ lost) := by
  obtain ⟨halves, held, w₁, hmoves, hms, hlives⟩ := b.exists_lives ms b.entered w
  obtain ⟨last, lost, hlast, hup, hheld, hlost⟩ :=
    Bracket.abandon_upTo { b with entered := held } w₁
  have hreleases : Stacked held (releases last) lost := by
    have hmap := Stacked.map_released (last.map Prod.fst) lost
    rwa [hheld] at hmap
  have hstacked : Stacked b.entered (guardEvents halves last) lost :=
    hlives.stacked.append hreleases
  refine ⟨halves, held, w₁, last, lost, hms, hlives, ?_, hup, hheld, hlost, hstacked,
    hstacked.perm⟩
  rw [Bracket.live, hmoves]
  exact hlast

/-- A hook whose guard notes in the state that it is released. -/
def Hook.noting : Hook (List Text) .around :=
  ⟨"note".toList, 1, 0, .user, 1, fun _ w ↦ (.ok fun w ↦ (.ok (), "noted".toList :: w), w)⟩

def Hook.snapping : Hook (List Text) .around :=
  ⟨"snap".toList, 2, 0, .user, 2, fun _ w ↦ (.ok fun w ↦ (.panic (.text "boom".toList), w), w)⟩

/-- A bracket whose newest guard breaks off. -/
def Bracket.snapping : Bracket (List Text) :=
  { scope := .all, befores := [], arounds := [.noting, .snapping], afters := [] }

/-- The guards of that bracket, newest first. -/
def HeldGuard.snapping : List (HeldGuard (List Text)) :=
  [⟨"snap".toList, fun w ↦ (.panic (.text "boom".toList), w)⟩,
    ⟨"note".toList, fun w ↦ (.ok (), "noted".toList :: w)⟩]

/-- There is one way into the bracket, on which both guards are handed out and nothing breaks
off. -/
theorem Bracket.Lives.eq_of_snapping {halves : List (Half (List Text))}
    {held : List (HeldGuard (List Text))} {w : List Text}
    (h : Bracket.snapping.Lives [] [] halves held w)
    (hmove : halves.map Half.move = [.enter .all]) :
    held = HeldGuard.snapping ∧ w = [] ∧ halves.flatMap Half.breaks = [] ∧
      halves.flatMap Half.events = HeldGuard.snapping.reverse.map .handedOut := by
  obtain ⟨half, rfl, hhalf⟩ := List.map_eq_singleton_iff.1 hmove
  cases h with
  | cons hhappens hthrough hrest =>
    cases hrest
    cases half with
    | wayOut => cases hhalf
    | wayIn target befores entries =>
      cases hhalf
      cases hthrough with
      | wayIn hin =>
        obtain ⟨w₁, hbefores, hentries⟩ := hhappens
        obtain ⟨rfl, rfl⟩ := UpTo.unique .nil .nil hin.begun hbefores
        have hentered : UpTo Outcome.isOk [.noting, .snapping] entries :=
          hin.entered fun p hp ↦ absurd hp List.not_mem_nil
        have hcalled : Called (fun hook : Hook (List Text) .around ↦ hook.callback .all) []
            [(.noting, .ok _), (.snapping, .ok _)] [] := .cons rfl (.cons rfl .nil)
        obtain ⟨rfl, rfl⟩ := UpTo.unique (.cons rfl (.cons rfl .nil)) hcalled hentered hentries
        exact ⟨rfl, rfl, rfl, rfl⟩

/-- A guard that breaks off while the bracket is given up keeps the one below it from being
released, although nothing else breaks off. -/
theorem not_guards_all_released :
    ¬∀ (b : Bracket (List Text)) (ms : List Bracket.Move) (w : List Text), b.entered = [] →
      ∃ (halves : List (Half (List Text))) (held : List (HeldGuard (List Text))) (w₁ : List Text)
        (last : List (HeldGuard (List Text) × Outcome Text Unit)),
        halves.map Half.move = ms ∧ b.Lives [] w halves held w₁ ∧
        Called HeldGuard.exit w₁ last (b.live ms w).2 ∧ last.map Prod.fst <+: held ∧
        ((halves.flatMap Half.breaks ++ payloads last).length ≤ 1 →
          Stacked [] (guardEvents halves last) []) := by
  intro h
  obtain ⟨halves, held, w₁, last, hmoves, hlives, hlast, hfront, hstacked⟩ :=
    h .snapping [.enter .all] [] rfl
  have hfinal : (Bracket.snapping.live [.enter .all] []).2 = [] := rfl
  obtain ⟨rfl, rfl, hbreaks, hevents⟩ := hlives.eq_of_snapping hmoves
  rw [hfinal] at hlast
  rw [hbreaks, guardEvents, hevents] at hstacked
  match last with
  | [] =>
    cases hstacked (Nat.zero_le 1) with
    | handedOut h => cases h with | handedOut h => cases h
  | [(g, outcome)] =>
    cases hstacked (List.length_filterMap_le _ _) with
    | handedOut h =>
      cases h with
      | handedOut h => cases h with | released h => cases h
  | (g, outcome) :: (g', outcome') :: more =>
    obtain ⟨hg, htail⟩ := List.cons_prefix_cons.1 hfront
    obtain ⟨hg', hmore⟩ := List.cons_prefix_cons.1 htail
    obtain rfl : g = _ := hg
    obtain rfl : g' = _ := hg'
    obtain rfl : more = [] := List.map_eq_nil_iff.1 (List.prefix_nil.1 hmore)
    cases hlast with
    | cons hcall hlast =>
      cases hcall
      cases hlast with
      | cons hcall hlast =>
        cases hcall
        cases hlast

end Gherkin
