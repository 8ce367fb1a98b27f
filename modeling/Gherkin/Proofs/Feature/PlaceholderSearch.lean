import Gherkin.Feature.PlaceholderPattern
import Gherkin.Proofs.Feature.Substitution
import Gherkin.Proofs.Regex.CharSet

/-!
# The search for a placeholder

The program of the placeholder pattern follows at most three ways at a time: one inside a name, one
behind an opening bracket, and one that has not begun. A second bracket inside a name opens no way
of its own that could get ahead, so what the program finds is the leftmost place at which a
placeholder can be read, and the name up to the next closing bracket.

Main statement: a search finds exactly what reading a placeholder at each place in turn finds
(`run_eq`).
-/

namespace Gherkin.Placeholder

open Regex (CharSet Program Thread Place)
open Text (isSpace)
open Unicode (RangeTable)

/-- The leftmost placeholder of a text: what stands before it, its name, and what follows it. -/
def first? : Text → Option (Text × Text × Text)
  | [] => none
  | c :: rest =>
    match if c = '<' then placeholder? rest else none with
    | some (name, after) => some ([], name, after)
    | none => (first? rest).map (Prod.map (c :: ·) id)

theorem first?_cons_of_none {c : Char} {t : Text} (h : c = '<' → placeholder? t = none) :
    first? (c :: t) = (first? t).map (Prod.map (c :: ·) id) := by
  by_cases hc : c = '<'
  · rw [first?, if_pos hc, h hc]
  · rw [first?, if_neg hc]

theorem first?_cons_of_some {t name after : Text} (h : placeholder? t = some (name, after)) :
    first? ('<' :: t) = some ([], name, after) := by
  rw [first?, if_pos rfl, h]

theorem placeholder?_eq_none {t : Text} (h : '>' ∉ t) : placeholder? t = none := by
  rw [Option.eq_none_iff_forall_ne_some]
  rintro ⟨name, after⟩ hname
  exact h (by simp [placeholder?_eq_some hname])

/-- A text without closing brackets has no placeholder. -/
theorem first?_eq_none {t : Text} (h : '>' ∉ t) : first? t = none := by
  induction t with
  | nil => rfl
  | cons c t ih =>
    obtain ⟨-, ht⟩ := List.ne_and_not_mem_of_not_mem_cons h
    rw [first?_cons_of_none fun _ ↦ placeholder?_eq_none ht, ih ht, Option.map_none]

theorem contains_single (c d : Char) : (RangeTable.single c).contains d = decide (d = c) := by
  rw [Bool.eq_iff_iff, decide_eq_true_eq, ← CharSet.holds_single]
  exact RangeTable.contains_iff (CharSet.ascending_single c) d

theorem contains_inName (c : Char) :
    RangeTable.contains ⟨inName.ranges.toArray⟩ c = decide (c ≠ '>') := by
  have hclosing := CharSet.ascending_single '>'
  have hcompl := CharSet.ascending_compl hclosing
  rw [Bool.eq_iff_iff, inName, RangeTable.contains_iff hcompl, CharSet.holds_compl hclosing,
    CharSet.holds_single, decide_eq_true_eq]

theorem contains_beginsName (c : Char) :
    RangeTable.contains ⟨beginsName.ranges.toArray⟩ c = (decide (c ≠ '>') && !isSpace c) := by
  have hclosing := CharSet.ascending_single '>'
  have hunion := CharSet.ascending_union CharSet.ascending_spaces hclosing
  have hcompl := CharSet.ascending_compl hunion
  rw [Bool.eq_iff_iff, beginsName, RangeTable.contains_iff hcompl, CharSet.holds_compl hunion,
    CharSet.holds_union CharSet.ascending_spaces hclosing, CharSet.holds_spaces,
    CharSet.holds_single]
  simp [and_comm]

/-! ## Ways through the program -/

/-- The program of the pattern with its two sets left open. -/
def layout (begins within : RangeTable) : Program :=
  ⟨#[.accept, .save 1 0, .consume (.single '>') 1, .save 3 2, .fork 5 3, .consume within 4,
    .consume begins 4, .save 2 6, .consume (.single '<') 7, .save 0 8], 9⟩

theorem program_eq_layout :
    program = layout ⟨beginsName.ranges.toArray⟩ ⟨inName.ranges.toArray⟩ :=
  rfl

/-- The places that a way remembers. -/
abbrev Saves := List (Nat × Nat)

/-- The ways that are inside a name, and maybe one that has just got past an opening bracket. -/
def ways (inside : List Saves) (opened : Option Saves) : List Thread :=
  inside.map (Thread.mk 4) ++ (opened.map (Thread.mk 7)).toList

/-- The ways that wait for a character: inside a name or at its end, at the beginning of a name, and
before a placeholder. -/
def waiting (index : Nat) (inside opened : Option Saves) : List Thread :=
  (inside.elim [] fun saves ↦ [Thread.mk 5 saves, Thread.mk 2 ((3, index) :: saves)]) ++
    ((opened.map fun saves ↦ Thread.mk 6 ((2, index) :: saves)).toList ++
      [Thread.mk 8 [(0, index)]])

section Layout

variable {begins within : RangeTable}

/-- Of two ways inside a name, only the preferred one is followed. -/
theorem follow_ways (place : Place) {inside : List Saves} (hinside : inside.length ≤ 2)
    (opened : Option Saves) :
    let p := layout begins within
    let all := ways inside opened ++ [Thread.mk p.start []]
    (p.follow place (all.length + 2 * p.insts.size + 1) all
      ⟨Array.replicate p.insts.size false, []⟩).waiting.reverse =
      waiting place.index inside.head? opened := by
  match inside, opened with
  | [], none | [_], none | [_, _], none | [], some _ | [_], some _ | [_, _], some _ =>
    simp [Program.follow, layout, ways, waiting]
  | _ :: _ :: _ :: _, _ => simp at hinside

theorem untilAccept_waiting (index : Nat) (inside opened : Option Saves) :
    (layout begins within).untilAccept (waiting index inside opened) =
      (waiting index inside opened, none) := by
  cases inside <;> cases opened <;> rfl

/-- Where a closing bracket comes, only the way at the end of a name gets past it. -/
theorem advance_closing (hbegins : begins.contains '>' = false)
    (hwithin : within.contains '>' = false) (index : Nat) (inside opened : Option Saves) :
    (layout begins within).advance '>' (waiting index inside opened) =
      (inside.map fun saves ↦ Thread.mk 1 ((3, index) :: saves)).toList := by
  cases inside <;> cases opened <;>
    simp [Program.advance, waiting, layout, hbegins, hwithin, contains_single]

theorem advance_waiting {c : Char} (hc : c ≠ '>') (hbegins : begins.contains c = !isSpace c)
    (hwithin : within.contains c) (index : Nat) (inside opened : Option Saves) :
    (layout begins within).advance c (waiting index inside opened) =
      ways (inside.toList ++
          (if isSpace c then none else opened.map fun saves ↦ (2, index) :: saves).toList)
        (if c = '<' then some [(0, index)] else none) := by
  have hspace : isSpace '<' = false := by decide
  by_cases hopen : c = '<'
  · subst hopen
    cases inside <;> cases opened <;>
      simp [Program.advance, waiting, ways, layout, hbegins, hwithin, contains_single, hspace]
  · by_cases hblank : isSpace c <;> cases inside <;> cases opened <;>
      simp [Program.advance, waiting, ways, layout, hbegins, hwithin, contains_single, hc, hblank,
        hopen]

/-- What the search finds from a place on, where one way may be inside a name and one may have just
got past an opening bracket. -/
def scan (index : Nat) (inside opened : Option Saves) : Text → Option Saves
  | [] => none
  | c :: rest =>
    if c = '>' then
      inside.elim (scan (index + 1) none none rest) fun saves ↦
        some ((1, index + 1) :: (3, index) :: saves)
    else
      scan (index + 1)
        (inside.or (if isSpace c then none else opened.map fun saves ↦ (2, index) :: saves))
        (if c = '<' then some [(0, index)] else none) rest

/-- The two sets hold the characters that may begin a name and those that may go on in it. -/
structure Fits (begins within : RangeTable) : Prop where
  begins (c : Char) : begins.contains c = (decide (c ≠ '>') && !isSpace c)
  within (c : Char) : within.contains c = decide (c ≠ '>')

/-- None of the ways accepts, and each character takes them to the ways behind it. -/
theorem run_ways_eq (index : Nat) (before : Option Char) {inside : List Saves}
    (hinside : inside.length ≤ 2) (opened : Option Saves) (t : Text) :
    (layout begins within).run index before (ways inside opened) none t =
      match t with
      | [] => none
      | c :: rest => (layout begins within).run (index + 1) (some c)
          ((layout begins within).advance c (waiting index inside.head? opened)) none rest := by
  have hfollow := @follow_ways begins within ⟨index, before, t.head?⟩ inside hinside opened
  have haccept := @untilAccept_waiting begins within index inside.head? opened
  rw [Program.run]
  simp only [Option.isNone_none, if_true, hfollow, haccept]
  cases t with
  | nil => rfl
  | cons c rest => simp

/-- Behind the closing bracket of a placeholder the search is over. -/
theorem run_closed (index : Nat) (before : Option Char) (saves : Saves) (t : Text) :
    (layout begins within).run index before [Thread.mk 1 saves] none t =
      some ((1, index) :: saves) := by
  cases t <;> simp [Program.run, Program.follow, Program.untilAccept, layout]

/-- The program goes from character to character as the scan does. -/
theorem run_ways (hfits : Fits begins within) (t : Text) (index : Nat) (before : Option Char)
    {inside : List Saves} (hinside : inside.length ≤ 2) (opened : Option Saves) :
    (layout begins within).run index before (ways inside opened) none t =
      scan index inside.head? opened t := by
  induction t generalizing index before inside opened with
  | nil => rw [run_ways_eq index before hinside, scan]
  | cons c t ih =>
    rw [run_ways_eq index before hinside, scan]
    dsimp only
    by_cases hc : c = '>'
    · subst hc
      rw [if_pos rfl, advance_closing (hfits.begins '>') (hfits.within '>')]
      cases inside.head? with
      | none => exact @ih (index + 1) _ [] (by simp) none
      | some saves => exact run_closed (index + 1) _ _ t
    · have hbegins : begins.contains c = !isSpace c := by simp [hfits.begins, hc]
      have hwithin : within.contains c = true := by simp [hfits.within, hc]
      rw [if_neg hc, advance_waiting hc hbegins hwithin, ih]
      · rw [List.head?_append, Option.head?_toList, Option.head?_toList]
      · cases inside.head? <;> split <;> cases opened <;> simp

end Layout

/-- The places that the match of a placeholder remembers. -/
def savesAt (start : Nat) (name : Text) : Saves :=
  [(1, start + name.length + 2), (3, start + name.length + 1), (2, start + 1), (0, start)]

/-- Inside a name, the next closing bracket ends the placeholder. -/
theorem scan_inside {name : Text} (hname : '>' ∉ name) (index : Nat) (saves : Saves)
    (opened : Option Saves) (after : Text) :
    scan index (some saves) opened (name ++ '>' :: after) =
      some ((1, index + name.length + 1) :: (3, index + name.length) :: saves) := by
  induction name generalizing index opened with
  | nil => simp [scan]
  | cons c name ih =>
    obtain ⟨hc, hname⟩ := List.ne_and_not_mem_of_not_mem_cons hname
    rw [List.cons_append, scan, if_neg hc.symm, Option.some_or, ih hname, List.length_cons,
      Nat.add_right_comm index 1, ← Nat.add_assoc]

theorem scan_eq_none {t : Text} (ht : '>' ∉ t) (index : Nat) (inside opened : Option Saves) :
    scan index inside opened t = none := by
  induction t generalizing index inside opened with
  | nil => rfl
  | cons c t ih =>
    obtain ⟨hc, ht⟩ := List.ne_and_not_mem_of_not_mem_cons ht
    rw [scan, if_neg hc.symm, ih ht]

/-- Behind a bracket where no name can begin, the bracket is passed over. -/
theorem scan_opened_of_not_begun {c : Char} (hc : c = '>' ∨ isSpace c) (index : Nat) (t : Text)
    (opened : Option Saves) :
    scan index none opened (c :: t) = scan index none none (c :: t) := by
  rcases hc with rfl | hc <;> simp [scan, *]

/-- Behind a bracket where a name begins, the search reads the name if it is closed, and finds nothing
at all if not. -/
theorem scan_opened_of_begun {c : Char} (hc : ¬(c = '>' ∨ isSpace c)) (index : Nat) (t : Text) :
    scan (index + 1) none (some [(0, index)]) (c :: t) =
      (placeholder? (c :: t)).map fun found ↦ savesAt index found.1 := by
  obtain ⟨hclosing, hspace⟩ := not_or.1 hc
  rw [scan, if_neg hclosing, if_neg hspace, Option.map_some, Option.none_or]
  by_cases hclosed : '>' ∈ t
  · obtain ⟨name, after, rfl, hname⟩ := List.eq_append_cons_of_mem hclosed
    have hread : placeholder? (c :: (name ++ '>' :: after)) = some (c :: name, after) :=
      placeholder?_eq_some_iff.2
        ⟨rfl, by simp [Ne.symm hclosing, hname], by simp, by simpa using hspace⟩
    have hstop : index + 1 + 1 + name.length = index + (name.length + 1) + 1 := by omega
    rw [scan_inside hname, hread, hstop]
    rfl
  · have hnone : '>' ∉ c :: t := by simp [Ne.symm hclosing, hclosed]
    rw [scan_eq_none hclosed, placeholder?_eq_none hnone, Option.map_none]

/-- What the search remembers of a placeholder that it found from a place on. -/
def foundAt (index : Nat) (found : Text × Text × Text) : Saves :=
  savesAt (index + found.1.length) found.2.1

theorem foundAt_cons (index : Nat) (c : Char) (found : Option (Text × Text × Text)) :
    (found.map (Prod.map (c :: ·) id)).map (foundAt index) = found.map (foundAt (index + 1)) := by
  rw [Option.map_map]
  congr 1
  funext ⟨before, name, after⟩
  simp only [Function.comp_apply, foundAt, Prod.map_fst, Prod.map_snd, id_eq, List.length_cons,
    Nat.add_right_comm index 1, Nat.add_assoc]

/-- Where no name that begins here is closed, no name that begins later is closed either. -/
theorem first?_eq_none_of_begun {c : Char} (hc : ¬(c = '>' ∨ isSpace c)) {t : Text}
    (hread : placeholder? (c :: t) = none) : first? (c :: t) = none := by
  obtain ⟨hclosing, hspace⟩ := not_or.1 hc
  apply first?_eq_none
  intro hmem
  obtain ⟨name, after, heq, hname⟩ := List.eq_append_cons_of_mem hmem
  cases name with
  | nil => exact hclosing (List.cons.inj heq).1
  | cons d name =>
    obtain ⟨rfl, -⟩ := List.cons.inj heq
    rw [placeholder?_eq_some_iff.2 ⟨heq, hname, by simp, by simpa using hspace⟩] at hread
    cases hread

/-- Outside of names, the search finds the leftmost placeholder; right behind an opening bracket, it
finds the one that begins with this bracket before all others. -/
theorem scan_outside (t : Text) :
    (∀ index, scan index none none t = (first? t).map (foundAt index)) ∧
    ∀ index, scan (index + 1) none (some [(0, index)]) t =
      ((placeholder? t).map fun found ↦ savesAt index found.1).or
        ((first? t).map (foundAt (index + 1))) := by
  induction t with
  | nil => exact ⟨fun index ↦ rfl, fun index ↦ rfl⟩
  | cons c t ih =>
    obtain ⟨houtside, hopened⟩ := ih
    have hfirst (index : Nat) : scan index none none (c :: t) =
        (first? (c :: t)).map (foundAt index) := by
      by_cases hc : c = '<'
      · subst hc
        have hstep : scan index none none ('<' :: t) =
            scan (index + 1) none (some [(0, index)]) t := by
          simp [scan]
        rw [hstep, hopened]
        cases hread : placeholder? t with
        | none =>
          rw [first?_cons_of_none fun _ ↦ hread, foundAt_cons]
          rfl
        | some found =>
          rw [first?_cons_of_some hread]
          rfl
      · have hstep : scan index none none (c :: t) = scan (index + 1) none none t := by
          simp [scan, hc]
        rw [hstep, houtside, first?_cons_of_none fun h ↦ absurd h hc, foundAt_cons]
    refine ⟨hfirst, fun index ↦ ?_⟩
    by_cases hc : c = '>' ∨ isSpace c
    · rw [scan_opened_of_not_begun hc, hfirst, placeholder?, if_pos (by simpa using hc),
        Option.map_none, Option.none_or]
    · rw [scan_opened_of_begun hc]
      cases hread : placeholder? (c :: t) with
      | none =>
        rw [first?_eq_none_of_begun hc hread]
        rfl
      | some found => rfl

/-- A search finds the leftmost placeholder of what is left of the text. -/
theorem run_eq (index : Nat) (before : Option Char) (t : Text) :
    program.run index before [] none t = (first? t).map (foundAt index) := by
  have hfits : Fits ⟨beginsName.ranges.toArray⟩ ⟨inName.ranges.toArray⟩ :=
    ⟨contains_beginsName, contains_inName⟩
  rw [program_eq_layout, ← (scan_outside t).1 index]
  exact @run_ways _ _ hfits t index before [] (Nat.zero_le 2) none

end Gherkin.Placeholder
