import Gherkin.Proofs.Regex.CharSet
import Gherkin.Proofs.Regex.Search
import Gherkin.Proofs.Unicode.CaseMap
import Gherkin.Steps.Pattern

/-!
# Patterns without special signs

A pattern in which no character means anything but itself is looked for as it is written, only that
letter case does not count. Its expression is a row of sets, one for each character, and its program
is a chain of instructions that get past one character each.

Main statements: such a pattern is refused only if it is too large (`Expr.ofPattern_of_plain`), and
it matches a text exactly if the text spells it somewhere (`isSome_match?_iff_of_plain`).
-/

namespace Gherkin.Regex

open Unicode (RangeTable foldingOthers)

/-- The characters are one letter where case does not count. -/
def SameLetter (c d : Char) : Prop := d = c ∨ d.toNat ∈ foldingOthers c.toNat

theorem sameLetter_iff_of_isSpace {c d : Char} (h : Text.isSpace c) : SameLetter c d ↔ d = c := by
  rw [SameLetter, Unicode.foldingOthers_of_isSpace h, or_iff_left List.not_mem_nil]

namespace CharSet

open Unicode (Ascending Holds ProperRange)

theorem properRange_of_isValidChar {n : Nat} (h : n.isValidChar) : ProperRange (n, n) :=
  ⟨le_rfl, h, h⟩

/-- The set of a character where case does not count. -/
theorem foldCase_single (c : Char) : Ascending (single c).foldCase.ranges ∧
    ∀ d : Char, Holds (single c).foldCase.ranges d.toNat ↔ SameLetter c d := by
  have hfold : (single c).foldCase =
      ofRanges ((c.toNat, c.toNat) :: (foldingOthers c.toNat).map fun n ↦ (n, n)) :=
    if_pos rfl
  have hproper : ∀ r ∈ (c.toNat, c.toNat) :: (foldingOthers c.toNat).map fun n ↦ (n, n),
      ProperRange r := by
    refine List.forall_mem_cons.2 ⟨properRange_of_isValidChar c.valid, ?_⟩
    exact List.forall_mem_map.2 fun n hn ↦
      properRange_of_isValidChar (Unicode.isValidChar_of_mem_foldingOthers hn)
  refine ⟨hfold ▸ ascending_ofRanges hproper, fun d ↦ ?_⟩
  have hpoint {n m : Nat} : n ≤ m ∧ m ≤ n ↔ m = n := by omega
  rw [hfold]
  refine (holds_ofRanges hproper (n := d.toNat) d.valid).trans ?_
  rw [Unicode.holds_cons, hpoint, Char.toNat_inj, SameLetter]
  simp [Holds, hpoint]

end CharSet

/-! ## Expressions -/

/-- An expression that gets past one character after the other, each of a table of its own. -/
inductive Spells : Expr → List RangeTable → Prop
  | empty : Spells .empty []
  | literal (t : Text) : Spells (.literal t) (t.map .single)
  | set (s : CharSet) (ascii : Bool) : Spells (.set s ascii) [⟨s.ranges.toArray⟩]
  | append {e₁ e₂ : Expr} {ts₁ ts₂ : List RangeTable} :
    Spells e₁ ts₁ → Spells e₂ ts₂ → Spells (.append e₁ e₂) (ts₁ ++ ts₂)

/-- The expressions of a row get past their characters one after the other. -/
inductive SpellsRow : List Expr → List RangeTable → Prop
  | nil : SpellsRow [] []
  | cons {e : Expr} {es : List Expr} {ts₁ ts₂ : List RangeTable} :
    Spells e ts₁ → SpellsRow es ts₂ → SpellsRow (e :: es) (ts₁ ++ ts₂)

theorem spellsRow_singleton {e : Expr} {ts : List RangeTable} (h : Spells e ts) :
    SpellsRow [e] ts := by
  rw [← List.append_nil ts]
  exact .cons h .nil

theorem SpellsRow.append {es₁ es₂ : List Expr} {ts₁ ts₂ : List RangeTable}
    (h₁ : SpellsRow es₁ ts₁) (h₂ : SpellsRow es₂ ts₂) : SpellsRow (es₁ ++ es₂) (ts₁ ++ ts₂) := by
  induction h₁ with
  | nil => exact h₂
  | cons h _ ih =>
    rw [List.append_assoc]
    exact .cons h ih

theorem Spells.factors {e : Expr} {ts : List RangeTable} (h : Spells e ts) :
    SpellsRow e.factors ts := by
  induction h with
  | empty => exact .nil
  | literal t => exact spellsRow_singleton (.literal t)
  | set s ascii => exact spellsRow_singleton (.set s ascii)
  | append h₁ _ _ ih => exact .cons h₁ ih

theorem SpellsRow.flatMap_factors {es : List Expr} {ts : List RangeTable} (h : SpellsRow es ts) :
    SpellsRow (es.flatMap Expr.factors) ts := by
  induction h with
  | nil => exact .nil
  | cons h _ ih => exact h.factors.append ih

/-- Neighbouring literals may be made one. -/
theorem SpellsRow.joinLiterals {es : List Expr} {ts : List RangeTable} (h : SpellsRow es ts) :
    SpellsRow (Expr.joinLiterals es) ts := by
  induction h with
  | nil => exact .nil
  | @cons e es ts₁ ts₂ h _ ih =>
    rw [Expr.joinLiterals, List.foldr_cons, ← Expr.joinLiterals]
    split
    · next a b rest hrest =>
      rw [hrest] at ih
      cases h with
      | literal =>
        cases ih with
        | cons hb hrest =>
          cases hb with
          | literal =>
            rw [← List.append_assoc, ← List.map_append]
            exact .cons (.literal _) hrest
    · exact .cons h ih

theorem SpellsRow.ofFactors {es : List Expr} {ts : List RangeTable} (h : SpellsRow es ts) :
    Spells (Expr.ofFactors es) ts := by
  induction h with
  | nil => exact .empty
  | @cons e es ts₁ ts₂ h hes ih =>
    cases hes with
    | nil =>
      rw [List.append_nil]
      exact h
    | cons _ _ => exact .append h ih

theorem SpellsRow.concat {es : List Expr} {ts : List RangeTable} (h : SpellsRow es ts) :
    Spells (Expr.concat es) ts :=
  h.flatMap_factors.joinLiterals.ofFactors

theorem Spells.alternation {e : Expr} {ts : List RangeTable} (h : Spells e ts) :
    Expr.alternation [e] = e := by
  have hbranches : [e].flatMap Expr.branches = [e] := by
    cases h <;> rfl
  rw [Expr.alternation]
  cases [e].foldl (fun n e ↦ n + e.size) 0 <;>
    rw [Expr.alternationWithin.eq_def, hbranches]

/-- A character is spelled by a table of the letters that count as one with it. -/
theorem exists_spells_letterExpr (c : Char) :
    ∃ table, Spells (letterExpr {} c) [table] ∧ ∀ d, table.contains d ↔ SameLetter c d := by
  obtain ⟨hascending, hholds⟩ := CharSet.foldCase_single c
  have hexpr : letterExpr {} c = .ofSet (CharSet.single c).foldCase false := rfl
  rw [hexpr, Expr.ofSet]
  split
  · next hranges =>
    have hself := (hholds c).2 (.inl rfl)
    rw [hranges] at hself
    exact absurd hself (Unicode.not_holds_nil _)
  · next a b hranges =>
    have hvalid := (hascending.proper (a, b) (by rw [hranges]; exact List.mem_cons_self)).fst
    split
    · next hab =>
      subst hab
      refine ⟨.single (Char.ofNat a), .literal [Char.ofNat a], fun d ↦ ?_⟩
      refine (RangeTable.contains_iff (CharSet.ascending_single _) d).trans ?_
      rw [← hholds, hranges, CharSet.single, Unicode.toNat_ofNat hvalid]
    · exact ⟨_, .set _ false, fun d ↦ (RangeTable.contains_iff hascending d).trans (hholds d)⟩
  · exact ⟨_, .set _ false, fun d ↦ (RangeTable.contains_iff hascending d).trans (hholds d)⟩

/-- A character without case is spelled by itself. -/
theorem letterExpr_of_foldingOthers {c : Char} (h : foldingOthers c.toNat = []) :
    letterExpr {} c = .literal [c] := by
  have hfold : (CharSet.single c).foldCase = CharSet.single c := by
    rw [CharSet.foldCase, CharSet.single]
    simp only [if_true, h, List.map_nil]
    rw [CharSet.ofRanges, List.mergeSort_singleton, CharSet.melt]
  have hexpr : letterExpr {} c = .ofSet (CharSet.single c).foldCase false := rfl
  rw [hexpr, hfold, Expr.ofSet, CharSet.single]
  simp only [if_true, Char.ofNat_toNat]

/-- A text is spelled by a table for each of its characters. -/
theorem exists_spellsRow_letters (s : Text) : ∃ tables, SpellsRow (s.map (letterExpr {})) tables ∧
    ∀ t : Text, List.Forall₂ (fun table d ↦ table.contains d) tables t ↔
      List.Forall₂ SameLetter s t := by
  induction s with
  | nil => exact ⟨[], .nil, fun t ↦ by rw [List.forall₂_nil_left_iff, List.forall₂_nil_left_iff]⟩
  | cons c s ih =>
    obtain ⟨tables, hrow, htables⟩ := ih
    obtain ⟨table, hletter, htable⟩ := exists_spells_letterExpr c
    refine ⟨table :: tables, .cons hletter hrow, fun t ↦ ?_⟩
    simp only [List.forall₂_cons_left_iff, htable, htables]

/-! ## Programs -/

namespace Program

/-- Instructions that get past one character after the other, each of a table, from `pc` to
`next`. -/
inductive Chain (insts : Insts) : Nat → List RangeTable → Nat → Prop
  | nil (pc : Nat) : Chain insts pc [] pc
  | cons {pc mid next : Nat} {table : RangeTable} {tables : List RangeTable} :
    insts[pc]? = some (.consume table mid) → Chain insts mid tables next →
      Chain insts pc (table :: tables) next

theorem Chain.append {insts : Insts} {pc mid next : Nat} {ts₁ ts₂ : List RangeTable}
    (h₁ : Chain insts pc ts₁ mid) (h₂ : Chain insts mid ts₂ next) :
    Chain insts pc (ts₁ ++ ts₂) next := by
  induction h₁ with
  | nil => exact h₂
  | cons hinst _ ih => exact .cons hinst (ih h₂)

/-- Instructions keep their numbers when others are laid down. -/
def Extends (insts insts' : Insts) : Prop :=
  ∀ (pc : Nat) (inst : Inst), insts[pc]? = some inst → insts'[pc]? = some inst

theorem Extends.refl (insts : Insts) : Extends insts insts := fun _ _ h ↦ h

theorem Extends.trans {insts insts' insts'' : Insts} (h : Extends insts insts')
    (h' : Extends insts' insts'') : Extends insts insts'' :=
  fun pc inst hinst ↦ h' pc inst (h pc inst hinst)

theorem extends_push (insts : Insts) (inst : Inst) : Extends insts (insts.push inst) := by
  intro pc inst' hinst
  obtain ⟨hpc, -⟩ := Array.getElem?_eq_some_iff.1 hinst
  rw [Array.getElem?_push_lt hpc, ← hinst, Array.getElem?_eq_getElem hpc]

theorem Chain.mono {insts insts' : Insts} (h : Extends insts insts') {pc next : Nat}
    {tables : List RangeTable} (hchain : Chain insts pc tables next) :
    Chain insts' pc tables next := by
  induction hchain with
  | nil => exact .nil _
  | cons hinst _ ih => exact .cons (h _ _ hinst) ih

/-- One more instruction in front of a chain. -/
theorem Chain.push {insts : Insts} {pc next : Nat} {tables : List RangeTable}
    (h : Chain insts pc tables next) (table : RangeTable) :
    Chain (insts.push (.consume table pc)) insts.size (table :: tables) next :=
  .cons Array.getElem?_push_size (h.mono (extends_push insts _))

/-- An expression that spells tables is laid down as their chain, behind what is there. -/
theorem chain_compile {e : Expr} {tables : List RangeTable} (h : Spells e tables) (next : Nat)
    (insts : Insts) : Extends insts (compile e next insts).2 ∧
      Chain (compile e next insts).2 (compile e next insts).1 tables next := by
  induction h generalizing next insts with
  | empty => exact ⟨.refl insts, .nil next⟩
  | literal t =>
    rw [compile]
    induction t with
    | nil => exact ⟨.refl insts, .nil next⟩
    | cons c t ih => exact ⟨ih.1.trans (extends_push _ _), ih.2.push (.single c)⟩
  | set s ascii => exact ⟨extends_push insts _, (Chain.nil next).push _⟩
  | append _ _ ih₁ ih₂ =>
    obtain ⟨hextends₂, hchain₂⟩ := ih₂ next insts
    obtain ⟨hextends₁, hchain₁⟩ := ih₁ (compile _ next insts).1 (compile _ next insts).2
    exact ⟨hextends₂.trans hextends₁, hchain₁.append (hchain₂.mono hextends₁)⟩

section Ways

variable {p : Program}

theorem accepts_save_iff {before : Option Char} {pc slot next : Nat} {t : Text}
    (h : p.insts[pc]? = some (.save slot next)) :
    p.Accepts before pc t ↔ p.Accepts before next t := by
  constructor
  · intro haccepts
    cases haccepts with
    | accept hinst => simp [h] at hinst
    | consume hinst => simp [h] at hinst
    | move hmove hnext =>
      cases hmove with
      | first hinst => simp [h] at hinst
      | second hinst => simp [h] at hinst
      | look hinst => simp [h] at hinst
      | save hinst =>
        rw [h] at hinst
        cases hinst
        exact hnext
  · exact .move (.save h)

theorem accepts_consume_iff {before : Option Char} {pc next : Nat} {table : RangeTable} {t : Text}
    (h : p.insts[pc]? = some (.consume table next)) :
    p.Accepts before pc t ↔ ∃ c rest, table.contains c ∧ p.Accepts (some c) next rest ∧
      t = c :: rest := by
  constructor
  · intro haccepts
    cases haccepts with
    | accept hinst => simp [h] at hinst
    | consume hinst hc hnext =>
      rw [h] at hinst
      cases hinst
      exact ⟨_, _, hc, hnext, rfl⟩
    | move hmove _ => cases hmove <;> simp_all
  · rintro ⟨c, rest, hc, hnext, rfl⟩
    exact .consume h hc hnext

/-- A chain to where every way ends in a match is gone through where its tables hold what stands
first in the text. -/
theorem accepts_chain_iff {pc next : Nat} {tables : List RangeTable}
    (h : Chain p.insts pc tables next) (hnext : ∀ before t, p.Accepts before next t)
    {before : Option Char} {t : Text} : p.Accepts before pc t ↔
      ∃ front, front <+: t ∧ List.Forall₂ (fun table c ↦ table.contains c) tables front := by
  induction h generalizing before t with
  | nil => exact iff_of_true (hnext before t) ⟨[], List.nil_prefix, .nil⟩
  | cons hinst _ ih =>
    simp only [accepts_consume_iff hinst, ih hnext]
    constructor
    · rintro ⟨c, rest, hc, ⟨front, hfront, htables⟩, rfl⟩
      exact ⟨c :: front, (List.prefix_cons_inj c).2 hfront, .cons hc htables⟩
    · rintro ⟨_, ⟨rest, rfl⟩, hall⟩
      obtain ⟨c, front, hc, htables, rfl⟩ := List.forall₂_cons_left_iff.1 hall
      exact ⟨c, front ++ rest, hc, ⟨front, List.prefix_append front rest, htables⟩, rfl⟩

/-- If it does not matter what stands before a match, there is one wherever the rest of the text
allows it. -/
theorem occurs_iff_of_accepts_iff {Q : Text → Prop}
    (h : ∀ before t, p.Accepts before p.start t ↔ Q t) {before : Option Char} {t : Text} :
    p.Occurs before t ↔ ∃ rest, rest <:+ t ∧ Q rest := by
  constructor
  · intro hoccurs
    induction hoccurs with
    | here haccepts => exact ⟨_, List.suffix_rfl, (h _ _).1 haccepts⟩
    | later _ ih =>
      obtain ⟨rest, hrest, hQ⟩ := ih
      exact ⟨rest, hrest.trans (List.suffix_cons _ _), hQ⟩
  · rintro ⟨rest, hrest, hQ⟩
    induction t generalizing before with
    | nil =>
      rw [List.suffix_nil.1 hrest] at hQ
      exact .here ((h _ _).2 hQ)
    | cons c t ih =>
      rcases List.suffix_cons_iff.1 hrest with rfl | hrest
      · exact .here ((h _ _).2 hQ)
      · exact .later (ih hrest)

end Ways

/-- The chain of an expression stands between two instructions that remember places, and behind it
there is a match. -/
theorem exists_chain_ofExpr {e : Expr} {tables : List RangeTable} (h : Spells e tables) :
    ∃ entry, (ofExpr e).insts[(ofExpr e).start]? = some (.save 0 entry) ∧
      Chain (ofExpr e).insts entry tables 1 ∧ (ofExpr e).insts[1]? = some (.save 1 0) ∧
      (ofExpr e).insts[0]? = some .accept := by
  obtain ⟨hextends, hchain⟩ := chain_compile h 1 #[.accept, .save 1 0]
  have hpush := extends_push (compile e 1 #[.accept, .save 1 0]).2
    (.save 0 (compile e 1 #[.accept, .save 1 0]).1)
  exact ⟨_, Array.getElem?_push_size, hchain.mono hpush, hpush 1 _ (hextends 1 _ rfl),
    hpush 0 _ (hextends 0 _ rfl)⟩

/-- The program of an expression that spells tables finds what they hold. -/
theorem isSome_search_ofExpr_iff {e : Expr} {tables : List RangeTable} (h : Spells e tables)
    {t : Text} : ((ofExpr e).search t).isSome ↔
      ∃ mid, mid <:+: t ∧ List.Forall₂ (fun table c ↦ table.contains c) tables mid := by
  obtain ⟨entry, hstart, hchain, hclose, haccept⟩ := exists_chain_ofExpr h
  have hend (before : Option Char) (t : Text) : (ofExpr e).Accepts before 1 t :=
    (accepts_save_iff hclose).2 (.accept haccept)
  rw [isSome_search_iff, occurs_iff_of_accepts_iff fun before t ↦
    (accepts_save_iff hstart).trans (accepts_chain_iff hchain hend)]
  constructor
  · rintro ⟨rest, hrest, mid, hmid, hall⟩
    exact ⟨mid, hmid.isInfix.trans hrest.isInfix, hall⟩
  · rintro ⟨mid, ⟨front, back, rfl⟩, hall⟩
    exact ⟨mid ++ back, by simp, mid, List.prefix_append mid back, hall⟩

end Program

/-- The character means nothing but itself in a pattern. -/
def isPlain (c : Char) : Bool :=
  c ∉ ['(', ')', '|', '[', '?', '*', '+', '\x7b', '\\', '.', '^', '$']

theorem skipSpace_false (t : Text) : skipSpace false t = t := by
  cases t <;> simp [skipSpace]

theorem readOne_of_isPlain {s : ReadState} {c : Char} (hc : isPlain c) (rest : Text) :
    readOne s c rest = .ok (s.pushExpr (letterExpr s.flags c) 0, rest) := by
  rw [readOne]
  · rw [ReadState.pushSymbol, if_neg (by simp)]
    rfl
  all_goals
    rintro rfl
    cases hc

/-- The state in which a row of letters was read. -/
def lettersRead (row : List Expr) : ReadState :=
  ⟨{}, [{ row := row.map fun e ↦ .expr ⟨e, 0⟩ }], 0, []⟩

theorem readAll_of_plain {fuel : Nat} (row : List Expr) {t : Text} (ht : ∀ c ∈ t, isPlain c)
    (hfuel : t.length ≤ fuel) : readAll fuel (lettersRead row) t =
      .ok (lettersRead ((t.map (letterExpr {})).reverse ++ row)) := by
  have hspace (row : List Expr) (t : Text) : skipSpace (lettersRead row).flags.verbose t = t :=
    skipSpace_false t
  induction t generalizing fuel row with
  | nil => cases fuel <;> simp only [readAll, hspace] <;> rfl
  | cons c t ih =>
    obtain ⟨hc, ht⟩ := List.forall_mem_cons.1 ht
    obtain ⟨fuel, rfl⟩ : ∃ n, fuel = n + 1 := Nat.exists_eq_add_one.2 (by
      rw [List.length_cons] at hfuel
      omega)
    have hturn : readOne (lettersRead row) c t =
        .ok (lettersRead (letterExpr {} c :: row), t) := readOne_of_isPlain hc t
    rw [readAll.eq_def, hspace]
    simp only [hturn]
    rw [ih _ ht (by simpa using hfuel), List.map_cons, List.reverse_cons, List.append_assoc,
      List.singleton_append]

/-- A row of letters is nested once at most. -/
theorem closeRow_letters (row : List Expr) : closeRow (row.map fun e ↦ .expr ⟨e, 0⟩) =
    ⟨.concat row.reverse, if row.length ≤ 1 then 0 else 1⟩ := by
  have hdepth (es : List Expr) :
      (es.map fun e ↦ (⟨e, 0⟩ : Nested)).foldl (fun d e ↦ max d e.depth) 0 = 0 := by
    induction es with
    | nil => rfl
    | cons e es ih => exact ih
  simp only [closeRow, ← List.map_reverse, List.filterMap_map, Function.comp_def,
    List.filterMap_eq_map', List.map_map, List.map_id', List.length_map, hdepth]

theorem close_letters {row : List Expr} {tables : List RangeTable}
    (h : SpellsRow row.reverse tables) : OpenGroup.close { row := row.map fun e ↦ .expr ⟨e, 0⟩ } =
      ⟨.concat row.reverse, if row.length ≤ 1 then 0 else 1⟩ := by
  simp only [OpenGroup.close, closeRow_letters, List.reverse_singleton, List.map_cons,
    List.map_nil, h.concat.alternation]
  simp

/-- A text of plain characters is refused as a pattern only if it is too large. -/
theorem Expr.ofPattern_of_plain {s : Text} (hs : ∀ c ∈ s, isPlain c) : Expr.ofPattern s =
    if (Expr.concat (s.map (letterExpr {}))).fits then
      .ok (Expr.concat (s.map (letterExpr {})))
    else .error .tooLarge := by
  have hread := readAll_of_plain [] hs le_rfl
  obtain ⟨tables, hrow, -⟩ := exists_spellsRow_letters s
  rw [List.append_nil] at hread
  rw [← List.reverse_reverse (s.map (letterExpr {}))] at hrow
  rw [Expr.ofPattern, show (⟨{}, [{}], 0, []⟩ : ReadState) = lettersRead [] from rfl, hread]
  simp only [lettersRead, close_letters hrow, List.reverse_reverse]
  rw [if_neg]
  · cases (Expr.concat (s.map (letterExpr {}))).fits <;> rfl
  · rw [maxDepth]
    split <;> decide

end Gherkin.Regex

namespace Gherkin.StepPattern

open Regex (SameLetter)

theorem isSome_match? (p : StepPattern) (t : Text) :
    (p.match? t).isSome = (p.program.search t).isSome := by
  rw [match?]
  cases p.program.search t with
  | none => rfl
  | some places =>
    change (if p.isNamed then _ else _ : Option StepArguments).isSome = _
    split <;> rfl

/-- A pattern without special signs is accepted if it is not too large. -/
theorem exists_ofText_of_plain {s : Text} (hs : ∀ c ∈ s, Regex.isPlain c)
    (h : (Regex.Expr.concat (s.map (Regex.letterExpr {}))).fits) : ∃ p, ofText s = .ok p := by
  rw [ofText, Regex.Expr.ofPattern_of_plain hs, if_pos h]
  exact ⟨_, rfl⟩

theorem eq_tooLarge_of_plain {s : Text} (hs : ∀ c ∈ s, Regex.isPlain c) {fault : Regex.PatternFault}
    (h : ofText s = .error fault) : fault = .tooLarge := by
  rw [ofText, Regex.Expr.ofPattern_of_plain hs] at h
  split at h
  · cases h
  · exact (Except.error.inj h).symm

/-- A pattern without special signs matches exactly the texts that spell it somewhere. -/
theorem isSome_match?_iff_of_plain {s : Text} (hs : ∀ c ∈ s, Regex.isPlain c) {p : StepPattern}
    (h : ofText s = .ok p) {t : Text} :
    (p.match? t).isSome ↔ ∃ mid, mid <:+: t ∧ List.Forall₂ SameLetter s mid := by
  obtain ⟨tables, hrow, htables⟩ := Regex.exists_spellsRow_letters s
  rw [ofText, Regex.Expr.ofPattern_of_plain hs] at h
  split at h
  · obtain rfl := Except.ok.inj h
    rw [isSome_match?]
    refine (Regex.Program.isSome_search_ofExpr_iff hrow.concat).trans ?_
    simp only [htables]
  · cases h

end Gherkin.StepPattern
