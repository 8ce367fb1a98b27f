import Gherkin.Proofs.Feature.Built
import Gherkin.Proofs.Token.Shift
import Gherkin.Proofs.Tree.Derivation

/-!
# Steps further down

Tokens further down spell the same steps there, and the steps of a block say the same whichever
block owns them and wherever it stands.

Main statements: `sequence_map_shift_iff` on the structure of steps, and `Step.ofNodes_shift_iff` on
what they are given.
-/

namespace Gherkin

/-! ## Nodes further down -/

namespace Tree

def Row.shift (d : Shift) (r : Row) : Row :=
  { r with location := r.location.shift d, span := r.span.shift d }

def StringNode.shift (d : Shift) (s : StringNode) : StringNode :=
  { s with location := s.location.shift d, span := s.span.shift d }

def Argument.shift (d : Shift) : Argument → Argument
  | table rows => table (rows.map (·.shift d))
  | string s => string (s.shift d)

def StepNode.shift (d : Shift) (n : StepNode) : StepNode :=
  { n with
    location := n.location.shift d, span := n.span.shift d, argument := n.argument.map (·.shift d) }

section Spelled

variable {d : Shift} {ts : List Token}

theorem Row.ofToken?_shift (t : Token) : ofToken? (t.shift d) = (ofToken? t).map (·.shift d) := by
  unfold ofToken?
  rw [Token.kind_shift]
  split <;> rfl

theorem StringNode.ofToken?_shift (t : Token) :
    ofToken? (t.shift d) = (ofToken? t).map (·.shift d) := by
  unfold ofToken?
  rw [Token.kind_shift]
  split <;> rfl

theorem StepNode.ofToken?_shift (t : Token) :
    ofToken? (t.shift d) = (ofToken? t).map (·.shift d) := by
  unfold ofToken?
  rw [Token.kind_shift]
  split <;> rfl

/-- What is read token by token is read further down as well. -/
theorem reads_map_shift_iff {α : Type} {read? : Token → Option α} {shift : α → α}
    (hread : ∀ t : Token, read? (t.shift d) = (read? t).map shift) {items : List α} :
    Reads read? items (ts.map (·.shift d)) ↔ ∃ own, Reads read? own ts ∧ items = own.map shift := by
  induction ts generalizing items with
  | nil =>
    constructor
    · intro h
      exact ⟨[], rfl, List.map_eq_nil_iff.1 h.symm⟩
    · rintro ⟨own, hown, rfl⟩
      rw [List.map_eq_nil_iff.1 hown.symm]
      rfl
  | cons t ts ih =>
    constructor
    · intro h
      cases items with
      | nil => cases reads_nil_iff.1 h
      | cons item items =>
        obtain ⟨_, _, hcons, hitem, hitems⟩ := reads_cons_iff.1 h
        cases hcons
        rw [hread] at hitem
        obtain ⟨first, hfirst, rfl⟩ := Option.map_eq_some_iff.1 hitem
        obtain ⟨own, hown, rfl⟩ := ih.1 hitems
        exact ⟨first :: own, reads_cons_iff.2 ⟨t, ts, rfl, hfirst, hown⟩, rfl⟩
    · rintro ⟨own, hown, rfl⟩
      cases own with
      | nil => cases reads_nil_iff.1 hown
      | cons first own =>
        obtain ⟨_, _, hcons, hfirst, hrest⟩ := reads_cons_iff.1 hown
        cases hcons
        refine reads_cons_iff.2 ⟨t.shift d, ts.map (·.shift d), rfl, ?_, ih.2 ⟨own, hrest, rfl⟩⟩
        rw [hread, hfirst, Option.map_some]

theorem Argument.spelled_map_shift_iff {argument : Option Argument} :
    Spelled argument (ts.map (·.shift d)) ↔
      ∃ own, Spelled own ts ∧ argument = own.map (·.shift d) := by
  constructor
  · intro h
    generalize hus : ts.map (·.shift d) = us at h
    cases h with
    | none =>
      rw [List.map_eq_nil_iff.1 hus]
      exact ⟨none, .none, rfl⟩
    | table hne hrows =>
      rw [← hus, reads_map_shift_iff Row.ofToken?_shift] at hrows
      obtain ⟨own, hown, rfl⟩ := hrows
      exact ⟨some (.table own), .table (by simpa using hne) hown, rfl⟩
    | string hs =>
      obtain ⟨t, rfl, rfl⟩ := List.map_eq_singleton_iff.1 hus
      rw [StringNode.ofToken?_shift] at hs
      obtain ⟨own, hown, rfl⟩ := Option.map_eq_some_iff.1 hs
      exact ⟨some (.string own), .string hown, rfl⟩
  · rintro ⟨own, hown, rfl⟩
    cases hown with
    | none => exact .none
    | table hne hrows =>
      refine .table (by simpa using hne) ?_
      exact (reads_map_shift_iff Row.ofToken?_shift).2 ⟨_, hrows, rfl⟩
    | string hs =>
      apply Argument.Spelled.string
      rw [StringNode.ofToken?_shift, hs, Option.map_some]

theorem StepNode.spelled_map_shift_iff {n : StepNode} :
    n.Spelled (ts.map (·.shift d)) ↔ ∃ own : StepNode, own.Spelled ts ∧ n = own.shift d := by
  constructor
  · intro h
    generalize hus : ts.map (·.shift d) = us at h
    cases h with
    | intro ht hargument =>
      obtain ⟨t, vs, rfl, rfl, rfl⟩ := List.map_eq_cons_iff.1 hus
      rw [StepNode.ofToken?_shift] at ht
      obtain ⟨bare, hbare, rfl⟩ := Option.map_eq_some_iff.1 ht
      obtain ⟨argument, hspelled, rfl⟩ := Argument.spelled_map_shift_iff.1 hargument
      exact ⟨{ bare with argument }, .intro hbare hspelled, rfl⟩
  · rintro ⟨own, hown, rfl⟩
    cases hown with
    | @intro bare t argument us ht hargument =>
      have hbare : StepNode.ofToken? (t.shift d) = some (bare.shift d) := by
        rw [StepNode.ofToken?_shift, ht, Option.map_some]
      exact .intro hbare (Argument.spelled_map_shift_iff.2 ⟨argument, hargument, rfl⟩)

/-- Steps are spelled further down as they are where they stand alone. -/
theorem sequence_map_shift_iff {ns : List StepNode} :
    Sequence StepNode.Spelled ns (ts.map (·.shift d)) ↔
      ∃ own, Sequence StepNode.Spelled own ts ∧ ns = own.map (·.shift d) := by
  constructor
  · intro h
    generalize hus : ts.map (·.shift d) = us at h
    induction h generalizing ts with
    | nil =>
      rw [List.map_eq_nil_iff.1 hus]
      exact ⟨[], .nil, rfl⟩
    | cons hn _ ih =>
      obtain ⟨vs, ws, rfl, rfl, rfl⟩ := List.map_eq_append_iff.1 hus
      obtain ⟨first, hfirst, rfl⟩ := StepNode.spelled_map_shift_iff.1 hn
      obtain ⟨own, hown, rfl⟩ := ih rfl
      exact ⟨first :: own, .cons hfirst hown, rfl⟩
  · rintro ⟨own, hown, rfl⟩
    induction hown with
    | nil => exact .nil
    | cons hn _ ih =>
      rw [List.map_append]
      exact .cons (StepNode.spelled_map_shift_iff.2 ⟨_, hn, rfl⟩) ih

end Spelled

end Tree

/-! ## Steps further down -/

def Table.shift (d : Shift) (t : Table) : Table :=
  { t with location := t.location.shift d, span := t.span.shift d }

def DocString.shift (d : Shift) (s : DocString) : DocString :=
  { s with location := s.location.shift d, span := s.span.shift d }

/-- The step further down and in another block. -/
def Step.moved (owner : Option BlockId) (d : Shift) (s : Step) : Step :=
  { s with
    table := s.table.map (·.shift d), docString := s.docString.map (·.shift d), owner
    location := s.location.shift d, span := s.span.shift d }

section Built

variable {d : Shift} {owner owner' : Option BlockId} {phase : StepKind}

/-- Readings that give the same up to a change give the same lists up to this change. -/
theorem map_eq_map_ok_iff_of_forall {ε α β : Type} {read read' : α → Except ε β} {change : β → β}
    (h : ∀ a b, read' a = .ok b ↔ ∃ own, read a = .ok own ∧ b = change own) {as : List α}
    {bs : List β} :
    as.map read' = bs.map .ok ↔
      ∃ own : List β, as.map read = own.map .ok ∧ bs = own.map change := by
  induction as generalizing bs with
  | nil => simp [eq_comm]
  | cons a as ih =>
    constructor
    · intro hread
      obtain ⟨b, bs, rfl, hb, hbs⟩ := List.map_eq_cons_iff.1 hread.symm
      obtain ⟨first, hfirst, rfl⟩ := (h a b).1 hb.symm
      obtain ⟨own, hown, rfl⟩ := ih.1 hbs.symm
      exact ⟨first :: own, by rw [List.map_cons, List.map_cons, hfirst, hown], rfl⟩
    · rintro ⟨own, hown, rfl⟩
      obtain ⟨first, rest, rfl, hfirst, hrest⟩ := List.map_eq_cons_iff.1 hown.symm
      rw [List.map_cons, List.map_cons, List.map_cons, (h a _).2 ⟨first, hfirst.symm, rfl⟩,
        ih.2 ⟨rest, hrest.symm, rfl⟩]

theorem Table.foldl_join_shift (rows : List Tree.Row) (s : Span) :
    (rows.map (·.shift d)).foldl (fun s r ↦ s.join r.span) (s.shift d) =
      (rows.foldl (fun s r ↦ s.join r.span) s).shift d := by
  induction rows generalizing s with
  | nil => rfl
  | cons r rows ih =>
    have hjoin : (s.shift d).join (r.shift d).span = (s.join r.span).shift d :=
      Span.join_shift d s r.span
    rw [List.map_cons, List.foldl_cons, List.foldl_cons, hjoin, ih]

theorem Table.ofRows_shift_iff {rows : List Tree.Row} {table : Table} :
    ofRows (rows.map (·.shift d)) = .ok table ↔
      ∃ own, ofRows rows = .ok own ∧ table = own.shift d := by
  simp only [ofRows_eq_ok_iff]
  constructor
  · rintro ⟨_, _, hrows, hwidths, rfl⟩
    obtain ⟨first, rest, rfl, rfl, rfl⟩ := List.map_eq_cons_iff.1 hrows
    refine ⟨_, ⟨first, rest, rfl, by simpa [Tree.Row.shift] using hwidths, rfl⟩, ?_⟩
    rw [shift, ← foldl_join_shift, List.map_map]
    rfl
  · rintro ⟨_, ⟨first, rest, rfl, hwidths, rfl⟩, rfl⟩
    refine ⟨first.shift d, rest.map (·.shift d), rfl, by simpa [Tree.Row.shift] using hwidths, ?_⟩
    rw [shift, ← foldl_join_shift, List.map_map]
    rfl

theorem Step.given_shift_iff {argument : Option Tree.Argument} {table : Option Table}
    {docString : Option DocString} :
    Given (argument.map (·.shift d)) table docString ↔
      ∃ table' docString', Given argument table' docString' ∧ table = table'.map (·.shift d) ∧
        docString = docString'.map (·.shift d) := by
  constructor
  · intro h
    generalize hshift : argument.map (·.shift d) = shifted at h
    cases h with
    | nothing =>
      rw [Option.map_eq_none_iff.1 hshift]
      exact ⟨none, none, .nothing, rfl, rfl⟩
    | table htable =>
      obtain ⟨own, rfl, hown⟩ := Option.map_eq_some_iff.1 hshift
      cases own with
      | table rows =>
        cases hown
        obtain ⟨table', htable', rfl⟩ := Table.ofRows_shift_iff.1 htable
        exact ⟨some table', none, .table htable', rfl, rfl⟩
      | string s => cases hown
    | string s =>
      obtain ⟨own, rfl, hown⟩ := Option.map_eq_some_iff.1 hshift
      cases own with
      | table rows => cases hown
      | string s' =>
        cases hown
        exact ⟨none, some (.ofNode s'), .string s', rfl, rfl⟩
  · rintro ⟨table', docString', h, rfl, rfl⟩
    cases h with
    | nothing => exact .nothing
    | table htable => exact .table (Table.ofRows_shift_iff.2 ⟨_, htable, rfl⟩)
    | string s => exact .string (s.shift d)

theorem Step.ofParts_shift {n : Tree.StepNode} {argument : Option Tree.Argument}
    {table : Option Table} {docString : Option DocString} (h : Given argument table docString) :
    ofParts owner' phase (n.shift d) (table.map (·.shift d)) (docString.map (·.shift d)) =
      (ofParts owner phase n table docString).moved owner' d := by
  cases h with
  | nothing => rfl
  | @table rows t ht =>
    have hspan := Span.join_shift d n.span t.span
    simp only [ofParts, moved, Option.map_some, Option.map_none, Option.some_or, Option.elim_some]
    congr 1
  | string s =>
    have hspan := Span.join_shift d n.span s.span
    simp only [ofParts, moved, Option.map_some, Option.map_none, Option.none_or, Option.elim_some]
    congr 1

theorem Step.ofNode_shift_iff {n : Tree.StepNode} {s : Step} :
    ofNode owner' phase (n.shift d) = .ok s ↔
      ∃ own, ofNode owner phase n = .ok own ∧ s = own.moved owner' d := by
  simp only [ofNode_eq_ok_iff]
  constructor
  · rintro ⟨_, _, hgiven, rfl⟩
    obtain ⟨table, docString, hown, rfl, rfl⟩ := given_shift_iff.1 hgiven
    exact ⟨_, ⟨table, docString, hown, rfl⟩, ofParts_shift hown⟩
  · rintro ⟨_, ⟨table, docString, hown, rfl⟩, rfl⟩
    exact ⟨_, _, given_shift_iff.2 ⟨table, docString, hown, rfl, rfl⟩, (ofParts_shift hown).symm⟩

/-- The steps of a block are the same further down and in another block. -/
theorem Step.ofNodes_shift_iff {ns : List Tree.StepNode} {steps : List Step} :
    ofNodes owner' (ns.map (·.shift d)) = .ok steps ↔
      ∃ own, ofNodes owner ns = .ok own ∧ steps = own.map (·.moved owner' d) := by
  have hkinds : (ns.map (·.shift d)).map (·.kind) = ns.map (·.kind) := by
    rw [List.map_map]
    rfl
  have hzip (phases : List StepKind) :
      (phases.zip (ns.map (·.shift d))).map (fun p ↦ ofNode owner' p.1 p.2) =
        (phases.zip ns).map fun p ↦ ofNode owner' p.1 (p.2.shift d) := by
    rw [List.zip_map_right, List.map_map]
    rfl
  simp only [ofNodes_eq_ok_iff, hkinds, hzip]
  exact map_eq_map_ok_iff_of_forall fun p s ↦ ofNode_shift_iff

end Built

end Gherkin
