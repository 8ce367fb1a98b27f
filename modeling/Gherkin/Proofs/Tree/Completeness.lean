import Gherkin.Proofs.Tree.Derivation

/-!
# Spelled trees are found

A function that takes a node off the front of the tokens finds the node that the tokens spell, and
leaves the rest. The rest has to begin where a node can end: with tags, with a header, or not at
all. No branch that refuses a document is reached on the way.

Main statements: the tokens of a feature are read as that feature (`parseFeature_of_spelled`), and
those of bare steps as these steps (`parseSteps_of_spelled`).
-/

namespace Gherkin.Tree

theorem takeRun_of_reads {α : Type} {read? : Token → Option α} {items : List α}
    {ts rest : List Token} (h : Reads read? items ts) (hrest : ∀ t ∈ rest.head?, read? t = none) :
    takeRun read? (ts ++ rest) = (items, rest) := by
  induction items generalizing ts with
  | nil =>
    rw [reads_nil_iff.1 h]
    cases rest with
    | nil => rfl
    | cons t rest => simp [takeRun, hrest t rfl]
  | cons item items ih =>
    obtain ⟨t, us, rfl, ht, hus⟩ := reads_cons_iff.1 h
    simp [takeRun, ht, ih hus]

theorem takeTags_append {run rest : List Token} {t : Token} (hrun : ∀ u ∈ run, u.isTags)
    (ht : ¬t.isTags) : takeTags (run ++ t :: rest) = (tagsOf run, t :: rest) := by
  rw [takeTags, List.takeWhile_append_of_pos hrun, List.dropWhile_append_of_pos hrun,
    List.takeWhile_cons_of_neg ht, List.dropWhile_cons_of_neg ht, List.append_nil, tagsOf]

theorem takeHeader_of_spelled {header : Header} {hs : List Token} (h : header.Spelled hs)
    (eof : Location) (rest : List Token) :
    takeHeader eof (takeTags (hs ++ rest)).1 (takeTags (hs ++ rest)).2 = .ok (header, rest) := by
  cases h with
  | @intro run t hrun ht =>
    rw [List.append_assoc, List.singleton_append,
      takeTags_append hrun (Header.kind_of_ofToken? ht).2]
    simp [takeHeader, ht]

/-- Neither a row nor a multiline string comes next, so that a step has all of its argument. -/
def AfterArgument (ts : List Token) : Prop := ¬startsWithRow ts ∧ ¬startsWithString ts

theorem AtBlock.afterArgument {ts : List Token} (h : AtBlock ts) : AfterArgument ts := by
  cases ts with
  | nil => simp [AfterArgument, startsWithRow, startsWithString]
  | cons t ts =>
    obtain ⟨-, hrow, hstring, -⟩ := h.not_read
    simp [AfterArgument, startsWithRow, startsWithString, hrow, hstring]

theorem afterArgument_of_spelled {steps : List StepNode} {ss rest : List Token}
    (h : Sequence StepNode.Spelled steps ss) (hrest : AtBlock rest) :
    AfterArgument (ss ++ rest) := by
  cases h with
  | nil => exact hrest.afterArgument
  | cons hstep _ =>
    cases hstep with
    | @intro bare t _ _ ht _ =>
      cases hk : t.kind <;>
        simp_all [AfterArgument, startsWithRow, startsWithString, StepNode.ofToken?, Row.ofToken?,
          StringNode.ofToken?]

theorem not_row_of_not_startsWithRow {ts : List Token} (h : ¬startsWithRow ts) :
    ∀ t ∈ ts.head?, Row.ofToken? t = none := by
  intro t ht
  rw [startsWithRow, Option.mem_def.1 ht] at h
  simpa using h

theorem takeArgument_of_spelled {argument : Option Argument} {ts rest : List Token}
    (h : Argument.Spelled argument ts) (hrest : AfterArgument rest) (eof : Location) :
    takeArgument eof (ts ++ rest) = .ok (argument, rest) := by
  obtain ⟨hrow, hstring⟩ := hrest
  cases h with
  | none =>
    cases rest with
    | nil => rfl
    | cons t rest =>
      simp only [startsWithRow, startsWithString, List.head?_cons, Option.bind_some,
        Bool.not_eq_true, Option.isSome_eq_false_iff, Option.isNone_iff_eq_none] at hrow hstring
      simp [takeArgument, hrow, hstring]
  | @table rows _ hne hreads =>
    cases rows with
    | nil => exact absurd rfl hne
    | cons row rows =>
      obtain ⟨t, us, rfl, ht, hus⟩ := reads_cons_iff.1 hreads
      have hrun := takeRun_of_reads hus (not_row_of_not_startsWithRow hrow)
      simp [takeArgument, ht, hrun, hstring]
  | @string s t ht =>
    have hnot : Row.ofToken? t = none := by
      cases hk : t.kind <;> simp_all [StringNode.ofToken?, Row.ofToken?]
    simp [takeArgument, ht, hnot, hrow, hstring]

theorem takeSteps_of_spelled {steps : List StepNode} {ss rest : List Token}
    (h : Sequence StepNode.Spelled steps ss) (hrest : AtBlock rest) (eof : Location) :
    takeSteps eof (ss ++ rest) = .ok (steps, rest) := by
  induction h with
  | nil =>
    cases rest with
    | nil => simp [takeSteps]
    | cons t rest => simp [takeSteps, hrest.not_read]
  | @cons step steps ts us hstep hsteps ih =>
    cases hstep with
    | @intro bare t argument ts ht hargument =>
      have hafter := afterArgument_of_spelled hsteps hrest
      have htake := takeArgument_of_spelled hargument hafter eof
      rw [List.cons_append, List.cons_append, List.append_assoc, takeSteps]
      simp only [ht]
      split
      · next e he => simp [htake] at he
      · next a after he =>
        obtain ⟨rfl, rfl⟩ : argument = a ∧ us ++ rest = after := by simpa [htake] using he
        rw [ih]

/-- No free line comes next, so that a description has all of its lines. -/
def AfterDescription (ts : List Token) : Prop := ∀ t ∈ ts.head?, TextLine.ofToken? t = none

theorem AtBlock.afterDescription {ts : List Token} (h : AtBlock ts) : AfterDescription ts := by
  intro t ht
  cases ts with
  | nil => cases ht
  | cons u ts =>
    obtain rfl : u = t := by simpa using ht
    exact h.not_read.1

theorem afterDescription_of_steps {steps : List StepNode} {ss rest : List Token}
    (h : Sequence StepNode.Spelled steps ss) (hrest : AtBlock rest) :
    AfterDescription (ss ++ rest) := by
  cases h with
  | nil => exact hrest.afterDescription
  | cons hstep _ =>
    cases hstep with
    | @intro bare t _ _ ht _ =>
      cases hk : t.kind <;> simp_all [AfterDescription, StepNode.ofToken?, TextLine.ofToken?]

theorem afterDescription_of_rows {rows : List Row} {rs rest : List Token}
    (h : Reads Row.ofToken? rows rs) (hrest : AtBlock rest) : AfterDescription (rs ++ rest) := by
  cases rows with
  | nil => simpa [reads_nil_iff.1 h] using hrest.afterDescription
  | cons row rows =>
    obtain ⟨t, us, rfl, ht, -⟩ := reads_cons_iff.1 h
    cases hk : t.kind <;> simp_all [AfterDescription, Row.ofToken?, TextLine.ofToken?]

theorem atBlock_of_sequence {α : Type} {spells : α → List Token → Prop} {items : List α}
    {ts rest : List Token} (h : Sequence spells items ts)
    (hitem : ∀ item us, spells item us → ∀ rest, AtBlock (us ++ rest)) (hrest : AtBlock rest) :
    AtBlock (ts ++ rest) := by
  cases h with
  | nil => exact hrest
  | cons hfirst _ =>
    rw [List.append_assoc]
    exact hitem _ _ hfirst _

theorem ExamplesNode.Spelled.atBlock {e : ExamplesNode} {ts : List Token} (h : e.Spelled ts)
    (rest : List Token) : AtBlock (ts ++ rest) := by
  cases h with
  | intro hheader =>
    rw [List.append_assoc]
    exact hheader.atBlock _

theorem BlockNode.SpelledScenario.atBlock {b : BlockNode} {ts : List Token}
    (h : b.SpelledScenario ts) (rest : List Token) : AtBlock (ts ++ rest) := by
  cases h with
  | intro hheader =>
    rw [List.append_assoc]
    exact hheader.atBlock _

theorem takeExamplesBlock_of_spelled {e : ExamplesNode} {ts rest : List Token} (h : e.Spelled ts)
    (hrest : AtBlock rest) (eof : Location) :
    takeExamplesBlock eof (ts ++ rest) = .ok (e, rest) := by
  cases h with
  | @intro header description rows hs ds rs hheader hkind hdescription hrows =>
    have hrun := takeRun_of_reads hdescription (afterDescription_of_rows hrows hrest)
    have hrun' := takeRun_of_reads hrows
      (not_row_of_not_startsWithRow hrest.afterArgument.1)
    rw [List.append_assoc, List.append_assoc]
    simp [takeExamplesBlock, takeHeader_of_spelled hheader, hrun, hrun']

theorem takeExamples_of_spelled {es : List ExamplesNode} {ts rest : List Token}
    (h : Sequence ExamplesNode.Spelled es ts) (hrest : AtBlock rest)
    (hnext : blockAfterTags? rest ≠ some .examples) (eof : Location) :
    takeExamples eof (ts ++ rest) = .ok (es, rest) := by
  induction h with
  | nil => simp [takeExamples, hnext]
  | @cons e es ts us he hes ih =>
    have hafter : AtBlock (us ++ rest) :=
      atBlock_of_sequence hes (fun _ _ h ↦ ExamplesNode.Spelled.atBlock h) hrest
    have htake := takeExamplesBlock_of_spelled he hafter eof
    have hkind : blockAfterTags? (ts ++ (us ++ rest)) = some .examples := by
      cases he with
      | intro hheader hkind =>
        rw [List.append_assoc, hheader.blockAfterTags?, hkind]
    rw [List.append_assoc, takeExamples, if_pos hkind]
    split
    · next err herr => simp [htake] at herr
    · next block after hok =>
      obtain ⟨rfl, rfl⟩ : e = block ∧ us ++ rest = after := by simpa [htake] using hok
      rw [ih]

theorem takeBlock_of_background {b : BlockNode} {ts rest : List Token}
    (h : b.SpelledBackground ts) (hrest : AtBlock rest) (eof : Location) :
    takeBlock eof (ts ++ rest) = .ok (b, rest) := by
  cases h with
  | @intro header description steps t ds ss hheader hkind hdescription hsteps =>
    have hspelled : header.Spelled ([] ++ [t]) := .intro (by simp) hheader
    have hrun := takeRun_of_reads hdescription (afterDescription_of_steps hsteps hrest)
    have htake := takeSteps_of_spelled hsteps hrest eof
    have hhead := takeHeader_of_spelled hspelled eof (ds ++ (ss ++ rest))
    rw [List.nil_append, List.singleton_append] at hhead
    rw [List.cons_append, List.append_assoc]
    simp [takeBlock, bind, Except.bind, pure, Except.pure, hhead, hrun, htake, hkind]

theorem takeBlock_of_scenario {b : BlockNode} {ts rest : List Token}
    (h : b.SpelledScenario ts) (hrest : AtBlock rest)
    (hnext : blockAfterTags? rest ≠ some .examples) (eof : Location) :
    takeBlock eof (ts ++ rest) = .ok (b, rest) := by
  cases h with
  | @intro header description steps examples hs ds ss es hheader hkind hdescription hsteps
      hexamples =>
    have hafter : AtBlock (es ++ rest) :=
      atBlock_of_sequence hexamples (fun _ _ h ↦ ExamplesNode.Spelled.atBlock h) hrest
    have hrun := takeRun_of_reads hdescription (afterDescription_of_steps hsteps hafter)
    have htake := takeSteps_of_spelled hsteps hafter eof
    have hexs := takeExamples_of_spelled hexamples hrest hnext eof
    have hhead := takeHeader_of_spelled hheader eof (ds ++ (ss ++ (es ++ rest)))
    have hne : header.kind ≠ .background := by
      rcases hkind with h | h <;> simp [h]
    rw [List.append_assoc, List.append_assoc, List.append_assoc]
    simp [takeBlock, bind, Except.bind, pure, Except.pure, hhead, hrun, htake, hexs, hne]

theorem startsScenario_of_spelled {b : BlockNode} {ts : List Token} (h : b.SpelledScenario ts)
    (rest : List Token) : startsScenario (ts ++ rest) := by
  cases h with
  | intro hheader hkind =>
    rw [startsScenario, List.append_assoc, hheader.blockAfterTags?]
    rcases hkind with h | h <;> simp [h]

theorem takeScenarios_of_spelled {bs : List BlockNode} {ts : List Token}
    (h : Sequence BlockNode.SpelledScenario bs ts) (eof : Location) :
    takeScenarios eof ts = .ok (bs, []) := by
  induction h with
  | nil => simp [takeScenarios, startsScenario, blockAfterTags?]
  | @cons b bs ts us hb hbs ih =>
    have hafter : AtBlock us := by
      simpa using atBlock_of_sequence hbs (fun _ _ h ↦ BlockNode.SpelledScenario.atBlock h)
        atBlock_nil
    have hnext : blockAfterTags? us ≠ some .examples := by
      cases hbs with
      | nil => simp [blockAfterTags?]
      | cons hfirst _ =>
        cases hfirst with
        | intro hheader hkind =>
          rw [List.append_assoc, hheader.blockAfterTags?]
          rcases hkind with h | h <;> simp [h]
    have htake := takeBlock_of_scenario hb hafter hnext eof
    rw [takeScenarios, if_pos (startsScenario_of_spelled hb us)]
    split
    · next err herr => simp [htake] at herr
    · next block after hok =>
      obtain ⟨rfl, rfl⟩ : b = block ∧ us = after := by simpa [htake] using hok
      rw [ih]

theorem parseSteps_of_spelled {steps : List StepNode} {ss : List Token}
    (h : Sequence StepNode.Spelled steps ss) (eof : Location) :
    parseSteps eof ss = .ok steps := by
  have htake := takeSteps_of_spelled h atBlock_nil eof
  rw [List.append_nil] at htake
  simp [parseSteps, bind, Except.bind, pure, Except.pure, htake, expectEnd]

theorem Header.Spelled.not_background {header : Header} {hs : List Token} (h : header.Spelled hs)
    (hkind : header.kind ≠ .background) (rest : List Token) :
    (hs ++ rest).head?.bind Token.blockKind? ≠ some .background := by
  cases h with
  | @intro run t hrun ht =>
    cases run with
    | nil => simpa [(Header.kind_of_ofToken? ht).1] using hkind
    | cons u run =>
      have hu : u.isTags := hrun u List.mem_cons_self
      cases hk : u.kind <;> simp_all [Token.isTags, Token.blockKind?]

theorem scenarios_not_background {bs : List BlockNode} {ts : List Token}
    (h : Sequence BlockNode.SpelledScenario bs ts) :
    ts.head?.bind Token.blockKind? ≠ some .background := by
  cases h with
  | nil => simp
  | cons hfirst _ =>
    cases hfirst with
    | intro hheader hkind =>
      rw [List.append_assoc]
      refine hheader.not_background ?_ _
      rcases hkind with h | h <;> simp [h]

theorem BlockNode.SpelledBackground.head {b : BlockNode} {ts : List Token}
    (h : b.SpelledBackground ts) (rest : List Token) :
    (ts ++ rest).head?.bind Token.blockKind? = some .background ∧
      AfterDescription (ts ++ rest) := by
  cases h with
  | @intro header description steps t ds ss hheader hkind =>
    have ht : t.blockKind? = some .background := by
      rw [(Header.kind_of_ofToken? hheader).1, hkind]
    refine ⟨by simp [ht], ?_⟩
    intro u hu
    obtain rfl : t = u := by simpa using hu
    cases hk : t.kind <;> simp_all [Token.blockKind?, TextLine.ofToken?]

theorem parseFeature_of_spelled {n : FeatureNode} {ts : List Token} (h : n.Spelled ts)
    (eof : Location) : parseFeature eof ts = .ok n := by
  cases h with
  | @intro header description background scenarios hs ds bs ss hheader hkind hdescription
      hbackground hscenarios =>
    have hss : AtBlock ss := by
      simpa using atBlock_of_sequence hscenarios
        (fun _ _ h ↦ BlockNode.SpelledScenario.atBlock h) atBlock_nil
    have hfeature : (takeTags (hs ++ (ds ++ (bs ++ ss)))).2.head?.bind Token.blockKind? =
        some .feature := by
      rw [← hkind]
      exact hheader.blockAfterTags? _
    have hhead := takeHeader_of_spelled hheader eof (ds ++ (bs ++ ss))
    have htake := takeScenarios_of_spelled hscenarios eof
    have hnot := scenarios_not_background hscenarios
    cases background with
    | none =>
      cases hbackground
      rw [List.nil_append] at hfeature hhead ⊢
      have hrun := takeRun_of_reads hdescription hss.afterDescription
      simp [parseFeature, takeFeature, bind, Except.bind, pure, Except.pure, hfeature, hhead, hrun,
        hnot, htake, expectEnd]
    | some b =>
      cases hbackground with
      | @cons _ _ bs us hb hnil =>
        cases hnil
        rw [List.append_nil] at hfeature hhead ⊢
        obtain ⟨hbackground, hafter⟩ := hb.head ss
        have hblock := takeBlock_of_background hb hss eof
        have hrun := takeRun_of_reads hdescription hafter
        generalize bs ++ ss = rest at hfeature hhead hbackground hblock hrun ⊢
        simp [parseFeature, takeFeature, bind, Except.bind, pure, Except.pure, hfeature, hhead,
          hrun, hbackground, hblock, hnot, htake, expectEnd]

end Gherkin.Tree
