import Gherkin.Proofs.Readings
import Gherkin.Proofs.Tree.Derivation

/-!
# Trees that are found are spelled

Whatever a function takes off the front of the tokens is spelled by the tokens it used, and what it
used together with what it hands on are the tokens it was given. Tokens that are left at the end of
a document are always refused, so that a document that is read is used up.

Main statements: a feature that is read is spelled by all of the tokens (`spelled_of_parseFeature`),
and so are bare steps (`spelled_of_parseSteps`).
-/

namespace Gherkin.Tree

variable {eof : Location} {ts rest : List Token}

theorem takeRun_reads {α : Type} (read? : Token → Option α) (ts : List Token) :
    ∃ items us rest, takeRun read? ts = (items, rest) ∧ ts = us ++ rest ∧
      Reads read? items us := by
  induction ts with
  | nil => exact ⟨[], [], [], rfl, rfl, rfl⟩
  | cons t ts ih =>
    cases ht : read? t with
    | none => exact ⟨[], [], t :: ts, by simp [takeRun, ht], rfl, rfl⟩
    | some item =>
      obtain ⟨items, us, rest, htake, rfl, hus⟩ := ih
      refine ⟨item :: items, t :: us, rest, by simp [takeRun, ht, htake], rfl, ?_⟩
      exact reads_cons_iff.2 ⟨t, us, rfl, ht, hus⟩

theorem spelled_of_takeHeader {header : Header}
    (h : takeHeader eof (takeTags ts).1 (takeTags ts).2 = .ok (header, rest)) :
    ∃ hs, ts = hs ++ rest ∧ header.Spelled hs := by
  obtain ⟨t, ht, hheader⟩ := takeHeader_eq h
  refine ⟨ts.takeWhile Token.isTags ++ [t], ?_, .intro (fun u hu ↦ ?_) hheader⟩
  · have hsplit : ts.takeWhile Token.isTags ++ ts.dropWhile Token.isTags = ts :=
      List.takeWhile_append_dropWhile
    rw [show ts.dropWhile Token.isTags = t :: rest from ht] at hsplit
    simpa using hsplit.symm
  · exact List.all_eq_true.1 List.all_takeWhile u hu

theorem spelled_of_takeArgument {argument : Option Argument}
    (h : takeArgument eof ts = .ok (argument, rest)) :
    ∃ us, ts = us ++ rest ∧ Argument.Spelled argument us := by
  unfold takeArgument at h
  split at h
  · cases h
    exact ⟨[], rfl, .none⟩
  · next t ts =>
    split at h
    · next row _ hrow =>
      obtain ⟨rows, us, after, htake, rfl, hus⟩ := takeRun_reads Row.ofToken? ts
      rw [htake] at h
      dsimp only at h
      split at h
      · cases h
      · cases h
        refine ⟨t :: us, rfl, .table (by simp) ?_⟩
        exact reads_cons_iff.2 ⟨t, us, rfl, hrow, hus⟩
    · next s _ hs =>
      split at h
      · cases h
      · split at h
        · cases h
        · cases h
          exact ⟨[t], rfl, .string hs⟩
    · cases h
      exact ⟨[], rfl, .none⟩

theorem spelled_of_takeSteps {steps : List StepNode} (h : takeSteps eof ts = .ok (steps, rest)) :
    ∃ us, ts = us ++ rest ∧ Sequence StepNode.Spelled steps us := by
  fun_induction takeSteps eof ts generalizing steps rest with
  | case1 =>
    cases h
    exact ⟨[], rfl, .nil⟩
  | case2 =>
    cases h
    exact ⟨[], rfl, .nil⟩
  | case3 => cases h
  | case4 => cases h
  | case5 t ts bare ht argument after hargument steps last hsteps ih =>
    cases h
    obtain ⟨us, rfl, hus⟩ := spelled_of_takeArgument hargument
    obtain ⟨vs, rfl, hvs⟩ := ih hsteps
    refine ⟨(t :: us) ++ vs, by simp, .cons (.intro ht hus) hvs⟩

theorem spelled_of_takeExamplesBlock {e : ExamplesNode}
    (hkind : blockAfterTags? ts = some .examples)
    (h : takeExamplesBlock eof ts = .ok (e, rest)) : ∃ us, ts = us ++ rest ∧ e.Spelled us := by
  unfold takeExamplesBlock at h
  dsimp only at h
  split at h
  · cases h
  · next header after hheader =>
    obtain ⟨hs, rfl, hhs⟩ := spelled_of_takeHeader hheader
    obtain ⟨description, ds, after, hdescription, rfl, hds⟩ :=
      takeRun_reads TextLine.ofToken? after
    obtain ⟨rows, rs, after, hrows, rfl, hrs⟩ := takeRun_reads Row.ofToken? after
    rw [hdescription] at h
    simp only [hrows] at h
    cases h
    rw [hhs.blockAfterTags?, Option.some.injEq] at hkind
    exact ⟨hs ++ (ds ++ rs), by simp, .intro hhs hkind hds hrs⟩

theorem spelled_of_takeExamples {es : List ExamplesNode}
    (h : takeExamples eof ts = .ok (es, rest)) :
    ∃ us, ts = us ++ rest ∧ Sequence ExamplesNode.Spelled es us := by
  fun_induction takeExamples eof ts generalizing es rest with
  | case1 => cases h
  | case2 => cases h
  | case3 ts hkind block after hblock blocks last hblocks ih =>
    cases h
    obtain ⟨us, rfl, hus⟩ := spelled_of_takeExamplesBlock hkind hblock
    obtain ⟨vs, rfl, hvs⟩ := ih hblocks
    exact ⟨us ++ vs, by simp, .cons hus hvs⟩
  | case4 =>
    cases h
    exact ⟨[], rfl, .nil⟩

/-- What a background and a scenario have in common; only a scenario is followed by examples. -/
theorem spelled_of_takeBlock {b : BlockNode} (h : takeBlock eof ts = .ok (b, rest)) :
    ∃ hs ds ss es, ts = hs ++ (ds ++ (ss ++ (es ++ rest))) ∧ b.header.Spelled hs ∧
      Reads TextLine.ofToken? b.description ds ∧ Sequence StepNode.Spelled b.steps ss ∧
      Sequence ExamplesNode.Spelled b.examples es ∧
      (b.header.kind = .background → b.examples = []) := by
  obtain ⟨⟨header, after⟩, hheader, h₁⟩ := bind_eq_ok_iff.1 h
  obtain ⟨hs, rfl, hhs⟩ := spelled_of_takeHeader hheader
  obtain ⟨description, ds, after, hdescription, rfl, hds⟩ := takeRun_reads TextLine.ofToken? after
  simp only [hdescription] at h₁
  obtain ⟨⟨steps, after⟩, hsteps, h₂⟩ := bind_eq_ok_iff.1 h₁
  obtain ⟨ss, rfl, hss⟩ := spelled_of_takeSteps hsteps
  dsimp only at h₂
  split at h₂
  · cases h₂
    exact ⟨hs, ds, ss, [], rfl, hhs, hds, hss, .nil, fun _ ↦ rfl⟩
  · next hnot =>
    obtain ⟨⟨examples, last⟩, hexamples, h₃⟩ := bind_eq_ok_iff.1 h₂
    obtain ⟨es, rfl, hes⟩ := spelled_of_takeExamples hexamples
    cases h₃
    exact ⟨hs, ds, ss, es, rfl, hhs, hds, hss, hes, fun hb ↦ absurd hb hnot⟩

theorem Header.Spelled.eq_singleton {header : Header} {hs rest : List Token}
    (h : header.Spelled hs) {kind : BlockKind}
    (hhead : (hs ++ rest).head?.bind Token.blockKind? = some kind) :
    ∃ t, hs = [t] ∧ Header.ofToken? [] t = some header := by
  cases h with
  | @intro run t hrun ht =>
    cases run with
    | nil => exact ⟨t, rfl, ht⟩
    | cons u run =>
      have hu : u.isTags := hrun u List.mem_cons_self
      cases hk : u.kind <;> simp_all [Token.isTags, Token.blockKind?]

theorem background_of_takeBlock {b : BlockNode}
    (hhead : ts.head?.bind Token.blockKind? = some .background)
    (h : takeBlock eof ts = .ok (b, rest)) : ∃ us, ts = us ++ rest ∧ b.SpelledBackground us := by
  obtain ⟨hs, ds, ss, es, rfl, hhs, hds, hss, hes, hnone⟩ := spelled_of_takeBlock h
  obtain ⟨t, rfl, ht⟩ := hhs.eq_singleton hhead
  obtain ⟨header, description, steps, examples⟩ := b
  have hkind : header.kind = .background := by
    have := (Header.kind_of_ofToken? ht).1
    simpa [this] using hhead
  obtain rfl := hnone hkind
  cases hes
  exact ⟨t :: (ds ++ ss), by simp, .intro ht hkind hds hss⟩

theorem scenario_of_takeBlock {b : BlockNode} (hstart : startsScenario ts)
    (h : takeBlock eof ts = .ok (b, rest)) : ∃ us, ts = us ++ rest ∧ b.SpelledScenario us := by
  obtain ⟨hs, ds, ss, es, rfl, hhs, hds, hss, hes, -⟩ := spelled_of_takeBlock h
  have hkind : b.header.OpensScenario := by
    simpa [startsScenario, hhs.blockAfterTags?, Header.OpensScenario] using hstart
  exact ⟨hs ++ (ds ++ (ss ++ es)), by simp, .intro hhs hkind hds hss hes⟩

theorem spelled_of_takeScenarios {bs : List BlockNode}
    (h : takeScenarios eof ts = .ok (bs, rest)) :
    ∃ us, ts = us ++ rest ∧ Sequence BlockNode.SpelledScenario bs us := by
  fun_induction takeScenarios eof ts generalizing bs rest with
  | case1 => cases h
  | case2 => cases h
  | case3 ts hstart block after hblock blocks last hblocks ih =>
    cases h
    obtain ⟨us, rfl, hus⟩ := scenario_of_takeBlock hstart hblock
    obtain ⟨vs, rfl, hvs⟩ := ih hblocks
    exact ⟨us ++ vs, by simp, .cons hus hvs⟩
  | case4 =>
    cases h
    exact ⟨[], rfl, .nil⟩

/-- No token is left over in a document that is not refused. -/
theorem eq_nil_of_expectEnd {start : DocumentKind} (h : expectEnd start ts = .ok ()) :
    ts = [] := by
  unfold expectEnd at h
  split at h
  · rfl
  · next t ts =>
    split at h
    · split at h
      · cases h
      · next hstray =>
        split at h
        · next hdrop =>
          -- Only tags before a header are not refused at once, and then the header is left.
          unfold strayTags? at hstray
          simp only [blockAfterTags?, hdrop] at hstray
          cases start <;> simp at hstray
        · cases h
    · cases h

/-- Bare steps that are read leave no token. -/
theorem takeSteps_of_parseSteps {steps : List StepNode} (h : parseSteps eof ts = .ok steps) :
    takeSteps eof ts = .ok (steps, []) := by
  obtain ⟨⟨taken, after⟩, htake, h₁⟩ := bind_eq_ok_iff.1 h
  obtain ⟨_, hend, h₂⟩ := bind_eq_ok_iff.1 h₁
  obtain rfl : after = [] := eq_nil_of_expectEnd hend
  cases h₂
  exact htake

/-- A feature that is read leaves no token. -/
theorem takeFeature_of_parseFeature {n : FeatureNode} (h : parseFeature eof ts = .ok n) :
    takeFeature eof ts = .ok (n, []) := by
  obtain ⟨⟨taken, after⟩, htake, h₁⟩ := bind_eq_ok_iff.1 h
  obtain ⟨_, hend, h₂⟩ := bind_eq_ok_iff.1 h₁
  obtain rfl : after = [] := eq_nil_of_expectEnd hend
  cases h₂
  exact htake

theorem spelled_of_parseSteps {steps : List StepNode} (h : parseSteps eof ts = .ok steps) :
    Sequence StepNode.Spelled steps ts := by
  obtain ⟨ss, rfl, hss⟩ := spelled_of_takeSteps (takeSteps_of_parseSteps h)
  rw [List.append_nil]
  exact hss

theorem spelled_of_takeFeature {n : FeatureNode} (h : takeFeature eof ts = .ok (n, rest)) :
    ∃ us, ts = us ++ rest ∧ n.Spelled us := by
  simp only [takeFeature, ne_eq, ite_not] at h
  split at h
  · next hkind =>
    obtain ⟨⟨header, after⟩, hheader, h₁⟩ := bind_eq_ok_iff.1 h
    obtain ⟨hs, rfl, hhs⟩ := spelled_of_takeHeader hheader
    have hfeature : header.kind = .feature :=
      Option.some.inj ((hhs.blockAfterTags? after).symm.trans hkind)
    obtain ⟨description, ds, after, hdescription, rfl, hds⟩ :=
      takeRun_reads TextLine.ofToken? after
    simp only [hdescription] at h₁
    split at h₁
    · next hbackground =>
      obtain ⟨⟨background, after⟩, hblock, h₂⟩ := bind_eq_ok_iff.1 h₁
      obtain ⟨bs, rfl, hbs⟩ := background_of_takeBlock hbackground hblock
      dsimp only at h₂
      split at h₂
      · cases h₂
      · obtain ⟨⟨scenarios, last⟩, hscenarios, h₃⟩ := bind_eq_ok_iff.1 h₂
        obtain ⟨ss, rfl, hss⟩ := spelled_of_takeScenarios hscenarios
        cases h₃
        have hsequence := Sequence.cons hbs .nil
        rw [List.append_nil] at hsequence
        refine ⟨hs ++ (ds ++ (bs ++ ss)), ?_, .intro hhs hfeature hds hsequence hss⟩
        simp only [List.append_assoc]
    · obtain ⟨⟨scenarios, last⟩, hscenarios, h₂⟩ := bind_eq_ok_iff.1 h₁
      obtain ⟨ss, rfl, hss⟩ := spelled_of_takeScenarios hscenarios
      cases h₂
      have hnone : Sequence BlockNode.SpelledBackground (none : Option BlockNode).toList [] := .nil
      refine ⟨hs ++ (ds ++ ([] ++ ss)), ?_, .intro hhs hfeature hds hnone hss⟩
      simp only [List.append_assoc, List.nil_append]
  · cases h

theorem spelled_of_parseFeature {n : FeatureNode} (h : parseFeature eof ts = .ok n) :
    n.Spelled ts := by
  obtain ⟨us, rfl, hus⟩ := spelled_of_takeFeature (takeFeature_of_parseFeature h)
  rw [List.append_nil]
  exact hus

end Gherkin.Tree
