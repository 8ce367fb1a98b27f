import Gherkin.Proofs.Feature.Built
import Gherkin.Proofs.Token.Proper
import Gherkin.Proofs.Tree.Soundness

/-!
# Features that reading gives

Whoever is handed a feature may rely on it: names are there where they have to be, tables have rows
of one width, a step has a body and knows its block and its phase, and tags are words of which none
is named twice. Some of this is seen to when lines are read, some when the structure is, and some
when the feature is built; here it stands in one place.

Main statements: the phase of a step is the kind of the latest step that opens one
(`StepKind.phases_append_cons`), and a feature that is read from any text is well formed
(`wellFormed_of_parseFeature`).
-/

namespace Gherkin

/-- The table has rows, and they are as wide as the header. -/
structure Table.Rectangular (t : Table) : Prop where
  rows_ne_nil : t.rows ≠ []
  length_eq : ∀ row ∈ t.rows, row.length = t.width

/-- The phase that is open after steps of some kinds: the latest of the kinds that open one, else
the first phase. -/
def StepKind.phaseAfter (kinds : List StepKind) : StepKind :=
  (kinds.filter fun k ↦ k ∈ [context, action, outcome]).getLast?.getD context

/-- The step is one of the steps of a block. -/
structure Step.WellFormed (owner : BlockId) (s : Step) : Prop where
  owner_eq : s.owner = some owner
  text_ne_nil : s.text ≠ []
  sentence_eq : s.sentence = sentenceOfLine (s.literal ++ s.text)
  table : ∀ t ∈ s.table, t.Rectangular
  one_argument : s.table = none ∨ s.docString = none

/-- The steps are those of a block. -/
structure Step.AllWellFormed (owner : BlockId) (steps : List Step) : Prop where
  each : ∀ s ∈ steps, s.WellFormed owner
  phase_eq : ∀ before s after, steps = before ++ s :: after →
    s.phase = StepKind.phaseAfter ((before ++ [s]).map (·.kind))

structure Examples.WellFormed (e : Examples) : Prop where
  tags : TagList e.tags
  table : e.table.Rectangular

/-- The scenario is the one at an index of its feature. -/
structure Scenario.WellFormed (index : Nat) (s : Scenario) : Prop where
  name_ne_nil : s.name ≠ []
  index_eq : s.index = index
  tags : TagList s.tags
  steps : Step.AllWellFormed (.scenario index) s.steps
  examples : ∀ e ∈ s.examples, e.WellFormed
  outlines_eq : s.outlines = s.examples.flatMap fun e ↦ e.table.records

/-- The feature is what reading promises. The owner of a step leads back to the block that it stands
in. -/
structure Feature.WellFormed (f : Feature) : Prop where
  name_ne_nil : f.name ≠ []
  tags : TagList f.tags
  scenarios_ne_nil : f.scenarios ≠ []
  background : ∀ b ∈ f.background, Step.AllWellFormed .background b.steps
  scenario : ∀ (k : Nat) (s : Scenario), f.scenarios[k]? = some s → s.WellFormed k
  background_block : ∀ b ∈ f.background, ∀ s ∈ b.steps,
    s.owner.bind f.block = some ⟨b.name, b.steps, b.location⟩
  scenario_block : ∀ c ∈ f.scenarios, ∀ s ∈ c.steps,
    s.owner.bind f.block = some ⟨c.name, c.steps, c.location⟩

namespace StepKind

/-- Up to a step, the phases are those of the steps before it and then its own. -/
theorem phases_append_cons (opened : Option StepKind) (ks : List StepKind) (k : StepKind)
    (rest : List StepKind) :
    ∃ more, phases opened (ks ++ k :: rest) = phases opened ks ++
      (((ks ++ [k]).filter fun k ↦ k ∈ [context, action, outcome]).getLast?.or opened).getD context
        :: more := by
  induction ks generalizing opened with
  | nil =>
    refine ⟨phases (k.resolve opened).2 rest, ?_⟩
    cases k <;> rfl
  | cons k' ks ih =>
    obtain ⟨more, hmore⟩ := ih (k'.resolve opened).2
    refine ⟨more, ?_⟩
    rw [List.cons_append, phases, hmore, phases, List.cons_append, List.cons_append]
    congr 4
    -- a kind that opens a phase stands for whatever was open before it
    cases k' <;> simp [resolve, continuesPhase, List.filter_cons, List.getLast?_cons]

end StepKind

theorem Table.rectangular_of_ofRows {rows : List Tree.Row} {t : Table}
    (h : Table.ofRows rows = .ok t) : t.Rectangular := by
  obtain ⟨first, rest, rfl, hwidths, rfl⟩ := Table.ofRows_eq_ok_iff.1 h
  refine ⟨List.cons_ne_nil _ _, fun row hrow ↦ ?_⟩
  obtain ⟨r, hr, rfl⟩ := List.mem_map.1 hrow
  exact hwidths r hr

namespace Step

variable {owner : BlockId} {ns : List Tree.StepNode} {steps : List Step}

/-- The phases of the steps of a block follow from their kinds. -/
theorem map_phase_of_ofNodes (h : Step.ofNodes (some owner) ns = .ok steps) :
    steps.map (·.phase) = StepKind.phases none (steps.map (·.kind)) := by
  have hnodes := Step.ofNodes_eq_ok_iff.1 h
  have hlength := StepKind.length_phases none (ns.map (·.kind))
  rw [List.length_map] at hlength
  have hphases : steps.map (·.phase) = StepKind.phases none (ns.map (·.kind)) := by
    rw [map_eq_of_map_eq_ok (fun p ↦ p.1) Step.phase (fun p s hs ↦ ?_) hnodes]
    · exact List.map_fst_zip (Nat.le_of_eq hlength)
    · obtain ⟨table, docString, -, rfl⟩ := Step.ofNode_eq_ok_iff.1 hs
      rfl
  have hkinds : steps.map (·.kind) = ns.map (·.kind) := by
    rw [map_eq_of_map_eq_ok (fun p ↦ p.2.kind) Step.kind (fun p s hs ↦ ?_) hnodes]
    · calc
        _ = (((StepKind.phases none (ns.map (·.kind))).zip ns).map Prod.snd).map (·.kind) :=
          List.map_map.symm
        _ = ns.map (·.kind) := by rw [List.map_snd_zip (Nat.le_of_eq hlength.symm)]
    · obtain ⟨table, docString, -, rfl⟩ := Step.ofNode_eq_ok_iff.1 hs
      rfl
  rw [hphases, hkinds]

theorem rectangular_of_ofNode {owner : Option BlockId} {phase : StepKind} {n : Tree.StepNode}
    {s : Step} (h : Step.ofNode owner phase n = .ok s) : ∀ t ∈ s.table, t.Rectangular := by
  obtain ⟨table, docString, hgiven, rfl⟩ := Step.ofNode_eq_ok_iff.1 h
  intro t ht
  generalize n.argument = argument at hgiven
  cases hgiven with
  | nothing => cases ht
  | table hrows =>
    cases ht
    exact Table.rectangular_of_ofRows hrows
  | string s => cases ht

theorem wellFormed_of_ofNode {phase : StepKind} {n : Tree.StepNode} {s : Step}
    (h : Step.ofNode (some owner) phase n = .ok s) (htext : n.text ≠ []) :
    s.WellFormed owner := by
  have htable := rectangular_of_ofNode h
  obtain ⟨table, docString, hgiven, rfl⟩ := Step.ofNode_eq_ok_iff.1 h
  refine ⟨rfl, htext, rfl, htable, ?_⟩
  generalize n.argument = argument at hgiven
  cases hgiven with
  | nothing => exact .inl rfl
  | table _ => exact .inr rfl
  | string s => exact .inl rfl

theorem allWellFormed_of_ofNodes (h : Step.ofNodes (some owner) ns = .ok steps)
    (htext : ∀ n ∈ ns, n.text ≠ []) : Step.AllWellFormed owner steps := by
  refine ⟨fun s hs ↦ ?_, ?_⟩
  · obtain ⟨⟨phase, n⟩, hn, hread⟩ := exists_of_map_eq_ok (Step.ofNodes_eq_ok_iff.1 h) hs
    exact wellFormed_of_ofNode hread (htext n (List.of_mem_zip hn).2)
  · rintro before s after rfl
    have hphases := map_phase_of_ofNodes h
    simp only [List.map_append, List.map_cons] at hphases
    obtain ⟨more, hmore⟩ := StepKind.phases_append_cons none (before.map (·.kind)) s.kind
      (after.map (·.kind))
    rw [hmore] at hphases
    have hlength : (before.map (·.phase)).length =
        (StepKind.phases none (before.map (·.kind))).length := by
      rw [StepKind.length_phases, List.length_map, List.length_map]
    obtain ⟨-, hrest⟩ := List.append_inj hphases hlength
    rw [(List.cons.inj hrest).1, StepKind.phaseAfter, List.map_append, Option.or_none]
    rfl

end Step

def TidyLeaves (leaves : List Leaf) : Prop := ∀ leaf ∈ leaves, leaf.kind.Tidy

theorem tidyLeaves_append_iff {ls ms : List Leaf} :
    TidyLeaves (ls ++ ms) ↔ TidyLeaves ls ∧ TidyLeaves ms := List.forall_mem_append

theorem tidyLeaves_flatMap_iff {α : Type} {leaves : α → List Leaf} {items : List α} :
    TidyLeaves (items.flatMap leaves) ↔ ∀ item ∈ items, TidyLeaves (leaves item) :=
  List.forall_mem_flatMap

theorem tagList_of_tidyLeaves {h : Tree.Header} (hleaves : TidyLeaves h.leaves) :
    TagList h.tags := by
  by_cases hnone : h.tags = []
  · rw [hnone]
    exact ⟨.nil, fun _ hname ↦ absurd hname List.not_mem_nil⟩
  · have hmem : (⟨.tags h.tags, none⟩ : Leaf) ∈ h.leaves := by
      rw [Tree.Header.leaves, Tree.tagLeaves, if_neg hnone]
      exact List.mem_cons_self
    exact hleaves _ hmem

theorem text_ne_nil_of_tidyLeaves {ns : List Tree.StepNode}
    (hleaves : TidyLeaves (ns.flatMap Tree.StepNode.leaves)) : ∀ n ∈ ns, n.text ≠ [] :=
  fun n hn ↦ tidyLeaves_flatMap_iff.1 hleaves n hn _ List.mem_cons_self

theorem Examples.wellFormed_of_ofNode {n : Tree.ExamplesNode} {e : Examples}
    (h : Examples.ofNode n = .ok e) (hleaves : TidyLeaves n.leaves) : e.WellFormed := by
  obtain ⟨table, htable, rfl⟩ := Examples.ofNode_eq_ok_iff.1 h
  exact ⟨tagList_of_tidyLeaves (tidyLeaves_append_iff.1 hleaves).1,
    Table.rectangular_of_ofRows htable⟩

theorem Background.allWellFormed_of_ofNode {n : Tree.BlockNode} {b : Background}
    (h : Background.ofNode n = .ok b) (hleaves : TidyLeaves n.leaves) :
    Step.AllWellFormed .background b.steps := by
  obtain ⟨steps, hsteps, rfl⟩ := Background.ofNode_eq_ok_iff.1 h
  simp only [Tree.BlockNode.leaves, tidyLeaves_append_iff] at hleaves
  obtain ⟨-, -, hstepLeaves, -⟩ := hleaves
  exact Step.allWellFormed_of_ofNodes hsteps (text_ne_nil_of_tidyLeaves hstepLeaves)

theorem Scenario.wellFormed_of_ofNode {index : Nat} {n : Tree.BlockNode} {s : Scenario}
    (h : Scenario.ofNode index n = .ok s) (hleaves : TidyLeaves n.leaves) :
    s.WellFormed index := by
  obtain ⟨hname, steps, examples, hsteps, hexamples, rfl⟩ := Scenario.ofNode_eq_ok_iff.1 h
  simp only [Tree.BlockNode.leaves, tidyLeaves_append_iff] at hleaves
  obtain ⟨hheader, -, hstepLeaves, hexampleLeaves⟩ := hleaves
  refine ⟨hname, rfl, tagList_of_tidyLeaves hheader,
    Step.allWellFormed_of_ofNodes hsteps (text_ne_nil_of_tidyLeaves hstepLeaves),
    fun e he ↦ ?_, rfl⟩
  obtain ⟨m, hm, hread⟩ := exists_of_map_eq_ok hexamples he
  exact Examples.wellFormed_of_ofNode hread (tidyLeaves_flatMap_iff.1 hexampleLeaves m hm)

/-- Each step comes from a node. -/
theorem Step.exists_node_of_ofNodes {owner : Option BlockId} {ns : List Tree.StepNode}
    {steps : List Step} (h : ofNodes owner ns = .ok steps) :
    ∀ s ∈ steps, ∃ phase, ∃ n ∈ ns, ofNode owner phase n = .ok s := by
  intro s hs
  obtain ⟨⟨phase, n⟩, hn, hread⟩ := exists_of_map_eq_ok (ofNodes_eq_ok_iff.1 h) hs
  exact ⟨phase, n, (List.of_mem_zip hn).2, hread⟩

/-- The leaves of the steps of a block are leaves of the block. -/
theorem Tree.BlockNode.leaves_step_subset {b : BlockNode} {n : StepNode} (h : n ∈ b.steps) :
    n.leaves ⊆ b.leaves := by
  intro leaf hleaf
  have hmem : leaf ∈ b.steps.flatMap StepNode.leaves := List.mem_flatMap.2 ⟨n, h, hleaf⟩
  rw [leaves, List.mem_append, List.mem_append, List.mem_append]
  exact .inr (.inr (.inl hmem))

/-- The leaves of the examples of a block are leaves of the block. -/
theorem Tree.BlockNode.leaves_examples_subset {b : BlockNode} {e : ExamplesNode}
    (h : e ∈ b.examples) : e.leaves ⊆ b.leaves := by
  intro leaf hleaf
  have hmem : leaf ∈ b.examples.flatMap ExamplesNode.leaves := List.mem_flatMap.2 ⟨e, h, hleaf⟩
  rw [leaves, List.mem_append, List.mem_append, List.mem_append]
  exact .inr (.inr (.inr hmem))

/-- The background and each scenario come from a block of the document. -/
theorem ParsedText.exists_blocks_of_toFeature {p : ParsedText} {n : Tree.FeatureNode} {f : Feature}
    (h : p.toFeature = .ok f) (hp : p.tree = .document n) :
    (∀ b ∈ f.background, ∃ node, Background.ofNode node = .ok b ∧ node.leaves ⊆ n.leaves) ∧
      ∀ c ∈ f.scenarios, ∃ index node, Scenario.ofNode index node = .ok c ∧
        node.leaves ⊆ n.leaves := by
  obtain ⟨m, background, scenarios, hm, -, -, hbackground, hscenarios, rfl⟩ :=
    toFeature_eq_ok_iff.1 h
  obtain rfl : n = m := Tree.document.inj (hp.symm.trans hm)
  constructor
  · rintro b rfl
    obtain ⟨node, hnode, hread⟩ := Option.map_eq_some_iff.1 hbackground
    refine ⟨node, hread, fun leaf hleaf ↦ ?_⟩
    simp only [Tree.FeatureNode.leaves, List.mem_append, List.mem_flatMap]
    exact .inr (.inr (.inl ⟨node, Option.mem_toList.2 hnode, hleaf⟩))
  · intro c hc
    rw [List.mapIdx_eq_zipIdx_map] at hscenarios
    obtain ⟨⟨node, index⟩, hnode, hread⟩ := exists_of_map_eq_ok hscenarios hc
    refine ⟨index, node, hread, fun leaf hleaf ↦ ?_⟩
    simp only [Tree.FeatureNode.leaves, List.mem_append, List.mem_flatMap]
    exact .inr (.inr (.inr ⟨node, List.fst_mem_of_mem_zipIdx hnode, hleaf⟩))

/-- The block that a step names as its owner is the one that it stands in. -/
theorem Feature.block_of_owner {f : Feature} {owner : BlockId} {steps : List Step} {block : Block}
    (hsteps : Step.AllWellFormed owner steps) (hblock : f.block owner = some block) :
    ∀ s ∈ steps, s.owner.bind f.block = some block := by
  intro s hs
  rw [(hsteps.each s hs).owner_eq, Option.bind_some, hblock]

theorem ParsedText.wellFormed_of_toFeature {p : ParsedText} {n : Tree.FeatureNode} {f : Feature}
    (h : p.toFeature = .ok f) (hp : p.tree = .document n) (hleaves : TidyLeaves n.leaves) :
    f.WellFormed := by
  obtain ⟨m, background, scenarios, hm, hname, hsome, hbackground, hscenarios, rfl⟩ :=
    ParsedText.toFeature_eq_ok_iff.1 h
  obtain rfl : n = m := Tree.document.inj (hp.symm.trans hm)
  simp only [Tree.FeatureNode.leaves, tidyLeaves_append_iff] at hleaves
  obtain ⟨hheader, -, hbackgroundLeaves, hscenarioLeaves⟩ := hleaves
  have hb : ∀ b ∈ background, Step.AllWellFormed .background b.steps := by
    rintro b rfl
    obtain ⟨node, hnode, hread⟩ := Option.map_eq_some_iff.1 hbackground
    refine Background.allWellFormed_of_ofNode hread ?_
    exact tidyLeaves_flatMap_iff.1 hbackgroundLeaves node (Option.mem_toList.2 hnode)
  have hs : ∀ (k : Nat) (s : Scenario), scenarios[k]? = some s → s.WellFormed k := by
    intro k s hget
    have hread : (n.scenarios.mapIdx Scenario.ofNode)[k]? = some (.ok s) := by
      rw [hscenarios, List.getElem?_map, hget, Option.map_some]
    rw [List.getElem?_mapIdx, Option.map_eq_some_iff] at hread
    obtain ⟨node, hnode, hread⟩ := hread
    refine Scenario.wellFormed_of_ofNode hread ?_
    exact tidyLeaves_flatMap_iff.1 hscenarioLeaves node (List.mem_of_getElem? hnode)
  refine ⟨hname, tagList_of_tidyLeaves hheader, ?_, hb, hs, fun b hmem ↦ ?_, fun c hc ↦ ?_⟩
  · rintro rfl
    exact hsome (List.mapIdx_eq_nil_iff.1 hscenarios)
  · refine Feature.block_of_owner (hb b hmem) ?_
    exact congrArg (Option.map _) (Option.mem_def.1 hmem)
  · obtain ⟨k, hk⟩ := List.mem_iff_getElem?.1 hc
    refine Feature.block_of_owner (hs k c hk).steps ?_
    exact congrArg (Option.map _) hk

/-- The leaves of the tree of a text are tidy, as the tokens of the text are. -/
theorem tidyLeaves_of_ofText {l : Language} {path : Option Text} {source : Text} {lexed : Lexed}
    {eof : Location} {n : Tree.FeatureNode} (hlexed : Lexed.ofText l path source = .ok lexed)
    (hn : Tree.parseFeature eof lexed.tokens = .ok n) : TidyLeaves n.leaves := by
  rw [TidyLeaves, ← (Tree.spelled_of_parseFeature hn).keeps.mergeTags_eq]
  exact tidy_of_mem_mergeTags (tidy_of_ofText hlexed)

/-- A feature that is read from any text in any language is well formed. -/
theorem wellFormed_of_parseFeature (options : ParseOptions) (text : Text) (f : Feature)
    (h : parseFeature options text = .ok f) : f.WellFormed := by
  obtain ⟨language, lexed, n, -, hlexed, hn, hbuilt⟩ := parseFeature_eq_ok_iff.1 h
  exact ParsedText.wellFormed_of_toFeature hbuilt rfl (tidyLeaves_of_ofText hlexed hn)

/-- A document with repeated tags, conjunctions before and after a phase is opened, a table, and a
row of examples that comes twice. -/
def teaText : Text :=
  ("@hot @hot\nFeature: Tea\nBackground:\n* a pot\nWhen I wait\n" ++
    "Scenario Outline: Cups\nAnd I pour\n|n|\n@few\nExamples:\n|n|\n|1|\n|1|\n").toList

theorem wellFormed_of_teaText :
    ∃ f, parseFeature {} teaText = .ok f ∧ f.scenarios.map (·.outlines.length) = [2] ∧
      f.WellFormed := by
  have hcode : (declaredLanguage? (dropByteOrderMark teaText) <|> none).getD
      Language.defaultCode = Language.defaultCode := by decide +kernel
  have hread : (parseFeature {} teaText).toOption.map
      (fun f ↦ f.scenarios.map (·.outlines.length)) = some [2] := by
    simp only [parseFeature, parse]
    rw [hcode, Language.find?_defaultCode]
    decide +kernel
  cases h : parseFeature {} teaText with
  | error e =>
    rw [h] at hread
    cases hread
  | ok f =>
    rw [h] at hread
    exact ⟨f, rfl, Option.some.inj hread, wellFormed_of_parseFeature {} teaText f h⟩

end Gherkin
