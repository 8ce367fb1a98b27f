import Gherkin.Feature.Example
import Gherkin.Proofs.Feature.Printed
import Gherkin.Proofs.Feature.SqueezedText
import Gherkin.Proofs.Feature.WellFormed

/-!
# Sentences of resolved steps

The sentence of a step is its keyword and its body with white space collapsed, and a row is filled
into the sentence and into the body apart. The two still agree as far as filling in and collapsing
can change places, which depends on the placeholders of the body and on the values for them.

Main statement: `sentence_resolve`.
-/

namespace Gherkin

open Text (Solid isSpace squeeze collapse)

/-- The step was read from a text, as part of a feature or among bare steps. -/
inductive Step.Read (options : ParseOptions) (text : Text) (s : Step) : Prop where
  | background {f : Feature} {b : Background} (hf : parseFeature options text = .ok f)
    (hb : b ∈ f.background) (hs : s ∈ b.steps)
  | scenario {f : Feature} {c : Scenario} (hf : parseFeature options text = .ok f)
    (hc : c ∈ f.scenarios) (hs : s ∈ c.steps)
  | bare {steps : List Step} (hsteps : parseSteps options text = .ok steps) (hs : s ∈ steps)

/-- The keyword and the body of a step, and the sentence that is made of them. -/
structure Step.Spoken (s : Step) : Prop where
  literal_head : s.literal.head?.all fun c ↦ !isSpace c
  literal_ne_nil : s.literal ≠ []
  no_opening : '<' ∉ s.literal
  text_solid : Solid s.text
  text_ne_nil : s.text ≠ []
  sentence_eq : s.sentence = sentenceOfLine (s.literal ++ s.text)

/-- No step keyword opens a placeholder. -/
theorem no_opening_of_mem_bundles :
    ∀ b ∈ Language.bundles, ∀ k ∈ b.vocabulary.stepKeywords, '<' ∉ k.literal := by
  decide +kernel

theorem no_opening_of_find? {code : Text} {l : Language} (h : Language.find? code = some l) :
    ∀ k ∈ l.steps, '<' ∉ k.literal := by
  obtain ⟨b, hb, rfl⟩ := Language.mem_bundles_of_find? h
  exact fun k hk ↦ no_opening_of_mem_bundles b hb k (List.mem_mergeSort.1 hk)

theorem Step.spoken_of_ofNode {l : Language} {code : Text} (hl : Language.find? code = some l)
    {owner : Option BlockId} {phase : StepKind} {n : Tree.StepNode} {s : Step}
    (h : Step.ofNode owner phase n = .ok s) (hn : ReadableLeaves .outline l n.leaves) :
    s.Spoken := by
  obtain ⟨table, docString, -, rfl⟩ := Step.ofNode_eq_ok_iff.1 h
  obtain ⟨hk, hsolid, -, hne⟩ : (TokenKind.step n.kind n.literal n.text).Proper .outline l :=
    hn _ List.mem_cons_self
  have hopens := (Language.readable_of_find? hl).step_opens _ hk
  refine ⟨?_, opensLine_ne_nil hopens, no_opening_of_find? hl _ hk, hsolid, hne, rfl⟩
  have hhead := (speaks_of_opensLine hopens []).2.2.2
  rwa [List.append_nil] at hhead

theorem Step.spoken_of_ofNodes {l : Language} {code : Text} (hl : Language.find? code = some l)
    {owner : Option BlockId} {ns : List Tree.StepNode} {steps : List Step}
    (h : Step.ofNodes owner ns = .ok steps)
    (hns : ∀ n ∈ ns, ReadableLeaves .outline l n.leaves) : ∀ s ∈ steps, s.Spoken := by
  intro s hs
  obtain ⟨phase, n, hn, hread⟩ := exists_node_of_ofNodes h s hs
  exact spoken_of_ofNode hl hread (hns n hn)

/-- Every step of a document is spoken. -/
theorem ParsedText.spoken_of_toFeature {p : ParsedText} {n : Tree.FeatureNode} {f : Feature}
    (h : p.toFeature = .ok f) (hp : p.tree = .document n) {code : Text}
    (hl : Language.find? code = some p.language)
    (hn : ReadableLeaves .outline p.language n.leaves) :
    (∀ b ∈ f.background, ∀ s ∈ b.steps, s.Spoken) ∧
      ∀ c ∈ f.scenarios, ∀ s ∈ c.steps, s.Spoken := by
  obtain ⟨hbackground, hscenarios⟩ := exists_blocks_of_toFeature h hp
  have hsteps {node : Tree.BlockNode} (hleaves : node.leaves ⊆ n.leaves) :
      ∀ m ∈ node.steps, ReadableLeaves .outline p.language m.leaves :=
    fun m hm leaf hleaf ↦ hn leaf (hleaves (Tree.BlockNode.leaves_step_subset hm hleaf))
  constructor
  · intro b hb
    obtain ⟨node, hread, hleaves⟩ := hbackground b hb
    obtain ⟨steps, hnodes, rfl⟩ := Background.ofNode_eq_ok_iff.1 hread
    exact Step.spoken_of_ofNodes hl hnodes (hsteps hleaves)
  · intro c hc
    obtain ⟨index, node, hread, hleaves⟩ := hscenarios c hc
    obtain ⟨-, steps, examples, hnodes, -, rfl⟩ := Scenario.ofNode_eq_ok_iff.1 hread
    exact Step.spoken_of_ofNodes hl hnodes (hsteps hleaves)

theorem Step.Read.spoken {options : ParseOptions} {text : Text} {s : Step}
    (h : s.Read options text) : s.Spoken := by
  have hfeature {f : Feature} (hf : parseFeature options text = .ok f) :
      (∀ b ∈ f.background, ∀ s ∈ b.steps, s.Spoken) ∧
        ∀ c ∈ f.scenarios, ∀ s ∈ c.steps, s.Spoken := by
    obtain ⟨language, lexed, n, hlanguage, hlexed, hn, hbuilt⟩ := parseFeature_eq_ok_iff.1 hf
    refine ParsedText.spoken_of_toFeature hbuilt rfl hlanguage ?_
    rw [← (Tree.spelled_of_parseFeature hn).keeps.mergeTags_eq]
    exact proper_of_mem_mergeTags
      (proper_of_ofText_upTo (Language.readable_of_find? hlanguage) nofun hlexed)
  cases h with
  | background hf hb hs => exact (hfeature hf).1 _ hb s hs
  | scenario hf hc hs => exact (hfeature hf).2 _ hc s hs
  | bare hsteps hs =>
    obtain ⟨language, lexed, ns, hlanguage, hlexed, hns, hbuilt⟩ := parseSteps_eq_ok_iff.1 hsteps
    refine spoken_of_ofNodes hlanguage hbuilt (List.forall_mem_flatMap.1 ?_) s hs
    rw [← (Tree.keeps_of_sequence @Tree.StepNode.Spelled.keeps
      (Tree.spelled_of_parseSteps hns)).mergeTags_eq]
    exact proper_of_mem_mergeTags
      (proper_of_ofText_upTo (Language.readable_of_find? hlanguage) nofun hlexed)

theorem Step.Spoken.solid {s : Step} (h : s.Spoken) : Solid (s.literal ++ s.text) :=
  .append h.literal_head h.literal_ne_nil h.text_solid.last h.text_ne_nil

/-- The sentence of a resolved step has the words of its keyword and its body if the row knows each
placeholder of the body by its squeezed name and by its name alike; it is the sentence of keyword
and body if moreover the values for them are collapsed and not empty. -/
theorem sentence_resolve (options : ParseOptions) (text : Text) (s : Step)
    (hs : s.Read options text) (row : Record) (hnames : row.NamesAlike s.text) :
    sentenceOfLine (s.resolve row).sentence =
        sentenceOfLine ((s.resolve row).literal ++ (s.resolve row).text) ∧
      (row.ValuesCollapsed s.text → (s.resolve row).sentence =
        sentenceOfLine ((s.resolve row).literal ++ (s.resolve row).text)) := by
  have hspoken := hs.spoken
  have hline : (s.resolve row).literal ++ (s.resolve row).text =
      substitute row (s.literal ++ s.text) :=
    (substitute_append_of_not_mem hspoken.no_opening s.text).symm
  have hsentence : (s.resolve row).sentence = substitute row (squeeze (s.literal ++ s.text)) := by
    rw [Step.resolve, hspoken.sentence_eq, sentenceOfLine, hspoken.solid.collapse_eq]
  have hplaceholders := placeholders_append_of_not_mem hspoken.no_opening s.text
  rw [hline, hsentence]
  have hnames' : row.NamesAlike (s.literal ++ s.text) := by
    rwa [Record.NamesAlike, hplaceholders]
  refine ⟨Text.collapse_eq_of_squeeze_eq (squeeze_substitute_squeeze hnames'), fun hvalues ↦ ?_⟩
  have hvalues' : row.ValuesCollapsed (s.literal ++ s.text) := by
    rwa [Record.ValuesCollapsed, hplaceholders]
  have hsolid : Solid (substitute row (s.literal ++ s.text)) :=
    ⟨all_head?_substitute hvalues' hspoken.solid.head,
      all_getLast?_substitute hvalues' hspoken.solid.last⟩
  rw [substitute_squeeze hnames' hvalues', sentenceOfLine, hsolid.collapse_eq]

def addition : Text := "Given I  add <n>\n".toList

theorem exists_read_addition : ∃ s : Step, s.Read {} addition ∧ s.literal = "Given ".toList ∧
    s.text = "I  add <n>".toList ∧ s.sentence = "Given I add <n>".toList := by
  have hcode : (declaredLanguage? (dropByteOrderMark addition) <|> none).getD
      Language.defaultCode = Language.defaultCode := by decide +kernel
  have hread : (parseSteps {} addition).toOption.map (·.map fun s ↦
      (s.literal, s.text, s.sentence)) =
      some [("Given ".toList, "I  add <n>".toList, "Given I add <n>".toList)] := by
    simp only [parseSteps, parse]
    rw [hcode, Language.find?_defaultCode]
    decide +kernel
  cases h : parseSteps {} addition with
  | error e =>
    rw [h] at hread
    cases hread
  | ok steps =>
    rw [h] at hread
    obtain ⟨s, rfl, hs⟩ := List.map_eq_singleton_iff.1 (Option.some.inj hread)
    obtain ⟨hliteral, hrest⟩ := Prod.mk.inj hs
    obtain ⟨htext, hsentence⟩ := Prod.mk.inj hrest
    exact ⟨s, .bare h List.mem_cons_self, hliteral, htext, hsentence⟩

theorem sentence_resolve_addition : ∃ (s : Step) (row : Record), s.Read {} addition ∧
    row.NamesAlike s.text ∧ row.ValuesCollapsed s.text ∧
    (s.resolve row).sentence = sentenceOfLine ((s.resolve row).literal ++ (s.resolve row).text) ∧
    (s.resolve row).sentence = "Given I add <n> 2".toList := by
  obtain ⟨s, hs, -, htext, hsentence⟩ := exists_read_addition
  let row : Record := .ofList [("n".toList, "<n> 2".toList)]
  have hnames : row.NamesAlike s.text := by
    rw [htext]
    decide +kernel
  have hvalues : row.ValuesCollapsed s.text := by
    rw [htext]
    decide +kernel
  have hfilled : substitute row "Given I add <n>".toList = "Given I add <n> 2".toList := by
    decide +kernel
  exact ⟨s, row, hs, hnames, hvalues, (sentence_resolve {} addition s hs row hnames).2 hvalues,
    (congrArg (substitute row) hsentence).trans hfilled⟩

/-- A value with a run of white space is filled into the sentence as it is. -/
theorem not_sentence_resolve : ¬∀ (options : ParseOptions) (text : Text) (s : Step) (row : Record),
    s.Read options text → (s.resolve row).sentence =
      sentenceOfLine ((s.resolve row).literal ++ (s.resolve row).text) := by
  intro h
  obtain ⟨s, hs, hliteral, htext, hsentence⟩ := exists_read_addition
  have hagree := h {} addition s (.ofList [("n".toList, "1  2".toList)]) hs
  simp only [Step.resolve, hliteral, htext, hsentence] at hagree
  revert hagree
  decide +kernel

end Gherkin
