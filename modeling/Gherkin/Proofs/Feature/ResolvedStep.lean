import Gherkin.Feature.Example
import Gherkin.Proofs.Feature.Printed
import Gherkin.Proofs.Feature.RoundTrip
import Gherkin.Proofs.Feature.WellFormed
import Gherkin.Proofs.Record
import Gherkin.Proofs.Registry.FeatureRun

/-!
# Steps of examples

A step that was read from a text without carriage returns is proper: each of its parts could be
written down and read again. Of this a step with the values of a row in it keeps what does not
depend on the values, which is its keyword, how wide its table is and of what type its string is.
The values bring in no carriage returns, as they stand in the same text.

Main statement: the steps of the examples of a feature (`shaped_of_mem_resolvedExamples`).
-/

namespace Gherkin

open Text (Solid OneLine)

/-- Each part of the step could be written down and read again. -/
structure Step.Proper (l : Language) (s : Step) : Prop where
  line : (TokenKind.step s.kind s.literal s.text).Proper .full l
  rows : ∀ t ∈ s.table, ∀ row ∈ t.rows, (TokenKind.row row).Proper .full l
  string : ∀ d ∈ s.docString,
    (TokenKind.docString d.delimiter d.contentType d.content).Proper .full l

/-- What is known of a step whatever values were filled in. -/
structure Step.Shaped (l : Language) (s : Step) : Prop where
  keyword : ⟨s.literal, s.kind⟩ ∈ l.steps
  rectangular : ∀ t ∈ s.table, t.Rectangular
  type : ∀ d ∈ s.docString, ∀ label ∈ d.contentType, label ≠ [] ∧ Solid label ∧ OneLine label
  no_return : ∀ d ∈ s.docString, '\r' ∉ d.content
  one_argument : s.table = none ∨ s.docString = none

namespace Step

variable {l : Language} {s : Step}

theorem proper_of_ofNode {owner : Option BlockId} {phase : StepKind} {n : Tree.StepNode}
    (h : ofNode owner phase n = .ok s) (hn : ProperLeaves l n.leaves) : s.Proper l := by
  obtain ⟨table, docString, hgiven, rfl⟩ := ofNode_eq_ok_iff.1 h
  obtain ⟨hline, hargument⟩ := List.forall_mem_cons.1 hn
  refine ⟨hline, fun t ht row hrow ↦ ?_, fun d hd ↦ ?_⟩ <;>
    generalize n.argument = argument at hgiven hargument
  · cases hgiven with
    | nothing => cases ht
    | string s => cases ht
    | table htable =>
      cases ht
      obtain ⟨first, rest, -, -, rfl⟩ := Table.ofRows_eq_ok_iff.1 htable
      obtain ⟨r, hr, rfl⟩ := List.mem_map.1 hrow
      exact hargument _ (List.mem_map_of_mem hr)
  · cases hgiven with
    | nothing => cases hd
    | table htable => cases hd
    | string s =>
      cases hd
      exact hargument _ List.mem_cons_self

theorem Proper.shaped (h : s.Proper l) {owner : BlockId} (hs : s.WellFormed owner) :
    s.Shaped l where
  keyword := h.line.1
  rectangular := hs.table
  type d hd := (h.string d hd).1
  no_return d hd := ((h.string d hd).2 rfl).return_not_mem
  one_argument := hs.one_argument

end Step

/-- What a record of pairs holds is the value of one of them. -/
theorem Record.exists_of_get?_ofList {pairs : List (Text × Text)} {key value : Text}
    (h : (Record.ofList pairs).get? key = some value) : ∃ p ∈ pairs, p.2 = value := by
  rw [(holds_ofList pairs).get?_eq] at h
  obtain ⟨later, earlier, hpairs, -⟩ := List.lookup_eq_some_iff.1 h
  have hmem : (key, value) ∈ pairs.reverse := hpairs ▸ List.mem_append_right _ List.mem_cons_self
  exact ⟨_, List.mem_reverse.1 hmem, rfl⟩

/-- What is read off a row of a table is one of its cells. -/
theorem Table.exists_of_mem_records {t : Table} {row : Record} (hrow : row ∈ t.records)
    {name value : Text} (h : row.get? name = some value) : ∃ cells ∈ t.rows, value ∈ cells := by
  obtain ⟨cells, hcells, rfl⟩ := List.mem_map.1 hrow
  obtain ⟨p, hp, rfl⟩ := Record.exists_of_get?_ofList h
  exact ⟨cells, List.mem_of_mem_tail hcells, (List.of_mem_zip hp).2⟩

/-- A text that is filled in holds nothing that neither it nor a value held before. -/
theorem mem_of_mem_substitute {row : Record} {t : Text} {c : Char} (h : c ∈ substitute row t) :
    c ∈ t ∨ ∃ name value, row.get? name = some value ∧ c ∈ value := by
  obtain ⟨piece, hpiece, hc⟩ := List.mem_flatMap.1 h
  have hwritten (hc : c ∈ piece.toText) : c ∈ t := by
    rw [← flatMap_toText_ofText t]
    exact List.mem_flatMap.2 ⟨piece, hpiece, hc⟩
  cases piece with
  | literal d => exact .inl (hwritten hc)
  | placeholder name =>
    rw [Piece.fill] at hc
    cases hget : row.get? name with
    | none =>
      rw [hget, Option.getD_none] at hc
      exact .inl (hwritten hc)
    | some value =>
      rw [hget, Option.getD_some] at hc
      exact .inr ⟨name, value, hget, hc⟩

theorem Table.Rectangular.resolve {t : Table} (h : t.Rectangular) (row : Record) :
    (t.resolve row).Rectangular := by
  obtain ⟨first, rest, hrows⟩ := List.exists_cons_of_ne_nil h.rows_ne_nil
  have hwidth : (t.resolve row).width = t.width := by
    rw [Table.width, Table.header, Table.resolve, Table.width, Table.header, hrows]
    exact List.length_map _
  refine ⟨fun hnil ↦ h.rows_ne_nil (List.map_eq_nil_iff.1 hnil), fun cells hcells ↦ ?_⟩
  obtain ⟨before, hbefore, rfl⟩ := List.mem_map.1 hcells
  rw [hwidth, List.length_map, h.length_eq before hbefore]

/-- Values without carriage returns leave a step its shape. -/
theorem Step.Shaped.resolve {l : Language} {s : Step} (h : s.Shaped l) {row : Record}
    (hrow : ∀ name value, row.get? name = some value → '\r' ∉ value) :
    (s.resolve row).Shaped l where
  keyword := h.keyword
  rectangular := by
    intro t ht
    obtain ⟨t', ht', rfl⟩ := Option.map_eq_some_iff.1 ht
    exact (h.rectangular t' ht').resolve row
  type := by
    intro d hd
    obtain ⟨d', hd', rfl⟩ := Option.map_eq_some_iff.1 hd
    exact h.type d' hd'
  no_return := by
    intro d hd hreturn
    obtain ⟨d', hd', rfl⟩ := Option.map_eq_some_iff.1 hd
    rcases mem_of_mem_substitute hreturn with hmem | ⟨name, value, hget, hmem⟩
    · exact h.no_return d' hd' hmem
    · exact hrow name value hget hmem
  one_argument := by
    refine h.one_argument.imp (fun hnone ↦ ?_) fun hnone ↦ ?_
    · rw [Step.resolve, hnone, Option.map_none]
    · rw [Step.resolve, hnone, Option.map_none]

/-- The row that a line says is read off what follows its first bar. -/
theorem exists_of_classify_row {l : Language} {content : Text} {cells : List Text}
    (h : Token.classify l content = .ok (.row cells)) :
    ∃ body, content = '|' :: body ∧ Cell.ofRow? body = some cells := by
  by_cases hbar : content.head? = some '|'
  · obtain ⟨body, rfl⟩ := List.head?_eq_some_iff.1 hbar
    rw [Token.classify] at h
    cases hrow : Cell.ofRow? body with
    | none => rw [hrow] at h; cases h
    | some read => rw [hrow] at h; cases h; exact ⟨body, rfl, hrow⟩
  by_cases hat : content.head? = some '@'
  · obtain ⟨rest, rfl⟩ := List.head?_eq_some_iff.1 hat
    obtain ⟨names, -, hnames⟩ := map_eq_ok_iff.1 h
    cases hnames
  rw [classify_of_head hbar hat] at h
  cases hheader : l.readHeader? content with
  | some b => rw [hheader] at h; cases h
  | none =>
    rw [hheader] at h
    cases hstep : l.readStep? content with
    | some s => rw [hstep] at h; cases h
    | none => rw [hstep] at h; cases h

/-- The cells of a row hold no carriage returns. -/
def TokenKind.Returnless (kind : TokenKind) : Prop :=
  ∀ cells, kind = .row cells → ∀ cell ∈ cells, '\r' ∉ cell

theorem returnless_of_ofText {l : Language} {path : Option Text} {source : Text}
    (hsource : '\r' ∉ source) {lexed : Lexed} (h : Lexed.ofText l path source = .ok lexed) :
    ∀ t ∈ lexed.tokens, t.kind.Returnless := by
  intro t ht cells hkind cell hcell hreturn
  obtain ⟨c, hc, hfrom⟩ := Lexed.exists_from_of_mem_ofChunks h ht
  cases hfrom with
  | string => cases hkind
  | @line line kind hclassify =>
    rw [show kind = .row cells from hkind] at hclassify
    obtain ⟨body, hcontent, hrow⟩ := exists_of_classify_row hclassify
    have hline : line ∈ SourceLine.ofText source := by
      rw [← Chunk.flatMap_lines_ofLines (SourceLine.ofText source)]
      exact List.mem_flatMap.2 ⟨_, hc, List.mem_singleton.2 rfl⟩
    have hbody : body ⊆ source := by
      intro d hd
      have hmem : d ∈ line.content := hcontent ▸ List.mem_cons_of_mem _ hd
      exact (SourceLine.text_subset_of_mem_ofText hline).2 (Text.trim_subset _ hmem)
    rcases Cell.mem_of_mem_ofRow? hrow hcell hreturn with hmem | hfeed
    · exact hsource (hbody hmem)
    · exact absurd hfeed (by decide)

theorem Scenario.proper_of_ofNode {l : Language} {index : Nat} {n : Tree.BlockNode} {c : Scenario}
    (h : ofNode index n = .ok c) (hn : ProperLeaves l n.leaves) : ∀ s ∈ c.steps, s.Proper l := by
  obtain ⟨-, steps, examples, hsteps, -, rfl⟩ := ofNode_eq_ok_iff.1 h
  intro s hs
  obtain ⟨phase, m, hm, hread⟩ := Step.exists_node_of_ofNodes hsteps s hs
  exact Step.proper_of_ofNode hread fun leaf hleaf ↦
    hn leaf (Tree.BlockNode.leaves_step_subset hm hleaf)

/-- The values in the rows of a scenario are cells of the document. -/
theorem Scenario.return_not_mem_of_ofNode {index : Nat} {n : Tree.BlockNode} {c : Scenario}
    (h : ofNode index n = .ok c) (hn : ∀ leaf ∈ n.leaves, leaf.kind.Returnless) :
    ∀ row ∈ c.outlines, ∀ name value, row.get? name = some value → '\r' ∉ value := by
  obtain ⟨-, steps, examples, -, hexamples, rfl⟩ := ofNode_eq_ok_iff.1 h
  intro row hrow name value hget
  obtain ⟨e, he, hrow⟩ := List.mem_flatMap.1 hrow
  obtain ⟨m, hm, hread⟩ := exists_of_map_eq_ok hexamples he
  obtain ⟨table, htable, rfl⟩ := Examples.ofNode_eq_ok_iff.1 hread
  obtain ⟨cells, hcells, hvalue⟩ := Table.exists_of_mem_records hrow hget
  obtain ⟨first, rest, -, -, rfl⟩ := Table.ofRows_eq_ok_iff.1 htable
  obtain ⟨r, hr, rfl⟩ := List.mem_map.1 hcells
  have hleaf : r.leaf ∈ n.leaves := by
    apply Tree.BlockNode.leaves_examples_subset hm
    simp only [Tree.ExamplesNode.leaves, List.mem_append]
    exact .inr (.inr (List.mem_map_of_mem hr))
  exact hn r.leaf hleaf _ rfl value hvalue

theorem exists_scenarioNode_of_parseFeature {options : ParseOptions} {text : Text}
    (htext : '\r' ∉ text) {f : Feature} (hf : parseFeature options text = .ok f)
    (hl : f.language.Legible) {c : Scenario} (hc : c ∈ f.scenarios) :
    ∃ index n, Scenario.ofNode index n = .ok c ∧ TidyLeaves n.leaves ∧
      ProperLeaves f.language n.leaves ∧ ∀ leaf ∈ n.leaves, leaf.kind.Returnless := by
  obtain ⟨language, lexed, n, -, hlexed, hn, hbuilt⟩ := parseFeature_eq_ok_iff.1 hf
  obtain rfl : f.language = language := ParsedText.language_of_toFeature hbuilt
  have hsource : '\r' ∉ dropByteOrderMark text :=
    fun hmem ↦ htext (dropByteOrderMark_subset text hmem)
  have hmerged := (Tree.spelled_of_parseFeature hn).keeps.mergeTags_eq
  have htidy := tidy_of_mem_mergeTags (tidy_of_ofText hlexed)
  have hproper := proper_of_mem_mergeTags (proper_of_ofText hl hsource hlexed)
  have hreturnless := Tree.forall_mem_mergeTags (returnless_of_ofText hsource hlexed)
    fun _ _ _ _ ↦ nofun
  rw [hmerged] at htidy hproper hreturnless
  obtain ⟨index, node, hnode, hleaves⟩ :=
    (ParsedText.exists_blocks_of_toFeature hbuilt rfl).2 c hc
  exact ⟨index, node, hnode, fun leaf hleaf ↦ htidy leaf (hleaves hleaf),
    fun leaf hleaf ↦ hproper leaf (hleaves hleaf),
    fun leaf hleaf ↦ hreturnless leaf (hleaves hleaf)⟩

/-- Every step of an example keeps its shape, and one into which nothing was filled is proper. -/
theorem shaped_of_mem_resolvedExamples {options : ParseOptions} {text : Text} (htext : '\r' ∉ text)
    {f : Feature} (hf : parseFeature options text = .ok f) (hl : f.language.Legible)
    {c : Scenario} (hc : c ∈ f.scenarios) {e : Example} (he : e ∈ c.resolvedExamples) {s : Step}
    (hs : s ∈ e.steps) :
    s.Shaped f.language ∧ (e.outline = none → s.Proper f.language ∧
      s.sentence = sentenceOfLine (s.literal ++ s.text)) := by
  obtain ⟨index, n, hn, htidy, hproper, hreturnless⟩ :=
    exists_scenarioNode_of_parseFeature htext hf hl hc
  have hsteps := Scenario.proper_of_ofNode hn hproper
  have hwell := (Scenario.wellFormed_of_ofNode hn htidy).steps.each
  rw [Scenario.resolvedExamples_eq_written, Scenario.writtenExamples] at he
  split at he
  · rw [List.mem_singleton.1 he] at hs
    exact ⟨(hsteps s hs).shaped (hwell s hs), fun _ ↦ ⟨hsteps s hs, (hwell s hs).sentence_eq⟩⟩
  · obtain ⟨row, hrow, rfl⟩ := List.mem_map.1 he
    obtain ⟨template, htemplate, rfl⟩ := List.mem_map.1 hs
    have hshaped := (hsteps template htemplate).shaped (hwell template htemplate)
    exact ⟨hshaped.resolve (Scenario.return_not_mem_of_ofNode hn hreturnless row hrow), nofun⟩

end Gherkin
