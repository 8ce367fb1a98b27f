import Gherkin.Proofs.Feature.Built
import Gherkin.Proofs.Token.Says

/-!
# What written features say

The lines of each part of a feature say what the leaves of its node say, at whatever indentation the
part is written. The widths of columns, the empty lines between blocks and the lines that guard the
content of strings leave no trace.

Main statement: the lines of a feature say what the leaves of its tree say (`says_feature`).
-/

namespace Gherkin

open Text (Solid OneLine)

/-- Each leaf could be written down and read again, as far as it is asked for. -/
def ReadableLeaves (d : Detail) (l : Language) (leaves : List Leaf) : Prop :=
  ∀ leaf ∈ leaves, leaf.kind.Proper d l

/-- Each leaf could be written down and read again. -/
abbrev ProperLeaves (l : Language) (leaves : List Leaf) : Prop := ReadableLeaves .full l leaves

section Written

variable {d : Detail} {l : Language}

theorem readableLeaves_append_iff {ls ms : List Leaf} :
    ReadableLeaves d l (ls ++ ms) ↔ ReadableLeaves d l ls ∧ ReadableLeaves d l ms :=
  List.forall_mem_append

/-- Parts that were read one by one say together what their nodes say. -/
theorem says_flatMap_of_read {ε α β γ : Type} {read : α → Except ε β} {write : β → List Text}
    (node : α → γ) {leaves : γ → List Leaf} {items : List α} {bs : List β}
    (hread : items.map read = bs.map .ok)
    (hproper : ReadableLeaves d l ((items.map node).flatMap leaves))
    (h : ∀ {item b}, read item = .ok b → ReadableLeaves d l (leaves (node item)) →
      Says d l (write b) (kindsOf (leaves (node item)))) :
    Says d l (bs.flatMap write) (kindsOf ((items.map node).flatMap leaves)) := by
  induction items generalizing bs with
  | nil =>
    rw [List.map_eq_nil_iff.1 hread.symm]
    exact .nil
  | cons item items ih =>
    obtain ⟨b, bs, rfl, hb, hbs⟩ := List.map_eq_cons_iff.1 hread.symm
    simp only [List.map_cons, List.flatMap_cons] at hproper ⊢
    obtain ⟨hitem, hitems⟩ := readableLeaves_append_iff.1 hproper
    rw [kindsOf_append]
    exact (h hb.symm hitem).append (ih hbs.symm hitems)

/-- An empty line above a part says nothing. -/
theorem Says.below_blank {lines : List Text} {kinds : List TokenKind} (h : Says d l lines kinds) :
    Says d l ([] :: lines) kinds :=
  says_blank.append h

theorem says_header (hl : l.Readable d) {h : Tree.Header} (hproper : ReadableLeaves d l h.leaves)
    (indent : Nat) :
    Says d l ((tagLines h.tags).map (indented indent) ++
      [indented indent (headerLine h.keyword h.name)]) (kindsOf h.leaves) := by
  obtain ⟨htags, hline⟩ := readableLeaves_append_iff.1 hproper
  rw [Tree.Header.leaves, kindsOf_append]
  exact (says_tagLines htags indent).append (says_headerLine hl (hline _ List.mem_cons_self) indent)

theorem says_description {lines : List Tree.TextLine}
    (hproper : ReadableLeaves d l (lines.map Tree.TextLine.leaf)) (indent : Nat) :
    Says d l ((descriptionLines (Description.ofLines lines)).map (indented indent))
      (kindsOf (lines.map Tree.TextLine.leaf)) := by
  have hlines : descriptionLines (Description.ofLines lines) = lines.map (·.text) := by
    cases lines <;> rfl
  rw [hlines, kindsOf, List.map_map, List.map_map, List.map_eq_flatMap, List.map_eq_flatMap]
  exact .flatMap fun line hline ↦ says_text (hproper _ (List.mem_map_of_mem hline)) indent

theorem length_widen (widths : List Nat) (row : List Text) :
    (widen widths row).length = widths.length := by
  fun_induction widen widths row with
  | case1 w ws cell cells ih => rw [List.length_cons, List.length_cons, ih]
  | case2 => rfl

theorem length_foldl_widen (rows : List (List Text)) (widths : List Nat) :
    (rows.foldl widen widths).length = widths.length := by
  induction rows generalizing widths with
  | nil => rfl
  | cons row rows ih => rw [List.foldl_cons, ih, length_widen]

theorem Table.lines_eq (t : Table) : t.lines = t.rows.map fun row ↦
    rowLine ((t.rows.map (·.map Cell.escape)).foldl widen (List.replicate t.width 0))
      (row.map Cell.escape) :=
  List.map_map

/-- A table whose rows are as wide as the header says its rows. -/
theorem says_tableLines {t : Table} (hwidths : ∀ row ∈ t.rows, row.length = t.width)
    (hproper : ∀ row ∈ t.rows, (TokenKind.row row).Proper d l) (indent : Nat) :
    Says d l (t.lines.map (indented indent)) (t.rows.map .row) := by
  rw [t.lines_eq]
  refine says_rows (fun row hrow ↦ ?_) hproper indent
  rw [length_foldl_widen, List.length_replicate, hwidths row hrow]

theorem says_table {rows : List Tree.Row} {t : Table} (ht : Table.ofRows rows = .ok t)
    (hproper : ReadableLeaves d l (rows.map Tree.Row.leaf)) (indent : Nat) :
    Says d l (t.lines.map (indented indent)) (kindsOf (rows.map Tree.Row.leaf)) := by
  obtain ⟨first, rest, hrows, hwidths, rfl⟩ := Table.ofRows_eq_ok_iff.1 ht
  have hkinds : kindsOf (rows.map Tree.Row.leaf) = (rows.map (·.cells)).map .row := by
    rw [kindsOf, List.map_map, List.map_map]
    rfl
  rw [hkinds]
  refine says_tableLines (fun row hrow ↦ ?_) (fun row hrow ↦ ?_) indent
  · obtain ⟨r, hr, rfl⟩ := List.mem_map.1 hrow
    rw [hwidths r hr, hrows]
    rfl
  · obtain ⟨r, hr, rfl⟩ := List.mem_map.1 hrow
    exact hproper _ (List.mem_map_of_mem hr)

theorem says_given {argument : Option Tree.Argument} {table : Option Table}
    {docString : Option DocString} (h : Step.Given argument table docString)
    (hproper : ReadableLeaves d l (Tree.Argument.leaves argument)) (indent : Nat) :
    Says d l (((table.map Table.lines).getD []).map (indented indent) ++
      (docString.map (DocString.lines indent)).getD [])
      (kindsOf (Tree.Argument.leaves argument)) := by
  cases h with
  | nothing => exact .nil
  | table ht =>
    rw [Option.map_none, Option.getD_none, List.append_nil]
    exact says_table ht hproper indent
  | string s => exact says_docString (hproper _ List.mem_cons_self) indent

theorem says_stepNode (hl : l.Readable d) {owner : Option BlockId} {phase : StepKind}
    {n : Tree.StepNode} {s : Step} (hs : Step.ofNode owner phase n = .ok s)
    (hproper : ReadableLeaves d l n.leaves) (indent : Nat) :
    Says d l (s.lines indent) (kindsOf n.leaves) := by
  obtain ⟨table, docString, hgiven, rfl⟩ := Step.ofNode_eq_ok_iff.1 hs
  obtain ⟨hline, hargument⟩ := List.forall_mem_cons.1 hproper
  rw [Step.lines, List.append_assoc]
  exact (says_step hl hline indent).append (says_given hgiven hargument (indent + indentStep))

theorem says_steps (hl : l.Readable d) {owner : Option BlockId} {ns : List Tree.StepNode}
    {steps : List Step} (hsteps : Step.ofNodes owner ns = .ok steps)
    (hproper : ReadableLeaves d l (ns.flatMap Tree.StepNode.leaves)) (indent : Nat) :
    Says d l (steps.flatMap (Step.lines indent)) (kindsOf (ns.flatMap Tree.StepNode.leaves)) := by
  have hlength : ns.length = (StepKind.phases none (ns.map (·.kind))).length := by
    rw [StepKind.length_phases, List.length_map]
  have hsnd : ((StepKind.phases none (ns.map (·.kind))).zip ns).map Prod.snd = ns :=
    List.map_snd_zip (Nat.le_of_eq hlength)
  have hsaid := says_flatMap_of_read Prod.snd (Step.ofNodes_eq_ok_iff.1 hsteps)
    (hsnd.symm ▸ hproper) fun hs hn ↦ says_stepNode hl hs hn indent
  rwa [hsnd] at hsaid

theorem says_background (hl : l.Readable d) {n : Tree.BlockNode} {b : Background}
    (hb : Background.ofNode n = .ok b) (htags : n.header.tags = []) (hexamples : n.examples = [])
    (hproper : ReadableLeaves d l n.leaves) (indent : Nat) :
    Says d l (b.lines indent) (kindsOf n.leaves) := by
  obtain ⟨steps, hsteps, rfl⟩ := Background.ofNode_eq_ok_iff.1 hb
  simp only [Tree.BlockNode.leaves, readableLeaves_append_iff] at hproper
  obtain ⟨hheader, hdescription, hnodes, -⟩ := hproper
  have hline := says_header hl hheader indent
  rw [htags] at hline
  have htexts := says_description hdescription (indent + indentStep)
  have hsaid := says_steps hl hsteps hnodes (indent + indentStep)
  simp only [Tree.BlockNode.leaves, hexamples, kindsOf_append, List.flatMap_nil, List.append_nil]
  rw [Background.lines, List.append_assoc]
  exact hline.append (htexts.append hsaid)

theorem says_examples (hl : l.Readable d) {n : Tree.ExamplesNode} {e : Examples}
    (he : Examples.ofNode n = .ok e) (hproper : ReadableLeaves d l n.leaves) (indent : Nat) :
    Says d l (e.lines indent) (kindsOf n.leaves) := by
  obtain ⟨table, htable, rfl⟩ := Examples.ofNode_eq_ok_iff.1 he
  simp only [Tree.ExamplesNode.leaves, readableLeaves_append_iff] at hproper
  obtain ⟨hheader, hdescription, hrows⟩ := hproper
  have htexts := says_description hdescription (indent + indentStep)
  have hsaid := says_table htable hrows (indent + indentStep)
  simp only [Tree.ExamplesNode.leaves, kindsOf_append]
  rw [Examples.lines, List.map_append]
  exact (says_header hl hheader indent).append (htexts.append hsaid)

theorem says_scenario (hl : l.Readable d) {index : Nat} {n : Tree.BlockNode} {s : Scenario}
    (hs : Scenario.ofNode index n = .ok s) (hproper : ReadableLeaves d l n.leaves) (indent : Nat) :
    Says d l (s.lines indent) (kindsOf n.leaves) := by
  obtain ⟨-, steps, examples, hsteps, hexamples, rfl⟩ := Scenario.ofNode_eq_ok_iff.1 hs
  simp only [Tree.BlockNode.leaves, readableLeaves_append_iff] at hproper
  obtain ⟨hheader, hdescription, hnodes, hshown⟩ := hproper
  have htexts := says_description hdescription (indent + indentStep)
  have hsaid := says_steps hl hsteps hnodes (indent + indentStep)
  have hblocks := says_flatMap_of_read (fun n ↦ n) hexamples (by rwa [List.map_id'])
    fun he hn ↦ (says_examples hl he hn (indent + indentStep)).below_blank
  rw [List.map_id'] at hblocks
  simp only [Tree.BlockNode.leaves, kindsOf_append]
  rw [Scenario.lines, List.append_assoc, List.append_assoc]
  exact (says_header hl hheader indent).append (htexts.append (hsaid.append hblocks))

/-- The line that names the language of a document is a comment. -/
theorem says_languageLines {code : Text} (hsolid : Solid code) (hone : OneLine code)
    (hne : code ≠ []) : Says d l (languageLines code) [] := by
  rw [languageLines]
  split
  · exact .nil
  · have hbegins : OneLine ("# language: " : String).toList := by decide
    exact says_comment (hbegins.append hone)
      (.append (s := "# language: ".toList) rfl (by decide) hsolid.last hne)

theorem indented_zero (line : Text) : indented 0 line = line := rfl

theorem says_firstBlock (hl : l.Readable d) {n : Option Tree.BlockNode} {b : Option Background}
    (hb : n.map Background.ofNode = b.map .ok)
    (hbare : ∀ node ∈ n, node.header.tags = [] ∧ node.examples = [])
    (hproper : ReadableLeaves d l (n.toList.flatMap Tree.BlockNode.leaves)) (indent : Nat) :
    Says d l ((b.map fun b ↦ [] :: b.lines indent).getD [])
      (kindsOf (n.toList.flatMap Tree.BlockNode.leaves)) := by
  cases n with
  | none =>
    rw [Option.map_eq_none_iff.1 hb.symm]
    exact .nil
  | some n =>
    obtain ⟨b, rfl, hread⟩ := Option.map_eq_some_iff.1 hb.symm
    obtain ⟨htags, hexamples⟩ := hbare n rfl
    rw [Option.toList_some, List.flatMap_singleton] at hproper ⊢
    exact (says_background hl hread.symm htags hexamples hproper indent).below_blank

theorem says_scenarios (hl : l.Readable d) {ns : List Tree.BlockNode} {scenarios : List Scenario}
    (hs : ns.mapIdx Scenario.ofNode = scenarios.map .ok)
    (hproper : ReadableLeaves d l (ns.flatMap Tree.BlockNode.leaves)) (indent : Nat) :
    Says d l (scenarios.flatMap fun s ↦ [] :: s.lines indent)
      (kindsOf (ns.flatMap Tree.BlockNode.leaves)) := by
  have hfst : ns.zipIdx.map Prod.fst = ns := List.zipIdx_map_fst 0 ns
  rw [List.mapIdx_eq_zipIdx_map] at hs
  have hsaid := says_flatMap_of_read Prod.fst hs (hfst.symm ▸ hproper)
    fun hs hn ↦ (says_scenario hl hs hn indent).below_blank
  rwa [hfst] at hsaid

/-- The lines of a feature say what the leaves of its tree say. -/
theorem says_feature {p : ParsedText} {n : Tree.FeatureNode} {f : Feature}
    (hf : p.toFeature = .ok f) (hp : p.tree = .document n) (hl : l.Readable d)
    (hcode : Solid p.language.code ∧ OneLine p.language.code ∧ p.language.code ≠ [])
    {ts : List Token} (hn : n.Spelled ts) (hproper : ReadableLeaves d l n.leaves) :
    Says d l f.lines (kindsOf n.leaves) := by
  obtain ⟨m, background, scenarios, hm, -, -, hb, hs, rfl⟩ := ParsedText.toFeature_eq_ok_iff.1 hf
  obtain rfl : n = m := Tree.document.inj (hp.symm.trans hm)
  simp only [Tree.FeatureNode.leaves, readableLeaves_append_iff] at hproper
  obtain ⟨hheader, hdescription, hshared, hblocks⟩ := hproper
  have hlanguage := says_languageLines (d := d) (l := l) hcode.1 hcode.2.1 hcode.2.2
  have hline : Says d l (tagLines n.header.tags ++ [headerLine n.header.keyword n.header.name])
      (kindsOf n.header.leaves) := by
    have hindented := says_header hl hheader 0
    rwa [funext indented_zero, List.map_id'] at hindented
  have htexts := says_description hdescription indentStep
  have hopening := says_firstBlock hl hb hn.background_bare hshared indentStep
  have hsaid := says_scenarios hl hs hblocks indentStep
  simp only [Tree.FeatureNode.leaves, kindsOf_append]
  have hall := hlanguage.append (hline.append (htexts.append (hopening.append hsaid)))
  simpa only [Feature.lines, List.append_assoc, List.nil_append] using hall

end Written

end Gherkin
