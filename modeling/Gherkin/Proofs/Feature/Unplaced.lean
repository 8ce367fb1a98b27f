import Gherkin.Proofs.Feature.Built
import Gherkin.Proofs.Tree.Unplaced
import Gherkin.Feature.Printer

/-!
# Features apart from their places

What a feature says is left when its places, its source and its warnings are taken away. It depends
on what its tree says only, and it is all that is written down.

Main statements: trees that say the same give features that say the same
(`ParsedText.exists_unplaced`), and features that say the same are written in the same lines
(`Feature.lines_unplaced`).
-/

namespace Gherkin

def Table.unplaced (t : Table) : Table := { t with location := .nowhere, span := .nothing }

def DocString.unplaced (s : DocString) : DocString :=
  { s with location := .nowhere, span := .nothing }

def Description.unplaced (d : Description) : Description :=
  { d with location := .nowhere, span := .nothing }

def Step.unplaced (s : Step) : Step :=
  { s with
    table := s.table.map Table.unplaced, docString := s.docString.map DocString.unplaced
    location := .nowhere, span := .nothing }

def Background.unplaced (b : Background) : Background :=
  { b with
    description := b.description.map Description.unplaced, steps := b.steps.map Step.unplaced
    location := .nowhere, span := .nothing }

def Examples.unplaced (e : Examples) : Examples :=
  { e with
    description := e.description.map Description.unplaced, table := e.table.unplaced
    location := .nowhere, span := .nothing }

def Scenario.unplaced (s : Scenario) : Scenario :=
  { s with
    description := s.description.map Description.unplaced, steps := s.steps.map Step.unplaced
    examples := s.examples.map Examples.unplaced, location := .nowhere, span := .nothing }

/-- What the feature says, in whatever text it stands. -/
def Feature.unplaced (f : Feature) : Feature :=
  { f with
    description := f.description.map Description.unplaced
    background := f.background.map Background.unplaced
    scenarios := f.scenarios.map Scenario.unplaced
    source := [], warnings := [], location := .nowhere, span := .nothing }

/-- If each reading of a list succeeds on what says the same, the readings succeed together. -/
theorem exists_map_ok {ε α β γ δ : Type} {read : α → Except ε β} {bare : α → γ} {bare' : β → δ}
    (h : ∀ {item item' b}, read item = .ok b → bare item' = bare item →
      ∃ b', read item' = .ok b' ∧ bare' b' = bare' b)
    {items items' : List α} {bs : List β} (hitems : items'.map bare = items.map bare)
    (hread : items.map read = bs.map .ok) :
    ∃ bs' : List β, items'.map read = bs'.map .ok ∧ bs'.map bare' = bs.map bare' := by
  induction items generalizing items' bs with
  | nil =>
    obtain rfl := List.map_eq_nil_iff.1 hitems
    exact ⟨[], rfl, by rw [List.map_eq_nil_iff.1 hread.symm]⟩
  | cons item items ih =>
    obtain ⟨item', items', rfl, hitem, hitems⟩ := List.map_eq_cons_iff.1 hitems
    obtain ⟨b, bs, rfl, hb, hbs⟩ := List.map_eq_cons_iff.1 hread.symm
    obtain ⟨b', hb', hbare⟩ := h hb.symm hitem
    obtain ⟨bs', hbs', hbares⟩ := ih hitems hbs.symm
    exact ⟨b' :: bs', by rw [List.map_cons, List.map_cons, hb', hbs'], by
      rw [List.map_cons, List.map_cons, hbare, hbares]⟩

/-- What does not tell places apart gives the same for items that say the same. -/
theorem map_congr_of_bare {α β γ : Type} {bare : α → β} (g : β → γ) {items items' : List α}
    (h : items'.map bare = items.map bare) :
    items'.map (fun item ↦ g (bare item)) = items.map fun item ↦ g (bare item) := by
  simpa only [List.map_map, Function.comp_def] using congrArg (List.map g) h

theorem Table.exists_unplaced {rows rows' : List Tree.Row} {t : Table} (ht : ofRows rows = .ok t)
    (hrows : rows'.map Tree.Row.unplaced = rows.map Tree.Row.unplaced) :
    ∃ t', ofRows rows' = .ok t' ∧ t'.unplaced = t.unplaced := by
  have hcells : rows'.map (·.cells) = rows.map (·.cells) := map_congr_of_bare (·.cells) hrows
  obtain ⟨first, rest, rfl, hwidths, rfl⟩ := ofRows_eq_ok_iff.1 ht
  obtain ⟨first', rest', rfl, hfirst, -⟩ := List.map_eq_cons_iff.1 hcells
  refine ⟨_, ofRows_eq_ok_iff.2 ⟨first', rest', rfl, fun r hr ↦ ?_, rfl⟩, ?_⟩
  · have hmem : r.cells ∈ (first :: rest).map (·.cells) := hcells ▸ List.mem_map_of_mem hr
    obtain ⟨r', hr', heq⟩ := List.mem_map.1 hmem
    rw [← heq, hwidths r' hr', hfirst]
  · simp only [unplaced, hcells]

theorem Description.unplaced_ofLines {lines lines' : List Tree.TextLine}
    (h : lines'.map Tree.TextLine.unplaced = lines.map Tree.TextLine.unplaced) :
    (ofLines lines').map unplaced = (ofLines lines).map unplaced := by
  have htexts : lines'.map (·.text) = lines.map (·.text) := map_congr_of_bare (·.text) h
  cases lines with
  | nil => rw [List.map_eq_nil_iff.1 htexts]
  | cons first rest =>
    obtain ⟨first', rest', rfl, -, -⟩ := List.map_eq_cons_iff.1 htexts
    simp only [ofLines, Option.map_some, unplaced, htexts]

theorem Step.Given.exists_unplaced {argument argument' : Option Tree.Argument}
    {table : Option Table} {docString : Option DocString}
    (h : Given argument table docString)
    (hargument : argument'.map Tree.Argument.unplaced = argument.map Tree.Argument.unplaced) :
    ∃ table' docString', Given argument' table' docString' ∧
      table'.map Table.unplaced = table.map Table.unplaced ∧
      docString'.map DocString.unplaced = docString.map DocString.unplaced := by
  cases h with
  | nothing =>
    rw [Option.map_eq_none_iff.1 hargument]
    exact ⟨none, none, .nothing, rfl, rfl⟩
  | @table rows t ht =>
    obtain ⟨argument, rfl, hbare⟩ := Option.map_eq_some_iff.1 hargument
    cases argument with
    | string s => cases hbare
    | table rows' =>
      obtain ⟨t', ht', heq⟩ := Table.exists_unplaced ht (Tree.Argument.table.inj hbare)
      exact ⟨some t', none, .table ht', congrArg some heq, rfl⟩
  | string s =>
    obtain ⟨argument, rfl, hbare⟩ := Option.map_eq_some_iff.1 hargument
    cases argument with
    | table rows => cases hbare
    | string s' =>
      have hs : s'.unplaced = s.unplaced := Tree.Argument.string.inj hbare
      obtain ⟨d, type, content, location, span⟩ := s
      cases hs
      exact ⟨none, some _, .string _, rfl, rfl⟩

theorem Step.exists_unplaced {owner : Option BlockId} {phase : StepKind} {n n' : Tree.StepNode}
    {s : Step} (hs : ofNode owner phase n = .ok s) (hn : n'.unplaced = n.unplaced) :
    ∃ s', ofNode owner phase n' = .ok s' ∧ s'.unplaced = s.unplaced := by
  obtain ⟨table, docString, hgiven, rfl⟩ := ofNode_eq_ok_iff.1 hs
  obtain ⟨table', docString', hgiven', htable, hstring⟩ :=
    hgiven.exists_unplaced (congrArg (·.argument) hn)
  have hkind : n'.kind = n.kind := congrArg (·.kind) hn
  have hliteral : n'.literal = n.literal := congrArg (·.literal) hn
  have htext : n'.text = n.text := congrArg (·.text) hn
  refine ⟨_, ofNode_eq_ok_iff.2 ⟨table', docString', hgiven', rfl⟩, ?_⟩
  simp only [unplaced, ofParts, hkind, hliteral, htext, htable, hstring]

/-- The phases of steps depend on what the steps before them say only. -/
theorem Step.exists_unplaced_ofNodes {owner : Option BlockId} {ns ns' : List Tree.StepNode}
    {steps : List Step} (hsteps : ofNodes owner ns = .ok steps)
    (hns : ns'.map Tree.StepNode.unplaced = ns.map Tree.StepNode.unplaced) :
    ∃ steps', ofNodes owner ns' = .ok steps' ∧
      steps'.map unplaced = steps.map unplaced := by
  have hkinds : ns'.map (·.kind) = ns.map (·.kind) := map_congr_of_bare (·.kind) hns
  have hzip : ((StepKind.phases none (ns'.map (·.kind))).zip ns').map
      (Prod.map id Tree.StepNode.unplaced) =
      ((StepKind.phases none (ns.map (·.kind))).zip ns).map
        (Prod.map id Tree.StepNode.unplaced) := by
    rw [← List.zip_map_right, ← List.zip_map_right, hkinds, hns]
  have hstep {item item' : StepKind × Tree.StepNode} {s : Step}
      (hs : ofNode owner item.1 item.2 = .ok s)
      (hitem : Prod.map id Tree.StepNode.unplaced item' = Prod.map id Tree.StepNode.unplaced item) :
      ∃ s', ofNode owner item'.1 item'.2 = .ok s' ∧ s'.unplaced = s.unplaced := by
    obtain ⟨hphase, hn⟩ := Prod.mk.inj hitem
    rw [show item'.1 = item.1 from hphase]
    exact exists_unplaced hs hn
  obtain ⟨steps', hsteps', hbare⟩ := exists_map_ok hstep hzip (ofNodes_eq_ok_iff.1 hsteps)
  exact ⟨steps', ofNodes_eq_ok_iff.2 hsteps', hbare⟩

theorem Background.exists_unplaced {n n' : Tree.BlockNode} {b : Background}
    (hb : ofNode n = .ok b) (hn : n'.unplaced = n.unplaced) :
    ∃ b', ofNode n' = .ok b' ∧ b'.unplaced = b.unplaced := by
  obtain ⟨hheader, htexts, hnodes, -⟩ := Tree.BlockNode.mk.inj hn
  obtain ⟨steps, hsteps, rfl⟩ := ofNode_eq_ok_iff.1 hb
  obtain ⟨steps', hsteps', hbare⟩ := Step.exists_unplaced_ofNodes hsteps hnodes
  obtain ⟨-, -, hkeyword, hname, -⟩ := Tree.Header.mk.inj hheader
  refine ⟨_, ofNode_eq_ok_iff.2 ⟨steps', hsteps', rfl⟩, ?_⟩
  simp only [unplaced, hkeyword, hname, Description.unplaced_ofLines htexts, hbare]

theorem Examples.exists_unplaced {n n' : Tree.ExamplesNode} {e : Examples}
    (he : ofNode n = .ok e) (hn : n'.unplaced = n.unplaced) :
    ∃ e', ofNode n' = .ok e' ∧ e'.unplaced = e.unplaced := by
  obtain ⟨hheader, htexts, hrows⟩ := Tree.ExamplesNode.mk.inj hn
  obtain ⟨table, htable, rfl⟩ := ofNode_eq_ok_iff.1 he
  obtain ⟨table', htable', hbare⟩ := Table.exists_unplaced htable hrows
  obtain ⟨htags, -, hkeyword, hname, -⟩ := Tree.Header.mk.inj hheader
  refine ⟨_, ofNode_eq_ok_iff.2 ⟨table', htable', rfl⟩, ?_⟩
  simp only [unplaced, hkeyword, hname, htags, Description.unplaced_ofLines htexts, hbare]

theorem Scenario.exists_unplaced {index : Nat} {n n' : Tree.BlockNode} {s : Scenario}
    (hs : ofNode index n = .ok s) (hn : n'.unplaced = n.unplaced) :
    ∃ s', ofNode index n' = .ok s' ∧ s'.unplaced = s.unplaced := by
  obtain ⟨hheader, htexts, hnodes, hshown⟩ := Tree.BlockNode.mk.inj hn
  obtain ⟨hne, steps, examples, hsteps, hexamples, rfl⟩ := ofNode_eq_ok_iff.1 hs
  obtain ⟨steps', hsteps', hbare⟩ := Step.exists_unplaced_ofNodes hsteps hnodes
  obtain ⟨examples', hexamples', hbares⟩ :=
    exists_map_ok Examples.exists_unplaced hshown hexamples
  obtain ⟨htags, hkind, hkeyword, hname, -⟩ := Tree.Header.mk.inj hheader
  have houtlines : examples'.flatMap (fun e ↦ e.table.records) =
      examples.flatMap fun e ↦ e.table.records := by
    rw [List.flatMap_def, List.flatMap_def]
    exact congrArg List.flatten (map_congr_of_bare (fun e ↦ e.table.records) hbares)
  refine ⟨_, ofNode_eq_ok_iff.2 ⟨hname ▸ hne, steps', examples', hsteps', hexamples', rfl⟩, ?_⟩
  simp only [unplaced, hkeyword, hname, htags, hkind, Description.unplaced_ofLines htexts, hbare,
    hbares, houtlines]

theorem Background.exists_unplaced_option {n n' : Option Tree.BlockNode} {b : Option Background}
    (hb : n.map ofNode = b.map .ok)
    (hn : n'.map Tree.BlockNode.unplaced = n.map Tree.BlockNode.unplaced) :
    ∃ b' : Option Background, n'.map ofNode = b'.map .ok ∧
      b'.map unplaced = b.map unplaced := by
  cases n with
  | none =>
    rw [Option.map_eq_none_iff.1 hn]
    exact ⟨none, rfl, by rw [Option.map_eq_none_iff.1 hb.symm]⟩
  | some n =>
    obtain ⟨n', rfl, hbare⟩ := Option.map_eq_some_iff.1 hn
    obtain ⟨b, rfl, hread⟩ := Option.map_eq_some_iff.1 hb.symm
    obtain ⟨b', hb', hbare'⟩ := exists_unplaced hread.symm hbare
    exact ⟨some b', congrArg some hb', congrArg some hbare'⟩

theorem exists_unplaced_scenarios {ns ns' : List Tree.BlockNode} {scenarios : List Scenario}
    (hs : ns.mapIdx Scenario.ofNode = scenarios.map .ok)
    (hns : ns'.map Tree.BlockNode.unplaced = ns.map Tree.BlockNode.unplaced) :
    ∃ scenarios' : List Scenario, ns'.mapIdx Scenario.ofNode = scenarios'.map .ok ∧
      scenarios'.map Scenario.unplaced = scenarios.map Scenario.unplaced := by
  rw [List.mapIdx_eq_zipIdx_map] at hs ⊢
  have hzip : ns'.zipIdx.map (Prod.map Tree.BlockNode.unplaced (id)) =
      ns.zipIdx.map (Prod.map Tree.BlockNode.unplaced (id)) := by
    rw [List.map_zipIdx, List.map_zipIdx, hns]
  refine exists_map_ok (fun {item item' s} hread hitem ↦ ?_) hzip hs
  obtain ⟨hn, hindex⟩ := Prod.mk.inj hitem
  dsimp only
  rw [show item'.2 = item.2 from hindex]
  exact Scenario.exists_unplaced hread hn

/-- Trees that say the same in the same language give features that say the same. -/
theorem ParsedText.exists_unplaced {p : ParsedText} {n n' : Tree.FeatureNode} {f : Feature}
    (hf : p.toFeature = .ok f) (hp : p.tree = .document n) {p' : ParsedText}
    (hp' : p'.tree = .document n') (hlanguage : p'.language = p.language)
    (hn : n'.unplaced = n.unplaced) :
    ∃ f', p'.toFeature = .ok f' ∧ f'.unplaced = f.unplaced ∧ f'.warnings = p'.warnings := by
  obtain ⟨hheader, htexts, hbackground, hscenarios⟩ := Tree.FeatureNode.mk.inj hn
  obtain ⟨m, background, scenarios, hm, hname, hsome, hb, hs, rfl⟩ := toFeature_eq_ok_iff.1 hf
  obtain rfl : n = m := Tree.document.inj (hp.symm.trans hm)
  obtain ⟨htags, -, hkeyword, hnames, -⟩ := Tree.Header.mk.inj hheader
  have hsome' : n'.scenarios ≠ [] := by
    intro hnil
    rw [hnil, List.map_nil] at hscenarios
    exact hsome (List.map_eq_nil_iff.1 hscenarios.symm)
  obtain ⟨background', hb', hshared⟩ := Background.exists_unplaced_option hb hbackground
  obtain ⟨scenarios', hs', hsaid⟩ := exists_unplaced_scenarios hs hscenarios
  refine ⟨_, toFeature_eq_ok_iff.2
    ⟨n', background', scenarios', hp', hnames ▸ hname, hsome', hb', hs', rfl⟩, ?_, rfl⟩
  simp only [Feature.unplaced, hkeyword, hnames, htags, Description.unplaced_ofLines htexts,
    hshared, hsaid, hlanguage]

theorem descriptionLines_unplaced (d : Option Description) :
    descriptionLines (d.map Description.unplaced) = descriptionLines d := by
  cases d <;> rfl

theorem Step.lines_unplaced (indent : Nat) (s : Step) :
    s.unplaced.lines indent = s.lines indent := by
  have htable : s.unplaced.table.map Table.lines = s.table.map Table.lines := by
    rw [unplaced, Option.map_map]
    rfl
  have hstring : s.unplaced.docString.map (DocString.lines (indent + indentStep)) =
      s.docString.map (DocString.lines (indent + indentStep)) := by
    rw [unplaced, Option.map_map]
    rfl
  simp only [lines, htable, hstring]
  rfl

theorem Background.lines_unplaced (indent : Nat) (b : Background) :
    b.unplaced.lines indent = b.lines indent := by
  simp only [lines, unplaced, descriptionLines_unplaced, List.flatMap_map, Step.lines_unplaced]

theorem Examples.lines_unplaced (indent : Nat) (e : Examples) :
    e.unplaced.lines indent = e.lines indent := by
  simp only [lines, unplaced, descriptionLines_unplaced]
  rfl

theorem Scenario.lines_unplaced (indent : Nat) (s : Scenario) :
    s.unplaced.lines indent = s.lines indent := by
  simp only [lines, unplaced, descriptionLines_unplaced, List.flatMap_map, Step.lines_unplaced,
    Examples.lines_unplaced]

/-- What a feature says is all that is written down. -/
theorem Feature.lines_unplaced (f : Feature) : f.unplaced.lines = f.lines := by
  simp only [lines, unplaced, descriptionLines_unplaced, List.flatMap_map, Option.map_map,
    Function.comp_def, Background.lines_unplaced, Scenario.lines_unplaced]

end Gherkin
