import Gherkin.Parse
import Gherkin.Proofs.Readings

/-!
# What a feature is built from

Each rule that turns a node into a part of a feature succeeds under a condition on the node, and the
part is then determined. Both are said here once for each sort of node, and for a text as a whole.

Main statements: the rules `Table.ofRows_eq_ok_iff`, `Step.ofNode_eq_ok_iff`,
`Background.ofNode_eq_ok_iff`, `Examples.ofNode_eq_ok_iff`, `Scenario.ofNode_eq_ok_iff`,
`ParsedText.toFeature_eq_ok_iff`, `parseFeature_eq_ok_iff` and `parseSteps_eq_ok_iff`.
-/

namespace Gherkin

/-- All is read if each reading gives something. -/
theorem collect_eq_ok_iff {ε α : Type} {rs : List (Except ε α)} {as : List α} :
    collect rs = .ok as ↔ rs = as.map .ok := by
  induction rs generalizing as with
  | nil => simp [collect, eq_comm]
  | cons r rs ih =>
    cases r with
    | error e =>
      constructor
      · intro h
        cases h
      · intro h
        cases as <;> cases h
    | ok a =>
      rw [collect]
      cases as with
      | nil => cases collect rs <;> simp [Except.map]
      | cons a' as =>
        rw [List.map_cons, List.cons.injEq, ← ih, Except.ok.injEq]
        cases collect rs <;> simp [Except.map]

/-- The readings of a list give something if each of them does. -/
theorem exists_map_eq_map_ok_iff {ε α β : Type} {read : α → Except ε β} {as : List α} :
    (∃ bs : List β, as.map read = bs.map .ok) ↔ ∀ a ∈ as, ∃ b, read a = .ok b := by
  induction as with
  | nil => exact ⟨fun _ a ha ↦ absurd ha List.not_mem_nil, fun _ ↦ ⟨[], rfl⟩⟩
  | cons a as ih =>
    rw [List.forall_mem_cons, ← ih]
    constructor
    · rintro ⟨bs, h⟩
      obtain ⟨b, bs, rfl, hb, hbs⟩ := List.map_eq_cons_iff.1 h.symm
      exact ⟨⟨b, hb.symm⟩, bs, hbs.symm⟩
    · rintro ⟨⟨b, hb⟩, bs, hbs⟩
      exact ⟨b :: bs, by rw [List.map_cons, List.map_cons, hb, hbs]⟩

/-- What is given comes from a reading. -/
theorem exists_of_map_eq_ok {ε α β : Type} {read : α → Except ε β} {as : List α} {bs : List β}
    (hread : as.map read = bs.map .ok) {b : β} (hb : b ∈ bs) : ∃ a ∈ as, read a = .ok b := by
  rw [← List.mem_map, hread]
  exact List.mem_map_of_mem hb

/-- What each of some readings says of what it gives holds of all that they give. -/
theorem map_eq_of_map_eq_ok {ε α β γ : Type} {read : α → Except ε β} (said : α → γ) (given : β → γ)
    (h : ∀ a b, read a = .ok b → given b = said a) {as : List α} {bs : List β}
    (hread : as.map read = bs.map .ok) : bs.map given = as.map said := by
  induction as generalizing bs with
  | nil =>
    rw [List.map_eq_nil_iff.1 hread.symm]
    rfl
  | cons a as ih =>
    obtain ⟨b, bs, rfl, hb, hbs⟩ := List.map_eq_cons_iff.1 hread.symm
    rw [List.map_cons, List.map_cons, h a b hb.symm, ih hbs.symm]

/-- A table has rows, and they are all as wide as the first. -/
theorem Table.ofRows_eq_ok_iff {rows : List Tree.Row} {t : Table} :
    Table.ofRows rows = .ok t ↔ ∃ first rest, rows = first :: rest ∧
      (∀ r ∈ rows, r.cells.length = first.cells.length) ∧
      t = ⟨rows.map (·.cells), first.location,
        rows.foldl (fun s r ↦ s.join r.span) first.span⟩ := by
  cases rows with
  | nil => simp [ofRows]
  | cons first rest =>
    rw [ofRows]
    cases hfind : (first :: rest).find? fun r ↦ r.cells.length ≠ first.cells.length with
    | some r =>
      have hr : r.cells.length ≠ first.cells.length := by simpa using List.find?_some hfind
      have hmem := List.mem_of_find?_eq_some hfind
      constructor
      · intro h
        simp at h
      · rintro ⟨first', rest', hcons, hwidths, -⟩
        cases hcons
        exact absurd (hwidths r hmem) hr
    | none =>
      have hwidths : ∀ r ∈ first :: rest, r.cells.length = first.cells.length := by
        simpa using List.find?_eq_none.1 hfind
      constructor
      · intro h
        cases h
        exact ⟨first, rest, rfl, hwidths, rfl⟩
      · rintro ⟨first', rest', hcons, -, rfl⟩
        cases hcons
        rfl

/-- What a step is given along with its line, from the argument of its node. -/
inductive Step.Given : Option Tree.Argument → Option Table → Option DocString → Prop
  | nothing : Given none none none
  | table {rows : List Tree.Row} {t : Table} :
    Table.ofRows rows = .ok t → Given (some (.table rows)) (some t) none
  | string (s : Tree.StringNode) : Given (some (.string s)) none (some (.ofNode s))

/-- The step of a node that is given a table or a string. -/
def Step.ofParts (owner : Option BlockId) (phase : StepKind) (n : Tree.StepNode)
    (table : Option Table) (docString : Option DocString) : Step where
  literal := n.literal
  kind := n.kind
  phase := phase
  text := n.text
  sentence := sentenceOfLine (n.literal ++ n.text)
  table := table
  docString := docString
  owner := owner
  location := n.location
  span := ((table.map (·.span)).or (docString.map (·.span))).elim n.span n.span.join

theorem Step.ofNode_eq_ok_iff {owner : Option BlockId} {phase : StepKind} {n : Tree.StepNode}
    {s : Step} : ofNode owner phase n = .ok s ↔
      ∃ table docString, Given n.argument table docString ∧
        s = ofParts owner phase n table docString := by
  rw [ofNode]
  constructor
  · intro h
    cases hargument : n.argument with
    | none =>
      simp only [hargument] at h
      cases h
      exact ⟨none, none, .nothing, rfl⟩
    | some argument =>
      cases argument with
      | table rows =>
        simp only [hargument, bind_eq_ok_iff] at h
        obtain ⟨t, ht, h⟩ := h
        cases h
        exact ⟨some t, none, .table ht, rfl⟩
      | string s =>
        simp only [hargument] at h
        cases h
        exact ⟨none, some (.ofNode s), .string s, rfl⟩
  · rintro ⟨table, docString, hgiven, rfl⟩
    generalize hargument : n.argument = argument at hgiven
    cases hgiven with
    | nothing => rfl
    | table ht => simp only [ht]; rfl
    | string s => rfl

theorem StepKind.length_phases (opened : Option StepKind) (kinds : List StepKind) :
    (phases opened kinds).length = kinds.length := by
  induction kinds generalizing opened with
  | nil => rfl
  | cons kind kinds ih => rw [phases, List.length_cons, List.length_cons, ih]

/-- The steps of a block are those of its nodes, each with its phase. -/
theorem Step.ofNodes_eq_ok_iff {owner : Option BlockId} {ns : List Tree.StepNode}
    {steps : List Step} : ofNodes owner ns = .ok steps ↔
      ((StepKind.phases none (ns.map (·.kind))).zip ns).map (fun p ↦ ofNode owner p.1 p.2) =
        steps.map .ok :=
  collect_eq_ok_iff

theorem Background.ofNode_eq_ok_iff {n : Tree.BlockNode} {b : Background} :
    ofNode n = .ok b ↔ ∃ steps, Step.ofNodes (some .background) n.steps = .ok steps ∧
      b = {
        keyword := n.header.keyword, name := n.header.name
        description := Description.ofLines n.description, steps
        location := n.header.location, span := spanThrough n.header.span steps } := by
  rw [ofNode, bind_eq_ok_iff]
  simp only [pure, Except.pure, Except.ok.injEq, eq_comm]

/-- Examples need a table, and so do not come without rows. -/
theorem Examples.ofNode_eq_ok_iff {n : Tree.ExamplesNode} {e : Examples} :
    ofNode n = .ok e ↔ ∃ table, Table.ofRows n.rows = .ok table ∧
      e = {
        keyword := n.header.keyword, name := n.header.name, tags := n.header.tags
        description := Description.ofLines n.description, table
        location := n.header.location, span := n.header.span.join table.span } := by
  rw [ofNode]
  cases hrows : n.rows with
  | nil => simp [Table.ofRows, throw, throwThe, MonadExceptOf.throw, bind, Except.bind]
  | cons r rows =>
    simp only [List.isEmpty_cons, Bool.false_eq_true, if_false, bind_eq_ok_iff, pure, Except.pure,
      Except.ok.injEq]
    exact exists_congr fun table ↦ and_congr_right fun _ ↦ eq_comm

theorem Scenario.ofNode_eq_ok_iff {index : Nat} {n : Tree.BlockNode} {s : Scenario} :
    ofNode index n = .ok s ↔ n.header.name ≠ [] ∧ ∃ steps examples,
      Step.ofNodes (some (.scenario index)) n.steps = .ok steps ∧
      n.examples.map Examples.ofNode = examples.map .ok ∧
      s = {
        keyword := n.header.keyword, kind := n.header.kind, name := n.header.name
        tags := n.header.tags, description := Description.ofLines n.description, steps, examples
        outlines := examples.flatMap fun e ↦ e.table.records, index
        location := n.header.location
        span := examples.foldl (fun s e ↦ s.join e.span) (spanThrough n.header.span steps) } := by
  rw [ofNode]
  cases hname : n.header.name with
  | nil => simp [throw, throwThe, MonadExceptOf.throw, bind, Except.bind]
  | cons c name =>
    simp only [List.isEmpty_cons, Bool.false_eq_true, if_false, bind_eq_ok_iff, pure, Except.pure,
      Except.ok.injEq, collect_eq_ok_iff]
    constructor
    · rintro ⟨steps, hsteps, examples, hexamples, rfl⟩
      exact ⟨List.cons_ne_nil c name, steps, examples, hsteps, hexamples, rfl⟩
    · rintro ⟨-, steps, examples, hsteps, hexamples, rfl⟩
      exact ⟨steps, hsteps, examples, hexamples, rfl⟩

/-- Bare steps are no feature, and a feature needs a name and scenarios. -/
theorem ParsedText.toFeature_eq_ok_iff {p : ParsedText} {f : Feature} :
    p.toFeature = .ok f ↔ ∃ n background scenarios, p.tree = .document n ∧
      n.header.name ≠ [] ∧ n.scenarios ≠ [] ∧
      n.background.map Background.ofNode = background.map .ok ∧
      n.scenarios.mapIdx Scenario.ofNode = scenarios.map .ok ∧
      f = {
        keyword := n.header.keyword, name := n.header.name, tags := n.header.tags
        description := Description.ofLines n.description, background, scenarios
        language := p.language, source := p.source, warnings := p.warnings
        location := n.header.location
        span :=
          (scenarios.getLast?.map fun s ↦ n.header.span.join s.span).getD n.header.span } := by
  rw [toFeature]
  cases htree : p.tree with
  | snippet ss => simp [throw, throwThe, MonadExceptOf.throw]
  | document n =>
    simp only [Tree.document.injEq]
    by_cases hname : n.header.name = []
    · simp [hname, throw, throwThe, MonadExceptOf.throw, bind, Except.bind]
    by_cases hscenarios : n.scenarios = []
    · simp [hname, hscenarios, throw, throwThe, MonadExceptOf.throw, bind, Except.bind]
    rw [List.isEmpty_eq_false_iff.2 hname, List.isEmpty_eq_false_iff.2 hscenarios]
    simp only [Bool.false_eq_true, if_false, bind_eq_ok_iff, mapM_eq_ok_iff, collect_eq_ok_iff,
      pure, Except.pure, Except.ok.injEq]
    constructor
    · rintro ⟨background, hbackground, scenarios, hs, rfl⟩
      exact ⟨n, background, scenarios, rfl, hname, hscenarios, hbackground, hs, rfl⟩
    · rintro ⟨_, background, scenarios, rfl, -, -, hbackground, hs, rfl⟩
      exact ⟨background, hbackground, scenarios, hs, rfl⟩

theorem ParsedText.language_of_toFeature {p : ParsedText} {f : Feature}
    (h : p.toFeature = .ok f) : f.language = p.language := by
  obtain ⟨_, _, _, _, _, _, _, _, rfl⟩ := toFeature_eq_ok_iff.1 h
  rfl

theorem ParsedText.source_of_toFeature {p : ParsedText} {f : Feature}
    (h : p.toFeature = .ok f) : f.source = p.source := by
  obtain ⟨_, _, _, _, _, _, _, _, rfl⟩ := toFeature_eq_ok_iff.1 h
  rfl

theorem ParsedText.scenarios_ne_nil_of_toFeature {p : ParsedText} {f : Feature}
    (h : p.toFeature = .ok f) : f.scenarios ≠ [] := by
  obtain ⟨n, _, scenarios, -, -, hne, -, hread, rfl⟩ := toFeature_eq_ok_iff.1 h
  rintro (rfl : scenarios = [])
  exact hne (List.mapIdx_eq_nil_iff.1 hread)

theorem dropByteOrderMark_of_ne {c : Char} (h : c ≠ '\ufeff') (t : Text) :
    dropByteOrderMark (c :: t) = c :: t := by
  simp [dropByteOrderMark, Text.dropPrefix, Text.afterPrefix?, Ne.symm h]

theorem dropByteOrderMark_of_head? {t : Text} (h : t.head? ≠ some '\ufeff') :
    dropByteOrderMark t = t := by
  cases t with
  | nil => rfl
  | cons c t => exact dropByteOrderMark_of_ne (by simpa using h) t

/-- The language in which a text is read. -/
def languageOf? (options : ParseOptions) (source : Text) : Option Language :=
  Language.find? ((declaredLanguage? source <|> options.language).getD Language.defaultCode)

/-- A text that names no language is read in English unless another language is asked for. -/
theorem code_of_undeclared {source : Text} (h : declaredLanguage? source = none) :
    (declaredLanguage? source <|> (none : Option Text)).getD Language.defaultCode =
      Language.defaultCode := by
  rw [h]
  rfl

/-- A text is read in its language, from its tokens. -/
theorem parse_eq_ok_iff {start : DocumentKind} {options : ParseOptions} {text : Text}
    {p : ParsedText} :
    parse start options text = .ok p ↔ ∃ language lexed tree,
      languageOf? options (dropByteOrderMark text) = some language ∧
      Lexed.ofText language options.path (dropByteOrderMark text) = .ok lexed ∧
      Tree.ofTokens start (endOfText options.path (dropByteOrderMark text)) lexed.tokens =
        .ok tree ∧
      p = ⟨tree, language, dropByteOrderMark text, options.path, lexed.warnings⟩ := by
  rw [parse]
  constructor
  · intro h
    split at h
    · cases h
    · next language hlanguage =>
      simp only [bind_eq_ok_iff, mapError_eq_ok_iff] at h
      obtain ⟨lexed, hlexed, tree, htree, hp⟩ := h
      cases hp
      exact ⟨language, lexed, tree, hlanguage, hlexed, htree, rfl⟩
  · rintro ⟨language, lexed, tree, hlanguage, hlexed, htree, rfl⟩
    rw [languageOf?] at hlanguage
    simp only [hlanguage, bind_eq_ok_iff, mapError_eq_ok_iff]
    exact ⟨lexed, hlexed, tree, htree, rfl⟩

/-- A text is read as a feature in its language, from its tokens, by the structure they have. -/
theorem parseFeature_eq_ok_iff {options : ParseOptions} {text : Text} {f : Feature} :
    parseFeature options text = .ok f ↔ ∃ language lexed n,
      languageOf? options (dropByteOrderMark text) = some language ∧
      Lexed.ofText language options.path (dropByteOrderMark text) = .ok lexed ∧
      Tree.parseFeature (endOfText options.path (dropByteOrderMark text)) lexed.tokens = .ok n ∧
      ParsedText.toFeature ⟨.document n, language, dropByteOrderMark text, options.path,
        lexed.warnings⟩ = .ok f := by
  simp only [parseFeature, bind_eq_ok_iff, mapError_eq_ok_iff, parse_eq_ok_iff, Tree.ofTokens,
    map_eq_ok_iff]
  constructor
  · rintro ⟨p, ⟨language, lexed, _, hlanguage, hlexed, ⟨n, hn, rfl⟩, rfl⟩, hf⟩
    exact ⟨language, lexed, n, hlanguage, hlexed, hn, hf⟩
  · rintro ⟨language, lexed, n, hlanguage, hlexed, hn, hf⟩
    exact ⟨_, ⟨language, lexed, _, hlanguage, hlexed, ⟨n, hn, rfl⟩, rfl⟩, hf⟩

/-- A text is read as bare steps in its language, from its tokens. -/
theorem parseSteps_eq_ok_iff {options : ParseOptions} {text : Text} {steps : List Step} :
    parseSteps options text = .ok steps ↔ ∃ language lexed ns,
      languageOf? options (dropByteOrderMark text) = some language ∧
      Lexed.ofText language options.path (dropByteOrderMark text) = .ok lexed ∧
      Tree.parseSteps (endOfText options.path (dropByteOrderMark text)) lexed.tokens = .ok ns ∧
      Step.ofNodes none ns = .ok steps := by
  simp only [parseSteps, bind_eq_ok_iff, mapError_eq_ok_iff, parse_eq_ok_iff, Tree.ofTokens,
    map_eq_ok_iff]
  constructor
  · rintro ⟨p, ⟨language, lexed, _, hlanguage, hlexed, ⟨ns, hns, rfl⟩, rfl⟩, hsteps⟩
    exact ⟨language, lexed, ns, hlanguage, hlexed, hns, hsteps⟩
  · rintro ⟨language, lexed, ns, hlanguage, hlexed, hns, hsteps⟩
    exact ⟨_, ⟨language, lexed, _, hlanguage, hlexed, ⟨ns, hns, rfl⟩, rfl⟩, hsteps⟩

end Gherkin
