import Gherkin.Proofs.Feature.Built
import Gherkin.Proofs.Tree.Completeness
import Gherkin.Proofs.Tree.Leaves
import Gherkin.Proofs.Tree.Soundness

/-!
# Texts of a single step

Whether a text is read as one bare step, and what the step says, depends only on what its tokens
say: there has to be a step line, and below it nothing, rows of one width, or one multiline string.

Main statement: `exists_parseSteps_singleton_iff`.
-/

namespace Gherkin

/-- The tokens below a step line say these rows or this content. -/
inductive SaysArgument : Option (List (List Text)) → Option Text → List TokenKind → Prop
  | nothing : SaysArgument none none []
  | table {rows : List (List Text)} {width : Nat} :
    rows ≠ [] → (∀ row ∈ rows, row.length = width) → SaysArgument (some rows) none (rows.map .row)
  | string (d : Delimiter) (type : Option Text) (content : Text) :
    SaysArgument none (some content) [.docString d type content]

/-- The tokens say one step with this sentence, and with these rows or this content below it. -/
inductive SaysStep (sentence : Text) (rows : Option (List (List Text))) (content : Option Text) :
    List TokenKind → Prop
  | intro {kind : StepKind} {literal body : Text} {argument : List TokenKind} :
    sentence = sentenceOfLine (literal ++ body) → SaysArgument rows content argument →
      SaysStep sentence rows content (.step kind literal body :: argument)

theorem SaysArgument.eq_rows {rows : Option (List (List Text))} {kinds : List TokenKind}
    (h : SaysArgument rows none kinds) : kinds = (rows.getD []).map .row := by
  cases h with
  | nothing => rfl
  | table _ _ => rfl

theorem SaysArgument.eq_string {rows : Option (List (List Text))} {content : Text}
    {kinds : List TokenKind} (h : SaysArgument rows (some content) kinds) :
    ∃ d type, kinds = [.docString d type content] := by
  cases h with
  | string d type _ => exact ⟨d, type, rfl⟩

namespace Tree

theorem map_kind_of_reads {rows : List Row} {ts : List Token} (h : Reads Row.ofToken? rows ts) :
    ts.map (·.kind) = (rows.map (·.cells)).map .row := by
  induction rows generalizing ts with
  | nil => rw [reads_nil_iff.1 h]; rfl
  | cons row rows ih =>
    obtain ⟨t, us, rfl, ht, hus⟩ := reads_cons_iff.1 h
    have hkind : t.kind = .row row.cells := by
      have hleaf := (Row.leaf_of_ofToken? t row ht).2
      exact congrArg (·.kind) hleaf
    rw [List.map_cons, List.map_cons, List.map_cons, hkind, ih hus]

theorem exists_reads_of_map_kind {cells : List (List Text)} {ts : List Token}
    (h : ts.map (·.kind) = cells.map .row) :
    ∃ rows, Reads Row.ofToken? rows ts ∧ rows.map (·.cells) = cells := by
  induction cells generalizing ts with
  | nil => exact ⟨[], by rw [List.map_eq_nil_iff.1 h]; rfl, rfl⟩
  | cons row cells ih =>
    obtain ⟨t, us, rfl, ht, hus⟩ := List.map_eq_cons_iff.1 h
    obtain ⟨rows, hrows, hcells⟩ := ih hus
    refine ⟨⟨row, t.location, t.span, t.line⟩ :: rows,
      reads_cons_iff.2 ⟨t, us, rfl, ?_, hrows⟩, by rw [List.map_cons, hcells]⟩
    rw [Row.ofToken?, ht]

end Tree

theorem Table.exists_ofRows {rows : List Tree.Row} {width : Nat} (hne : rows ≠ [])
    (h : ∀ row ∈ rows, row.cells.length = width) :
    ∃ t, Table.ofRows rows = .ok t ∧ t.rows = rows.map (·.cells) := by
  obtain ⟨first, rest, rfl⟩ := List.exists_cons_of_ne_nil hne
  refine ⟨_, Table.ofRows_eq_ok_iff.2 ⟨first, rest, rfl, fun r hr ↦ ?_, rfl⟩, rfl⟩
  rw [h r hr, h first List.mem_cons_self]

/-- What a step is given is what the tokens below its line say. -/
theorem saysArgument_iff {rows : Option (List (List Text))} {content : Option Text}
    {ts : List Token} : SaysArgument rows content (ts.map (·.kind)) ↔
      ∃ argument table docString, Tree.Argument.Spelled argument ts ∧
        Step.Given argument table docString ∧ table.map (·.rows) = rows ∧
        docString.map (·.content) = content := by
  constructor
  · intro h
    generalize hkinds : ts.map (·.kind) = kinds at h
    cases h with
    | nothing =>
      rw [List.map_eq_nil_iff.1 hkinds]
      exact ⟨none, none, none, .none, .nothing, rfl, rfl⟩
    | table hne hwidth =>
      obtain ⟨nodes, hnodes, rfl⟩ := Tree.exists_reads_of_map_kind hkinds
      have hne' : nodes ≠ [] := fun hnil ↦ hne (by rw [hnil, List.map_nil])
      obtain ⟨t, ht, hrows⟩ := Table.exists_ofRows hne' fun row hrow ↦
        hwidth _ (List.mem_map_of_mem hrow)
      exact ⟨some (.table nodes), some t, none, .table hne' hnodes, .table ht,
        congrArg some hrows, rfl⟩
    | string d type content =>
      obtain ⟨t, rfl, ht⟩ := List.map_eq_singleton_iff.1 hkinds
      have hread : Tree.StringNode.ofToken? t = some ⟨d, type, content, t.location, t.span⟩ := by
        rw [Tree.StringNode.ofToken?, ht]
      exact ⟨_, none, some _, .string hread, .string _, rfl, rfl⟩
  · rintro ⟨argument, table, docString, hspelled, hgiven, rfl, rfl⟩
    cases hspelled with
    | none =>
      cases hgiven
      exact .nothing
    | @table nodes ts hne hreads =>
      cases hgiven with
      | table ht =>
        obtain ⟨first, rest, -, hwidth, rfl⟩ := Table.ofRows_eq_ok_iff.1 ht
        rw [Tree.map_kind_of_reads hreads]
        have hrow : ∀ row ∈ nodes.map (·.cells), row.length = first.cells.length := by
          intro row hrow
          obtain ⟨r, hr, rfl⟩ := List.mem_map.1 hrow
          exact hwidth r hr
        exact .table (fun hnil ↦ hne (List.map_eq_nil_iff.1 hnil)) hrow
    | @string s t hread =>
      cases hgiven
      have hkind := congrArg Leaf.kind (Tree.StringNode.leaf_of_ofToken? t s hread).2
      rw [List.map_singleton, show t.kind = _ from hkind]
      exact .string _ _ _

theorem Step.ofNodes_eq_singleton_iff {owner : Option BlockId} {ns : List Tree.StepNode}
    {s : Step} : ofNodes owner ns = .ok [s] ↔
      ∃ n, ns = [n] ∧ ofNode owner (n.kind.resolve none).1 n = .ok s := by
  rw [ofNodes_eq_ok_iff]
  constructor
  · intro h
    match ns with
    | [] => cases h
    | [n] => exact ⟨n, rfl, (List.cons.inj h).1⟩
    | n :: m :: ns => cases (List.cons.inj h).2
  · rintro ⟨n, rfl, hn⟩
    exact congrArg (fun r ↦ [r]) hn

/-- A text is read as one step exactly if its tokens say one, and the step says what they do. -/
theorem exists_parseSteps_singleton_iff {options : ParseOptions} {text : Text} {l : Language}
    (hl : languageOf? options (dropByteOrderMark text) = some l) {sentence : Text}
    {rows : Option (List (List Text))} {content : Option Text} :
    (∃ s, parseSteps options text = .ok [s] ∧ s.sentence = sentence ∧
        s.table.map (·.rows) = rows ∧ s.docString.map (·.content) = content) ↔
      ∃ lexed, Lexed.ofText l options.path (dropByteOrderMark text) = .ok lexed ∧
        SaysStep sentence rows content (lexed.tokens.map (·.kind)) := by
  constructor
  · rintro ⟨s, hs, rfl, rfl, rfl⟩
    obtain ⟨language, lexed, ns, hlanguage, hlexed, hns, hsteps⟩ := parseSteps_eq_ok_iff.1 hs
    obtain rfl := Option.some.inj (hl.symm.trans hlanguage)
    refine ⟨lexed, hlexed, ?_⟩
    obtain ⟨n, rfl, hn⟩ := Step.ofNodes_eq_singleton_iff.1 hsteps
    have hspelled := Tree.spelled_of_parseSteps hns
    generalize lexed.tokens = tokens at hspelled
    obtain ⟨table, docString, hgiven, rfl⟩ := Step.ofNode_eq_ok_iff.1 hn
    cases hspelled with
    | cons hstep hnil =>
      cases hnil
      cases hstep with
      | @intro bare t argument us ht hargument =>
        have hkind : t.kind = .step bare.kind bare.literal bare.text :=
          congrArg Leaf.kind (Tree.StepNode.leaf_of_ofToken? t bare ht).2
        rw [List.append_nil, List.map_cons, hkind]
        exact .intro rfl
          (saysArgument_iff.2 ⟨argument, table, docString, hargument, hgiven, rfl, rfl⟩)
  · rintro ⟨lexed, hlexed, hsays⟩
    generalize hkinds : lexed.tokens.map (·.kind) = kinds at hsays
    cases hsays with
    | @intro kind literal body argument hsentence hargument =>
      obtain ⟨t, us, htokens, ht, rfl⟩ := List.map_eq_cons_iff.1 hkinds
      obtain ⟨node, table, docString, hspelled, hgiven, hrows, hcontent⟩ :=
        saysArgument_iff.1 hargument
      let bare : Tree.StepNode := ⟨kind, literal, body, t.location, t.span, none⟩
      have hread : Tree.StepNode.ofToken? t = some bare := by rw [Tree.StepNode.ofToken?, ht]
      have hstep : Tree.Sequence Tree.StepNode.Spelled [{ bare with argument := node }]
          lexed.tokens := by
        rw [htokens, ← List.append_nil (t :: us)]
        exact .cons (.intro hread hspelled) .nil
      have hbuilt : Step.ofNodes none [{ bare with argument := node }] =
          .ok [Step.ofParts none (kind.resolve none).1 { bare with argument := node } table
            docString] :=
        Step.ofNodes_eq_singleton_iff.2
          ⟨_, rfl, Step.ofNode_eq_ok_iff.2 ⟨table, docString, hgiven, rfl⟩⟩
      exact ⟨_, parseSteps_eq_ok_iff.2 ⟨l, lexed, _, hl, hlexed,
        Tree.parseSteps_of_spelled hstep _, hbuilt⟩, hsentence.symm, hrows, hcontent⟩

end Gherkin
