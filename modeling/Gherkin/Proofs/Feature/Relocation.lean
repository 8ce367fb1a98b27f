import Gherkin.Proofs.Feature.Diagnostics
import Gherkin.Proofs.Tree.Relocation

/-!
# Features whose places are changed

The rules that turn the structure of a document into a feature look at what its nodes say, never at
where they stand, so that a relocated tree gives the relocated feature, or is refused alike.

Main statements: `ParsedText.toFeature_relocate` and `ParsedText.toSteps_relocate`.
-/

namespace Gherkin

variable (m : Relocation)

def Table.relocate (t : Table) : Table :=
  { t with location := m.location t.location, span := m.span t.span }

def DocString.relocate (d : DocString) : DocString :=
  { d with location := m.location d.location, span := m.span d.span }

def Step.relocate (s : Step) : Step :=
  { s with
    table := s.table.map (·.relocate m), docString := s.docString.map (·.relocate m)
    location := m.location s.location, span := m.span s.span }

def Description.relocate (d : Description) : Description :=
  { d with location := m.location d.location, span := m.span d.span }

def Background.relocate (g : Background) : Background :=
  { g with
    description := g.description.map (·.relocate m), steps := g.steps.map (·.relocate m)
    location := m.location g.location, span := m.span g.span }

def Examples.relocate (e : Examples) : Examples :=
  { e with
    description := e.description.map (·.relocate m), table := e.table.relocate m
    location := m.location e.location, span := m.span e.span }

def Scenario.relocate (s : Scenario) : Scenario :=
  { s with
    description := s.description.map (·.relocate m), steps := s.steps.map (·.relocate m)
    examples := s.examples.map (·.relocate m)
    location := m.location s.location, span := m.span s.span }

def Feature.relocate (f : Feature) : Feature :=
  { f with
    description := f.description.map (·.relocate m), background := f.background.map (·.relocate m)
    scenarios := f.scenarios.map (·.relocate m), source := m.source f.source
    warnings := f.warnings.map (·.relocate m)
    location := m.location f.location, span := m.span f.span }

def ParsedText.relocate (p : ParsedText) : ParsedText :=
  { p with
    tree := p.tree.relocate m, source := m.source p.source
    warnings := p.warnings.map (·.relocate m) }

theorem collect_map_mapBoth {ε ε' α β : Type} (f : ε → ε') (g : α → β) (rs : List (Except ε α)) :
    collect (rs.map (mapBoth f g)) = mapBoth f (List.map g) (collect rs) := by
  induction rs with
  | nil => rfl
  | cons r rs ih =>
    cases r with
    | error e => rfl
    | ok a =>
      rw [List.map_cons, mapBoth_ok, collect, collect, ih]
      cases collect rs <;> rfl

/-- Relocated spans join to the relocated span. -/
theorem foldl_join_relocate {α β : Type} (span : α → Span) (span' : β → Span) {change : α → β}
    (h : ∀ a, span' (change a) = m.span (span a)) (as : List α) (s : Span) :
    (as.map change).foldl (fun s b ↦ s.join (span' b)) (m.span s) =
      m.span (as.foldl (fun s a ↦ s.join (span a)) s) := by
  induction as generalizing s with
  | nil => rfl
  | cons a as ih => rw [List.map_cons, List.foldl_cons, List.foldl_cons, h, ← m.span_join, ih]

theorem Table.ofRows_relocate (rows : List Tree.Row) :
    ofRows (rows.map (·.relocate m)) = mapBoth (·.relocate m) (·.relocate m) (ofRows rows) := by
  cases rows with
  | nil =>
    rw [List.map_nil, ofRows, mapBoth_error, SyntaxError.relocate, m.location_start, m.line_nil]
  | cons first rest =>
    have hspan : ((first :: rest).map (·.relocate m)).foldl (fun s r ↦ s.join r.span)
        (first.relocate m).span =
          m.span ((first :: rest).foldl (fun s r ↦ s.join r.span) first.span) :=
      foldl_join_relocate m Tree.Row.span Tree.Row.span (fun _ ↦ rfl) _ _
    rw [List.map_cons, ofRows, ofRows, ← List.map_cons, List.find?_map]
    dsimp only
    have hcells : (fun r : Tree.Row ↦ decide (r.cells.length ≠ (first.relocate m).cells.length)) ∘
        Tree.Row.relocate m = fun r ↦ decide (r.cells.length ≠ first.cells.length) := rfl
    rw [hcells]
    cases (first :: rest).find? fun r ↦ decide (r.cells.length ≠ first.cells.length) with
    | some r => rfl
    | none =>
      simp only [Option.map_none, hspan, mapBoth_ok, Table.relocate, List.map_map]
      rfl

theorem Description.ofLines_relocate (ls : List Tree.TextLine) :
    ofLines (ls.map (·.relocate m)) = (ofLines ls).map (·.relocate m) := by
  cases ls with
  | nil => rfl
  | cons first rest =>
    have hspan : ((first :: rest).map (·.relocate m)).foldl (fun s l ↦ s.join l.span)
        (first.relocate m).span =
          m.span ((first :: rest).foldl (fun s l ↦ s.join l.span) first.span) :=
      foldl_join_relocate m Tree.TextLine.span Tree.TextLine.span (fun _ ↦ rfl) _ _
    rw [List.map_cons, ofLines, ofLines, ← List.map_cons, hspan, List.map_map]
    rfl

theorem Step.ofNode_relocate (owner : Option BlockId) (phase : StepKind) (n : Tree.StepNode) :
    ofNode owner phase (n.relocate m) =
      mapBoth (·.relocate m) (·.relocate m) (ofNode owner phase n) := by
  obtain ⟨kind, literal, text, location, span, argument⟩ := n
  cases argument with
  | none => rfl
  | some argument =>
    cases argument with
    | string s =>
      have hspan := m.span_join span s.span
      simp only [ofNode, Tree.StepNode.relocate, Option.map_some, Tree.Argument.relocate, pure,
        Except.pure, mapBoth_ok, relocate, hspan]
      rfl
    | table rows =>
      simp only [ofNode, Tree.StepNode.relocate, Option.map_some, Tree.Argument.relocate,
        Table.ofRows_relocate]
      refine mapBoth_bind (fun table ↦ ?_) _
      have hspan := m.span_join span table.span
      simp only [pure, Except.pure, mapBoth_ok, relocate, hspan]
      rfl

theorem Step.ofNodes_relocate (owner : Option BlockId) (ns : List Tree.StepNode) :
    ofNodes owner (ns.map (·.relocate m)) =
      mapBoth (·.relocate m) (List.map (·.relocate m)) (ofNodes owner ns) := by
  have hkinds : (ns.map (·.relocate m)).map (·.kind) = ns.map (·.kind) := by
    rw [List.map_map]
    rfl
  rw [ofNodes, ofNodes, hkinds, List.zip_map_right, List.map_map, ← collect_map_mapBoth,
    List.map_map]
  congr 2
  funext ⟨phase, n⟩
  exact ofNode_relocate m owner phase n

theorem spanThrough_relocate (header : Span) (steps : List Step) :
    spanThrough (m.span header) (steps.map (·.relocate m)) = m.span (spanThrough header steps) := by
  rw [spanThrough, spanThrough, List.getLast?_map]
  cases steps.getLast? with
  | none => rfl
  | some last => exact (m.span_join header last.span).symm

theorem Background.ofNode_relocate (n : Tree.BlockNode) :
    ofNode (n.relocate m) = mapBoth (·.relocate m) (·.relocate m) (ofNode n) := by
  simp only [ofNode, Tree.BlockNode.relocate, Step.ofNodes_relocate, Description.ofLines_relocate]
  refine mapBoth_bind (fun steps ↦ ?_) _
  have hspan : spanThrough (n.header.relocate m).span (steps.map (·.relocate m)) =
      m.span (spanThrough n.header.span steps) := spanThrough_relocate m n.header.span steps
  rw [hspan]
  rfl

theorem Examples.ofNode_relocate (n : Tree.ExamplesNode) :
    ofNode (n.relocate m) = mapBoth (·.relocate m) (·.relocate m) (ofNode n) := by
  simp only [ofNode, Tree.ExamplesNode.relocate, List.isEmpty_map, Table.ofRows_relocate,
    Description.ofLines_relocate]
  split
  · rfl
  · refine mapBoth_bind (fun table ↦ ?_) _
    have hspan : (n.header.relocate m).span.join (table.relocate m).span =
        m.span (n.header.span.join table.span) := (m.span_join n.header.span table.span).symm
    simp only [pure, Except.pure, mapBoth_ok, relocate, hspan]
    rfl

theorem Scenario.ofNode_relocate (index : Nat) (n : Tree.BlockNode) :
    ofNode index (n.relocate m) = mapBoth (·.relocate m) (·.relocate m) (ofNode index n) := by
  have hread : (n.examples.map (·.relocate m)).map Examples.ofNode =
      (n.examples.map Examples.ofNode).map (mapBoth (·.relocate m) (·.relocate m)) := by
    rw [List.map_map, List.map_map]
    exact List.map_congr_left fun e _ ↦ Examples.ofNode_relocate m e
  simp only [ofNode, Tree.BlockNode.relocate, Step.ofNodes_relocate, Description.ofLines_relocate,
    hread, collect_map_mapBoth]
  have hname : (n.header.relocate m).name = n.header.name := rfl
  rw [hname]
  split
  · rfl
  · refine mapBoth_bind (fun steps ↦ ?_) _
    refine mapBoth_bind (fun examples ↦ ?_) _
    have hrecords : (examples.map (·.relocate m)).flatMap (fun e ↦ e.table.records) =
        examples.flatMap fun e ↦ e.table.records := by
      rw [List.flatMap_map]
      rfl
    have hspan : (examples.map (·.relocate m)).foldl (fun s e ↦ s.join e.span)
        (spanThrough (n.header.relocate m).span (steps.map (·.relocate m))) =
          m.span (examples.foldl (fun s e ↦ s.join e.span) (spanThrough n.header.span steps)) := by
      have hheader : (n.header.relocate m).span = m.span n.header.span := rfl
      rw [hheader, spanThrough_relocate]
      exact foldl_join_relocate m Examples.span Examples.span (fun _ ↦ rfl) _ _
    rw [hrecords, hspan]
    rfl

theorem ParsedText.toFeature_relocate (p : ParsedText) :
    (p.relocate m).toFeature = mapBoth (·.relocate m) (·.relocate m) p.toFeature := by
  obtain ⟨tree, language, source, path, warnings⟩ := p
  cases tree with
  | snippet ns =>
    have hfault : SyntaxError.relocate m ⟨⟨path, 1, 1⟩, .readAsSteps, []⟩ =
        ⟨⟨path, 1, 1⟩, .readAsSteps, []⟩ := by
      rw [SyntaxError.relocate, m.location_start, m.line_nil]
    exact congrArg Except.error hfault.symm
  | document n =>
    have hscenarios : (n.scenarios.map (·.relocate m)).mapIdx Scenario.ofNode =
        (n.scenarios.mapIdx Scenario.ofNode).map (mapBoth (·.relocate m) (·.relocate m)) := by
      refine List.mapIdx_eq_iff.2 fun index ↦ ?_
      rw [List.getElem?_map, List.getElem?_map, List.getElem?_mapIdx, Option.map_map,
        Option.map_map]
      congr 1
      funext s
      exact (Scenario.ofNode_relocate m index s).symm
    have hbackground : (n.background.map (·.relocate m)).mapM Background.ofNode =
        mapBoth (·.relocate m) (Option.map (·.relocate m))
          (n.background.mapM Background.ofNode) := by
      cases n.background with
      | none => rfl
      | some g =>
        rw [Option.map_some, Option.mapM_some, Option.mapM_some, Background.ofNode_relocate]
        cases Background.ofNode g <;> rfl
    have hname : (n.header.relocate m).name = n.header.name := rfl
    simp only [toFeature, relocate, Tree.relocate, Tree.FeatureNode.relocate, List.isEmpty_map,
      hscenarios, hbackground, hname, collect_map_mapBoth, Description.ofLines_relocate]
    split
    · rfl
    · split
      · rfl
      · refine mapBoth_bind (fun background ↦ ?_) _
        refine mapBoth_bind (fun scenarios ↦ ?_) _
        rw [List.getLast?_map]
        cases scenarios.getLast? with
        | none => rfl
        | some last =>
          have hspan : (n.header.relocate m).span.join (last.relocate m).span =
              m.span (n.header.span.join last.span) := (m.span_join n.header.span last.span).symm
          simp only [pure, Except.pure, mapBoth_ok, Option.map_some, Option.getD_some, hspan]
          rfl

theorem ParsedText.toSteps_relocate (p : ParsedText) :
    (p.relocate m).toSteps = mapBoth (·.relocate m) (List.map (·.relocate m)) p.toSteps := by
  obtain ⟨tree, language, source, path, warnings⟩ := p
  cases tree with
  | snippet ns => exact Step.ofNodes_relocate m none ns
  | document n => rfl

/-! ## Texts that say the same elsewhere -/

def ParseError.moved (eof : Location) : ParseError → ParseError
  | refused e => refused (e.moved m eof)
  | unknownLanguage code => unknownLanguage code
  | unreadable path reason => unreadable path reason

/-- The second text is the relocated first one: it names the same language, and its lines say the
same in every language at the relocated places. -/
structure Relocates (path : Option Text) (source source' : Text) : Prop where
  language : declaredLanguage? source' = declaredLanguage? source
  lines (language : Language) : Lexed.ofText language path source' =
    mapBoth (·.relocate m) (·.relocate m) (Lexed.ofText language path source)
  source : m.source source = source'

/-- A place that is one of a text, and a line that is shown. -/
def Somewhere (location : Location) (line : Text) : Prop := line ≠ [] ∧ location ≠ .nowhere

theorem Lexed.endsIn_somewhere (language : Language) (path : Option Text) (source : Text) :
    EndsIn (·.At Somewhere) (fun lexed : Lexed ↦ ∀ t ∈ lexed.tokens, t.At Somewhere)
      (ofText language path source) := by
  refine endsIn_ofText fun l hl hne ↦ ⟨fun hnil ↦ ?_, fun hnowhere ↦ ?_⟩
  · rw [SourceLine.content, hnil] at hne
    exact hne rfl
  · have hnumber : l.number = 0 := congrArg Location.line hnowhere
    have := (SourceLine.le_of_mem_enumerate hl).1
    omega

/-- A refusal that shows a line goes where its place goes. -/
theorem SyntaxError.moved_of_somewhere {e : SyntaxError} (h : e.At Somewhere) (eof : Location) :
    e.moved m eof = e.relocate m := by
  rw [moved, if_neg h.place.1]
  rfl

/-- The headers and rows of a text that is read show lines of it. -/
theorem endsIn_parse_somewhere (start : DocumentKind) (options : ParseOptions) (text : Text) :
    EndsIn (fun _ ↦ True) (fun p ↦ p.tree.At Somewhere start) (parse start options text) := by
  rw [parse]
  dsimp only
  split
  · trivial
  · next language _ =>
    have hlexed := Lexed.endsIn_somewhere language options.path (dropByteOrderMark text)
    refine (hlexed.mapError fun _ _ ↦ trivial).bind fun lexed htokens ↦ ?_
    have htree : EndsIn (fun _ ↦ True) (Tree.At Somewhere start) (Tree.ofTokens start
        (endOfText options.path (dropByteOrderMark text)) lexed.tokens) :=
      Tree.endsIn_ofTokens (fun _ _ ↦ trivial) (fun _ ↦ trivial) htokens start
    exact (htree.mapError fun _ _ ↦ trivial).bind fun tree htree ↦ htree

/-- Refusals that show lines may be moved before or after they are reported. -/
theorem mapError_refused_relocate {α β : Type} {Q : α → Prop} {r : Except SyntaxError α}
    (h : EndsIn (·.At Somewhere) Q r) (eof : Location) (change : α → β) :
    (mapBoth (·.relocate m) change r).mapError ParseError.refused =
      mapBoth (·.moved m eof) change (r.mapError ParseError.refused) := by
  cases r with
  | ok a => rfl
  | error e =>
    have hmoved := SyntaxError.moved_of_somewhere m h eof
    exact congrArg (fun e ↦ Except.error (ParseError.refused e)) hmoved.symm

section Moved

variable {m} {options : ParseOptions} {text text' : Text}
  (h : Relocates m options.path (dropByteOrderMark text) (dropByteOrderMark text'))

include h

/-- A relocated text gives the relocated structure, or fails with the failure moved. -/
theorem parse_moved (start : DocumentKind) :
    parse start options text' =
      mapBoth (·.moved m (endOfText options.path (dropByteOrderMark text'))) (·.relocate m)
        (parse start options text) := by
  rw [parse, parse]
  dsimp only
  rw [h.language]
  split
  · rfl
  · next language _ =>
    have hsomewhere := Lexed.endsIn_somewhere language options.path (dropByteOrderMark text)
    rw [h.lines language, mapError_refused_relocate m hsomewhere
      (endOfText options.path (dropByteOrderMark text'))]
    cases hread : Lexed.ofText language options.path (dropByteOrderMark text) with
    | error e => rfl
    | ok lexed =>
      rw [hread] at hsomewhere
      have htree := Tree.moved_ofTokens (m := m) hsomewhere start
        (endOfText options.path (dropByteOrderMark text))
        (endOfText options.path (dropByteOrderMark text'))
      -- both texts are read, and what is left to do is to find the structure of their tokens
      change (Tree.ofTokens start (endOfText options.path (dropByteOrderMark text'))
          (lexed.tokens.map (·.relocate m))).mapError ParseError.refused >>= _ =
        mapBoth _ _ ((Tree.ofTokens start (endOfText options.path (dropByteOrderMark text))
          lexed.tokens).mapError ParseError.refused >>= _)
      rw [htree]
      cases Tree.ofTokens start (endOfText options.path (dropByteOrderMark text)) lexed.tokens with
      | error e => rfl
      | ok tree =>
        change Except.ok (ParsedText.mk _ _ (dropByteOrderMark text') _ _) =
          Except.ok (ParsedText.mk _ _ (m.source (dropByteOrderMark text)) _ _)
        rw [h.source]
        rfl

/-- A relocated text gives the relocated feature, or fails with the failure moved. -/
theorem parseFeature_moved :
    parseFeature options text' =
      mapBoth (·.moved m (endOfText options.path (dropByteOrderMark text'))) (·.relocate m)
        (parseFeature options text) := by
  have hsomewhere := endsIn_parse_somewhere .feature options text
  rw [parseFeature, parseFeature, parse_moved h]
  cases hread : parse .feature options text with
  | error e => rfl
  | ok p =>
    rw [hread] at hsomewhere
    change (p.relocate m).toFeature.mapError ParseError.refused = _
    rw [ParsedText.toFeature_relocate]
    exact mapError_refused_relocate m (ParsedText.endsIn_toFeature hsomewhere) _ _

/-- A relocated text gives the relocated steps, or fails with the failure moved. -/
theorem parseSteps_moved :
    parseSteps options text' =
      mapBoth (·.moved m (endOfText options.path (dropByteOrderMark text')))
        (List.map (·.relocate m)) (parseSteps options text) := by
  have hsomewhere := endsIn_parse_somewhere .steps options text
  rw [parseSteps, parseSteps, parse_moved h]
  cases hread : parse .steps options text with
  | error e => rfl
  | ok p =>
    rw [hread] at hsomewhere
    change (p.relocate m).toSteps.mapError ParseError.refused = _
    rw [ParsedText.toSteps_relocate]
    exact mapError_refused_relocate m (ParsedText.endsIn_toSteps hsomewhere) _ _

end Moved

end Gherkin
