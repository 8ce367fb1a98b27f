import Gherkin.Proofs.Feature.Built
import Gherkin.Proofs.Token.Warnings

/-!
# What refusals and warnings point at

However a document is refused, by the lexer, by the parser or by a rule on names and tables, the
refusal shows a line of the text and stands at the first character of it that is no white space, or
it shows nothing and stands at the start of the last line. A text that is read is warned about for
those of its lines that are indented less than the multiline string in which they stand.

Main statement: `diagnostics_point_at_text`.
-/

namespace Gherkin

section Rules

variable {P : Location → Text → Prop}

theorem endsIn_collect {ε α : Type} {P : ε → Prop} {rs : List (Except ε α)}
    (h : ∀ r ∈ rs, EndsIn P (fun _ ↦ True) r) : EndsIn P (fun _ ↦ True) (collect rs) := by
  induction rs with
  | nil => trivial
  | cons r rs ih =>
    obtain ⟨hr, hrest⟩ := List.forall_mem_cons.1 h
    cases r with
    | error e => exact hr
    | ok a => exact (ih hrest).map fun _ _ ↦ trivial

/-- A table is refused at one of its rows; it is never without any. -/
theorem Table.endsIn_ofRows {rows : List Tree.Row} (hne : rows ≠ []) (h : ∀ r ∈ rows, r.At P) :
    EndsIn (·.At P) (fun _ ↦ True) (ofRows rows) := by
  cases rows with
  | nil => exact absurd rfl hne
  | cons first rest =>
    rw [ofRows]
    dsimp only
    split
    · next r hr => exact ⟨h r (List.mem_of_find?_eq_some hr), not_false⟩
    · trivial

theorem Step.endsIn_ofNode (owner : Option BlockId) (phase : StepKind) {n : Tree.StepNode}
    (h : n.At P) : EndsIn (·.At P) (fun _ ↦ True) (ofNode owner phase n) := by
  rw [ofNode]
  dsimp only
  split
  · trivial
  · next rows hargument =>
    obtain ⟨hne, hrows⟩ := h _ hargument
    exact (Table.endsIn_ofRows hne hrows).bind fun _ _ ↦ trivial
  · trivial

theorem Step.endsIn_ofNodes (owner : Option BlockId) {ns : List Tree.StepNode}
    (h : ∀ n ∈ ns, n.At P) : EndsIn (·.At P) (fun _ ↦ True) (ofNodes owner ns) := by
  refine endsIn_collect fun r hr ↦ ?_
  obtain ⟨⟨phase, n⟩, hn, rfl⟩ := List.mem_map.1 hr
  exact endsIn_ofNode owner phase (h n (List.of_mem_zip hn).2)

theorem Background.endsIn_ofNode {n : Tree.BlockNode} (h : n.At P) :
    EndsIn (·.At P) (fun _ ↦ True) (ofNode n) :=
  (Step.endsIn_ofNodes _ h.steps).bind fun _ _ ↦ trivial

/-- Examples are refused at their header if they have no rows. -/
theorem Examples.endsIn_ofNode {n : Tree.ExamplesNode} (h : n.At P) :
    EndsIn (·.At P) (fun _ ↦ True) (ofNode n) := by
  rw [ofNode]
  split
  · exact ⟨h.header, not_false⟩
  · next hrows =>
    have hne : n.rows ≠ [] := fun hnil ↦ hrows (List.isEmpty_iff.2 hnil)
    exact (Table.endsIn_ofRows hne h.rows).bind fun _ _ ↦ trivial

theorem Scenario.endsIn_ofNode (index : Nat) {n : Tree.BlockNode} (h : n.At P) :
    EndsIn (·.At P) (fun _ ↦ True) (ofNode index n) := by
  rw [ofNode]
  split
  · exact ⟨h.header, not_false⟩
  · refine (Step.endsIn_ofNodes _ h.steps).bind fun steps _ ↦ ?_
    have hexamples : EndsIn (·.At P) (fun _ ↦ True) (collect (n.examples.map Examples.ofNode)) := by
      refine endsIn_collect fun r hr ↦ ?_
      obtain ⟨e, he, rfl⟩ := List.mem_map.1 hr
      exact Examples.endsIn_ofNode (h.examples e he)
    exact hexamples.bind fun _ _ ↦ trivial

theorem ParsedText.endsIn_toFeature {p : ParsedText} (h : p.tree.At P .feature) :
    EndsIn (·.At P) (fun f : Feature ↦ f.warnings = p.warnings) p.toFeature := by
  obtain ⟨tree, language, source, path, warnings⟩ := p
  cases tree with
  | snippet ss => exact h.elim
  | document n =>
    have hn : n.At P := h
    have hbackground : EndsIn (·.At P) (fun _ ↦ True) (n.background.mapM Background.ofNode) := by
      cases hnode : n.background with
      | none => trivial
      | some b =>
        rw [Option.mapM_some]
        exact (Background.endsIn_ofNode (hn.background b hnode)).map fun _ _ ↦ trivial
    have hscenarios : EndsIn (·.At P) (fun _ ↦ True)
        (collect (n.scenarios.mapIdx Scenario.ofNode)) := by
      refine endsIn_collect fun r hr ↦ ?_
      obtain ⟨index, hindex, rfl⟩ := List.mem_mapIdx.1 hr
      exact Scenario.endsIn_ofNode index (hn.scenarios _ (List.getElem_mem hindex))
    rw [toFeature]
    dsimp only
    split
    · exact ⟨hn.header, not_false⟩
    · split
      · exact ⟨hn.header, not_false⟩
      · refine hbackground.bind fun background _ ↦ ?_
        exact hscenarios.bind fun scenarios _ ↦ rfl

theorem ParsedText.endsIn_toSteps {p : ParsedText} (h : p.tree.At P .steps) :
    EndsIn (·.At P) (fun _ ↦ True) p.toSteps := by
  obtain ⟨tree, language, source, path, warnings⟩ := p
  cases tree with
  | snippet ss => exact Step.endsIn_ofNodes none h
  | document n => exact h.elim

end Rules

/-- A failure other than a refusal has no place. -/
def ParseError.At (P : Location → Text → Prop) : ParseError → Prop
  | refused e => e.At P
  | _ => True

/-- A place and a line belong to a text: the line is the text's at that number, without its
terminator, and the column is that of its first character other than white space, or there is no
line and the place is the start of the last line. -/
def PointsAt (path : Option Text) (source : Text) (location : Location) (line : Text) : Prop :=
  (∃ above raw, (Text.splitLines source)[above]? = some raw ∧ line = SourceLine.chomp raw ∧
    location = ⟨path, above + 1, (Text.leading line).length + 1⟩) ∨
  (line = [] ∧ location = ⟨path, (Text.splitLines source).length, 1⟩)

theorem SourceLine.exists_of_mem_enumerate {number offset : Nat} {raws : List Text} {l : SourceLine}
    (h : l ∈ enumerate number offset raws) :
    ∃ above raw, raws[above]? = some raw ∧ l.number = above + number ∧ l.text = chomp raw := by
  induction raws generalizing number offset with
  | nil => cases h
  | cons raw raws ih =>
    rcases List.mem_cons.1 h with rfl | h
    · exact ⟨0, raw, rfl, (Nat.zero_add number).symm, rfl⟩
    · obtain ⟨above, raw', hraw, hnumber, htext⟩ := ih h
      exact ⟨above + 1, raw', hraw, by omega, htext⟩

section Texts

variable (options : ParseOptions) (text : Text)

theorem pointsAt_of_mem_ofText {path : Option Text} {source : Text} {l : SourceLine}
    (h : l ∈ SourceLine.ofText source) : PointsAt path source (l.location path) l.text := by
  obtain ⟨above, raw, hraw, hnumber, htext⟩ := SourceLine.exists_of_mem_enumerate h
  refine .inl ⟨above, raw, hraw, htext, ?_⟩
  rw [SourceLine.location, SourceLine.indent, hnumber]

theorem pointsAt_endOfText (path : Option Text) (source : Text) :
    PointsAt path source (endOfText path source) [] := by
  have hlength := congrArg List.length (SourceLine.map_text_enumerate 1 0 (Text.splitLines source))
  rw [List.length_map, List.length_map] at hlength
  refine .inr ⟨rfl, ?_⟩
  rw [endOfText, SourceLine.ofText, hlength]

/-- A refusal stands as a failure where it stands. -/
theorem EndsIn.refused {P : Location → Text → Prop} {α : Type} {Q : α → Prop}
    {r : Except SyntaxError α} (h : EndsIn (·.At P) Q r) :
    EndsIn (ParseError.At P) Q (r.mapError .refused) := h.mapError fun _ he ↦ he

/-- A parse is refused at the text, or gives a tree at the text and the warnings about its shallow
lines. -/
theorem endsIn_parse (start : DocumentKind) :
    EndsIn (·.At (PointsAt options.path (dropByteOrderMark text)))
      (fun p ↦ p.tree.At (PointsAt options.path (dropByteOrderMark text)) start ∧
        p.warnings = shallowLines options.path (SourceLine.ofText (dropByteOrderMark text)))
      (parse start options text) := by
  rw [parse]
  dsimp only
  split
  · trivial
  · next language _ =>
    have hlexed : EndsIn (·.At (PointsAt options.path (dropByteOrderMark text)))
        (fun lexed : Lexed ↦ (∀ t ∈ lexed.tokens, t.At _) ∧
          Lexed.ofText language options.path (dropByteOrderMark text) = .ok lexed)
        (Lexed.ofText language options.path (dropByteOrderMark text)) :=
      (Lexed.endsIn_ofText fun l hl _ ↦ pointsAt_of_mem_ofText hl).traced
    refine hlexed.refused.bind fun lexed hread ↦ ?_
    obtain ⟨htokens, hread⟩ := hread
    refine (Tree.endsIn_ofTokens (fun hplace h ↦ ⟨hplace, h⟩)
      (fun h ↦ ⟨pointsAt_endOfText _ _, h⟩) htokens
      start).refused.bind fun tree htree ↦ ?_
    exact ⟨htree, Lexed.warnings_of_ofText hread⟩

theorem endsIn_parseFeature :
    EndsIn (·.At (PointsAt options.path (dropByteOrderMark text)))
      (fun f ↦ f.warnings =
        shallowLines options.path (SourceLine.ofText (dropByteOrderMark text)))
      (parseFeature options text) := by
  refine (endsIn_parse options text .feature).bind fun p hp ↦ ?_
  exact (ParsedText.endsIn_toFeature hp.1).refused.mono fun f hf ↦ hf.trans hp.2

theorem endsIn_parseSteps :
    EndsIn (·.At (PointsAt options.path (dropByteOrderMark text))) (fun _ ↦ True)
      (parseSteps options text) :=
  (endsIn_parse options text .steps).bind fun _ hp ↦ (ParsedText.endsIn_toSteps hp.1).refused

/-- Every refusal points at the text, and the warnings of every text that is read are those about
its shallow lines, each once and in order. -/
theorem diagnostics_point_at_text :
    (∀ e, parseFeature options text = .error (.refused e) ∨
        parseSteps options text = .error (.refused e) →
      PointsAt options.path (dropByteOrderMark text) e.location e.line) ∧
    (∀ start p, parse start options text = .ok p →
      p.warnings = shallowLines options.path (SourceLine.ofText (dropByteOrderMark text)) ∧
        (p.warnings.map (·.location.line)).Pairwise (· < ·)) ∧
    (∀ f, parseFeature options text = .ok f →
      f.warnings = shallowLines options.path (SourceLine.ofText (dropByteOrderMark text))) := by
  refine ⟨fun e h ↦ ?_, fun start p h ↦ ?_, fun f h ↦ ?_⟩
  · rcases h with h | h
    · have hfeature := endsIn_parseFeature options text
      rw [h] at hfeature
      exact hfeature.place
    · have hsteps := endsIn_parseSteps options text
      rw [h] at hsteps
      exact hsteps.place
  · have hparse := endsIn_parse options text start
    rw [h] at hparse
    have hwarnings := hparse.2
    exact ⟨hwarnings, hwarnings ▸ pairwise_line_shallowLines options.path _⟩
  · have hfeature := endsIn_parseFeature options text
    rw [h] at hfeature
    exact hfeature

end Texts

/-- Two steps: a multiline string with a shallow line in it, and a table of rows of two widths. -/
def raggedText : Text :=
  "Given x\n  \"\"\"\n y\n\n  \"\"\"\nWhen z\n | a | b |\n\t| c |\n".toList

theorem diagnostics_point_at_raggedText :
    (∃ p, parse .steps {} raggedText = .ok p ∧
      p.warnings = shallowLines none (SourceLine.ofText raggedText) ∧
      shallowLines none (SourceLine.ofText raggedText) = [⟨⟨none, 3, 2⟩, "y".toList⟩]) ∧
    ∃ e, parseSteps {} raggedText = .error (.refused e) ∧
      PointsAt none raggedText e.location e.line ∧
      e.location = ⟨none, 8, 2⟩ ∧ e.line = "\t| c |".toList := by
  have hmark : dropByteOrderMark raggedText = raggedText := dropByteOrderMark_of_ne (by decide) _
  obtain ⟨hrefused, hwarned, -⟩ := diagnostics_point_at_text {} raggedText
  rw [hmark] at hrefused hwarned
  have hread : (parse .steps {} raggedText).toOption.map (·.warnings.length) = some 1 := by
    simp only [parse]
    rw [code_of_undeclared (by decide +kernel), Language.find?_defaultCode]
    decide +kernel
  have hfail : EndsIn (· = .refused ⟨⟨none, 8, 2⟩, .raggedRow 2 1, "\t| c |".toList⟩)
      (fun _ ↦ False) (parseSteps {} raggedText) := by
    simp only [parseSteps, parse]
    rw [code_of_undeclared (by decide +kernel), Language.find?_defaultCode]
    decide +kernel
  obtain ⟨p, hp, -⟩ := toOption_map_eq_some_iff.1 hread
  obtain ⟨e, hsteps, rfl⟩ := hfail.exists_error
  exact ⟨⟨p, hp, (hwarned _ p hp).1, by decide +kernel⟩,
    _, hsteps, hrefused _ (.inr hsteps), rfl, rfl⟩

end Gherkin
