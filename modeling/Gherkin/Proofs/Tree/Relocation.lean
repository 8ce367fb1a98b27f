import Gherkin.Proofs.Token.Relocation
import Gherkin.Proofs.Tree.Completeness
import Gherkin.Proofs.Tree.Parts
import Gherkin.Proofs.Tree.Refusal
import Gherkin.Proofs.Tree.Soundness
import Gherkin.Proofs.Tree.Unplaced

/-!
# Trees whose places are changed

The structure of a document hangs on what its tokens say, never on where they stand. Each function
that takes something off the front of the tokens takes the same off relocated tokens, relocated,
hands on the same rest, and refuses the same token with the same fault.

Where the text ends shows only in what is refused there. So it may be moved by itself.

Main statements: `Tree.relocate_ofTokens`, and `Tree.moved_ofTokens` with an end of its own.
-/

namespace Gherkin

section Relocate

variable (m : Relocation)

namespace Tree

def Header.relocate (h : Header) : Header :=
  { h with location := m.location h.location, span := m.span h.span, line := m.line h.line }

def TextLine.relocate (l : TextLine) : TextLine :=
  { l with location := m.location l.location, span := m.span l.span }

def Row.relocate (r : Row) : Row :=
  { r with location := m.location r.location, span := m.span r.span, line := m.line r.line }

def StringNode.relocate (s : StringNode) : StringNode :=
  { s with location := m.location s.location, span := m.span s.span }

def Argument.relocate : Argument → Argument
  | table rows => table (rows.map (·.relocate m))
  | string s => string (s.relocate m)

def StepNode.relocate (s : StepNode) : StepNode :=
  { s with
    location := m.location s.location, span := m.span s.span
    argument := s.argument.map (·.relocate m) }

def ExamplesNode.relocate (e : ExamplesNode) : ExamplesNode :=
  ⟨e.header.relocate m, e.description.map (·.relocate m), e.rows.map (·.relocate m)⟩

def BlockNode.relocate (n : BlockNode) : BlockNode :=
  ⟨n.header.relocate m, n.description.map (·.relocate m), n.steps.map (·.relocate m),
    n.examples.map (·.relocate m)⟩

def FeatureNode.relocate (n : FeatureNode) : FeatureNode :=
  ⟨n.header.relocate m, n.description.map (·.relocate m), n.background.map (·.relocate m),
    n.scenarios.map (·.relocate m)⟩

end Tree

def Tree.relocate : Tree → Tree
  | document f => document (f.relocate m)
  | snippet ss => snippet (ss.map (·.relocate m))

end Relocate

namespace Tree

variable (m : Relocation) (eof : Location)

/-- What is taken off the front of tokens and what is handed on, relocated. -/
abbrev relocateTaken {α : Type} (f : α → α) :
    Except SyntaxError (Taken α) → Except SyntaxError (Taken α) :=
  mapBoth (·.relocate m) (Prod.map f (List.map (·.relocate m)))

theorem Header.ofToken?_relocate (tags : List Text) (t : Token) :
    ofToken? tags (t.relocate m) = (ofToken? tags t).map (·.relocate m) := by
  unfold ofToken? Token.relocate
  dsimp only
  split <;> rfl

theorem TextLine.ofToken?_relocate (t : Token) :
    ofToken? (t.relocate m) = (ofToken? t).map (·.relocate m) := by
  unfold ofToken? Token.relocate
  dsimp only
  split <;> rfl

theorem Row.ofToken?_relocate (t : Token) :
    ofToken? (t.relocate m) = (ofToken? t).map (·.relocate m) := by
  unfold ofToken? Token.relocate
  dsimp only
  split <;> rfl

theorem StringNode.ofToken?_relocate (t : Token) :
    ofToken? (t.relocate m) = (ofToken? t).map (·.relocate m) := by
  unfold ofToken? Token.relocate
  dsimp only
  split <;> rfl

theorem StepNode.ofToken?_relocate (t : Token) :
    ofToken? (t.relocate m) = (ofToken? t).map (·.relocate m) := by
  unfold ofToken? Token.relocate
  dsimp only
  split <;> rfl

variable (ts : List Token)

theorem refuseAt_relocate (fault : SyntaxFault) :
    refuseAt (m.location eof) (ts.map (·.relocate m)) fault =
      (refuseAt eof ts fault).relocate m := by
  cases ts with
  | nil => rw [List.map_nil, refuseAt, refuseAt, SyntaxError.relocate, m.line_nil]
  | cons t ts => rfl

theorem takeRun_relocate {α : Type} {read? : Token → Option α} {f : α → α}
    (hread : ∀ t : Token, read? (t.relocate m) = (read? t).map f) :
    takeRun read? (ts.map (·.relocate m)) =
      Prod.map (List.map f) (List.map (·.relocate m)) (takeRun read? ts) := by
  induction ts with
  | nil => rfl
  | cons t ts ih =>
    rw [List.map_cons, takeRun, takeRun, hread, ih]
    cases read? t <;> rfl

theorem dropWhile_isTags_relocate :
    (ts.map (·.relocate m)).dropWhile Token.isTags =
      (ts.dropWhile Token.isTags).map (·.relocate m) :=
  List.dropWhile_map ..

theorem takeTags_relocate :
    takeTags (ts.map (·.relocate m)) = Prod.map id (List.map (·.relocate m)) (takeTags ts) := by
  rw [takeTags, dropWhile_isTags_relocate, List.takeWhile_map, List.flatMap_map]
  rfl

theorem head?_blockKind?_relocate :
    (ts.map (·.relocate m)).head?.bind Token.blockKind? = ts.head?.bind Token.blockKind? := by
  cases ts <;> rfl

theorem blockAfterTags?_relocate :
    blockAfterTags? (ts.map (·.relocate m)) = blockAfterTags? ts := by
  rw [blockAfterTags?, dropWhile_isTags_relocate, head?_blockKind?_relocate, blockAfterTags?]

theorem takeHeader_relocate (tags : List Text) :
    takeHeader (m.location eof) tags (ts.map (·.relocate m)) =
      relocateTaken m (·.relocate m) (takeHeader eof tags ts) := by
  cases ts with
  | nil => exact congrArg Except.error (refuseAt_relocate m eof [] _)
  | cons t ts =>
    rw [List.map_cons, takeHeader, takeHeader, Header.ofToken?_relocate]
    cases Header.ofToken? tags t <;> rfl

theorem startsWithRow_relocate : startsWithRow (ts.map (·.relocate m)) = startsWithRow ts := by
  cases ts with
  | nil => rfl
  | cons t ts =>
    simp only [startsWithRow, List.map_cons, List.head?_cons, Option.bind_some,
      Row.ofToken?_relocate, Option.isSome_map]

theorem startsWithString_relocate :
    startsWithString (ts.map (·.relocate m)) = startsWithString ts := by
  cases ts with
  | nil => rfl
  | cons t ts =>
    simp only [startsWithString, List.map_cons, List.head?_cons, Option.bind_some,
      StringNode.ofToken?_relocate, Option.isSome_map]

theorem takeArgument_relocate :
    takeArgument (m.location eof) (ts.map (·.relocate m)) =
      relocateTaken m (Option.map (·.relocate m)) (takeArgument eof ts) := by
  cases ts with
  | nil => rfl
  | cons t ts =>
    simp only [List.map_cons, takeArgument, Row.ofToken?_relocate, StringNode.ofToken?_relocate,
      takeRun_relocate m ts (Row.ofToken?_relocate m)]
    cases Row.ofToken? t with
    | some row =>
      simp only [Option.map_some, Prod.map_snd, Prod.map_fst, startsWithString_relocate,
        refuseAt_relocate]
      split <;> rfl
    | none =>
      cases StringNode.ofToken? t with
      | none => rfl
      | some s =>
        simp only [Option.map_none, Option.map_some, startsWithRow_relocate,
          startsWithString_relocate, refuseAt_relocate]
        split
        · rfl
        · split <;> rfl

theorem takeSteps_relocate :
    takeSteps (m.location eof) (ts.map (·.relocate m)) =
      relocateTaken m (List.map (·.relocate m)) (takeSteps eof ts) := by
  fun_induction takeSteps eof ts with
  | case1 => rw [List.map_nil, takeSteps]; rfl
  | case2 t ts h => rw [List.map_cons, takeSteps_cons, StepNode.ofToken?_relocate, h]; rfl
  | case3 t ts step h e harg =>
    rw [List.map_cons, takeSteps_cons, StepNode.ofToken?_relocate, h, takeArgument_relocate, harg]
    rfl
  | case4 t ts step h argument after harg e hsteps ih =>
    rw [List.map_cons, takeSteps_cons, StepNode.ofToken?_relocate, h, takeArgument_relocate, harg]
    simp only [Option.map_some, mapBoth_ok, Prod.map, bind, Except.bind, ih, hsteps, mapBoth_error]
  | case5 t ts step h argument after harg steps last hsteps ih =>
    rw [List.map_cons, takeSteps_cons, StepNode.ofToken?_relocate, h, takeArgument_relocate, harg]
    simp only [Option.map_some, mapBoth_ok, Prod.map, bind, Except.bind, ih, hsteps]
    rfl

theorem takeExamplesBlock_relocate :
    takeExamplesBlock (m.location eof) (ts.map (·.relocate m)) =
      relocateTaken m (·.relocate m) (takeExamplesBlock eof ts) := by
  rw [takeExamplesBlock_eq, takeExamplesBlock_eq, takeTags_relocate]
  simp only [Prod.map_fst, Prod.map_snd, id, takeHeader_relocate]
  refine mapBoth_bind (fun taken ↦ ?_) _
  obtain ⟨header, rest⟩ := taken
  simp only [Prod.map, takeRun_relocate m _ (TextLine.ofToken?_relocate m),
    takeRun_relocate m _ (Row.ofToken?_relocate m)]
  rfl

theorem takeExamples_relocate :
    takeExamples (m.location eof) (ts.map (·.relocate m)) =
      relocateTaken m (List.map (·.relocate m)) (takeExamples eof ts) := by
  fun_induction takeExamples eof ts with
  | case1 ts h e hblock =>
    rw [takeExamples_eq, blockAfterTags?_relocate, if_pos h, takeExamplesBlock_relocate, hblock]
    rfl
  | case2 ts h block after hblock e hblocks ih =>
    rw [takeExamples_eq, blockAfterTags?_relocate, if_pos h, takeExamplesBlock_relocate, hblock]
    simp only [mapBoth_ok, Prod.map, bind, Except.bind, ih, hblocks, mapBoth_error]
  | case3 ts h block after hblock blocks last hblocks ih =>
    rw [takeExamples_eq, blockAfterTags?_relocate, if_pos h, takeExamplesBlock_relocate, hblock]
    simp only [mapBoth_ok, Prod.map, bind, Except.bind, ih, hblocks]
    rfl
  | case4 ts h =>
    rw [takeExamples_eq, blockAfterTags?_relocate, if_neg h]
    rfl

theorem takeBlock_relocate :
    takeBlock (m.location eof) (ts.map (·.relocate m)) =
      relocateTaken m (·.relocate m) (takeBlock eof ts) := by
  rw [takeBlock, takeBlock, takeTags_relocate]
  simp only [Prod.map_fst, Prod.map_snd, id, takeHeader_relocate]
  refine mapBoth_bind (fun taken ↦ ?_) _
  obtain ⟨header, rest⟩ := taken
  simp only [Prod.map, takeRun_relocate m _ (TextLine.ofToken?_relocate m), takeSteps_relocate]
  refine mapBoth_bind (fun taken ↦ ?_) _
  obtain ⟨steps, rest⟩ := taken
  have hkind : (header.relocate m).kind = header.kind := rfl
  simp only [Prod.map, hkind]
  split
  · rfl
  · rw [takeExamples_relocate]
    refine mapBoth_bind (fun taken ↦ ?_) _
    rfl

theorem startsScenario_relocate : startsScenario (ts.map (·.relocate m)) = startsScenario ts := by
  rw [startsScenario, blockAfterTags?_relocate, startsScenario]

theorem takeScenarios_relocate :
    takeScenarios (m.location eof) (ts.map (·.relocate m)) =
      relocateTaken m (List.map (·.relocate m)) (takeScenarios eof ts) := by
  fun_induction takeScenarios eof ts with
  | case1 ts h e hblock =>
    rw [takeScenarios_eq, startsScenario_relocate, if_pos h, takeBlock_relocate, hblock]
    rfl
  | case2 ts h block after hblock e hblocks ih =>
    rw [takeScenarios_eq, startsScenario_relocate, if_pos h, takeBlock_relocate, hblock]
    simp only [mapBoth_ok, Prod.map, bind, Except.bind, ih, hblocks, mapBoth_error]
  | case3 ts h block after hblock blocks last hblocks ih =>
    rw [takeScenarios_eq, startsScenario_relocate, if_pos h, takeBlock_relocate, hblock]
    simp only [mapBoth_ok, Prod.map, bind, Except.bind, ih, hblocks]
    rfl
  | case4 ts h =>
    rw [takeScenarios_eq, startsScenario_relocate, if_neg h]
    rfl

theorem expectEnd_relocate (start : DocumentKind) :
    expectEnd start (ts.map (·.relocate m)) = mapBoth (·.relocate m) id (expectEnd start ts) := by
  cases ts with
  | nil => rfl
  | cons t ts =>
    have htags : (t.relocate m).isTags = t.isTags := rfl
    have hstray : strayTags? start ((t :: ts).map (·.relocate m)) = strayTags? start (t :: ts) := by
      unfold strayTags?
      rw [blockAfterTags?_relocate]
    rw [List.map_cons] at hstray
    rw [List.map_cons, expectEnd, expectEnd, htags, hstray, ← List.map_cons,
      dropWhile_isTags_relocate]
    split
    · cases strayTags? start (t :: ts) with
      | some fault => rfl
      | none => cases (t :: ts).dropWhile Token.isTags <;> rfl
    · rfl

theorem takeFeature_relocate :
    takeFeature (m.location eof) (ts.map (·.relocate m)) =
      relocateTaken m (·.relocate m) (takeFeature eof ts) := by
  have hfound (us : List Token) : (us.map (·.relocate m)).head?.map (·.kind.describe) =
      us.head?.map (·.kind.describe) := by
    cases us <;> rfl
  rw [takeFeature, takeFeature, takeTags_relocate]
  simp only [Prod.map_fst, Prod.map_snd, id, takeHeader_relocate, head?_blockKind?_relocate, hfound,
    refuseAt_relocate]
  split
  · rfl
  · refine mapBoth_bind (fun taken ↦ ?_) _
    obtain ⟨header, rest⟩ := taken
    simp only [Prod.map, takeRun_relocate m _ (TextLine.ofToken?_relocate m),
      head?_blockKind?_relocate, takeBlock_relocate, takeScenarios_relocate]
    split
    · refine mapBoth_bind (fun taken ↦ ?_) _
      obtain ⟨background, rest⟩ := taken
      simp only [Prod.map, head?_blockKind?_relocate, refuseAt_relocate, takeScenarios_relocate]
      split
      · rfl
      · refine mapBoth_bind (fun taken ↦ ?_) _
        rfl
    · refine mapBoth_bind (fun taken ↦ ?_) _
      rfl

theorem parseFeature_relocate :
    parseFeature (m.location eof) (ts.map (·.relocate m)) =
      mapBoth (·.relocate m) (·.relocate m) (parseFeature eof ts) := by
  rw [parseFeature, parseFeature, takeFeature_relocate]
  refine mapBoth_bind (fun taken ↦ ?_) _
  obtain ⟨feature, rest⟩ := taken
  simp only [Prod.map, expectEnd_relocate]
  refine mapBoth_bind (fun _ ↦ ?_) _
  rfl

theorem parseSteps_relocate :
    parseSteps (m.location eof) (ts.map (·.relocate m)) =
      mapBoth (·.relocate m) (List.map (·.relocate m)) (parseSteps eof ts) := by
  rw [parseSteps, parseSteps, takeSteps_relocate]
  refine mapBoth_bind (fun taken ↦ ?_) _
  obtain ⟨steps, rest⟩ := taken
  simp only [Prod.map, expectEnd_relocate]
  refine mapBoth_bind (fun _ ↦ ?_) _
  rfl

/-- Relocated tokens have the structure of the tokens, relocated. -/
theorem relocate_ofTokens (start : DocumentKind) :
    ofTokens start (m.location eof) (ts.map (·.relocate m)) =
      mapBoth (·.relocate m) (·.relocate m) (ofTokens start eof ts) := by
  cases start with
  | feature =>
    rw [ofTokens, ofTokens, parseFeature_relocate]
    cases parseFeature eof ts <;> rfl
  | steps =>
    rw [ofTokens, ofTokens, parseSteps_relocate]
    cases parseSteps eof ts <;> rfl

/-- Where the text ends has no part in a tree. -/
theorem ofTokens_ok_of_ok {eof : Location} {ts : List Token} {start : DocumentKind} {tree : Tree}
    (h : ofTokens start eof ts = .ok tree) (eof' : Location) :
    ofTokens start eof' ts = .ok tree := by
  cases start with
  | feature =>
    obtain ⟨n, hn, rfl⟩ := map_eq_ok_iff.1 h
    exact map_eq_ok_iff.2 ⟨n, parseFeature_of_spelled (spelled_of_parseFeature hn) eof', rfl⟩
  | steps =>
    obtain ⟨ss, hss, rfl⟩ := map_eq_ok_iff.1 h
    exact map_eq_ok_iff.2 ⟨ss, parseSteps_of_spelled (spelled_of_parseSteps hss) eof', rfl⟩

end Tree

/-- The relocation that takes what stands nowhere to the given end. -/
def Relocation.endingAt (m : Relocation) (eof : Location) : Relocation :=
  { m with
    location := fun l ↦ if l = .nowhere then eof else m.location l
    location_start := fun path ↦ by
      rw [if_neg (by simp [Location.nowhere])]
      exact m.location_start path }

/-- A refusal shows a line if and only if it stands somewhere. -/
def Shown (location : Location) (line : Text) : Prop := line = [] ↔ location = .nowhere

/-- What becomes of a refusal when the text ends somewhere else. One that shows no line stands at
the end. -/
def SyntaxError.moved (m : Relocation) (eof : Location) (e : SyntaxError) : SyntaxError :=
  { e.relocate m with location := if e.line = [] then eof else m.location e.location }

namespace Tree

variable {m : Relocation} {ts : List Token} (hts : ∀ t ∈ ts, t.line ≠ [] ∧ t.location ≠ .nowhere)

include hts in
/-- Relocated tokens have the relocated structure, or are refused with the refusal moved, wherever
the texts end. -/
theorem moved_ofTokens (start : DocumentKind) (eof eof' : Location) :
    ofTokens start eof' (ts.map (·.relocate m)) =
      mapBoth (·.moved m eof') (·.relocate m) (ofTokens start eof ts) := by
  have hending (m : Relocation) (eof : Location) :
      ofTokens start eof (ts.map (·.relocate m)) =
        mapBoth (·.relocate (m.endingAt eof)) (·.relocate (m.endingAt eof))
          (ofTokens start .nowhere ts) := by
    rw [← relocate_ofTokens]
    congr 1
    refine List.map_congr_left fun t ht ↦ ?_
    simp only [Token.relocate, Relocation.endingAt, if_neg (hts t ht).2]
  have hstill : ts.map (·.relocate (Movement.still.relocation [])) = ts := List.map_id ts
  have htokens : ∀ t ∈ ts, t.At Shown := fun t ht ↦ iff_of_false (hts t ht).1 (hts t ht).2
  have hshown : EndsIn (·.At Shown) (Tree.At Shown start) (ofTokens start .nowhere ts) :=
    endsIn_ofTokens (fun hplace h ↦ ⟨hplace, h⟩) (fun h ↦ ⟨⟨fun _ ↦ rfl, fun _ ↦ rfl⟩, h⟩)
      htokens start
  have heof := hending (Movement.still.relocation []) eof
  rw [hstill] at heof
  cases hread : ofTokens start .nowhere ts with
  | ok tree =>
    have hmoved := relocate_ofTokens m .nowhere ts start
    rw [hread, mapBoth_ok] at hmoved
    rw [ofTokens_ok_of_ok hread eof, ofTokens_ok_of_ok hmoved eof', mapBoth_ok]
  | error e =>
    rw [hread] at hshown heof
    rw [hending m eof', heof, hread]
    have hline : e.line = [] ↔ e.location = .nowhere := hshown.place
    simp only [mapBoth_error, SyntaxError.moved, SyntaxError.relocate, Relocation.endingAt,
      Movement.relocation, Movement.still, id, ← hline]
    split <;> rfl

end Tree

end Gherkin
