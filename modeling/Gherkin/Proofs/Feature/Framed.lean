import Gherkin.Proofs.Feature.Opening
import Gherkin.Proofs.Feature.Shift
import Gherkin.Proofs.Tree.Completeness
import Gherkin.Proofs.Tree.Soundness

/-!
# Bare steps and the steps of a scenario

Bare steps below the header of a feature and that of a scenario are read as the steps of this
scenario, if they are read at all, and a document of this form that holds nothing else can be read
without the headers. Headers are read with whatever keyword of their group opens them, as no keyword
belongs to two groups.

Main statements: `ofText_frame_iff` on the tokens below the headers, and `parseSteps_iff_framed`.
-/

namespace Gherkin

open Text (Solid OneLine byteSize)

namespace Language

/-- No keyword of a bundled language opens blocks of different groups. -/
theorem group_eq_of_mem_bundles : ∀ b ∈ bundles, ∀ k ∈ b.vocabulary.blockKeywords,
    ∀ k' ∈ b.vocabulary.blockKeywords, k'.literal = k.literal → k'.kind.group = k.kind.group := by
  decide +kernel

variable {code : Text} {l : Language}

/-- A keyword opens blocks of its own group. -/
theorem exists_kind_of_mem_keywords (hl : find? code = some l) {group : KeywordGroup}
    (hgroup : group ≠ .statement) {keyword : Text} (hkeyword : keyword ∈ l.keywords group) :
    ∃ kind : BlockKind, kind.group = group ∧
      l.blocks.find? (·.literal = keyword) = some ⟨keyword, kind⟩ := by
  obtain ⟨k, hk, rfl, rfl⟩ : ∃ k ∈ l.blocks, k.kind.group = group ∧ k.literal = keyword := by
    cases group with
    | statement => exact absurd rfl hgroup
    | _ => simpa [keywords, and_assoc] using hkeyword
  cases hfind : l.blocks.find? (·.literal = k.literal) with
  | none => exact absurd (List.find?_eq_none.1 hfind k hk) (by simp)
  | some k' =>
    have hliteral : k'.literal = k.literal := by simpa using List.find?_some hfind
    have hk' := List.mem_of_find?_eq_some hfind
    obtain ⟨b, hb, rfl⟩ := mem_bundles_of_find? hl
    refine ⟨k'.kind, ?_, by rw [← hliteral]⟩
    exact group_eq_of_mem_bundles b hb k (List.mem_mergeSort.1 hk) k' (List.mem_mergeSort.1 hk')
      hliteral

/-- A header with a name is read with any keyword of its group. -/
theorem exists_readsAs_header (hl : find? code = some l) {group : KeywordGroup}
    (hgroup : group ≠ .statement) {keyword : Text} (hkeyword : keyword ∈ l.keywords group)
    (name : Text) (hsolid : Solid name) (hone : OneLine name) :
    ∃ kind : BlockKind, kind.group = group ∧ opensLine keyword ∧
      ReadsAs l (headerLine keyword name) (.block kind keyword name) := by
  obtain ⟨kind, hkind, hfind⟩ := exists_kind_of_mem_keywords hl hgroup hkeyword
  have hreadable := readable_of_find? hl
  exact ⟨kind, hkind, hreadable.block_opens _ (List.mem_of_find?_eq_some hfind),
    readsAs_headerLine hreadable ⟨hfind, hsolid, hone⟩⟩

end Language

def frame (F S : Text) : Text := Text.unlines [F ++ ": f".toList, S ++ ": s".toList]

theorem frame_append (F S b : Text) :
    frame F S ++ b = headerLine F ['f'] ++ '\n' :: (headerLine S ['s'] ++ '\n' :: b) := by
  simp [frame, Text.unlines, headerLine]

theorem byteSize_frame (F S : Text) :
    byteSize (frame F S) =
      byteSize (headerLine S ['s']) + 1 + (byteSize (headerLine F ['f']) + 1) := by
  have hfeed : '\n'.utf8Size = 1 := rfl
  have hframe := congrArg byteSize (frame_append F S [])
  simp only [List.append_nil, Text.byteSize_append, Text.byteSize_cons, Text.byteSize_nil,
    hfeed] at hframe
  omega

section Below

variable {l : Language} {path : Option Text} {line t : Text} {kind : TokenKind}

/-- A document whose first line speaks for itself names no language. -/
theorem declaredLanguage?_below (h : ReadsAs l line kind) (t : Text) :
    declaredLanguage? (line ++ '\n' :: t) = none := by
  have hfirst : ((SourceLine.ofText (line ++ '\n' :: t)).map (·.content)).find?
      (fun content ↦ content ≠ []) = some line := by
    have hcontent : (⟨1, 0, line⟩ : SourceLine).content = line := h.solid.trim_eq
    rw [SourceLine.ofText_cons h.oneLine, SourceLine.chomp_of_last h.solid.last, List.map_cons,
      hcontent, List.find?_cons_of_pos (by simpa using h.speaks.ne_nil)]
  rw [declaredLanguage?, hfirst]
  cases hline : line with
  | nil => exact absurd hline h.speaks.ne_nil
  | cons c rest =>
    have hne : c ≠ '#' := by simpa [hline] using h.speaks.no_comment
    simp [Text.afterPrefix?, Ne.symm hne]

theorem dropByteOrderMark_of_opensLine {literal : Text} (h : opensLine literal) (t : Text) :
    dropByteOrderMark (literal ++ t) = literal ++ t := by
  apply dropByteOrderMark_of_head?
  cases literal with
  | nil => cases h
  | cons c literal =>
    simp only [opensLine, List.head?_cons, Option.any_some, Bool.and_eq_true, decide_eq_true_eq,
      List.mem_cons, not_or] at h
    simpa using h.2.2.2.2.2.2.1

end Below

section Frame

variable {l : Language} {F S : Text} {kind kind' : BlockKind}

/-- Below two headers a text has the tokens that it has alone, further down. -/
theorem ofText_frame_iff (path : Option Text) (b : Text)
    (hF : ReadsAs l (headerLine F ['f']) (.block kind F ['f']))
    (hS : ReadsAs l (headerLine S ['s']) (.block kind' S ['s'])) :
    ∃ t u : Token, t.kind = .block kind F ['f'] ∧ u.kind = .block kind' S ['s'] ∧
      ∀ lexed, Lexed.ofText l path (frame F S ++ b) = .ok lexed ↔
        ∃ own, Lexed.ofText l path b = .ok own ∧
          lexed = ⟨t :: u :: (own.shift ⟨2, byteSize (frame F S)⟩).tokens,
            (own.shift ⟨2, byteSize (frame F S)⟩).warnings⟩ := by
  let first : Shift := ⟨1, byteSize (headerLine F ['f']) + 1⟩
  let second : Shift := ⟨1, byteSize (headerLine S ['s']) + 1⟩
  have hshift (own : Lexed) :
      (own.shift second).shift first = own.shift ⟨2, byteSize (frame F S)⟩ := by
    rw [Lexed.shift_shift, byteSize_frame]
    rfl
  refine ⟨.ofLine path ⟨1, 0, headerLine F ['f']⟩ (.block kind F ['f']),
    (Token.ofLine path ⟨1, 0, headerLine S ['s']⟩ (.block kind' S ['s'])).shift first, rfl, rfl,
    fun lexed ↦ ?_⟩
  rw [frame_append, Lexed.ofText_below_iff hF]
  simp only [Lexed.ofText_below_iff hS, ← hshift]
  constructor
  · rintro ⟨_, ⟨own, hown, rfl⟩, rfl⟩
    exact ⟨own, hown, rfl⟩
  · rintro ⟨own, hown, rfl⟩
    exact ⟨_, ⟨own, hown, rfl⟩, rfl⟩

end Frame

namespace Tree

variable {F S f s : Text} {kind : BlockKind} {t u : Token} {us : List Token}

/-- A header with no tags and what its token says. -/
def Header.untagged (kind : BlockKind) (keyword name : Text) (t : Token) : Header :=
  ⟨[], kind, keyword, name, t.location, t.span, t.line⟩

/-- Steps below two headers are those of a scenario. -/
theorem spelled_framed (ht : t.kind = .block .feature F f) (hu : u.kind = .block kind S s)
    (hkind : kind.group = .scenario) {ns : List StepNode} (h : Sequence StepNode.Spelled ns us) :
    FeatureNode.Spelled ⟨.untagged .feature F f t, [], none,
      [⟨.untagged kind S s u, [], ns, []⟩]⟩ (t :: u :: us) := by
  have hopens : (Header.untagged kind S s u).OpensScenario := by
    cases kind with
    | scenario => exact .inl rfl
    | scenarioOutline => exact .inr rfl
    | _ => cases hkind
  have hblock : BlockNode.SpelledScenario ⟨.untagged kind S s u, [], ns, []⟩
      ([] ++ [u] ++ ([] ++ (us ++ []))) := by
    refine .intro (.intro nofun ?_) hopens rfl h .nil
    rw [Header.ofToken?, hu]
    rfl
  have hfeature : FeatureNode.Spelled ⟨.untagged .feature F f t, [], none,
      [⟨.untagged kind S s u, [], ns, []⟩]⟩
      ([] ++ [t] ++ ([] ++ ([] ++ ([] ++ [u] ++ ([] ++ (us ++ [])) ++ [])))) := by
    refine .intro (.intro nofun ?_) rfl rfl .nil (.cons hblock .nil)
    rw [Header.ofToken?, ht]
    rfl
  simpa using hfeature

/-- The steps of a lone scenario are spelled below the two headers. -/
theorem sequence_of_spelled_framed (ht : t.kind = .block .feature F f)
    (hu : u.kind = .block kind S s) {header : Header} {b : BlockNode}
    (hdescription : b.description = []) (hexamples : b.examples = [])
    (h : FeatureNode.Spelled ⟨header, [], none, [b]⟩ (t :: u :: us)) :
    Sequence StepNode.Spelled b.steps us := by
  generalize hts : t :: u :: us = ts at h
  cases h with
  | @intro _ _ _ _ hs ds bs ss hhs _ hds hbs hss =>
    obtain rfl := reads_nil_iff.1 hds
    cases hbs
    cases hss with
    | cons hb hnil =>
      cases hnil
      cases hb with
      | @intro header' description nodes examples hs' ds' ss' es hhs' _ hds' hss' hes =>
        cases hdescription
        cases hexamples
        obtain rfl := reads_nil_iff.1 hds'
        cases hes
        simp only [List.nil_append, List.append_nil] at hts
        -- each of the two headers takes one token
        have hkind : (hs ++ (hs' ++ ss')).head?.bind Token.blockKind? = some .feature := by
          rw [← hts, List.head?_cons, Option.bind_some, Token.blockKind?, ht]
        obtain ⟨t', rfl, -⟩ := hhs.eq_singleton hkind
        rw [List.singleton_append] at hts
        obtain ⟨rfl, hrest⟩ := List.cons.inj hts
        have hkind' : (hs' ++ ss').head?.bind Token.blockKind? = some kind := by
          rw [← hrest, List.head?_cons, Option.bind_some, Token.blockKind?, hu]
        obtain ⟨u', rfl, -⟩ := hhs'.eq_singleton hkind'
        rw [List.singleton_append] at hrest
        obtain ⟨-, rfl⟩ := List.cons.inj hrest
        exact hss'

end Tree

/-! ## Bare steps and framed steps -/

/-- The feature consists of one scenario with its steps. -/
structure Feature.FramesSteps (f : Feature) (s : Scenario) : Prop where
  no_description : f.description = none
  no_background : f.background = none
  scenarios_eq : f.scenarios = [s]
  no_scenario_description : s.description = none
  no_examples : s.examples = []

section Parse

variable {code : Text} {l : Language} {F S b : Text}

theorem languageOf?_asked (hl : Language.find? code = some l) (path : Option Text) {source : Text}
    (hdeclared : declaredLanguage? source = none) :
    languageOf? ⟨some code, path⟩ source = some l := by
  rw [languageOf?, hdeclared]
  exact hl

theorem parse_steps_iff (hl : Language.find? code = some l) (path : Option Text)
    (hmark : b.head? ≠ some '\ufeff') (hdeclared : declaredLanguage? b = none) {p : ParsedText}
    {steps : List Step} :
    parse .steps ⟨some code, path⟩ b = .ok p ∧ p.toSteps = .ok steps ↔
      ∃ lexed ns, Lexed.ofText l path b = .ok lexed ∧
        Tree.Sequence Tree.StepNode.Spelled ns lexed.tokens ∧ Step.ofNodes none ns = .ok steps ∧
        p = ⟨.snippet ns, l, b, path, lexed.warnings⟩ := by
  have hlanguage := languageOf?_asked hl path hdeclared
  rw [parse_eq_ok_iff, dropByteOrderMark_of_head? hmark]
  constructor
  · rintro ⟨⟨l', lexed, tree, hl', hlexed, htree, rfl⟩, hsteps⟩
    cases hlanguage.symm.trans hl'
    obtain ⟨ns, hns, rfl⟩ := map_eq_ok_iff.1 htree
    exact ⟨lexed, ns, hlexed, Tree.spelled_of_parseSteps hns, hsteps, rfl⟩
  · rintro ⟨lexed, ns, hlexed, hns, hsteps, rfl⟩
    refine ⟨⟨l, lexed, .snippet ns, hlanguage, hlexed, ?_, rfl⟩, hsteps⟩
    exact map_eq_ok_iff.2 ⟨ns, Tree.parseSteps_of_spelled hns _, rfl⟩

theorem Description.ofLines_eq_none_iff {lines : List Tree.TextLine} :
    ofLines lines = none ↔ lines = [] := by
  cases lines <;> simp [ofLines]

/-- The lone scenario of a feature comes from the lone block of its node. -/
theorem Feature.FramesSteps.exists_block {p : ParsedText} {n : Tree.FeatureNode} {f : Feature}
    {s : Scenario} (hframes : f.FramesSteps s) (htree : p.tree = .document n)
    (h : p.toFeature = .ok f) :
    f.warnings = p.warnings ∧ ∃ block : Tree.BlockNode,
      n = ⟨n.header, [], none, [block]⟩ ∧ block.description = [] ∧ block.examples = [] ∧
        Step.ofNodes (some s.id) block.steps = .ok s.steps := by
  obtain ⟨n', background, scenarios, htree', -, -, hbackground, hscenarios, rfl⟩ :=
    ParsedText.toFeature_eq_ok_iff.1 h
  cases htree.symm.trans htree'
  obtain ⟨hdescription, hnone, hone, hbare, hexamples⟩ := hframes
  dsimp only at hdescription hnone hone
  subst hnone hone
  obtain ⟨header, description, back, blocks⟩ := n
  cases Description.ofLines_eq_none_iff.1 hdescription
  cases Option.map_eq_none_iff.1 hbackground
  obtain ⟨block, rest, rfl, hblock, hrest⟩ : ∃ block rest, blocks = block :: rest ∧
      Scenario.ofNode 0 block = .ok s ∧ rest = [] := by
    cases blocks with
    | nil => cases hscenarios
    | cons block rest =>
      rw [List.mapIdx_cons, List.map_singleton, List.cons.injEq] at hscenarios
      exact ⟨block, rest, rfl, hscenarios.1, List.mapIdx_eq_nil_iff.1 hscenarios.2⟩
  subst hrest
  obtain ⟨-, steps, examples, hsteps, hread, rfl⟩ := Scenario.ofNode_eq_ok_iff.1 hblock
  dsimp only at hexamples
  subst hexamples
  exact ⟨rfl, block, rfl, Description.ofLines_eq_none_iff.1 hbare,
    List.map_eq_nil_iff.1 hread, hsteps⟩

/-- A block that holds nothing but steps gives a scenario, and this a feature. -/
theorem exists_framesSteps {header header' : Tree.Header} {ns : List Tree.StepNode}
    {steps : List Step} (hname : header.name ≠ []) (hname' : header'.name ≠ [])
    (hsteps : Step.ofNodes (some (.scenario 0)) ns = .ok steps) (source : Text)
    (path : Option Text) (warnings : List Warning) :
    ∃ f s, ParsedText.toFeature ⟨.document ⟨header, [], none, [⟨header', [], ns, []⟩]⟩, l, source,
      path, warnings⟩ = .ok f ∧ f.FramesSteps s := by
  obtain ⟨s, hs, hdescription, hexamples⟩ : ∃ s, Scenario.ofNode 0 ⟨header', [], ns, []⟩ = .ok s ∧
      s.description = none ∧ s.examples = [] :=
    ⟨_, Scenario.ofNode_eq_ok_iff.2 ⟨hname', steps, [], hsteps, rfl, rfl⟩, rfl, rfl⟩
  refine ⟨_, s, ParsedText.toFeature_eq_ok_iff.2 ⟨_, none, [s], rfl, hname, List.cons_ne_nil _ _,
    rfl, ?_, rfl⟩, rfl, rfl, rfl, hdescription, hexamples⟩
  rw [List.mapIdx_cons, hs]
  rfl

/-- A framed text is read in the language that is asked for, and below its two headers it has the
tokens of the text that it frames. -/
theorem exists_headers_of_framed (hl : Language.find? code = some l) (path : Option Text)
    (hF : F ∈ l.keywords .feature) (hS : S ∈ l.keywords .scenario) (b : Text) :
    dropByteOrderMark (frame F S ++ b) = frame F S ++ b ∧
      languageOf? ⟨some code, path⟩ (frame F S ++ b) = some l ∧
      ∃ (t u : Token) (kind : BlockKind), t.kind = .block .feature F ['f'] ∧
        u.kind = .block kind S ['s'] ∧ kind.group = .scenario ∧
        ∀ lexed, Lexed.ofText l path (frame F S ++ b) = .ok lexed ↔
          ∃ own, Lexed.ofText l path b = .ok own ∧
            lexed = ⟨t :: u :: (own.shift ⟨2, byteSize (frame F S)⟩).tokens,
              (own.shift ⟨2, byteSize (frame F S)⟩).warnings⟩ := by
  obtain ⟨kind, hkind, hopens, hfirst⟩ :=
    Language.exists_readsAs_header hl (by decide) hF ['f'] (by decide) (by decide)
  obtain ⟨kind', hkind', -, hsecond⟩ :=
    Language.exists_readsAs_header hl (by decide) hS ['s'] (by decide) (by decide)
  have hfeature : kind = .feature := by
    cases kind with
    | feature => rfl
    | _ => cases hkind
  subst hfeature
  obtain ⟨t, u, ht, hu, hlexed⟩ := ofText_frame_iff path b hfirst hsecond
  have hdeclared : declaredLanguage? (frame F S ++ b) = none := by
    rw [frame_append]
    exact declaredLanguage?_below hfirst _
  refine ⟨?_, languageOf?_asked hl path hdeclared, t, u, kind', ht, hu, hkind', hlexed⟩
  have hkeyword : frame F S ++ b = F ++ (": f\n".toList ++ (S ++ ": s\n".toList ++ b)) := by
    simp [frame, Text.unlines]
  rw [hkeyword]
  exact dropByteOrderMark_of_opensLine hopens _

/-- A framed text that holds nothing but steps holds the bare steps further down. -/
theorem exists_steps_of_framed (hl : Language.find? code = some l) (path : Option Text)
    (hF : F ∈ l.keywords .feature) (hS : S ∈ l.keywords .scenario) {f : Feature} {s : Scenario}
    (h : parseFeature ⟨some code, path⟩ (frame F S ++ b) = .ok f) (hframes : f.FramesSteps s) :
    ∃ lexed ns steps, Lexed.ofText l path b = .ok lexed ∧
      Tree.Sequence Tree.StepNode.Spelled ns lexed.tokens ∧ Step.ofNodes none ns = .ok steps ∧
      s.steps = steps.map (·.moved (some s.id) ⟨2, byteSize (frame F S)⟩) ∧
      f.warnings = lexed.warnings.map (·.shift ⟨2, byteSize (frame F S)⟩) := by
  obtain ⟨hsource, hlanguage, t, u, kind, ht, hu, -, hiff⟩ :=
    exists_headers_of_framed hl path hF hS b
  obtain ⟨l', lexed, n, hl', hlexed, hn, hf⟩ := parseFeature_eq_ok_iff.1 h
  rw [hsource] at hl' hlexed hf
  cases hlanguage.symm.trans hl'
  obtain ⟨own, hown, rfl⟩ := (hiff lexed).1 hlexed
  obtain ⟨hwarnings, block, hbare, hdescription, hexamples, hsteps⟩ :=
    hframes.exists_block rfl hf
  have hspelled := Tree.spelled_of_parseFeature hn
  rw [hbare] at hspelled
  obtain ⟨ns, hns, hblock⟩ := Tree.sequence_map_shift_iff.1
    (Tree.sequence_of_spelled_framed ht hu hdescription hexamples hspelled)
  rw [hblock] at hsteps
  obtain ⟨steps, hbareSteps, hmoved⟩ := Step.ofNodes_shift_iff.1 hsteps
  exact ⟨own, ns, steps, hown, hns, hbareSteps, hmoved, hwarnings⟩

/-- Bare steps are those of the scenario when they are framed. -/
theorem exists_framed_of_steps (hl : Language.find? code = some l) (path : Option Text)
    (hF : F ∈ l.keywords .feature) (hS : S ∈ l.keywords .scenario) {lexed : Lexed}
    {ns : List Tree.StepNode} {steps : List Step} (hlexed : Lexed.ofText l path b = .ok lexed)
    (hns : Tree.Sequence Tree.StepNode.Spelled ns lexed.tokens)
    (hsteps : Step.ofNodes none ns = .ok steps) :
    ∃ f s, parseFeature ⟨some code, path⟩ (frame F S ++ b) = .ok f ∧ f.FramesSteps s := by
  obtain ⟨hsource, hlanguage, t, u, kind, ht, hu, hkind, hiff⟩ :=
    exists_headers_of_framed hl path hF hS b
  let d : Shift := ⟨2, byteSize (frame F S)⟩
  have hshifted : Tree.Sequence Tree.StepNode.Spelled (ns.map (·.shift d))
      (lexed.shift d).tokens := Tree.sequence_map_shift_iff.2 ⟨ns, hns, rfl⟩
  have hspelled := Tree.spelled_framed ht hu hkind hshifted
  have hname : (Tree.Header.untagged .feature F ['f'] t).name ≠ [] := List.cons_ne_nil _ _
  have hname' : (Tree.Header.untagged kind S ['s'] u).name ≠ [] := List.cons_ne_nil _ _
  obtain ⟨f, s, hf, hframes⟩ := exists_framesSteps hname hname'
    (Step.ofNodes_shift_iff.2 ⟨steps, hsteps, rfl⟩) (frame F S ++ b) path (lexed.shift d).warnings
  refine ⟨f, s, ?_, hframes⟩
  rw [parseFeature_eq_ok_iff, hsource]
  exact ⟨l, _, _, hlanguage, (hiff _).2 ⟨lexed, hlexed, rfl⟩,
    Tree.parseFeature_of_spelled hspelled _, hf⟩

theorem parseSteps_eq_ok_iff_parse {options : ParseOptions} {text : Text} {steps : List Step} :
    parseSteps options text = .ok steps ↔
      ∃ p, parse .steps options text = .ok p ∧ p.toSteps = .ok steps := by
  simp only [parseSteps, bind_eq_ok_iff, mapError_eq_ok_iff]

/-- A text that names no language is read as bare steps exactly if it is read, below a feature
header and a scenario header, as a feature that holds these steps and nothing else. The steps and
the warnings are then the same two lines further down. -/
theorem parseSteps_iff_framed (hl : Language.find? code = some l) (path : Option Text)
    (hF : F ∈ l.keywords .feature) (hS : S ∈ l.keywords .scenario)
    (hmark : b.head? ≠ some '\ufeff') (hdeclared : declaredLanguage? b = none) :
    ((∃ steps, parseSteps ⟨some code, path⟩ b = .ok steps) ↔
      ∃ f s, parseFeature ⟨some code, path⟩ (frame F S ++ b) = .ok f ∧ f.FramesSteps s) ∧
    ∀ p steps f s, parse .steps ⟨some code, path⟩ b = .ok p → p.toSteps = .ok steps →
      parseFeature ⟨some code, path⟩ (frame F S ++ b) = .ok f → f.FramesSteps s →
        s.steps = steps.map (·.moved (some s.id) ⟨2, byteSize (frame F S)⟩) ∧
        f.warnings = p.warnings.map (·.shift ⟨2, byteSize (frame F S)⟩) := by
  constructor
  · constructor
    · rintro ⟨steps, h⟩
      obtain ⟨p, hp, hsteps⟩ := parseSteps_eq_ok_iff_parse.1 h
      obtain ⟨lexed, ns, hlexed, hns, hbare, -⟩ :=
        (parse_steps_iff hl path hmark hdeclared).1 ⟨hp, hsteps⟩
      exact exists_framed_of_steps hl path hF hS hlexed hns hbare
    · rintro ⟨f, s, hf, hframes⟩
      obtain ⟨lexed, ns, steps, hlexed, hns, hsteps, -⟩ :=
        exists_steps_of_framed hl path hF hS hf hframes
      obtain ⟨hp, hbare⟩ :=
        (parse_steps_iff hl path hmark hdeclared).2 ⟨lexed, ns, hlexed, hns, hsteps, rfl⟩
      exact ⟨steps, parseSteps_eq_ok_iff_parse.2 ⟨_, hp, hbare⟩⟩
  · intro p steps f s hp hsteps hf hframes
    obtain ⟨lexed, ns, hlexed, hns, hbare, rfl⟩ :=
      (parse_steps_iff hl path hmark hdeclared).1 ⟨hp, hsteps⟩
    obtain ⟨lexed', ns', steps', hlexed', hns', hbare', hmoved, hwarnings⟩ :=
      exists_steps_of_framed hl path hF hS hf hframes
    -- reading is a function, so that both readings found the same steps
    cases hlexed.symm.trans hlexed'
    have hsame := (Tree.parseSteps_of_spelled hns (endOfText path b)).symm.trans
      (Tree.parseSteps_of_spelled hns' (endOfText path b))
    cases hsame
    cases hbare.symm.trans hbare'
    exact ⟨hmoved, hwarnings⟩

end Parse

/-- Steps with a table, a multiline string and a line in it that is worth a warning. -/
def pouringText : Text :=
  "When I wait\n  |a|\nAnd é\r\n  \"\"\"\n# short\n  \"\"\"".toList

theorem parseSteps_iff_framed_pouringText :
    ∃ p steps f s, parse .steps ⟨some Language.defaultCode, none⟩ pouringText = .ok p ∧
      p.toSteps = .ok steps ∧ steps.length = 2 ∧ p.warnings.map (·.location.line) = [5] ∧
      parseFeature ⟨some Language.defaultCode, none⟩
        (frame "Ability".toList "Scenario Outline".toList ++ pouringText) = .ok f ∧
      f.FramesSteps s ∧
      s.steps = steps.map (·.moved (some s.id)
        ⟨2, byteSize (frame "Ability".toList "Scenario Outline".toList)⟩) ∧
      f.warnings = p.warnings.map (·.shift
        ⟨2, byteSize (frame "Ability".toList "Scenario Outline".toList)⟩) := by
  have hdeclared : declaredLanguage? pouringText = none := by decide +kernel
  have hcode : (declaredLanguage? (dropByteOrderMark pouringText) <|>
      some Language.defaultCode).getD Language.defaultCode = Language.defaultCode := by
    decide +kernel
  have hread : (parse .steps ⟨some Language.defaultCode, none⟩ pouringText).toOption.map
      (fun p ↦ (p.toSteps.toOption.map (·.length), p.warnings.map (·.location.line))) =
      some (some 2, [5]) := by
    simp only [parse]
    rw [hcode, Language.find?_defaultCode]
    decide +kernel
  obtain ⟨p, hp, hpair⟩ := toOption_map_eq_some_iff.1 hread
  obtain ⟨hlength, hwarnings⟩ := Prod.mk.inj hpair
  obtain ⟨steps, hsteps, htwo⟩ := toOption_map_eq_some_iff.1 hlength
  obtain ⟨hiff, hsame⟩ := parseSteps_iff_framed Language.find?_defaultCode none
    (F := "Ability".toList) (S := "Scenario Outline".toList) (b := pouringText) (by decide)
    (by decide) (by decide) hdeclared
  obtain ⟨f, s, hf, hframes⟩ := hiff.1 ⟨steps, parseSteps_eq_ok_iff_parse.2 ⟨p, hp, hsteps⟩⟩
  obtain ⟨hmoved, hshifted⟩ := hsame p steps f s hp hsteps hf hframes
  exact ⟨p, steps, f, s, hp, hsteps, htwo, hwarnings, hf, hframes, hmoved, hshifted⟩

end Gherkin
