import Gherkin.Proofs.Feature.Opening
import Gherkin.Proofs.Feature.Unplaced
import Gherkin.Proofs.Tree.Completeness
import Gherkin.Proofs.Tree.Soundness

/-!
# Features read again in outline

Whether a document is a feature depends on its outline only: names that have to be there, a scenario,
and tables whose rows are of one width. A feature that was written is the same in outline when it is
read again, whatever text it was read from, and so it is not refused. The language is the one that it
was written in, unless it is English, of which the written form says nothing, and another is asked
for.

Main statements: the documents that are features (`ParsedText.exists_toFeature_iff`), and when the
language is kept (`exists_parseFeature_display_iff`).
-/

namespace Gherkin

namespace Tree

/-- The rows make up a table: there are some, and they are of one width. -/
def Aligned (rows : List Row) : Prop := rows ≠ [] ∧ ∃ width, ∀ r ∈ rows, r.cells.length = width

/-- What a step is given can be given. -/
def Argument.Sound : Argument → Prop
  | table rows => Aligned rows
  | string _ => True

def StepNode.Sound (s : StepNode) : Prop := ∀ argument ∈ s.argument, argument.Sound

/-- The block is a scenario of a feature. -/
def BlockNode.Sound (b : BlockNode) : Prop :=
  b.header.name ≠ [] ∧ (∀ s ∈ b.steps, s.Sound) ∧ ∀ e ∈ b.examples, Aligned e.rows

/-- The document is a feature. -/
def FeatureNode.Sound (n : FeatureNode) : Prop :=
  n.header.name ≠ [] ∧ n.scenarios ≠ [] ∧ (∀ b ∈ n.background, ∀ s ∈ b.steps, s.Sound) ∧
    ∀ b ∈ n.scenarios, b.Sound

variable {d : Detail}

theorem aligned_map_unplaced {rows : List Row} :
    Aligned (rows.map Row.unplaced) ↔ Aligned rows := by
  simp [Aligned, Row.unplaced]

theorem Argument.sound_upTo {argument : Argument} : (argument.upTo d).Sound ↔ argument.Sound := by
  cases argument with
  | table rows => exact aligned_map_unplaced
  | string s => exact Iff.rfl

theorem StepNode.sound_upTo {s : StepNode} : (s.upTo d).Sound ↔ s.Sound := by
  cases d <;> simp [StepNode.upTo, Sound, Argument.sound_upTo]

theorem BlockNode.sound_upTo {b : BlockNode} : (b.upTo d).Sound ↔ b.Sound := by
  simp only [Sound, upTo, List.forall_mem_map, StepNode.sound_upTo, ExamplesNode.unplaced,
    aligned_map_unplaced]
  exact Iff.rfl

/-- Only the outline of a document decides whether it is a feature. -/
theorem FeatureNode.sound_upTo {n : FeatureNode} : (n.upTo d).Sound ↔ n.Sound := by
  have hbackground : (∀ b ∈ n.background.map (BlockNode.upTo d), ∀ s ∈ b.steps, s.Sound) ↔
      ∀ b ∈ n.background, ∀ s ∈ b.steps, s.Sound := by
    cases n.background with
    | none => simp
    | some b =>
      simp [BlockNode.upTo, StepNode.sound_upTo]
  simp only [Sound, upTo, List.forall_mem_map, BlockNode.sound_upTo, hbackground, ne_eq,
    List.map_eq_nil_iff]
  exact Iff.rfl

end Tree

theorem Table.exists_ofRows_iff {rows : List Tree.Row} :
    (∃ t, ofRows rows = .ok t) ↔ Tree.Aligned rows := by
  simp only [ofRows_eq_ok_iff]
  constructor
  · rintro ⟨t, first, rest, rfl, hwidths, -⟩
    exact ⟨List.cons_ne_nil _ _, _, hwidths⟩
  · rintro ⟨hne, width, hwidths⟩
    obtain ⟨first, rest, rfl⟩ := List.exists_cons_of_ne_nil hne
    obtain ⟨hfirst, -⟩ := List.forall_mem_cons.1 hwidths
    exact ⟨_, first, rest, rfl, fun r hr ↦ (hwidths r hr).trans hfirst.symm, rfl⟩

theorem Step.exists_ofNode_iff {owner : Option BlockId} {phase : StepKind} {n : Tree.StepNode} :
    (∃ s, ofNode owner phase n = .ok s) ↔ n.Sound := by
  simp only [ofNode_eq_ok_iff, Tree.StepNode.Sound]
  constructor
  · rintro ⟨s, table, docString, hgiven, -⟩ argument hargument
    rw [Option.mem_def.1 hargument] at hgiven
    cases hgiven with
    | table ht => exact Table.exists_ofRows_iff.1 ⟨_, ht⟩
    | string s => trivial
  · intro h
    cases hargument : n.argument with
    | none => exact ⟨_, none, none, .nothing, rfl⟩
    | some argument =>
      cases argument with
      | table rows =>
        obtain ⟨t, ht⟩ := Table.exists_ofRows_iff.2 (h _ hargument)
        exact ⟨_, some t, none, .table ht, rfl⟩
      | string s => exact ⟨_, none, _, .string s, rfl⟩

theorem Step.exists_ofNodes_iff (owner : Option BlockId) {ns : List Tree.StepNode} :
    (∃ steps, ofNodes owner ns = .ok steps) ↔ ∀ n ∈ ns, n.Sound := by
  have hlength : ns.length ≤ (StepKind.phases none (ns.map (·.kind))).length :=
    Nat.le_of_eq (by rw [StepKind.length_phases, List.length_map])
  have hsnd : ((StepKind.phases none (ns.map (·.kind))).zip ns).map Prod.snd = ns :=
    List.map_snd_zip hlength
  simp only [ofNodes_eq_ok_iff, exists_map_eq_map_ok_iff, exists_ofNode_iff]
  rw [← List.forall_mem_map (f := Prod.snd) (P := Tree.StepNode.Sound), hsnd]

theorem Background.exists_ofNode_iff {n : Tree.BlockNode} :
    (∃ b, ofNode n = .ok b) ↔ ∀ s ∈ n.steps, s.Sound := by
  simp only [ofNode_eq_ok_iff, ← Step.exists_ofNodes_iff (some .background)]
  exact ⟨fun ⟨_, steps, h, _⟩ ↦ ⟨steps, h⟩, fun ⟨steps, h⟩ ↦ ⟨_, steps, h, rfl⟩⟩

theorem Examples.exists_ofNode_iff {n : Tree.ExamplesNode} :
    (∃ e, ofNode n = .ok e) ↔ Tree.Aligned n.rows := by
  simp only [ofNode_eq_ok_iff, ← Table.exists_ofRows_iff]
  exact ⟨fun ⟨_, t, h, _⟩ ↦ ⟨t, h⟩, fun ⟨t, h⟩ ↦ ⟨_, t, h, rfl⟩⟩

theorem Scenario.exists_ofNode_iff {index : Nat} {n : Tree.BlockNode} :
    (∃ s, ofNode index n = .ok s) ↔ n.Sound := by
  simp only [ofNode_eq_ok_iff, Tree.BlockNode.Sound, ← Examples.exists_ofNode_iff,
    ← exists_map_eq_map_ok_iff, ← Step.exists_ofNodes_iff (some (.scenario index))]
  constructor
  · rintro ⟨s, hname, steps, examples, hsteps, hexamples, -⟩
    exact ⟨hname, ⟨steps, hsteps⟩, examples, hexamples⟩
  · rintro ⟨hname, ⟨steps, hsteps⟩, examples, hexamples⟩
    exact ⟨_, hname, steps, examples, hsteps, hexamples, rfl⟩

/-- Names, scenarios and the widths of tables decide whether a document is a feature. -/
theorem ParsedText.exists_toFeature_iff {p : ParsedText} :
    (∃ f, p.toFeature = .ok f) ↔ ∃ n, p.tree = .document n ∧ n.Sound := by
  have hscenarios (ns : List Tree.BlockNode) :
      (∃ ss : List Scenario, ns.mapIdx Scenario.ofNode = ss.map .ok) ↔ ∀ b ∈ ns, b.Sound := by
    simp only [List.mapIdx_eq_zipIdx_map, exists_map_eq_map_ok_iff, Scenario.exists_ofNode_iff]
    rw [← List.forall_mem_map (f := Prod.fst) (P := Tree.BlockNode.Sound), List.zipIdx_map_fst]
  have hbackground (n : Option Tree.BlockNode) :
      (∃ b : Option Background, n.map Background.ofNode = b.map .ok) ↔
        ∀ b ∈ n, ∀ s ∈ b.steps, s.Sound := by
    cases n with
    | none => exact ⟨fun _ _ h ↦ (nomatch h), fun _ ↦ ⟨none, rfl⟩⟩
    | some n =>
      simp only [Option.mem_some_iff, forall_eq', ← Background.exists_ofNode_iff]
      constructor
      · rintro ⟨b, h⟩
        obtain ⟨b, rfl, hb⟩ := Option.map_eq_some_iff.1 h.symm
        exact ⟨b, hb.symm⟩
      · rintro ⟨b, hb⟩
        exact ⟨some b, congrArg some hb⟩
  simp only [toFeature_eq_ok_iff, Tree.FeatureNode.Sound, ← hscenarios, ← hbackground]
  constructor
  · rintro ⟨f, n, background, scenarios, hn, hname, hsome, hb, hs, -⟩
    exact ⟨n, hn, hname, hsome, ⟨background, hb⟩, scenarios, hs⟩
  · rintro ⟨n, hn, hname, hsome, ⟨background, hb⟩, scenarios, hs⟩
    exact ⟨_, n, background, scenarios, hn, hname, hsome, hb, hs, rfl⟩

/-- The language of a feature is the one in which its text was read. -/
theorem languageOf?_of_parseFeature {options : ParseOptions} {text : Text} {f : Feature}
    (h : parseFeature options text = .ok f) :
    languageOf? options (dropByteOrderMark text) = some f.language := by
  obtain ⟨language, _, _, hlanguage, -, -, hbuilt⟩ := parseFeature_eq_ok_iff.1 h
  rw [hlanguage, ParsedText.language_of_toFeature hbuilt]

/-- A language that is found is the one of a document that names it, or of a document that names none
if it is English and no other is asked for. -/
theorem find?_declared_iff {code : Text} {l : Language} (h : Language.find? code = some l)
    (asked? : Option Text) :
    Language.find? (((if l.code = Language.defaultCode then none else some l.code) <|>
        asked?).getD Language.defaultCode) = some l ↔
      (l.code = Language.defaultCode →
        ∀ asked ∈ asked?, Language.normalizeCode asked = Language.defaultCode) := by
  by_cases henglish : l.code = Language.defaultCode
  · rw [if_pos henglish]
    cases asked? with
    | none =>
      have hdefault := Language.find?_code h
      rw [henglish] at hdefault
      exact ⟨fun _ _ _ hasked ↦ (nomatch hasked), fun _ ↦ hdefault⟩
    | some asked =>
      constructor
      · rintro hfind - _ ⟨⟩
        have hcode : l.code = Language.normalizeCode asked := Language.code_of_find? hfind
        exact hcode.symm.trans henglish
      · intro hasked
        exact Language.find?_of_normalizeCode h ((hasked henglish asked rfl).trans henglish.symm)
  · rw [if_neg henglish]
    exact ⟨fun _ hcode ↦ absurd hcode henglish, fun _ ↦ Language.find?_code h⟩

/-- A feature that was written is read again, and in the language that it was written in, unless that
is English and another one is asked for. -/
theorem exists_parseFeature_display_iff (options : ParseOptions) (text : Text) (f : Feature)
    (hf : parseFeature options text = .ok f) :
    (∃ g, parseFeature options f.display = .ok g ∧ g.language = f.language) ↔
      (f.language.code = Language.defaultCode →
        ∀ asked ∈ options.language, Language.normalizeCode asked = Language.defaultCode) := by
  obtain ⟨language, lexed, n, hlanguage, hlexed, hn, hbuilt⟩ := parseFeature_eq_ok_iff.1 hf
  obtain rfl : f.language = language := ParsedText.language_of_toFeature hbuilt
  have hl := Language.readable_of_find? hlanguage
  have hcode := Language.code_solid_of_find? hlanguage
  -- what was read is proper in outline, so the written lines say in outline what the leaves say
  have hspelled := Tree.spelled_of_parseFeature hn
  have hproper : ReadableLeaves .outline f.language n.leaves := by
    rw [← hspelled.keeps.mergeTags_eq]
    exact proper_of_mem_mergeTags (proper_of_ofText_upTo hl nofun hlexed)
  have hsays := says_feature hbuilt rfl hl hcode hspelled hproper
  obtain ⟨hmark, hdeclared⟩ :=
    declaredLanguage?_lines hbuilt rfl hlanguage hl hproper hsays.oneLine
  rw [← find?_declared_iff hlanguage, ← hdeclared, ← languageOf?]
  constructor
  · rintro ⟨g, hg, hsame⟩
    rw [← hsame, ← languageOf?_of_parseFeature hg, hmark]
  · intro hagain
    -- tokens that say the same in outline spell a tree with the same outline, which is a feature
    obtain ⟨ts, ws, hts, -, hread⟩ := hsays.exists_ofText_upTo options.path
    obtain ⟨n', hspelled', houtline⟩ := hspelled.exists_unplaced hts
    obtain ⟨m, hm, hsound⟩ := ParsedText.exists_toFeature_iff.1 ⟨f, hbuilt⟩
    obtain rfl : n = m := Tree.document.inj hm
    have hsound' : n'.Sound := by
      rwa [← Tree.FeatureNode.sound_upTo (d := .outline), houtline, Tree.FeatureNode.sound_upTo]
    obtain ⟨g, hg⟩ := (ParsedText.exists_toFeature_iff
      (p := ⟨.document n', f.language, f.display, options.path, ws⟩)).2 ⟨n', rfl, hsound'⟩
    refine ⟨g, parseFeature_eq_ok_iff.2 ⟨f.language, ⟨ts, ws⟩, n', ?_, ?_, ?_, ?_⟩,
      ParsedText.language_of_toFeature hg⟩ <;> rw [hmark]
    · exact hagain
    · exact hread
    · exact Tree.parseFeature_of_spelled hspelled' _
    · exact hg

def namedEnglish : Text := "# language: en\nFeature: Tea\nScenario: Cup\nGiven a pot\n".toList

/-- The document is in English whatever is asked for, and its written form does not say so. -/
theorem exists_parseFeature_namedEnglish (asked : Text) :
    ∃ f, parseFeature ⟨some asked, none⟩ namedEnglish = .ok f ∧
      f.language.code = Language.defaultCode ∧
      declaredLanguage? (dropByteOrderMark f.display) = none := by
  have hdeclared : declaredLanguage? (dropByteOrderMark namedEnglish) =
      some Language.defaultCode := by decide +kernel
  have hread : (parseFeature ⟨some asked, none⟩ namedEnglish).toOption.map (fun f ↦
      (f.language.code, declaredLanguage? (dropByteOrderMark f.display))) =
      some (Language.defaultCode, none) := by
    have hcode : (some Language.defaultCode <|> some asked).getD Language.defaultCode =
        Language.defaultCode := rfl
    simp only [parseFeature, parse]
    rw [hdeclared, hcode, Language.find?_defaultCode]
    decide +kernel
  cases h : parseFeature ⟨some asked, none⟩ namedEnglish with
  | error e =>
    rw [h] at hread
    cases hread
  | ok f =>
    rw [h] at hread
    obtain ⟨hcode, hnone⟩ := Prod.mk.inj (Option.some.inj hread)
    exact ⟨f, rfl, hcode, hnone⟩

theorem exists_parseFeature_display_english :
    ∃ f, parseFeature ⟨some " EN".toList, none⟩ namedEnglish = .ok f ∧
      ∃ g, parseFeature ⟨some " EN".toList, none⟩ f.display = .ok g ∧ g.language = f.language := by
  obtain ⟨f, hf, -, -⟩ := exists_parseFeature_namedEnglish " EN".toList
  have hasked : ∀ asked ∈ some " EN".toList,
      Language.normalizeCode asked = Language.defaultCode := by
    rintro _ ⟨⟩
    decide
  exact ⟨f, hf, (exists_parseFeature_display_iff _ _ f hf).2 fun _ ↦ hasked⟩

/-- Where another language is asked for, a document that names English is not read again in it. -/
theorem not_exists_parseFeature_display : ¬∀ options text f, parseFeature options text = .ok f →
    ∃ g, parseFeature options f.display = .ok g ∧ g.language.code = f.language.code := by
  intro h
  obtain ⟨f, hf, henglish, hnone⟩ := exists_parseFeature_namedEnglish "fr".toList
  obtain ⟨g, hg, hcode⟩ := h _ _ f hf
  have hlanguage := languageOf?_of_parseFeature hg
  rw [languageOf?, hnone] at hlanguage
  have hfrench : g.language.code = "fr".toList := Language.code_of_find? hlanguage
  rw [hcode, henglish] at hfrench
  exact absurd hfrench (by decide)

end Gherkin
