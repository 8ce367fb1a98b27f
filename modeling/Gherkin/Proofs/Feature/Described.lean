import Gherkin.Proofs.Feature.Placed

/-!
# Descriptions within their blocks

The source text of a block is cut out by its span, which begins with the header and is joined with
the spans of the parts below, but not with that of the description. So the free lines below a header
are covered if the block goes on after them: a feature always has scenarios and examples always have
a table, but a background may have no steps, and a scenario neither steps nor examples. Such a block
ends with its header, and its description comes after it.

Main statements: what of a block a description needs to be covered (`Composed.le_or_before`), and
which blocks of a document cover their descriptions (`covers_description_of_parseFeature`).
-/

namespace Gherkin

/-- Of two slices of a text, the one whose bytes lie within those of the other is a piece of it. -/
theorem Text.infix_of_slice? {t inner outer : Text} {start stop start' stop' : Nat}
    (h : slice? t start stop = some inner) (h' : slice? t start' stop' = some outer)
    (hstart : start' ≤ start) (hstop : stop ≤ stop') : inner <:+: outer := by
  obtain ⟨front, back, ht, hfront, hinner⟩ := slice?_eq_some_iff.1 h
  obtain ⟨front', back', ht', hfront', houter⟩ := slice?_eq_some_iff.1 h'
  obtain ⟨between, rfl⟩ : front' <+: front := by
    apply prefix_of_byteSize_le ⟨outer ++ back', ht'.symm⟩ ⟨inner ++ back, ht.symm⟩
    omega
  have hprefix : front' ++ (between ++ inner) <+: front' ++ outer := by
    rw [← List.append_assoc]
    apply @prefix_of_byteSize_le _ _ t
    · exact ⟨back, by rw [ht]; simp only [List.append_assoc]⟩
    · exact ⟨back', by rw [ht', List.append_assoc]⟩
    · omega
  obtain ⟨after, hafter⟩ := (List.prefix_append_right_inj front').1 hprefix
  exact ⟨between, after, hafter⟩

section Blocks

variable {source keyword : Text} {ts : List Token} {place : Place}
  {description : Option Description} {parts : List Layout} {d : Description}

/-- What is read from tokens one by one is read from one of them. -/
theorem Tree.Reads.exists_token {α : Type} {read? : Token → Option α} {items : List α}
    (h : Reads read? items ts) {item : α} (hitem : item ∈ items) :
    ∃ t ∈ ts, read? t = some item := by
  have hmem : some item ∈ ts.map read? := h ▸ List.mem_map_of_mem hitem
  exact List.mem_map.1 hmem

/-- The lines of a description stand in the text within its span. -/
theorem Description.exists_slice?_of_ofLines {lines : List Tree.TextLine}
    (hlines : Tree.Reads Tree.TextLine.ofToken? lines ts) (hlaid : Laid source ts)
    (hd : ofLines lines = some d) {line : Text} (hline : line ∈ d.lines) :
    ∃ s ≤ d.span, source.slice? s.start s.stop = some line := by
  cases lines with
  | nil => cases hd
  | cons first rest =>
    cases hd
    obtain ⟨l, hl, rfl⟩ := List.mem_map.1 hline
    obtain ⟨t, ht, htoken⟩ := hlines.exists_token hl
    have hkind : t.kind = .text l.text ∧ t.span = l.span := by
      cases hk : t.kind <;> simp_all [Tree.TextLine.ofToken?]
      rw [← htoken]
      exact ⟨rfl, rfl⟩
    refine ⟨l.span, ?_, ?_⟩
    · change l.span ≤ (first :: rest).foldl (fun s l ↦ s.join l.span) first.span
      rw [← List.foldl_map]
      exact Span.le_foldl_join_of_mem (List.mem_map_of_mem hl)
    · rw [← hkind.2]
      exact hlaid.shown t ht l.text hkind.1

/-- The description of a block that has parts lies within the block. That of a block without parts
comes after it. -/
theorem Composed.le_or_before (h : Composed source ts keyword place description parts)
    (hd : d ∈ description) :
    (parts ≠ [] → d.span ≤ place.span) ∧ (parts = [] → place.span.Before d.span) := by
  cases h with
  | @intro keyword header lines parts hs ds us hlaid hheader hlines hparts =>
    obtain ⟨-, hbelow, hbefore⟩ := laid_append_iff.1 hlaid
    obtain ⟨hds, -, hbefore'⟩ := laid_append_iff.1 hbelow
    have hdescription := Description.stands_ofLines hlines hds
    have hordered := (hheader.append (hdescription.append hparts hbefore') hbefore).ordered
    rw [show Description.ofLines lines = some d from hd] at hordered
    obtain ⟨hfirst, hrest⟩ := List.pairwise_cons.1 hordered
    have hafter : header.span.Before d.span := hfirst _ List.mem_cons_self
    constructor
    · intro hne
      obtain ⟨p, hp⟩ := List.exists_mem_of_ne_nil parts hne
      have hbelow : d.span.Before p.span :=
        (List.pairwise_cons.1 hrest).1 _ (List.mem_map_of_mem hp)
      have hjoined : (header.span :: parts.map Layout.span).Pairwise Span.Before :=
        hordered.sublist (by simp [Layout.span, Layout.place, Layout.bare])
      have hlast : p.span ≤ (parts.map Layout.span).foldl Span.join header.span :=
        Span.le_foldl_join_of_mem (List.mem_map_of_mem hp)
      refine Span.le_iff.2 ⟨?_, ?_⟩
      · change ((parts.map Layout.span).foldl Span.join header.span).start ≤ d.span.start
        rw [Span.start_foldl_join hjoined]
        exact Nat.le_of_lt (Nat.lt_of_le_of_lt header.span.start_le_stop hafter)
      · calc
          _ ≤ p.span.start := Nat.le_of_lt hbelow
          _ ≤ p.span.stop := p.span.start_le_stop
          _ ≤ _ := (Span.le_iff.1 hlast).2
    · rintro rfl
      exact hafter

/-- The span holds the description, and the source text of the span its lines. -/
structure Feature.Covers (f : Feature) (s : Span) (d : Description) : Prop where
  le : d.span ≤ s
  shown : ∀ line ∈ d.lines, line <:+: f.sourceText s

theorem Composed.covers {f : Feature} (h : Composed f.source ts keyword place description parts)
    (hd : d ∈ description) (hparts : parts ≠ []) : f.Covers place.span d where
  le := (h.le_or_before hd).1 hparts
  shown := by
    intro line hline
    have hle := (h.le_or_before hd).1 hparts
    obtain ⟨covered, hcovered, -⟩ := (List.forall_mem_singleton.1 h.stands.sound).exact.covers
    change f.source.slice? place.span.start place.span.stop = some covered at hcovered
    cases h with
    | intro hlaid _ hlines _ =>
      obtain ⟨-, hbelow, -⟩ := laid_append_iff.1 hlaid
      obtain ⟨hds, -, -⟩ := laid_append_iff.1 hbelow
      obtain ⟨s, hs, hslice⟩ := Description.exists_slice?_of_ofLines hlines hds hd hline
      obtain ⟨hstart, hstop⟩ := Span.le_iff.1 (Span.le_trans hs hle)
      rw [Feature.sourceText, hcovered, Option.getD_some]
      exact Text.infix_of_slice? hslice hcovered hstart hstop

/-- What is read from nodes in sequence is read from one of them, and this one from its own
tokens. -/
theorem exists_of_sequence {ν π ι : Type} {spells : ν → List Token → Prop} (node : π → ν)
    {read : π → Except SyntaxError ι} {ps : List π} {items : List ι}
    (h : Tree.Sequence spells (ps.map node) ts) (hlaid : Laid source ts)
    (hread : ps.map read = items.map .ok) {item : ι} (hitem : item ∈ items) :
    ∃ p us, spells (node p) us ∧ Laid source us ∧ read p = .ok item := by
  induction ps generalizing items ts with
  | nil =>
    rw [List.map_eq_nil_iff.1 hread.symm] at hitem
    cases hitem
  | cons p ps ih =>
    obtain ⟨first, rest, rfl, hfirst, hrest⟩ := List.map_eq_cons_iff.1 hread.symm
    cases h with
    | @cons _ _ us _ hp hps =>
      obtain ⟨hus, hlaid', -⟩ := laid_append_iff.1 hlaid
      rcases List.mem_cons.1 hitem with rfl | hitem
      · exact ⟨p, us, hp, hus, hfirst.symm⟩
      · exact ih hps hlaid' hrest.symm hitem

end Blocks

/-- Each block of a document is read from tokens of its own. -/
theorem ParsedText.exists_of_toFeature {p : ParsedText} {f : Feature} {n : Tree.FeatureNode}
    {ts : List Token} (htree : p.tree = .document n) (hspelled : n.Spelled ts)
    (hlaid : Laid p.source ts) (h : p.toFeature = .ok f) :
    (∀ b ∈ f.background, ∃ m us, Tree.BlockNode.SpelledBackground m us ∧ Laid p.source us ∧
      Background.ofNode m = .ok b) ∧
    ∀ s ∈ f.scenarios, ∃ k m us, Tree.BlockNode.SpelledScenario m us ∧ Laid p.source us ∧
      Scenario.ofNode k m = .ok s := by
  obtain ⟨n', background, scenarios, htree', -, -, hbackground, hscenarios, rfl⟩ :=
    toFeature_eq_ok_iff.1 h
  cases htree.symm.trans htree'
  cases hspelled with
  | @intro header description back nodes hs ds bs ss _ _ _ hbs hss =>
    obtain ⟨-, hbelow, -⟩ := laid_append_iff.1 hlaid
    obtain ⟨-, hrest, -⟩ := laid_append_iff.1 hbelow
    obtain ⟨hbs', hss', -⟩ := laid_append_iff.1 hrest
    refine ⟨fun b hb ↦ ?_, fun s hs ↦ ?_⟩
    · have hread : back.toList.map Background.ofNode = background.toList.map .ok := by
        rw [← Option.toList_map, ← Option.toList_map, hbackground]
      rw [← List.map_id back.toList] at hbs
      exact exists_of_sequence id hbs hbs' hread (Option.mem_toList.2 hb)
    · rw [List.mapIdx_eq_zipIdx_map] at hscenarios
      rw [← List.zipIdx_map_fst 0 nodes] at hss
      obtain ⟨⟨m, k⟩, us, hspells, hus, hread⟩ :=
        exists_of_sequence Prod.fst hss hss' hscenarios hs
      exact ⟨k, m, us, hspells, hus, hread⟩

/-- Each block of examples of a scenario is read from tokens of its own. -/
theorem Examples.exists_of_scenario {source : Text} {ts : List Token} {k : Nat} {n : Tree.BlockNode}
    {s : Scenario} (hspelled : n.SpelledScenario ts) (hlaid : Laid source ts)
    (h : Scenario.ofNode k n = .ok s) : ∀ e ∈ s.examples, ∃ m us,
      Tree.ExamplesNode.Spelled m us ∧ Laid source us ∧ ofNode m = .ok e := by
  obtain ⟨-, steps, examples, -, hexamples, rfl⟩ := Scenario.ofNode_eq_ok_iff.1 h
  intro e (he : e ∈ examples)
  cases hspelled with
  | @intro header description nodes blocks hs ds ss es _ _ _ _ hes =>
    obtain ⟨-, hbelow, -⟩ := laid_append_iff.1 hlaid
    obtain ⟨-, hrest, -⟩ := laid_append_iff.1 hbelow
    obtain ⟨-, hes', -⟩ := laid_append_iff.1 hrest
    rw [← List.map_id blocks] at hes
    exact exists_of_sequence id hes hes' hexamples he

/-- The feature covers its description, and so does each block of it. -/
structure Feature.CoversDescriptions (f : Feature) : Prop where
  feature : ∀ d ∈ f.description, f.Covers f.span d
  background : ∀ b ∈ f.background, ∀ d ∈ b.description, f.Covers b.span d
  scenario : ∀ s ∈ f.scenarios, ∀ d ∈ s.description, f.Covers s.span d
  examples : ∀ s ∈ f.scenarios, ∀ e ∈ s.examples, ∀ d ∈ e.description, f.Covers e.span d

/-- A feature and examples cover their descriptions. A background does if it has steps, and a
scenario if it has steps or examples; else the description comes after the block. -/
theorem covers_description_of_parseFeature (options : ParseOptions) (text : Text) (f : Feature)
    (h : parseFeature options text = .ok f) :
    (∀ d ∈ f.description, f.Covers f.span d) ∧
      (∀ b ∈ f.background, ∀ d ∈ b.description,
        (b.steps ≠ [] → f.Covers b.span d) ∧ (b.steps = [] → b.span.Before d.span)) ∧
      (∀ s ∈ f.scenarios, ∀ d ∈ s.description,
        (s.steps ≠ [] ∨ s.examples ≠ [] → f.Covers s.span d) ∧
          (s.steps = [] → s.examples = [] → s.span.Before d.span)) ∧
      ∀ s ∈ f.scenarios, ∀ e ∈ s.examples, ∀ d ∈ e.description, f.Covers e.span d := by
  obtain ⟨language, lexed, n, hlanguage, hlexed, hn, hf⟩ := parseFeature_eq_ok_iff.1 h
  have hlaid := laid_of_ofText (Language.readable_of_find? hlanguage) hlexed
  have hspelled := Tree.spelled_of_parseFeature hn
  have hcomposed := ParsedText.composed_toFeature rfl hspelled hlaid hf
  obtain ⟨hbackground, hscenarios⟩ := ParsedText.exists_of_toFeature rfl hspelled hlaid hf
  have hne : f.scenarios ≠ [] := ParsedText.scenarios_ne_nil_of_toFeature hf
  have hsource : f.source = dropByteOrderMark text := ParsedText.source_of_toFeature hf
  rw [← hsource] at hcomposed hbackground hscenarios
  refine ⟨fun d hd ↦ hcomposed.covers hd (by simp [hne]), fun b hb d hd ↦ ?_, fun s hs d hd ↦ ?_,
    fun s hs e he d hd ↦ ?_⟩
  · obtain ⟨m, us, hspelled, hlaid, hread⟩ := hbackground b hb
    have hblock := Background.composed_ofNode hspelled hlaid hread
    refine ⟨fun hsteps ↦ hblock.covers hd (by simpa using hsteps), fun hsteps ↦ ?_⟩
    exact (hblock.le_or_before hd).2 (by simp [hsteps])
  · obtain ⟨k, m, us, hspelled, hlaid, hread⟩ := hscenarios s hs
    have hblock := Scenario.composed_ofNode hspelled hlaid hread
    refine ⟨fun hparts ↦ hblock.covers hd ?_, fun hsteps hexamples ↦ ?_⟩
    · rcases hparts with hparts | hparts <;> simp [hparts]
    · exact (hblock.le_or_before hd).2 (by simp [hsteps, hexamples])
  · obtain ⟨k, m, us, hspelled, hlaid, hread⟩ := hscenarios s hs
    obtain ⟨m', us', hspelled', hlaid', hread'⟩ :=
      Examples.exists_of_scenario hspelled hlaid hread e he
    exact (Examples.composed_ofNode hspelled' hlaid' hread').covers hd (List.cons_ne_nil _ _)

/-- A document with a background that has no steps, a scenario that has neither steps nor examples,
and a scenario without steps that has examples; below each header there is a free line. -/
def describedText : Text :=
  ("Feature: tea\n  one\nBackground:\n  two\nScenario: a\n  three\n" ++
    "Scenario Outline: b\n  four\nExamples:\n  five\n  | x |\n").toList

/-- The background and the first scenario end with their headers. -/
theorem exists_parseFeature_describedText :
    ∃ f, parseFeature {} describedText = .ok f ∧
      f.background.map (fun b ↦ (f.sourceText b.span, b.description.map fun d ↦
        decide (d.span ≤ b.span))) = some ("Background:".toList, some false) ∧
      f.scenarios.map (fun s ↦ f.sourceText s.span) = ["Scenario: a".toList,
        "Scenario Outline: b\n  four\nExamples:\n  five\n  | x |".toList] := by
  have hcode : (declaredLanguage? (dropByteOrderMark describedText) <|> none).getD
      Language.defaultCode = Language.defaultCode := by decide +kernel
  have hread : (parseFeature {} describedText).toOption.map (fun f ↦
      (f.background.map fun b ↦ (f.sourceText b.span, b.description.map fun d ↦
        decide (d.span ≤ b.span)), f.scenarios.map fun s ↦ f.sourceText s.span)) =
      some (some ("Background:".toList, some false), ["Scenario: a".toList,
        "Scenario Outline: b\n  four\nExamples:\n  five\n  | x |".toList]) := by
    simp only [parseFeature, parse]
    rw [hcode, Language.find?_defaultCode]
    decide +kernel
  obtain ⟨f, h, hplaces⟩ := toOption_map_eq_some_iff.1 hread
  exact ⟨f, h, Prod.mk.inj hplaces⟩

theorem covers_description_of_describedText :
    ∃ f, parseFeature {} describedText = .ok f ∧
      f.background.map (fun b ↦ (f.sourceText b.span, b.description.map fun d ↦
        decide (d.span ≤ b.span))) = some ("Background:".toList, some false) ∧
      f.scenarios.map (fun s ↦ f.sourceText s.span) = ["Scenario: a".toList,
        "Scenario Outline: b\n  four\nExamples:\n  five\n  | x |".toList] ∧
      (∀ d ∈ f.description, f.Covers f.span d) ∧
      (∀ b ∈ f.background, ∀ d ∈ b.description,
        (b.steps ≠ [] → f.Covers b.span d) ∧ (b.steps = [] → b.span.Before d.span)) ∧
      (∀ s ∈ f.scenarios, ∀ d ∈ s.description,
        (s.steps ≠ [] ∨ s.examples ≠ [] → f.Covers s.span d) ∧
          (s.steps = [] → s.examples = [] → s.span.Before d.span)) ∧
      ∀ s ∈ f.scenarios, ∀ e ∈ s.examples, ∀ d ∈ e.description, f.Covers e.span d := by
  obtain ⟨f, h, hbackground, hscenarios⟩ := exists_parseFeature_describedText
  exact ⟨f, h, hbackground, hscenarios, covers_description_of_parseFeature {} describedText f h⟩

/-- Not every block of a document covers its description. -/
theorem not_coversDescriptions_of_parseFeature :
    ¬∀ (options : ParseOptions) (text : Text) (f : Feature), parseFeature options text = .ok f →
      f.CoversDescriptions := by
  intro hall
  obtain ⟨f, h, hbackground, -⟩ := exists_parseFeature_describedText
  obtain ⟨b, hb, hdescription⟩ := Option.map_eq_some_iff.1 hbackground
  obtain ⟨d, hd, hbelow⟩ := Option.map_eq_some_iff.1 (Prod.mk.inj hdescription).2
  exact absurd ((hall {} describedText f h).background b hb d hd).le (of_decide_eq_false hbelow)

end Gherkin
