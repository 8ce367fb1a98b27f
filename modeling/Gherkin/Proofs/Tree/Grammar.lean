import Gherkin.Proofs.Tree.Completeness
import Gherkin.Proofs.Tree.Leaves
import Gherkin.Proofs.Tree.Soundness
import Mathlib.Computability.RegularExpressions

/-!
# The grammar of documents

What a document may look like is a regular expression over nine sorts of tokens. The parser accepts
a sequence of tokens exactly if the expression matches it, and the tree it answers with holds every
token once, in its place: written out from front to back, the tree is the sequence again, with
neighbouring tags drawn together.

Main statement: `accepts_iff_matches_and_keeps_tokens`.
-/

namespace Gherkin

/-- What the grammar tells apart. Both sorts of scenarios are one. -/
inductive Terminal where
  | tags
  | feature
  | background
  | scenario
  | examples
  | step
  | row
  | string
  | text
  deriving DecidableEq, Repr

def BlockKind.terminal : BlockKind → Terminal
  | feature => .feature
  | background => .background
  | scenario | scenarioOutline => .scenario
  | examples => .examples

def Token.terminal (t : Token) : Terminal :=
  match t.kind with
  | .tags _ => .tags
  | .block kind .. => kind.terminal
  | .step .. => .step
  | .row _ => .row
  | .docString .. => .string
  | .text _ => .text

namespace Tree.Grammar

open RegularExpression

/-- Any number of lines of tags. -/
def tags : RegularExpression Terminal := star (char .tags)

def texts : RegularExpression Terminal := star (char .text)

/-- Steps, each alone, with a table of at least one row, or with one multiline string. -/
def steps : RegularExpression Terminal :=
  star (char .step * (1 + (char .row * star (char .row) + char .string)))

/-- Examples, whose rows may be missing as far as the grammar goes. -/
def examples : RegularExpression Terminal := tags * (char .examples * (texts * star (char .row)))

/-- A background, above which no tags may stand. -/
def background : RegularExpression Terminal := char .background * (texts * steps)

def scenario : RegularExpression Terminal :=
  tags * (char .scenario * (texts * (steps * star examples)))

def feature : RegularExpression Terminal :=
  tags * (char .feature * (texts * ((1 + background) * star scenario)))

/-- The sorts of some tokens are a word of the expression. -/
def Matches (P : RegularExpression Terminal) (ts : List Token) : Prop :=
  ts.map Token.terminal ∈ P.matches'

variable {P Q : RegularExpression Terminal} {ts : List Token}

theorem matches_one_iff : Matches 1 ts ↔ ts = [] := by
  simp [Matches, Language.mem_one]

theorem matches_char_iff {a : Terminal} : Matches (char a) ts ↔ ∃ t, ts = [t] ∧ t.terminal = a := by
  simp only [Matches, matches'_char]
  constructor
  · intro h
    obtain ⟨t, rfl, ht⟩ := List.map_eq_singleton_iff.1 h
    exact ⟨t, rfl, ht⟩
  · rintro ⟨t, rfl, rfl⟩
    rfl

theorem matches_add_iff : Matches (P + Q) ts ↔ Matches P ts ∨ Matches Q ts := by
  simp [Matches, Language.mem_add]

theorem matches_mul_iff :
    Matches (P * Q) ts ↔ ∃ us vs, ts = us ++ vs ∧ Matches P us ∧ Matches Q vs := by
  simp only [Matches, matches'_mul, Language.mem_mul]
  constructor
  · rintro ⟨a, ha, b, hb, hab⟩
    obtain ⟨us, vs, rfl, rfl, rfl⟩ := List.map_eq_append_iff.1 hab.symm
    exact ⟨us, vs, rfl, ha, hb⟩
  · rintro ⟨us, vs, rfl, hus, hvs⟩
    exact ⟨_, hus, _, hvs, by simp⟩

/-- Where an expression matches what spells an item, its repetition matches what spells items. -/
theorem matches_star_iff {α : Type} {spells : α → List Token → Prop}
    (h : ∀ ts, Matches P ts ↔ ∃ item, spells item ts) (ts : List Token) :
    Matches (star P) ts ↔ ∃ items, Sequence spells items ts := by
  simp only [Matches, matches'_star, Language.mem_kstar]
  constructor
  · rintro ⟨L, hL, hmem⟩
    induction L generalizing ts with
    | nil =>
      obtain rfl : ts = [] := by simpa using hL
      exact ⟨[], .nil⟩
    | cons l L ih =>
      obtain ⟨us, vs, rfl, hus, hvs⟩ := List.map_eq_append_iff.1 (by simpa using hL)
      obtain ⟨item, hitem⟩ := (h us).1 (by simpa [Matches, hus] using hmem l List.mem_cons_self)
      obtain ⟨items, hitems⟩ := ih vs hvs fun y hy ↦ hmem y (List.mem_cons_of_mem _ hy)
      exact ⟨item :: items, .cons hitem hitems⟩
  · rintro ⟨items, hitems⟩
    induction hitems with
    | nil => exact ⟨[], rfl, by simp⟩
    | @cons item items us vs hitem _ ih =>
      obtain ⟨L, hL, hmem⟩ := ih
      refine ⟨us.map Token.terminal :: L, by simp [hL], ?_⟩
      intro y hy
      rcases List.mem_cons.1 hy with rfl | hy
      · exact (h us).2 ⟨item, hitem⟩
      · exact hmem y hy

/-- Tokens that are read one by one are a sequence of single tokens. -/
theorem sequence_iff_reads {α : Type} {read? : Token → Option α} {items : List α} :
    Sequence (fun item us ↦ ∃ t, us = [t] ∧ read? t = some item) items ts ↔
      Reads read? items ts := by
  constructor
  · intro h
    induction h with
    | nil => rfl
    | cons hitem _ ih =>
      obtain ⟨t, rfl, ht⟩ := hitem
      exact reads_cons_iff.2 ⟨t, _, rfl, ht, ih⟩
  · intro h
    induction items generalizing ts with
    | nil =>
      rw [reads_nil_iff.1 h]
      exact .nil
    | cons item items ih =>
      obtain ⟨t, us, rfl, ht, hus⟩ := reads_cons_iff.1 h
      exact .cons ⟨t, rfl, ht⟩ (ih hus)

/-- Lines of one sort are what the reading of that sort accepts. -/
theorem matches_star_char_iff {α : Type} {read? : Token → Option α} {a : Terminal}
    (h : ∀ t, t.terminal = a ↔ ∃ item, read? t = some item) :
    Matches (star (char a)) ts ↔ ∃ items, Reads read? items ts := by
  have hchar (us : List Token) :
      Matches (char a) us ↔ ∃ item t, us = [t] ∧ read? t = some item := by
    rw [matches_char_iff]
    constructor
    · rintro ⟨t, rfl, ht⟩
      obtain ⟨item, hitem⟩ := (h t).1 ht
      exact ⟨item, t, rfl, hitem⟩
    · rintro ⟨item, t, rfl, ht⟩
      exact ⟨t, rfl, (h t).2 ⟨item, ht⟩⟩
  rw [matches_star_iff hchar]
  simp only [sequence_iff_reads]

/-! ## Each expression and its nodes -/

theorem terminal_eq_text_iff (t : Token) :
    t.terminal = .text ↔ ∃ line, TextLine.ofToken? t = some line := by
  cases hk : t.kind with
  | block kind => cases kind <;> simp [Token.terminal, TextLine.ofToken?, hk, BlockKind.terminal]
  | _ => simp [Token.terminal, TextLine.ofToken?, hk]

theorem terminal_eq_row_iff (t : Token) :
    t.terminal = .row ↔ ∃ row, Row.ofToken? t = some row := by
  cases hk : t.kind with
  | block kind => cases kind <;> simp [Token.terminal, Row.ofToken?, hk, BlockKind.terminal]
  | _ => simp [Token.terminal, Row.ofToken?, hk]

theorem terminal_eq_string_iff (t : Token) :
    t.terminal = .string ↔ ∃ s, StringNode.ofToken? t = some s := by
  cases hk : t.kind with
  | block kind => cases kind <;> simp [Token.terminal, StringNode.ofToken?, hk, BlockKind.terminal]
  | _ => simp [Token.terminal, StringNode.ofToken?, hk]

theorem terminal_eq_step_iff (t : Token) :
    t.terminal = .step ↔ ∃ step, StepNode.ofToken? t = some step := by
  cases hk : t.kind with
  | block kind => cases kind <;> simp [Token.terminal, StepNode.ofToken?, hk, BlockKind.terminal]
  | _ => simp [Token.terminal, StepNode.ofToken?, hk]

theorem terminal_eq_tags_iff (t : Token) : t.terminal = .tags ↔ t.isTags := by
  cases hk : t.kind with
  | block kind => cases kind <;> simp [Token.terminal, Token.isTags, hk, BlockKind.terminal]
  | _ => simp [Token.terminal, Token.isTags, hk]

theorem terminal_eq_block_iff (names : List Text) (kind : BlockKind) (t : Token) :
    t.terminal = kind.terminal ↔
      ∃ header, Header.ofToken? names t = some header ∧ header.kind.terminal = kind.terminal := by
  cases hk : t.kind <;> cases kind <;>
    simp [Token.terminal, Header.ofToken?, hk, BlockKind.terminal]

theorem matches_tags_iff : Matches tags ts ↔ ∀ t ∈ ts, t.isTags := by
  have hread (t : Token) :
      t.terminal = .tags ↔ ∃ item, (if t.isTags then some () else none) = some item := by
    simp [terminal_eq_tags_iff]
  rw [tags, matches_star_char_iff hread]
  constructor
  · rintro ⟨items, h⟩ t ht
    obtain ⟨_, _, hitem⟩ := h.eq_some t ht
    by_contra hnot
    simp [hnot] at hitem
  · intro h
    exact exists_reads fun t ht ↦ by simp [h t ht]

theorem matches_texts_iff : Matches texts ts ↔ ∃ lines, Reads TextLine.ofToken? lines ts :=
  matches_star_char_iff terminal_eq_text_iff

theorem matches_rows_iff : Matches (star (char .row)) ts ↔ ∃ rows, Reads Row.ofToken? rows ts :=
  matches_star_char_iff terminal_eq_row_iff

theorem matches_argument_iff :
    Matches (1 + (char .row * star (char .row) + char .string)) ts ↔
      ∃ argument, Argument.Spelled argument ts := by
  simp only [matches_add_iff, matches_one_iff, matches_mul_iff, matches_rows_iff, matches_char_iff,
    terminal_eq_row_iff, terminal_eq_string_iff]
  constructor
  · rintro (rfl | ⟨_, us, rfl, ⟨t, rfl, row, hrow⟩, rows, hrows⟩ | ⟨t, rfl, s, hs⟩)
    · exact ⟨none, .none⟩
    · exact ⟨_, .table (by simp) (reads_cons_iff.2 ⟨t, us, rfl, hrow, hrows⟩)⟩
    · exact ⟨_, .string hs⟩
  · rintro ⟨argument, h⟩
    cases h with
    | none => exact .inl rfl
    | @table rows _ hne hrows =>
      cases rows with
      | nil => exact absurd rfl hne
      | cons row rows =>
        obtain ⟨t, us, rfl, ht, hus⟩ := reads_cons_iff.1 hrows
        exact .inr (.inl ⟨[t], us, rfl, ⟨t, rfl, row, ht⟩, rows, hus⟩)
    | @string s t hs => exact .inr (.inr ⟨t, rfl, s, hs⟩)

theorem matches_steps_iff : Matches steps ts ↔ ∃ ss, Sequence StepNode.Spelled ss ts := by
  refine matches_star_iff (fun ts ↦ ?_) ts
  simp only [matches_mul_iff, matches_argument_iff, matches_char_iff, terminal_eq_step_iff]
  constructor
  · rintro ⟨_, us, rfl, ⟨t, rfl, bare, ht⟩, argument, hus⟩
    exact ⟨_, .intro ht hus⟩
  · rintro ⟨step, h⟩
    cases h with
    | @intro bare t argument us ht hus =>
      exact ⟨[t], us, rfl, ⟨t, rfl, bare, ht⟩, argument, hus⟩

/-- What stands before any part that comes under a header with tags. -/
theorem matches_header_iff {kind : BlockKind} :
    Matches (tags * (char kind.terminal * P)) ts ↔
      ∃ (header : Header) (hs us : List Token), ts = hs ++ us ∧ header.Spelled hs ∧
        header.kind.terminal = kind.terminal ∧ Matches P us := by
  simp only [matches_mul_iff, matches_tags_iff, matches_char_iff]
  constructor
  · rintro ⟨run, _, rfl, hrun, _, us, rfl, ⟨t, rfl, ht⟩, hus⟩
    obtain ⟨header, hheader, hkind⟩ := (terminal_eq_block_iff (tagsOf run) kind t).1 ht
    exact ⟨header, run ++ [t], us, by simp, .intro hrun hheader, hkind, hus⟩
  · rintro ⟨header, hs, us, rfl, hheader, hkind, hus⟩
    cases hheader with
    | @intro run t hrun ht =>
      have hterminal := (terminal_eq_block_iff (tagsOf run) kind t).2 ⟨header, ht, hkind⟩
      exact ⟨run, t :: us, by simp, hrun, [t], us, rfl, ⟨t, rfl, hterminal⟩, hus⟩

theorem terminal_eq_scenario_iff {header : Header} :
    header.kind.terminal = BlockKind.scenario.terminal ↔ header.OpensScenario := by
  cases h : header.kind <;> simp [BlockKind.terminal, Header.OpensScenario, h]

/-- Every sort of header but a scenario is of one kind. -/
theorem terminal_eq_iff {header : Header} {kind : BlockKind} (h : kind.terminal ≠ .scenario) :
    header.kind.terminal = kind.terminal ↔ header.kind = kind := by
  cases hk : header.kind <;> cases kind <;> simp_all [BlockKind.terminal]

theorem matches_examples_iff : Matches examples ts ↔ ∃ e, ExamplesNode.Spelled e ts := by
  have hkind : BlockKind.examples.terminal ≠ .scenario := by decide
  rw [examples, show Terminal.examples = BlockKind.examples.terminal from rfl, matches_header_iff]
  simp only [matches_mul_iff, matches_texts_iff, matches_rows_iff, terminal_eq_iff hkind]
  constructor
  · rintro ⟨header, hs, _, rfl, hhs, hkind, ds, rs, rfl, ⟨description, hds⟩, rows, hrs⟩
    exact ⟨_, .intro hhs hkind hds hrs⟩
  · rintro ⟨e, h⟩
    cases h with
    | intro hhs hkind hds hrs =>
      exact ⟨_, _, _, rfl, hhs, hkind, _, _, rfl, ⟨_, hds⟩, _, hrs⟩

theorem matches_background_iff :
    Matches background ts ↔ ∃ b, BlockNode.SpelledBackground b ts := by
  have hkind : BlockKind.background.terminal ≠ .scenario := by decide
  rw [background, show Terminal.background = BlockKind.background.terminal from rfl]
  simp only [matches_mul_iff, matches_char_iff, matches_texts_iff, matches_steps_iff,
    terminal_eq_block_iff [], terminal_eq_iff hkind]
  constructor
  · rintro ⟨_, _, rfl, ⟨t, rfl, header, ht, hkind⟩, ds, ss, rfl, ⟨description, hds⟩, steps, hss⟩
    have hspelled :
        BlockNode.SpelledBackground ⟨header, description, steps, []⟩ (t :: (ds ++ ss)) :=
      .intro ht hkind hds hss
    exact ⟨_, hspelled⟩
  · rintro ⟨b, h⟩
    cases h with
    | intro ht hkind hds hss =>
      exact ⟨_, _, rfl, ⟨_, rfl, _, ht, hkind⟩, _, _, rfl, ⟨_, hds⟩, _, hss⟩

theorem matches_scenario_iff : Matches scenario ts ↔ ∃ b, BlockNode.SpelledScenario b ts := by
  rw [scenario, show Terminal.scenario = BlockKind.scenario.terminal from rfl, matches_header_iff]
  simp only [matches_mul_iff, matches_texts_iff, matches_steps_iff, terminal_eq_scenario_iff,
    matches_star_iff fun _ ↦ matches_examples_iff]
  constructor
  · rintro ⟨header, hs, _, rfl, hhs, hopens, ds, _, rfl, ⟨description, hds⟩, ss, es, rfl,
      ⟨steps, hss⟩, examples, hes⟩
    exact ⟨_, .intro hhs hopens hds hss hes⟩
  · rintro ⟨b, h⟩
    cases h with
    | intro hhs hopens hds hss hes =>
      exact ⟨_, _, _, rfl, hhs, hopens, _, _, rfl, ⟨_, hds⟩, _, _, rfl, ⟨_, hss⟩, _, hes⟩

/-- At most one item is nothing or the item alone. -/
theorem matches_optional_iff {α : Type} {spells : α → List Token → Prop}
    (h : ∀ ts, Matches P ts ↔ ∃ item, spells item ts) :
    Matches (1 + P) ts ↔ ∃ item : Option α, Sequence spells item.toList ts := by
  rw [matches_add_iff, matches_one_iff, h]
  constructor
  · rintro (rfl | ⟨item, hitem⟩)
    · exact ⟨none, .nil⟩
    · exact ⟨some item, by simpa using Sequence.cons hitem .nil⟩
  · rintro ⟨item, hitem⟩
    cases item with
    | none =>
      cases hitem
      exact .inl rfl
    | some item =>
      cases hitem with
      | @cons _ _ us _ hitem hrest =>
        cases hrest
        exact .inr ⟨item, by simpa using hitem⟩

theorem matches_feature_iff : Matches feature ts ↔ ∃ n, FeatureNode.Spelled n ts := by
  have hkind : BlockKind.feature.terminal ≠ .scenario := by decide
  rw [feature, show Terminal.feature = BlockKind.feature.terminal from rfl, matches_header_iff]
  simp only [matches_mul_iff, matches_texts_iff, terminal_eq_iff hkind,
    matches_optional_iff fun _ ↦ matches_background_iff,
    matches_star_iff fun _ ↦ matches_scenario_iff]
  constructor
  · rintro ⟨header, hs, _, rfl, hhs, hkind, ds, _, rfl, ⟨description, hds⟩, bs, ss, rfl,
      ⟨background, hbs⟩, scenarios, hss⟩
    exact ⟨_, .intro hhs hkind hds hbs hss⟩
  · rintro ⟨n, h⟩
    cases h with
    | intro hhs hkind hds hbs hss =>
      exact ⟨_, _, _, rfl, hhs, hkind, _, _, rfl, ⟨_, hds⟩, _, _, rfl, ⟨_, hbs⟩, _, hss⟩

variable {eof : Location}

theorem parseFeature_eq_ok_iff {n : FeatureNode} :
    parseFeature eof ts = .ok n ↔ n.Spelled ts :=
  ⟨spelled_of_parseFeature, fun h ↦ parseFeature_of_spelled h eof⟩

theorem parseSteps_eq_ok_iff {ss : List StepNode} :
    parseSteps eof ts = .ok ss ↔ Sequence StepNode.Spelled ss ts :=
  ⟨spelled_of_parseSteps, fun h ↦ parseSteps_of_spelled h eof⟩

/-- Features and bare steps are read exactly from the words of the grammar, as the one tree that
the tokens spell, and that tree has the tokens for its leaves. -/
theorem accepts_iff_matches_and_keeps_tokens (eof : Location) (ts : List Token) :
    ((∃ n, parseFeature eof ts = .ok n) ↔ Matches feature ts) ∧
      (∀ n, parseFeature eof ts = .ok n → n.Spelled ts ∧ n.leaves = mergeTags ts) ∧
      ((∃ ss, parseSteps eof ts = .ok ss) ↔ Matches steps ts) ∧
      ∀ ss, parseSteps eof ts = .ok ss →
        Sequence StepNode.Spelled ss ts ∧ ss.flatMap StepNode.leaves = mergeTags ts := by
  refine ⟨?feature, ?featureLeaves, ?steps, ?stepLeaves⟩
  case feature => simp only [parseFeature_eq_ok_iff, matches_feature_iff]
  case featureLeaves =>
    intro n h
    have hspelled : n.Spelled ts := parseFeature_eq_ok_iff.1 h
    exact ⟨hspelled, hspelled.keeps.mergeTags_eq.symm⟩
  case steps => simp only [parseSteps_eq_ok_iff, matches_steps_iff]
  case stepLeaves =>
    intro ss h
    have hspelled : Sequence StepNode.Spelled ss ts := parseSteps_eq_ok_iff.1 h
    have hkeeps : Keeps (ss.flatMap StepNode.leaves) ts :=
      keeps_of_sequence @StepNode.Spelled.keeps hspelled
    exact ⟨hspelled, hkeeps.mergeTags_eq.symm⟩

end Tree.Grammar

end Gherkin
