import Gherkin.Tree.Parser

/-!
# Which tokens a tree is made of

Each sort of node gets a relation to the tokens that spell it, written down from the shape of
documents alone: a header with the tags above it, free lines, steps with their arguments, examples.
Nothing is said here of how tokens are looked for, so that a parser can be held against the relation
from both sides.

Main statements: what follows a node begins with tags or with a header or is the end (`AtBlock`),
and a token of that sort never continues a run of lines (`AtBlock.not_read`).
-/

namespace Gherkin.Tree

/-- The tokens are read one by one as the items. -/
def Reads {α : Type} (read? : Token → Option α) (items : List α) (ts : List Token) : Prop :=
  ts.map read? = items.map some

/-- Items one after the other, each spelled by its own tokens. -/
inductive Sequence {α : Type} (spells : α → List Token → Prop) : List α → List Token → Prop
  | nil : Sequence spells [] []
  | cons {item : α} {items : List α} {ts us : List Token} :
    spells item ts → Sequence spells items us → Sequence spells (item :: items) (ts ++ us)

/-- The names in a run of tags, each once. -/
def tagsOf (run : List Token) : List Text := (run.flatMap Token.tagNames).eraseDups

section Reads

variable {α : Type} {read? : Token → Option α}

theorem reads_nil_iff {ts : List Token} : Reads read? [] ts ↔ ts = [] := by
  simp [Reads]

theorem reads_cons_iff {item : α} {items : List α} {ts : List Token} :
    Reads read? (item :: items) ts ↔
      ∃ t us, ts = t :: us ∧ read? t = some item ∧ Reads read? items us := by
  simp only [Reads, List.map_cons, List.map_eq_cons_iff]

theorem Reads.eq_some {items : List α} {ts : List Token} (h : Reads read? items ts) :
    ∀ t ∈ ts, ∃ item ∈ items, read? t = some item := by
  intro t ht
  have hmem : read? t ∈ items.map some := h ▸ List.mem_map_of_mem ht
  obtain ⟨item, hitem, heq⟩ := List.mem_map.1 hmem
  exact ⟨item, hitem, heq.symm⟩

/-- Tokens that can all be read are read as some items. -/
theorem exists_reads {ts : List Token} (h : ∀ t ∈ ts, (read? t).isSome) :
    ∃ items, Reads read? items ts := by
  refine ⟨ts.filterMap read?, ?_⟩
  induction ts with
  | nil => rfl
  | cons t ts ih =>
    obtain ⟨item, hitem⟩ := Option.isSome_iff_exists.1 (h t List.mem_cons_self)
    have htail := ih fun u hu ↦ h u (List.mem_cons_of_mem _ hu)
    rw [Reads, List.map_cons, List.filterMap_cons_some hitem, List.map_cons, hitem, htail]

end Reads

/-- A header with the tags above it. -/
inductive Header.Spelled : Header → List Token → Prop
  | intro {header : Header} {run : List Token} {t : Token} :
    (∀ u ∈ run, u.isTags) → Header.ofToken? (tagsOf run) t = some header →
      Spelled header (run ++ [t])

/-- The argument of a step: nothing, at least one row, or one multiline string. -/
inductive Argument.Spelled : Option Argument → List Token → Prop
  | none : Spelled none []
  | table {rows : List Row} {ts : List Token} :
    rows ≠ [] → Reads Row.ofToken? rows ts → Spelled (some (.table rows)) ts
  | string {s : StringNode} {t : Token} :
    StringNode.ofToken? t = some s → Spelled (some (.string s)) [t]

/-- A step line and its argument. -/
inductive StepNode.Spelled : StepNode → List Token → Prop
  | intro {bare : StepNode} {t : Token} {argument : Option Argument} {ts : List Token} :
    StepNode.ofToken? t = some bare → Argument.Spelled argument ts →
      Spelled { bare with argument } (t :: ts)

/-- Examples: a header, a description, rows. -/
inductive ExamplesNode.Spelled : ExamplesNode → List Token → Prop
  | intro {header : Header} {description : List TextLine} {rows : List Row}
    {hs ds rs : List Token} :
    header.Spelled hs → header.kind = .examples → Reads TextLine.ofToken? description ds →
      Reads Row.ofToken? rows rs → Spelled ⟨header, description, rows⟩ (hs ++ (ds ++ rs))

/-- A background: a header without tags, a description, steps. -/
inductive BlockNode.SpelledBackground : BlockNode → List Token → Prop
  | intro {header : Header} {description : List TextLine} {steps : List StepNode} {t : Token}
    {ds ss : List Token} :
    Header.ofToken? [] t = some header → header.kind = .background →
      Reads TextLine.ofToken? description ds → Sequence StepNode.Spelled steps ss →
      SpelledBackground ⟨header, description, steps, []⟩ (t :: (ds ++ ss))

def Header.OpensScenario (header : Header) : Prop :=
  header.kind = .scenario ∨ header.kind = .scenarioOutline

/-- A scenario: a header, a description, steps, examples. -/
inductive BlockNode.SpelledScenario : BlockNode → List Token → Prop
  | intro {header : Header} {description : List TextLine} {steps : List StepNode}
    {examples : List ExamplesNode} {hs ds ss es : List Token} :
    header.Spelled hs → header.OpensScenario →
      Reads TextLine.ofToken? description ds → Sequence StepNode.Spelled steps ss →
      Sequence ExamplesNode.Spelled examples es →
      SpelledScenario ⟨header, description, steps, examples⟩ (hs ++ (ds ++ (ss ++ es)))

/-- A feature: a header, a description, at most one background, scenarios. -/
inductive FeatureNode.Spelled : FeatureNode → List Token → Prop
  | intro {header : Header} {description : List TextLine} {background : Option BlockNode}
    {scenarios : List BlockNode} {hs ds bs ss : List Token} :
    header.Spelled hs → header.kind = .feature → Reads TextLine.ofToken? description ds →
      Sequence BlockNode.SpelledBackground background.toList bs →
      Sequence BlockNode.SpelledScenario scenarios ss →
      Spelled ⟨header, description, background, scenarios⟩ (hs ++ (ds ++ (bs ++ ss)))

theorem Header.tags_of_ofToken? {tags : List Text} {t : Token} {header : Header}
    (h : Header.ofToken? tags t = some header) : header.tags = tags := by
  cases hk : t.kind <;> simp_all [Header.ofToken?]
  rw [← h]

/-- A background has neither tags nor examples. -/
theorem BlockNode.SpelledBackground.bare {b : BlockNode} {ts : List Token}
    (h : b.SpelledBackground ts) : b.header.tags = [] ∧ b.examples = [] := by
  cases h with
  | intro ht => exact ⟨Header.tags_of_ofToken? ht, rfl⟩

theorem FeatureNode.Spelled.background_bare {n : FeatureNode} {ts : List Token}
    (h : n.Spelled ts) : ∀ b ∈ n.background, b.header.tags = [] ∧ b.examples = [] := by
  cases h with
  | intro _ _ _ hbackground _ =>
    rintro b rfl
    cases hbackground with
    | cons hb _ => exact hb.bare

/-- The tokens begin with tags or with a header, or there are none. -/
def AtBlock (ts : List Token) : Prop := ∀ t ∈ ts.head?, t.isTags ∨ t.blockKind?.isSome

theorem atBlock_nil : AtBlock [] := by simp [AtBlock]

/-- What tells the sorts of tokens apart is their kind, so at most one of the readings succeeds. -/
theorem AtBlock.not_read {t : Token} {ts : List Token} (h : AtBlock (t :: ts)) :
    TextLine.ofToken? t = none ∧ Row.ofToken? t = none ∧ StringNode.ofToken? t = none ∧
      StepNode.ofToken? t = none := by
  have ht : t.isTags ∨ t.blockKind?.isSome := h t rfl
  cases hk : t.kind <;>
    simp_all [Token.isTags, Token.blockKind?, TextLine.ofToken?, Row.ofToken?,
      StringNode.ofToken?, StepNode.ofToken?]

theorem Header.kind_of_ofToken? {tags : List Text} {t : Token} {header : Header}
    (h : Header.ofToken? tags t = some header) :
    t.blockKind? = some header.kind ∧ ¬t.isTags := by
  cases hk : t.kind <;> simp_all [Header.ofToken?, Token.blockKind?, Token.isTags]
  subst h; rfl

theorem Header.Spelled.atBlock {header : Header} {hs : List Token} (h : header.Spelled hs)
    (rest : List Token) : AtBlock (hs ++ rest) := by
  cases h with
  | @intro run t hrun ht =>
    intro u hu
    cases run with
    | nil =>
      obtain rfl : t = u := by simpa using hu
      exact .inr (by simp [(Header.kind_of_ofToken? ht).1])
    | cons v run =>
      obtain rfl : v = u := by simpa using hu
      exact .inl (hrun v List.mem_cons_self)

theorem Header.Spelled.blockAfterTags? {header : Header} {hs : List Token}
    (h : header.Spelled hs) (rest : List Token) :
    blockAfterTags? (hs ++ rest) = some header.kind := by
  cases h with
  | @intro run t hrun ht =>
    have hdrop : (run ++ [t] ++ rest).dropWhile Token.isTags = t :: rest := by
      rw [List.append_assoc, List.dropWhile_append_of_pos hrun]
      exact List.dropWhile_cons_of_neg (Header.kind_of_ofToken? ht).2
    rw [Tree.blockAfterTags?, hdrop]
    exact (Header.kind_of_ofToken? ht).1

end Gherkin.Tree
