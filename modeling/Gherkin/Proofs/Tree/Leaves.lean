import Gherkin.Proofs.Tree.Derivation

/-!
# A tree written out as tokens

The leaves of a tree are what its tokens held, in the order of the document. Tags stand in one node
with their header, whatever lines they were written on, so a run of tags is one leaf that names each
of them once and has no place of its own.

Main statement: the leaves of a node are the tokens that spell it, with their runs of tags drawn
together (`StepNode.Spelled.keeps`, `FeatureNode.Spelled.keeps`).
-/

namespace Gherkin

theorem nodup_eraseDups (names : List Text) : names.eraseDups.Nodup := by
  induction hn : names.length using Nat.strongRecOn generalizing names with
  | ind n ih =>
    cases names with
    | nil => exact List.nodup_nil
    | cons name names =>
      rw [List.eraseDups_cons, List.nodup_cons]
      have hlt : (names.filter fun b ↦ !b == name).length < n := by
        rw [← hn, List.length_cons]
        exact Nat.lt_succ_of_le (List.length_filter_le _ _)
      exact ⟨by simp [List.mem_eraseDups], ih _ hlt _ rfl⟩

/-- Nothing is left out where nothing is repeated. -/
theorem eraseDups_of_nodup {names : List Text} (h : names.Nodup) : names.eraseDups = names := by
  induction names with
  | nil => rfl
  | cons name names ih =>
    obtain ⟨hname, hnames⟩ := List.nodup_cons.1 h
    have hfilter : names.filter (fun b ↦ !b == name) = names := by
      rw [List.filter_eq_self]
      intro b hb
      have hne : b ≠ name := fun heq ↦ hname (heq ▸ hb)
      simpa using hne
    rw [List.eraseDups_cons, hfilter, ih hnames]

theorem eraseDups_ne_nil {names : List Text} (h : names ≠ []) : names.eraseDups ≠ [] := by
  cases names with
  | nil => exact absurd rfl h
  | cons name names =>
    rw [List.eraseDups_cons]
    exact List.cons_ne_nil _ _

/-- What a token held, and where it stood. -/
structure Leaf where
  kind : TokenKind
  place : Option (Location × Span)
  deriving DecidableEq, Repr

def kindsOf (leaves : List Leaf) : List TokenKind := leaves.map (·.kind)

theorem kindsOf_append (ls ms : List Leaf) : kindsOf (ls ++ ms) = kindsOf ls ++ kindsOf ms :=
  List.map_append

/-- The leaf of a token that is not drawn together with others. -/
def Token.leaf (t : Token) : Leaf := ⟨t.kind, some (t.location, t.span)⟩

namespace Tree

/-- The leaf of a run of tags. A run that names none leaves no trace in a tree. -/
def tagLeaves (names : List Text) : List Leaf := if names = [] then [] else [⟨.tags names, none⟩]

/-- The tokens with each run of tags drawn together, a name that is repeated in it left out. -/
def mergeTags : List Token → List Leaf
  | [] => []
  | t :: ts =>
    if t.isTags then
      tagLeaves (tagsOf (t :: ts.takeWhile Token.isTags)) ++ mergeTags (ts.dropWhile Token.isTags)
    else t.leaf :: mergeTags ts
termination_by ts => ts.length
decreasing_by
  · exact Nat.lt_succ_of_le (List.dropWhile_suffix _).length_le
  · exact Nat.lt_succ_self _

theorem mergeTags_cons {t : Token} (h : ¬t.isTags) (ts : List Token) :
    mergeTags (t :: ts) = t.leaf :: mergeTags ts := by
  rw [mergeTags, if_neg h]

/-- A run of tags ends at the first token of another sort. -/
theorem mergeTags_run {run : List Token} {t : Token} (hrun : ∀ u ∈ run, u.isTags)
    (ht : ¬t.isTags) (ts : List Token) :
    mergeTags (run ++ t :: ts) = tagLeaves (tagsOf run) ++ t.leaf :: mergeTags ts := by
  cases run with
  | nil => exact mergeTags_cons ht ts
  | cons u run =>
    obtain ⟨hu, hrun⟩ := List.forall_mem_cons.1 hrun
    have htake : (run ++ t :: ts).takeWhile Token.isTags = run := by
      rw [List.takeWhile_append_of_pos hrun, List.takeWhile_cons_of_neg ht, List.append_nil]
    have hdrop : (run ++ t :: ts).dropWhile Token.isTags = t :: ts := by
      rw [List.dropWhile_append_of_pos hrun, List.dropWhile_cons_of_neg ht]
    calc
      _ = tagLeaves (tagsOf (u :: run)) ++ mergeTags (t :: ts) := by
        rw [List.cons_append, mergeTags, if_pos hu, htake, hdrop]
      _ = tagLeaves (tagsOf (u :: run)) ++ t.leaf :: mergeTags ts := by rw [mergeTags_cons ht]

/-- What holds of each token and of tags that are drawn together holds of each leaf. -/
theorem forall_mem_mergeTags {P : TokenKind → Prop} {ts : List Token} (h : ∀ t ∈ ts, P t.kind)
    (htags : ∀ run : List Token, (∀ t ∈ run, P t.kind) → tagsOf run ≠ [] → P (.tags (tagsOf run))) :
    ∀ leaf ∈ mergeTags ts, P leaf.kind := by
  fun_induction mergeTags ts with
  | case1 => simp
  | case2 t ts _ ih =>
    obtain ⟨ht, hts⟩ := List.forall_mem_cons.1 h
    have hrun : ∀ u ∈ t :: ts.takeWhile Token.isTags, P u.kind :=
      List.forall_mem_cons.2 ⟨ht, fun u hu ↦ hts u ((List.takeWhile_sublist _).subset hu)⟩
    have hrest := ih fun u hu ↦ hts u ((List.dropWhile_suffix _).subset hu)
    intro leaf hleaf
    rcases List.mem_append.1 hleaf with hleaf | hleaf
    · unfold tagLeaves at hleaf
      split at hleaf
      · cases hleaf
      · next hne =>
        rw [List.mem_singleton.1 hleaf]
        exact htags _ hrun hne
    · exact hrest leaf hleaf
  | case3 t ts _ ih =>
    obtain ⟨ht, hts⟩ := List.forall_mem_cons.1 h
    exact List.forall_mem_cons.2 ⟨ht, ih hts⟩

/-- The tokens are what the leaves say, whatever follows. -/
def Keeps (leaves : List Leaf) (ts : List Token) : Prop :=
  ∀ rest, mergeTags (ts ++ rest) = leaves ++ mergeTags rest

theorem Keeps.nil : Keeps [] [] := fun _ ↦ rfl

theorem Keeps.append {ls ms : List Leaf} {ts us : List Token} (hts : Keeps ls ts)
    (hus : Keeps ms us) : Keeps (ls ++ ms) (ts ++ us) := by
  intro rest
  calc
    mergeTags (ts ++ us ++ rest) = mergeTags (ts ++ (us ++ rest)) := by rw [List.append_assoc]
    _ = ls ++ (ms ++ mergeTags rest) := by rw [hts, hus]
    _ = ls ++ ms ++ mergeTags rest := (List.append_assoc ls ms _).symm

theorem Keeps.cons {ls : List Leaf} {t : Token} {ts : List Token} (ht : ¬t.isTags)
    (hts : Keeps ls ts) : Keeps (t.leaf :: ls) (t :: ts) := by
  intro rest
  rw [List.cons_append, mergeTags_cons ht, hts, List.cons_append]

theorem Keeps.mergeTags_eq {ls : List Leaf} {ts : List Token} (h : Keeps ls ts) :
    mergeTags ts = ls := by
  have hnil := h []
  rwa [List.append_nil, mergeTags, List.append_nil] at hnil

/-- What is read line by line is kept if each line is. -/
theorem keeps_of_reads {α : Type} {read? : Token → Option α} {leaf : α → Leaf}
    (h : ∀ t item, read? t = some item → ¬t.isTags ∧ t.leaf = leaf item)
    {items : List α} {ts : List Token} (hread : Reads read? items ts) :
    Keeps (items.map leaf) ts := by
  induction items generalizing ts with
  | nil =>
    rw [reads_nil_iff.1 hread]
    exact .nil
  | cons item items ih =>
    obtain ⟨t, us, rfl, ht, hus⟩ := reads_cons_iff.1 hread
    obtain ⟨htags, hleaf⟩ := h t item ht
    rw [List.map_cons, ← hleaf]
    exact (ih hus).cons htags

/-- What is spelled in sequence is kept if each part is. -/
theorem keeps_of_sequence {α : Type} {spells : α → List Token → Prop} {leaves : α → List Leaf}
    (h : ∀ item ts, spells item ts → Keeps (leaves item) ts) {items : List α} {ts : List Token}
    (hitems : Sequence spells items ts) : Keeps (items.flatMap leaves) ts := by
  induction hitems with
  | nil => exact .nil
  | cons hitem _ ih => exact (h _ _ hitem).append ih

def Header.leaves (h : Header) : List Leaf :=
  tagLeaves h.tags ++ [⟨.block h.kind h.keyword h.name, some (h.location, h.span)⟩]

def TextLine.leaf (l : TextLine) : Leaf := ⟨.text l.text, some (l.location, l.span)⟩

def Row.leaf (r : Row) : Leaf := ⟨.row r.cells, some (r.location, r.span)⟩

def StringNode.leaf (s : StringNode) : Leaf :=
  ⟨.docString s.delimiter s.contentType s.content, some (s.location, s.span)⟩

def Argument.leaves : Option Argument → List Leaf
  | none => []
  | some (.table rows) => rows.map Row.leaf
  | some (.string s) => [s.leaf]

def StepNode.leaves (s : StepNode) : List Leaf :=
  ⟨.step s.kind s.literal s.text, some (s.location, s.span)⟩ :: Argument.leaves s.argument

def ExamplesNode.leaves (e : ExamplesNode) : List Leaf :=
  e.header.leaves ++ (e.description.map TextLine.leaf ++ e.rows.map Row.leaf)

def BlockNode.leaves (b : BlockNode) : List Leaf :=
  b.header.leaves ++ (b.description.map TextLine.leaf ++
    (b.steps.flatMap StepNode.leaves ++ b.examples.flatMap ExamplesNode.leaves))

/-- The whole document from front to back. -/
def FeatureNode.leaves (n : FeatureNode) : List Leaf :=
  n.header.leaves ++ (n.description.map TextLine.leaf ++
    (n.background.toList.flatMap BlockNode.leaves ++ n.scenarios.flatMap BlockNode.leaves))

theorem TextLine.leaf_of_ofToken? (t : Token) (l : TextLine) (h : ofToken? t = some l) :
    ¬t.isTags ∧ t.leaf = l.leaf := by
  cases hk : t.kind <;> simp_all [ofToken?, Token.isTags, Token.leaf, leaf]
  subst h
  exact ⟨rfl, rfl, rfl⟩

theorem Row.leaf_of_ofToken? (t : Token) (r : Row) (h : ofToken? t = some r) :
    ¬t.isTags ∧ t.leaf = r.leaf := by
  cases hk : t.kind <;> simp_all [ofToken?, Token.isTags, Token.leaf, leaf]
  subst h
  exact ⟨rfl, rfl, rfl⟩

theorem StringNode.leaf_of_ofToken? (t : Token) (s : StringNode) (h : ofToken? t = some s) :
    ¬t.isTags ∧ t.leaf = s.leaf := by
  cases hk : t.kind <;> simp_all [ofToken?, Token.isTags, Token.leaf, leaf]
  subst h
  exact ⟨⟨rfl, rfl, rfl⟩, rfl, rfl⟩

theorem StepNode.leaf_of_ofToken? (t : Token) (s : StepNode) (h : ofToken? t = some s) :
    ¬t.isTags ∧ t.leaf = ⟨.step s.kind s.literal s.text, some (s.location, s.span)⟩ := by
  cases hk : t.kind <;> simp_all [ofToken?, Token.isTags, Token.leaf]
  subst h
  exact ⟨⟨rfl, rfl, rfl⟩, rfl, rfl⟩

theorem Header.keeps_of_ofToken? {tags : List Text} {run : List Token} {t : Token} {h : Header}
    (hrun : ∀ u ∈ run, u.isTags) (htags : tags = tagsOf run) (ht : ofToken? tags t = some h) :
    Keeps h.leaves (run ++ [t]) := by
  have hnot : ¬t.isTags := (kind_of_ofToken? ht).2
  have hleaves : h.leaves = tagLeaves (tagsOf run) ++ [t.leaf] := by
    cases hk : t.kind <;> simp_all [ofToken?, leaves, Token.leaf]
    subst ht
    exact ⟨rfl, ⟨rfl, rfl, rfl⟩, rfl, rfl⟩
  intro rest
  calc
    mergeTags (run ++ [t] ++ rest) = mergeTags (run ++ t :: rest) := by
      rw [List.append_assoc, List.singleton_append]
    _ = tagLeaves (tagsOf run) ++ t.leaf :: mergeTags rest := mergeTags_run hrun hnot rest
    _ = h.leaves ++ mergeTags rest := by
      rw [hleaves, List.append_assoc, List.singleton_append]

theorem Header.Spelled.keeps {h : Header} {ts : List Token} (hts : h.Spelled ts) :
    Keeps h.leaves ts := by
  cases hts with
  | intro hrun ht => exact Header.keeps_of_ofToken? hrun rfl ht

theorem Argument.Spelled.keeps {argument : Option Argument} {ts : List Token}
    (h : Argument.Spelled argument ts) : Keeps (Argument.leaves argument) ts := by
  cases h with
  | none => exact .nil
  | table _ hrows => exact keeps_of_reads Row.leaf_of_ofToken? hrows
  | @string s t hs =>
    obtain ⟨htags, hleaf⟩ := StringNode.leaf_of_ofToken? t s hs
    rw [Argument.leaves, ← hleaf]
    exact Keeps.nil.cons htags

theorem StepNode.Spelled.keeps {step : StepNode} {ts : List Token} (h : step.Spelled ts) :
    Keeps step.leaves ts := by
  cases h with
  | @intro bare t argument us ht hus =>
    obtain ⟨hnot, hleaf⟩ := StepNode.leaf_of_ofToken? t bare ht
    rw [leaves, ← hleaf]
    exact hus.keeps.cons hnot

theorem ExamplesNode.Spelled.keeps {e : ExamplesNode} {ts : List Token} (h : e.Spelled ts) :
    Keeps e.leaves ts := by
  cases h with
  | intro hhs _ hds hrs =>
    have hdescription := keeps_of_reads TextLine.leaf_of_ofToken? hds
    have hrows := keeps_of_reads Row.leaf_of_ofToken? hrs
    exact hhs.keeps.append (hdescription.append hrows)

theorem BlockNode.SpelledBackground.keeps {b : BlockNode} {ts : List Token}
    (h : b.SpelledBackground ts) : Keeps b.leaves ts := by
  cases h with
  | @intro header _ _ t ds ss ht _ hds hss =>
    have hheader : Keeps header.leaves ([] ++ [t]) :=
      Header.keeps_of_ofToken? (List.forall_mem_nil _) rfl ht
    have hdescription := keeps_of_reads TextLine.leaf_of_ofToken? hds
    have hsteps := keeps_of_sequence @StepNode.Spelled.keeps hss
    rw [leaves, List.flatMap_nil, List.append_nil]
    exact hheader.append (hdescription.append hsteps)

theorem BlockNode.SpelledScenario.keeps {b : BlockNode} {ts : List Token}
    (h : b.SpelledScenario ts) : Keeps b.leaves ts := by
  cases h with
  | intro hhs _ hds hss hes =>
    have hdescription := keeps_of_reads TextLine.leaf_of_ofToken? hds
    have hsteps := keeps_of_sequence @StepNode.Spelled.keeps hss
    have hexamples := keeps_of_sequence @ExamplesNode.Spelled.keeps hes
    exact hhs.keeps.append (hdescription.append (hsteps.append hexamples))

/-- A document holds its tokens and nothing else, each in its place. -/
theorem FeatureNode.Spelled.keeps {n : FeatureNode} {ts : List Token} (h : n.Spelled ts) :
    Keeps n.leaves ts := by
  cases h with
  | intro hhs _ hds hbs hss =>
    have hdescription := keeps_of_reads TextLine.leaf_of_ofToken? hds
    have hbackground := keeps_of_sequence @BlockNode.SpelledBackground.keeps hbs
    have hscenarios := keeps_of_sequence @BlockNode.SpelledScenario.keeps hss
    exact hhs.keeps.append (hdescription.append (hbackground.append hscenarios))

end Tree

end Gherkin
