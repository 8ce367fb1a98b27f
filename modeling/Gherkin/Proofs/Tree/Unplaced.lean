import Gherkin.Proofs.Token.Detail
import Gherkin.Proofs.Tree.Leaves

/-!
# Trees apart from their places

Two documents that say the same in different places have the same tree apart from its places, and
two that say the same in outline have the same tree apart from its places and from what its steps
and strings hold. What a tree says is what its leaves say, so tokens that say so much of what the
leaves of a tree say spell a tree that says so much of the same.

Main statement: `FeatureNode.Spelled.exists_unplaced`.
-/

namespace Gherkin

/-- The place that stands for any other. -/
def Location.nowhere : Location := ⟨none, 0, 0⟩

/-- The span that stands for any other. -/
def Span.nothing : Span := ⟨0, 0, Nat.le_refl 0⟩

namespace Tree

def Header.unplaced (h : Header) : Header :=
  { h with location := .nowhere, span := .nothing, line := [] }

def TextLine.unplaced (l : TextLine) : TextLine :=
  { l with location := .nowhere, span := .nothing }

def Row.unplaced (r : Row) : Row := { r with location := .nowhere, span := .nothing, line := [] }

def StringNode.upTo : Detail → StringNode → StringNode
  | .full, s => { s with location := .nowhere, span := .nothing }
  | .outline, _ => ⟨.quotes, none, [], .nowhere, .nothing⟩

def Argument.upTo (d : Detail) : Argument → Argument
  | table rows => table (rows.map Row.unplaced)
  | string s => string (s.upTo d)

def StepNode.upTo : Detail → StepNode → StepNode
  | .full, s =>
    { s with
      location := .nowhere, span := .nothing, argument := s.argument.map (Argument.upTo .full) }
  | .outline, s => ⟨.bullet, [], [], .nowhere, .nothing, s.argument.map (Argument.upTo .outline)⟩

def ExamplesNode.unplaced (e : ExamplesNode) : ExamplesNode :=
  ⟨e.header.unplaced, e.description.map TextLine.unplaced, e.rows.map Row.unplaced⟩

def BlockNode.upTo (d : Detail) (b : BlockNode) : BlockNode :=
  ⟨b.header.unplaced, b.description.map TextLine.unplaced, b.steps.map (StepNode.upTo d),
    b.examples.map ExamplesNode.unplaced⟩

/-- The document apart from its places, as far as it is asked for. -/
def FeatureNode.upTo (d : Detail) (n : FeatureNode) : FeatureNode :=
  ⟨n.header.unplaced, n.description.map TextLine.unplaced, n.background.map (BlockNode.upTo d),
    n.scenarios.map (BlockNode.upTo d)⟩

abbrev StringNode.unplaced : StringNode → StringNode := StringNode.upTo .full

abbrev Argument.unplaced : Argument → Argument := Argument.upTo .full

abbrev StepNode.unplaced : StepNode → StepNode := StepNode.upTo .full

abbrev BlockNode.unplaced : BlockNode → BlockNode := BlockNode.upTo .full

/-- The document apart from its places. -/
abbrev FeatureNode.unplaced : FeatureNode → FeatureNode := FeatureNode.upTo .full

/-- The tokens say one by one what the leaves say, as far as it is asked for. -/
def SayAgain (d : Detail) (leaves : List Leaf) (ts : List Token) : Prop :=
  ts.map (·.kind.upTo d) = (kindsOf leaves).map (·.upTo d)

variable {d : Detail}

theorem sayAgain_append_iff {ls ms : List Leaf} {ts : List Token} :
    SayAgain d (ls ++ ms) ts ↔ ∃ us vs, ts = us ++ vs ∧ SayAgain d ls us ∧ SayAgain d ms vs := by
  simp only [SayAgain, kindsOf_append, List.map_append, List.map_eq_append_iff]

theorem sayAgain_cons_iff {leaf : Leaf} {ls : List Leaf} {ts : List Token} :
    SayAgain d (leaf :: ls) ts ↔
      ∃ t us, ts = t :: us ∧ t.kind.upTo d = leaf.kind.upTo d ∧ SayAgain d ls us := by
  simp only [SayAgain, kindsOf, List.map_cons, List.map_eq_cons_iff]

theorem sayAgain_nil_iff {ts : List Token} : SayAgain d [] ts ↔ ts = [] := by
  simp [SayAgain, kindsOf]

/-- What is read line by line is read again from tokens that say the same. -/
theorem exists_reads_of_sayAgain {α β : Type} {read? : Token → Option α} {leaf : α → Leaf}
    {bare : α → β}
    (h : ∀ item t, t.kind.upTo d = (leaf item).kind.upTo d →
      ∃ item', read? t = some item' ∧ bare item' = bare item)
    {items : List α} {ts : List Token} (hts : SayAgain d (items.map leaf) ts) :
    ∃ items', Reads read? items' ts ∧ items'.map bare = items.map bare := by
  induction items generalizing ts with
  | nil =>
    rw [sayAgain_nil_iff.1 hts]
    exact ⟨[], rfl, rfl⟩
  | cons item items ih =>
    obtain ⟨t, us, rfl, ht, hus⟩ := sayAgain_cons_iff.1 hts
    obtain ⟨item', hread, hbare⟩ := h item t ht
    obtain ⟨items', hreads, hbares⟩ := ih hus
    exact ⟨item' :: items', reads_cons_iff.2 ⟨t, us, rfl, hread, hreads⟩, by
      rw [List.map_cons, List.map_cons, hbare, hbares]⟩

/-- What is spelled in sequence is spelled again if each part is. -/
theorem exists_sequence_of_sayAgain {α β : Type} {spells : α → List Token → Prop}
    {leaves : α → List Leaf} {bare : α → β}
    (h : ∀ {item ts us}, spells item ts → SayAgain d (leaves item) us →
      ∃ item', spells item' us ∧ bare item' = bare item)
    {items : List α} {ts us : List Token} (hitems : Sequence spells items ts)
    (hus : SayAgain d (items.flatMap leaves) us) :
    ∃ items', Sequence spells items' us ∧ items'.map bare = items.map bare := by
  induction hitems generalizing us with
  | nil =>
    rw [sayAgain_nil_iff.1 hus]
    exact ⟨[], .nil, rfl⟩
  | cons hitem _ ih =>
    rw [List.flatMap_cons] at hus
    obtain ⟨vs, ws, rfl, hvs, hws⟩ := sayAgain_append_iff.1 hus
    obtain ⟨item', hspells, hbare⟩ := h hitem hvs
    obtain ⟨items', hsequence, hbares⟩ := ih hws
    exact ⟨item' :: items', .cons hspells hsequence, by
      rw [List.map_cons, List.map_cons, hbare, hbares]⟩

theorem TextLine.exists_unplaced (l : TextLine) (t : Token)
    (h : t.kind.upTo d = l.leaf.kind.upTo d) :
    ∃ l', ofToken? t = some l' ∧ l'.unplaced = l.unplaced := by
  refine ⟨⟨l.text, t.location, t.span⟩, ?_, rfl⟩
  rw [ofToken?, TokenKind.eq_of_upTo_eq h trivial]
  rfl

theorem Row.exists_unplaced (r : Row) (t : Token) (h : t.kind.upTo d = r.leaf.kind.upTo d) :
    ∃ r', ofToken? t = some r' ∧ r'.unplaced = r.unplaced := by
  refine ⟨⟨r.cells, t.location, t.span, t.line⟩, ?_, rfl⟩
  rw [ofToken?, TokenKind.eq_of_upTo_eq h trivial]
  rfl

theorem StringNode.exists_unplaced (s : StringNode) (t : Token)
    (h : t.kind.upTo d = s.leaf.kind.upTo d) :
    ∃ s', ofToken? t = some s' ∧ s'.upTo d = s.upTo d := by
  obtain ⟨delimiter, type, content, hkind⟩ := TokenKind.exists_docString_of_upTo_eq h
  refine ⟨⟨delimiter, type, content, t.location, t.span⟩, by rw [ofToken?, hkind], ?_⟩
  cases d with
  | outline => rfl
  | full =>
    rw [hkind] at h
    cases h
    rfl

theorem Header.exists_unplaced_of_kind (h : Header) {t : Token}
    (ht : t.kind.upTo d = (TokenKind.block h.kind h.keyword h.name).upTo d) :
    ∃ h', ofToken? h.tags t = some h' ∧ h'.unplaced = h.unplaced := by
  refine ⟨⟨h.tags, h.kind, h.keyword, h.name, t.location, t.span, t.line⟩, ?_, rfl⟩
  rw [ofToken?, TokenKind.eq_of_upTo_eq ht trivial]

/-- One leaf of tags is a run that names what the leaf names. -/
theorem tagsOf_of_sayAgain {names : List Text} (hnames : names.Nodup) {run : List Token}
    (h : SayAgain d (tagLeaves names) run) : (∀ u ∈ run, u.isTags) ∧ tagsOf run = names := by
  rw [tagLeaves] at h
  split at h
  · next hnil =>
    rw [sayAgain_nil_iff.1 h, hnil]
    exact ⟨List.forall_mem_nil _, rfl⟩
  · obtain ⟨t, us, rfl, ht, hus⟩ := sayAgain_cons_iff.1 h
    have hkind : t.kind = .tags names := TokenKind.eq_of_upTo_eq ht trivial
    rw [sayAgain_nil_iff.1 hus]
    refine ⟨fun u hu ↦ ?_, ?_⟩
    · rw [List.mem_singleton.1 hu, Token.isTags, hkind]
    · have htags : t.tagNames = names := by rw [Token.tagNames, hkind]
      rw [tagsOf, List.flatMap_singleton, htags, eraseDups_of_nodup hnames]

theorem Header.Spelled.exists_unplaced {h : Header} {ts us : List Token} (hts : h.Spelled ts)
    (hus : SayAgain d h.leaves us) : ∃ h', Spelled h' us ∧ h'.unplaced = h.unplaced := by
  have hnodup : h.tags.Nodup := by
    cases hts with
    | intro _ ht =>
      rw [tags_of_ofToken? ht]
      exact nodup_eraseDups _
  obtain ⟨run, last, rfl, hrun, hlast⟩ := sayAgain_append_iff.1 hus
  obtain ⟨t, rest, rfl, ht, hrest⟩ := sayAgain_cons_iff.1 hlast
  obtain ⟨hall, htags⟩ := tagsOf_of_sayAgain hnodup hrun
  obtain ⟨h', hread, hbare⟩ := h.exists_unplaced_of_kind ht
  rw [sayAgain_nil_iff.1 hrest]
  exact ⟨h', .intro hall (htags ▸ hread), hbare⟩

theorem Argument.Spelled.exists_unplaced {argument : Option Argument} {ts us : List Token}
    (hts : Argument.Spelled argument ts) (hus : SayAgain d (leaves argument) us) :
    ∃ argument', Argument.Spelled argument' us ∧
      argument'.map (upTo d) = argument.map (upTo d) := by
  cases hts with
  | none =>
    rw [sayAgain_nil_iff.1 hus]
    exact ⟨Option.none, .none, rfl⟩
  | @table rows _ hne _ =>
    obtain ⟨rows', hreads, hbare⟩ := exists_reads_of_sayAgain Row.exists_unplaced hus
    have hne' : rows' ≠ [] := by
      rintro rfl
      exact hne (List.map_eq_nil_iff.1 hbare.symm)
    exact ⟨some (.table rows'), .table hne' hreads, congrArg (some <| Argument.table ·) hbare⟩
  | @string s _ _ =>
    obtain ⟨t, rest, rfl, ht, hrest⟩ := sayAgain_cons_iff.1 hus
    obtain ⟨s', hread, hbare⟩ := s.exists_unplaced t ht
    rw [sayAgain_nil_iff.1 hrest]
    exact ⟨some (.string s'), .string hread, congrArg (some <| Argument.string ·) hbare⟩

theorem StepNode.Spelled.exists_unplaced {s : StepNode} {ts us : List Token} (hts : s.Spelled ts)
    (hus : SayAgain d s.leaves us) : ∃ s', Spelled s' us ∧ s'.upTo d = s.upTo d := by
  cases hts with
  | @intro bare _ argument _ _ hargument =>
    obtain ⟨t, vs, rfl, ht, hvs⟩ := sayAgain_cons_iff.1 hus
    obtain ⟨argument', hspelled, hbare⟩ := hargument.exists_unplaced hvs
    obtain ⟨kind, literal, body, hkind⟩ := TokenKind.exists_step_of_upTo_eq ht
    have hread : ofToken? t = some ⟨kind, literal, body, t.location, t.span, none⟩ := by
      rw [ofToken?, hkind]
    refine ⟨_, .intro hread hspelled, ?_⟩
    cases d with
    | outline => simp only [upTo, hbare]
    | full =>
      rw [hkind] at ht
      cases ht
      simp only [upTo, hbare]

theorem ExamplesNode.Spelled.exists_unplaced {e : ExamplesNode} {ts us : List Token}
    (hts : e.Spelled ts) (hus : SayAgain d e.leaves us) :
    ∃ e', Spelled e' us ∧ e'.unplaced = e.unplaced := by
  cases hts with
  | intro hheader hkind _ _ =>
    obtain ⟨hs, rest, rfl, hhs, hrest⟩ := sayAgain_append_iff.1 hus
    obtain ⟨ds, rs, rfl, hds, hrs⟩ := sayAgain_append_iff.1 hrest
    obtain ⟨header', hspelled, hbare⟩ := hheader.exists_unplaced hhs
    obtain ⟨description', hdescription, htexts⟩ :=
      exists_reads_of_sayAgain TextLine.exists_unplaced hds
    obtain ⟨rows', hrows, hcells⟩ := exists_reads_of_sayAgain Row.exists_unplaced hrs
    have hkind' : header'.kind = .examples := (congrArg (·.kind) hbare).trans hkind
    exact ⟨_, .intro hspelled hkind' hdescription hrows, by
      simp only [unplaced, hbare, htexts, hcells]⟩

theorem BlockNode.SpelledBackground.exists_unplaced {b : BlockNode} {ts us : List Token}
    (hts : b.SpelledBackground ts) (hus : SayAgain d b.leaves us) :
    ∃ b', SpelledBackground b' us ∧ b'.upTo d = b.upTo d := by
  cases hts with
  | @intro header description steps t _ _ ht hkind _ hsteps =>
    have htags : header.tags = [] := Header.tags_of_ofToken? ht
    obtain ⟨hs, rest, rfl, hhs, hrest⟩ := sayAgain_append_iff.1 hus
    obtain ⟨ds, rest, rfl, hds, hrest⟩ := sayAgain_append_iff.1 hrest
    obtain ⟨ss, es, rfl, hss, hes⟩ := sayAgain_append_iff.1 hrest
    rw [Header.leaves, htags] at hhs
    obtain ⟨t', nothing, rfl, ht', hnothing⟩ := sayAgain_cons_iff.1 hhs
    rw [sayAgain_nil_iff.1 hnothing, sayAgain_nil_iff.1 hes, List.append_nil,
      List.singleton_append]
    obtain ⟨header', hread, hbare⟩ := header.exists_unplaced_of_kind ht'
    obtain ⟨description', hdescription, htexts⟩ :=
      exists_reads_of_sayAgain TextLine.exists_unplaced hds
    obtain ⟨steps', hsteps', hsaid⟩ :=
      exists_sequence_of_sayAgain StepNode.Spelled.exists_unplaced hsteps hss
    have hkind' : header'.kind = .background := (congrArg (·.kind) hbare).trans hkind
    exact ⟨_, .intro (htags ▸ hread) hkind' hdescription hsteps', by
      simp only [upTo, hbare, htexts, hsaid, List.map_nil]⟩

theorem BlockNode.SpelledScenario.exists_unplaced {b : BlockNode} {ts us : List Token}
    (hts : b.SpelledScenario ts) (hus : SayAgain d b.leaves us) :
    ∃ b', SpelledScenario b' us ∧ b'.upTo d = b.upTo d := by
  cases hts with
  | @intro header _ _ _ _ _ _ _ hheader hopens _ hsteps hexamples =>
    obtain ⟨hs, rest, rfl, hhs, hrest⟩ := sayAgain_append_iff.1 hus
    obtain ⟨ds, rest, rfl, hds, hrest⟩ := sayAgain_append_iff.1 hrest
    obtain ⟨ss, es, rfl, hss, hes⟩ := sayAgain_append_iff.1 hrest
    obtain ⟨header', hspelled, hbare⟩ := hheader.exists_unplaced hhs
    obtain ⟨description', hdescription, htexts⟩ :=
      exists_reads_of_sayAgain TextLine.exists_unplaced hds
    obtain ⟨steps', hsteps', hsaid⟩ :=
      exists_sequence_of_sayAgain StepNode.Spelled.exists_unplaced hsteps hss
    obtain ⟨examples', hexamples', hshown⟩ :=
      exists_sequence_of_sayAgain ExamplesNode.Spelled.exists_unplaced hexamples hes
    have hkind : header'.kind = header.kind := congrArg (·.kind) hbare
    have hopens' : header'.OpensScenario := hopens.imp hkind.trans hkind.trans
    exact ⟨_, .intro hspelled hopens' hdescription hsteps' hexamples', by
      simp only [upTo, hbare, htexts, hsaid, hshown]⟩

/-- Tokens that say what a document says spell it again, as far as it is asked for. -/
theorem FeatureNode.Spelled.exists_unplaced {n : FeatureNode} {ts us : List Token}
    (hts : n.Spelled ts) (hus : SayAgain d n.leaves us) :
    ∃ n', Spelled n' us ∧ n'.upTo d = n.upTo d := by
  cases hts with
  | @intro header description background scenarios _ _ _ _ hheader hkind _ hbackground hscenarios =>
    obtain ⟨hs, rest, rfl, hhs, hrest⟩ := sayAgain_append_iff.1 hus
    obtain ⟨ds, rest, rfl, hds, hrest⟩ := sayAgain_append_iff.1 hrest
    obtain ⟨bs, ss, rfl, hbs, hss⟩ := sayAgain_append_iff.1 hrest
    obtain ⟨header', hspelled, hbare⟩ := hheader.exists_unplaced hhs
    obtain ⟨description', hdescription, htexts⟩ :=
      exists_reads_of_sayAgain TextLine.exists_unplaced hds
    obtain ⟨blocks', hbackground', hblocks⟩ :=
      exists_sequence_of_sayAgain BlockNode.SpelledBackground.exists_unplaced hbackground hbs
    obtain ⟨scenarios', hscenarios', hsaid⟩ :=
      exists_sequence_of_sayAgain BlockNode.SpelledScenario.exists_unplaced hscenarios hss
    obtain ⟨background', rfl, hshared⟩ : ∃ background' : Option BlockNode,
        background'.toList = blocks' ∧
          background'.map (BlockNode.upTo d) = background.map (BlockNode.upTo d) := by
      cases background with
      | none => exact ⟨none, (List.map_eq_nil_iff.1 hblocks).symm, rfl⟩
      | some b =>
        obtain ⟨b', rfl, hb⟩ := List.map_eq_singleton_iff.1 hblocks
        exact ⟨some b', rfl, congrArg some hb⟩
    have hkind' : header'.kind = .feature := (congrArg (·.kind) hbare).trans hkind
    exact ⟨_, .intro hspelled hkind' hdescription hbackground' hscenarios', by
      simp only [upTo, hbare, htexts, hshared, hsaid]⟩

end Tree

end Gherkin
