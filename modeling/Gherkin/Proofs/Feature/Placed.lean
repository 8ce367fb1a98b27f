import Gherkin.Proofs.Feature.Built
import Gherkin.Proofs.Feature.Layout
import Gherkin.Proofs.Token.Reach
import Gherkin.Proofs.Tree.Soundness

/-!
# The nodes of a document stand where they say

The tokens of a text stand at their places and in order. A node is read from neighbouring tokens and
spans what they do, so that its place is exact as well, its parts lie within it, and it comes before
whatever is read from later tokens. A description need not lie within its block: the block ends with
its header where nothing follows but free lines.

Main statements: the tokens of a text are in place (`laid_of_ofText`), and every node of a document
is (`sound_layout_of_parseFeature`).
-/

namespace Gherkin

open Text (Solid trim)

/-! ## Tokens in place -/

/-- The keyword with which a line of this kind begins. -/
def TokenKind.keyword : TokenKind → Text
  | block _ keyword _ => keyword
  | step _ literal _ => trim literal
  | _ => []

def Token.layout (t : Token) : Layout := .bare t.kind.keyword ⟨t.location, t.span⟩

/-- A free line is what stands in the text at the bytes of its token. -/
def Token.Shown (source : Text) (t : Token) : Prop :=
  ∀ line, t.kind = .text line → source.slice? t.span.start t.span.stop = some line

/-- The tokens stand at their places in the text and in order. -/
structure Laid (source : Text) (ts : List Token) : Prop where
  sound : ∀ t ∈ ts, t.layout.Sound source
  shown : ∀ t ∈ ts, t.Shown source
  ordered : ts.Pairwise fun t t' ↦ t.span.Before t'.span

theorem laid_append_iff {source : Text} {ts us : List Token} :
    Laid source (ts ++ us) ↔
      Laid source ts ∧ Laid source us ∧ ∀ t ∈ ts, ∀ u ∈ us, t.span.Before u.span := by
  constructor
  · rintro ⟨hsound, hshown, hordered⟩
    obtain ⟨hts, hus⟩ := List.forall_mem_append.1 hsound
    obtain ⟨hts', hus'⟩ := List.forall_mem_append.1 hshown
    obtain ⟨hts'', hus'', hbefore⟩ := List.pairwise_append.1 hordered
    exact ⟨⟨hts, hts', hts''⟩, ⟨hus, hus', hus''⟩, hbefore⟩
  · rintro ⟨hts, hus, hbefore⟩
    exact ⟨List.forall_mem_append.2 ⟨hts.sound, hus.sound⟩,
      List.forall_mem_append.2 ⟨hts.shown, hus.shown⟩,
      List.pairwise_append.2 ⟨hts.ordered, hus.ordered, hbefore⟩⟩

theorem laid_cons_iff {source : Text} {t : Token} {ts : List Token} :
    Laid source (t :: ts) ↔
      Laid source [t] ∧ Laid source ts ∧ ∀ u ∈ ts, t.span.Before u.span := by
  rw [← List.singleton_append, laid_append_iff]
  simp only [List.mem_singleton, forall_eq]

/-- Tokens that are in place stand where they do. -/
theorem Laid.stands {source : Text} {ts : List Token} (h : Laid source ts) :
    Stands source ts (ts.map Token.layout) where
  sound := by simpa using h.sound
  within := by
    intro l hl
    obtain ⟨t, ht, rfl⟩ := List.mem_map.1 hl
    exact ⟨⟨t, ht, rfl⟩, t, ht, rfl⟩
  ordered := by
    rw [List.map_map, List.pairwise_map]
    exact h.ordered

/-- A node without parts is sound if its place is exact. -/
theorem Layout.sound_bare {source keyword : Text} {p : Place} (h : p.Exact source keyword) :
    (bare keyword p).Sound source :=
  .node h nofun nofun nofun .nil

section Lines

variable {d : Detail} {language : Language} {path : Option Text} {source : Text}

/-- A line begins with the keyword of what it says. -/
theorem keyword_prefix_of_classify (hl : language.Readable d) {content : Text} {kind : TokenKind}
    (h : Token.classify language content = .ok kind) : kind.keyword <+: content := by
  cases Token.said_of_classify h with
  | @block b hheader =>
    obtain ⟨k, -, hread⟩ := Language.mem_of_readHeader hheader
    obtain ⟨ws, rest, -, rfl, rfl⟩ := BlockKeyword.read?_eq_some_iff.1 hread
    exact List.prefix_append _ _
  | @step s hstep =>
    obtain ⟨k, hk, hread⟩ := Language.mem_of_readStep hstep
    obtain ⟨rest, hword, -, -, rfl⟩ := StepKeyword.read?_eq_some_iff.1 hread
    -- a literal begins with no white space, so that its word is the keyword
    have hhead : k.literal.head?.all fun c ↦ !Text.isSpace c := by
      have hopens := hl.step_opens k hk
      rw [opensLine] at hopens
      cases hliteral : k.literal with
      | nil => rfl
      | cons c cs =>
        rw [hliteral] at hopens
        simp only [List.head?_cons, Option.any_some, Bool.and_eq_true] at hopens
        exact hopens.1
    refine ⟨rest, ?_⟩
    rw [TokenKind.keyword, trim, Text.trimStart_of_head hhead]
    exact (Text.afterPrefix?_eq_some_iff.1 hword).symm
  | _ => exact List.nil_prefix

theorem SourceLine.stop_span {l : SourceLine} (hne : l.content ≠ []) : l.span.stop = l.stop :=
  Nat.max_eq_right (Nat.le_of_lt (start_lt_stop hne))

/-- The content of a line comes before that of a later line. -/
theorem SourceLine.Before.span_before {l l' : SourceLine} (h : l.Before l') (hne : l.content ≠ []) :
    l.span.Before l'.span := by
  rw [Span.Before, stop_span hne]
  exact Nat.lt_of_lt_of_le h.2 (Nat.le_add_right _ _)

/-- The place of a line that is not blank is exact. -/
theorem exact_of_line {l : SourceLine} (hl : l ∈ SourceLine.ofText source) (hne : l.content ≠ [])
    {keyword : Text} (hkeyword : keyword <+: l.content) :
    Place.Exact source keyword ⟨l.location path, l.span⟩ where
  line := (SourceLine.lineAt_start hl).symm
  column := (SourceLine.columnAt_start hl).symm
  covers := by
    refine ⟨l.content, ?_, hne, Text.solid_trim l.text, hkeyword⟩
    rw [SourceLine.stop_span hne]
    exact SourceLine.slice?_content hl hne

/-- A token is sound in the text from whose lines it was read. -/
theorem sound_layout_of_from (hl : language.Readable d) {c : Chunk} (hsorted : c.Sorted)
    (hlines : c.lines ⊆ SourceLine.ofText source)
    (hbefore : c.lines.Pairwise SourceLine.Before) {t : Token}
    (h : Token.From language path c t) : t.layout.Sound source := by
  apply Layout.sound_bare
  cases h with
  | @line l kind hclassify =>
    exact exact_of_line (hlines List.mem_cons_self) hsorted.ne_nil
      (keyword_prefix_of_classify hl hclassify)
  | string d opening body closing =>
    obtain ⟨hopening, -, hcloses⟩ := hsorted
    have hfirst := (content_of_opening? hopening).1
    have hlast := Delimiter.content_ne_nil_of_closes hcloses
    have hexact : Place.Exact source [] ⟨opening.location path, opening.span⟩ :=
      exact_of_line (hlines (by simp [Chunk.lines])) hfirst List.nil_prefix
    have hexact' : Place.Exact source [] ⟨closing.location path, closing.span⟩ :=
      exact_of_line (hlines (by simp [Chunk.lines])) hlast List.nil_prefix
    have hspans : opening.span.Before closing.span :=
      ((List.pairwise_cons.1 hbefore).1 closing (by simp)).span_before hfirst
    have hspan : (Token.ofString path d opening body closing).span =
        opening.span.join closing.span := by
      apply Span.eq_of_start_of_stop
      · exact hspans.start_join.symm
      · rw [hspans.stop_join, SourceLine.stop_span hlast]
        have hlt := SourceLine.start_lt_stop hfirst
        have hlt' := SourceLine.start_lt_stop hlast
        rw [Span.Before, SourceLine.stop_span hfirst] at hspans
        change opening.stop < closing.start at hspans
        exact Nat.max_eq_right (by omega)
    rw [hspan]
    exact hexact.join hexact' hspans

/-- A free line is read as it stands in the text. -/
theorem shown_of_from {c : Chunk} (hsorted : c.Sorted) (hlines : c.lines ⊆ SourceLine.ofText source)
    {t : Token} (h : Token.From language path c t) : t.Shown source := by
  cases h with
  | @line l kind hclassify =>
    intro line hkind
    have hsaid := Token.said_of_classify hclassify
    rw [show kind = .text line from hkind] at hsaid
    cases hsaid
    change source.slice? l.span.start l.span.stop = some l.content
    rw [SourceLine.stop_span hsorted.ne_nil]
    exact SourceLine.slice?_content (hlines List.mem_cons_self) hsorted.ne_nil
  | string => exact nofun

/-- The tokens of a text are in place. -/
theorem laid_of_ofText (hl : language.Readable d) {lexed : Lexed}
    (h : Lexed.ofText language path source = .ok lexed) : Laid source lexed.tokens where
  sound := by
    intro t ht
    obtain ⟨c, hc, htoken⟩ := exists_chunk_of_mem_tokens h ht
    exact sound_layout_of_from hl (Chunk.sorted_of_mem_ofLines hc) (Chunk.lines_subset hc)
      (Chunk.pairwise_lines hc) (Token.from_of_token? htoken)
  shown := by
    intro t ht
    obtain ⟨c, hc, htoken⟩ := exists_chunk_of_mem_tokens h ht
    exact shown_of_from (Chunk.sorted_of_mem_ofLines hc) (Chunk.lines_subset hc)
      (Token.from_of_token? htoken)
  ordered := by
    rw [Lexed.tokens_of_ofChunks h, List.pairwise_filterMap]
    refine (Chunk.pairwise_ofLines source).imp_of_mem fun hc hc' hbefore t htoken t' htoken' ↦ ?_
    obtain ⟨_, -, last, hlast, hspans, -⟩ := Chunk.lineAt_of_token? hc htoken
    obtain ⟨first, hfirst, _, -, hspans', -⟩ := Chunk.lineAt_of_token? hc' htoken'
    rw [Span.Before, hspans.stop_eq, hspans'.start_eq]
    exact Nat.lt_of_lt_of_le (hbefore last hlast first hfirst).2 (Nat.le_add_right _ _)

end Lines

def Table.layout (t : Table) : Layout := .bare [] ⟨t.location, t.span⟩

def DocString.layout (s : DocString) : Layout := .bare [] ⟨s.location, s.span⟩

def Description.layout (d : Description) : Layout := .bare [] ⟨d.location, d.span⟩

def Step.layout (s : Step) : Layout :=
  .node s.keyword ⟨s.location, s.span⟩ none
    ((s.table.map Table.layout).toList ++ (s.docString.map DocString.layout).toList)

def Background.layout (b : Background) : Layout :=
  .node b.keyword ⟨b.location, b.span⟩ (b.description.map Description.layout)
    (b.steps.map Step.layout)

def Examples.layout (e : Examples) : Layout :=
  .node e.keyword ⟨e.location, e.span⟩ (e.description.map Description.layout) [e.table.layout]

def Scenario.layout (s : Scenario) : Layout :=
  .node s.keyword ⟨s.location, s.span⟩ (s.description.map Description.layout)
    (s.steps.map Step.layout ++ s.examples.map Examples.layout)

/-- How a document lies in its text: below the feature its description, its background and its
scenarios, below these the steps and examples, and below these the tables and strings. -/
def Feature.layout (f : Feature) : Layout :=
  .node f.keyword ⟨f.location, f.span⟩ (f.description.map Description.layout)
    (f.background.toList.map Background.layout ++ f.scenarios.map Scenario.layout)

section Nodes

variable {source : Text} {ts : List Token}

/-- Items that are read token by token stand where the tokens do. -/
theorem stands_of_reads {α : Type} {read? : Token → Option α} (layout : α → Layout)
    (hread : ∀ t item, read? t = some item → layout item = t.layout) {items : List α}
    (h : Tree.Reads read? items ts) (hlaid : Laid source ts) :
    Stands source ts (items.map layout) := by
  have hlayouts : items.map layout = ts.map Token.layout := by
    induction items generalizing ts with
    | nil =>
      rw [Tree.reads_nil_iff.1 h]
      rfl
    | cons item items ih =>
      obtain ⟨t, us, rfl, ht, hus⟩ := Tree.reads_cons_iff.1 h
      obtain ⟨-, hlaid', -⟩ := laid_cons_iff.1 hlaid
      rw [List.map_cons, List.map_cons, ih hus hlaid', hread t item ht]
  rw [hlayouts]
  exact hlaid.stands

/-- A node stands where it does if its description and its parts are left out. -/
theorem Stands.bare {keyword : Text} {place : Place} {description : Option Layout}
    {parts : List Layout} (h : Stands source ts [.node keyword place description parts]) :
    Stands source ts [.bare keyword place] where
  sound := by
    cases List.forall_mem_singleton.1 h.sound with
    | node hexact => exact List.forall_mem_singleton.2 (Layout.sound_bare hexact)
  within := List.forall_mem_singleton.2
    (h.within (.node keyword place description parts) List.mem_cons_self)
  ordered := List.pairwise_singleton ..

/-- Lines that are read one by one and joined stand where their tokens do. -/
theorem stands_of_run {α : Type} (place : α → Place) {first : α} {rest : List α}
    (h : Stands source ts ((first :: rest).map fun r ↦ .bare [] (place r))) :
    Stands source ts [.bare [] ⟨(place first).location,
      (first :: rest).foldl (fun s r ↦ s.join (place r).span) (place first).span⟩] := by
  have hnode := (Stands.node none (rest.map fun r ↦ .bare [] (place r)) h).bare
  rw [List.map_map] at hnode
  rw [List.foldl_cons, Span.join_self]
  rwa [← List.foldl_map]

/-- What a token keeps of its kind and its place is how it lies in the text. -/
theorem Token.layout_of_leaf {t : Token} {kind : TokenKind} {location : Location} {span : Span}
    (h : t.leaf = ⟨kind, some (location, span)⟩) :
    t.layout = .bare kind.keyword ⟨location, span⟩ := by
  cases h
  rfl

/-- The table of rows stands where they do. -/
theorem Table.stands_ofRows {rows : List Tree.Row} {table : Table}
    (h : Tree.Reads Tree.Row.ofToken? rows ts) (hlaid : Laid source ts)
    (htable : ofRows rows = .ok table) : Stands source ts [table.layout] := by
  obtain ⟨first, rest, rfl, -, rfl⟩ := ofRows_eq_ok_iff.1 htable
  apply stands_of_run fun r : Tree.Row ↦ ⟨r.location, r.span⟩
  apply stands_of_reads _ _ h hlaid
  intro t r hr
  exact (Token.layout_of_leaf (Tree.Row.leaf_of_ofToken? t r hr).2).symm

/-- The description in free lines stands where they do. -/
theorem Description.stands_ofLines {lines : List Tree.TextLine}
    (h : Tree.Reads Tree.TextLine.ofToken? lines ts) (hlaid : Laid source ts) :
    Stands source ts ((ofLines lines).map layout).toList := by
  cases lines with
  | nil => exact .nil
  | cons first rest =>
    apply stands_of_run fun l : Tree.TextLine ↦ ⟨l.location, l.span⟩
    apply stands_of_reads _ _ h hlaid
    intro t l hl
    exact (Token.layout_of_leaf (Tree.TextLine.leaf_of_ofToken? t l hl).2).symm

/-- A header stands where its line does. -/
theorem stands_of_header {header : Tree.Header} (h : header.Spelled ts) (hlaid : Laid source ts) :
    Stands source ts [.bare header.keyword ⟨header.location, header.span⟩] := by
  cases h with
  | @intro run t _ ht =>
    have hlayout : t.layout = .bare header.keyword ⟨header.location, header.span⟩ := by
      cases hk : t.kind <;> simp_all [Tree.Header.ofToken?]
      subst ht
      rw [Token.layout, hk]
      rfl
    obtain ⟨-, hline, hbefore⟩ := laid_append_iff.1 hlaid
    rw [← hlayout]
    exact Stands.nil.append hline.stands hbefore

/-- Items that are read from nodes stand where the nodes do, one after the other. -/
theorem stands_of_sequence {ν π ι : Type} {spells : ν → List Token → Prop} (node : π → ν)
    {read : π → Except SyntaxError ι} (layout : ι → Layout) {ps : List π} {items : List ι}
    (h : Tree.Sequence spells (ps.map node) ts) (hlaid : Laid source ts)
    (hread : ps.map read = items.map .ok)
    (hone : ∀ p us item, spells (node p) us → Laid source us → read p = .ok item →
      Stands source us [layout item]) :
    Stands source ts (items.map layout) := by
  induction ps generalizing items ts with
  | nil =>
    rw [List.map_eq_nil_iff.1 hread.symm]
    exact .nil
  | cons p ps ih =>
    obtain ⟨item, items, rfl, hitem, hitems⟩ := List.map_eq_cons_iff.1 hread.symm
    cases h with
    | cons hp hps =>
      obtain ⟨hfirst, hrest, hbefore⟩ := laid_append_iff.1 hlaid
      exact (hone p _ item hp hfirst hitem.symm).append (ih hps hrest hitems.symm) hbefore

/-! ## Steps and blocks -/

/-- What a step is given stands below it. -/
theorem Step.Given.stands {argument : Option Tree.Argument} {table : Option Table}
    {docString : Option DocString} (h : Given argument table docString)
    (hspelled : Tree.Argument.Spelled argument ts) (hlaid : Laid source ts) :
    Stands source ts
      ((table.map Table.layout).toList ++ (docString.map DocString.layout).toList) := by
  cases h with
  | nothing => exact .nil
  | table htable =>
    cases hspelled with
    | table _ hrows => exact Table.stands_ofRows hrows hlaid htable
  | string s =>
    cases hspelled with
    | @string _ t hs =>
      have hlayout := Token.layout_of_leaf (Tree.StringNode.leaf_of_ofToken? t s hs).2
      have hstands := hlaid.stands
      rw [List.map_singleton, hlayout] at hstands
      exact hstands

theorem Step.stands_ofNode {owner : Option BlockId} {phase : StepKind} {n : Tree.StepNode}
    {s : Step} (hspelled : n.Spelled ts) (hlaid : Laid source ts)
    (h : ofNode owner phase n = .ok s) : Stands source ts [s.layout] := by
  obtain ⟨table, docString, hgiven, rfl⟩ := ofNode_eq_ok_iff.1 h
  cases hspelled with
  | @intro bare t argument us ht hargument =>
    obtain ⟨hline, hbelow, hbefore⟩ := laid_cons_iff.1 hlaid
    have hlayout : t.layout = .bare (trim bare.literal) ⟨bare.location, bare.span⟩ :=
      Token.layout_of_leaf (Tree.StepNode.leaf_of_ofToken? t bare ht).2
    have hheader := hline.stands
    rw [List.map_singleton, hlayout] at hheader
    have hnode := (hheader.append (hgiven.stands hargument hbelow)
      (List.forall_mem_singleton.2 hbefore)).node none _
    cases hgiven with
    | nothing => exact hnode
    | table _ => exact hnode
    | string _ => exact hnode

theorem Step.stands_ofNodes {owner : Option BlockId} {ns : List Tree.StepNode} {steps : List Step}
    (hspelled : Tree.Sequence Tree.StepNode.Spelled ns ts) (hlaid : Laid source ts)
    (h : ofNodes owner ns = .ok steps) : Stands source ts (steps.map layout) := by
  have hlength : ns.length = (StepKind.phases none (ns.map (·.kind))).length := by
    rw [StepKind.length_phases, List.length_map]
  rw [← List.map_snd_zip (Nat.le_of_eq hlength)] at hspelled
  exact stands_of_sequence Prod.snd layout hspelled hlaid (ofNodes_eq_ok_iff.1 h)
    fun p us s hp hus hs ↦ stands_ofNode hp hus hs

/-- A block is put together from tokens: those of its header, of the free lines below it and of its
parts. It spans all of them but the free lines. -/
inductive Composed (source : Text) :
    List Token → Text → Place → Option Description → List Layout → Prop
  | intro {keyword : Text} {place : Place} {lines : List Tree.TextLine} {parts : List Layout}
    {hs ds us : List Token} :
    Laid source (hs ++ (ds ++ us)) → Stands source hs [.bare keyword place] →
      Tree.Reads Tree.TextLine.ofToken? lines ds → Stands source us parts →
      Composed source (hs ++ (ds ++ us)) keyword
        ⟨place.location, (parts.map Layout.span).foldl Span.join place.span⟩
        (Description.ofLines lines) parts

/-- A header, the description below it and the parts below this make a node. -/
theorem Composed.stands {keyword : Text} {place : Place} {description : Option Description}
    {parts : List Layout} (h : Composed source ts keyword place description parts) :
    Stands source ts [.node keyword place (description.map Description.layout) parts] := by
  cases h with
  | intro hlaid hheader hlines hparts =>
    obtain ⟨-, hbelow, hbefore⟩ := laid_append_iff.1 hlaid
    obtain ⟨hds, -, hbefore'⟩ := laid_append_iff.1 hbelow
    have hdescription := Description.stands_ofLines hlines hds
    exact (hheader.append (hdescription.append hparts hbefore') hbefore).node _ _

/-- The span of a header through the last of some parts is joined from those of all. -/
theorem Stands.foldl_eq_getLast? {α : Type} (layout : α → Layout) {items : List α}
    {keyword : Text} {place : Place} {us : List Token}
    (hheader : Stands source ts [.bare keyword place]) (h : Stands source us (items.map layout))
    (hbefore : ∀ t ∈ ts, ∀ u ∈ us, t.span.Before u.span) :
    ((items.map layout).map Layout.span).foldl Span.join place.span =
      (items.getLast?.map fun i ↦ place.span.join (layout i).span).getD place.span := by
  have hordered := (hheader.append h hbefore).ordered
  rw [List.map_append, List.map_map] at hordered
  rw [List.map_map]
  exact Span.foldl_join_eq_getLast? (Layout.span ∘ layout) hordered

theorem Background.composed_ofNode {n : Tree.BlockNode} {b : Background}
    (hspelled : n.SpelledBackground ts) (hlaid : Laid source ts) (h : ofNode n = .ok b) :
    Composed source ts b.keyword ⟨b.location, b.span⟩ b.description (b.steps.map Step.layout) := by
  obtain ⟨steps, hsteps, rfl⟩ := ofNode_eq_ok_iff.1 h
  cases hspelled with
  | @intro header description nodes t ds ss ht _ hds hss =>
    have hspells : header.Spelled ([] ++ [t]) := .intro nofun ht
    rw [← List.singleton_append] at hlaid ⊢
    obtain ⟨hline, hbelow, hbefore⟩ := laid_append_iff.1 hlaid
    obtain ⟨-, hss', -⟩ := laid_append_iff.1 hbelow
    have hheader := stands_of_header hspells hline
    have hparts := Step.stands_ofNodes hss hss' hsteps
    have hcomposed := Composed.intro hlaid hheader hds hparts
    rw [hheader.foldl_eq_getLast? Step.layout hparts fun t ht u hu ↦
      hbefore t ht u (List.mem_append_right _ hu)] at hcomposed
    exact hcomposed

theorem Background.stands_ofNode {n : Tree.BlockNode} {b : Background}
    (hspelled : n.SpelledBackground ts) (hlaid : Laid source ts) (h : ofNode n = .ok b) :
    Stands source ts [b.layout] := (composed_ofNode hspelled hlaid h).stands

theorem Examples.composed_ofNode {n : Tree.ExamplesNode} {e : Examples} (hspelled : n.Spelled ts)
    (hlaid : Laid source ts) (h : ofNode n = .ok e) :
    Composed source ts e.keyword ⟨e.location, e.span⟩ e.description [e.table.layout] := by
  obtain ⟨table, htable, rfl⟩ := ofNode_eq_ok_iff.1 h
  cases hspelled with
  | intro hhs _ hds hrs =>
    obtain ⟨hline, hbelow, -⟩ := laid_append_iff.1 hlaid
    obtain ⟨-, hrs', -⟩ := laid_append_iff.1 hbelow
    exact .intro hlaid (stands_of_header hhs hline) hds (Table.stands_ofRows hrs hrs' htable)

theorem Examples.stands_ofNode {n : Tree.ExamplesNode} {e : Examples} (hspelled : n.Spelled ts)
    (hlaid : Laid source ts) (h : ofNode n = .ok e) : Stands source ts [e.layout] :=
  (composed_ofNode hspelled hlaid h).stands

theorem Examples.stands_ofNodes {ns : List Tree.ExamplesNode} {examples : List Examples}
    (hspelled : Tree.Sequence Tree.ExamplesNode.Spelled ns ts) (hlaid : Laid source ts)
    (h : ns.map ofNode = examples.map .ok) : Stands source ts (examples.map layout) := by
  rw [← List.map_id ns] at hspelled
  exact stands_of_sequence id layout hspelled hlaid h fun n us e hn hus he ↦
    stands_ofNode hn hus he

theorem Scenario.composed_ofNode {index : Nat} {n : Tree.BlockNode} {s : Scenario}
    (hspelled : n.SpelledScenario ts) (hlaid : Laid source ts) (h : ofNode index n = .ok s) :
    Composed source ts s.keyword ⟨s.location, s.span⟩ s.description
      (s.steps.map Step.layout ++ s.examples.map Examples.layout) := by
  obtain ⟨-, steps, examples, hsteps, hexamples, rfl⟩ := ofNode_eq_ok_iff.1 h
  cases hspelled with
  | @intro header description nodes blocks hs ds ss es hhs _ hds hss hes =>
    obtain ⟨hline, hbelow, hbefore⟩ := laid_append_iff.1 hlaid
    obtain ⟨-, hrest, -⟩ := laid_append_iff.1 hbelow
    obtain ⟨hss', hes', hbefore'⟩ := laid_append_iff.1 hrest
    have hheader := stands_of_header hhs hline
    have hparts := Step.stands_ofNodes hss hss' hsteps
    have hblocks := Examples.stands_ofNodes hes hes' hexamples
    have hcomposed := Composed.intro hlaid hheader hds (hparts.append hblocks hbefore')
    have hlast := hheader.foldl_eq_getLast? Step.layout hparts fun t ht u hu ↦
      hbefore t ht u (List.mem_append_right _ (List.mem_append_left _ hu))
    rw [List.map_append, List.foldl_append, hlast, List.map_map, List.foldl_map] at hcomposed
    exact hcomposed

theorem Scenario.stands_ofNode {index : Nat} {n : Tree.BlockNode} {s : Scenario}
    (hspelled : n.SpelledScenario ts) (hlaid : Laid source ts) (h : ofNode index n = .ok s) :
    Stands source ts [s.layout] := (composed_ofNode hspelled hlaid h).stands

end Nodes

theorem ParsedText.composed_toFeature {p : ParsedText} {f : Feature} {n : Tree.FeatureNode}
    {ts : List Token} (htree : p.tree = .document n) (hspelled : n.Spelled ts)
    (hlaid : Laid p.source ts) (h : p.toFeature = .ok f) :
    Composed p.source ts f.keyword ⟨f.location, f.span⟩ f.description
      (f.background.toList.map Background.layout ++ f.scenarios.map Scenario.layout) := by
  obtain ⟨n', background, scenarios, htree', -, hne, hbackground, hscenarios, rfl⟩ :=
    toFeature_eq_ok_iff.1 h
  cases htree.symm.trans htree'
  cases hspelled with
  | @intro header description back nodes hs ds bs ss hhs _ hds hbs hss =>
    obtain ⟨hline, hbelow, hbefore⟩ := laid_append_iff.1 hlaid
    obtain ⟨-, hrest, -⟩ := laid_append_iff.1 hbelow
    obtain ⟨hbs', hss', hbefore'⟩ := laid_append_iff.1 hrest
    have hheader := stands_of_header hhs hline
    have hfirst : Stands p.source bs (background.toList.map Background.layout) := by
      have hread : back.toList.map Background.ofNode = background.toList.map .ok := by
        rw [← Option.toList_map, ← Option.toList_map, hbackground]
      rw [← List.map_id back.toList] at hbs
      exact stands_of_sequence id Background.layout hbs hbs' hread
        fun n us b hn hus hb ↦ Background.stands_ofNode hn hus hb
    have hblocks : Stands p.source ss (scenarios.map Scenario.layout) := by
      rw [List.mapIdx_eq_zipIdx_map] at hscenarios
      rw [← List.zipIdx_map_fst 0 nodes] at hss
      exact stands_of_sequence Prod.fst Scenario.layout hss hss' hscenarios
        fun n us s hn hus hs ↦ Scenario.stands_ofNode hn hus hs
    have hparts := hfirst.append hblocks hbefore'
    have hcomposed := Composed.intro hlaid hheader hds hparts
    -- a feature has scenarios, so that its last part is one of them
    have hlast : (background.toList.map Background.layout ++
        scenarios.map Scenario.layout).getLast? = scenarios.getLast?.map Scenario.layout := by
      have hne' : scenarios ≠ [] := by
        rintro rfl
        exact hne (List.mapIdx_eq_nil_iff.1 hscenarios)
      rw [List.getLast?_append, List.getLast?_map, List.getLast?_eq_some_getLast hne']
      rfl
    have hall : Stands p.source (bs ++ ss) ((background.toList.map Background.layout ++
        scenarios.map Scenario.layout).map id) := by rwa [List.map_id]
    have hspan := hheader.foldl_eq_getLast? id hall fun t ht u hu ↦
      hbefore t ht u (List.mem_append_right _ hu)
    rw [List.map_id, hlast, Option.map_map] at hspan
    rw [hspan] at hcomposed
    exact hcomposed

theorem ParsedText.stands_toFeature {p : ParsedText} {f : Feature} {n : Tree.FeatureNode}
    {ts : List Token} (htree : p.tree = .document n) (hspelled : n.Spelled ts)
    (hlaid : Laid p.source ts) (h : p.toFeature = .ok f) : Stands p.source ts [f.layout] :=
  (composed_toFeature htree hspelled hlaid h).stands

/-- There is source text at an exact place, and it begins with the keyword. -/
theorem Place.Exact.keyword_prefix_sourceText {f : Feature} {keyword : Text} {p : Place}
    (h : p.Exact f.source keyword) :
    f.sourceText p.span ≠ [] ∧ keyword <+: f.sourceText p.span := by
  obtain ⟨covered, hslice, hne, -, hkeyword⟩ := h.covers
  rw [Feature.sourceText, hslice, Option.getD_some]
  exact ⟨hne, hkeyword⟩

/-- Every node of a document stands where it says, and its source text begins with its keyword. -/
theorem sound_layout_of_parseFeature (options : ParseOptions) (text : Text) (f : Feature)
    (h : parseFeature options text = .ok f) :
    f.source = dropByteOrderMark text ∧ f.layout.Sound f.source ∧
      ∀ l : Layout, l.IsIn f.layout →
        f.sourceText l.span ≠ [] ∧ l.keyword <+: f.sourceText l.span := by
  obtain ⟨language, lexed, n, hlanguage, hlexed, hn, hf⟩ := parseFeature_eq_ok_iff.1 h
  have hlaid := laid_of_ofText (Language.readable_of_find? hlanguage) hlexed
  have hstands := ParsedText.stands_toFeature rfl (Tree.spelled_of_parseFeature hn) hlaid hf
  obtain ⟨_, _, _, -, -, -, -, -, hfeature⟩ := ParsedText.toFeature_eq_ok_iff.1 hf
  have hsource : f.source = dropByteOrderMark text := by rw [hfeature]
  have hsound : f.layout.Sound f.source := by
    rw [hsource]
    exact List.forall_mem_singleton.1 hstands.sound
  exact ⟨hsource, hsound, fun l hl ↦ (hl.sound hsound).exact.keyword_prefix_sourceText⟩

/-- A document with a byte order mark, carriage returns, wide white space and characters of several
bytes. -/
def cafeText : Text :=
  ("\ufeffFeature: Café\r\n\u3000où l'on boit\u3000\r\n\nBackground:\n\t* là\r\n" ++
    "\u3000Scenario Outline: é\n  Given un thé\n   \"\"\"\n  |\n\"\"\" \n" ++
    "@à\nExamples:\n |ß|\r\n |1|\n\n").toList

theorem sound_layout_of_cafeText :
    ∃ f, parseFeature {} cafeText = .ok f ∧
      f.scenarios.map (fun s ↦ (s.location.line, s.location.column, s.steps.map fun s ↦
        f.sourceText s.span)) =
        [(6, 2, ["Given un thé\n   \"\"\"\n  |\n\"\"\"".toList])] ∧
      f.source = dropByteOrderMark cafeText ∧ f.layout.Sound f.source ∧
      ∀ l : Layout, l.IsIn f.layout →
        f.sourceText l.span ≠ [] ∧ l.keyword <+: f.sourceText l.span := by
  have hcode : (declaredLanguage? (dropByteOrderMark cafeText) <|> none).getD
      Language.defaultCode = Language.defaultCode := by decide +kernel
  have hread : (parseFeature {} cafeText).toOption.map (fun f ↦ f.scenarios.map fun s ↦
      (s.location.line, s.location.column, s.steps.map fun s ↦ f.sourceText s.span)) =
      some [(6, 2, ["Given un thé\n   \"\"\"\n  |\n\"\"\"".toList])] := by
    simp only [parseFeature, parse]
    rw [hcode, Language.find?_defaultCode]
    decide +kernel
  obtain ⟨f, h, hplaces⟩ := toOption_map_eq_some_iff.1 hread
  exact ⟨f, h, hplaces, sound_layout_of_parseFeature {} cafeText f h⟩

end Gherkin
