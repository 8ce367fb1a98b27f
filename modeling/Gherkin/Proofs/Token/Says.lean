import Gherkin.Proofs.DocString.Returns
import Gherkin.Proofs.Token.Proper

/-!
# What written lines say

Lines say some tokens, in full or in outline, if reading gives tokens that are the same so far,
wherever the lines stand and whatever follows; in full there is no warning for them. What lines say
one after the other they say together, so that a whole document can be put together from its parts.

Main statement: each sort of token that is proper is said by the lines in which it is written
(`says_tagLines`, `says_headerLine`, `says_step`, `says_text`, `says_rows`, `says_docString`).
-/

namespace Gherkin

open Text (Solid OneLine IsWord isSpace isBlank trim)

/-- The lines say tokens of these kinds, and in full nothing that is worth a warning. -/
structure Says (d : Detail) (l : Language) (lines : List Text) (kinds : List TokenKind) :
    Prop where
  oneLine : ∀ line ∈ lines, OneLine line
  ofChunks : ∀ (path : Option Text) (ls rest : List SourceLine),
    ls.map (·.text) = lines.map SourceLine.chomp →
    ∃ (ts : List Token) (ws : List Warning),
      ts.map (·.kind.upTo d) = kinds.map (·.upTo d) ∧ (d = .full → ws = []) ∧
      Lexed.ofChunks l path (Chunk.ofLines (ls ++ rest)) =
        (Lexed.ofChunks l path (Chunk.ofLines rest)).map fun lexed ↦
          ⟨ts ++ lexed.tokens, ws ++ lexed.warnings⟩

namespace Says

variable {d : Detail} {l : Language} {lines lines' : List Text} {kinds kinds' : List TokenKind}

theorem nil : Says d l [] [] where
  oneLine := by simp
  ofChunks path ls rest h := by
    rw [List.map_eq_nil_iff.1 h]
    refine ⟨[], [], rfl, fun _ ↦ rfl, ?_⟩
    rw [List.nil_append]
    cases Lexed.ofChunks l path (Chunk.ofLines rest) <;> rfl

/-- Lines say together what they say one after the other. -/
theorem append (h : Says d l lines kinds) (h' : Says d l lines' kinds') :
    Says d l (lines ++ lines') (kinds ++ kinds') where
  oneLine line hline := (List.mem_append.1 hline).elim (h.oneLine line) (h'.oneLine line)
  ofChunks path ls rest hls := by
    rw [List.map_append] at hls
    obtain ⟨us, vs, rfl, hus, hvs⟩ := List.map_eq_append_iff.1 hls
    obtain ⟨ts, ws, hts, hws, heq⟩ := h.ofChunks path us (vs ++ rest) hus
    obtain ⟨ts', ws', hts', hws', heq'⟩ := h'.ofChunks path vs rest hvs
    refine ⟨ts ++ ts', ws ++ ws', by rw [List.map_append, List.map_append, hts, hts'],
      fun hd ↦ by rw [hws hd, hws' hd, List.append_nil], ?_⟩
    rw [List.append_assoc, heq, heq']
    cases Lexed.ofChunks l path (Chunk.ofLines rest) <;> simp [Except.map]

theorem flatMap {α : Type} {items : List α} {write : α → List Text} {kinds : α → List TokenKind}
    (h : ∀ item ∈ items, Says d l (write item) (kinds item)) :
    Says d l (items.flatMap write) (items.flatMap kinds) := by
  induction items with
  | nil => exact nil
  | cons item items ih =>
    obtain ⟨hitem, hitems⟩ := List.forall_mem_cons.1 h
    exact hitem.append (ih hitems)

/-- What lines say stands at the front of what they are read as together with others. -/
theorem exists_of_ofChunks (h : Says d l lines kinds) {path : Option Text}
    {ls rest : List SourceLine} (hls : ls.map (·.text) = lines.map SourceLine.chomp)
    {lexed : Lexed} (hlexed : Lexed.ofChunks l path (Chunk.ofLines (ls ++ rest)) = .ok lexed) :
    ∃ (ts : List Token) (others : Lexed), ts.map (·.kind.upTo d) = kinds.map (·.upTo d) ∧
      lexed.tokens = ts ++ others.tokens ∧
      Lexed.ofChunks l path (Chunk.ofLines rest) = .ok others := by
  obtain ⟨ts, ws, hts, -, heq⟩ := h.ofChunks path ls rest hls
  obtain ⟨others, hothers, hjoined⟩ := map_eq_ok_iff.1 (heq.symm.trans hlexed)
  exact ⟨ts, others, hts, congrArg (·.tokens) hjoined.symm, hothers⟩

end Says

/-! ## Single lines -/

section Lines

variable {d : Detail} {l : Language}

/-- Lines that are read together say what their chunk says. -/
theorem says_of_chunk {lines : List Text} {kinds : List TokenKind}
    (hone : ∀ line ∈ lines, OneLine line)
    (h : ∀ (path : Option Text) (ls rest : List SourceLine),
      ls.map (·.text) = lines.map SourceLine.chomp →
      ∃ c ts ws, Chunk.ofLines (ls ++ rest) = c :: Chunk.ofLines rest ∧
        ts.map (·.kind.upTo d) = kinds.map (·.upTo d) ∧ (d = .full → ws = []) ∧
        Lexed.ofChunk l path c = .ok ⟨ts, ws⟩) :
    Says d l lines kinds where
  oneLine := hone
  ofChunks path ls rest hls := by
    obtain ⟨c, ts, ws, hchunk, hkinds, hws, hlexed⟩ := h path ls rest hls
    refine ⟨ts, ws, hkinds, hws, ?_⟩
    rw [hchunk, Lexed.ofChunks, hlexed]
    cases Lexed.ofChunks l path (Chunk.ofLines rest) <;> rfl

/-- A line that is read alone says what its chunk says, which depends on its content only. -/
theorem says_of_line {line content : Text} {kinds : List TokenKind} (hone : OneLine line)
    (htrim : trim line = content)
    (h : ∀ (path : Option Text) (s : SourceLine) (rest : List SourceLine), s.content = content →
      ∃ c ts, Chunk.ofLines (s :: rest) = c :: Chunk.ofLines rest ∧
        ts.map (·.kind.upTo d) = kinds.map (·.upTo d) ∧
        Lexed.ofChunk l path c = .ok ⟨ts, []⟩) :
    Says d l [line] kinds := by
  refine says_of_chunk (fun line' hline ↦ by rwa [List.mem_singleton.1 hline]) ?_
  intro path ls rest hls
  obtain ⟨s, rfl, hs⟩ := List.map_eq_singleton_iff.1 hls
  have hcontent : s.content = content := by
    rw [SourceLine.content, hs, SourceLine.trim_chomp, htrim]
  obtain ⟨c, ts, hchunk, hkinds, hlexed⟩ := h path s rest hcontent
  exact ⟨c, ts, [], hchunk, hkinds, fun _ ↦ rfl, hlexed⟩

/-- The content of a line that says nothing, as the line is blank or a comment. -/
def Silent (content : Text) : Prop := content = [] ∨ content.head? = some '#'

theorem says_silent {line : Text} (hone : OneLine line) (h : Silent (trim line)) :
    Says d l [line] [] := by
  refine says_of_line hone rfl fun path s rest hcontent ↦ ?_
  by_cases hnil : s.content = []
  · exact ⟨.blank s, [], by rw [Chunk.ofLines, if_pos hnil], rfl, rfl⟩
  · have hcomment : s.content.head? = some '#' := hcontent ▸ h.resolve_left (hcontent ▸ hnil)
    exact ⟨.comment s, [], by rw [Chunk.ofLines, if_neg hnil, if_pos hcomment], rfl, rfl⟩

theorem says_silentLines {lines : List Text} (hone : ∀ line ∈ lines, OneLine line)
    (h : ∀ line ∈ lines, Silent (trim line)) : Says d l lines [] := by
  induction lines with
  | nil => exact .nil
  | cons line lines ih =>
    obtain ⟨hline, hlines⟩ := List.forall_mem_cons.1 hone
    obtain ⟨hsilent, hsilents⟩ := List.forall_mem_cons.1 h
    exact (says_silent hline hsilent).append (ih hlines hsilents)

theorem says_blank : Says d l [[]] [] :=
  says_silent (fun _ hc ↦ absurd hc List.not_mem_nil) (.inl rfl)

theorem says_comment {comment : Text} (hone : OneLine ('#' :: comment))
    (hsolid : Solid ('#' :: comment)) : Says d l ['#' :: comment] [] :=
  says_silent hone (.inr (by rw [hsolid.trim_eq, List.head?_cons]))

/-- A line that speaks for itself says what its content says. -/
theorem says_single {line content : Text} {kind kind' : TokenKind} (hone : OneLine line)
    (htrim : trim line = content) (hspeaks : Speaks content)
    (hclassify : Token.classify l content = .ok kind') (hkind : kind'.upTo d = kind.upTo d) :
    Says d l [line] [kind] := by
  refine says_of_line hone htrim fun path s rest hcontent ↦ ?_
  refine ⟨.single s, [Token.ofLine path s kind'], ?_, congrArg ([·]) hkind, ?_⟩
  · rw [Chunk.ofLines, hcontent, if_neg hspeaks.ne_nil, if_neg hspeaks.no_comment]
    split
    · rfl
    · next d hd =>
      rw [hspeaks.no_string] at hd
      cases hd
  · rw [Lexed.ofChunk, hcontent, hclassify]

/-- The same for a line at an indentation. -/
theorem says_indented {content : Text} {kind kind' : TokenKind} (indent : Nat)
    (hone : OneLine content) (hsolid : Solid content) (hspeaks : Speaks content)
    (hclassify : Token.classify l content = .ok kind') (hkind : kind'.upTo d = kind.upTo d) :
    Says d l [indented indent content] [kind] :=
  says_single ((Text.oneLine_blanks indent).append hone)
    (Text.trim_append (Text.isBlank_blanks indent) hsolid) hspeaks hclassify hkind

/-- A line that does not begin like a comment or a string speaks for itself. -/
theorem speaks_cons {c : Char} (hcomment : c ≠ '#') (hquotes : c ≠ '"') (hgraves : c ≠ '\x60')
    (t : Text) : Speaks (c :: t) where
  ne_nil := List.cons_ne_nil c t
  no_comment := by simpa using hcomment
  no_string := by
    simp [Delimiter.opening?, Text.startsWith, Delimiter.mark, Delimiter.char, Text.afterPrefix?,
      Ne.symm hquotes, Ne.symm hgraves]

theorem speaks_of_opensLine {literal : Text} (h : opensLine literal) (t : Text) :
    Speaks (literal ++ t) ∧ (literal ++ t).head? ≠ some '|' ∧ (literal ++ t).head? ≠ some '@' ∧
      (literal ++ t).head?.all fun c ↦ !isSpace c := by
  cases literal with
  | nil => cases h
  | cons c literal =>
    simp only [opensLine, List.head?_cons, Option.any_some, Bool.and_eq_true,
      decide_eq_true_eq, List.mem_cons, not_or] at h
    obtain ⟨hspace, hcomment, hbar, hat, hquotes, hgraves, -⟩ := h
    exact ⟨speaks_cons hcomment hquotes hgraves _, by simpa using hbar, by simpa using hat, hspace⟩

theorem opensLine_ne_nil {literal : Text} (h : opensLine literal) : literal ≠ [] := by
  rintro rfl
  cases h

/-- A written header is read as what it was written from. -/
theorem readsAs_headerLine (hl : l.Readable d) {kind : BlockKind} {keyword name : Text}
    (h : (TokenKind.block kind keyword name).Proper d l) :
    ReadsAs l (headerLine keyword name) (.block kind keyword name) := by
  obtain ⟨hfind, hname, hone⟩ := h
  have hb : (⟨keyword, kind⟩ : BlockKeyword) ∈ l.blocks := List.mem_of_find?_eq_some hfind
  have hopens := hl.block_opens _ hb
  obtain ⟨rest, hrest, hline, hlast, hfeed⟩ : ∃ rest, trim rest = name ∧
      headerLine keyword name = keyword ++ ':' :: rest ∧
      ((':' :: rest).getLast?.all fun c ↦ !isSpace c) ∧ OneLine (':' :: rest) := by
    cases name with
    | nil => exact ⟨[], rfl, rfl, rfl, by decide⟩
    | cons c name =>
      refine ⟨' ' :: c :: name, Text.trim_append (a := [' ']) rfl hname, by simp [headerLine],
        ?_, ?_⟩
      · rw [List.getLast?_cons_cons, List.getLast?_cons_cons]
        exact hname.last
      · have hsep : OneLine [':', ' '] := by decide
        exact hsep.append hone
  obtain ⟨hspeaks, hbar, hat, hhead⟩ := speaks_of_opensLine hopens (':' :: rest)
  have hhead' : keyword.head?.all fun c ↦ !isSpace c := (hl.block_solid _ hb).head
  rw [hline]
  refine ⟨.append hhead' (opensLine_ne_nil hopens) hlast (List.cons_ne_nil _ _),
    (hl.block_oneLine _ hb).append hfeed, hspeaks, ?_⟩
  rw [classify_of_head hbar hat, Language.readHeader?_of_find? hl hfind hrest]

theorem says_headerLine (hl : l.Readable d) {kind : BlockKind} {keyword name : Text}
    (h : (TokenKind.block kind keyword name).Proper d l) (indent : Nat) :
    Says d l [indented indent (headerLine keyword name)] [.block kind keyword name] :=
  have hreads := readsAs_headerLine hl h
  says_indented indent hreads.oneLine hreads.solid hreads.speaks hreads.classify_eq rfl

/-- A keyword with a body that is not blank is read as a step, and in full as one with this keyword
and the body without the white space around it. -/
theorem says_stepLine (hl : l.Readable d) {kind : StepKind} {literal body : Text}
    (hk : ⟨literal, kind⟩ ∈ l.steps) (hone : OneLine body) (hbody : ¬isBlank body) (indent : Nat) :
    Says d l [indented indent (literal ++ body)] [.step kind literal (trim body)] := by
  have hopens := hl.step_opens _ hk
  obtain ⟨a, b, ha, hb, htrim⟩ := Text.exists_eq_append_trim_append body
  have hsolid := Text.solid_trim body
  have hne : trim body ≠ [] := fun hnil ↦ hbody (Text.isBlank_iff_trim_eq_nil.2 hnil)
  have hread : ¬isBlank (a ++ trim body) := by
    rw [Text.isBlank_append, Text.isBlank_iff_trim_eq_nil (t := trim body), hsolid.trim_eq]
    exact fun hboth ↦ hne hboth.2
  obtain ⟨hspeaks, hbar, hat, hhead⟩ := speaks_of_opensLine hopens (a ++ trim body)
  obtain ⟨s, hs, hkind⟩ := Language.exists_readStep?_append hl hk hread
  rw [Text.trim_append ha hsolid] at hkind
  have hcontent : Solid (literal ++ (a ++ trim body)) := by
    refine ⟨hhead, ?_⟩
    rw [← List.append_assoc, List.getLast?_append, List.getLast?_eq_some_getLast hne,
      Option.some_or, ← List.getLast?_eq_some_getLast hne]
    exact hsolid.last
  have hline : indented indent (literal ++ body) =
      Text.blanks indent ++ (literal ++ (a ++ trim body)) ++ b := by
    rw [indented, List.append_assoc, List.append_assoc, List.append_assoc, ← htrim]
  refine says_single ((Text.oneLine_blanks indent).append ((hl.step_oneLine _ hk).append hone))
    ?_ hspeaks ?_ hkind
  · rw [hline, List.append_assoc,
      Text.trim_append_append (Text.isBlank_blanks indent) hcontent hb]
  · rw [classify_of_head hbar hat, Language.readHeader?_eq_none hl hk]
    simp only [hs]

/-- A written step is read as a step, and in full as what it was written from. -/
theorem says_step (hl : l.Readable d) {kind : StepKind} {literal body : Text}
    (h : (TokenKind.step kind literal body).Proper d l) (indent : Nat) :
    Says d l [indented indent (literal ++ body)] [.step kind literal body] := by
  obtain ⟨hk, hbody, hone, hne⟩ := h
  have hnot : ¬isBlank body := by
    rwa [Text.isBlank_iff_trim_eq_nil, hbody.trim_eq]
  have hsays := says_stepLine hl hk hone hnot indent
  rwa [hbody.trim_eq] at hsays

theorem says_text {line : Text} (h : (TokenKind.text line).Proper d l) (indent : Nat) :
    Says d l [indented indent line] [.text line] :=
  says_indented indent h.2.1 h.1 h.2.2.1 h.2.2.2 rfl

theorem readTags_map {names : List Text} (h : ∀ name ∈ names, IsWord name) :
    readTags (names.map ('@' :: ·)) = .ok names := by
  induction names with
  | nil => rfl
  | cons name names ih =>
    obtain ⟨hname, hnames⟩ := List.forall_mem_cons.1 h
    cases name with
    | nil => exact absurd rfl hname.1
    | cons c name =>
      rw [List.map_cons, readTags, ih hnames]
      rfl

theorem isWord_cons_at {name : Text} (h : IsWord name) : IsWord ('@' :: name) :=
  ⟨List.cons_ne_nil _ _, List.forall_mem_cons.2 ⟨rfl, h.2⟩⟩

/-- The line of tags begins with a sign and ends with a name. -/
theorem join_tags {name : Text} {names : List Text} (h : ∀ n ∈ name :: names, IsWord n) :
    ∃ t, Text.join [' '] ((name :: names).map ('@' :: ·)) = '@' :: t ∧ Solid ('@' :: t) ∧
      OneLine ('@' :: t) := by
  have hwords : ∀ word ∈ (name :: names).map ('@' :: ·), IsWord word := by
    intro word hword
    obtain ⟨n, hn, rfl⟩ := List.mem_map.1 hword
    exact isWord_cons_at (h n hn)
  obtain ⟨t, ht⟩ : ∃ t, Text.join [' '] ((name :: names).map ('@' :: ·)) = '@' :: t := by
    cases names with
    | nil => exact ⟨name, by simp [Text.join]⟩
    | cons next names => exact ⟨_, Text.join_cons_cons _ _ _⟩
  exact ⟨t, ht, ht ▸ Text.solid_join hwords, ht ▸ Text.oneLine_join hwords⟩

/-- Written tags are read as one run of tags; where there are none nothing is written. -/
theorem says_tagLines {names : List Text}
    (h : ∀ leaf ∈ Tree.tagLeaves names, leaf.kind.Proper d l) (indent : Nat) :
    Says d l ((tagLines names).map (indented indent)) ((Tree.tagLeaves names).map (·.kind)) := by
  cases names with
  | nil => exact .nil
  | cons name names =>
    obtain ⟨-, hnodup, htags⟩ : (TokenKind.tags (name :: names)).Proper d l :=
      h _ List.mem_cons_self
    have hwords : Text.words (Text.join [' '] ((name :: names).map ('@' :: ·))) =
        (name :: names).map ('@' :: ·) := by
      refine Text.words_join fun word hword ↦ ?_
      obtain ⟨n, hn, rfl⟩ := List.mem_map.1 hword
      exact isWord_cons_at (htags n hn)
    obtain ⟨t, ht, hsolid, hone⟩ := join_tags htags
    have hclassify : Token.classify l ('@' :: t) = .ok (.tags (name :: names)) := by
      rw [Token.classify, ← ht, hwords, readTags_map htags]
      exact congrArg (fun ns ↦ Except.ok (TokenKind.tags ns)) (eraseDups_of_nodup hnodup)
    have hline : (tagLines (name :: names)).map (indented indent) =
        [indented indent ('@' :: t)] := by
      rw [← ht]
      rfl
    rw [hline]
    exact says_indented indent hone hsolid (speaks_cons (by decide) (by decide) (by decide) t)
      hclassify rfl

theorem says_row {widths : List Nat} {cells : List Text} (hwidths : widths.length = cells.length)
    (h : (TokenKind.row cells).Proper d l) (indent : Nat) :
    Says d l [indented indent (rowLine widths (cells.map Cell.escape))] [.row cells] := by
  refine says_indented indent (Cell.oneLine_rowLine widths cells) (Cell.solid_rowLine widths _)
    (speaks_cons (by decide) (by decide) (by decide) _) ?_ rfl
  rw [rowLine, Token.classify, Cell.ofRow?_rowLine hwidths h]

/-- Written rows are read as rows of the same cells, however wide the columns are. -/
theorem says_rows {rows : List (List Text)} {widths : List Nat}
    (hwidths : ∀ row ∈ rows, widths.length = row.length)
    (h : ∀ row ∈ rows, (TokenKind.row row).Proper d l) (indent : Nat) :
    Says d l ((rows.map fun row ↦ rowLine widths (row.map Cell.escape)).map (indented indent))
      (rows.map .row) := by
  rw [List.map_map, List.map_eq_flatMap, List.map_eq_flatMap]
  exact .flatMap fun row hrow ↦ says_row (hwidths row hrow) (h row hrow) indent

/-! ## Multiline strings -/

/-- The opening line of a string gives its delimiter and the type of its content. -/
theorem opening_mark_append (delimiter : Delimiter) {type : Option Text}
    (h : ∀ label ∈ type, label ≠ [] ∧ Solid label ∧ OneLine label) :
    Delimiter.opening? (delimiter.mark ++ type.getD []) = some delimiter ∧
      delimiter.contentType? (delimiter.mark ++ type.getD []) = type ∧
      Solid (delimiter.mark ++ type.getD []) ∧ OneLine (delimiter.mark ++ type.getD []) := by
  have hopening (label : Text) :
      Delimiter.opening? (delimiter.mark ++ label) = some delimiter := by
    cases delimiter <;> rfl
  have hone : OneLine delimiter.mark := by cases delimiter <;> decide
  have hsolid : Solid delimiter.mark := by cases delimiter <;> decide
  cases type with
  | none =>
    rw [Option.getD_none, List.append_nil]
    exact ⟨by cases delimiter <;> rfl, by cases delimiter <;> rfl, hsolid, hone⟩
  | some label =>
    obtain ⟨hne, hlabel, hlabelOne⟩ := h label rfl
    refine ⟨hopening label, ?_, .append hsolid.head delimiter.mark_ne_nil hlabel.last hne,
      hone.append hlabelOne⟩
    rw [Delimiter.contentType?, Option.getD_some, List.drop_left, hlabel.trim_eq]
    exact if_neg (by simpa using hne)

/-- What is read of a line that was written at an indentation. -/
theorem content_of_indented {line : SourceLine} {content : Text} {indent : Nat}
    (h : line.text = SourceLine.chomp (indented indent content)) (hsolid : Solid content)
    (hne : content ≠ []) : line.content = content ∧ line.indent = indent := by
  have htake : content.takeWhile isSpace = [] := by
    cases content with
    | nil => rfl
    | cons c content => exact List.takeWhile_cons_of_neg (by simpa using hsolid.head)
  have hlast : (indented indent content).getLast?.all fun c ↦ !isSpace c := by
    have hcontent := hsolid.last
    rw [List.getLast?_eq_some_getLast hne] at hcontent
    rwa [indented, List.getLast?_append, List.getLast?_eq_some_getLast hne, Option.some_or]
  rw [SourceLine.chomp_of_last hlast] at h
  constructor
  · rw [SourceLine.content, h]
    exact Text.trim_append (Text.isBlank_blanks indent) hsolid
  · rw [SourceLine.indent, h, Text.leading, indented, Text.blanks,
      List.takeWhile_append_of_pos (by simp [isSpace]), htake, List.append_nil,
      List.length_replicate]

theorem DocString.oneLine_lines {s : DocString}
    (h : ∀ label ∈ s.contentType, label ≠ [] ∧ Solid label ∧ OneLine label) (indent : Nat) :
    ∀ line ∈ s.lines indent, OneLine line := by
  obtain ⟨-, -, -, hone⟩ := opening_mark_append s.delimiter h
  have hmark : OneLine s.delimiter.mark := by cases s.delimiter <;> decide
  intro line hline
  simp only [DocString.lines, List.mem_append, List.mem_singleton] at hline
  rcases hline with (rfl | hline) | rfl
  · exact (Text.oneLine_blanks indent).append hone
  · exact (DocString.of_mem_contentLines hline).1
  · exact (Text.oneLine_blanks indent).append hmark

/-- The lines of a written multiline string are one chunk, which is opened at the indentation and
holds the lines that were written for the content. -/
theorem DocString.exists_chunk {s : DocString}
    (h : ∀ label ∈ s.contentType, label ≠ [] ∧ Solid label ∧ OneLine label) {indent : Nat}
    {ls : List SourceLine} (hls : ls.map (·.text) = (s.lines indent).map SourceLine.chomp)
    (rest : List SourceLine) : ∃ (opening : SourceLine) (body : List SourceLine)
      (closing : SourceLine), opening.indent = indent ∧
      s.delimiter.contentType? opening.content = s.contentType ∧
      body.map (·.text) =
        (contentLines s.delimiter indent s.content).map SourceLine.chomp ∧
      Chunk.ofLines (ls ++ rest) =
        .string s.delimiter opening body closing :: Chunk.ofLines rest := by
  obtain ⟨hopening, hlabel, hsolid, -⟩ := opening_mark_append s.delimiter h
  have hmark : Solid s.delimiter.mark := by cases s.delimiter <;> decide
  rw [DocString.lines, List.append_assoc, List.singleton_append, List.map_cons,
    List.map_append] at hls
  obtain ⟨opening, ls', rfl, htext, hls'⟩ := List.map_eq_cons_iff.1 hls
  obtain ⟨body, ends, rfl, htexts, hends⟩ := List.map_eq_append_iff.1 hls'
  obtain ⟨closing, rfl, hclosing⟩ := List.map_eq_singleton_iff.1 hends
  obtain ⟨hcontent, hindent⟩ := content_of_indented htext hsolid (List.cons_ne_nil _ _)
  obtain ⟨hmarkContent, -⟩ := content_of_indented hclosing hmark s.delimiter.mark_ne_nil
  have hopen : ∀ line ∈ body, s.delimiter.closes line = false := by
    intro line hline
    have hmem : line.text ∈
        (contentLines s.delimiter indent s.content).map SourceLine.chomp :=
      htexts ▸ List.mem_map_of_mem hline
    obtain ⟨written, hwritten, heq⟩ := List.mem_map.1 hmem
    refine decide_eq_false ?_
    rw [SourceLine.content, ← heq, SourceLine.trim_chomp]
    exact (DocString.of_mem_contentLines hwritten).2
  refine ⟨opening, body, closing, hindent, hcontent ▸ hlabel, htexts, ?_⟩
  rw [List.cons_append, List.append_assoc, List.singleton_append]
  exact Chunk.ofLines_string (hcontent ▸ hopening) hopen (decide_eq_true hmarkContent) rest

/-- No written content line is worth a warning. -/
theorem ofBody_eq_nil_of_written {delimiter : Delimiter} {content : Text} {indent : Nat}
    {body : List SourceLine} (h : body.map (·.text) = contentLines delimiter indent content)
    (path : Option Text) : Warning.ofBody path indent body = [] := by
  rw [Warning.ofBody, List.map_eq_nil_iff, List.filter_eq_nil_iff]
  intro line hline
  rw [DocString.not_isShallow_of_mem_contentLines (h ▸ List.mem_map_of_mem hline)]
  exact Bool.false_ne_true

/-- A written multiline string is read as one, and in full without the carriage returns at the end
of its lines. -/
theorem says_chompedString {s : DocString}
    (htype : ∀ label ∈ s.contentType, label ≠ [] ∧ Solid label ∧ OneLine label)
    (hkept : d = .full → DocString.Kept s.delimiter s.content) (indent : Nat) :
    Says d l (s.lines indent)
      [.docString s.delimiter s.contentType (DocString.chomped s.content)] := by
  refine says_of_chunk (DocString.oneLine_lines htype indent) fun path ls rest hls ↦ ?_
  obtain ⟨opening, body, closing, hindent, hlabel, htexts, hchunk⟩ :=
    DocString.exists_chunk htype hls rest
  refine ⟨_, [Token.ofString path s.delimiter opening body closing],
    Warning.ofBody path opening.indent body, hchunk, ?_, fun hd ↦ ?_, rfl⟩
  · cases d with
    | outline => rfl
    | full =>
      rw [List.map_singleton, List.map_singleton, Token.ofString, hindent, htexts, hlabel,
        (hkept rfl).map_chomp_contentLines,
        DocString.assemble_contentLines (hkept rfl).chomped]
  · rw [(hkept hd).map_chomp_contentLines] at htexts
    rw [hindent]
    exact ofBody_eq_nil_of_written htexts path

/-- A written multiline string is read as one, and in full as what it was written from. -/
theorem says_docString {s : DocString}
    (h : (TokenKind.docString s.delimiter s.contentType s.content).Proper d l) (indent : Nat) :
    Says d l (s.lines indent) [.docString s.delimiter s.contentType s.content] := by
  obtain ⟨htype, hproper⟩ := h
  have hstring := says_chompedString (d := d) (l := l) htype (fun hd ↦ (hproper hd).kept) indent
  cases d with
  | outline => exact ⟨hstring.oneLine, hstring.ofChunks⟩
  | full => rwa [(hproper rfl).chomped_eq_self] at hstring

/-- A document of lines that say some tokens has these tokens, and in full no warnings. -/
theorem Says.exists_ofText_upTo {lines : List Text} {kinds : List TokenKind}
    (h : Says d l lines kinds) (path : Option Text) : ∃ (ts : List Token) (ws : List Warning),
      ts.map (·.kind.upTo d) = kinds.map (·.upTo d) ∧ (d = .full → ws = []) ∧
      Lexed.ofText l path (Text.unlines lines) = .ok ⟨ts, ws⟩ := by
  have hlines := SourceLine.map_text_ofText_unlines h.oneLine
  have hblank : [([] : Text)] = [[]].map SourceLine.chomp := rfl
  rw [hblank, ← List.map_append] at hlines
  obtain ⟨ts, ws, hts, hws, heq⟩ := (h.append says_blank).ofChunks path _ [] hlines
  refine ⟨ts, ws, by rw [hts, List.append_nil], hws, ?_⟩
  rw [Lexed.ofText, ← List.append_nil (SourceLine.ofText _), heq, Chunk.ofLines, Lexed.ofChunks,
    Except.map, List.append_nil, List.append_nil]

theorem Says.exists_ofText {lines : List Text} {kinds : List TokenKind}
    (h : Says .full l lines kinds) (path : Option Text) : ∃ ts : List Token,
      ts.map (·.kind.upTo .full) = kinds.map (·.upTo .full) ∧
      Lexed.ofText l path (Text.unlines lines) = .ok ⟨ts, []⟩ := by
  obtain ⟨ts, ws, hts, hws, hread⟩ := h.exists_ofText_upTo path
  exact ⟨ts, hts, hws rfl ▸ hread⟩

end Lines

end Gherkin
