import Gherkin.Proofs.Feature.Outline
import Gherkin.Proofs.Feature.ResolvedStep
import Gherkin.Proofs.Feature.SingleStep
import Gherkin.Proofs.Token.Counted

/-!
# Resolved steps that are written and read again

The values of a row are filled into a step after it was read, so a resolved step may hold what no
line of a document spells: line feeds in its body, white space at the edges of its cells, delimiters
in its string. It is read again as it is exactly if none of this gets in the way.

Main statement: `rendersToItself_iff_legible`.
-/

namespace Gherkin

open Text (Solid OneLine isBlank isSpace trim)

/-- The written step is read as a single step with the same sentence, rows and content. -/
def Step.RendersToItself (s : Step) : Prop :=
  ∃ s', parseSteps {} s.display = .ok [s'] ∧ s'.sentence = s.sentence ∧
    s'.table.map (·.rows) = s.table.map (·.rows) ∧
    s'.docString.map (·.content) = s.docString.map (·.content)

/-- The lines of the step can be told apart. Of its body only the first line says anything, and the
sentence is made of that line; its cells have no white space at their edges but for line feeds; and
its string is made of content lines. -/
structure Step.Legible (s : Step) : Prop where
  body : ∃ first rest, Text.splitLines s.text = first :: rest ∧ ¬isBlank first ∧
    s.sentence = sentenceOfLine (s.literal ++ trim first) ∧ ∀ line ∈ rest, Silent (trim line)
  cells : ∀ t ∈ s.table, ∀ row ∈ t.rows, ∀ cell ∈ row, Solid (Cell.escape cell)
  content : ∀ d ∈ s.docString, DocString.Proper d.delimiter d.content

/-- A step whose parts could be written down and read again is legible. -/
theorem Step.Proper.legible {l : Language} {s : Step} (h : s.Proper l)
    (hsentence : s.sentence = sentenceOfLine (s.literal ++ s.text)) : s.Legible where
  body := by
    obtain ⟨-, hsolid, hone, hne⟩ := h.line
    refine ⟨s.text, [], ?_, ?_, by rw [hsolid.trim_eq, hsentence], nofun⟩
    · exact List.splitOnP_eq_singleton fun c hc ↦ beq_false_of_ne (hone c hc)
    · rwa [Text.isBlank_iff_trim_eq_nil, hsolid.trim_eq]
  cells t ht row hrow := h.rows t ht row hrow
  content d hd := (h.string d hd).2 rfl

def Step.argumentLines (s : Step) : List Text :=
  ((s.table.map Table.lines).getD []).map (indented indentStep) ++
    (s.docString.map (DocString.lines indentStep)).getD []

/-- Without a string the lines below the body are those of the rows. -/
theorem Step.exists_argumentLines_eq (s : Step) (hd : s.docString = none) :
    ∃ widths, s.argumentLines = ((s.table.map (·.rows)).getD []).map fun row ↦
      indented indentStep (rowLine widths (row.map Cell.escape)) := by
  rw [argumentLines, hd, Option.map_none, Option.getD_none, List.append_nil]
  cases s.table with
  | none => exact ⟨[], rfl⟩
  | some t =>
    rw [Option.map_some, Option.getD_some, t.lines_eq, List.map_map]
    exact ⟨_, rfl⟩

theorem Step.display_eq {s : Step} {first : Text} {rest : List Text}
    (h : Text.splitLines s.text = first :: rest) :
    s.display = Text.unlines ((s.literal ++ first) :: (rest ++ s.argumentLines)) := by
  have htext : Text.unlines (first :: rest) = s.text ++ ['\n'] := by
    rw [← h, Text.unlines_splitLines]
  calc
    s.display = s.literal ++ (s.text ++ ['\n']) ++ Text.unlines s.argumentLines := by
      simp [display, lines, argumentLines, Text.unlines, indented_zero]
    _ = Text.unlines ((s.literal ++ first) :: (rest ++ s.argumentLines)) := by
      rw [← htext]
      simp [Text.unlines]

theorem oneLine_of_splitLines {t first : Text} {rest : List Text}
    (h : Text.splitLines t = first :: rest) : OneLine first ∧ ∀ line ∈ rest, OneLine line := by
  have hone : ∀ line ∈ first :: rest, OneLine line :=
    fun line hline c hc heq ↦ (Text.not_mem_of_mem_splitLines (h ▸ hline)).1 (heq ▸ hc)
  exact List.forall_mem_cons.1 hone

theorem Step.Shaped.oneLine_argumentLines {l : Language} {s : Step} (hs : s.Shaped l) :
    ∀ line ∈ s.argumentLines, OneLine line := by
  intro line hline
  rcases List.mem_append.1 hline with hline | hline
  · obtain ⟨row, hrow, rfl⟩ := List.mem_map.1 hline
    refine (Text.oneLine_blanks indentStep).append ?_
    cases ht : s.table with
    | none => rw [ht] at hrow; cases hrow
    | some t =>
      rw [ht, Option.map_some, Option.getD_some, t.lines_eq] at hrow
      obtain ⟨cells, -, rfl⟩ := List.mem_map.1 hrow
      exact Cell.oneLine_rowLine _ cells
  · cases hd : s.docString with
    | none => rw [hd] at hline; cases hline
    | some d =>
      rw [hd, Option.map_some, Option.getD_some] at hline
      exact DocString.oneLine_lines (hs.type d hd) indentStep line hline

theorem Step.Shaped.oneLine_lines {l : Language} (hl : l.Legible) {s : Step} (hs : s.Shaped l)
    {first : Text} {rest : List Text} (h : Text.splitLines s.text = first :: rest) :
    ∀ line ∈ (s.literal ++ first) :: (rest ++ s.argumentLines), OneLine line := by
  obtain ⟨hfirst, hrest⟩ := oneLine_of_splitLines h
  exact List.forall_mem_cons.2 ⟨(hl.step_oneLine _ hs.keyword).append hfirst,
    List.forall_mem_append.2 ⟨hrest, hs.oneLine_argumentLines⟩⟩

/-- A written step begins with its keyword, and so it names no language. -/
theorem Step.Shaped.languageOf?_display {s : Step} (hs : s.Shaped .english) :
    dropByteOrderMark s.display = s.display ∧ languageOf? {} s.display = some .english := by
  have hl := Language.legible_english
  obtain ⟨first, rest, hlines⟩ := Text.exists_splitLines s.text
  have hone := hs.oneLine_lines hl hlines
  have hopens := hl.step_opens _ hs.keyword
  rw [display_eq hlines]
  cases hliteral : s.literal with
  | nil =>
    rw [hliteral] at hopens
    cases hopens
  | cons c t =>
    rw [hliteral] at hone
    simp only [hliteral, opensLine, List.head?_cons, Option.any_some, Bool.and_eq_true,
      Bool.not_eq_true', decide_eq_true_eq, List.mem_cons, not_or] at hopens
    obtain ⟨hspace, hcomment, -, -, -, -, hmark, -⟩ := hopens
    refine ⟨dropByteOrderMark_of_ne hmark _, ?_⟩
    have hnone : declaredLanguage?
        (Text.unlines ((c :: t ++ first) :: (rest ++ s.argumentLines))) = none :=
      declaredLanguage?_eq_none hone hspace hcomment
    rw [languageOf?, hnone]
    exact Language.find?_defaultCode

/-- What is given to a legible step is read again. -/
theorem says_argumentLines {d : Detail} {l : Language} {s : Step} (hs : s.Shaped l)
    (h : s.Legible) : ∃ kinds,
      SaysArgument (s.table.map (·.rows)) (s.docString.map (·.content)) kinds ∧
        Says d l s.argumentLines kinds := by
  rw [Step.argumentLines]
  cases ht : s.table with
  | none =>
    cases hd : s.docString with
    | none => exact ⟨[], .nothing, .nil⟩
    | some string =>
      exact ⟨_, .string string.delimiter string.contentType string.content,
        says_docString ⟨hs.type string hd, fun _ ↦ h.content string hd⟩ indentStep⟩
  | some t =>
    have hd : s.docString = none := hs.one_argument.resolve_left (by rw [ht]; exact nofun)
    obtain ⟨hne, hwidth⟩ := hs.rectangular t ht
    rw [hd]
    refine ⟨_, .table hne hwidth, ?_⟩
    rw [Option.map_none, Option.getD_none, List.append_nil]
    exact says_tableLines hwidth (h.cells t ht) indentStep

theorem Step.Legible.rendersToItself {s : Step} (hs : s.Shaped .english) (h : s.Legible) :
    s.RendersToItself := by
  have hl := Language.legible_english
  obtain ⟨hmark, hlanguage⟩ := hs.languageOf?_display
  obtain ⟨first, rest, hlines, hfirst, hsentence, hrest⟩ := h.body
  obtain ⟨hone, hones⟩ := oneLine_of_splitLines hlines
  obtain ⟨kinds, hgiven, hargument⟩ := says_argumentLines (d := .full) hs h
  have hstep := says_stepLine hl hs.keyword hone hfirst 0
  have hsilent : Says .full .english rest [] := says_silentLines hones hrest
  have hsays := hstep.append (hsilent.append hargument)
  obtain ⟨ts, hts, hread⟩ := hsays.exists_ofText none
  rw [indented_zero, List.singleton_append, ← display_eq hlines] at hread
  simp only [TokenKind.upTo_full, List.map_id', List.nil_append, List.singleton_append] at hts
  refine (exists_parseSteps_singleton_iff (hmark.symm ▸ hlanguage)).2 ⟨⟨ts, []⟩, ?_, ?_⟩
  · rw [hmark]
    exact hread
  · rw [hts]
    exact .intro hsentence hgiven

/-! ## Steps that are read again -/

/-- An English keyword without a body is no step. -/
theorem keyword_alone : ∀ k ∈ Language.english.steps, opensLine (trim k.literal) ∧
    Language.english.readHeader? (trim k.literal) = none ∧
    Language.english.readStep? (trim k.literal) = none := by
  decide +kernel

theorem says_keyword_alone {s : Step} (hs : s.Shaped .english) {first : Text} (hone : OneLine first)
    (hfirst : isBlank first) :
    Says .full .english [s.literal ++ first] [.text (trim s.literal)] := by
  have hl := Language.legible_english
  obtain ⟨hopens, hheader, hstep⟩ := keyword_alone _ hs.keyword
  obtain ⟨hspeaks, hbar, hat, -⟩ := speaks_of_opensLine hopens []
  rw [List.append_nil] at hspeaks hbar hat
  have htrim : trim (s.literal ++ first) = trim s.literal := by
    obtain ⟨a, b, ha, hb, hliteral⟩ := Text.exists_eq_append_trim_append s.literal
    calc
      trim (s.literal ++ first) = trim (a ++ (trim s.literal ++ (b ++ first))) := by
        rw [← List.append_assoc (trim s.literal), ← List.append_assoc a, ← hliteral]
      _ = trim s.literal :=
        Text.trim_append_append ha (Text.solid_trim _) (Text.isBlank_append.2 ⟨hb, hfirst⟩)
  refine says_single ((hl.step_oneLine _ hs.keyword).append hone) htrim hspeaks ?_ rfl
  rw [classify_of_head hbar hat, hheader]
  simp only [hstep]

/-- The lines below the first line of a body, as they are read. -/
structure ReadBelow (s : Step) (rest : List Text) (xs ys : List SourceLine) (ending : SourceLine)
    (lexed : Lexed) : Prop where
  rest_eq : xs.map (·.text) = rest.map SourceLine.chomp
  argument_eq : ys.map (·.text) = s.argumentLines.map SourceLine.chomp
  ending_eq : ending.text = []
  oneLine : ∀ x ∈ xs ++ (ys ++ [ending]), OneLine x.text
  read : Lexed.ofChunks .english none (Chunk.ofLines (xs ++ (ys ++ [ending]))) = .ok lexed
  proper : ∀ t ∈ lexed.tokens, t.kind.Proper .outline .english
  said : SaysArgument (s.table.map (·.rows)) (s.docString.map (·.content))
    (lexed.tokens.map (·.kind))

/-- If a step is read again then its sentence comes from the first line, and what it is given from
the others. -/
theorem Step.RendersToItself.exists_readBelow {s : Step} (hs : s.Shaped .english)
    (h : s.RendersToItself) {first : Text} {rest : List Text}
    (hlines : Text.splitLines s.text = first :: rest) :
    ¬isBlank first ∧ s.sentence = sentenceOfLine (s.literal ++ trim first) ∧
      ∃ xs ys ending lexed, ReadBelow s rest xs ys ending lexed := by
  have hl := Language.legible_english
  obtain ⟨hmark, hlanguage⟩ := hs.languageOf?_display
  obtain ⟨hone, -⟩ := oneLine_of_splitLines hlines
  obtain ⟨lexed, hlexed, hsays⟩ :=
    (exists_parseSteps_singleton_iff (hmark.symm ▸ hlanguage)).1 h
  have hproper := proper_of_ofText_upTo hl.outline nofun hlexed
  -- the physical lines fall apart into those of the body, those below it, and an empty one
  have htexts := SourceLine.map_text_ofText_unlines (hs.oneLine_lines hl hlines)
  rw [← display_eq hlines, List.map_cons, List.map_append, List.cons_append,
    List.append_assoc] at htexts
  rw [hmark, Lexed.ofText] at hlexed
  obtain ⟨x, ls, hls, hx, htexts⟩ := List.map_eq_cons_iff.1 htexts
  obtain ⟨xs, ls', rfl, hxs, htexts⟩ := List.map_eq_append_iff.1 htexts
  obtain ⟨ys, ls'', rfl, hys, htexts⟩ := List.map_eq_append_iff.1 htexts
  obtain ⟨ending, rfl, hending⟩ := List.map_eq_singleton_iff.1 htexts
  have hones : ∀ z ∈ xs ++ (ys ++ [ending]), OneLine z.text := by
    intro z hz
    have hmem : z ∈ SourceLine.ofText s.display := hls ▸ List.mem_cons_of_mem x hz
    exact (SourceLine.text_subset_of_mem_ofText hmem).1
  rw [hls] at hlexed
  have hfront : [x].map (·.text) = [s.literal ++ first].map SourceLine.chomp :=
    congrArg (fun text ↦ [text]) hx
  have hbelow {kind : TokenKind} (hkind : Says .full .english [s.literal ++ first] [kind]) :
      ∃ others : Lexed, lexed.tokens.map (·.kind) = kind :: others.tokens.map (·.kind) ∧
        (∀ t ∈ others.tokens, t ∈ lexed.tokens) ∧
        Lexed.ofChunks .english none (Chunk.ofLines (xs ++ (ys ++ [ending]))) = .ok others := by
    obtain ⟨ts, others, hts, htokens, hothers⟩ := hkind.exists_of_ofChunks hfront hlexed
    simp only [TokenKind.upTo_full, List.map_id'] at hts
    refine ⟨others, by rw [htokens, List.map_append, hts]; rfl, fun t ht ↦ ?_, hothers⟩
    rw [htokens]
    exact List.mem_append_right _ ht
  by_cases hblank : isBlank first
  · obtain ⟨others, hkinds, -, -⟩ := hbelow (says_keyword_alone hs hone hblank)
    rw [hkinds] at hsays
    cases hsays
  · have hline := says_stepLine hl hs.keyword hone hblank 0
    rw [indented_zero] at hline
    obtain ⟨others, hkinds, hmem, hothers⟩ := hbelow hline
    rw [hkinds] at hsays
    cases hsays with
    | intro hsentence hargument =>
      exact ⟨hblank, hsentence, xs, ys, ending, others, hxs, hys, hending, hones, hothers,
        fun t ht ↦ hproper t (hmem t ht), hargument⟩

namespace ReadBelow

variable {s : Step} {rest : List Text} {xs ys : List SourceLine} {ending : SourceLine}
  {lexed : Lexed}

/-- The lines of the body are silent if what is read of them is. -/
theorem forall_silent (h : ReadBelow s rest xs ys ending lexed)
    (hxs : ∀ x ∈ xs, Silent x.content) : ∀ line ∈ rest, Silent (trim line) := by
  intro line hline
  have hmem : SourceLine.chomp line ∈ xs.map (·.text) := by
    rw [h.rest_eq]
    exact List.mem_map_of_mem hline
  obtain ⟨x, hx, htext⟩ := List.mem_map.1 hmem
  have hsilent := hxs x hx
  rwa [SourceLine.content, htext, SourceLine.trim_chomp] at hsilent

/-- Without a string each line below the body is a row. -/
theorem of_no_string (h : ReadBelow s rest xs ys ending lexed) (hd : s.docString = none) :
    (∀ x ∈ xs, Silent x.content) ∧
      ∀ t ∈ s.table, ∀ row ∈ t.rows, ∀ cell ∈ row, Solid (Cell.escape cell) := by
  have hkinds := h.said
  rw [hd] at hkinds
  replace hkinds := hkinds.eq_rows
  obtain ⟨widths, hlines⟩ := s.exists_argumentLines_eq hd
  have hlength : lexed.tokens.length = ys.length := by
    have htexts := congrArg List.length h.argument_eq
    rw [hlines, List.length_map, List.length_map, List.length_map] at htexts
    have hrows := congrArg List.length hkinds
    rwa [List.length_map, List.length_map, ← htexts] at hrows
  have hstring : ∀ t ∈ lexed.tokens, t.isString = false := by
    intro t ht
    have hmem : t.kind ∈ lexed.tokens.map (·.kind) := List.mem_map_of_mem ht
    rw [hkinds] at hmem
    obtain ⟨row, -, hrow⟩ := List.mem_map.1 hmem
    rw [Token.isString, ← hrow]
  have hspeaks : ∀ y ∈ ys, ¬Silent y.content := by
    intro y hy
    have hmem : y.text ∈ s.argumentLines.map SourceLine.chomp :=
      h.argument_eq ▸ List.mem_map_of_mem hy
    rw [hlines, List.map_map] at hmem
    obtain ⟨row, -, htext⟩ := List.mem_map.1 hmem
    obtain ⟨hcontent, -⟩ := content_of_indented htext.symm (Cell.solid_rowLine widths _)
      (List.cons_ne_nil _ _)
    rw [hcontent]
    exact not_or_intro (List.cons_ne_nil _ _) (by simp [rowLine])
  refine ⟨silent_of_length_tokens h.read hstring hspeaks hlength, fun t ht row hrow ↦ ?_⟩
  have hmem : TokenKind.row row ∈ lexed.tokens.map (·.kind) := by
    rw [hkinds, show s.table = some t from ht]
    exact List.mem_map_of_mem hrow
  obtain ⟨token, htoken, hkind⟩ := List.mem_map.1 hmem
  have hproper := h.proper token htoken
  rwa [hkind] at hproper

/-- A string is opened on the line that is written to open it. -/
theorem of_string (h : ReadBelow s rest xs ys ending lexed) (hs : s.Shaped .english)
    {d : DocString} (hd : s.docString = some d) :
    (∀ x ∈ xs, Silent x.content) ∧ DocString.Proper d.delimiter d.content := by
  obtain ⟨hopening, -, hsolid, -⟩ := opening_mark_append d.delimiter (hs.type d hd)
  have hmark : Solid d.delimiter.mark := by cases d.delimiter <;> decide
  have hkinds := h.said
  rw [hd] at hkinds
  obtain ⟨d', type, hkinds⟩ := hkinds.eq_string
  have hlone := loneString_of_tokens h.read hkinds
  have hlines : s.argumentLines = d.lines indentStep := by
    have ht : s.table = none := hs.one_argument.resolve_right (by rw [hd]; exact nofun)
    rw [Step.argumentLines, ht, hd]
    rfl
  have hys := h.argument_eq
  rw [hlines, DocString.lines, List.append_assoc, List.singleton_append, List.map_cons,
    List.map_append] at hys
  obtain ⟨opening, ys', rfl, htext, hys⟩ := List.map_eq_cons_iff.1 hys
  obtain ⟨body, ends, rfl, hbody, hends⟩ := List.map_eq_append_iff.1 hys
  obtain ⟨closing, rfl, hclosing⟩ := List.map_eq_singleton_iff.1 hends
  obtain ⟨hcontent, -⟩ := content_of_indented htext hsolid (List.cons_ne_nil _ _)
  obtain ⟨hcloses, -⟩ := content_of_indented hclosing hmark d.delimiter.mark_ne_nil
  have hsplit : xs ++ (opening :: (body ++ [closing]) ++ [ending]) =
      xs ++ opening :: (body ++ [closing, ending]) := by simp
  have hone := h.oneLine
  rw [hsplit] at hlone hone
  have hreturn : ∀ x ∈ body ++ [closing, ending], '\r' ∉ x.text := by
    intro x hx
    rcases List.mem_append.1 hx with hx | hx
    · have hmem : x.text ∈ (contentLines d.delimiter indentStep d.content).map SourceLine.chomp :=
        hbody ▸ List.mem_map_of_mem hx
      obtain ⟨line, hline, htext⟩ := List.mem_map.1 hmem
      rw [← htext]
      exact fun hmem ↦ DocString.return_not_mem_of_mem_contentLines (hs.no_return d hd) hline
        (SourceLine.chomp_subset line hmem)
    · rcases List.mem_cons.1 hx with rfl | hx
      · rw [hclosing]
        have hfree : '\r' ∉ indented indentStep d.delimiter.mark := by
          cases d.delimiter <;> decide
        exact fun hmem ↦ hfree (SourceLine.chomp_subset _ hmem)
      · rw [List.mem_singleton.1 hx, h.ending_eq]
        exact List.not_mem_nil
  have hlast : ¬Silent closing.content := by
    rw [hcloses]
    cases d.delimiter <;> decide
  exact hlone.silent_and_proper hone (hcontent ▸ hopening) hlast hbody hreturn

end ReadBelow

theorem Step.RendersToItself.legible {s : Step} (hs : s.Shaped .english) (h : s.RendersToItself) :
    s.Legible := by
  obtain ⟨first, rest, hlines⟩ := Text.exists_splitLines s.text
  obtain ⟨hfirst, hsentence, xs, ys, ending, lexed, hbelow⟩ := h.exists_readBelow hs hlines
  cases hd : s.docString with
  | none =>
    obtain ⟨hxs, hcells⟩ := hbelow.of_no_string hd
    refine ⟨⟨first, rest, hlines, hfirst, hsentence, hbelow.forall_silent hxs⟩, hcells, ?_⟩
    rw [hd]
    exact nofun
  | some d =>
    have ht : s.table = none := hs.one_argument.resolve_right (by rw [hd]; exact nofun)
    obtain ⟨hxs, hcontent⟩ := hbelow.of_string hs hd
    refine ⟨⟨first, rest, hlines, hfirst, hsentence, hbelow.forall_silent hxs⟩, ?_, ?_⟩
    · rw [ht]
      exact nofun
    · rw [hd]
      rintro _ ⟨⟩
      exact hcontent

theorem language_eq_english {options : ParseOptions} {text : Text} {f : Feature}
    (hf : parseFeature options text = .ok f) (henglish : f.language.code = Language.defaultCode) :
    f.language = .english := by
  have hfind := Language.find?_code (languageOf?_of_parseFeature hf)
  rw [henglish, Language.find?_defaultCode] at hfind
  exact (Option.some.inj hfind).symm

/-- A step of an example is read again as it is exactly if its lines can be told apart, and those of
a step into which nothing was filled always can. -/
theorem rendersToItself_iff_legible (options : ParseOptions) (text : Text) (htext : '\r' ∉ text)
    (f : Feature) (hf : parseFeature options text = .ok f)
    (henglish : f.language.code = Language.defaultCode) (c : Scenario) (hc : c ∈ f.scenarios)
    (e : Example) (he : e ∈ c.resolvedExamples) (s : Step) (hs : s ∈ e.steps) :
    (s.RendersToItself ↔ s.Legible) ∧ (e.outline = none → s.RendersToItself) := by
  have hlanguage := language_eq_english hf henglish
  have hl : f.language.Legible := hlanguage ▸ Language.legible_english
  obtain ⟨hshaped, hproper⟩ := shaped_of_mem_resolvedExamples htext hf hl hc he hs
  rw [hlanguage] at hshaped hproper
  refine ⟨⟨fun h ↦ h.legible hshaped, fun h ↦ h.rendersToItself hshaped⟩, fun hnone ↦ ?_⟩
  obtain ⟨hparts, hsentence⟩ := hproper hnone
  exact (hparts.legible hsentence).rendersToItself hshaped

/-- A feature whose only example has a single step. -/
theorem exists_of_lone_step {text : Text} {s : Step}
    (hread : (parseFeature {} text).toOption.map (fun f ↦ (f.language.code,
      f.scenarios.map fun c ↦ c.writtenExamples.map (·.steps))) =
        some (Language.defaultCode, [[[s]]])) :
    ∃ f c e, parseFeature {} text = .ok f ∧ f.language.code = Language.defaultCode ∧
      c ∈ f.scenarios ∧ e ∈ c.resolvedExamples ∧ s ∈ e.steps := by
  obtain ⟨f, hf, hpair⟩ := toOption_map_eq_some_iff.1 hread
  obtain ⟨hcode, hscenarios⟩ := Prod.mk.inj hpair
  obtain ⟨c, hc, hexamples⟩ := List.map_eq_singleton_iff.1 hscenarios
  obtain ⟨e, he, hsteps⟩ := List.map_eq_singleton_iff.1 hexamples
  refine ⟨f, c, e, hf, hcode, ?_, ?_, ?_⟩
  · rw [hc]
    exact List.mem_cons_self
  · rw [c.resolvedExamples_eq_written, he]
    exact List.mem_cons_self
  · rw [hsteps]
    exact List.mem_cons_self

def filledText : Text :=
  "Feature: f\nScenario Outline: s\nGiven <x>\n|<x>\\n|\nExamples:\n|x|\n|a b|\n".toList

def filledStep : Step where
  literal := "Given ".toList
  kind := .context
  phase := .context
  text := "a b".toList
  sentence := "Given a b".toList
  table := some ⟨[["a b\n".toList]], ⟨none, 4, 1⟩, ⟨41, 48, by decide⟩⟩
  docString := none
  owner := some (.scenario 0)
  location := ⟨none, 3, 1⟩
  span := ⟨31, 48, by decide⟩

theorem rendersToItself_filledStep : '\r' ∉ filledText ∧ ∃ f c e,
    parseFeature {} filledText = .ok f ∧ f.language.code = Language.defaultCode ∧
      c ∈ f.scenarios ∧ e ∈ c.resolvedExamples ∧ filledStep ∈ e.steps ∧
      filledStep.RendersToItself := by
  have hreturn : '\r' ∉ filledText := by decide +kernel
  have hread : (parseFeature {} filledText).toOption.map (fun f ↦ (f.language.code,
      f.scenarios.map fun c ↦ c.writtenExamples.map (·.steps))) =
        some (Language.defaultCode, [[[filledStep]]]) := by
    simp only [parseFeature, parse]
    rw [code_of_undeclared (by decide +kernel), Language.find?_defaultCode]
    decide +kernel
  have hlegible : filledStep.Legible := by
    constructor
    case body =>
      exact ⟨"a b".toList, [], by decide +kernel, by decide, by decide +kernel,
        List.forall_mem_nil _⟩
    case cells =>
      intro t ht row hrow cell hcell
      cases ht
      rw [List.mem_singleton.1 hrow, List.mem_singleton] at hcell
      rw [hcell]
      decide
    case content => exact fun _ h ↦ absurd h (Option.not_mem_none _)
  obtain ⟨f, c, e, hf, hcode, hc, he, hs⟩ := exists_of_lone_step hread
  exact ⟨hreturn, f, c, e, hf, hcode, hc, he, hs, (rendersToItself_iff_legible {} filledText hreturn
    f hf hcode c hc e he filledStep hs).1.2 hlegible⟩

/-- A row with a line feed is filled into a body. -/
def brokenText : Text :=
  "Feature: f\nScenario Outline: s\nGiven <x>\nExamples:\n|x|\n|a\\nb|\n".toList

def brokenStep : Step where
  literal := "Given ".toList
  kind := .context
  phase := .context
  text := "a\nb".toList
  sentence := "Given a\nb".toList
  table := none
  docString := none
  owner := some (.scenario 0)
  location := ⟨none, 3, 1⟩
  span := ⟨31, 40, by decide⟩

/-- The body of `brokenStep` is written on two lines, of which the second begins no step. -/
theorem not_rendersToItself : ¬∀ (options : ParseOptions) (text : Text), '\r' ∉ text →
    ∀ f, parseFeature options text = .ok f → f.language.code = Language.defaultCode →
      ∀ c ∈ f.scenarios, ∀ e ∈ c.resolvedExamples, ∀ s ∈ e.steps, s.RendersToItself := by
  intro h
  have hread : (parseFeature {} brokenText).toOption.map (fun f ↦ (f.language.code,
      f.scenarios.map fun c ↦ c.writtenExamples.map (·.steps))) =
        some (Language.defaultCode, [[[brokenStep]]]) := by
    simp only [parseFeature, parse]
    rw [code_of_undeclared (by decide +kernel), Language.find?_defaultCode]
    decide +kernel
  obtain ⟨f, c, e, hf, hcode, hc, he, hs⟩ := exists_of_lone_step hread
  obtain ⟨s, hs, -⟩ := h {} brokenText (by decide +kernel) f hf hcode c hc e he brokenStep hs
  have hrefused : (parseSteps {} brokenStep.display).toOption.map List.length = none := by
    simp only [parseSteps, parse]
    rw [code_of_undeclared (by decide +kernel), Language.find?_defaultCode]
    decide +kernel
  rw [hs] at hrefused
  cases hrefused

end Gherkin
