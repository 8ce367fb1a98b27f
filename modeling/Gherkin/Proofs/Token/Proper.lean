import Gherkin.Proofs.Cell.Rows
import Gherkin.Proofs.DocString.Content
import Gherkin.Proofs.Language.Legible
import Gherkin.Proofs.Readings
import Gherkin.Proofs.Text.Words
import Gherkin.Proofs.Tree.Leaves

/-!
# Tokens that reading can give

What a token says is proper if it could be written down and read again. In outline everything that
is read is proper; in full it is so if the text holds no carriage returns, which may end a line in a
multiline string. The leaves of a tree, in which tags are drawn together, are proper along with the
tokens. Some of this holds whatever the language is: tags are words and none is named twice, and a
step has a body.

Main statements: the tokens of a text are proper (`proper_of_ofText_upTo`), and the leaves of proper
tokens are (`proper_of_mem_mergeTags`); the tokens of any text are tidy (`tidy_of_ofText`), and so
are the leaves of tidy tokens (`tidy_of_mem_mergeTags`).
-/

namespace Gherkin

open Text (Solid OneLine IsWord isSpace trim)

/-- The content of a line that stands for itself. -/
structure Speaks (content : Text) : Prop where
  ne_nil : content ≠ []
  no_comment : content.head? ≠ some '#'
  no_string : Delimiter.opening? content = none

/-- A line without indentation that is read as one token. -/
structure ReadsAs (l : Language) (line : Text) (kind : TokenKind) : Prop where
  solid : Solid line
  oneLine : OneLine line
  speaks : Speaks line
  classify_eq : Token.classify l line = .ok kind

/-- The token could be written down and read again. -/
def TokenKind.Proper (d : Detail) (l : Language) : TokenKind → Prop
  | tags names => names ≠ [] ∧ names.Nodup ∧ ∀ name ∈ names, IsWord name
  | block kind keyword name =>
    l.blocks.find? (·.literal = keyword) = some ⟨keyword, kind⟩ ∧ Solid name ∧ OneLine name
  | step kind literal body => ⟨literal, kind⟩ ∈ l.steps ∧ Solid body ∧ OneLine body ∧ body ≠ []
  | row cells => ∀ cell ∈ cells, Solid (Cell.escape cell)
  | docString delimiter type content =>
    (∀ label ∈ type, label ≠ [] ∧ Solid label ∧ OneLine label) ∧
      (d = .full → DocString.Proper delimiter content)
  | text line =>
    Solid line ∧ OneLine line ∧ Speaks line ∧ Token.classify l line = .ok (.text line)

/-- Tags of which none is named twice, and which are words. -/
structure TagList (names : List Text) : Prop where
  nodup : names.Nodup
  isWord : ∀ name ∈ names, IsWord name

/-- What a token says is of use, although it might not be read again in the same way. -/
def TokenKind.Tidy : TokenKind → Prop
  | tags names => TagList names
  | step _ _ body => body ≠ []
  | _ => True

theorem TokenKind.Proper.tidy {d : Detail} {l : Language} {kind : TokenKind}
    (h : kind.Proper d l) : kind.Tidy := by
  cases kind with
  | tags names => exact ⟨h.2.1, h.2.2⟩
  | step kind literal body => exact h.2.2.2
  | _ => trivial

theorem isWord_of_readTags {words names : List Text} (h : readTags words = .ok names)
    (hwords : ∀ word ∈ words, ∀ c ∈ word, isSpace c = false) : ∀ name ∈ names, IsWord name := by
  fun_induction readTags words generalizing names with
  | case1 => cases h; simp
  | case2 => cases h; simp
  | case3 rest c name ih =>
    obtain ⟨hword, hrest⟩ := List.forall_mem_cons.1 hwords
    cases hread : readTags rest with
    | error e => rw [hread] at h; cases h
    | ok names' =>
      rw [hread] at h
      cases h
      have hname : IsWord (c :: name) :=
        ⟨List.cons_ne_nil _ _, fun d hd ↦ hword d (List.mem_cons_of_mem _ hd)⟩
      exact List.forall_mem_cons.2 ⟨hname, ih hread hrest⟩
  | case4 => cases h

/-- A line of tags names at least one. -/
theorem ne_nil_of_readTags {word : Text} {rest names : List Text}
    (h : readTags (('@' :: word) :: rest) = .ok names) : names ≠ [] := by
  cases word with
  | nil => cases h
  | cons c word =>
    rw [readTags] at h
    cases hread : readTags rest with
    | error e => rw [hread] at h; cases h
    | ok names' => rw [hread] at h; cases h; exact List.cons_ne_nil _ _

/-! ## Lines and strings -/

section Lines

variable {d : Detail} {l : Language} {content : Text}

/-- What a line says that begins with no sign of its own. -/
theorem classify_of_head (hbar : content.head? ≠ some '|') (hat : content.head? ≠ some '@') :
    Token.classify l content =
      match l.readHeader? content with
      | some b => .ok (.block b.kind b.keyword b.name)
      | none =>
        match l.readStep? content with
        | some s => .ok (.step s.kind s.literal s.text)
        | none => .ok (.text content) := by
  unfold Token.classify
  split
  · exact absurd rfl hbar
  · exact absurd rfl hat
  · rfl

/-- What a line may say: cells, tags, what the language reads, or its own text. -/
inductive Token.Said (l : Language) (content : Text) : TokenKind → Prop
  | row (cells : List Text) : Said l content (.row cells)
  | tags (names : List Text) : Said l content (.tags names)
  | block {b : HeaderLine} : l.readHeader? content = some b →
    Said l content (.block b.kind b.keyword b.name)
  | step {s : StepLine} : l.readStep? content = some s →
    Said l content (.step s.kind s.literal s.text)
  | text : Said l content (.text content)

theorem Token.said_of_classify {kind : TokenKind} (h : classify l content = .ok kind) :
    Said l content kind := by
  by_cases hbar : content.head? = some '|'
  · obtain ⟨body, rfl⟩ := List.head?_eq_some_iff.1 hbar
    rw [classify] at h
    cases hrow : Cell.ofRow? body with
    | none => rw [hrow] at h; cases h
    | some cells => rw [hrow] at h; cases h; exact .row cells
  by_cases hat : content.head? = some '@'
  · obtain ⟨rest, rfl⟩ := List.head?_eq_some_iff.1 hat
    obtain ⟨names, -, rfl⟩ := map_eq_ok_iff.1 h
    exact .tags names.eraseDups
  rw [classify_of_head hbar hat] at h
  cases hheader : l.readHeader? content with
  | some b => rw [hheader] at h; cases h; exact .block hheader
  | none =>
    rw [hheader] at h
    cases hstep : l.readStep? content with
    | some s => rw [hstep] at h; cases h; exact .step hstep
    | none => rw [hstep] at h; cases h; exact .text

theorem proper_tags {kind : TokenKind} (h : Token.classify l ('@' :: content) = .ok kind) :
    kind.Proper d l := by
  obtain ⟨word, rest, hwords⟩ := Text.words_cons (c := '@') rfl content
  rw [Token.classify] at h
  cases hread : readTags (Text.words ('@' :: content)) with
  | error e => rw [hread] at h; cases h
  | ok names =>
    rw [hread] at h
    cases h
    refine ⟨eraseDups_ne_nil (ne_nil_of_readTags (hwords ▸ hread)), nodup_eraseDups names, ?_⟩
    intro name hname
    have hfree : ∀ w ∈ Text.words ('@' :: content), ∀ c ∈ w, isSpace c = false :=
      fun w hw ↦ Text.not_isSpace_of_mem_words hw
    exact isWord_of_readTags hread hfree name (List.mem_eraseDups.1 hname)

theorem proper_row {body : Text} {kind : TokenKind}
    (h : Token.classify l ('|' :: body) = .ok kind) : kind.Proper d l := by
  rw [Token.classify] at h
  cases hrow : Cell.ofRow? body with
  | none => rw [hrow] at h; cases h
  | some cells =>
    rw [hrow] at h
    cases h
    exact Cell.solid_of_ofRow? hrow

/-- A step has a body. -/
theorem ne_nil_of_readStep? {s : StepLine} (h : l.readStep? content = some s) : s.text ≠ [] := by
  obtain ⟨k, -, hread⟩ := Language.mem_of_readStep h
  obtain ⟨rest, hblank, -, rfl⟩ := StepKeyword.eq_of_read? hread
  exact fun hnil ↦ hblank (Text.isBlank_iff_trim_eq_nil.2 hnil)

/-- What a line says is tidy. -/
theorem tidy_of_classify {kind : TokenKind} (h : Token.classify l content = .ok kind) :
    kind.Tidy := by
  by_cases hbar : content.head? = some '|'
  · obtain ⟨body, rfl⟩ := List.head?_eq_some_iff.1 hbar
    rw [Token.classify] at h
    cases hrow : Cell.ofRow? body <;> rw [hrow] at h <;> cases h
    trivial
  by_cases hat : content.head? = some '@'
  · obtain ⟨rest, rfl⟩ := List.head?_eq_some_iff.1 hat
    exact (proper_tags (d := .outline) h).tidy
  rw [classify_of_head hbar hat] at h
  cases hheader : l.readHeader? content with
  | some b =>
    rw [hheader] at h
    cases h
    trivial
  | none =>
    rw [hheader] at h
    cases hstep : l.readStep? content with
    | some s =>
      rw [hstep] at h
      cases h
      exact ne_nil_of_readStep? hstep
    | none =>
      rw [hstep] at h
      cases h
      trivial

/-- What a line says is proper. -/
theorem proper_of_classify (hl : l.Readable d) (hsolid : Solid content) (hone : OneLine content)
    (hspeaks : Speaks content) {kind : TokenKind} (h : Token.classify l content = .ok kind) :
    kind.Proper d l := by
  by_cases hbar : content.head? = some '|'
  · obtain ⟨body, rfl⟩ := List.head?_eq_some_iff.1 hbar
    exact proper_row h
  by_cases hat : content.head? = some '@'
  · obtain ⟨rest, rfl⟩ := List.head?_eq_some_iff.1 hat
    exact proper_tags h
  have hclassify := h
  rw [classify_of_head hbar hat] at h
  cases hheader : l.readHeader? content with
  | some b =>
    rw [hheader] at h
    cases h
    obtain ⟨-, hfind, rest, hsub, hname⟩ := Language.find?_of_readHeader? hl hheader
    rw [TokenKind.Proper, hname]
    exact ⟨hfind, Text.solid_trim rest, hone.mono (List.Subset.trans (Text.trim_subset rest) hsub)⟩
  | none =>
    rw [hheader] at h
    cases hstep : l.readStep? content with
    | some s =>
      rw [hstep] at h
      cases h
      have hne := ne_nil_of_readStep? hstep
      obtain ⟨k, hk, hread⟩ := Language.mem_of_readStep hstep
      obtain ⟨rest, -, hsub, rfl⟩ := StepKeyword.eq_of_read? hread
      exact ⟨hk, Text.solid_trim rest,
        hone.mono (List.Subset.trans (Text.trim_subset rest) hsub), hne⟩
    | none =>
      rw [hstep] at h
      cases h
      exact ⟨hsolid, hone, hspeaks, hclassify⟩

theorem proper_of_contentType? {delimiter : Delimiter} (hone : OneLine content) :
    ∀ label ∈ delimiter.contentType? content, label ≠ [] ∧ Solid label ∧ OneLine label := by
  intro label hlabel
  unfold Delimiter.contentType? at hlabel
  dsimp only at hlabel
  split at hlabel
  · cases hlabel
  · next hne =>
    cases hlabel
    have hsub : trim (content.drop delimiter.mark.length) ⊆ content :=
      List.Subset.trans (Text.trim_subset _) (List.drop_subset _ _)
    exact ⟨by simpa using hne, Text.solid_trim _, hone.mono hsub⟩

end Lines

/-! ## Documents -/

section Opening

variable {l : SourceLine} {ls : List SourceLine} {delimiter : Delimiter} (hnil : l.content ≠ [])
  (hcomment : l.content.head? ≠ some '#') (hstring : Delimiter.opening? l.content = some delimiter)

include hnil hcomment hstring

/-- A string that no line closes takes all lines. -/
theorem Chunk.ofLines_of_unclosed (hrest : ls.dropWhile (fun x ↦ !delimiter.closes x) = []) :
    ofLines (l :: ls) =
      [.unterminated delimiter l (ls.takeWhile fun x ↦ !delimiter.closes x)] := by
  rw [ofLines, if_neg hnil, if_neg hcomment]
  simp only [hstring]
  split
  · rfl
  · next hcons => cases hrest.symm.trans hcons

/-- A string takes the lines up to the first that closes it. -/
theorem Chunk.ofLines_of_closed {closing : SourceLine} {rest : List SourceLine}
    (hrest : ls.dropWhile (fun x ↦ !delimiter.closes x) = closing :: rest) :
    ofLines (l :: ls) =
      .string delimiter l (ls.takeWhile fun x ↦ !delimiter.closes x) closing :: ofLines rest := by
  rw [ofLines, if_neg hnil, if_neg hcomment]
  simp only [hstring]
  split
  · next hcons => cases hrest.symm.trans hcons
  · next hcons =>
    cases hrest.symm.trans hcons
    rfl

end Opening

section Pieces

variable {d : Delimiter} {l : SourceLine} {ls : List SourceLine}

/-- A line that opens a string is neither blank nor a comment. -/
theorem content_of_opening? {content : Text} (h : Delimiter.opening? content = some d) :
    content ≠ [] ∧ content.head? ≠ some '#' := by
  have hmark := List.find?_some h
  obtain ⟨rest, hrest⟩ := Option.isSome_iff_exists.1 hmark
  rw [Text.afterPrefix?_eq_some_iff.1 hrest]
  cases d <;> simp [Delimiter.mark, Delimiter.char]

/-- A line on its own, as it opens no string. -/
def Chunk.ofLine (l : SourceLine) : Chunk :=
  if l.content = [] then .blank l
  else if l.content.head? = some '#' then .comment l
  else .single l

/-- A line that opens no string is a chunk. -/
theorem Chunk.ofLines_line (h : Delimiter.opening? l.content = none) (ls : List SourceLine) :
    ofLines (l :: ls) = ofLine l :: ofLines ls := by
  rw [ofLines, ofLine]
  split
  · rfl
  · split
    · rfl
    · simp only [h]

/-- From the line that opens a string to the first that closes it is a chunk. -/
theorem Chunk.ofLines_string {body : List SourceLine} {closing : SourceLine}
    (hl : Delimiter.opening? l.content = some d) (hbody : ∀ x ∈ body, d.closes x = false)
    (hclosing : d.closes closing = true) (ls : List SourceLine) :
    ofLines (l :: (body ++ closing :: ls)) = .string d l body closing :: ofLines ls := by
  have hbody' : ∀ x ∈ body, (!d.closes x) = true := fun x hx ↦ by rw [hbody x hx]; rfl
  have hdrop : (body ++ closing :: ls).dropWhile (fun x ↦ !d.closes x) = closing :: ls := by
    rw [List.dropWhile_append_of_pos hbody', List.dropWhile_cons]
    simp [hclosing]
  have htake : (body ++ closing :: ls).takeWhile (fun x ↦ !d.closes x) = body := by
    rw [List.takeWhile_append_of_pos hbody', List.takeWhile_cons]
    simp [hclosing]
  obtain ⟨hnil, hcomment⟩ := content_of_opening? hl
  rw [ofLines_of_closed hnil hcomment hl hdrop, htake]

/-- From the line that opens a string to the end is a chunk if no line closes the string. -/
theorem Chunk.ofLines_unterminated {body : List SourceLine}
    (hl : Delimiter.opening? l.content = some d) (hbody : ∀ x ∈ body, d.closes x = false) :
    ofLines (l :: body) = [.unterminated d l body] := by
  have hbody' : ∀ x ∈ body, (!d.closes x) = true := fun x hx ↦ by rw [hbody x hx]; rfl
  obtain ⟨hnil, hcomment⟩ := content_of_opening? hl
  have hdrop : (body ++ []).dropWhile (fun x ↦ !d.closes x) = [] :=
    List.dropWhile_append_of_pos hbody'
  have htake : (body ++ []).takeWhile (fun x ↦ !d.closes x) = body ++ [] :=
    List.takeWhile_append_of_pos hbody'
  rw [List.append_nil] at hdrop htake
  rw [ofLines_of_unclosed hnil hcomment hl hdrop, htake]

/-- The same chunk of other lines. -/
def Chunk.map (f : SourceLine → SourceLine) : Chunk → Chunk
  | blank l => blank (f l)
  | comment l => comment (f l)
  | single l => single (f l)
  | string d opening body closing => string d (f opening) (body.map f) (f closing)
  | unterminated d opening body => unterminated d (f opening) (body.map f)

/-- Lines are sorted by what stands between the white space at their ends. -/
theorem Chunk.ofLines_map {f : SourceLine → SourceLine} (hf : ∀ l, (f l).content = l.content)
    (ls : List SourceLine) : ofLines (ls.map f) = (ofLines ls).map (map f) := by
  have hcloses (d : Delimiter) : (fun x ↦ !d.closes x) ∘ f = fun x ↦ !d.closes x := by
    funext x
    simp only [Function.comp_apply, Delimiter.closes, hf]
  fun_induction ofLines ls with
  | case1 => simp [ofLines]
  | case2 l ls hnil ih => simp [ofLines, hf, hnil, ih, map]
  | case3 l ls hnil hcomment ih => simp [ofLines, hf, hnil, hcomment, ih, map]
  | case4 l ls hnil hcomment hstring ih => simp [ofLines, hf, hnil, hcomment, hstring, ih, map]
  | case5 l ls hnil hcomment delimiter hstring body hrest =>
    have hrest' := List.dropWhile_map (f := f) (p := fun x ↦ !delimiter.closes x) (l := ls)
    rw [hcloses, hrest, List.map_nil] at hrest'
    rw [← hf] at hnil hcomment hstring
    rw [List.map_cons, ofLines_of_unclosed hnil hcomment hstring hrest', List.takeWhile_map,
      hcloses]
    rfl
  | case6 l ls hnil hcomment delimiter hstring body closing rest hrest ih =>
    have hrest' := List.dropWhile_map (f := f) (p := fun x ↦ !delimiter.closes x) (l := ls)
    rw [hcloses, hrest, List.map_cons] at hrest'
    rw [← hf] at hnil hcomment hstring
    rw [List.map_cons, ofLines_of_closed hnil hcomment hstring hrest', List.takeWhile_map, hcloses,
      ih]
    rfl

end Pieces

/-- The lines of a chunk are of the sort that the chunk says, and a multiline string ends with the
first line that closes it. -/
def Chunk.Sorted : Chunk → Prop
  | blank l => l.content = []
  | comment l => l.content.head? = some '#'
  | single l => Speaks l.content
  | string d opening body closing =>
    Delimiter.opening? opening.content = some d ∧ (∀ l ∈ body, d.closes l = false) ∧
      d.closes closing = true
  | unterminated d opening body =>
    Delimiter.opening? opening.content = some d ∧ ∀ l ∈ body, d.closes l = false

theorem Chunk.sorted_of_mem_ofLines {ls : List SourceLine} {c : Chunk} (h : c ∈ ofLines ls) :
    c.Sorted := by
  have hbody {d : Delimiter} {ls : List SourceLine} :
      ∀ l ∈ ls.takeWhile (fun x ↦ !d.closes x), d.closes l = false := by
    intro l hl
    rw [← Bool.not_eq_true']
    exact List.all_eq_true.1 List.all_takeWhile l hl
  fun_induction ofLines ls with
  | case1 => cases h
  | case2 l ls hnil ih =>
    rcases List.mem_cons.1 h with rfl | h
    · exact hnil
    · exact ih h
  | case3 l ls _ hcomment ih =>
    rcases List.mem_cons.1 h with rfl | h
    · exact hcomment
    · exact ih h
  | case4 l ls hne hcomment hstring ih =>
    rcases List.mem_cons.1 h with rfl | h
    · exact ⟨hne, hcomment, hstring⟩
    · exact ih h
  | case5 l ls _ _ d hd body _ =>
    rw [List.mem_singleton.1 h]
    exact ⟨hd, hbody⟩
  | case6 l ls _ _ d hd body closing rest hrest ih =>
    rcases List.mem_cons.1 h with rfl | h
    · have hcloses := List.head?_dropWhile_not (fun x ↦ !d.closes x) ls
      rw [hrest] at hcloses
      exact ⟨hd, hbody, by simpa using hcloses⟩
    · exact ih h

/-- What a token was read from. -/
inductive Token.From (l : Language) (path : Option Text) : Chunk → Token → Prop
  | line {line : SourceLine} {kind : TokenKind} : Token.classify l line.content = .ok kind →
    From l path (.single line) (.ofLine path line kind)
  | string (d : Delimiter) (opening : SourceLine) (body : List SourceLine) (closing : SourceLine) :
    From l path (.string d opening body closing) (.ofString path d opening body closing)

theorem Lexed.from_of_mem_ofChunk {l : Language} {path : Option Text} {c : Chunk} {lexed : Lexed}
    (h : ofChunk l path c = .ok lexed) {t : Token} (ht : t ∈ lexed.tokens) :
    Token.From l path c t := by
  cases c with
  | blank line =>
    cases h
    cases ht
  | comment line =>
    cases h
    cases ht
  | single line =>
    rw [ofChunk] at h
    cases hclassify : Token.classify l line.content with
    | error e => rw [hclassify] at h; cases h
    | ok kind =>
      rw [hclassify] at h
      cases h
      rw [List.mem_singleton.1 ht]
      exact .line hclassify
  | string d opening body closing =>
    cases h
    rw [List.mem_singleton.1 ht]
    exact .string d opening body closing
  | unterminated d opening body => cases h

/-- Every token was read from one of the chunks. -/
theorem Lexed.exists_from_of_mem_ofChunks {l : Language} {path : Option Text} {cs : List Chunk}
    {lexed : Lexed} (h : ofChunks l path cs = .ok lexed) {t : Token} (ht : t ∈ lexed.tokens) :
    ∃ c ∈ cs, Token.From l path c t := by
  induction cs generalizing lexed with
  | nil => cases h; cases ht
  | cons c cs ih =>
    obtain ⟨first, hfirst, h⟩ := bind_eq_ok_iff.1 h
    obtain ⟨rest, hrest, h⟩ := bind_eq_ok_iff.1 h
    cases h
    rcases List.mem_append.1 ht with ht | ht
    · exact ⟨c, List.mem_cons_self, from_of_mem_ofChunk hfirst ht⟩
    · obtain ⟨c', hc', hfrom⟩ := ih hrest ht
      exact ⟨c', List.mem_cons_of_mem _ hc', hfrom⟩

theorem proper_of_from {d : Detail} {l : Language} (hl : l.Readable d) {path : Option Text}
    {c : Chunk} (hsorted : c.Sorted)
    (hlines : ∀ line ∈ c.lines, OneLine line.text ∧ (d = .full → '\r' ∉ line.text)) {t : Token}
    (h : Token.From l path c t) : t.kind.Proper d l := by
  cases h with
  | @line line kind hclassify =>
    have hline : OneLine line.content :=
      (hlines line (List.mem_singleton.2 rfl)).1.mono (Text.trim_subset _)
    exact proper_of_classify hl (Text.solid_trim _) hline hsorted hclassify
  | string delimiter opening body closing =>
    have hopening : OneLine opening.content :=
      (hlines opening (by simp [Chunk.lines])).1.mono (Text.trim_subset _)
    refine ⟨proper_of_contentType? hopening, fun hd ↦ DocString.proper_assemble fun line hline ↦ ?_⟩
    obtain ⟨raw, hraw, rfl⟩ := List.mem_map.1 hline
    obtain ⟨hone, hreturn⟩ := hlines raw (by simp [Chunk.lines, hraw])
    exact ⟨hone, hreturn hd⟩

/-- The tokens of a text are proper in outline, and in full if it holds no carriage returns. -/
theorem proper_of_ofText_upTo {d : Detail} {l : Language} (hl : l.Readable d) {path : Option Text}
    {source : Text} (hsource : d = .full → '\r' ∉ source) {lexed : Lexed}
    (h : Lexed.ofText l path source = .ok lexed) : ∀ t ∈ lexed.tokens, t.kind.Proper d l := by
  intro t ht
  obtain ⟨c, hc, hfrom⟩ := Lexed.exists_from_of_mem_ofChunks h ht
  refine proper_of_from hl (Chunk.sorted_of_mem_ofLines hc) (fun line hline ↦ ?_) hfrom
  have hmem : line ∈ (Chunk.ofLines (SourceLine.ofText source)).flatMap Chunk.lines :=
    List.mem_flatMap.2 ⟨c, hc, hline⟩
  rw [Chunk.flatMap_lines_ofLines] at hmem
  obtain ⟨hone, hsub⟩ := SourceLine.text_subset_of_mem_ofText hmem
  exact ⟨hone, fun hd hreturn ↦ hsource hd (hsub hreturn)⟩

theorem proper_of_ofText {l : Language} (hl : l.Legible) {path : Option Text} {source : Text}
    (hsource : '\r' ∉ source) {lexed : Lexed} (h : Lexed.ofText l path source = .ok lexed) :
    ∀ t ∈ lexed.tokens, t.kind.Proper .full l :=
  proper_of_ofText_upTo hl (fun _ ↦ hsource) h

/-- The tokens of any text in any language are tidy. -/
theorem tidy_of_ofText {l : Language} {path : Option Text} {source : Text} {lexed : Lexed}
    (h : Lexed.ofText l path source = .ok lexed) : ∀ t ∈ lexed.tokens, t.kind.Tidy := by
  intro t ht
  obtain ⟨c, -, hfrom⟩ := Lexed.exists_from_of_mem_ofChunks h ht
  cases hfrom with
  | line hclassify => exact tidy_of_classify hclassify
  | string d opening body closing => trivial

/-- Tags that are drawn together from tidy tokens are a list of tags. -/
theorem tagList_tagsOf {run : List Token} (h : ∀ t ∈ run, t.kind.Tidy) :
    TagList (Tree.tagsOf run) := by
  refine ⟨nodup_eraseDups _, fun name hname ↦ ?_⟩
  obtain ⟨t, ht, hname⟩ := List.mem_flatMap.1 (List.mem_eraseDups.1 hname)
  have htidy := h t ht
  unfold Token.tagNames at hname
  split at hname
  · next names hkind =>
    rw [hkind] at htidy
    exact htidy.isWord name hname
  · cases hname

/-- The leaves of tidy tokens are tidy. -/
theorem tidy_of_mem_mergeTags {ts : List Token} (h : ∀ t ∈ ts, t.kind.Tidy) :
    ∀ leaf ∈ Tree.mergeTags ts, leaf.kind.Tidy :=
  Tree.forall_mem_mergeTags h fun _ hrun _ ↦ tagList_tagsOf hrun

/-- The leaves of proper tokens are proper. -/
theorem proper_of_mem_mergeTags {d : Detail} {l : Language} {ts : List Token}
    (h : ∀ t ∈ ts, t.kind.Proper d l) : ∀ leaf ∈ Tree.mergeTags ts, leaf.kind.Proper d l := by
  refine Tree.forall_mem_mergeTags h fun run hrun hne ↦ ?_
  have htags := tagList_tagsOf fun t ht ↦ (hrun t ht).tidy
  exact ⟨hne, htags.nodup, htags.isWord⟩

end Gherkin
