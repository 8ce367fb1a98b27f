import Mathlib.Logic.ExistsUnique
import Gherkin.Proofs.Text.Offsets
import Gherkin.Proofs.Token.Proper

/-!
# The lines that a token reaches

A token starts at the content of one line and stops at the content of the same or of a later line,
and reaches every line from the one to the other. The tokens of a text come one after the other, no
line is reached by two of them, and those that no token reaches are blank or comments.

Main statement: each line of a text is of exactly one sort, and the tokens account for all lines
that say something (`accounts_for_lines`).
-/

namespace Gherkin

section Chunks

variable {language : Language} {path : Option Text} {c c' : Chunk} {t : Token}

/-- What a chunk says that is not refused. -/
def Chunk.token? (language : Language) (path : Option Text) : Chunk → Option Token
  | single l => (Token.classify language l.content).toOption.map (Token.ofLine path l)
  | string d opening body closing => some (.ofString path d opening body closing)
  | _ => none

theorem Lexed.tokens_of_ofChunk {lexed : Lexed} (h : ofChunk language path c = .ok lexed) :
    lexed.tokens = (c.token? language path).toList := by
  cases c with
  | single l =>
    rw [ofChunk] at h
    rw [Chunk.token?]
    cases hclassify : Token.classify language l.content with
    | error e => rw [hclassify] at h; cases h
    | ok kind => rw [hclassify] at h; cases h; rfl
  | unterminated d opening body => cases h
  | _ => cases h; rfl

/-- The chunks of a text are read one after the other. -/
theorem Lexed.tokens_of_ofChunks {cs : List Chunk} {lexed : Lexed}
    (h : ofChunks language path cs = .ok lexed) :
    lexed.tokens = cs.filterMap (Chunk.token? language path) := by
  induction cs generalizing lexed with
  | nil => cases h; rfl
  | cons c cs ih =>
    obtain ⟨first, hfirst, h⟩ := bind_eq_ok_iff.1 h
    obtain ⟨rest, hrest, h⟩ := bind_eq_ok_iff.1 h
    cases h
    rw [List.filterMap_cons, ← ih hrest]
    have htokens := tokens_of_ofChunk hfirst
    cases htoken : c.token? language path <;> rw [htokens, htoken] <;> rfl

theorem Lexed.ofChunk_ok_of_ofChunks {cs : List Chunk} {lexed : Lexed}
    (h : ofChunks language path cs = .ok lexed) (hc : c ∈ cs) :
    ∃ own, ofChunk language path c = .ok own := by
  induction cs generalizing lexed with
  | nil => cases hc
  | cons c' cs ih =>
    obtain ⟨first, hfirst, h⟩ := bind_eq_ok_iff.1 h
    obtain ⟨rest, hrest, -⟩ := bind_eq_ok_iff.1 h
    rcases List.mem_cons.1 hc with rfl | hc
    · exact ⟨first, hfirst⟩
    · exact ih hrest hc

theorem Token.from_of_token? (h : c.token? language path = some t) :
    Token.From language path c t := by
  cases c with
  | single l =>
    obtain ⟨kind, hkind, rfl⟩ := Option.map_eq_some_iff.1 h
    apply Token.From.line
    cases hclassify : Token.classify language l.content with
    | error e => rw [hclassify] at hkind; cases hkind
    | ok kind' => rw [hclassify] at hkind; cases hkind; rfl
  | string d opening body closing => cases h; exact .string d opening body closing
  | _ => cases h

/-- A chunk that is read without a token is a blank line or a comment. -/
theorem Chunk.blank_or_comment_of_token? {own : Lexed}
    (h : Lexed.ofChunk language path c = .ok own) (hnone : c.token? language path = none) :
    ∃ l, c = .blank l ∨ c = .comment l := by
  cases c with
  | blank l => exact ⟨l, .inl rfl⟩
  | comment l => exact ⟨l, .inr rfl⟩
  | single l =>
    rw [Lexed.ofChunk] at h
    rw [token?] at hnone
    cases hclassify : Token.classify language l.content with
    | error e => rw [hclassify] at h; cases h
    | ok kind => rw [hclassify] at hnone; cases hnone
  | string d opening body closing => cases hnone
  | unterminated d opening body => cases h

end Chunks

/-- The token starts with the content of the first line and stops with that of the last. -/
structure Token.Spans (path : Option Text) (t : Token) (first last : SourceLine) : Prop where
  first_ne_nil : first.content ≠ []
  last_ne_nil : last.content ≠ []
  start_eq : t.span.start = first.start
  stop_eq : t.span.stop = last.stop
  location_eq : t.location = first.location path
  line_eq : t.line = first.text
  ordered : first = last ∨ first.Before last

namespace SourceLine

theorem Before.number_ne {l l' : SourceLine} (h : l.Before l') : l.number ≠ l'.number :=
  Nat.ne_of_lt h.1

/-- The content of a line stands between its start and its stop. -/
theorem start_lt_stop {l : SourceLine} (h : l.content ≠ []) : l.start < l.stop := by
  have hpos : Text.byteSize l.content ≠ 0 := fun hzero ↦ h (Text.byteSize_eq_zero_iff.1 hzero)
  rw [start, stop, ← leading_append_content h, Text.byteSize_append]
  omega

theorem Before.start_lt_start {l l' : SourceLine} (h : l.Before l') (hne : l.content ≠ []) :
    l.start < l'.start := by
  have hstop := start_lt_stop hne
  have hbefore := h.2
  have hle : l'.offset ≤ l'.start := Nat.le_add_right _ _
  omega

end SourceLine

namespace Delimiter

theorem content_ne_nil_of_closes {d : Delimiter} {l : SourceLine} (h : d.closes l = true) :
    l.content ≠ [] := by
  rw [closes, decide_eq_true_eq] at h
  rw [h]
  exact List.cons_ne_nil _ _

end Delimiter

section Spans

variable {language : Language} {path : Option Text} {c : Chunk} {t : Token}

/-- A token spans the lines of its chunk. -/
theorem Token.From.spans (h : Token.From language path c t) (hsorted : c.Sorted)
    (hlines : c.lines.Pairwise SourceLine.Before) :
    ∃ first last, c.lines.head? = some first ∧ c.lines.getLast? = some last ∧
      t.Spans path first last := by
  cases h with
  | @line l kind hclassify =>
    have hlt := SourceLine.start_lt_stop hsorted.ne_nil
    refine ⟨l, l, rfl, rfl, hsorted.ne_nil, hsorted.ne_nil, rfl, ?_, rfl, rfl, .inl rfl⟩
    exact Nat.max_eq_right (Nat.le_of_lt hlt)
  | string d opening body closing =>
    obtain ⟨hopening, -, hcloses⟩ := hsorted
    have hfirst := (content_of_opening? hopening).1
    have hlast := Delimiter.content_ne_nil_of_closes hcloses
    have hbefore : opening.Before closing :=
      (List.pairwise_cons.1 hlines).1 closing (List.mem_append_right _ List.mem_cons_self)
    have hlt := hbefore.start_lt_start hfirst
    have hlt' := SourceLine.start_lt_stop hlast
    refine ⟨opening, closing, rfl, List.getLast?_concat, hfirst, hlast, rfl, ?_, rfl, rfl,
      .inr hbefore⟩
    exact Nat.max_eq_right (Nat.le_of_lt (Nat.lt_trans hlt hlt'))

end Spans

def Token.isString (t : Token) : Bool := t.kind matches .docString ..

/-- A line that speaks for itself says no multiline string. -/
theorem Token.not_isString_ofLine {language : Language} {path : Option Text} {l : SourceLine}
    {kind : TokenKind} (h : classify language l.content = .ok kind) :
    (ofLine path l kind).isString = false := by
  cases said_of_classify h <;> rfl

/-- The line is one of those from the first byte of the token to its last. -/
def Token.reaches (source : Text) (t : Token) (l : SourceLine) : Bool :=
  source.lineAt t.span.start ≤ l.number && l.number ≤ source.lineAt t.span.stop

section Reach

variable {language : Language} {path : Option Text} {source : Text} {t t' : Token}

/-- A token reaches from the number of its first line to that of its last. -/
theorem Token.Spans.reaches_iff {first last l : SourceLine} (h : t.Spans path first last)
    (hfirst : first ∈ SourceLine.ofText source) (hlast : last ∈ SourceLine.ofText source) :
    t.reaches source l = true ↔ first.number ≤ l.number ∧ l.number ≤ last.number := by
  rw [reaches, h.start_eq, h.stop_eq, SourceLine.lineAt_start hfirst, SourceLine.lineAt_stop hlast,
    Bool.and_eq_true, decide_eq_true_eq, decide_eq_true_eq]

/-- Of lines that come one after the other, the first and the last enclose all. -/
theorem SourceLine.number_le_of_pairwise {ls : List SourceLine} (h : ls.Pairwise Before)
    {first last l : SourceLine} (hfirst : ls.head? = some first)
    (hlast : ls.getLast? = some last) (hl : l ∈ ls) :
    first.number ≤ l.number ∧ l.number ≤ last.number := by
  obtain ⟨rest, rfl⟩ := List.head?_eq_some_iff.1 hfirst
  obtain ⟨init, hinit⟩ := List.getLast?_eq_some_iff.1 hlast
  constructor
  · rcases List.mem_cons.1 hl with rfl | hl
    · exact Nat.le_refl _
    · exact Nat.le_of_lt ((List.pairwise_cons.1 h).1 l hl).1
  · rw [hinit] at h hl
    rcases List.mem_append.1 hl with hl | hl
    · exact Nat.le_of_lt ((List.pairwise_append.1 h).2.2 l hl last List.mem_cons_self).1
    · obtain rfl := List.mem_singleton.1 hl
      exact Nat.le_refl _

namespace Chunk

variable {c : Chunk} {before after : List Chunk}

theorem ofText_of_ofLines (h : ofLines (SourceLine.ofText source) = before ++ c :: after) :
    SourceLine.ofText source = before.flatMap lines ++ (c.lines ++ after.flatMap lines) := by
  rw [← flatMap_lines_ofLines (SourceLine.ofText source), h, List.flatMap_append,
    List.flatMap_cons]

theorem lines_subset (h : c ∈ ofLines (SourceLine.ofText source)) :
    c.lines ⊆ SourceLine.ofText source := by
  intro l hl
  rw [← flatMap_lines_ofLines (SourceLine.ofText source)]
  exact List.mem_flatMap.2 ⟨c, h, hl⟩

theorem pairwise_ofLines (source : Text) : (ofLines (SourceLine.ofText source)).Pairwise
    fun c c' ↦ ∀ l ∈ c.lines, ∀ l' ∈ c'.lines, l.Before l' := by
  have hall := SourceLine.pairwise_ofText source
  rw [← flatMap_lines_ofLines (SourceLine.ofText source), List.pairwise_flatMap] at hall
  exact hall.2

theorem pairwise_lines (h : c ∈ ofLines (SourceLine.ofText source)) :
    c.lines.Pairwise SourceLine.Before := by
  have hall := SourceLine.pairwise_ofText source
  rw [← flatMap_lines_ofLines (SourceLine.ofText source), List.pairwise_flatMap] at hall
  exact hall.1 c h

/-- A token spans lines of the text in which its chunk stands. -/
theorem spans_of_mem (h : c ∈ ofLines (SourceLine.ofText source))
    (hfrom : Token.From language path c t) :
    ∃ first ∈ SourceLine.ofText source, ∃ last ∈ SourceLine.ofText source,
      c.lines.head? = some first ∧ c.lines.getLast? = some last ∧ t.Spans path first last := by
  obtain ⟨first, last, hfirst, hlast, hspans⟩ :=
    hfrom.spans (sorted_of_mem_ofLines h) (pairwise_lines h)
  exact ⟨first, lines_subset h (List.mem_of_head? hfirst), last,
    lines_subset h (List.mem_of_getLast? hlast), hfirst, hlast, hspans⟩

/-- A token reaches exactly the lines of the chunk from which it was read. -/
theorem filter_reaches (h : c ∈ ofLines (SourceLine.ofText source))
    (hfrom : Token.From language path c t) :
    (SourceLine.ofText source).filter (t.reaches source) = c.lines := by
  obtain ⟨first, hfirst, last, hlast, hhead, hgetLast, hspans⟩ := spans_of_mem h hfrom
  have hreaches (l : SourceLine) := hspans.reaches_iff (l := l) hfirst hlast
  obtain ⟨before, after, hcs⟩ := List.append_of_mem h
  have hall := SourceLine.pairwise_ofText source
  rw [ofText_of_ofLines hcs] at hall ⊢
  obtain ⟨-, hrest, hbefore⟩ := List.pairwise_append.1 hall
  obtain ⟨-, -, hafter⟩ := List.pairwise_append.1 hrest
  have hnone : (before.flatMap lines).filter (t.reaches source) = [] := by
    rw [List.filter_eq_nil_iff]
    intro l hl hreached
    have hle := ((hreaches l).1 hreached).1
    have hlt := (hbefore l hl first (List.mem_append_left _ (List.mem_of_head? hhead))).1
    omega
  have hnone' : (after.flatMap lines).filter (t.reaches source) = [] := by
    rw [List.filter_eq_nil_iff]
    intro l hl hreached
    have hle := ((hreaches l).1 hreached).2
    have hlt := (hafter last (List.mem_of_getLast? hgetLast) l hl).1
    omega
  have hown : c.lines.filter (t.reaches source) = c.lines := by
    rw [List.filter_eq_self]
    intro l hl
    exact (hreaches l).2 (SourceLine.number_le_of_pairwise (pairwise_lines h) hhead hgetLast hl)
  rw [List.filter_append, List.filter_append, hnone, hnone', hown, List.nil_append,
    List.append_nil]

/-- A line stands in one chunk only. -/
theorem eq_of_mem_lines {c' : Chunk} (h : c ∈ ofLines (SourceLine.ofText source))
    (h' : c' ∈ ofLines (SourceLine.ofText source)) {l : SourceLine} (hl : l ∈ c.lines)
    (hl' : l ∈ c'.lines) : c = c' := by
  have hbefore := pairwise_ofLines source
  obtain ⟨before, after, hcs⟩ := List.append_of_mem h
  rw [hcs] at hbefore h'
  obtain ⟨-, hrest, hfront⟩ := List.pairwise_append.1 hbefore
  rcases List.mem_append.1 h' with h' | h'
  · exact absurd rfl (hfront c' h' c List.mem_cons_self l hl' l hl).number_ne
  · rcases List.mem_cons.1 h' with rfl | h'
    · rfl
    · exact absurd rfl ((List.pairwise_cons.1 hrest).1 c' h' l hl l hl').number_ne

end Chunk

end Reach

/-! ## Every line once -/

/-- What a line of a text is to its tokens. -/
inductive LineSort where
  | blank
  | comment
  /-- The line on which a token opens that is not a multiline string. -/
  | opening (t : Token)
  /-- A line from the opening delimiter of a multiline string to the closing one. -/
  | inString (t : Token)

def SourceLine.IsOf (source : Text) (ts : List Token) (l : SourceLine) : LineSort → Prop
  | .blank => l.content = [] ∧ ∀ t ∈ ts, t.reaches source l = false
  | .comment => l.content.head? = some '#' ∧ ∀ t ∈ ts, t.reaches source l = false
  | .opening t =>
    t ∈ ts ∧ t.isString = false ∧ source.lineAt t.span.start = l.number ∧ t.line = l.text
  | .inString t => t ∈ ts ∧ t.isString = true ∧ t.reaches source l = true

/-- The tokens account for the lines of a text. -/
structure AccountsForLines (language : Language) (path : Option Text) (source : Text)
    (ts : List Token) : Prop where
  /-- Every line is of exactly one sort. -/
  line : ∀ l ∈ SourceLine.ofText source, ∃! sort, l.IsOf source ts sort
  /-- No token is there twice. -/
  nodup : ts.Nodup
  /-- Each token stops on a line above the one on which the next starts. -/
  order : ts.Pairwise fun t t' ↦ source.lineAt t.span.stop < source.lineAt t'.span.start
  /-- A token that is not a multiline string reaches one line, which says it. -/
  single : ∀ t ∈ ts, t.isString = false → ∃ l kind, Speaks l.content ∧
    Token.classify language l.content = .ok kind ∧ t = .ofLine path l kind ∧
    (SourceLine.ofText source).filter (t.reaches source) = [l]
  /-- A multiline string reaches the lines from the one that opens it to the first that closes
  it. -/
  string : ∀ t ∈ ts, t.isString = true → ∃ d opening body closing,
    Delimiter.opening? opening.content = some d ∧ (∀ l ∈ body, d.closes l = false) ∧
    d.closes closing = true ∧ t = .ofString path d opening body closing ∧
    (SourceLine.ofText source).filter (t.reaches source) = opening :: body ++ [closing]
  /-- A line outside multiline strings that is neither blank nor a comment opens one token. -/
  opened : ∀ l ∈ SourceLine.ofText source, l.content ≠ [] → l.content.head? ≠ some '#' →
    (∀ t ∈ ts, t.isString = true → t.reaches source l = false) →
      ∃ t ∈ ts, t.line = l.text ∧ ∀ t' ∈ ts, source.lineAt t'.span.start = l.number ↔ t' = t
  /-- A line of a multiline string gives no token of its own. -/
  hidden : ∀ t ∈ ts, t.isString = true → ∀ l ∈ SourceLine.ofText source,
    t.reaches source l = true → ∀ t' ∈ ts, t'.reaches source l = true → t' = t

section Accounts

variable {language : Language} {path : Option Text} {source : Text} {lexed : Lexed}

/-- Every token was read from a chunk of its text. -/
theorem exists_chunk_of_mem_tokens (h : Lexed.ofText language path source = .ok lexed) {t : Token}
    (ht : t ∈ lexed.tokens) :
    ∃ c ∈ Chunk.ofLines (SourceLine.ofText source), c.token? language path = some t := by
  rw [Lexed.tokens_of_ofChunks h] at ht
  exact List.mem_filterMap.1 ht

/-- The tokens that reach a line are those of its chunk. -/
theorem reaches_iff_token? (h : Lexed.ofText language path source = .ok lexed) {c : Chunk}
    (hc : c ∈ Chunk.ofLines (SourceLine.ofText source)) {l : SourceLine} (hl : l ∈ c.lines)
    {t : Token} (ht : t ∈ lexed.tokens) :
    t.reaches source l = true ↔ c.token? language path = some t := by
  have hmem := Chunk.lines_subset hc hl
  constructor
  · intro hreaches
    obtain ⟨c', hc', htoken⟩ := exists_chunk_of_mem_tokens h ht
    have hl' : l ∈ c'.lines := by
      rw [← Chunk.filter_reaches hc' (Token.from_of_token? htoken)]
      exact List.mem_filter.2 ⟨hmem, hreaches⟩
    rwa [Chunk.eq_of_mem_lines hc hc' hl hl']
  · intro htoken
    rw [← Chunk.filter_reaches hc (Token.from_of_token? htoken)] at hl
    exact (List.mem_filter.1 hl).2

/-- The line numbers of a token are those of the first and of the last line of its chunk. -/
theorem Chunk.lineAt_of_token? {c : Chunk} (hc : c ∈ ofLines (SourceLine.ofText source))
    {t : Token} (htoken : c.token? language path = some t) :
    ∃ first ∈ c.lines, ∃ last ∈ c.lines, t.Spans path first last ∧
      source.lineAt t.span.start = first.number ∧ source.lineAt t.span.stop = last.number ∧
      ∀ l ∈ c.lines, first.number ≤ l.number ∧ l.number ≤ last.number := by
  obtain ⟨first, hfirst, last, hlast, hhead, hgetLast, hspans⟩ :=
    spans_of_mem hc (Token.from_of_token? htoken)
  refine ⟨first, List.mem_of_head? hhead, last, List.mem_of_getLast? hgetLast, hspans, ?_, ?_,
    fun l hl ↦ SourceLine.number_le_of_pairwise (pairwise_lines hc) hhead hgetLast hl⟩
  · rw [hspans.start_eq, SourceLine.lineAt_start hfirst]
  · rw [hspans.stop_eq, SourceLine.lineAt_stop hlast]

/-- A token that is not a multiline string was read from a single line. -/
theorem Chunk.eq_single_of_token? {c : Chunk} {t : Token}
    (htoken : c.token? language path = some t) (hstring : t.isString = false) :
    ∃ l, c = .single l ∧ t.line = l.text := by
  cases Token.from_of_token? htoken with
  | @line l kind hclassify => exact ⟨l, rfl, rfl⟩
  | string d opening body closing => cases hstring

/-- A token reaches the line on which it starts. -/
theorem reaches_of_lineAt_start (h : Lexed.ofText language path source = .ok lexed) {t : Token}
    (ht : t ∈ lexed.tokens) {l : SourceLine} (hstart : source.lineAt t.span.start = l.number) :
    t.reaches source l = true := by
  obtain ⟨c, hc, htoken⟩ := exists_chunk_of_mem_tokens h ht
  obtain ⟨first, hfirst, last, -, -, hlineAt, hstop, hle⟩ := Chunk.lineAt_of_token? hc htoken
  have hfirstLast := (hle first hfirst).2
  rw [Token.reaches, Bool.and_eq_true, decide_eq_true_eq, decide_eq_true_eq, hstop, ← hstart,
    hlineAt]
  exact ⟨Nat.le_refl _, hfirstLast⟩

theorem pairwise_lineAt (h : Lexed.ofText language path source = .ok lexed) :
    lexed.tokens.Pairwise fun t t' ↦
      source.lineAt t.span.stop < source.lineAt t'.span.start := by
  rw [Lexed.tokens_of_ofChunks h, List.pairwise_filterMap]
  refine (Chunk.pairwise_ofLines source).imp_of_mem fun hc hc' hbefore t htoken t' htoken' ↦ ?_
  obtain ⟨-, -, last, hlast, -, -, hstop, -⟩ := Chunk.lineAt_of_token? hc htoken
  obtain ⟨first, hfirst, -, -, -, hstart, -, -⟩ := Chunk.lineAt_of_token? hc' htoken'
  rw [hstop, hstart]
  exact (hbefore last hlast first hfirst).1

theorem nodup_tokens (h : Lexed.ofText language path source = .ok lexed) :
    lexed.tokens.Nodup := by
  refine (pairwise_lineAt h).imp_of_mem fun {t t'} ht _ hlt heq ↦ ?_
  subst heq
  obtain ⟨c, hc, htoken⟩ := exists_chunk_of_mem_tokens h ht
  obtain ⟨first, hfirst, last, -, -, hstart, hstop, hle⟩ := Chunk.lineAt_of_token? hc htoken
  have hfirstLast := (hle first hfirst).2
  omega

/-- Every line stands in a chunk, and the tokens that reach it are the token of the chunk. -/
theorem exists_chunk_of_mem_ofText (h : Lexed.ofText language path source = .ok lexed)
    {l : SourceLine} (hl : l ∈ SourceLine.ofText source) :
    ∃ c ∈ Chunk.ofLines (SourceLine.ofText source), l ∈ c.lines ∧
      (∀ t ∈ lexed.tokens, t.reaches source l = true ↔ c.token? language path = some t) ∧
      ∀ t, c.token? language path = some t → t ∈ lexed.tokens := by
  have hflat := hl
  rw [← Chunk.flatMap_lines_ofLines (SourceLine.ofText source)] at hflat
  obtain ⟨c, hc, hmem⟩ := List.mem_flatMap.1 hflat
  refine ⟨c, hc, hmem, fun t ht ↦ reaches_iff_token? h hc hmem ht, fun t htoken ↦ ?_⟩
  rw [Lexed.tokens_of_ofChunks h]
  exact List.mem_filterMap.2 ⟨c, hc, htoken⟩

/-- No line is reached by two tokens. -/
theorem eq_of_reaches (h : Lexed.ofText language path source = .ok lexed) {l : SourceLine}
    (hl : l ∈ SourceLine.ofText source) {t t' : Token} (ht : t ∈ lexed.tokens)
    (ht' : t' ∈ lexed.tokens) (hreached : t.reaches source l = true)
    (hreached' : t'.reaches source l = true) : t' = t := by
  obtain ⟨c, -, -, hreaches, -⟩ := exists_chunk_of_mem_ofText h hl
  have htoken := (hreaches t ht).1 hreached
  have htoken' := (hreaches t' ht').1 hreached'
  exact Option.some.inj (htoken'.symm.trans htoken)

/-- A line that no token reaches is blank or a comment. -/
theorem blank_or_comment_of_token? (h : Lexed.ofText language path source = .ok lexed) {c : Chunk}
    (hc : c ∈ Chunk.ofLines (SourceLine.ofText source)) {l : SourceLine} (hl : l ∈ c.lines)
    (hnone : c.token? language path = none) :
    l.content = [] ∨ l.content.head? = some '#' := by
  have hsorted := Chunk.sorted_of_mem_ofLines hc
  obtain ⟨own, hown⟩ := Lexed.ofChunk_ok_of_ofChunks h hc
  obtain ⟨l', rfl | rfl⟩ := Chunk.blank_or_comment_of_token? hown hnone
  · exact .inl (List.mem_singleton.1 hl ▸ hsorted)
  · exact .inr (List.mem_singleton.1 hl ▸ hsorted)

/-- A line that no token reaches is of the sort that its content tells. -/
theorem isOf_iff_of_unreached (h : Lexed.ofText language path source = .ok lexed) {l : SourceLine}
    (hfree : ∀ t ∈ lexed.tokens, t.reaches source l = false) {sort : LineSort} :
    l.IsOf source lexed.tokens sort ↔
      sort = .blank ∧ l.content = [] ∨ sort = .comment ∧ l.content.head? = some '#' := by
  have hno : ∀ t ∈ lexed.tokens, t.reaches source l ≠ true :=
    fun t ht ↦ ne_true_of_eq_false (hfree t ht)
  constructor
  · intro hsort
    cases sort with
    | blank => exact .inl ⟨rfl, hsort.1⟩
    | comment => exact .inr ⟨rfl, hsort.1⟩
    | opening t => exact absurd (reaches_of_lineAt_start h hsort.1 hsort.2.2.1) (hno t hsort.1)
    | inString t => exact absurd hsort.2.2 (hno t hsort.1)
  · rintro (⟨rfl, hblank⟩ | ⟨rfl, hcomment⟩)
    · exact ⟨hblank, hfree⟩
    · exact ⟨hcomment, hfree⟩

/-- A line that one token reaches is of the sort that this token tells. -/
theorem isOf_iff_of_reached (h : Lexed.ofText language path source = .ok lexed) {l : SourceLine}
    {t : Token} (ht : t ∈ lexed.tokens)
    (hreaches : ∀ t' ∈ lexed.tokens, t'.reaches source l = true ↔ t' = t)
    (hopens : t.isString = false → source.lineAt t.span.start = l.number ∧ t.line = l.text)
    {sort : LineSort} :
    l.IsOf source lexed.tokens sort ↔
      sort = .opening t ∧ t.isString = false ∨ sort = .inString t ∧ t.isString = true := by
  have hreached : t.reaches source l = true := (hreaches t ht).2 rfl
  constructor
  · intro hsort
    cases sort with
    | blank => exact absurd hreached (ne_true_of_eq_false (hsort.2 t ht))
    | comment => exact absurd hreached (ne_true_of_eq_false (hsort.2 t ht))
    | opening t' =>
      obtain ⟨ht', hsingle, hstart, -⟩ := hsort
      obtain rfl := (hreaches t' ht').1 (reaches_of_lineAt_start h ht' hstart)
      exact .inl ⟨rfl, hsingle⟩
    | inString t' =>
      obtain ⟨ht', hstring, hreached'⟩ := hsort
      obtain rfl := (hreaches t' ht').1 hreached'
      exact .inr ⟨rfl, hstring⟩
  · rintro (⟨rfl, hsingle⟩ | ⟨rfl, hstring⟩)
    · exact ⟨ht, hsingle, hopens hsingle⟩
    · exact ⟨ht, hstring, hreached⟩

/-- A line is of exactly one sort. -/
theorem existsUnique_isOf (h : Lexed.ofText language path source = .ok lexed) {l : SourceLine}
    (hl : l ∈ SourceLine.ofText source) : ∃! sort, l.IsOf source lexed.tokens sort := by
  obtain ⟨c, hc, hmem, hreaches, htokens⟩ := exists_chunk_of_mem_ofText h hl
  cases htoken : c.token? language path with
  | none =>
    have hfree : ∀ t ∈ lexed.tokens, t.reaches source l = false := by
      intro t ht
      rw [← Bool.not_eq_true, hreaches t ht, htoken]
      exact nofun
    simp only [isOf_iff_of_unreached h hfree]
    rcases blank_or_comment_of_token? h hc hmem htoken with hblank | hcomment
    · exact ⟨.blank, by simp [hblank]⟩
    · have hne : l.content ≠ [] := by
        intro hnil
        rw [hnil] at hcomment
        cases hcomment
      exact ⟨.comment, by simp [hcomment, hne]⟩
  | some t =>
    have hopens : t.isString = false →
        source.lineAt t.span.start = l.number ∧ t.line = l.text := by
      intro hsingle
      obtain ⟨l', rfl, hline⟩ := Chunk.eq_single_of_token? htoken hsingle
      obtain ⟨first, hfirst, -, -, -, hstart, -, -⟩ := Chunk.lineAt_of_token? hc htoken
      rw [List.mem_singleton.1 hfirst] at hstart
      rw [List.mem_singleton.1 hmem]
      exact ⟨hstart, hline⟩
    have honly : ∀ t' ∈ lexed.tokens, t'.reaches source l = true ↔ t' = t := by
      intro t' ht'
      rw [hreaches t' ht', htoken, Option.some.injEq]
      exact eq_comm
    simp only [isOf_iff_of_reached h (htokens t htoken) honly hopens]
    cases hstring : t.isString with
    | false => exact ⟨.opening t, by simp⟩
    | true => exact ⟨.inString t, by simp⟩

/-- Each line of a text is of exactly one sort, and the tokens account for all lines that say
something. -/
theorem accounts_for_lines (h : Lexed.ofText language path source = .ok lexed) :
    AccountsForLines language path source lexed.tokens where
  line _ hl := existsUnique_isOf h hl
  nodup := nodup_tokens h
  order := pairwise_lineAt h
  single t ht hsingle := by
    obtain ⟨c, hc, htoken⟩ := exists_chunk_of_mem_tokens h ht
    have hsorted := Chunk.sorted_of_mem_ofLines hc
    have hfrom := Token.from_of_token? htoken
    have hfilter := Chunk.filter_reaches hc hfrom
    cases hfrom with
    | @line l kind hclassify => exact ⟨l, kind, hsorted, hclassify, rfl, hfilter⟩
    | string d opening body closing => cases hsingle
  string t ht hstring := by
    obtain ⟨c, hc, htoken⟩ := exists_chunk_of_mem_tokens h ht
    obtain hsorted := Chunk.sorted_of_mem_ofLines hc
    have hfrom := Token.from_of_token? htoken
    have hfilter := Chunk.filter_reaches hc hfrom
    cases hfrom with
    | @line l kind hclassify =>
      rw [Token.not_isString_ofLine hclassify] at hstring
      cases hstring
    | string d opening body closing =>
      obtain ⟨hopening, hbody, hcloses⟩ := hsorted
      exact ⟨d, opening, body, closing, hopening, hbody, hcloses, rfl, hfilter⟩
  opened l hl hne hcomment hfree := by
    obtain ⟨sort, hsort, -⟩ := existsUnique_isOf h hl
    cases sort with
    | blank => exact absurd hsort.1 hne
    | comment => exact absurd hsort.1 hcomment
    | inString t => exact absurd hsort.2.2 (ne_true_of_eq_false (hfree t hsort.1 hsort.2.1))
    | opening t =>
      obtain ⟨ht, -, hstart, hline⟩ := hsort
      refine ⟨t, ht, hline, fun t' ht' ↦ ⟨fun hstart' ↦ ?_, fun heq ↦ heq ▸ hstart⟩⟩
      exact eq_of_reaches h hl ht ht' (reaches_of_lineAt_start h ht hstart)
        (reaches_of_lineAt_start h ht' hstart')
  hidden _ ht _ _ hl hreached _ ht' hreached' := eq_of_reaches h hl ht ht' hreached hreached'

end Accounts

/-- A text in which a multiline string hides a comment, a step, the other delimiter, an escaped one
and an empty line. -/
def hidingText : Text :=
  ("Given a list\r\n \"\"\" md\n# kept\nThen kept\n```\n\\\"\\\"\\\"\n\n \"\"\"\n" ++
    "# dropped\n\nAnd é\n").toList

theorem accounts_for_lines_hidingText :
    ∃ lexed, Lexed.ofText Language.english none hidingText = .ok lexed ∧
      lexed.tokens.map (fun t ↦ (t.isString, hidingText.lineAt t.span.start,
        hidingText.lineAt t.span.stop)) = [(false, 1, 1), (true, 2, 8), (false, 11, 11)] ∧
      AccountsForLines Language.english none hidingText lexed.tokens := by
  have hread : (Lexed.ofText Language.english none hidingText).toOption.map
      (fun lexed ↦ lexed.tokens.map fun t ↦ (t.isString, hidingText.lineAt t.span.start,
        hidingText.lineAt t.span.stop)) =
      some [(false, 1, 1), (true, 2, 8), (false, 11, 11)] := by
    decide +kernel
  obtain ⟨lexed, h, hlines⟩ := toOption_map_eq_some_iff.1 hread
  exact ⟨lexed, h, hlines, accounts_for_lines h⟩

end Gherkin
