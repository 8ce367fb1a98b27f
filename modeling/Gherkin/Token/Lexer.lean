import Gherkin.Cell
import Gherkin.Token.Basic

/-!
# From lines to tokens

The physical lines of a document are first sorted into chunks: a blank line, a comment line, a line
that speaks for itself, or all lines of a multiline string from the opening to the closing one. Each
line of the third sort gives one token, each multiline string gives one, and the others give none.

Main statement: the chunks hold every line once and in order (`Chunk.flatMap_lines_ofLines`).
-/

namespace Gherkin

/-- One or more neighbouring lines that are read together. -/
inductive Chunk where
  | blank (line : SourceLine)
  | comment (line : SourceLine)
  | single (line : SourceLine)
  /-- A multiline string: the opening line, the content lines, the closing line. -/
  | string (delimiter : Delimiter) (opening : SourceLine) (body : List SourceLine)
      (closing : SourceLine)
  /-- A multiline string that is not closed before the document ends. -/
  | unterminated (delimiter : Delimiter) (opening : SourceLine) (body : List SourceLine)
  deriving DecidableEq, Repr

namespace Chunk

def lines : Chunk → List SourceLine
  | blank l | comment l | single l => [l]
  | string _ opening body closing => opening :: body ++ [closing]
  | unterminated _ opening body => opening :: body

def ofLines : List SourceLine → List Chunk
  | [] => []
  | l :: ls =>
    if l.content = [] then blank l :: ofLines ls
    else if l.content.head? = some '#' then comment l :: ofLines ls
    else
      match Delimiter.opening? l.content with
      | none => single l :: ofLines ls
      | some d =>
        let body := ls.takeWhile fun x ↦ !d.closes x
        match _h : ls.dropWhile fun x ↦ !d.closes x with
        | [] => [unterminated d l body]
        | closing :: rest => string d l body closing :: ofLines rest
termination_by ls => ls.length
decreasing_by
  all_goals simp_wf
  have := congrArg List.length _h
  have := (List.dropWhile_suffix (l := ls) fun x ↦ !d.closes x).length_le
  simp at *; omega

theorem flatMap_lines_ofLines (ls : List SourceLine) : (ofLines ls).flatMap lines = ls := by
  fun_induction ofLines ls with
  | case1 => rfl
  | case2 l ls _ ih => simp [lines, ih]
  | case3 l ls _ _ ih => simp [lines, ih]
  | case4 l ls _ _ _ ih => simp [lines, ih]
  | case5 l ls _ _ d _ body h =>
    have := List.takeWhile_append_dropWhile (l := ls) (p := fun x ↦ !d.closes x)
    rw [h] at this
    simpa [lines, body] using this
  | case6 l ls _ _ d _ body closing rest h ih =>
    have := List.takeWhile_append_dropWhile (l := ls) (p := fun x ↦ !d.closes x)
    rw [h] at this
    simpa [lines, body, ih] using this

end Chunk

/-- The tags on a line. A word that starts with a number sign opens a comment. -/
def readTags : List Text → Except SyntaxFault (List Text)
  | [] => .ok []
  | word :: rest =>
    match word with
    | '#' :: _ => .ok []
    | '@' :: c :: name => (readTags rest).map ((c :: name) :: ·)
    | _ => .error (.invalidTag word)

namespace Token

/-- The token of a line and a fault's report at it share place and line. -/
def ofLine (path : Option Text) (line : SourceLine) (kind : TokenKind) : Token :=
  ⟨kind, line.location path, line.span, line.text⟩

/-- What a line that speaks for itself says. -/
def classify (language : Language) (content : Text) : Except SyntaxFault TokenKind :=
  match content with
  | '|' :: body =>
    match Cell.ofRow? body with
    | some cells => .ok (.row cells)
    | none => .error .openRow
  | '@' :: _ => (readTags (Text.words content)).map fun names ↦ .tags names.eraseDups
  | _ =>
    match language.readHeader? content with
    | some b => .ok (.block b.kind b.keyword b.name)
    | none =>
      match language.readStep? content with
      | some s => .ok (.step s.kind s.literal s.text)
      | none => .ok (.text content)

/-- The token of a multiline string. -/
def ofString (path : Option Text) (d : Delimiter) (opening : SourceLine) (body : List SourceLine)
    (closing : SourceLine) : Token :=
  let content := DocString.assemble d opening.indent (body.map (·.text))
  { kind := .docString d (d.contentType? opening.content) content
    location := opening.location path
    span := Span.between opening.start closing.stop
    line := opening.text }

end Token

/-- The warnings about the content lines of a multiline string. -/
def Warning.ofBody (path : Option Text) (indent : Nat) (body : List SourceLine) : List Warning :=
  (body.filter fun l ↦ DocString.isShallow indent l.text).map fun l ↦
    ⟨l.location path, Text.trimStart l.text⟩

/-- The tokens of a document and the warnings that came up on the way. -/
structure Lexed where
  tokens : List Token
  warnings : List Warning
  deriving DecidableEq, Repr

namespace Lexed

/-- What a chunk says. -/
def ofChunk (language : Language) (path : Option Text) : Chunk → Except SyntaxError Lexed
  | .blank _ | .comment _ => .ok ⟨[], []⟩
  | .single l =>
    match Token.classify language l.content with
    | .ok kind => .ok ⟨[Token.ofLine path l kind], []⟩
    | .error fault => .error ⟨l.location path, fault, l.text⟩
  | .string d opening body closing =>
    .ok ⟨[Token.ofString path d opening body closing], Warning.ofBody path opening.indent body⟩
  | .unterminated _ opening _ => .error ⟨opening.location path, .unterminatedString, opening.text⟩

/-- What chunks say one after the other; the first fault counts. -/
def ofChunks (language : Language) (path : Option Text) : List Chunk → Except SyntaxError Lexed
  | [] => .ok ⟨[], []⟩
  | c :: cs => do
    let first ← ofChunk language path c
    let rest ← ofChunks language path cs
    return ⟨first.tokens ++ rest.tokens, first.warnings ++ rest.warnings⟩

def ofText (language : Language) (path : Option Text) (source : Text) :
    Except SyntaxError Lexed :=
  ofChunks language path (Chunk.ofLines (SourceLine.ofText source))

end Lexed

/-- The code in a line `# language: code` that is the first line of the text which is not blank. -/
def declaredLanguage? (source : Text) : Option Text := do
  let first ← ((SourceLine.ofText source).map (·.content)).find? fun content ↦ content ≠ []
  let rest ← Text.afterPrefix? ['#'] first
  let rest ← Text.afterPrefix? "language".toList (Text.trimStart rest)
  let rest ← Text.afterPrefix? [':'] (Text.trimStart rest)
  let code := Text.trim rest
  if code.isEmpty then none else some code

end Gherkin
