import Gherkin.DocString
import Gherkin.Diagnostic
import Gherkin.Language.Basic

/-!
# Tokens

A token is what one line of a document says, or what the lines of one multiline string say together.
-/

namespace Gherkin

/-- What a token says. -/
inductive TokenKind where
  /-- Names of tags, without the sign in front. -/
  | tags (names : List Text)
  /-- A header: a block keyword and a name. -/
  | block (kind : BlockKind) (keyword name : Text)
  /-- A step: a step keyword and a body. -/
  | step (kind : StepKind) (literal text : Text)
  /-- The cells of a table row. -/
  | row (cells : List Text)
  /-- A multiline string. -/
  | docString (delimiter : Delimiter) (contentType : Option Text) (content : Text)
  /-- Any other line. -/
  | text (line : Text)
  deriving DecidableEq, Repr

/-- What a token is called in a message. -/
def TokenKind.describe : TokenKind → Text
  | tags _ => "tags"
  | block _ keyword _ => "'" ++ keyword ++ ":'"
  | step _ literal _ => "step '" ++ Text.trim literal ++ "'"
  | row _ => "table row"
  | docString .. => "multiline string"
  | text _ => "text"

/-- A token with the place of its content and the line that opens it. -/
structure Token where
  kind : TokenKind
  location : Location
  span : Span
  line : Text
  deriving DecidableEq, Repr

namespace Token

/-- The document is refused at this token. -/
def refuse (t : Token) (fault : SyntaxFault) : SyntaxError := ⟨t.location, fault, t.line⟩

def isTags (t : Token) : Bool := t.kind matches .tags _

/-- The names a token of tags holds; none for another token. -/
def tagNames (t : Token) : List Text :=
  match t.kind with
  | .tags names => names
  | _ => []

/-- The kind of block a header opens. -/
def blockKind? (t : Token) : Option BlockKind :=
  match t.kind with
  | .block kind .. => some kind
  | _ => none

end Token

end Gherkin
