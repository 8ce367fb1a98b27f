import Gherkin.Feature.OfTree
import Gherkin.Language.Bundled
import Gherkin.Token.Lexer
import Gherkin.Tree.Parser

/-!
# Reading documents

The entry points of the library: a text is read as a feature or as bare steps. The language is the
one that the text names, else the one asked for, else English.
-/

namespace Gherkin

/-- What a caller may ask for: the language of texts that name none, and the path that positions
carry. -/
structure ParseOptions where
  language : Option Text := none
  path : Option Text := none
  deriving DecidableEq, Repr

def dropByteOrderMark (t : Text) : Text := Text.dropPrefix ['\ufeff'] t

/-- Where a text ends, for what is wrong there: the first column of the last line. -/
def endOfText (path : Option Text) (source : Text) : Location :=
  ⟨path, (SourceLine.ofText source).length, 1⟩

/-- The structure of a text, read from the given start. -/
def parse (start : DocumentKind) (options : ParseOptions) (text : Text) :
    Except ParseError ParsedText := do
  let source := dropByteOrderMark text
  let code := (declaredLanguage? source <|> options.language).getD Language.defaultCode
  match Language.find? code with
  | none => throw (.unknownLanguage (Language.normalizeCode code))
  | some language =>
    let lexed ← (Lexed.ofText language options.path source).mapError .refused
    let eof := endOfText options.path source
    let tree ← (Tree.ofTokens start eof lexed.tokens).mapError .refused
    return ⟨tree, language, source, options.path, lexed.warnings⟩

def parseFeature (options : ParseOptions) (text : Text) : Except ParseError Feature := do
  let parsed ← parse .feature options text
  parsed.toFeature.mapError .refused

def parseSteps (options : ParseOptions) (text : Text) : Except ParseError (List Step) := do
  let parsed ← parse .steps options text
  parsed.toSteps.mapError .refused

/-- A file read as a feature, given what reading the file gave. Positions carry the path of the file
unless the options name another. -/
def parseFeatureFile (options : ParseOptions) (path : Text) (content : Except ReadFailure Text) :
    Except ParseError Feature :=
  match content with
  | .error reason => .error (.unreadable path reason)
  | .ok text => parseFeature { options with path := options.path <|> some path } text

end Gherkin
