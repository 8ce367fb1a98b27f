import Gherkin.StepKind

/-!
# Languages

A language gives the keywords of a document: words that open blocks, and words that open steps. One
keyword may begin with another, so keywords are tried from the longest to the shortest, and the
first one that fits decides how a line is read.

Main statements: what `readStep?` and `readHeader?` answer is a reading of the line by one of the
language's own keywords (`mem_of_readHeader`, `mem_of_readStep`).
-/

namespace Gherkin

/-- What a header line opens. -/
inductive BlockKind where
  | feature
  | background
  | scenario
  | scenarioOutline
  | examples
  deriving DecidableEq, Repr

/-- The groups into which a language sorts its keywords. -/
inductive KeywordGroup where
  | feature
  | background
  | scenario
  | examples
  | statement
  deriving DecidableEq, Repr

def BlockKind.name : BlockKind → String
  | feature => "feature"
  | background => "background"
  | scenario => "scenario"
  | scenarioOutline => "scenario_outline"
  | examples => "examples"

def KeywordGroup.name : KeywordGroup → String
  | feature => "feature"
  | background => "background"
  | scenario => "scenario"
  | examples => "examples"
  | statement => "statement"

/-- The group of the keywords that open a block; a scenario and its outline share one. -/
def BlockKind.group : BlockKind → KeywordGroup
  | feature => .feature
  | background => .background
  | scenario | scenarioOutline => .scenario
  | examples => .examples

/-- The keyword lists of a language as they are written down. -/
structure Vocabulary where
  feature : List String
  background : List String
  scenario : List String
  scenarioOutline : List String
  examples : List String
  context : List String
  action : List String
  outcome : List String
  and : List String
  but : List String

/-- A word that opens a block. -/
structure BlockKeyword where
  literal : Text
  kind : BlockKind
  deriving DecidableEq, Repr

/-- A word that opens a step. Where the literal ends in a blank, white space has to follow the
word. -/
structure StepKeyword where
  literal : Text
  kind : StepKind
  deriving DecidableEq, Repr

/-- A keyword set under a code, with the language's name in English and in itself. -/
structure Language where
  code : Text
  name : String
  native : String
  blocks : List BlockKeyword
  steps : List StepKeyword
  deriving DecidableEq, Repr

namespace Vocabulary

/-- The block keywords, group after group. -/
def blockKeywords (v : Vocabulary) : List BlockKeyword :=
  let tagged (kind : BlockKind) (words : List String) : List BlockKeyword :=
    words.map fun w ↦ ⟨Text.trim w.toList, kind⟩
  tagged .feature v.feature ++ tagged .background v.background ++
    tagged .scenarioOutline v.scenarioOutline ++ tagged .scenario v.scenario ++
    tagged .examples v.examples

/-- The keywords with those dropped whose literal came earlier. -/
def dropRepeated (known : List Text) : List StepKeyword → List StepKeyword
  | [] => []
  | k :: ks =>
    if k.literal ∈ known then dropRepeated known ks
    else k :: dropRepeated (k.literal :: known) ks

/-- The step keywords, kind after kind. The star is of the kind `bullet` in every list, and a
literal in several lists is of the kind of the first. -/
def stepKeywords (v : Vocabulary) : List StepKeyword :=
  let tagged (kind : StepKind) (words : List String) : List StepKeyword :=
    words.map fun w ↦ ⟨w.toList, if Text.trim w.toList = ['*'] then .bullet else kind⟩
  dropRepeated [] <|
    tagged .context v.context ++ tagged .action v.action ++ tagged .outcome v.outcome ++
      tagged .and v.and ++ tagged .but v.but

/-- The language of a vocabulary: its keywords from the longest to the shortest, those of one length
in the order in which they are written down. -/
def toLanguage (v : Vocabulary) (code : Text) (name native : String) : Language where
  code := code
  name := name
  native := native
  blocks := v.blockKeywords.mergeSort fun a b ↦ b.literal.length ≤ a.literal.length
  steps := v.stepKeywords.mergeSort fun a b ↦ b.literal.length ≤ a.literal.length

end Vocabulary

/-- A line read as a header: the kind and the literal of its keyword, and the name after the
colon. -/
structure HeaderLine where
  kind : BlockKind
  keyword : Text
  name : Text
  deriving DecidableEq, Repr

/-- A line read as a step: the kind and the literal of its keyword, and the body after it. -/
structure StepLine where
  kind : StepKind
  literal : Text
  text : Text
  deriving DecidableEq, Repr

/-- The line read as a header with this keyword: the keyword, white space if any, a colon, and a
name that may be empty. -/
def BlockKeyword.read? (k : BlockKeyword) (line : Text) : Option HeaderLine := do
  let rest ← Text.afterPrefix? k.literal line
  let name ← Text.afterPrefix? [':'] (Text.trimStart rest)
  return ⟨k.kind, k.literal, Text.trim name⟩

/-- The line read as a step with this keyword. A body is required, and a keyword whose literal ends
in a blank has to be followed by white space of any kind. -/
def StepKeyword.read? (k : StepKeyword) (line : Text) : Option StepLine := do
  let word := Text.trimEnd k.literal
  let rest ← Text.afterPrefix? word line
  guard (word.length = k.literal.length ∨ rest.head?.any Text.isSpace)
  guard (¬ Text.isBlank rest)
  return ⟨k.kind, k.literal, Text.trim rest⟩

namespace Language

/-- A line without indentation read as a header. -/
def readHeader? (l : Language) (line : Text) : Option HeaderLine :=
  l.blocks.findSome? (·.read? line)

/-- A line without indentation read as a step. -/
def readStep? (l : Language) (line : Text) : Option StepLine :=
  l.steps.findSome? (·.read? line)

/-- The keywords of a group, longest first. -/
def keywords (l : Language) : KeywordGroup → List Text
  | .statement => l.steps.map (·.literal)
  | group => (l.blocks.filter fun k ↦ k.kind.group = group).map (·.literal)

/-- The keywords of a group as one pattern that matches any of them, longest first. -/
def alternation (l : Language) (group : KeywordGroup) : Text :=
  let escaped (c : Char) : Text := if c ∈ "\\.+*?()|[]\x7b\x7d^$#&-~".toList then ['\\', c] else [c]
  "(?:" ++ Text.join ['|'] ((l.keywords group).map (·.flatMap escaped)) ++ ")"

theorem mem_of_readHeader {l : Language} {line : Text} {b : HeaderLine}
    (h : l.readHeader? line = some b) : ∃ k ∈ l.blocks, k.read? line = some b :=
  List.exists_of_findSome?_eq_some h

theorem mem_of_readStep {l : Language} {line : Text} {s : StepLine}
    (h : l.readStep? line = some s) : ∃ k ∈ l.steps, k.read? line = some s :=
  List.exists_of_findSome?_eq_some h

end Language

end Gherkin
