import Gherkin.Token.Basic

/-!
# The structure of a document

A tree says how the tokens of a document hang together, before any rule about names, widths of rows
or missing parts is checked. Its nodes are made of the tokens alone.
-/

namespace Gherkin

namespace Tree

/-- A header with the tags above it. -/
structure Header where
  tags : List Text
  kind : BlockKind
  keyword : Text
  name : Text
  location : Location
  span : Span
  line : Text
  deriving DecidableEq, Repr

/-- A line of a description. -/
structure TextLine where
  text : Text
  location : Location
  span : Span
  deriving DecidableEq, Repr

/-- A table row. -/
structure Row where
  cells : List Text
  location : Location
  span : Span
  line : Text
  deriving DecidableEq, Repr

/-- A multiline string. -/
structure StringNode where
  delimiter : Delimiter
  contentType : Option Text
  content : Text
  location : Location
  span : Span
  deriving DecidableEq, Repr

/-- What a step is given along with its line. -/
inductive Argument where
  | table (rows : List Row)
  | string (s : StringNode)
  deriving DecidableEq, Repr

/-- A step and its argument. -/
structure StepNode where
  kind : StepKind
  literal : Text
  text : Text
  location : Location
  span : Span
  argument : Option Argument
  deriving DecidableEq, Repr

/-- A block of examples. -/
structure ExamplesNode where
  header : Header
  description : List TextLine
  rows : List Row
  deriving DecidableEq, Repr

/-- A background or a scenario; a background has no examples. -/
structure BlockNode where
  header : Header
  description : List TextLine
  steps : List StepNode
  examples : List ExamplesNode
  deriving DecidableEq, Repr

/-- A whole feature. -/
structure FeatureNode where
  header : Header
  description : List TextLine
  background : Option BlockNode
  scenarios : List BlockNode
  deriving DecidableEq, Repr

/-- The header a token holds, under the given tags. -/
def Header.ofToken? (tags : List Text) (t : Token) : Option Header :=
  match t.kind with
  | .block kind keyword name => some ⟨tags, kind, keyword, name, t.location, t.span, t.line⟩
  | _ => none

def TextLine.ofToken? (t : Token) : Option TextLine :=
  match t.kind with
  | .text line => some ⟨line, t.location, t.span⟩
  | _ => none

def Row.ofToken? (t : Token) : Option Row :=
  match t.kind with
  | .row cells => some ⟨cells, t.location, t.span, t.line⟩
  | _ => none

def StringNode.ofToken? (t : Token) : Option StringNode :=
  match t.kind with
  | .docString d type content => some ⟨d, type, content, t.location, t.span⟩
  | _ => none

/-- The step a token holds, still without an argument. -/
def StepNode.ofToken? (t : Token) : Option StepNode :=
  match t.kind with
  | .step kind literal text => some ⟨kind, literal, text, t.location, t.span, none⟩
  | _ => none

def Header.refuse (h : Header) (fault : SyntaxFault) : SyntaxError := ⟨h.location, fault, h.line⟩

def Row.refuse (r : Row) (fault : SyntaxFault) : SyntaxError := ⟨r.location, fault, r.line⟩

end Tree

/-- What a document is read as: a feature, or bare steps as they stand in a snippet. -/
inductive DocumentKind where
  | feature
  | steps
  deriving DecidableEq, Repr

/-- The structure of a whole document. -/
inductive Tree where
  /-- A feature. -/
  | document (f : Tree.FeatureNode)
  /-- Bare steps. -/
  | snippet (ss : List Tree.StepNode)
  deriving DecidableEq, Repr

/-- What the document was read as. -/
def Tree.start : Tree → DocumentKind
  | document _ => .feature
  | snippet _ => .steps

end Gherkin
