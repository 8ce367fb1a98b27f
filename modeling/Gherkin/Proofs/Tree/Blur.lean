import Gherkin.Proofs.Token.Blur
import Gherkin.Proofs.Tree.Relocation

/-!
# Trees seen through a blur

A blur is a relocation that forgets: it keeps of places and lines what is seen of them, and spans
and the source not at all. So the structure of tokens that are seen through a blur is that of the
tokens, seen through the blur.

Main statement: `Tree.blur_ofTokens`.
-/

namespace Gherkin

namespace Tree

variable (b : Blur)

def Header.blur (h : Header) : Header :=
  { h with location := b.location h.location, span := .nothing, line := b.line h.line }

def TextLine.blur (l : TextLine) : TextLine :=
  { l with location := b.location l.location, span := .nothing }

def Row.blur (r : Row) : Row :=
  { r with location := b.location r.location, span := .nothing, line := b.line r.line }

def StringNode.blur (s : StringNode) : StringNode :=
  { s with location := b.location s.location, span := .nothing }

def Argument.blur : Argument → Argument
  | table rows => table (rows.map (·.blur b))
  | string s => string (s.blur b)

def StepNode.blur (s : StepNode) : StepNode :=
  { s with
    location := b.location s.location, span := .nothing, argument := s.argument.map (·.blur b) }

def ExamplesNode.blur (e : ExamplesNode) : ExamplesNode :=
  ⟨e.header.blur b, e.description.map (·.blur b), e.rows.map (·.blur b)⟩

def BlockNode.blur (n : BlockNode) : BlockNode :=
  ⟨n.header.blur b, n.description.map (·.blur b), n.steps.map (·.blur b),
    n.examples.map (·.blur b)⟩

def FeatureNode.blur (n : FeatureNode) : FeatureNode :=
  ⟨n.header.blur b, n.description.map (·.blur b), n.background.map (·.blur b),
    n.scenarios.map (·.blur b)⟩

end Tree

def Tree.blur (b : Blur) : Tree → Tree
  | document f => document (f.blur b)
  | snippet ss => snippet (ss.map (·.blur b))

/-- What a blur does to places, with no span and no source seen. -/
def Blur.relocation (b : Blur) : Relocation where
  location := b.location
  span _ := .nothing
  line := b.line
  source _ := []
  location_start := b.location_start
  span_join _ _ := rfl
  line_nil := b.line_nil

/-- Tokens seen through a blur have the structure of the tokens, seen through the blur. -/
theorem Tree.blur_ofTokens (b : Blur) (eof : Location) (ts : List Token) (start : DocumentKind) :
    ofTokens start (b.location eof) (ts.map (·.blur b)) =
      mapBoth (·.blur b) (·.blur b) (ofTokens start eof ts) :=
  relocate_ofTokens b.relocation eof ts start

end Gherkin
