import Gherkin.Proofs.Readings
import Gherkin.Proofs.Token.Proper
import Gherkin.Proofs.Tree.Unplaced
import Mathlib.Data.List.Forall2

/-!
# Tokens seen through a blur

Two texts may say the same and yet stand in different places. A blur fixes how much of the places
and of the kept lines is looked at; byte spans and the kept source are never looked at. Lines that
look alike outside multiline strings, and lines of multiline strings from which the same is left
once their indentation is taken off, say the same through the blur, and they are refused and warned
about alike.

Main statement: `Lexed.blur_ofChunks_of_alike`.
-/

namespace Gherkin

/-- What is seen of locations and of kept lines. Faults that belong to no line stand at the first
column of the first line, and a fault at the end keeps an empty line. -/
structure Blur where
  location : Location → Location
  line : Text → Text
  location_start : ∀ path, location ⟨path, 1, 1⟩ = ⟨path, 1, 1⟩
  line_nil : line [] = []

variable (b : Blur)

def SyntaxError.blur (e : SyntaxError) : SyntaxError :=
  ⟨b.location e.location, e.fault, b.line e.line⟩

def ParseError.blur : ParseError → ParseError
  | refused e => refused (e.blur b)
  | unknownLanguage code => unknownLanguage code
  | unreadable path reason => unreadable path reason

def Token.blur (t : Token) : Token := ⟨t.kind, b.location t.location, .nothing, b.line t.line⟩

/-- What a warning shows of its line is seen in full. -/
def Warning.blur (w : Warning) : Warning := { w with location := b.location w.location }

def Lexed.blur (lexed : Lexed) : Lexed :=
  ⟨lexed.tokens.map (·.blur b), lexed.warnings.map (·.blur b)⟩

variable (path : Option Text)

/-- Lines outside multiline strings look alike if they hold the same between the white space at
their ends and what is seen of them is the same. -/
structure SourceLine.Alike (l m : SourceLine) : Prop where
  content : l.content = m.content
  location : b.location (l.location path) = b.location (m.location path)
  line : b.line l.text = b.line m.text

/-- Lines of multiline strings that are indented by `i` and by `j` look alike if the same is left of
them without this indentation, and they lack some of it alike. -/
structure SourceLine.AlikeWithin (i j : Nat) (l m : SourceLine) : Prop where
  dedent : DocString.dedent i l.text = DocString.dedent j m.text
  shallow : DocString.isShallow i l.text = DocString.isShallow j m.text
  location : b.location (l.location path) = b.location (m.location path)
  trimStart : Text.trimStart l.text = Text.trimStart m.text

/-- Chunks look alike if their lines do, one by one. The line that closes a string only bounds its
span. -/
inductive Chunk.Alike : Chunk → Chunk → Prop
  | blank (l m : SourceLine) : Alike (.blank l) (.blank m)
  | comment (l m : SourceLine) : Alike (.comment l) (.comment m)
  | single {l m : SourceLine} (h : l.Alike b path m) : Alike (.single l) (.single m)
  | string (d : Delimiter) {l m closing closing' : SourceLine} {body body' : List SourceLine}
      (h : l.Alike b path m)
      (hbody : List.Forall₂ (SourceLine.AlikeWithin b path l.indent m.indent) body body') :
      Alike (.string d l body closing) (.string d m body' closing')
  | unterminated (d : Delimiter) {l m : SourceLine} {body body' : List SourceLine}
      (h : l.Alike b path m) : Alike (.unterminated d l body) (.unterminated d m body')

variable {b path}

theorem Chunk.Alike.ofLine {l m : SourceLine} (h : l.Alike b path m) :
    Alike b path (ofLine l) (ofLine m) := by
  unfold Chunk.ofLine
  rw [h.content]
  split
  · exact .blank l m
  · split
    · exact .comment l m
    · exact .single h

section Strings

variable {i j : Nat} {body body' : List SourceLine}
  (h : List.Forall₂ (SourceLine.AlikeWithin b path i j) body body')

include h

theorem assemble_of_alikeWithin (d : Delimiter) :
    DocString.assemble d i (body.map (·.text)) = DocString.assemble d j (body'.map (·.text)) := by
  have hlines : (body.map (·.text)).map (fun l ↦ d.unescape (DocString.dedent i l)) =
      (body'.map (·.text)).map fun l ↦ d.unescape (DocString.dedent j l) := by
    induction h with
    | nil => rfl
    | cons hl _ ih => simp only [List.map_cons, hl.dedent, ih]
  rw [DocString.assemble, DocString.assemble, hlines]

theorem warnings_of_alikeWithin :
    (Warning.ofBody path i body).map (·.blur b) = (Warning.ofBody path j body').map (·.blur b) := by
  unfold Warning.ofBody
  induction h with
  | nil => rfl
  | cons hl _ ih =>
    rw [List.filter_cons, List.filter_cons, hl.shallow]
    split
    · rw [List.map_cons, List.map_cons, List.map_cons, List.map_cons, ih]
      simp only [Warning.blur, hl.location, hl.trimStart]
    · exact ih

end Strings

variable {language : Language}

theorem Lexed.blur_ofChunk_of_alike {c c' : Chunk} (h : c.Alike b path c') :
    mapBoth (·.blur b) (blur b) (ofChunk language path c) =
      mapBoth (·.blur b) (blur b) (ofChunk language path c') := by
  cases h with
  | blank | comment => rfl
  | @single l m h =>
    rw [ofChunk, ofChunk, h.content]
    cases Token.classify language m.content with
    | error fault => simp only [mapBoth_error, SyntaxError.blur, h.location, h.line]
    | ok kind =>
      simp only [mapBoth_ok, blur, Token.ofLine, Token.blur, List.map_cons, h.location, h.line]
  | string d h hbody =>
    simp only [ofChunk, mapBoth_ok, blur, Token.ofString, Token.blur, List.map_cons, h.content,
      h.location, h.line, assemble_of_alikeWithin hbody, warnings_of_alikeWithin hbody]
  | unterminated d h =>
    simp only [ofChunk, mapBoth_error, SyntaxError.blur, h.location, h.line]

/-- Chunks that look alike say the same, and the first of them that is refused is refused alike. -/
theorem Lexed.blur_ofChunks_of_alike {cs cs' : List Chunk}
    (h : List.Forall₂ (Chunk.Alike b path) cs cs') :
    mapBoth (·.blur b) (blur b) (ofChunks language path cs) =
      mapBoth (·.blur b) (blur b) (ofChunks language path cs') := by
  induction h with
  | nil => rfl
  | cons hc _ ih =>
    refine mapBoth_bind_congr (blur_ofChunk_of_alike hc) fun first first' hfirst ↦ ?_
    refine mapBoth_bind_congr ih fun rest rest' hrest ↦ ?_
    simp only [blur, Lexed.mk.injEq] at hfirst hrest
    simp only [pure, Except.pure, mapBoth_ok, blur, List.map_append, hfirst, hrest]

end Gherkin
