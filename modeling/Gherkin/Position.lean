import Gherkin.Text.Basic

/-!
# Positions in a document

A `Location` names a line and a column of a document, both counted from one and columns in
characters, so that it agrees with what an editor shows. A `Span` is a range of bytes, so that the
text of a node can be cut out of the source. A `SourceLine` is one physical line with its number and
offset, from which both are computed.

Main statements: the smallest span over two spans contains both (`Span.le_join_left`,
`Span.le_join_right`).
-/

namespace Gherkin

/-- A line and a column of a document, with the document's path where it was read from a file. -/
structure Location where
  path : Option Text
  line : Nat
  column : Nat
  deriving DecidableEq, Repr

/-- The written form: path, line and column with colons between; a document without a path is
called `<string>`. -/
def Location.display (l : Location) : Text :=
  l.path.getD "<string>" ++ ":" ++ Text.ofNat l.line ++ ":" ++ Text.ofNat l.column

/-- A range of bytes, from `start` up to but not including `stop`. -/
structure Span where
  start : Nat
  stop : Nat
  start_le_stop : start ≤ stop
  deriving DecidableEq, Repr

namespace Span

/-- The span between two offsets; where they come in the wrong order it is empty and stands at the
first. -/
def between (start stop : Nat) : Span := ⟨start, max start stop, Nat.le_max_left ..⟩

/-- The smallest span that covers both. -/
def join (a b : Span) : Span :=
  ⟨min a.start b.start, max a.stop b.stop, by
    have := a.start_le_stop; have := b.start_le_stop; omega⟩

def length (s : Span) : Nat := s.stop - s.start

/-- One span lies within another. -/
instance : LE Span := ⟨fun a b ↦ b.start ≤ a.start ∧ a.stop ≤ b.stop⟩

theorem le_iff {a b : Span} : a ≤ b ↔ b.start ≤ a.start ∧ a.stop ≤ b.stop := Iff.rfl

theorem le_join_left (a b : Span) : a ≤ a.join b := by
  rw [le_iff]; simp only [join]; omega

theorem le_join_right (a b : Span) : b ≤ a.join b := by
  rw [le_iff]; simp only [join]; omega

end Span

/-- One physical line: its number from one, the byte offset at which it starts, and its text without
the line feed or a carriage return before it. -/
structure SourceLine where
  number : Nat
  offset : Nat
  text : Text
  deriving DecidableEq, Repr

namespace SourceLine

/-- A line without one carriage return at its end. -/
def chomp (raw : Text) : Text :=
  if raw.getLast? = some '\r' then raw.dropLast else raw

/-- Lines numbered from `number`, the first of them at byte `offset`. -/
def enumerate (number offset : Nat) : List Text → List SourceLine
  | [] => []
  | raw :: rest =>
    ⟨number, offset, chomp raw⟩ :: enumerate (number + 1) (offset + Text.byteSize raw + 1) rest

/-- The physical lines of a document. A text that ends in a line feed has an empty last line. -/
def ofText (source : Text) : List SourceLine := enumerate 1 0 (Text.splitLines source)

/-- The line without the white space at its ends. -/
def content (l : SourceLine) : Text := Text.trim l.text

def indent (l : SourceLine) : Nat := (Text.leading l.text).length

def location (path : Option Text) (l : SourceLine) : Location := ⟨path, l.number, l.indent + 1⟩

def start (l : SourceLine) : Nat := l.offset + Text.byteSize (Text.leading l.text)

/-- The byte after the content. -/
def stop (l : SourceLine) : Nat := l.offset + Text.byteSize (Text.trimEnd l.text)

def span (l : SourceLine) : Span := Span.between l.start l.stop

end SourceLine

end Gherkin
