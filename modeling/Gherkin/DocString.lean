import Gherkin.Position

/-!
# Multiline strings

A multiline string stands between two lines that hold a delimiter. Its content lines are freed of
the indentation of the opening line, escaped delimiters are expanded, and one empty line next to
each delimiter is dropped.
-/

namespace Gherkin

/-- What opens and closes a multiline string. -/
inductive Delimiter where
  /-- Three quotation marks. -/
  | quotes
  /-- Three grave accents. -/
  | graves
  deriving DecidableEq, Repr

namespace Delimiter

/-- The character of which a delimiter consists. -/
def char : Delimiter → Char
  | quotes => '"'
  | graves => '\x60'

def mark (d : Delimiter) : Text := [d.char, d.char, d.char]

/-- How the delimiter is written inside the string. -/
def escaped (d : Delimiter) : Text := ['\\', d.char, '\\', d.char, '\\', d.char]

/-- The delimiter with which a line without indentation begins. -/
def opening? (content : Text) : Option Delimiter :=
  [quotes, graves].find? fun d ↦ Text.startsWith content d.mark

/-- What follows the delimiter on the opening line, which names the type of the content. -/
def contentType? (d : Delimiter) (content : Text) : Option Text :=
  let label := Text.trim (content.drop d.mark.length)
  if label.isEmpty then none else some label

def closes (d : Delimiter) (line : SourceLine) : Bool := line.content = d.mark

/-- A content line with escaped delimiters expanded. -/
def unescape (d : Delimiter) (line : Text) : Text := Text.replace d.escaped d.mark line

/-- A content line in which every delimiter is escaped. -/
def escape (d : Delimiter) (line : Text) : Text := Text.replace d.mark d.escaped line

end Delimiter

namespace DocString

/-- A content line is shallow if it is not blank and is indented less than the opening line. -/
def isShallow (indent : Nat) (line : Text) : Bool :=
  !Text.isBlank line && decide ((Text.leading line).length < indent)

/-- A content line without the indentation of the opening line. A blank line becomes empty, and a
shallow line loses all of its indentation. -/
def dedent (indent : Nat) (line : Text) : Text :=
  if Text.isBlank line then []
  else if isShallow indent line then Text.trimStart line
  else line.drop indent

/-- The lines without an empty line at the front and without one at the end. -/
def stripEdges (lines : List Text) : List Text :=
  let tail := if lines.head? = some [] then lines.tail else lines
  if tail.getLast? = some [] then tail.dropLast else tail

/-- The content of a string from its content lines. -/
def assemble (d : Delimiter) (indent : Nat) (lines : List Text) : Text :=
  Text.join ['\n'] (stripEdges (lines.map fun l ↦ d.unescape (dedent indent l)))

end DocString

end Gherkin
