import Gherkin.Cell
import Gherkin.Feature.Basic
import Gherkin.Language.Bundled

/-!
# Features in canonical form

Every node can be written down again. Blocks are indented by two columns below what they belong to,
the columns of tables are aligned, and a multiline string gets one more empty line wherever reading
would drop one. A feature that is not in English begins with a line that names its language.

A node is written as a list of lines at an indentation; `display` closes each line with a line feed.
-/

namespace Gherkin

def indentStep : Nat := 2

def indented (indent : Nat) (line : Text) : Text := Text.blanks indent ++ line

/-- A header line; a name that is empty leaves no blank after the colon. -/
def headerLine (keyword name : Text) : Text :=
  if name.isEmpty then keyword ++ [':'] else keyword ++ [':', ' '] ++ name

/-- The line of tags, if there are any. -/
def tagLines (tags : List Text) : List Text :=
  if tags.isEmpty then [] else [Text.join [' '] (tags.map ('@' :: ·))]

def descriptionLines (d : Option Description) : List Text := (d.map (·.lines)).getD []

/-- The widths of columns after a row was taken into account. -/
def widen (widths : List Nat) (row : List Text) : List Nat :=
  match widths, row with
  | w :: ws, cell :: cells => max w cell.length :: widen ws cells
  | ws, _ => ws

/-- A written cell with its padding and the bar that closes it. -/
def paddedCell (width : Nat) (cell : Text) : Text :=
  [' '] ++ cell ++ Text.blanks (width - cell.length) ++ [' ', '|']

/-- A table row whose columns have the given widths. -/
def rowLine (widths : List Nat) (cells : List Text) : Text :=
  '|' :: (widths.zip cells).flatMap fun (w, cell) ↦ paddedCell w cell

/-- The lines of a table. Each column is as wide as its widest written cell. -/
def Table.lines (t : Table) : List Text :=
  let rows := t.rows.map fun row ↦ row.map Cell.escape
  let widths := rows.foldl widen (List.replicate t.width 0)
  rows.map (rowLine widths)

/-- A content line at an indentation; blank lines are left empty. -/
def contentLine (d : Delimiter) (indent : Nat) (line : Text) : Text :=
  if Text.isBlank line then [] else indented indent (d.escape line)

/-- The content lines at an indentation. Next to a delimiter an empty line is added to a blank one,
because reading drops one there. -/
def contentLines (d : Delimiter) (indent : Nat) (content : Text) : List Text :=
  if content.isEmpty then []
  else
    let lines := Text.splitLines content
    let guardLine (edge : Option Text) : List Text := if edge.any Text.isBlank then [[]] else []
    guardLine lines.head? ++ lines.map (contentLine d indent) ++ guardLine lines.getLast?

/-- The lines of a multiline string at an indentation. -/
def DocString.lines (indent : Nat) (s : DocString) : List Text :=
  [indented indent (s.delimiter.mark ++ s.contentType.getD [])] ++
    contentLines s.delimiter indent s.content ++ [indented indent s.delimiter.mark]

def Step.lines (indent : Nat) (s : Step) : List Text :=
  let table := (s.table.map Table.lines).getD []
  let string := (s.docString.map (DocString.lines (indent + indentStep))).getD []
  [indented indent (s.literal ++ s.text)] ++ table.map (indented (indent + indentStep)) ++ string

def Background.lines (indent : Nat) (b : Background) : List Text :=
  [indented indent (headerLine b.keyword b.name)] ++
    (descriptionLines b.description).map (indented (indent + indentStep)) ++
    b.steps.flatMap (Step.lines (indent + indentStep))

def Examples.lines (indent : Nat) (e : Examples) : List Text :=
  (tagLines e.tags).map (indented indent) ++ [indented indent (headerLine e.keyword e.name)] ++
    (descriptionLines e.description ++ e.table.lines).map (indented (indent + indentStep))

def Scenario.lines (indent : Nat) (s : Scenario) : List Text :=
  (tagLines s.tags).map (indented indent) ++ [indented indent (headerLine s.keyword s.name)] ++
    (descriptionLines s.description).map (indented (indent + indentStep)) ++
    s.steps.flatMap (Step.lines (indent + indentStep)) ++
    s.examples.flatMap fun e ↦ [] :: e.lines (indent + indentStep)

/-- The line that names a language other than English. -/
def languageLines (code : Text) : List Text :=
  if code = Language.defaultCode then [] else ["# language: " ++ code]

def Feature.lines (f : Feature) : List Text :=
  languageLines f.language.code ++ tagLines f.tags ++ [headerLine f.keyword f.name] ++
    (descriptionLines f.description).map (indented indentStep) ++
    ((f.background.map fun b ↦ [] :: b.lines indentStep).getD []) ++
    f.scenarios.flatMap fun s ↦ [] :: s.lines indentStep

def Table.display (t : Table) : Text := Text.unlines t.lines

def DocString.display (s : DocString) : Text := Text.unlines (s.lines 0)

def Step.display (s : Step) : Text := Text.unlines (s.lines 0)

def Background.display (b : Background) : Text := Text.unlines (b.lines 0)

def Examples.display (e : Examples) : Text := Text.unlines (e.lines 0)

def Scenario.display (s : Scenario) : Text := Text.unlines (s.lines 0)

/-- A feature in canonical form. -/
def Feature.display (f : Feature) : Text := Text.unlines f.lines

end Gherkin
