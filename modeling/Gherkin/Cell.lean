import Gherkin.Text.Basic

/-!
# Table rows in written form

A row is a line of cells between bars. Inside a cell a backslash shields the next character, so that
a cell can hold bars, line feeds and backslashes.

Main statements: reading back what was written gives the cell (`unescape_escape`), and what is
written holds no unshielded bar (`pieces_escape`).
-/

namespace Gherkin.Cell

/-- A cell with its bars, line feeds and backslashes shielded. -/
def escape (cell : Text) : Text :=
  cell.flatMap fun c ↦
    if c = '\\' then ['\\', '\\'] else if c = '|' then ['\\', '|']
    else if c = '\n' then ['\\', 'n'] else [c]

/-- A written cell with its escapes expanded; a backslash before any other character stands for
itself. -/
def unescape : Text → Text
  | '\\' :: '|' :: rest => '|' :: unescape rest
  | '\\' :: 'n' :: rest => '\n' :: unescape rest
  | '\\' :: '\\' :: rest => '\\' :: unescape rest
  | c :: rest => c :: unescape rest
  | [] => []

theorem unescape_escape (cell : Text) : unescape (escape cell) = cell := by
  induction cell with
  | nil => rfl
  | cons c cell ih =>
    simp only [escape, List.flatMap_cons] at ih ⊢
    by_cases h₁ : c = '\\'
    · simp [h₁, unescape, ih]
    · by_cases h₂ : c = '|'
      · simp [h₂, unescape, ih]
      · by_cases h₃ : c = '\n'
        · simp [h₃, unescape, ih]
        · simp [h₁, h₂, h₃, unescape, ih]

/-- A character put before the first of the pieces. -/
def consHead (c : Char) : List Text → List Text
  | [] => [[c]]
  | piece :: rest => (c :: piece) :: rest

/-- The pieces of a text between its unshielded bars; there is one more piece than bars. -/
def pieces : Text → List Text
  | [] => [[]]
  | '|' :: rest => [] :: pieces rest
  | '\\' :: c :: rest => consHead '\\' (consHead c (pieces rest))
  | c :: rest => consHead c (pieces rest)

/-- The cells of a row, which is given without the bar it begins with. Nothing comes out unless the
row ends with an unshielded bar. White space around a cell is dropped before escapes are expanded,
so that an escaped line feed at the edge of a cell survives. -/
def ofRow? (body : Text) : Option (List Text) :=
  let parts := pieces body
  if parts.getLast? = some [] then some (parts.dropLast.map fun raw ↦ unescape (Text.trim raw))
  else none

theorem pieces_ne_nil (t : Text) : pieces t ≠ [] := by
  fun_induction pieces t with
  | case1 => simp
  | case2 => simp
  | case3 c rest ih => cases h : pieces rest <;> simp [consHead]
  | case4 c rest _ _ ih => cases h : pieces rest <;> simp [consHead]

theorem pieces_escape (cell rest : Text) :
    pieces (escape cell ++ rest) =
      (escape cell ++ (pieces rest).headD []) :: (pieces rest).tail := by
  induction cell with
  | nil =>
    cases h : pieces rest with
    | nil => exact absurd h (pieces_ne_nil rest)
    | cons p ps => simp [escape, h]
  | cons c cell ih =>
    simp only [escape, List.flatMap_cons, List.append_assoc] at ih ⊢
    by_cases h₁ : c = '\\'
    · simp [h₁, pieces, ih, consHead]
    · by_cases h₂ : c = '|'
      · simp [h₂, pieces, ih, consHead]
      · by_cases h₃ : c = '\n'
        · simp [h₃, pieces, ih, consHead]
        · simp [h₁, h₂, h₃, pieces, ih, consHead]

end Gherkin.Cell
