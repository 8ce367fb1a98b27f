import Mathlib.Data.List.Forall2
import Gherkin.Proofs.Feature.Printed

/-!
# Tables on the page

Every row of a table stands on a line of its own. A column is as wide as its widest cell, so all
lines of a table are equally long. Whether any other line is a row is told by the bars on it that
no backslash shields: the line has to end with such a bar, and its cells are what stands between
them.

Main statement: tables are written without loss, and the bars that are not shielded tell which lines
are rows and how many cells these have (`rows_are_lossless_code`).
-/

namespace Gherkin

namespace Cell

/-- The characters of a text, each with whether a backslash shields it. The first one is shielded
if `under` says so, and a backslash that is shielded shields nothing itself. -/
def shielding (under : Bool) : Text → List (Char × Bool)
  | [] => []
  | c :: rest => (c, under) :: shielding (!under && c == '\\') rest

def bareBar : Char × Bool := ('|', false)

theorem shielding_bar (rest : Text) :
    shielding false ('|' :: rest) = bareBar :: shielding false rest := rfl

theorem shielding_escape (c : Char) (rest : Text) :
    shielding false ('\\' :: c :: rest) = ('\\', false) :: (c, true) :: shielding false rest := rfl

/-- A character that is no backslash shields nothing, and neither does a backslash at the end. -/
theorem shielding_plain {c : Char} {rest : Text}
    (h : ∀ d rest', c = '\\' → rest = d :: rest' → False) :
    shielding false (c :: rest) = (c, false) :: shielding false rest := by
  cases rest with
  | nil => rfl
  | cons d rest =>
    have hc : c ≠ '\\' := fun hc ↦ h d rest hc rfl
    rw [shielding, Bool.not_false, Bool.true_and, beq_false_of_ne hc]

theorem ne_bareBar_of_ne {c : Char} {under : Bool} (h : c ≠ '|') : (c, under) ≠ bareBar :=
  fun heq ↦ h (Prod.ext_iff.1 heq).1

theorem shielded_ne_bareBar (c : Char) : (c, true) ≠ bareBar :=
  fun heq ↦ Bool.noConfusion (Prod.ext_iff.1 heq).2

theorem length_consHead (c : Char) {ps : List Text} (h : ps ≠ []) :
    (consHead c ps).length = ps.length := by
  cases ps with
  | nil => exact absurd rfl h
  | cons p ps => rfl

theorem consHead_ne_nil (c : Char) (ps : List Text) : consHead c ps ≠ [] := by
  cases ps <;> exact List.cons_ne_nil _ _

/-- A piece that got a character is not empty, so the last piece is empty only if it is another. -/
theorem getLast?_consHead_eq_nil_iff {c : Char} {ps : List Text} :
    (consHead c ps).getLast? = some [] ↔ 1 < ps.length ∧ ps.getLast? = some [] := by
  match ps with
  | [] => simp [consHead]
  | [p] => simp [consHead]
  | p :: q :: ps => simp [consHead, List.getLast?_cons_cons]

theorem getLast?_cons_eq_bareBar_iff {x : Char × Bool} {xs : List (Char × Bool)}
    (hx : x ≠ bareBar) :
    (x :: xs).getLast? = some bareBar ↔
      0 < xs.count bareBar ∧ (bareBar :: xs).getLast? = some bareBar := by
  cases xs with
  | nil => simpa using hx
  | cons y xs =>
    rw [List.getLast?_cons_cons, List.getLast?_cons_cons]
    exact ⟨fun h ↦ ⟨List.count_pos_iff.2 (List.mem_of_getLast? h), h⟩, And.right⟩

/-- A text has one more piece than it has bars that are not shielded. -/
theorem length_pieces (t : Text) :
    (pieces t).length = (shielding false t).count bareBar + 1 := by
  fun_induction pieces t with
  | case1 => rfl
  | case2 rest ih => rw [List.length_cons, ih, shielding_bar, List.count_cons_self]
  | case3 c rest ih =>
    rw [length_consHead _ (consHead_ne_nil _ _), length_consHead _ (pieces_ne_nil rest), ih,
      shielding_escape, List.count_cons_of_ne (by decide),
      List.count_cons_of_ne (shielded_ne_bareBar c)]
  | case4 c rest hbar hescape ih =>
    rw [length_consHead _ (pieces_ne_nil rest), ih, shielding_plain hescape,
      List.count_cons_of_ne (ne_bareBar_of_ne hbar)]

/-- The last piece is empty if no character is behind the last bar, or behind the one that the text
comes after. -/
theorem getLast?_pieces_eq_nil_iff (t : Text) :
    (pieces t).getLast? = some [] ↔
      (bareBar :: shielding false t).getLast? = some bareBar := by
  fun_induction pieces t with
  | case1 => exact iff_of_true rfl rfl
  | case2 rest ih =>
    obtain ⟨p, ps, hps⟩ := List.exists_cons_of_ne_nil (pieces_ne_nil rest)
    rw [shielding_bar, List.getLast?_cons_cons, hps, List.getLast?_cons_cons, ← hps]
    exact ih
  | case3 c rest ih =>
    rw [getLast?_consHead_eq_nil_iff, length_consHead _ (pieces_ne_nil rest),
      getLast?_consHead_eq_nil_iff, and_self_left, shielding_escape, List.getLast?_cons_cons,
      List.getLast?_cons_cons, getLast?_cons_eq_bareBar_iff (shielded_ne_bareBar c), length_pieces,
      Nat.succ_lt_succ_iff, ih]
  | case4 c rest hbar hescape ih =>
    rw [getLast?_consHead_eq_nil_iff, shielding_plain hescape, List.getLast?_cons_cons,
      getLast?_cons_eq_bareBar_iff (ne_bareBar_of_ne hbar), length_pieces, Nat.succ_lt_succ_iff,
      ih]

/-- A line is a row if it ends with a bar that is not shielded. -/
theorem ofRow?_isSome_iff (body : Text) :
    (ofRow? body).isSome ↔ (shielding false ('|' :: body)).getLast? = some bareBar := by
  rw [shielding_bar, ← getLast?_pieces_eq_nil_iff]
  unfold ofRow?
  dsimp only
  split
  · next h => exact iff_of_true rfl h
  · next h => exact iff_of_false Bool.false_ne_true h

/-- A row has a cell less than it has bars that are not shielded. -/
theorem length_of_ofRow? {body : Text} {cells : List Text} (h : ofRow? body = some cells) :
    cells.length + 1 = (shielding false ('|' :: body)).count bareBar := by
  unfold ofRow? at h
  dsimp only at h
  split at h
  · obtain rfl := Option.some.inj h
    rw [List.length_map, List.length_dropLast, length_pieces, shielding_bar, List.count_cons_self]
    rfl
  · cases h

end Cell

/-- The cells fit into columns of the given widths. -/
abbrev Fits (widths : List Nat) (cells : List Text) : Prop :=
  List.Forall₂ (fun width cell ↦ cell.length ≤ width) widths cells

/-- All rows that fit are written with the same number of characters. -/
theorem length_rowLine {widths : List Nat} {cells : List Text} (h : Fits widths cells) :
    (rowLine widths cells).length = widths.foldr (fun w n ↦ w + 3 + n) 1 := by
  rw [rowLine, List.length_cons]
  induction h with
  | nil => rfl
  | @cons w cell ws cells hfits _ ih =>
    have hpadded : (paddedCell w cell).length = w + 3 := by
      simp only [paddedCell, Text.blanks, List.length_append, List.length_cons, List.length_nil,
        List.length_replicate]
      omega
    rw [List.zip_cons_cons, List.flatMap_cons, List.length_append, hpadded, Nat.add_assoc, ih,
      List.foldr_cons]

theorem fits_widen {widths : List Nat} {row : List Text} (h : row.length = widths.length) :
    Fits (widen widths row) row := by
  fun_induction widen widths row with
  | case1 w ws cell cells ih =>
    exact .cons (Nat.le_max_right _ _) (ih (Nat.succ.inj h))
  | case2 ws row hne =>
    cases ws with
    | nil =>
      obtain rfl : row = [] := List.eq_nil_of_length_eq_zero h.symm
      exact .nil
    | cons w ws =>
      cases row with
      | nil => cases h
      | cons cell cells => exact (hne cell cells w ws rfl rfl).elim

/-- Columns only get wider. -/
theorem Fits.widen {widths : List Nat} {cells : List Text} (h : Fits widths cells)
    (row : List Text) : Fits (widen widths row) cells := by
  induction h generalizing row with
  | nil => cases row <;> exact .nil
  | cons hfits h ih =>
    cases row with
    | nil => exact .cons hfits h
    | cons cell row => exact .cons (Nat.le_trans hfits (Nat.le_max_left _ _)) (ih row)

theorem Fits.foldl_widen {widths : List Nat} {cells : List Text} (h : Fits widths cells)
    (rows : List (List Text)) : Fits (rows.foldl Gherkin.widen widths) cells := by
  induction rows generalizing widths with
  | nil => exact h
  | cons row rows ih => exact ih (h.widen row)

/-- Once all rows were taken into account, each of them fits. -/
theorem fits_foldl_widen {rows : List (List Text)} {row : List Text} (hrow : row ∈ rows)
    {widths : List Nat} (hlen : row.length = widths.length) :
    Fits (rows.foldl widen widths) row := by
  induction rows generalizing widths with
  | nil => exact absurd hrow List.not_mem_nil
  | cons first rows ih =>
    rcases List.mem_cons.1 hrow with rfl | hrow
    · exact (fits_widen hlen).foldl_widen rows
    · exact ih hrow (by rw [length_widen, hlen])

/-- The table has rows of one width, and its cells have white space at no edge but for line
feeds. -/
structure Table.Trimmed (t : Table) : Prop where
  length_eq : ∀ row ∈ t.rows, row.length = t.width
  edge : ∀ row ∈ t.rows, ∀ cell ∈ row,
    (∀ c ∈ cell.head?, Cell.Edge c) ∧ ∀ c ∈ cell.getLast?, Cell.Edge c

/-- The widths of columns that a table is written with. -/
def Table.widths (t : Table) : List Nat :=
  (t.rows.map (·.map Cell.escape)).foldl widen (List.replicate t.width 0)

theorem Table.length_widths (t : Table) : t.widths.length = t.width := by
  rw [widths, length_foldl_widen, List.length_replicate]

/-- A written table has a line for each row, and nothing else. -/
theorem Table.splitLines_lines (t : Table) (indent : Nat) :
    Text.splitLines (Text.unlines (t.lines.map (indented indent))) =
      t.lines.map (indented indent) ++ [[]] := by
  refine Text.splitLines_unlines fun line hline ↦ ?_
  obtain ⟨row, hrow, rfl⟩ := List.mem_map.1 hline
  rw [t.lines_eq] at hrow
  obtain ⟨cells, -, rfl⟩ := List.mem_map.1 hrow
  exact (Text.oneLine_blanks indent).append (Cell.oneLine_rowLine _ cells)

/-- Behind the blanks each line of a table is read as the row that it was written from. -/
theorem Table.Trimmed.read_lines {t : Table} (h : t.Trimmed) (indent : Nat) :
    List.Forall₂ (fun row line ↦ ∃ body, line = indented indent ('|' :: body) ∧
      Cell.ofRow? body = some row) t.rows (t.lines.map (indented indent)) := by
  rw [t.lines_eq, List.map_map, List.forall₂_map_right_iff, List.forall₂_same]
  intro row hrow
  refine ⟨_, rfl, Cell.ofRow?_rowLine ?_ fun cell hcell ↦ ?_⟩
  · rw [← widths, t.length_widths, h.length_eq row hrow]
  · exact Cell.solid_escape (h.edge row hrow cell hcell).1 (h.edge row hrow cell hcell).2

/-- The columns of a table are aligned. -/
theorem Table.Trimmed.length_lines {t : Table} (h : t.Trimmed) (indent : Nat) :
    ∀ line ∈ t.lines.map (indented indent),
      line.length = indent + t.widths.foldr (fun w n ↦ w + 3 + n) 1 := by
  intro line hline
  obtain ⟨row, hrow, rfl⟩ := List.mem_map.1 hline
  rw [t.lines_eq] at hrow
  obtain ⟨cells, hcells, rfl⟩ := List.mem_map.1 hrow
  have hfits : Fits t.widths (cells.map Cell.escape) := by
    refine fits_foldl_widen (List.mem_map_of_mem hcells) ?_
    rw [List.length_map, h.length_eq cells hcells, List.length_replicate]
  rw [indented, List.length_append, Text.blanks, List.length_replicate, ← widths,
    length_rowLine hfits]

/-- Rows are a lossless code for cells. A table is written as one line for each row, all lines are
equally long, and behind the blanks each is read as the cells of its row. A line that begins with
a bar is a row if and only if it ends with a bar that is not shielded, and then it has a cell less
than it has such bars. -/
theorem rows_are_lossless_code :
    (∀ (t : Table) (indent : Nat), t.Trimmed →
      Text.splitLines (Text.unlines (t.lines.map (indented indent))) =
          t.lines.map (indented indent) ++ [[]] ∧
        List.Forall₂ (fun row line ↦ ∃ body, line = indented indent ('|' :: body) ∧
          Cell.ofRow? body = some row) t.rows (t.lines.map (indented indent)) ∧
        ∃ n, ∀ line ∈ t.lines.map (indented indent), line.length = n) ∧
    ∀ body : Text,
      ((Cell.ofRow? body).isSome ↔
        (Cell.shielding false ('|' :: body)).getLast? = some ('|', false)) ∧
      ∀ cells, Cell.ofRow? body = some cells →
        cells.length + 1 = (Cell.shielding false ('|' :: body)).count ('|', false) := by
  refine ⟨fun t indent h ↦ ?_, fun body ↦ ?_⟩
  · exact ⟨t.splitLines_lines indent, h.read_lines indent, _, h.length_lines indent⟩
  · exact ⟨Cell.ofRow?_isSome_iff body, fun cells hcells ↦ Cell.length_of_ofRow? hcells⟩

/-- Cells with bars and backslashes, with a backslash at the end and line feeds at the edges. -/
def shieldedTable : Table where
  rows := [["\n a|b \\", "\\n"], ["", "\\\\|\n"]]
  location := ⟨none, 1, 1⟩
  span := ⟨0, 40, by decide⟩

theorem rows_are_lossless_code_shieldedTable :
    shieldedTable.Trimmed ∧
      shieldedTable.lines.map (indented 2) =
        [("  | \\n a\\|b \\\\ | \\\\n      |" : Text), "  |            | \\\\\\\\\\|\\n |"] ∧
      List.Forall₂ (fun row line ↦ ∃ body, line = indented 2 ('|' :: body) ∧
        Cell.ofRow? body = some row) shieldedTable.rows (shieldedTable.lines.map (indented 2)) ∧
      Cell.ofRow? ("a\\|b|c\\\\|" : Text) = some [("a|b" : Text), "c\\"] ∧
      3 = (Cell.shielding false ('|' :: ("a\\|b|c\\\\|" : Text))).count ('|', false) := by
  have htrimmed : shieldedTable.Trimmed := by
    refine ⟨by decide, fun row hrow cell hcell ↦ ?_⟩
    have hedges : ∀ cell ∈ shieldedTable.rows.flatten,
        cell.head?.all Cell.Edge ∧ cell.getLast?.all Cell.Edge := by decide
    simpa [Option.all_eq_true] using hedges cell (List.mem_flatten.2 ⟨row, hrow, hcell⟩)
  have hcells : Cell.ofRow? ("a\\|b|c\\\\|" : Text) = some [("a|b" : Text), "c\\"] := by decide
  exact ⟨htrimmed, by decide, (rows_are_lossless_code.1 shieldedTable 2 htrimmed).2.1, hcells,
    (rows_are_lossless_code.2 _).2 _ hcells⟩

end Gherkin
