import Gherkin.Feature.Printer
import Gherkin.Proofs.Text.Lines

/-!
# Rows that are written and read

A cell that was read has no white space at its edges but for line feeds, which are written with a
backslash. So the blanks around a written cell are all padding, and reading a row gives back the
cells that it was written from, however wide its columns are.

Main statements: cells that were read are solid when they are written (`solid_of_ofRow?`),
and rows of solid cells are read again (`ofRow?_rowLine`).
-/

namespace Gherkin.Cell

open Text (Solid isSpace isBlank trim blanks)

/-! ## Cells that were read -/

/-- A character that may stand at the edge of a cell. -/
def Edge (c : Char) : Prop := c = '\n' ∨ isSpace c = false

instance (c : Char) : Decidable (Edge c) :=
  inferInstanceAs (Decidable (c = '\n' ∨ isSpace c = false))

theorem escape_cons (c : Char) (cell : Text) : escape (c :: cell) = escape [c] ++ escape cell := by
  simp [escape]

theorem escape_append (cell cell' : Text) : escape (cell ++ cell') = escape cell ++ escape cell' :=
  List.flatMap_append

theorem head?_escape_singleton {c : Char} (h : Edge c) :
    ((escape [c]).head?.all fun d ↦ !isSpace d) ∧ (escape [c]).getLast?.all fun d ↦ !isSpace d := by
  by_cases h₁ : c = '\\'
  · subst h₁; decide
  by_cases h₂ : c = '|'
  · subst h₂; decide
  by_cases h₃ : c = '\n'
  · subst h₃; decide
  · have hspace : isSpace c = false := h.resolve_left h₃
    simp [escape, h₁, h₂, h₃, hspace]

theorem escape_singleton_ne_nil (c : Char) : escape [c] ≠ [] := by
  simp only [escape, List.flatMap_cons, List.flatMap_nil, List.append_nil]
  split
  · exact List.cons_ne_nil _ _
  · split
    · exact List.cons_ne_nil _ _
    · split <;> exact List.cons_ne_nil _ _

/-- Only the edges of a cell decide whether it is solid when it is written. -/
theorem solid_escape {cell : Text} (hhead : ∀ c ∈ cell.head?, Edge c)
    (hlast : ∀ c ∈ cell.getLast?, Edge c) : Solid (escape cell) := by
  constructor
  · cases cell with
    | nil => rfl
    | cons c cell =>
      have hc := (head?_escape_singleton (hhead c rfl)).1
      rw [escape_cons, List.head?_append, List.head?_eq_some_head (escape_singleton_ne_nil c)]
      rwa [List.head?_eq_some_head (escape_singleton_ne_nil c)] at hc
  · cases hl : cell.getLast? with
    | none =>
      rw [List.getLast?_eq_none_iff.1 hl]
      rfl
    | some c =>
      have hc := (head?_escape_singleton (hlast c hl)).2
      obtain ⟨front, rfl⟩ := List.getLast?_eq_some_iff.1 hl
      rw [escape_append, List.getLast?_append,
        List.getLast?_eq_some_getLast (escape_singleton_ne_nil c)]
      rwa [List.getLast?_eq_some_getLast (escape_singleton_ne_nil c)] at hc

theorem edge_head?_unescape {t : Text} (h : ∀ c ∈ t.head?, isSpace c = false) :
    ∀ c ∈ (unescape t).head?, Edge c := by
  fun_cases unescape t with
  | case1 rest =>
    rintro _ ⟨⟩
    exact .inr rfl
  | case2 rest =>
    rintro _ ⟨⟩
    exact .inl rfl
  | case3 rest =>
    rintro _ ⟨⟩
    exact .inr rfl
  | case4 c rest =>
    rintro _ ⟨⟩
    exact .inr (h c rfl)
  | case5 => simp

theorem getLast?_cons_of_forall {x : Char} {s : Text} (hx : Edge x)
    (hs : ∀ c ∈ s.getLast?, Edge c) :
    ∀ c ∈ (x :: s).getLast?, Edge c := by
  cases s with
  | nil =>
    rintro _ ⟨⟩
    exact hx
  | cons d s =>
    rw [List.getLast?_cons_cons]
    exact hs

theorem unescape_ne_nil {t : Text} (h : t ≠ []) : unescape t ≠ [] := by
  fun_cases unescape t with
  | case5 => exact absurd rfl h
  | _ => exact List.cons_ne_nil _ _

theorem forall_getLast?_of_cons {p : Char → Prop} {x : Char} {s : Text}
    (h : ∀ c ∈ (x :: s).getLast?, p c) : ∀ c ∈ s.getLast?, p c := by
  cases s with
  | nil => simp
  | cons d s => rwa [List.getLast?_cons_cons] at h

/-- A backslash shields the character after it, so an escape is never cut at the edge. -/
theorem edge_getLast?_unescape {t : Text} (h : ∀ c ∈ t.getLast?, isSpace c = false) :
    ∀ c ∈ (unescape t).getLast?, Edge c := by
  fun_induction unescape t with
  | case1 rest ih =>
    have hrest := forall_getLast?_of_cons (forall_getLast?_of_cons h)
    exact getLast?_cons_of_forall (.inr rfl) (ih hrest)
  | case2 rest ih =>
    have hrest := forall_getLast?_of_cons (forall_getLast?_of_cons h)
    exact getLast?_cons_of_forall (.inl rfl) (ih hrest)
  | case3 rest ih =>
    have hrest := forall_getLast?_of_cons (forall_getLast?_of_cons h)
    exact getLast?_cons_of_forall (.inr rfl) (ih hrest)
  | case4 c rest _ _ _ ih =>
    cases rest with
    | nil => exact getLast?_cons_of_forall (.inr (h c rfl)) (by simp [unescape])
    | cons d rest =>
      obtain ⟨e, u, hu⟩ := List.exists_cons_of_ne_nil (unescape_ne_nil (List.cons_ne_nil d rest))
      have hlast := ih (forall_getLast?_of_cons h)
      rw [hu] at hlast ⊢
      rwa [List.getLast?_cons_cons]
  | case5 => simp

/-- Cells that were read are solid when they are written. -/
theorem solid_of_ofRow? {body : Text} {cells : List Text} (h : ofRow? body = some cells) :
    ∀ cell ∈ cells, Solid (escape cell) := by
  unfold ofRow? at h
  dsimp only at h
  split at h
  · obtain rfl := Option.some.inj h
    intro cell hcell
    obtain ⟨raw, hraw, rfl⟩ := List.mem_map.1 hcell
    have htrim := Text.solid_trim raw
    refine solid_escape (edge_head?_unescape ?_) (edge_getLast?_unescape ?_)
    · intro c hc
      have hhead := htrim.head
      rw [hc] at hhead
      simpa using hhead
    · intro c hc
      have hlast := htrim.last
      rw [hc] at hlast
      simpa using hlast
  · cases h

theorem mem_of_mem_consHead {c d : Char} {ps : List Text} {piece : Text}
    (hpiece : piece ∈ consHead c ps) (hd : d ∈ piece) : d = c ∨ ∃ p ∈ ps, d ∈ p := by
  cases ps with
  | nil =>
    rw [consHead, List.mem_singleton] at hpiece
    exact .inl (List.mem_singleton.1 (hpiece ▸ hd))
  | cons p ps =>
    rcases List.mem_cons.1 hpiece with rfl | hpiece
    · exact (List.mem_cons.1 hd).imp id fun hd ↦ ⟨p, List.mem_cons_self, hd⟩
    · exact .inr ⟨piece, List.mem_cons_of_mem _ hpiece, hd⟩

theorem mem_of_mem_pieces {t piece : Text} (h : piece ∈ pieces t) : piece ⊆ t := by
  intro d hd
  fun_induction pieces t generalizing piece with
  | case1 => exact absurd hd (by rw [List.mem_singleton.1 h]; exact List.not_mem_nil)
  | case2 rest ih =>
    rcases List.mem_cons.1 h with rfl | h
    · exact absurd hd List.not_mem_nil
    · exact List.mem_cons_of_mem _ (ih h hd)
  | case3 c rest ih =>
    rcases mem_of_mem_consHead h hd with rfl | ⟨p, hp, hd⟩
    · exact List.mem_cons_self
    rcases mem_of_mem_consHead hp hd with rfl | ⟨p, hp, hd⟩
    · exact List.mem_cons_of_mem _ List.mem_cons_self
    · exact List.mem_cons_of_mem _ (List.mem_cons_of_mem _ (ih hp hd))
  | case4 c rest _ _ ih =>
    rcases mem_of_mem_consHead h hd with rfl | ⟨p, hp, hd⟩
    · exact List.mem_cons_self
    · exact List.mem_cons_of_mem _ (ih hp hd)

/-- Expanding escapes brings in line feeds only. -/
theorem mem_of_mem_unescape {t : Text} {d : Char} (h : d ∈ unescape t) : d ∈ t ∨ d = '\n' := by
  fun_induction unescape t with
  | case5 => exact .inl h
  | _ => grind

/-- The cells of a row hold nothing that the row does not hold, but for line feeds. -/
theorem mem_of_mem_ofRow? {body : Text} {cells : List Text} (h : ofRow? body = some cells)
    {cell : Text} (hcell : cell ∈ cells) {d : Char} (hd : d ∈ cell) : d ∈ body ∨ d = '\n' := by
  unfold ofRow? at h
  dsimp only at h
  split at h
  · obtain rfl := Option.some.inj h
    obtain ⟨raw, hraw, rfl⟩ := List.mem_map.1 hcell
    have hpiece := mem_of_mem_pieces (List.dropLast_subset _ hraw)
    exact (mem_of_mem_unescape hd).imp (fun hd ↦ hpiece (Text.trim_subset raw hd)) id
  · cases h

/-- A written cell with the blanks around it. -/
def padded (width : Nat) (cell : Text) : Text :=
  ' ' :: (escape cell ++ blanks (width - (escape cell).length + 1))

theorem trim_padded {cell : Text} (h : Solid (escape cell)) (width : Nat) :
    trim (padded width cell) = escape cell :=
  Text.trim_append_append (a := [' ']) rfl h (Text.isBlank_blanks _)

theorem pieces_blank_cons (rest : Text) : pieces (' ' :: rest) = consHead ' ' (pieces rest) := by
  rw [pieces] <;> simp

theorem pieces_blanks_bar (n : Nat) (rest : Text) :
    pieces (blanks n ++ '|' :: rest) = blanks n :: pieces rest := by
  induction n with
  | zero => rw [blanks, List.replicate_zero, List.nil_append, pieces]
  | succ n ih =>
    rw [blanks, List.replicate_succ, List.cons_append, pieces_blank_cons]
    rw [blanks] at ih
    rw [ih]
    rfl

/-- The bar after a written cell is the first that is not shielded. -/
theorem pieces_paddedCell (width : Nat) (cell rest : Text) :
    pieces (paddedCell width (escape cell) ++ rest) = padded width cell :: pieces rest := by
  have hblanks : blanks (width - (escape cell).length) ++ [' '] =
      blanks (width - (escape cell).length + 1) := by
    rw [blanks, blanks, List.replicate_succ']
  calc
    _ = pieces (' ' :: (escape cell ++
        (blanks (width - (escape cell).length + 1) ++ '|' :: rest))) := by
      rw [paddedCell, ← hblanks]
      simp
    _ = padded width cell :: pieces rest := by
      rw [pieces_blank_cons, pieces_escape, pieces_blanks_bar]
      rfl

theorem pieces_rowLine (widths : List Nat) (cells : List Text) :
    pieces ((widths.zip (cells.map escape)).flatMap fun (w, cell) ↦ paddedCell w cell) =
      ((widths.zip cells).map fun (w, cell) ↦ padded w cell) ++ [[]] := by
  induction cells generalizing widths with
  | nil =>
    rw [List.map_nil, List.zip_nil_right]
    rfl
  | cons cell cells ih =>
    cases widths with
    | nil => rfl
    | cons w widths =>
      rw [List.map_cons, List.zip_cons_cons, List.flatMap_cons, pieces_paddedCell, ih]
      rfl

/-- A row is read as the cells that it was written from, however wide its columns are. -/
theorem ofRow?_rowLine {widths : List Nat} {cells : List Text} (hlen : widths.length = cells.length)
    (h : ∀ cell ∈ cells, Solid (escape cell)) :
    ofRow? ((widths.zip (cells.map escape)).flatMap fun (w, cell) ↦ paddedCell w cell) =
      some cells := by
  have hcells : ((widths.zip cells).map fun (w, cell) ↦ padded w cell).map
      (fun raw ↦ unescape (trim raw)) = cells := by
    have hread : ∀ p ∈ widths.zip cells, unescape (trim (padded p.1 p.2)) = p.2 := by
      intro p hp
      rw [trim_padded (h p.2 (List.of_mem_zip hp).2), unescape_escape]
    calc
      _ = (widths.zip cells).map Prod.snd := by
        rw [List.map_map]
        exact List.map_congr_left hread
      _ = cells := List.map_snd_zip (Nat.le_of_eq hlen.symm)
  unfold ofRow?
  simp only [pieces_rowLine, List.getLast?_concat, if_true, List.dropLast_concat, hcells]

/-- A row ends with the bar of its last cell, or with the bar that it begins with. -/
theorem getLast?_bar_flatMap (row : List (Nat × Text)) :
    ('|' :: row.flatMap fun (w, cell) ↦ paddedCell w cell).getLast? = some '|' := by
  induction row with
  | nil => rfl
  | cons p row ih =>
    have hpadded : '|' :: (p :: row).flatMap (fun (w, cell) ↦ paddedCell w cell) =
        ('|' :: ' ' :: (p.2 ++ blanks (p.1 - p.2.length) ++ [' '])) ++
          '|' :: row.flatMap fun (w, cell) ↦ paddedCell w cell := by
      simp [paddedCell]
    rw [hpadded, List.getLast?_append, ih]
    rfl

theorem solid_rowLine (widths : List Nat) (cells : List Text) : Solid (rowLine widths cells) := by
  constructor
  · rfl
  · rw [rowLine, getLast?_bar_flatMap]
    rfl

theorem oneLine_escape_singleton (c : Char) : Text.OneLine (escape [c]) := by
  by_cases h₁ : c = '\\'
  · subst h₁; decide
  by_cases h₂ : c = '|'
  · subst h₂; decide
  by_cases h₃ : c = '\n'
  · subst h₃; decide
  · have hescape : escape [c] = [c] := by simp [escape, h₁, h₂, h₃]
    rw [hescape]
    intro d hd
    rwa [List.mem_singleton.1 hd]

/-- The line feeds of a cell are written as letters. -/
theorem oneLine_escape (cell : Text) : Text.OneLine (escape cell) := by
  induction cell with
  | nil => exact fun _ hc ↦ absurd hc List.not_mem_nil
  | cons c cell ih =>
    rw [escape_cons]
    exact (oneLine_escape_singleton c).append ih

theorem oneLine_rowLine (widths : List Nat) (cells : List Text) :
    Text.OneLine (rowLine widths (cells.map escape)) := by
  intro c hc
  rcases List.mem_cons.1 hc with rfl | hc
  · decide
  obtain ⟨⟨w, raw⟩, hp, hc⟩ := List.mem_flatMap.1 hc
  obtain ⟨cell, hcell, rfl⟩ := List.mem_map.1 (List.of_mem_zip hp).2
  have hpadding : Text.OneLine (blanks (w - (escape cell).length)) := Text.oneLine_blanks _
  have hends : Text.OneLine [' '] ∧ Text.OneLine [' ', '|'] := by decide
  have hpadded : Text.OneLine (paddedCell w (escape cell)) :=
    ((hends.1.append (oneLine_escape cell)).append hpadding).append hends.2
  exact hpadded c hc

end Gherkin.Cell
