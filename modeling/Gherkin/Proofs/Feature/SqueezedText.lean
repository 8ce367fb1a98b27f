import Gherkin.Proofs.Feature.Substitution
import Gherkin.Proofs.Text.Squeeze

/-!
# Filling in squeezed texts

A row may be filled into a text before or after white space in the text is squeezed. Both lead to
the same words if the row knows each placeholder by its name with and without squeezed white space
alike, and to the same text if moreover no value is empty and white space in values is collapsed.

Main statements: `squeeze_substitute_squeeze` and `substitute_squeeze`.
-/

namespace Gherkin

open Text (Solid isSpace squeeze collapse)

section Squeezed

variable {row : Record} {t : Text}

theorem placeholder?_squeeze {name after : Text} (h : placeholder? t = some (name, after)) :
    placeholder? (squeeze t) = some (squeeze name, squeeze after) := by
  obtain ⟨rfl, hclosing, hne, hhead⟩ := placeholder?_eq_some_iff.1 h
  refine placeholder?_eq_some_iff.2 ⟨Text.squeeze_append_cons rfl name after, ?_, ?_, ?_⟩
  · rwa [Text.mem_squeeze_iff rfl]
  · rwa [ne_eq, Text.squeeze_eq_nil_iff]
  · rwa [Text.all_not_head?_squeeze]

/-- Squeezing makes no placeholder. -/
theorem placeholder?_squeeze_eq_none (h : placeholder? t = none) :
    placeholder? (squeeze t) = none := by
  rw [Option.eq_none_iff_forall_ne_some]
  rintro ⟨name', after'⟩ hsome
  obtain ⟨heq, hclosing', hne', hhead'⟩ := placeholder?_eq_some_iff.1 hsome
  have hmem : '>' ∈ t := by
    rw [← Text.mem_squeeze_iff rfl, heq]
    simp
  obtain ⟨name, after, rfl, hclosing⟩ := List.eq_append_cons_of_mem hmem
  rw [Text.squeeze_append_cons rfl] at heq
  -- both names are what stands before the first closing bracket
  have hname : squeeze name = name' := by
    have hsqueezed : '>' ∉ squeeze name := by rwa [Text.mem_squeeze_iff rfl]
    rw [← takeWhile_closing hsqueezed (squeeze after), heq, takeWhile_closing hclosing']
  rw [placeholder?_eq_some_iff.2 ⟨rfl, hclosing, ?_, ?_⟩] at h
  · cases h
  · rintro rfl
    exact hne' hname.symm
  · rwa [← Text.all_not_head?_squeeze, hname]

end Squeezed

/-- The row knows each placeholder of the text by its squeezed name, and by its name, alike. -/
def Record.NamesAlike (row : Record) (t : Text) : Prop :=
  ∀ name ∈ placeholders t, row.get? (squeeze name) = row.get? name

/-- The values for the placeholders of the text are not empty, and white space in them is
collapsed. -/
def Record.ValuesCollapsed (row : Record) (t : Text) : Prop :=
  ∀ name ∈ placeholders t, ∀ value ∈ row.get? name, value ≠ [] ∧ collapse value = value

instance (row : Record) (t : Text) : Decidable (row.NamesAlike t) :=
  List.decidableBAll (fun name ↦ row.get? (squeeze name) = row.get? name) (placeholders t)

instance (row : Record) (t : Text) : Decidable (row.ValuesCollapsed t) :=
  List.decidableBAll (fun name ↦ ∀ value ∈ row.get? name, value ≠ [] ∧ collapse value = value)
    (placeholders t)

section Filled

variable {row : Record} {t : Text}

theorem squeeze_placeholderOf_append (name t : Text) :
    squeeze (placeholderOf name ++ t) = placeholderOf (squeeze name) ++ squeeze t := by
  rw [placeholderOf_append, Text.squeeze_cons_of_not rfl, Text.squeeze_append_cons rfl,
    placeholderOf_append]

/-- White space in front stays there. -/
theorem any_head?_substitute (h : t.head?.any isSpace) :
    (substitute row t).head?.any isSpace := by
  cases t with
  | nil => cases h
  | cons c t =>
    have hc : c ≠ '<' := by
      rintro rfl
      cases h
    rwa [substitute_cons_of_ne hc]

/-- Filling in and squeezing lead to the same words in either order. -/
theorem squeeze_substitute_squeeze (h : row.NamesAlike t) :
    squeeze (substitute row (squeeze t)) = squeeze (substitute row t) := by
  fun_induction Piece.ofText t with
  | case1 => rfl
  | case2 rest name after hname ih =>
    rw [Record.NamesAlike, placeholders_cons_of_some hname] at h
    obtain ⟨hsame, hafter⟩ := List.forall_mem_cons.1 h
    rw [Text.squeeze_cons_of_not rfl, substitute_cons_of_some (placeholder?_squeeze hname),
      substitute_cons_of_some hname, hsame]
    cases row.get? name with
    | none =>
      rw [Option.getD_none, Option.getD_none, squeeze_placeholderOf_append,
        squeeze_placeholderOf_append, Text.squeeze_squeeze, ih hafter]
    | some value => exact Text.squeeze_append_congr (ih hafter) value
  | case3 rest hnone ih =>
    rw [Record.NamesAlike, placeholders_cons_of_none hnone] at h
    rw [Text.squeeze_cons_of_not rfl, substitute_cons_of_none (placeholder?_squeeze_eq_none hnone),
      substitute_cons_of_none hnone, Text.squeeze_cons_of_not rfl, Text.squeeze_cons_of_not rfl,
      ih h]
  | case4 c rest hc ih =>
    rw [Record.NamesAlike, placeholders_cons_of_ne hc] at h
    rw [substitute_cons_of_ne hc]
    by_cases hspace : isSpace c
    · by_cases hhead : rest.head?.any isSpace
      · rw [Text.squeeze_cons_of_any hspace hhead, ih h,
          Text.squeeze_cons_of_any hspace (any_head?_substitute hhead)]
      · rw [Text.squeeze_cons_of_not_any hspace hhead, substitute_cons_of_ne (by decide),
          Text.squeeze_cons_of_isSpace (c := ' ') (d := c) rfl hspace]
        exact Text.squeeze_append_congr (ih h) [c]
    · have hspace' : isSpace c = false := by simpa using hspace
      rw [Text.squeeze_cons_of_not hspace', substitute_cons_of_ne hc,
        Text.squeeze_cons_of_not hspace', Text.squeeze_cons_of_not hspace', ih h]

theorem solid_placeholderOf (name : Text) : Solid (placeholderOf name) :=
  .append (s := ['<']) rfl (List.cons_ne_nil _ _) (t := name ++ ['>']) (by simp; rfl) (by simp)

/-- What takes the place of a placeholder has no white space at its ends. -/
theorem solid_fill {name : Text}
    (h : ∀ value ∈ row.get? name, value ≠ [] ∧ collapse value = value) :
    Solid ((row.get? name).getD (placeholderOf name)) ∧
      (row.get? name).getD (placeholderOf name) ≠ [] := by
  cases hget : row.get? name with
  | none => exact ⟨solid_placeholderOf name, List.cons_ne_nil _ _⟩
  | some value =>
    obtain ⟨hne, hcollapse⟩ := h value hget
    have hsolid := Text.solid_collapse value
    rw [hcollapse] at hsolid
    exact ⟨hsolid, hne⟩

/-- What is filled in begins with white space only where the text does. -/
theorem all_head?_substitute (h : row.ValuesCollapsed t)
    (ht : t.head?.all fun c ↦ !isSpace c) :
    (substitute row t).head?.all fun c ↦ !isSpace c := by
  fun_cases Piece.ofText t with
  | case1 => rwa [substitute_nil]
  | case2 rest name after hname =>
    rw [substitute_cons_of_some hname]
    rw [Record.ValuesCollapsed, placeholders_cons_of_some hname] at h
    obtain ⟨hsolid, hne⟩ := solid_fill (List.forall_mem_cons.1 h).1
    have hhead := hsolid.head
    rw [List.head?_append, List.head?_eq_some_head hne, Option.some_or]
    rwa [List.head?_eq_some_head hne] at hhead
  | case3 rest hnone => rwa [substitute_cons_of_none hnone]
  | case4 c rest hc => rwa [substitute_cons_of_ne hc]

theorem substitute_ne_nil (h : row.ValuesCollapsed t) (ht : t ≠ []) : substitute row t ≠ [] := by
  fun_cases Piece.ofText t with
  | case1 => exact absurd rfl ht
  | case2 rest name after hname =>
    rw [Record.ValuesCollapsed, placeholders_cons_of_some hname] at h
    rw [substitute_cons_of_some hname]
    exact List.append_ne_nil_of_left_ne_nil (solid_fill (List.forall_mem_cons.1 h).1).2 _
  | case3 rest hnone =>
    rw [substitute_cons_of_none hnone]
    exact List.cons_ne_nil _ _
  | case4 c rest hc =>
    rw [substitute_cons_of_ne hc]
    exact List.cons_ne_nil _ _

theorem all_not_iff {c? : Option Char} : (c?.all fun c ↦ !isSpace c) ↔ ¬c?.any isSpace := by
  cases c? <;> simp

/-- The end of a text is the end of what follows in it, if anything does. -/
theorem all_getLast?_of_append_cons {s : Text} {c : Char} {p : Char → Bool}
    (h : (s ++ c :: t).getLast?.all p) : t.getLast?.all p := by
  cases t with
  | nil => rfl
  | cons d t => rwa [List.getLast?_append_cons, List.getLast?_cons_cons] at h

theorem all_getLast?_append {s : Text} {p : Char → Bool} (hs : s.getLast?.all p)
    (ht : t.getLast?.all p) : (s ++ t).getLast?.all p := by
  rw [List.getLast?_append]
  cases hlast : t.getLast? with
  | none => exact hs
  | some c => rwa [hlast] at ht

/-- What is filled in ends in white space only where the text does. -/
theorem all_getLast?_substitute (h : row.ValuesCollapsed t)
    (ht : t.getLast?.all fun c ↦ !isSpace c) :
    (substitute row t).getLast?.all fun c ↦ !isSpace c := by
  fun_induction Piece.ofText t with
  | case1 => rwa [substitute_nil]
  | case2 rest name after hname ih =>
    obtain ⟨rfl, -⟩ := placeholder?_eq_some_iff.1 hname
    rw [Record.ValuesCollapsed, placeholders_cons_of_some hname] at h
    obtain ⟨hvalue, hlater⟩ := List.forall_mem_cons.1 h
    rw [substitute_cons_of_some hname]
    exact all_getLast?_append (solid_fill hvalue).1.last
      (ih hlater (all_getLast?_of_append_cons (s := '<' :: name) ht))
  | case3 rest hnone ih =>
    rw [Record.ValuesCollapsed, placeholders_cons_of_none hnone] at h
    rw [substitute_cons_of_none hnone]
    exact all_getLast?_append (s := ['<']) rfl (ih h (all_getLast?_of_append_cons (s := []) ht))
  | case4 c rest hc ih =>
    rw [Record.ValuesCollapsed, placeholders_cons_of_ne hc] at h
    rw [substitute_cons_of_ne hc]
    by_cases hrest : rest = []
    · subst hrest
      rwa [substitute_nil]
    · rw [List.getLast?_cons_of_ne_nil (substitute_ne_nil h hrest)]
      rw [List.getLast?_cons_of_ne_nil hrest] at ht
      exact ih h ht

/-- Filling in collapsed values and squeezing can be done in either order. -/
theorem substitute_squeeze (h : row.NamesAlike t) (hvalues : row.ValuesCollapsed t) :
    substitute row (squeeze t) = squeeze (substitute row t) := by
  fun_induction Piece.ofText t with
  | case1 => rw [substitute_nil]; exact substitute_nil
  | case2 rest name after hname ih =>
    rw [Record.NamesAlike, placeholders_cons_of_some hname] at h
    rw [Record.ValuesCollapsed, placeholders_cons_of_some hname] at hvalues
    obtain ⟨hsame, hafter⟩ := List.forall_mem_cons.1 h
    obtain ⟨hvalue, hlater⟩ := List.forall_mem_cons.1 hvalues
    obtain ⟨hsolid, hne⟩ := solid_fill hvalue
    rw [Text.squeeze_cons_of_not rfl, substitute_cons_of_some (placeholder?_squeeze hname),
      substitute_cons_of_some hname, hsame, ih hafter hlater]
    cases hget : row.get? name with
    | none => rw [Option.getD_none, Option.getD_none, squeeze_placeholderOf_append]
    | some value =>
      rw [hget] at hsolid hne
      have hvalue' := Text.squeeze_of_collapse (hvalue value hget).2
      exact (Text.squeeze_append_of_solid hvalue' hsolid hne _).symm
  | case3 rest hnone ih =>
    rw [Record.NamesAlike, placeholders_cons_of_none hnone] at h
    rw [Record.ValuesCollapsed, placeholders_cons_of_none hnone] at hvalues
    rw [Text.squeeze_cons_of_not rfl, substitute_cons_of_none (placeholder?_squeeze_eq_none hnone),
      substitute_cons_of_none hnone, Text.squeeze_cons_of_not rfl, ih h hvalues]
  | case4 c rest hc ih =>
    rw [Record.NamesAlike, placeholders_cons_of_ne hc] at h
    rw [Record.ValuesCollapsed, placeholders_cons_of_ne hc] at hvalues
    rw [substitute_cons_of_ne hc]
    by_cases hspace : isSpace c
    · by_cases hhead : rest.head?.any isSpace
      · rw [Text.squeeze_cons_of_any hspace hhead, ih h hvalues,
          Text.squeeze_cons_of_any hspace (any_head?_substitute hhead)]
      · have hhead' : ¬(substitute row rest).head?.any isSpace :=
          all_not_iff.1 (all_head?_substitute hvalues (all_not_iff.2 hhead))
        rw [Text.squeeze_cons_of_not_any hspace hhead, substitute_cons_of_ne (by decide),
          ih h hvalues, Text.squeeze_cons_of_not_any hspace hhead']
    · have hspace' : isSpace c = false := by simpa using hspace
      rw [Text.squeeze_cons_of_not hspace', substitute_cons_of_ne hc,
        Text.squeeze_cons_of_not hspace', ih h hvalues]

end Filled

end Gherkin
