import Gherkin.Proofs.Text.Words

/-!
# Squeezed white space

A text is squeezed by writing one blank for each run of white space in it. Unlike the words of a
text, its squeezed form keeps white space at the ends, and so what it says of a part it says of any
text with that part.

Main statements: parts may be squeezed before they are joined (`squeeze_append`), a solid text is
collapsed by squeezing it (`Solid.collapse_eq`), and one whose white space is blanks is collapsed as
it stands exactly if no two of them are in a row (`Solid.collapse_eq_self_iff`).
-/

namespace Gherkin.Text

/-- The text with one blank for each run of white space. -/
def squeeze : Text → Text
  | [] => []
  | c :: t =>
    if isSpace c then if t.head?.any isSpace then squeeze t else ' ' :: squeeze t
    else c :: squeeze t

theorem squeeze_cons_of_not {c : Char} (hc : isSpace c = false) (t : Text) :
    squeeze (c :: t) = c :: squeeze t := by
  rw [squeeze, if_neg (by simp [hc])]

/-- White space before white space leaves no trace. -/
theorem squeeze_cons_of_any {c : Char} {t : Text} (hc : isSpace c) (ht : t.head?.any isSpace) :
    squeeze (c :: t) = squeeze t := by
  rw [squeeze, if_pos hc, if_pos ht]

theorem squeeze_cons_of_not_any {c : Char} {t : Text} (hc : isSpace c)
    (ht : ¬t.head?.any isSpace) : squeeze (c :: t) = ' ' :: squeeze t := by
  rw [squeeze, if_pos hc, if_neg ht]

/-- A squeezed text begins with white space where the text does. -/
theorem head?_squeeze (t : Text) : (squeeze t).head?.map isSpace = t.head?.map isSpace := by
  fun_induction squeeze t with
  | case1 => rfl
  | case2 c t hc ht ih =>
    cases t with
    | nil => cases ht
    | cons d t =>
      have hd : isSpace d = true := ht
      rw [ih, List.head?_cons, Option.map_some, hd, List.head?_cons, Option.map_some, hc]
  | case3 c t hc _ _ =>
    rw [List.head?_cons, List.head?_cons, Option.map_some, Option.map_some, hc]
    rfl
  | case4 c t _ _ => rfl

theorem any_head?_squeeze (t : Text) : (squeeze t).head?.any isSpace = t.head?.any isSpace := by
  have h := congrArg (Option.any id) (head?_squeeze t)
  rwa [Option.any_map, Option.any_map] at h

theorem all_head?_squeeze (t : Text) : (squeeze t).head?.all isSpace = t.head?.all isSpace := by
  have h := congrArg (Option.all id) (head?_squeeze t)
  rwa [Option.all_map, Option.all_map] at h

theorem all_not_head?_squeeze (t : Text) :
    ((squeeze t).head?.all fun c ↦ !isSpace c) = t.head?.all fun c ↦ !isSpace c := by
  have h := congrArg (Option.all (!·)) (head?_squeeze t)
  rwa [Option.all_map, Option.all_map] at h

theorem squeeze_eq_nil_iff {t : Text} : squeeze t = [] ↔ t = [] := by
  have h := head?_squeeze t
  constructor
  · intro hnil
    rw [hnil] at h
    cases t with
    | nil => rfl
    | cons c t => cases h
  · rintro rfl
    rfl

@[simp] theorem squeeze_squeeze (t : Text) : squeeze (squeeze t) = squeeze t := by
  fun_induction squeeze t with
  | case1 => rfl
  | case2 c t _ _ ih => exact ih
  | case3 c t hc ht ih =>
    rw [squeeze_cons_of_not_any rfl (by rwa [any_head?_squeeze]), ih]
  | case4 c t hc ih => rw [squeeze_cons_of_not (by simpa using hc), ih]

/-- A part may be squeezed before what stands in front of it is. -/
theorem squeeze_append (s t : Text) : squeeze (s ++ squeeze t) = squeeze (s ++ t) := by
  induction s with
  | nil => exact squeeze_squeeze t
  | cons c s ih =>
    have hhead : (s ++ squeeze t).head?.any isSpace = (s ++ t).head?.any isSpace := by
      cases s with
      | nil => exact any_head?_squeeze t
      | cons d s => rfl
    simp only [List.cons_append, squeeze, ih, hhead]

theorem squeeze_append_congr {t t' : Text} (h : squeeze t = squeeze t') (s : Text) :
    squeeze (s ++ t) = squeeze (s ++ t') := by
  rw [← squeeze_append, h, squeeze_append]

/-- A run of white space ends at any other character. -/
theorem squeeze_append_cons {c : Char} (hc : isSpace c = false) (s t : Text) :
    squeeze (s ++ c :: t) = squeeze s ++ c :: squeeze t := by
  induction s with
  | nil => exact squeeze_cons_of_not hc t
  | cons d s ih =>
    have hhead : (s ++ c :: t).head?.any isSpace = s.head?.any isSpace := by
      cases s with
      | nil => exact hc
      | cons e s => rfl
    simp only [List.cons_append, squeeze, ih, hhead]
    split
    · split <;> rfl
    · rfl

/-- A squeezed part that ends in something else than white space stays as it is. -/
theorem squeeze_append_of_solid {s : Text} (hs : squeeze s = s) (hsolid : Solid s) (hne : s ≠ [])
    (t : Text) : squeeze (s ++ t) = s ++ squeeze t := by
  obtain ⟨front, c, rfl⟩ : ∃ front c, s = front ++ [c] :=
    ⟨_, _, (List.dropLast_concat_getLast hne).symm⟩
  have hc : isSpace c = false := by simpa using hsolid.last
  have hfront : squeeze front = front := by
    rw [squeeze_append_cons hc] at hs
    exact List.append_inj_left' hs rfl
  rw [List.append_assoc, List.singleton_append, squeeze_append_cons hc, hfront, List.append_assoc,
    List.singleton_append]

/-- It does not matter which white space it is. -/
theorem squeeze_cons_of_isSpace {c d : Char} (hc : isSpace c) (hd : isSpace d) (t : Text) :
    squeeze (c :: t) = squeeze (d :: t) := by
  rw [squeeze, if_pos hc, squeeze, if_pos hd]

theorem ne_of_isSpace {c d : Char} (hc : isSpace c = false) (hd : isSpace d) : c ≠ d := by
  rintro rfl
  rw [hd] at hc
  cases hc

theorem mem_squeeze_iff {c : Char} (hc : isSpace c = false) {t : Text} :
    c ∈ squeeze t ↔ c ∈ t := by
  induction t with
  | nil => rfl
  | cons d t ih =>
    rw [squeeze, List.mem_cons]
    by_cases hd : isSpace d
    · rw [if_pos hd, or_iff_right (ne_of_isSpace hc hd), ← ih]
      split
      · rfl
      · rw [List.mem_cons, or_iff_right (ne_of_isSpace hc rfl)]
    · rw [if_neg hd, List.mem_cons, ih]

theorem words_cons_of_isSpace {c : Char} (hc : isSpace c) (t : Text) :
    words (c :: t) = words t := by
  rw [words, List.splitOnP_cons_eq_if_modifyHead, if_pos hc]
  rfl

/-- A character before white space is the end of a word, and before any other it goes on. -/
theorem words_cons_of_not {c : Char} (hc : isSpace c = false) (t : Text) :
    words (c :: t) =
      if t.head?.all isSpace then [c] :: words t else (words t).modifyHead (c :: ·) := by
  rw [words, List.splitOnP_cons_eq_if_modifyHead, if_neg (by simp [hc])]
  cases t with
  | nil => rfl
  | cons d t =>
    rw [words, List.head?_cons, Option.all_some, List.splitOnP_cons_eq_if_modifyHead]
    by_cases hd : isSpace d
    · rw [if_pos hd, if_pos hd]
      rfl
    · obtain ⟨first, rest, hsplit⟩ := List.exists_cons_of_ne_nil (List.splitOnP_ne_nil isSpace t)
      rw [if_neg hd, if_neg hd, hsplit]
      rfl

/-- Squeezing changes no word. -/
theorem words_squeeze (t : Text) : words (squeeze t) = words t := by
  fun_induction squeeze t with
  | case1 => rfl
  | case2 c t hc _ ih => rw [ih, words_cons_of_isSpace hc]
  | case3 c t hc _ ih => rw [words_cons_of_isSpace rfl, ih, words_cons_of_isSpace hc]
  | case4 c t hc ih =>
    have hc' : isSpace c = false := by simpa using hc
    rw [words_cons_of_not hc', words_cons_of_not hc', ih, all_head?_squeeze]

theorem collapse_eq_of_squeeze_eq {t t' : Text} (h : squeeze t = squeeze t') :
    collapse t = collapse t' := by
  rw [collapse, ← words_squeeze, h, words_squeeze, collapse]

theorem collapse_cons_of_isSpace {c : Char} (hc : isSpace c) (t : Text) :
    collapse (c :: t) = collapse t := by
  rw [collapse, words_cons_of_isSpace hc, collapse]

/-- What stands before a word is set apart from it where white space is between. -/
theorem collapse_cons_of_not {c : Char} (hc : isSpace c = false) {t : Text} (ht : words t ≠ []) :
    collapse (c :: t) =
      if t.head?.any isSpace then c :: ' ' :: collapse t else c :: collapse t := by
  have hall : t.head?.all isSpace = t.head?.any isSpace := by
    cases t with
    | nil => exact absurd rfl ht
    | cons d t => rfl
  obtain ⟨word, rest, hwords⟩ := List.exists_cons_of_ne_nil ht
  rw [collapse, words_cons_of_not hc, hall, collapse, hwords]
  split
  · exact join_cons_cons [c] word rest
  · rw [List.modifyHead_cons]
    cases rest with
    | nil => rw [join_singleton, join_singleton]
    | cons next rest => rw [join_cons_cons, join_cons_cons, List.cons_append]

/-- A text that does not end in white space holds a word. -/
theorem words_append_ne_nil {c : Char} (hc : isSpace c = false) (t : Text) :
    words (t ++ [c]) ≠ [] := by
  induction t with
  | nil =>
    rw [List.nil_append, words_cons_of_not hc]
    exact List.cons_ne_nil _ _
  | cons d t ih =>
    rw [List.cons_append]
    by_cases hd : isSpace d
    · rwa [words_cons_of_isSpace hd]
    · obtain ⟨word, rest, hwords⟩ := List.exists_cons_of_ne_nil ih
      rw [words_cons_of_not (by simpa using hd), hwords]
      split
      · exact List.cons_ne_nil _ _
      · exact List.cons_ne_nil _ _

/-- A text that does not end in white space is collapsed by squeezing it, but for a blank in
front. -/
theorem squeeze_append_singleton {c : Char} (hc : isSpace c = false) (t : Text) :
    squeeze (t ++ [c]) =
      if t.head?.any isSpace then ' ' :: collapse (t ++ [c]) else collapse (t ++ [c]) := by
  induction t with
  | nil =>
    have hwords : words [c] = [[c]] := words_cons_of_not hc []
    rw [List.nil_append, squeeze_cons_of_not hc, collapse, hwords]
    rfl
  | cons d t ih =>
    have hhead : (t ++ [c]).head?.any isSpace = t.head?.any isSpace := by
      cases t with
      | nil => exact hc
      | cons e t => rfl
    rw [List.head?_cons, Option.any_some, List.cons_append, squeeze, hhead, ih]
    by_cases hd : isSpace d
    · rw [if_pos hd, if_pos hd, collapse_cons_of_isSpace hd]
      split <;> rfl
    · have hd' : isSpace d = false := by simpa using hd
      rw [if_neg hd, if_neg hd, collapse_cons_of_not hd' (words_append_ne_nil hc t), hhead]
      split <;> rfl

/-- The words of a text are joined to a text that ends in no white space. -/
theorem solid_collapse (t : Text) : Solid (collapse t) := by
  refine solid_join fun word hword ↦ ⟨?_, not_isSpace_of_mem_words hword⟩
  simpa using (List.mem_filter.1 hword).2

/-- A solid text is collapsed by squeezing it. -/
theorem Solid.collapse_eq {t : Text} (h : Solid t) : collapse t = squeeze t := by
  by_cases hne : t = []
  · rw [hne]
    rfl
  · obtain ⟨front, c, rfl⟩ : ∃ front c, t = front ++ [c] :=
      ⟨_, _, (List.dropLast_concat_getLast hne).symm⟩
    have hc : isSpace c = false := by simpa using h.last
    rw [squeeze_append_singleton hc, if_neg]
    cases front with
    | nil => simp
    | cons d front => simpa using h.head

theorem squeeze_of_collapse {t : Text} (h : collapse t = t) : squeeze t = t := by
  have hsolid := solid_collapse t
  rw [h] at hsolid
  rw [← hsolid.collapse_eq, h]

/-- A squeezed text has no two blanks in a row. -/
theorem not_infix_squeeze (t : Text) : ¬[' ', ' '] <:+: squeeze t := by
  fun_induction squeeze t with
  | case1 => exact fun h ↦ absurd (List.infix_nil.1 h) (List.cons_ne_nil _ _)
  | case2 c t _ _ ih => exact ih
  | case3 c t _ ht ih =>
    rw [List.infix_cons_iff, not_or, List.cons_prefix_cons]
    refine ⟨fun ⟨_, hprefix⟩ ↦ ht ?_, ih⟩
    obtain ⟨rest, hrest⟩ := hprefix
    rw [← any_head?_squeeze, ← hrest]
    rfl
  | case4 c t hc ih =>
    rw [List.infix_cons_iff, not_or, List.cons_prefix_cons]
    exact ⟨fun ⟨hblank, _⟩ ↦ hc (hblank ▸ rfl), ih⟩

/-- A text without other white space than single blanks is squeezed. -/
theorem squeeze_eq_self {t : Text} (ht : ∀ c ∈ t, isSpace c → c = ' ')
    (h : ¬[' ', ' '] <:+: t) : squeeze t = t := by
  induction t with
  | nil => rfl
  | cons c t ih =>
    obtain ⟨hc, hrest⟩ := List.forall_mem_cons.1 ht
    rw [List.infix_cons_iff, not_or] at h
    by_cases hspace : isSpace c
    · obtain rfl := hc hspace
      rw [squeeze_cons_of_not_any rfl, ih hrest h.2]
      intro hany
      cases t with
      | nil => cases hany
      | cons d t =>
        obtain rfl := hrest d List.mem_cons_self hany
        exact h.1 ⟨t, rfl⟩
    · rw [squeeze_cons_of_not (by simpa using hspace), ih hrest h.2]

/-- A solid text whose white space is blanks is collapsed exactly if no two of them are in a row. -/
theorem Solid.collapse_eq_self_iff {t : Text} (h : Solid t) (ht : ∀ c ∈ t, isSpace c → c = ' ') :
    collapse t = t ↔ ¬[' ', ' '] <:+: t := by
  rw [h.collapse_eq]
  exact ⟨fun heq ↦ heq ▸ not_infix_squeeze t, squeeze_eq_self ht⟩

end Gherkin.Text
