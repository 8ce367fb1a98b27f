import Gherkin.Proofs.Text.Lines

/-!
# Words and the blanks between them

The words of a text hold no white space and are not empty. Words of this sort that are joined with
blanks are the words of what they are joined to.

Main statement: `words_join`.
-/

namespace Gherkin.Text

def IsWord (t : Text) : Prop := t ≠ [] ∧ ∀ c ∈ t, isSpace c = false

theorem IsWord.solid {t : Text} (h : IsWord t) : Solid t where
  head := by
    rw [Option.all_eq_true]
    intro c hc
    rw [h.2 c (List.mem_of_mem_head? hc), Bool.not_false]
  last := by
    rw [Option.all_eq_true]
    intro c hc
    rw [h.2 c (List.mem_of_getLast? hc), Bool.not_false]

theorem IsWord.oneLine {t : Text} (h : IsWord t) : OneLine t := oneLine_of_not_isSpace h.2

theorem words_cons {c : Char} (hc : isSpace c = false) (t : Text) :
    ∃ word rest, words (c :: t) = (c :: word) :: rest := by
  obtain ⟨first, rest, hsplit⟩ := List.exists_cons_of_ne_nil (List.splitOnP_ne_nil isSpace t)
  refine ⟨first, rest.filter fun w ↦ !w.isEmpty, ?_⟩
  rw [words, List.splitOnP_cons_eq_if_modifyHead, hsplit, if_neg (by simp [hc])]
  rfl

theorem not_isSpace_of_mem_words {t word : Text} (h : word ∈ words t) :
    ∀ c ∈ word, isSpace c = false :=
  (of_mem_splitOnP (List.mem_filter.1 h).1).1

theorem words_append {word : Text} (hword : IsWord word) (t : Text) :
    words (word ++ ' ' :: t) = word :: words t := by
  rw [words, List.splitOnP_append_cons_of_forall_mem hword.2 ' ' rfl,
    List.filter_cons_of_pos (by simpa using hword.1)]
  rfl

theorem join_cons_cons (word next : Text) (ws : List Text) :
    join [' '] (word :: next :: ws) = word ++ ' ' :: join [' '] (next :: ws) := by
  rw [join, List.intercalate_cons_cons, List.append_assoc]
  rfl

theorem join_singleton (word : Text) : join [' '] [word] = word := List.intercalate_singleton

/-- Words with a blank between neighbours are the words of the text. -/
theorem words_join {ws : List Text} (h : ∀ word ∈ ws, IsWord word) :
    words (join [' '] ws) = ws := by
  induction ws with
  | nil => rfl
  | cons word ws ih =>
    obtain ⟨hword, hws⟩ := List.forall_mem_cons.1 h
    cases ws with
    | nil =>
      rw [join_singleton, words, List.splitOnP_eq_singleton hword.2,
        List.filter_cons_of_pos (by simpa using hword.1), List.filter_nil]
    | cons next ws =>
      calc
        _ = words (word ++ ' ' :: join [' '] (next :: ws)) := by rw [join_cons_cons]
        _ = word :: words (join [' '] (next :: ws)) := words_append hword _
        _ = word :: next :: ws := by rw [ih hws]

theorem oneLine_join {ws : List Text} (h : ∀ word ∈ ws, IsWord word) :
    OneLine (join [' '] ws) := by
  induction ws with
  | nil => exact fun _ hc ↦ absurd hc List.not_mem_nil
  | cons word ws ih =>
    obtain ⟨hword, hws⟩ := List.forall_mem_cons.1 h
    cases ws with
    | nil =>
      rw [join_singleton]
      exact hword.oneLine
    | cons next ws =>
      have hblank : OneLine [' '] := by decide
      rw [join_cons_cons]
      exact hword.oneLine.append (hblank.append (ih hws))

/-- Words with a blank between neighbours begin with the first one and end with the last one. -/
theorem solid_join {ws : List Text} (h : ∀ word ∈ ws, IsWord word) : Solid (join [' '] ws) := by
  induction ws with
  | nil => exact Solid.nil
  | cons word ws ih =>
    obtain ⟨hword, hws⟩ := List.forall_mem_cons.1 h
    cases ws with
    | nil =>
      rw [join_singleton]
      exact hword.solid
    | cons next ws =>
      have hne : join [' '] (next :: ws) ≠ [] := by
        intro hnil
        have hwords := words_join hws
        rw [hnil] at hwords
        cases hwords
      have hlast : (' ' :: join [' '] (next :: ws)).getLast? = (join [' '] (next :: ws)).getLast? :=
        List.getLast?_cons_of_ne_nil hne
      rw [join_cons_cons]
      refine .append hword.solid.head hword.1 ?_ (List.cons_ne_nil _ _)
      rw [hlast]
      exact (ih hws).last

end Gherkin.Text
