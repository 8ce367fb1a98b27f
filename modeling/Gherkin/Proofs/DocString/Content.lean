import Gherkin.Proofs.DocString.Escapes
import Gherkin.Token.Lexer

/-!
# The content of multiline strings

A content line that was read is empty or not blank, and writing it at an indentation lets reading
find it again. The empty lines that are written next to the delimiters are those that reading drops.

Main statements: the content that was assembled is made of such lines (`kept_assemble`, and without
carriage returns `proper_assemble`), and the lines that are written for it are assembled to it again
(`assemble_contentLines`). Neither reading nor writing changes how many lines are not blank
(`inked_assemble`, `inked_contentLines`). On one line, escaping takes expanding back
(`escape_inverts_unescape`).
-/

namespace Gherkin.DocString

open Text (OneLine isBlank)

/-- A content line as reading leaves it. -/
structure ProperLine (d : Delimiter) (line : Text) : Prop where
  oneLine : OneLine line
  no_return : '\r' ∉ line
  nil_of_isBlank : isBlank line → line = []
  stable : d.Stable line

/-- The content is made of such lines. -/
def Proper (d : Delimiter) (content : Text) : Prop :=
  ∃ lines, content = Text.join ['\n'] lines ∧ ∀ line ∈ lines, ProperLine d line

/-- A content line as reading leaves it where it may hold carriage returns. -/
structure KeptLine (d : Delimiter) (line : Text) : Prop where
  oneLine : OneLine line
  nil_of_isBlank : isBlank line → line = []
  stable : d.Stable line

/-- The content is made of lines that may hold carriage returns. -/
def Kept (d : Delimiter) (content : Text) : Prop :=
  ∃ lines, content = Text.join ['\n'] lines ∧ ∀ line ∈ lines, KeptLine d line

theorem ProperLine.kept {d : Delimiter} {line : Text} (h : ProperLine d line) : KeptLine d line :=
  ⟨h.oneLine, h.nil_of_isBlank, h.stable⟩

theorem Proper.kept {d : Delimiter} {content : Text} (h : Proper d content) : Kept d content := by
  obtain ⟨lines, hcontent, hlines⟩ := h
  exact ⟨lines, hcontent, fun line hline ↦ (hlines line hline).kept⟩

theorem dedent_subset (indent : Nat) (line : Text) : dedent indent line ⊆ line := by
  unfold dedent
  split
  · exact List.nil_subset _
  · split
    · exact (List.dropWhile_suffix _).subset
    · exact (List.drop_suffix _ _).subset

/-- Taking indentation away leaves nothing blank but what was blank before. -/
theorem isBlank_dedent_iff {indent : Nat} {line : Text} :
    isBlank (dedent indent line) ↔ isBlank line := by
  constructor
  · intro h
    unfold dedent at h
    split at h
    · next hblank => exact hblank
    · next hblank =>
      split at h
      · rw [← Text.leading_append_trimStart line, Text.isBlank_append]
        exact ⟨Text.isBlank_leading line, h⟩
      · next hshallow =>
        have hindent : indent ≤ (Text.leading line).length := by
          simpa [isShallow, hblank] using hshallow
        have htake : line.take indent = (Text.leading line).take indent := by
          calc
            line.take indent = (Text.leading line ++ Text.trimStart line).take indent := by
              rw [Text.leading_append_trimStart]
            _ = (Text.leading line).take indent := List.take_append_of_le_length hindent
        rw [← List.take_append_drop indent line, Text.isBlank_append, htake]
        exact ⟨Text.isBlank_of_subset (List.take_subset _ _) (Text.isBlank_leading line), h⟩
  · intro h
    rw [dedent, if_pos h]
    rfl

/-- A blank line becomes empty. -/
theorem dedent_eq_nil_of_isBlank {indent : Nat} {line : Text} (h : isBlank (dedent indent line)) :
    dedent indent line = [] := by
  rw [dedent, if_pos (isBlank_dedent_iff.1 h)]

/-- A content line as it is read is empty or not blank. -/
theorem unescape_dedent_eq_nil_of_isBlank {d : Delimiter} {indent : Nat} {line : Text}
    (h : isBlank (d.unescape (dedent indent line))) : d.unescape (dedent indent line) = [] := by
  have hdedent : isBlank (dedent indent line) :=
    Classical.byContradiction fun hnot ↦ Delimiter.not_isBlank_unescape hnot h
  rw [dedent_eq_nil_of_isBlank hdedent, Delimiter.unescape, Text.replace_nil]

theorem keptLine_unescape_dedent {d : Delimiter} {indent : Nat} {line : Text} (h : OneLine line) :
    KeptLine d (d.unescape (dedent indent line)) :=
  ⟨Delimiter.oneLine_unescape (h.mono (dedent_subset indent line)),
    unescape_dedent_eq_nil_of_isBlank, d.stable_unescape _⟩

theorem properLine_unescape_dedent {d : Delimiter} {indent : Nat} {line : Text}
    (h : OneLine line) (hreturn : '\r' ∉ line) :
    ProperLine d (d.unescape (dedent indent line)) := by
  have hkept : KeptLine d (d.unescape (dedent indent line)) := keptLine_unescape_dedent h
  have hnot : '\r' ∉ d.unescape (dedent indent line) :=
    Delimiter.return_not_mem_unescape fun hmem ↦ hreturn (dedent_subset indent line hmem)
  exact ⟨hkept.oneLine, hnot, hkept.nil_of_isBlank, hkept.stable⟩

theorem stripEdges_subset (lines : List Text) : stripEdges lines ⊆ lines := by
  have htail : lines.tail ⊆ lines := fun _ h ↦ List.mem_of_mem_tail h
  by_cases hhead : lines.head? = some []
  · simp only [stripEdges, if_pos hhead]
    split
    · exact List.Subset.trans (List.dropLast_subset _) htail
    · exact htail
  · simp only [stripEdges, if_neg hhead]
    split
    · exact List.dropLast_subset _
    · exact List.Subset.refl _

/-- What is assembled from lines is made of lines that reading leaves. -/
theorem kept_assemble {d : Delimiter} {indent : Nat} {lines : List Text}
    (h : ∀ line ∈ lines, OneLine line) : Kept d (assemble d indent lines) := by
  refine ⟨_, rfl, fun line hline ↦ ?_⟩
  obtain ⟨raw, hraw, rfl⟩ := List.mem_map.1 (stripEdges_subset _ hline)
  exact keptLine_unescape_dedent (h raw hraw)

/-- Without carriage returns what is assembled from lines is proper. -/
theorem proper_assemble {d : Delimiter} {indent : Nat} {lines : List Text}
    (h : ∀ line ∈ lines, OneLine line ∧ '\r' ∉ line) : Proper d (assemble d indent lines) := by
  refine ⟨_, rfl, fun line hline ↦ ?_⟩
  obtain ⟨raw, hraw, rfl⟩ := List.mem_map.1 (stripEdges_subset _ hline)
  exact properLine_unescape_dedent (h raw hraw).1 (h raw hraw).2

/-! ## Written lines -/

/-- The empty line that is written next to an edge, if there is one. -/
theorem any_isBlank_iff {d : Delimiter} {lines : List Text} (h : ∀ line ∈ lines, KeptLine d line)
    (edge : Option Text) (hedge : ∀ line ∈ edge, line ∈ lines) :
    edge.any isBlank ↔ edge = some [] := by
  cases edge with
  | none => simp
  | some line =>
    have hline := (h line (hedge line rfl)).nil_of_isBlank
    constructor
    · intro hblank
      rw [hline hblank]
    · intro hnil
      cases hnil
      rfl

/-- Reading drops the empty lines that are written next to the delimiters, and no others. -/
theorem stripEdges_append {lines : List Text} (hne : lines ≠ []) :
    stripEdges ((if lines.head? = some [] then [[]] else []) ++ lines ++
      (if lines.getLast? = some [] then [[]] else [])) = lines := by
  have hhead (after : List Text) : (lines ++ after).head? = lines.head? := by
    rw [List.head?_append, List.head?_eq_some_head hne, Option.some_or]
  have htail (after : List Text) :
      (if ((if lines.head? = some [] then [[]] else []) ++ lines ++ after).head? = some [] then
        ((if lines.head? = some [] then [[]] else []) ++ lines ++ after).tail
      else (if lines.head? = some [] then [[]] else []) ++ lines ++ after) = lines ++ after := by
    by_cases h : lines.head? = some []
    · simp [h]
    · rw [if_neg h, List.nil_append, hhead, if_neg h]
  simp only [stripEdges, htail]
  by_cases h : lines.getLast? = some []
  · simp [h]
  · rw [if_neg h, List.append_nil, if_neg h]

/-- A written content line is indented at least as far as the delimiters. -/
theorem not_isShallow_contentLine (d : Delimiter) (indent : Nat) (line : Text) :
    isShallow indent (contentLine d indent line) = false := by
  rw [contentLine]
  split
  · rfl
  · have hlength : indent ≤ (Text.leading (indented indent (d.escape line))).length := by
      rw [Text.leading, indented, Text.blanks,
        List.takeWhile_append_of_pos (by simp [Text.isSpace])]
      simp
    simp [isShallow, Nat.not_lt.2 hlength]

/-- Taking away the indentation of a written content line gives back the line. -/
theorem unescape_dedent_contentLine_of_stable {d : Delimiter} {line : Text}
    (hstable : d.Stable line) (hnil : isBlank line → line = []) (indent : Nat) :
    d.unescape (dedent indent (contentLine d indent line)) = line := by
  have hshallow := not_isShallow_contentLine d indent line
  rw [contentLine] at hshallow ⊢
  by_cases hblank : isBlank line
  · rw [if_pos hblank, hnil hblank]
    exact Text.replace_nil _ _
  · rw [if_neg hblank] at hshallow ⊢
    have hindented : ¬isBlank (indented indent (d.escape line)) := by
      rw [indented, Text.isBlank_append]
      exact fun hboth ↦ Delimiter.not_isBlank_escape hblank hboth.2
    have hdrop : (indented indent (d.escape line)).drop indent = d.escape line := by
      rw [indented, Text.blanks, List.drop_left' List.length_replicate]
    rw [dedent, if_neg hindented, hshallow, if_neg Bool.false_ne_true, hdrop,
      Delimiter.unescape_escape hstable]

theorem unescape_dedent_contentLine {d : Delimiter} {line : Text} (h : KeptLine d line)
    (indent : Nat) : d.unescape (dedent indent (contentLine d indent line)) = line :=
  unescape_dedent_contentLine_of_stable h.stable h.nil_of_isBlank indent

/-- No written content line closes the string. -/
theorem trim_contentLine_ne (d : Delimiter) (indent : Nat) (line : Text) :
    Text.trim (contentLine d indent line) ≠ d.mark := by
  rw [contentLine]
  split
  · exact d.mark_ne_nil.symm
  · rw [indented, Text.trim, Text.trimStart_append (Text.isBlank_blanks indent)]
    exact d.trim_escape_ne line

/-- Escaping takes back what expanding did, on the lines that expanding gives and on no others:
those in which two more delimiter characters follow each escaped delimiter. What a raw line is
expanded to is escaped without becoming the bare delimiter. So a raw line of a string that is read
at one indentation can be written at another: the written line does not close the string, it is
indented far enough, and it is read as the raw line was. -/
theorem escape_inverts_unescape (d : Delimiter) :
    (∀ line, d.unescape (d.escape line) = line ↔ ∃ raw, d.unescape raw = line) ∧
    (∀ line, (∃ raw, d.unescape raw = line) ↔ d.Stable line) ∧
    (∀ raw, d.unescape (d.escape (d.unescape raw)) = d.unescape raw ∧
      Text.trim (d.escape (d.unescape raw)) ≠ d.mark) ∧
    ∀ (raw : Text) (outer indent number offset : Nat),
      ∃ read written, d.unescape (dedent outer raw) = read ∧
        contentLine d indent read = written ∧
        d.closes ⟨number, offset, written⟩ = false ∧
        isShallow indent written = false ∧
        d.unescape (dedent indent written) = read := by
  refine ⟨fun line ↦ ?_, fun line ↦ Delimiter.exists_unescape_eq_iff, fun raw ↦ ⟨?_, ?_⟩,
    fun raw outer indent number offset ↦ ⟨_, _, rfl, rfl, ?_, ?_, ?_⟩⟩
  · exact Delimiter.unescape_escape_eq_iff.trans Delimiter.exists_unescape_eq_iff.symm
  · exact Delimiter.unescape_escape (d.stable_unescape raw)
  · exact d.trim_escape_ne (d.unescape raw)
  · exact decide_eq_false (trim_contentLine_ne d indent _)
  · exact not_isShallow_contentLine d indent _
  · exact unescape_dedent_contentLine_of_stable (d.stable_unescape _)
      unescape_dedent_eq_nil_of_isBlank indent

/-- Without two more quotation marks behind it, an escaped delimiter does not come back. -/
example : Delimiter.unescape .quotes (Delimiter.escape .quotes (Delimiter.escaped .quotes)) =
    Delimiter.mark .quotes := by decide +kernel

theorem oneLine_contentLine {d : Delimiter} {line : Text} (h : OneLine line) (indent : Nat) :
    OneLine (contentLine d indent line) := by
  rw [contentLine]
  split
  · exact fun _ hc ↦ absurd hc List.not_mem_nil
  · exact (Text.oneLine_blanks indent).append (Delimiter.oneLine_escape h)

/-- The lines that are written for a content that is not empty. -/
theorem contentLines_join {d : Delimiter} {lines : List Text}
    (h : ∀ line ∈ lines, KeptLine d line) (hcontent : Text.join ['\n'] lines ≠ [])
    (indent : Nat) :
    contentLines d indent (Text.join ['\n'] lines) =
      (if lines.head? = some [] then [[]] else []) ++ lines.map (contentLine d indent) ++
        (if lines.getLast? = some [] then [[]] else []) := by
  have hne : lines ≠ [] := by
    rintro rfl
    exact hcontent rfl
  have hsplit : Text.splitLines (Text.join ['\n'] lines) = lines :=
    List.splitOn_intercalate _ (fun line hline ↦ (h line hline).oneLine.not_mem) hne
  have hhead := any_isBlank_iff h lines.head? fun _ hmem ↦ List.mem_of_mem_head? hmem
  have hlast := any_isBlank_iff h lines.getLast? fun _ hmem ↦ List.mem_of_getLast? hmem
  have hempty : (Text.join ['\n'] lines).isEmpty = false := by simpa using hcontent
  simp only [contentLines, hempty, hsplit, hhead, hlast]
  rfl

/-- An empty line stays empty. -/
theorem unescape_dedent_nil (d : Delimiter) (indent : Nat) : d.unescape (dedent indent []) = [] :=
  Text.replace_nil _ _

/-- What is written for a content is assembled to it again. -/
theorem assemble_contentLines {d : Delimiter} {content : Text} (h : Kept d content)
    (indent : Nat) : assemble d indent (contentLines d indent content) = content := by
  obtain ⟨lines, rfl, hlines⟩ := h
  by_cases hcontent : Text.join ['\n'] lines = []
  · rw [hcontent]
    rfl
  · have hne : lines ≠ [] := by
      rintro rfl
      exact hcontent rfl
    have hmap : (lines.map (contentLine d indent)).map (fun l ↦ d.unescape (dedent indent l)) =
        lines := by
      rw [List.map_map]
      refine (List.map_congr_left fun line hline ↦ ?_).trans (List.map_id' lines)
      exact unescape_dedent_contentLine (hlines line hline) indent
    have hedge (c : Prop) [Decidable c] :
        (if c then [[]] else []).map (fun l ↦ d.unescape (dedent indent l)) =
          if c then [[]] else [] := by
      split
      · exact congrArg (fun l ↦ [l]) (unescape_dedent_nil d indent)
      · rfl
    calc
      _ = Text.join ['\n'] (stripEdges ((if lines.head? = some [] then [[]] else []) ++ lines ++
          (if lines.getLast? = some [] then [[]] else []))) := by
        rw [assemble, contentLines_join hlines hcontent, List.map_append, List.map_append, hmap,
          hedge, hedge]
      _ = Text.join ['\n'] lines := by rw [stripEdges_append hne]

/-- A written line is empty, or it is written for a line of the content. -/
theorem exists_of_mem_contentLines {d : Delimiter} {indent : Nat} {content line : Text}
    (h : line ∈ contentLines d indent content) :
    line = [] ∨ ∃ u ∈ Text.splitLines content, line = contentLine d indent u := by
  have hedge {c : Prop} [Decidable c] (hmem : line ∈ if c then [([] : Text)] else []) :
      line = [] := by
    split at hmem
    · exact List.mem_singleton.1 hmem
    · cases hmem
  simp only [contentLines] at h
  split at h
  · cases h
  · rw [List.mem_append, List.mem_append] at h
    rcases h with (hmem | hmem) | hmem
    · exact .inl (hedge hmem)
    · obtain ⟨u, hu, rfl⟩ := List.mem_map.1 hmem
      exact .inr ⟨u, hu, rfl⟩
    · exact .inl (hedge hmem)

/-- The written lines stay within the string, whatever the content. -/
theorem of_mem_contentLines {d : Delimiter} {indent : Nat} {content line : Text}
    (h : line ∈ contentLines d indent content) : OneLine line ∧ Text.trim line ≠ d.mark := by
  rcases exists_of_mem_contentLines h with rfl | ⟨u, hu, rfl⟩
  · exact ⟨fun _ hc ↦ absurd hc List.not_mem_nil, d.mark_ne_nil.symm⟩
  · have hone : OneLine u := fun c hc heq ↦ (Text.not_mem_of_mem_splitLines hu).1 (heq ▸ hc)
    exact ⟨oneLine_contentLine hone indent, trim_contentLine_ne d indent u⟩

theorem return_not_mem_contentLine {d : Delimiter} {line : Text} (h : '\r' ∉ line) (indent : Nat) :
    '\r' ∉ contentLine d indent line := by
  rw [contentLine]
  split
  · exact List.not_mem_nil
  · rw [indented, List.mem_append, not_or]
    refine ⟨fun hmem ↦ ?_, Delimiter.return_not_mem_escape h⟩
    cases List.eq_of_mem_replicate hmem

theorem return_not_mem_join {lines : List Text} (h : ∀ line ∈ lines, '\r' ∉ line) :
    '\r' ∉ Text.join ['\n'] lines := by
  induction lines with
  | nil => exact List.not_mem_nil
  | cons line lines ih =>
    obtain ⟨hline, hlines⟩ := List.forall_mem_cons.1 h
    cases lines with
    | nil => rwa [Text.join, List.intercalate_singleton]
    | cons next lines =>
      rw [Text.join, List.intercalate_cons_cons]
      simpa using ⟨hline, ih hlines⟩

theorem return_not_mem_of_mem_contentLines {d : Delimiter} {indent : Nat} {content line : Text}
    (h : '\r' ∉ content) (hline : line ∈ contentLines d indent content) : '\r' ∉ line := by
  rcases exists_of_mem_contentLines hline with rfl | ⟨u, hu, rfl⟩
  · exact List.not_mem_nil
  · have hsub := (Text.not_mem_of_mem_splitLines hu).2
    exact return_not_mem_contentLine (fun hmem ↦ h (hsub hmem)) indent

theorem Proper.return_not_mem {d : Delimiter} {content : Text} (h : Proper d content) :
    '\r' ∉ content := by
  obtain ⟨lines, rfl, hlines⟩ := h
  exact return_not_mem_join fun line hline ↦ (hlines line hline).no_return

/-- The written lines of a content are not shallow in the string. -/
theorem not_isShallow_of_mem_contentLines {d : Delimiter} {indent : Nat} {content line : Text}
    (hline : line ∈ contentLines d indent content) : isShallow indent line = false := by
  rcases exists_of_mem_contentLines hline with rfl | ⟨u, -, rfl⟩
  · rfl
  · exact not_isShallow_contentLine d indent u

def inked (lines : List Text) : Nat := lines.countP fun line ↦ !isBlank line

theorem inked_append (lines lines' : List Text) :
    inked (lines ++ lines') = inked lines + inked lines' := List.countP_append

/-- Lines count alike if they are blank alike. -/
theorem inked_map {f : Text → Text} {lines : List Text}
    (h : ∀ line ∈ lines, isBlank (f line) ↔ isBlank line) : inked (lines.map f) = inked lines := by
  rw [inked, inked, List.countP_map]
  refine List.countP_congr fun line hline ↦ ?_
  simpa using not_congr (h line hline)

/-- Only empty lines are dropped next to the delimiters. -/
theorem inked_stripEdges (lines : List Text) : inked (stripEdges lines) = inked lines := by
  have htail : inked (if lines.head? = some [] then lines.tail else lines) = inked lines := by
    split
    · next hhead =>
      obtain ⟨tail, rfl⟩ := List.head?_eq_some_iff.1 hhead
      exact (List.countP_cons_of_neg (by decide)).symm
    · rfl
  rw [← htail, stripEdges]
  generalize (if lines.head? = some [] then lines.tail else lines) = tail
  split
  · next hlast =>
    obtain ⟨front, rfl⟩ := List.getLast?_eq_some_iff.1 hlast
    rw [List.dropLast_concat, inked_append]
    rfl
  · rfl

/-- The content of a string has as many lines that are not blank as it is assembled from. -/
theorem inked_assemble {d : Delimiter} {indent : Nat} {lines : List Text}
    (h : ∀ line ∈ lines, OneLine line) :
    inked (Text.splitLines (assemble d indent lines)) = inked lines := by
  have hblank : ∀ line ∈ lines,
      isBlank (d.unescape (dedent indent line)) ↔ isBlank line := by
    intro line _
    constructor
    · intro hread
      exact Classical.byContradiction fun hnot ↦
        Delimiter.not_isBlank_unescape (fun hdedent ↦ hnot (isBlank_dedent_iff.1 hdedent)) hread
    · intro hline
      rw [dedent, if_pos hline, Delimiter.unescape, Text.replace_nil]
      rfl
  have hone : ∀ line ∈ stripEdges (lines.map fun l ↦ d.unescape (dedent indent l)),
      '\n' ∉ line := by
    intro line hline
    obtain ⟨raw, hraw, rfl⟩ := List.mem_map.1 (stripEdges_subset _ hline)
    exact (Delimiter.oneLine_unescape ((h raw hraw).mono (dedent_subset indent raw))).not_mem
  have hsplit (read : List Text) (hread : ∀ line ∈ read, '\n' ∉ line) :
      inked (Text.splitLines (Text.join ['\n'] read)) = inked read := by
    by_cases hnil : read = []
    · rw [hnil]
      rfl
    · rw [Text.splitLines, Text.join, List.splitOn_intercalate _ hread hnil]
  calc
    _ = inked (stripEdges (lines.map fun l ↦ d.unescape (dedent indent l))) := hsplit _ hone
    _ = inked (lines.map fun l ↦ d.unescape (dedent indent l)) := inked_stripEdges _
    _ = inked lines := inked_map hblank

/-- As many lines that are not blank are written as the content has. -/
theorem inked_contentLines (d : Delimiter) (indent : Nat) (content : Text) :
    inked (contentLines d indent content) = inked (Text.splitLines content) := by
  have hblank : ∀ line ∈ Text.splitLines content,
      isBlank (contentLine d indent line) ↔ isBlank line := by
    intro line _
    rw [contentLine]
    split
    · next hline => exact iff_of_true rfl hline
    · next hline =>
      rw [indented, Text.isBlank_append]
      exact iff_of_false (fun hboth ↦ Delimiter.not_isBlank_escape hline hboth.2) hline
  have hedge (edge : Option Text) : inked (if edge.any isBlank then [[]] else []) = 0 := by
    split <;> rfl
  rw [contentLines]
  split
  · next hempty =>
    rw [List.isEmpty_iff.1 hempty]
    rfl
  · dsimp only
    rw [inked_append, inked_append, hedge, hedge, inked_map hblank, Nat.zero_add, Nat.add_zero]

end Gherkin.DocString
