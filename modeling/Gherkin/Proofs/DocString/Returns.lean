import Gherkin.Proofs.DocString.Content

/-!
# Carriage returns at the end of content lines

A line loses one carriage return at its end when it is read, so a content line that ends with one
had two of them. Writing gives it the one that it has, and reading takes that too.

Main statements: the lines that are written for a content are read as those that are written for
the content without these carriage returns (`map_chomp_contentLines`), which is another content
unless there are none (`chomped_eq_self_iff`).
-/

namespace Gherkin.DocString

open Text (OneLine isBlank)
open SourceLine (chomp)

/-- A content without the carriage return at the end of each of its lines. -/
def chomped (content : Text) : Text := Text.join ['\n'] ((Text.splitLines content).map chomp)

theorem chomp_concat_return (line : Text) : chomp (line ++ ['\r']) = line := by
  rw [chomp, if_pos List.getLast?_concat, List.dropLast_concat]

/-- A line either ends with a carriage return or stays as it is. -/
theorem chomp_cases (line : Text) : chomp line = line ∨ ∃ front, line = front ++ ['\r'] := by
  by_cases h : line.getLast? = some '\r'
  · exact .inr (List.getLast?_eq_some_iff.1 h)
  · exact .inl (if_neg h)

theorem chomp_eq_self_iff {line : Text} : chomp line = line ↔ line.getLast? ≠ some '\r' := by
  constructor
  · intro h hlast
    obtain ⟨front, rfl⟩ := List.getLast?_eq_some_iff.1 hlast
    rw [chomp_concat_return] at h
    exact absurd (congrArg List.length h) (by simp)
  · exact fun h ↦ if_neg h

theorem isBlank_concat_return {line : Text} : isBlank (line ++ ['\r']) ↔ isBlank line := by
  rw [Text.isBlank_append]
  exact and_iff_left rfl

variable {d : Delimiter}

theorem return_ne_char (d : Delimiter) : '\r' ≠ d.char := by cases d <;> decide

theorem return_not_mem_mark (d : Delimiter) : '\r' ∉ d.mark := by cases d <;> decide

theorem return_not_mem_escaped (d : Delimiter) : '\r' ∉ d.escaped := by cases d <;> decide

/-- A carriage return at the end plays no part in an escaped delimiter. -/
theorem stable_of_concat_return {line : Text} (h : d.Stable (line ++ ['\r'])) : d.Stable line := by
  rintro rest ⟨front, rfl⟩
  obtain ⟨more, hmore⟩ := h (rest ++ ['\r']) ⟨front, by simp only [List.append_assoc]⟩
  match rest with
  | [] => exact absurd (List.cons.inj hmore).1 (return_ne_char d)
  | [c] => exact absurd (List.cons.inj (List.cons.inj hmore).2).1 (return_ne_char d)
  | c :: c' :: rest =>
    obtain ⟨rfl, htail⟩ := List.cons.inj hmore
    obtain ⟨rfl, -⟩ := List.cons.inj htail
    exact ⟨rest, rfl⟩

theorem KeptLine.chomp {line : Text} (h : KeptLine d line) : KeptLine d (chomp line) := by
  rcases chomp_cases line with heq | ⟨front, rfl⟩
  · rwa [heq]
  · rw [chomp_concat_return]
    refine ⟨h.oneLine.mono (List.subset_append_left _ _), fun hblank ↦ ?_,
      stable_of_concat_return h.stable⟩
    exact absurd (h.nil_of_isBlank (isBlank_concat_return.2 hblank)) (by simp)

/-- No line that was read is nothing but a carriage return. -/
theorem KeptLine.chomp_eq_nil_iff {line : Text} (h : KeptLine d line) :
    SourceLine.chomp line = [] ↔ line = [] := by
  constructor
  · intro hnil
    refine h.nil_of_isBlank ?_
    rw [Text.isBlank_iff_trim_eq_nil, ← SourceLine.trim_chomp, hnil]
    rfl
  · rintro rfl
    rfl

/-- Escaping leaves the end of a line alone, for else reading would find another line. -/
theorem getLast?_escape_ne {line : Text} (h : KeptLine d line) (hlast : line.getLast? ≠ some '\r') :
    (d.escape line).getLast? ≠ some '\r' := by
  intro hescape
  obtain ⟨front, hfront⟩ := List.getLast?_eq_some_iff.1 hescape
  have hline : d.unescape front ++ ['\r'] = line := by
    calc
      _ = d.unescape (front ++ ['\r']) :=
        (Text.replace_concat d.escaped_ne_nil (return_not_mem_escaped d) d.mark front).symm
      _ = line := by rw [← hfront, Delimiter.unescape_escape h.stable]
  rw [← hline, List.getLast?_concat] at hlast
  exact hlast rfl

/-- A written content line is read without the carriage return at its end. -/
theorem chomp_contentLine {line : Text} (h : KeptLine d line) (indent : Nat) :
    chomp (contentLine d indent line) = contentLine d indent (chomp line) := by
  by_cases hblank : isBlank line
  · rw [h.nil_of_isBlank hblank]
    rfl
  rcases chomp_cases line with heq | ⟨front, rfl⟩
  · have hlast := getLast?_escape_ne h (chomp_eq_self_iff.1 heq)
    have hne : d.escape line ≠ [] := fun hnil ↦
      Delimiter.not_isBlank_escape (d := d) hblank (by rw [hnil]; rfl)
    rw [heq, contentLine, if_neg hblank, chomp_eq_self_iff, indented, List.getLast?_append,
      List.getLast?_eq_some_getLast hne, Option.some_or, ← List.getLast?_eq_some_getLast hne]
    exact hlast
  · have hfront : ¬isBlank front := fun hfront ↦ hblank (isBlank_concat_return.2 hfront)
    have hescape : d.escape (front ++ ['\r']) = d.escape front ++ ['\r'] :=
      Text.replace_concat d.mark_ne_nil (return_not_mem_mark d) d.escaped front
    rw [chomp_concat_return, contentLine, if_neg hblank, contentLine, if_neg hfront, indented,
      hescape, ← List.append_assoc, chomp_concat_return, indented]

/-- A content is split into the lines that it is made of. -/
theorem splitLines_join {lines : List Text} (hne : lines ≠ [])
    (h : ∀ line ∈ lines, OneLine line) : Text.splitLines (Text.join ['\n'] lines) = lines :=
  List.splitOn_intercalate _ (fun line hline ↦ (h line hline).not_mem) hne

/-- A content that was read is made of its lines. -/
theorem Kept.splitLines {content : Text} (h : Kept d content) :
    ∀ line ∈ Text.splitLines content, KeptLine d line := by
  obtain ⟨lines, rfl, hlines⟩ := h
  by_cases hne : lines = []
  · rw [hne]
    intro line hline
    rw [List.mem_singleton.1 hline]
    exact ⟨fun _ hc ↦ absurd hc List.not_mem_nil, fun _ ↦ rfl, d.stable_nil⟩
  · rwa [splitLines_join hne fun line hline ↦ (hlines line hline).oneLine]

theorem splitLines_ne_nil (content : Text) : Text.splitLines content ≠ [] :=
  List.splitOnP_ne_nil _ content

theorem Kept.splitLines_chomped {content : Text} (h : Kept d content) :
    Text.splitLines (chomped content) = (Text.splitLines content).map chomp := by
  refine splitLines_join ?_ fun line hline ↦ ?_
  · rw [Ne, List.map_eq_nil_iff]
    exact splitLines_ne_nil content
  · obtain ⟨raw, hraw, rfl⟩ := List.mem_map.1 hline
    exact (h.splitLines raw hraw).chomp.oneLine

theorem Kept.chomped {content : Text} (h : Kept d content) : Kept d (chomped content) := by
  refine ⟨_, rfl, fun line hline ↦ ?_⟩
  obtain ⟨raw, hraw, rfl⟩ := List.mem_map.1 hline
  exact (h.splitLines raw hraw).chomp

/-- Only carriage returns at the end of lines make a difference. -/
theorem Kept.chomped_eq_self_iff {content : Text} (h : Kept d content) :
    DocString.chomped content = content ↔
      ∀ line ∈ Text.splitLines content, line.getLast? ≠ some '\r' := by
  have hcontent : Text.join ['\n'] (Text.splitLines content) = content :=
    List.intercalate_splitOn _
  constructor
  · intro heq line hline
    have hmap : (Text.splitLines content).map chomp = Text.splitLines content := by
      rw [← h.splitLines_chomped, heq]
    exact chomp_eq_self_iff.1 (List.map_eq_map_iff.1 (hmap.trans (List.map_id _).symm) line hline)
  · intro hlast
    have hmap : (Text.splitLines content).map chomp = Text.splitLines content :=
      (List.map_congr_left fun line hline ↦ chomp_eq_self_iff.2 (hlast line hline)).trans
        (List.map_id' _)
    rw [DocString.chomped, hmap, hcontent]

/-- Reading takes nothing away from a content without carriage returns. -/
theorem Proper.chomped_eq_self {content : Text} (h : Proper d content) :
    DocString.chomped content = content := by
  refine h.kept.chomped_eq_self_iff.2 fun line hline hlast ↦ h.return_not_mem ?_
  exact (Text.not_mem_of_mem_splitLines hline).2 (List.mem_of_getLast? hlast)

theorem Kept.chomped_eq_nil_iff {content : Text} (h : Kept d content) :
    DocString.chomped content = [] ↔ content = [] := by
  constructor
  · intro hnil
    have hsplit := h.splitLines_chomped
    rw [hnil] at hsplit
    obtain ⟨line, hlines, hline⟩ := List.map_eq_singleton_iff.1 hsplit.symm
    have hkept := h.splitLines line (hlines ▸ List.mem_singleton.2 rfl)
    calc
      content = Text.join ['\n'] (Text.splitLines content) := (List.intercalate_splitOn _).symm
      _ = [] := by rw [hlines, hkept.chomp_eq_nil_iff.1 hline]; rfl
  · rintro rfl
    rfl

/-- The lines that are written for a content are read as those that are written for the content
without the carriage returns at the end of its lines. -/
theorem Kept.map_chomp_contentLines {content : Text} (h : Kept d content) (indent : Nat) :
    (contentLines d indent content).map chomp =
      contentLines d indent (DocString.chomped content) := by
  by_cases hnil : content = []
  · rw [hnil]
    rfl
  have hlines := h.splitLines
  have hchomped : ∀ line ∈ (Text.splitLines content).map chomp, KeptLine d line := by
    intro line hline
    obtain ⟨raw, hraw, rfl⟩ := List.mem_map.1 hline
    exact (hlines raw hraw).chomp
  have hjoin : Text.join ['\n'] (Text.splitLines content) = content := List.intercalate_splitOn _
  have hwritten := contentLines_join hlines (by rwa [hjoin]) indent
  rw [hjoin] at hwritten
  -- An edge is empty before the carriage returns are taken away if it is so afterwards.
  have hedge (edge : Option Text) (hmem : ∀ line ∈ edge, line ∈ Text.splitLines content) :
      edge.map chomp = some [] ↔ edge = some [] := by
    cases edge with
    | none => exact Iff.rfl
    | some line =>
      rw [Option.map_some, Option.some_inj, Option.some_inj]
      exact (hlines line (hmem line rfl)).chomp_eq_nil_iff
  have hguard (c : Prop) [Decidable c] :
      (if c then [([] : Text)] else []).map chomp = if c then [[]] else [] := by
    split <;> rfl
  have hcontent : ((Text.splitLines content).map (contentLine d indent)).map chomp =
      ((Text.splitLines content).map chomp).map (contentLine d indent) := by
    rw [List.map_map, List.map_map]
    exact List.map_congr_left fun line hline ↦ chomp_contentLine (hlines line hline) indent
  calc
    _ = (if (Text.splitLines content).head? = some [] then [[]] else []) ++
        ((Text.splitLines content).map chomp).map (contentLine d indent) ++
        (if (Text.splitLines content).getLast? = some [] then [[]] else []) := by
      rw [hwritten, List.map_append, List.map_append, hguard, hguard, hcontent]
    _ = (if ((Text.splitLines content).map chomp).head? = some [] then [[]] else []) ++
        ((Text.splitLines content).map chomp).map (contentLine d indent) ++
        (if ((Text.splitLines content).map chomp).getLast? = some [] then [[]] else []) := by
      simp only [List.head?_map, List.getLast?_map,
        hedge _ fun _ hline ↦ List.mem_of_mem_head? hline,
        hedge _ fun _ hline ↦ List.mem_of_getLast? hline]
    _ = contentLines d indent (DocString.chomped content) :=
      (contentLines_join hchomped (fun heq ↦ hnil (h.chomped_eq_nil_iff.1 heq)) indent).symm

end Gherkin.DocString
