import Gherkin.Feature.Printer
import Gherkin.Proofs.Text.Lines

/-!
# Delimiters inside multiline strings

Expanding the escaped delimiters of a line and escaping the delimiters of the outcome leads to a
line that is expanded to the same outcome. This is not so for every line: a backslash and a
quotation mark in turn, three times, may stand in a line that nothing was expanded from. Where it
was, two more delimiter characters follow each such place, and the longer run is escaped in their
stead.

Main statements: lines that were read are read again after they were written, and no others
(`Delimiter.unescape_escape_eq_iff`), and no written line closes the string
(`Delimiter.trim_escape_ne`).
-/

namespace Gherkin

namespace Text

/-! ## Replacement -/

variable {old new : Text}

theorem replace_nil (old new : Text) : replace old new [] = [] := by
  rw [replace]

theorem replace_append (hne : old ≠ []) (new t : Text) :
    replace old new (old ++ t) = new ++ replace old new t := by
  cases old with
  | nil => exact absurd rfl hne
  | cons o os =>
    have hbegins : afterPrefix? os (os ++ t) = some t := afterPrefix?_eq_some_iff.2 rfl
    rw [List.cons_append, replace, if_pos rfl]
    split
    · next after h =>
      rw [hbegins] at h
      cases h
      rfl
    · next h =>
      rw [hbegins] at h
      cases h

theorem replace_cons {c : Char} {t : Text} (h : ¬old <+: c :: t) (new : Text) :
    replace old new (c :: t) = c :: replace old new t := by
  cases old with
  | nil => exact absurd List.nil_prefix h
  | cons o os =>
    rw [replace]
    split
    · next heq =>
      split
      · next after hafter =>
        rw [afterPrefix?_eq_some_iff.1 hafter, heq] at h
        exact absurd ⟨after, rfl⟩ h
      · rfl
    · rfl

/-- A text is read from the front, by occurrences of the old text and by single characters. -/
theorem replace_induction {motive : Text → Prop} (hne : old ≠ []) (nil : motive [])
    (append : ∀ t, motive t → motive (old ++ t))
    (cons : ∀ c t, ¬old <+: c :: t → motive t → motive (c :: t)) (t : Text) : motive t := by
  induction hn : t.length using Nat.strongRecOn generalizing t with
  | ind n ih =>
    by_cases h : old <+: t
    · obtain ⟨rest, rfl⟩ := h
      have hpos : 0 < old.length := List.length_pos_iff.2 hne
      exact append rest (ih rest.length (by rw [List.length_append] at hn; omega) rest rfl)
    · cases t with
      | nil => exact nil
      | cons c rest =>
        exact cons c rest h (ih rest.length (by rw [List.length_cons] at hn; omega) rest rfl)

/-- A character that is not part of the old text stays at the end. -/
theorem replace_concat (hne : old ≠ []) {c : Char} (hc : c ∉ old) (new t : Text) :
    replace old new (t ++ [c]) = replace old new t ++ [c] := by
  have hlast (t : Text) (hnot : ¬old <+: t) : ¬old <+: t ++ [c] := by
    intro h
    rcases List.prefix_concat_iff.1 h with heq | h
    · exact hc (heq ▸ List.mem_concat_self)
    · exact hnot h
  induction t using replace_induction hne with
  | nil =>
    have hnil : ¬old <+: [] := fun h ↦ hne (List.prefix_nil.1 h)
    rw [List.nil_append, replace_cons (hlast [] hnil), replace_nil]
    rfl
  | append t ih =>
    rw [List.append_assoc, replace_append hne, replace_append hne, ih, List.append_assoc]
  | cons d t hnot ih =>
    rw [List.cons_append, replace_cons (t := t ++ [c]) (hlast (d :: t) hnot), replace_cons hnot, ih,
      List.cons_append]

/-- What a replaced text begins with was either put there or there before. -/
theorem exists_of_replace_eq_cons (hne : old ≠ []) {t s : Text} {c : Char}
    (h : replace old new t = c :: s) :
    (∃ r, t = old ++ r ∧ new ++ replace old new r = c :: s) ∨
      ∃ r, t = c :: r ∧ ¬old <+: t ∧ replace old new r = s := by
  by_cases hbegins : old <+: t
  · obtain ⟨r, rfl⟩ := hbegins
    rw [replace_append hne] at h
    exact .inl ⟨r, rfl, h⟩
  · cases t with
    | nil =>
      rw [replace_nil] at h
      cases h
    | cons d r =>
      rw [replace_cons hbegins] at h
      obtain ⟨rfl, rfl⟩ := List.cons.inj h
      exact .inr ⟨r, rfl, hbegins, rfl⟩

theorem mem_replace (hne : old ≠ []) {t : Text} {c : Char} (h : c ∈ replace old new t) :
    c ∈ new ∨ c ∈ t := by
  induction t using replace_induction hne with
  | nil =>
    rw [replace_nil] at h
    cases h
  | append t ih =>
    rw [replace_append hne, List.mem_append] at h
    rcases h with hnew | h
    · exact .inl hnew
    · exact (ih h).imp id fun ht ↦ List.mem_append_right old ht
  | cons d t hnot ih =>
    rw [replace_cons hnot, List.mem_cons] at h
    rcases h with rfl | h
    · exact .inr List.mem_cons_self
    · exact (ih h).imp id fun ht ↦ List.mem_cons_of_mem d ht

/-- A text in which nothing was put is the text from before. -/
theorem replace_eq_or_infix (hne : old ≠ []) (new t : Text) :
    replace old new t = t ∨ new <:+: replace old new t := by
  induction t using replace_induction hne with
  | nil => exact .inl (replace_nil old new)
  | append t ih =>
    rw [replace_append hne]
    exact .inr (List.prefix_append new _).isInfix
  | cons c t hnot ih =>
    rw [replace_cons hnot]
    exact ih.imp (congrArg (c :: ·)) fun h ↦ h.trans (List.suffix_cons c _).isInfix

/-- Whatever occurs in a text is replaced at least once. -/
theorem infix_replace (hne : old ≠ []) {t : Text} (new : Text) (h : old <:+: t) :
    new <:+: replace old new t := by
  induction t using replace_induction hne with
  | nil => exact absurd (List.eq_nil_of_infix_nil h) hne
  | append t ih =>
    rw [replace_append hne]
    exact (List.prefix_append new _).isInfix
  | cons c t hnot ih =>
    rw [replace_cons hnot]
    rcases List.infix_cons_iff.1 h with hbegins | h
    · exact absurd hbegins hnot
    · exact (ih h).trans (List.suffix_cons c _).isInfix

end Text

namespace Delimiter

open Text (replace_append replace_cons replace_nil exists_of_replace_eq_cons)

theorem char_ne (d : Delimiter) : d.char ≠ '\\' := by cases d <;> decide

theorem mark_ne_nil (d : Delimiter) : d.mark ≠ [] := List.cons_ne_nil _ _

theorem escaped_ne_nil (d : Delimiter) : d.escaped ≠ [] := List.cons_ne_nil _ _

/-- Wherever the line holds an escaped delimiter, two more delimiter characters follow. -/
def Stable (d : Delimiter) (line : Text) : Prop :=
  ∀ rest, d.escaped ++ rest <:+ line → ∃ more, rest = d.char :: d.char :: more

theorem stable_nil (d : Delimiter) : d.Stable [] := by
  intro rest h
  cases List.eq_nil_of_suffix_nil h

theorem Stable.of_suffix {d : Delimiter} {s t : Text} (ht : d.Stable t) (h : s <:+ t) :
    d.Stable s := fun rest hrest ↦ ht rest (hrest.trans h)

/-- A delimiter character and a backslash in an expanded line were there before. -/
theorem eq_append_of_unescape {d : Delimiter} {t s : Text}
    (h : d.unescape t = d.char :: '\\' :: s) :
    ∃ r, t = d.char :: '\\' :: r ∧ d.unescape r = s := by
  rcases exists_of_replace_eq_cons d.escaped_ne_nil h with ⟨r, -, hr⟩ | ⟨r, rfl, -, hr⟩
  · exact absurd (List.cons.inj (List.cons.inj hr).2).1 d.char_ne
  · rcases exists_of_replace_eq_cons d.escaped_ne_nil hr with ⟨r', -, hr'⟩ | ⟨r', rfl, -, hr'⟩
    · exact absurd (List.cons.inj hr').1 d.char_ne
    · exact ⟨r', rfl, hr'⟩

/-- What comes out of expanding is stable: an escaped delimiter in it ends in a delimiter that was
expanded, for else it would have been expanded itself. -/
theorem stable_unescape (d : Delimiter) (t : Text) : d.Stable (d.unescape t) := by
  induction t using Text.replace_induction d.escaped_ne_nil with
  | nil =>
    rw [unescape, replace_nil]
    exact d.stable_nil
  | append t ih =>
    rw [unescape, replace_append d.escaped_ne_nil]
    intro rest h
    -- An escaped delimiter begins with a backslash, which the expanded one does not hold.
    rcases List.suffix_cons_iff.1 h with heq | h
    · exact absurd (List.cons.inj heq).1.symm d.char_ne
    rcases List.suffix_cons_iff.1 h with heq | h
    · exact absurd (List.cons.inj heq).1.symm d.char_ne
    rcases List.suffix_cons_iff.1 h with heq | h
    · exact absurd (List.cons.inj heq).1.symm d.char_ne
    · exact ih rest h
  | cons c t hnot ih =>
    rw [unescape, replace_cons hnot]
    intro rest h
    rcases List.suffix_cons_iff.1 h with heq | h
    · obtain ⟨rfl, ht⟩ := List.cons.inj heq
      obtain ⟨r, rfl, hr⟩ := eq_append_of_unescape ht.symm
      obtain ⟨r', rfl, hr'⟩ := eq_append_of_unescape hr
      rcases exists_of_replace_eq_cons d.escaped_ne_nil hr' with ⟨s, -, hs⟩ | ⟨s, rfl, -, -⟩
      · exact ⟨_, (List.cons.inj hs).2.symm⟩
      · exact absurd ⟨s, rfl⟩ hnot
    · exact ih rest h

/-- A delimiter character and a backslash in an escaped line were there before. -/
theorem eq_append_of_escape {d : Delimiter} {t s : Text} (h : d.escape t = d.char :: '\\' :: s) :
    ∃ r, t = d.char :: '\\' :: r ∧ d.escape r = s := by
  rcases exists_of_replace_eq_cons d.mark_ne_nil h with ⟨r, -, hr⟩ | ⟨r, rfl, hnot, hr⟩
  · exact absurd (List.cons.inj hr).1.symm d.char_ne
  · rcases exists_of_replace_eq_cons d.mark_ne_nil hr with ⟨r', rfl, -⟩ | ⟨r', rfl, -, hr'⟩
    · exact absurd ⟨d.char :: r', rfl⟩ hnot
    · exact ⟨r', rfl, hr'⟩

/-- A stable line is read again after it was escaped. -/
theorem unescape_escape {d : Delimiter} {line : Text} (h : d.Stable line) :
    d.unescape (d.escape line) = line := by
  induction line using Text.replace_induction d.mark_ne_nil with
  | nil => rw [escape, replace_nil, unescape, replace_nil]
  | append t ih =>
    have ht : d.unescape (d.escape t) = t := ih (h.of_suffix (List.suffix_append _ t))
    calc
      d.unescape (d.escape (d.mark ++ t)) = d.unescape (d.escaped ++ d.escape t) := by
        rw [escape, replace_append d.mark_ne_nil, escape]
      _ = d.mark ++ d.unescape (d.escape t) := replace_append d.escaped_ne_nil d.mark _
      _ = d.mark ++ t := by rw [ht]
  | cons c t hnot ih =>
    have ht : d.unescape (d.escape t) = t := ih (h.of_suffix (List.suffix_cons c t))
    have hescaped : ¬d.escaped <+: c :: d.escape t := by
      rintro ⟨x, hx⟩
      obtain ⟨rfl, hescape⟩ := List.cons.inj hx
      obtain ⟨r, rfl, hr⟩ := eq_append_of_escape hescape.symm
      obtain ⟨r', rfl, hr'⟩ := eq_append_of_escape hr
      rcases exists_of_replace_eq_cons d.mark_ne_nil hr' with ⟨s, -, hs⟩ | ⟨s, rfl, hmark, -⟩
      · exact absurd (List.cons.inj hs).1.symm d.char_ne
      · -- The line holds an escaped delimiter, so that another delimiter begins at its end.
        obtain ⟨more, rfl⟩ := h s List.suffix_rfl
        exact hmark ⟨more, rfl⟩
    calc
      d.unescape (d.escape (c :: t)) = d.unescape (c :: d.escape t) := by
        rw [escape, replace_cons hnot, escape]
      _ = c :: d.unescape (d.escape t) := replace_cons hescaped d.mark
      _ = c :: t := by rw [ht]

/-- The lines that come out of expanding are the stable ones. -/
theorem exists_unescape_eq_iff {d : Delimiter} {line : Text} :
    (∃ raw, d.unescape raw = line) ↔ d.Stable line := by
  constructor
  · rintro ⟨raw, rfl⟩
    exact d.stable_unescape raw
  · exact fun h ↦ ⟨d.escape line, unescape_escape h⟩

/-- No other lines are read again after they were escaped. -/
theorem unescape_escape_eq_iff {d : Delimiter} {line : Text} :
    d.unescape (d.escape line) = line ↔ d.Stable line :=
  ⟨fun h ↦ exists_unescape_eq_iff.1 ⟨_, h⟩, unescape_escape⟩

theorem not_isBlank_of_infix {s t : Text} (h : s <:+: t) (hs : ¬Text.isBlank s) :
    ¬Text.isBlank t := fun ht ↦ hs (Text.isBlank_of_subset h.subset ht)

/-- Escaping leaves no line blank that was not. -/
theorem not_isBlank_escape {d : Delimiter} {line : Text} (h : ¬Text.isBlank line) :
    ¬Text.isBlank (d.escape line) := by
  rcases Text.replace_eq_or_infix d.mark_ne_nil d.escaped line with heq | hinfix
  · rw [escape, heq]
    exact h
  · exact not_isBlank_of_infix hinfix (by cases d <;> decide)

/-- Expanding leaves no line blank that was not. -/
theorem not_isBlank_unescape {d : Delimiter} {line : Text} (h : ¬Text.isBlank line) :
    ¬Text.isBlank (d.unescape line) := by
  rcases Text.replace_eq_or_infix d.escaped_ne_nil d.mark line with heq | hinfix
  · rw [unescape, heq]
    exact h
  · exact not_isBlank_of_infix hinfix (by cases d <;> decide)

/-- A written content line does not close the string. -/
theorem trim_escape_ne (d : Delimiter) (line : Text) : Text.trim (d.escape line) ≠ d.mark := by
  intro htrim
  obtain ⟨a, b, ha, hb, heq⟩ := Text.exists_eq_append_trim_append (d.escape line)
  rw [htrim] at heq
  have hbackslash : '\\' ∉ d.escape line := by
    rw [heq, List.mem_append, List.mem_append]
    rintro (hmem | hmem | hmem)
    · exact absurd (List.all_eq_true.1 ha _ hmem) (by decide)
    · cases d <;> exact absurd hmem (by decide)
    · exact absurd (List.all_eq_true.1 hb _ hmem) (by decide)
  have hescaped : ¬d.escaped <:+: d.escape line := fun h ↦ hbackslash (h.subset List.mem_cons_self)
  rcases Text.replace_eq_or_infix d.mark_ne_nil d.escaped line with hline | hinfix
  · have hmark : d.mark <:+: line := ⟨a, b, by rw [List.append_assoc, ← heq, escape, hline]⟩
    exact hescaped (Text.infix_replace d.mark_ne_nil d.escaped hmark)
  · exact hescaped hinfix

theorem oneLine_escape {d : Delimiter} {line : Text} (h : line.OneLine) :
    (d.escape line).OneLine := by
  intro c hc
  rcases Text.mem_replace d.mark_ne_nil hc with hc | hc
  · have hescaped : d.escaped.OneLine := by cases d <;> decide
    exact hescaped c hc
  · exact h c hc

theorem oneLine_unescape {d : Delimiter} {line : Text} (h : line.OneLine) :
    (d.unescape line).OneLine := by
  intro c hc
  rcases Text.mem_replace d.escaped_ne_nil hc with hc | hc
  · have hmark : d.mark.OneLine := by cases d <;> decide
    exact hmark c hc
  · exact h c hc

/-- Neither escaping nor expanding brings a carriage return in. -/
theorem return_not_mem_escape {d : Delimiter} {line : Text} (h : '\r' ∉ line) :
    '\r' ∉ d.escape line := by
  intro hc
  rcases Text.mem_replace d.mark_ne_nil hc with hc | hc
  · cases d <;> exact absurd hc (by decide)
  · exact h hc

theorem return_not_mem_unescape {d : Delimiter} {line : Text} (h : '\r' ∉ line) :
    '\r' ∉ d.unescape line := by
  intro hc
  rcases Text.mem_replace d.escaped_ne_nil hc with hc | hc
  · cases d <;> exact absurd hc (by decide)
  · exact h hc

end Delimiter

end Gherkin
