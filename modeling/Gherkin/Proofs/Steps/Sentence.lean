import Gherkin.Proofs.Regex.Literal
import Gherkin.Proofs.Text.Squeeze
import Gherkin.Steps.Sentence
import Mathlib.Data.List.TakeWhile
import Mathlib.Tactic.Push

/-!
# Sentences that names spell

A sentence that a name spells begins and ends with something else than white space, holds no white
space but blanks, and means nothing but itself as a pattern. Each underscore between the words of
the name is one blank of the sentence, so the sentence is collapsed exactly if no run of underscores
sets two words of the name apart.

Main statement: `sentenceOfIdentifier?_spec`.
-/

namespace Gherkin

namespace Text

/-- The ends of a text are trimmed up to what is not blank. -/
theorem trim_append_append_of_not_isBlank {a b : Text} (ha : ¬isBlank a) (hb : ¬isBlank b)
    (t : Text) : trim (a ++ t ++ b) = trimStart a ++ t ++ trimEnd b := by
  have hdrop {s : Text} (hs : ¬isBlank s) (t : Text) :
      (s ++ t).dropWhile isSpace = s.dropWhile isSpace ++ t := by
    rw [List.dropWhile_append, if_neg]
    rwa [List.isEmpty_iff, List.dropWhile_eq_nil_iff, ← List.all_eq_true]
  rw [List.append_assoc, trim, trimStart, hdrop ha, ← List.append_assoc, trimEnd,
    List.reverse_append, hdrop (by rwa [isBlank, List.all_reverse]), List.reverse_append,
    List.reverse_reverse]
  rfl

/-- White space inside a solid text has something else before it and behind it. -/
theorem Solid.not_isBlank {a b : Text} {c : Char} (h : Solid (a ++ c :: b))
    (hc : isSpace c) : ¬isBlank a ∧ ¬isBlank b := by
  constructor
  · intro ha
    have hhead := h.head
    cases a with
    | nil => simp [hc] at hhead
    | cons d a =>
      have hd : isSpace d := List.all_eq_true.1 ha d List.mem_cons_self
      simp [hd] at hhead
  · intro hb
    have hlast := h.last
    rw [List.getLast?_append_cons, List.getLast?_eq_some_getLast (List.cons_ne_nil c b)] at hlast
    have hspace : ∀ d ∈ c :: b, isSpace d := List.forall_mem_cons.2 ⟨hc, List.all_eq_true.1 hb⟩
    simp [hspace _ (List.getLast_mem (List.cons_ne_nil c b))] at hlast

end Text

open Text (Solid isSpace isBlank trim)
open Unicode (isAlphanumeric toUpper)

/-- Two underscores in a row stand between other characters. -/
def HasWideGap (t : Text) : Prop :=
  ∃ before after, t = before ++ '_' :: '_' :: after ∧ (∃ c ∈ before, c ≠ '_') ∧ ∃ c ∈ after, c ≠ '_'

/-- The character stands in a word and means nothing but itself in a pattern. -/
def isWordSign (c : Char) : Bool := !isSpace c && Regex.isPlain c

/-- The special signs of patterns are neither letters nor digits, and all of them are in ASCII. -/
theorem isPlain_of_not_punctuation {c : Char} (h : 128 ≤ c.toNat ∨ isAlphanumeric c ∨ c.isUpper) :
    Regex.isPlain c := by
  have hspecial : (['(', ')', '|', '[', '?', '*', '+', '\x7b', '\\', '.', '^', '$'].all fun d ↦
      decide (d.toNat < 128) && !(isAlphanumeric d || d.isUpper)) = true := by
    decide
  rw [Regex.isPlain, decide_eq_true_iff]
  intro hmem
  have hc := List.all_eq_true.1 hspecial c hmem
  rw [Bool.and_eq_true, decide_eq_true_iff, Bool.not_eq_true', Bool.or_eq_false_iff] at hc
  obtain ⟨hascii, halnum, hupper⟩ := hc
  rw [halnum, hupper] at h
  simp only [Bool.false_eq_true, or_false] at h
  omega

theorem isSpace_of_isUpper {c : Char} (h : c.isUpper) : isSpace c = false := by
  have hclass : c.isAlphanum = (c.isUpper || c.isLower || c.isDigit) := rfl
  exact Unicode.isSpace_of_isAlphanum (by rw [hclass, h, Bool.true_or, Bool.true_or])

theorem isWordSign_of_isAlphanumeric {c : Char} (h : isAlphanumeric c) : isWordSign c := by
  rw [isWordSign, Unicode.isSpace_of_isAlphanumeric h, isPlain_of_not_punctuation (.inr (.inl h))]
  rfl

/-- A letter or digit becomes letters and digits in upper case, and marks that go with them. -/
theorem isWordSign_of_mem_toUpper {c d : Char} (hc : isAlphanumeric c) (hd : d ∈ toUpper c) :
    isWordSign d := by
  rcases Unicode.of_mem_toUpper hd with rfl | hupper | ⟨hbeyond, hspace⟩
  · exact isWordSign_of_isAlphanumeric hc
  · rw [isWordSign, isSpace_of_isUpper hupper, isPlain_of_not_punctuation (.inr (.inr hupper))]
    rfl
  · rw [isWordSign, hspace, isPlain_of_not_punctuation (.inl hbeyond)]
    rfl

/-- An identifier with blanks for its underscores. -/
def spaced (t : Text) : Text := t.map fun c ↦ if c = '_' then ' ' else c

section Spaced

variable {t : Text} (ht : ∀ c ∈ t, isAlphanumeric c ∨ c = '_')

include ht

theorem mem_spaced {d : Char} (hd : d ∈ spaced t) : isAlphanumeric d ∨ d = ' ' := by
  obtain ⟨c, hc, rfl⟩ := List.mem_map.1 hd
  split
  · exact .inr rfl
  · next hne => exact .inl ((ht c hc).resolve_right hne)

/-- The words of an identifier are not blank. -/
theorem isBlank_spaced_iff : isBlank (spaced t) ↔ ∀ c ∈ t, c = '_' := by
  rw [isBlank, List.all_eq_true, spaced, List.forall_mem_map]
  refine forall₂_congr fun c hc ↦ ?_
  split
  · next heq => exact iff_of_true rfl heq
  · next hne =>
    rw [Unicode.isSpace_of_isAlphanumeric ((ht c hc).resolve_right hne)]
    exact iff_of_false Bool.false_ne_true hne

end Spaced

/-- Blanks of the trimmed text stand for underscores between other characters. -/
theorem infix_trim_spaced_iff {t : Text} (ht : ∀ c ∈ t, isAlphanumeric c ∨ c = '_') :
    [' ', ' '] <:+: trim (spaced t) ↔ HasWideGap t := by
  have hblank {s : Text} (hs : s ⊆ t) : ¬isBlank (spaced s) ↔ ∃ c ∈ s, c ≠ '_' := by
    rw [isBlank_spaced_iff fun c hc ↦ ht c (hs hc)]
    push Not
    rfl
  constructor
  · rintro ⟨x, y, hxy⟩
    have hsolid := Text.solid_trim (spaced t)
    rw [← hxy, List.append_assoc] at hsolid
    obtain ⟨a, b, -, -, hab⟩ := Text.exists_eq_append_trim_append (spaced t)
    have hsplit : spaced t = (a ++ x) ++ ' ' :: ' ' :: (y ++ b) := by
      rw [hab, ← hxy]
      simp
    obtain ⟨before, rest, rfl, hbefore, hrest⟩ := List.map_eq_append_iff.1 hsplit
    obtain ⟨p, rest, rfl, hp, hrest⟩ := List.map_eq_cons_iff.1 hrest
    obtain ⟨q, after, rfl, hq, hafter⟩ := List.map_eq_cons_iff.1 hrest
    have hunderscore {c : Char} (hc : c ∈ before ++ p :: q :: after)
        (heq : (if c = '_' then ' ' else c) = ' ') : c = '_' := by
      by_contra hne
      rw [if_neg hne] at heq
      have hspace := Unicode.isSpace_of_isAlphanumeric ((ht c hc).resolve_right hne)
      rw [heq] at hspace
      cases hspace
    obtain rfl := hunderscore (by simp) hp
    obtain rfl := hunderscore (by simp) hq
    refine ⟨before, after, rfl, (hblank (List.subset_append_left _ _)).1 ?_,
      (hblank fun c hc ↦ by simp [hc]).1 ?_⟩
    · rw [spaced, hbefore, Text.isBlank_append]
      exact fun h ↦ (hsolid.not_isBlank rfl).1 h.2
    · rw [spaced, hafter, Text.isBlank_append]
      exact fun h ↦ (hsolid.not_isBlank rfl).2 h.1
  · rintro ⟨before, after, rfl, hbefore, hafter⟩
    have hspaced : spaced (before ++ '_' :: '_' :: after) =
        spaced before ++ [' ', ' '] ++ spaced after := by
      simp [spaced]
    have hfront := (hblank (List.subset_append_left _ _)).2 hbefore
    have hback := (hblank fun c hc ↦ by simp [hc]).2 hafter
    rw [hspaced, Text.trim_append_append_of_not_isBlank hfront hback]
    exact ⟨_, _, rfl⟩

/-- The text is a sentence that can stand in a document, but for blanks in a row, and that means
nothing but itself as a pattern. -/
structure PlainSentence (s : Text) : Prop where
  ne_nil : s ≠ []
  solid : Solid s
  signs : ∀ c ∈ s, c = ' ' ∨ isWordSign c

namespace PlainSentence

variable {s : Text} (h : PlainSentence s)

include h

theorem isPlain : ∀ c ∈ s, Regex.isPlain c := by
  intro c hc
  rcases h.signs c hc with rfl | hsign
  · decide
  · rw [isWordSign, Bool.and_eq_true] at hsign
    exact hsign.2

theorem eq_blank : ∀ c ∈ s, isSpace c → c = ' ' := by
  intro c hc hspace
  refine (h.signs c hc).resolve_right fun hsign ↦ ?_
  rw [isWordSign, hspace] at hsign
  cases hsign

theorem oneLine : s.OneLine := by
  rintro c hc rfl
  exact absurd (h.eq_blank _ hc rfl) (by decide)

end PlainSentence

theorem sentenceOfIdentifier?_eq_some_iff {t s : Text} : sentenceOfIdentifier? t = some s ↔
    (∀ c ∈ t, isAlphanumeric c ∨ c = '_') ∧
      ∃ c rest, trim (spaced t) = c :: rest ∧ s = toUpper c ++ rest := by
  have hall : (t.all fun c ↦ isAlphanumeric c || c = '_') = true ↔
      ∀ c ∈ t, isAlphanumeric c ∨ c = '_' := by
    simp
  rw [sentenceOfIdentifier?, ← hall, spaced]
  by_cases ht : (t.all fun c ↦ isAlphanumeric c || c = '_') = true
  · rw [if_pos ht, and_iff_right ht]
    cases trim (t.map fun c ↦ if c = '_' then ' ' else c) with
    | nil => simp
    | cons c rest => simp [eq_comm]
  · rw [if_neg ht]
    exact iff_of_false (Option.some_ne_none s).symm fun h ↦ ht h.1

theorem infix_append_iff_of_not_mem {u t : Text} (hu : ' ' ∉ u) :
    [' ', ' '] <:+: u ++ t ↔ [' ', ' '] <:+: t := by
  induction u with
  | nil => rfl
  | cons c u ih =>
    obtain ⟨hc, hu⟩ := not_or.1 (mt List.mem_cons.2 hu)
    rw [List.cons_append, List.infix_cons_iff, ih hu, or_iff_right]
    exact fun h ↦ hc (List.cons_prefix_cons.1 h).1

/-- What an identifier spells is a plain sentence, with blanks in a row exactly where underscores in
a row set words apart. -/
theorem sentenceOfIdentifier?_spec {t s : Text} (h : sentenceOfIdentifier? t = some s) :
    PlainSentence s ∧ ([' ', ' '] <:+: s ↔ HasWideGap t) := by
  obtain ⟨ht, c, rest, htrim, rfl⟩ := sentenceOfIdentifier?_eq_some_iff.1 h
  have hsolid := Text.solid_trim (spaced t)
  have hmem : ∀ d ∈ c :: rest, isAlphanumeric d ∨ d = ' ' :=
    fun d hd ↦ mem_spaced ht (Text.trim_subset _ (htrim ▸ hd))
  rw [htrim] at hsolid
  have hne : c ≠ ' ' := by
    rintro rfl
    cases hsolid.head
  have hc : isAlphanumeric c := (hmem c List.mem_cons_self).resolve_right hne
  have hupper : ∀ d ∈ toUpper c, isWordSign d := fun d hd ↦ isWordSign_of_mem_toUpper hc hd
  have hword : Text.IsWord (toUpper c) := by
    refine ⟨Unicode.toUpper_ne_nil c, fun d hd ↦ ?_⟩
    have hsign := hupper d hd
    rw [isWordSign, Bool.and_eq_true, Bool.not_eq_true'] at hsign
    exact hsign.1
  have hblank : ' ' ∉ toUpper c := fun hmem ↦ absurd (hword.2 ' ' hmem) (by decide)
  refine ⟨⟨List.append_ne_nil_of_left_ne_nil hword.1 rest, ?_, ?_⟩, ?_⟩
  · cases rest with
    | nil =>
      rw [List.append_nil]
      exact hword.solid
    | cons d rest =>
      have hlast := hsolid.last
      rw [List.getLast?_cons_cons] at hlast
      exact .append hword.solid.head hword.1 hlast (List.cons_ne_nil d rest)
  · refine List.forall_mem_append.2 ⟨fun d hd ↦ .inr (hupper d hd), fun d hd ↦ ?_⟩
    exact (hmem d (List.mem_cons_of_mem c hd)).symm.imp_right isWordSign_of_isAlphanumeric
  · have hfirst : [' ', ' '] <:+: [c] ++ rest ↔ [' ', ' '] <:+: rest :=
      infix_append_iff_of_not_mem fun hmem ↦ hne (List.mem_singleton.1 hmem).symm
    rw [infix_append_iff_of_not_mem hblank, ← infix_trim_spaced_iff ht, htrim]
    exact hfirst.symm

end Gherkin
