import Gherkin.Proofs.Language.Longest
import Mathlib.Data.List.TakeWhile

/-!
# Steps in canonical form

A step is written with the literal of its keyword in front of its body, whatever white space stood
between them in the line that it was read from. Only in French may the white space matter: some
keywords are the beginning of another one, such as `Et ` of `Et que `, and a body that was set off
by more than one blank may begin like the end of the longer keyword. Written with one blank, such a
step is read with the longer keyword.

Main statements: a step is read with its own keyword again unless a longer one opens its canonical
form (`Language.Orderly.readStep?_canonical_iff`), and in a bundled language this is the only way in
which it is not, its kind is kept in any case, and writing it once more changes nothing
(`Language.readStep?_canonical`).
-/

namespace Gherkin

open Text (Solid isSpace isBlank trim trimEnd)

/-- The step with the literal of its keyword right before its body. -/
def StepLine.canonical (s : StepLine) : Text := s.literal ++ s.text

/-- The keyword that read a step reads its canonical form as the same step. -/
theorem StepKeyword.read?_canonical {k : StepKeyword} {line : Text} {s : StepLine}
    (h : k.read? line = some s) :
    k.read? s.canonical = some s ∧ s.kind = k.kind ∧ s.literal = k.literal ∧ Solid s.text := by
  obtain ⟨rest, -, -, hblank, rfl⟩ := read?_eq_some_iff.1 h
  have hsolid := Text.solid_trim rest
  have hbody : ¬isBlank (trim rest) := by
    rwa [Text.isBlank_iff_trim_eq_nil, hsolid.trim_eq, ← Text.isBlank_iff_trim_eq_nil]
  have hread := k.read?_append hbody
  rw [hsolid.trim_eq] at hread
  exact ⟨hread, rfl, rfl, hsolid⟩

/-- A step is read from its canonical form unless a longer keyword opens it. -/
theorem Language.Orderly.readStep?_canonical_iff {l : Language} (hl : l.Orderly) {line : Text}
    {s : StepLine} (hs : l.readStep? line = some s) :
    l.readStep? s.canonical = some s ↔
      ∀ k ∈ l.steps, s.literal.length < k.literal.length → ¬k.Opens s.canonical := by
  obtain ⟨k, hk, hread⟩ := mem_of_readStep hs
  obtain ⟨hcanonical, -, hliteral, -⟩ := StepKeyword.read?_canonical hread
  rw [hl.readStep?_eq_some_iff]
  constructor
  · rintro ⟨k', hk', hread', hmax⟩ longer hlonger hlt hopens
    have hliteral' : s.literal = k'.literal := (StepKeyword.read?_canonical hread').2.2.1
    have hne : longer ≠ k' := by
      rintro rfl
      rw [hliteral'] at hlt
      omega
    have hle := hmax longer hlonger hne hopens
    rw [hliteral'] at hlt
    omega
  · intro hnone
    refine ⟨k, hk, hcanonical, fun k' hk' hne hopens ↦ ?_⟩
    have hopensk : k.Opens s.canonical := StepKeyword.opens_of_read? hcanonical
    rcases Nat.lt_trichotomy k'.literal.length k.literal.length with hlt | heq | hgt
    · exact hlt
    · exact absurd (hl.apart.step_unique k' hk' k hk hopens hopensk heq) hne
    · rw [← hliteral] at hgt
      exact absurd hopens (hnone k' hk' hgt)

theorem Text.trimEnd_append_of_not_isBlank {t : Text} (h : ¬isBlank t) (s : Text) :
    trimEnd (s ++ t) = s ++ trimEnd t := by
  have hsome : (t.reverse.dropWhile isSpace).isEmpty = false := by
    rw [List.isEmpty_eq_false_iff, Ne, List.dropWhile_eq_nil_iff]
    intro hall
    exact h (List.all_eq_true.2 fun c hc ↦ hall c (List.mem_reverse.2 hc))
  rw [trimEnd, trimEnd, List.reverse_append, List.dropWhile_append, hsome]
  simp

/-- Where a keyword goes on from another literal, its ending reads what follows that literal. -/
theorem StepKeyword.opens_append_iff {ending : Text} (h : ¬isBlank ending) (literal body : Text)
    (kind : StepKind) :
    StepKeyword.Opens ⟨literal ++ ending, kind⟩ (literal ++ body) ↔
      StepKeyword.Opens ⟨ending, kind⟩ body := by
  simp only [Opens, Text.trimEnd_append_of_not_isBlank h, List.append_assoc,
    List.append_cancel_left_eq]

/-- What ends a solid text is not blank. -/
theorem Text.Solid.not_isBlank_of_append {s t : Text} (h : Solid (s ++ t)) (ht : t ≠ []) :
    ¬isBlank t := by
  intro hblank
  have hlast := h.last
  rw [List.getLast?_append, List.getLast?_eq_some_getLast ht, Option.some_or] at hlast
  have hspace := List.all_eq_true.1 hblank _ (List.getLast_mem ht)
  rw [Option.all_some, hspace] at hlast
  cases hlast

/-! ## French -/

/-- The French literals from which longer ones go on. -/
def queLiterals : List Text :=
  ["Sachant ".toList, "Etant donné ".toList, "Étant donné ".toList, "Et ".toList, "Mais ".toList]

/-- How the longer ones go on. -/
def queEndings : List Text := ["que ".toList, "qu'".toList]

theorem not_isBlank_of_mem_queEndings : ∀ ending ∈ queEndings, ¬isBlank ending := by
  decide

/-- The body begins like the end of a longer keyword: with `que` and white space, or with `qu'` and
anything else. -/
def GoesOnWithQue (body : Text) : Prop :=
  (∃ c rest, isSpace c ∧ body = "que".toList ++ c :: rest) ∨
    ∃ c rest, body = "qu'".toList ++ c :: rest

/-- A solid body goes on so if one of the endings opens it as a keyword. -/
theorem goesOnWithQue_iff {body : Text} (hbody : Solid body) (kind : StepKind) :
    GoesOnWithQue body ↔ ∃ ending ∈ queEndings, StepKeyword.Opens ⟨ending, kind⟩ body := by
  have hque : trimEnd "que ".toList = "que".toList := by decide
  have hqu : trimEnd "qu'".toList = "qu'".toList := by decide
  constructor
  · rintro (⟨c, rest, hc, rfl⟩ | ⟨c, rest, rfl⟩)
    · refine ⟨"que ".toList, by simp [queEndings], c :: rest, by rw [hque], .inr ?_, ?_⟩
      · simpa using hc
      · exact hbody.not_isBlank_of_append (List.cons_ne_nil c rest)
    · refine ⟨"qu'".toList, by simp [queEndings], c :: rest, by rw [hqu], .inl hqu, ?_⟩
      exact hbody.not_isBlank_of_append (List.cons_ne_nil c rest)
  · rintro ⟨ending, hending, rest, rfl, hgap, hblank⟩
    cases rest with
    | nil => exact absurd rfl hblank
    | cons c rest =>
      rw [queEndings, List.mem_cons, List.mem_singleton] at hending
      rcases hending with rfl | rfl
      · have hne : trimEnd "que ".toList ≠ "que ".toList := by decide
        have hspace : isSpace c := by simpa using hgap.resolve_left hne
        exact .inl ⟨c, rest, hspace, by rw [hque]⟩
      · exact .inr ⟨c, rest, by rw [hqu]⟩

namespace Language

/-- Of two French keywords the longer one reads no line that begins with the shorter literal, unless
it goes on from that literal, and then it is of the same kind. -/
theorem longer_french : ∀ k ∈ Vocabulary.french.stepKeywords,
    ∀ k' ∈ Vocabulary.french.stepKeywords, k.literal.length < k'.literal.length →
      k'.Misses k.literal ∨ k.literal ∈ queLiterals ∧
        ∃ ending ∈ queEndings, k' = ⟨k.literal ++ ending, k.kind⟩ := by
  decide +kernel

theorem mem_french : ∀ k ∈ Vocabulary.french.stepKeywords, k.literal ∈ queLiterals →
    ∀ ending ∈ queEndings,
      (⟨k.literal ++ ending, k.kind⟩ : StepKeyword) ∈ Vocabulary.french.stepKeywords := by
  decide +kernel

/-- No literal goes on twice. -/
theorem append_not_mem_queLiterals :
    ∀ literal ∈ queLiterals, ∀ ending ∈ queEndings, literal ++ ending ∉ queLiterals := by
  decide

theorem vocabulary_eq_french : ∀ b ∈ bundles, b.code = "fr" → b.vocabulary = .french := by
  simp [bundles]

/-- The canonical form of a step is read as the step, or, in French alone, with the longer keyword
that the step's literal and the beginning of its body make. -/
theorem readStep?_canonical_cases {b : Bundle} (hb : b ∈ bundles) {line : Text} {s s' : StepLine}
    (hs : b.language.readStep? line = some s) (hs' : b.language.readStep? s.canonical = some s') :
    s' = s ∨ b.code = "fr" ∧ s.literal ∈ queLiterals ∧ s'.kind = s.kind ∧
      ∃ ending ∈ queEndings, s'.literal = s.literal ++ ending ∧
        StepKeyword.Opens ⟨ending, s.kind⟩ s.text := by
  have horderly := orderly_of_mem_bundles hb
  obtain ⟨k, hk, hread⟩ := mem_of_readStep hs
  obtain ⟨hcanonical, hkind, hliteral, -⟩ := StepKeyword.read?_canonical hread
  obtain ⟨k', hk', hread', hmax⟩ := horderly.readStep?_eq_some_iff.1 hs'
  by_cases hsame : k' = k
  · rw [hsame, hcanonical] at hread'
    exact .inl (Option.some.inj hread').symm
  have hlt := hmax k hk (Ne.symm hsame) (StepKeyword.opens_of_read? hcanonical)
  have hopens : k'.Opens (k.literal ++ s.text) := by
    rw [← hliteral]
    exact StepKeyword.opens_of_read? hread'
  have hmiss : ¬k'.Misses k.literal := by
    intro hmiss
    rw [← StepKeyword.isSome_read?_iff, StepKeyword.read?_of_misses hmiss] at hopens
    cases hopens
  have hmem : k ∈ b.vocabulary.stepKeywords := List.mem_mergeSort.1 hk
  have hmem' : k' ∈ b.vocabulary.stepKeywords := List.mem_mergeSort.1 hk'
  by_cases hcode : b.code = "fr"
  · rw [vocabulary_eq_french b hb hcode] at hmem hmem'
    obtain ⟨hque, ending, hending, rfl⟩ := (longer_french k hmem k' hmem' hlt).resolve_left hmiss
    obtain ⟨-, hkind', hliteral', -⟩ := StepKeyword.read?_canonical hread'
    rw [StepKeyword.opens_append_iff (not_isBlank_of_mem_queEndings ending hending)] at hopens
    rw [hliteral, hkind]
    exact .inr ⟨hcode, hque, hkind', ending, hending, hliteral', hopens⟩
  · have hreadable := readable_of_mem_bundles b hb
    rw [if_neg hcode] at hreadable
    exact absurd ((hreadable.2 k hmem).2.2.2 rfl k' hmem') (not_or_intro hsame hmiss)

/-- A step has a canonical form that is read as a step. -/
theorem exists_readStep?_canonical {l : Language} {line : Text} {s : StepLine}
    (hs : l.readStep? line = some s) : ∃ s', l.readStep? s.canonical = some s' := by
  obtain ⟨k, hk, hread⟩ := mem_of_readStep hs
  have hcanonical := (StepKeyword.read?_canonical hread).1
  rw [← Option.isSome_iff_exists, readStep?, List.findSome?_isSome_iff]
  exact ⟨k, hk, Option.isSome_of_eq_some hcanonical⟩

theorem readStep?_canonical_iff_of_mem_bundles {b : Bundle} (hb : b ∈ bundles) {line : Text}
    {s : StepLine} (hs : b.language.readStep? line = some s) :
    b.language.readStep? s.canonical = some s ↔
      ¬(b.code = "fr" ∧ s.literal ∈ queLiterals ∧ GoesOnWithQue s.text) := by
  have horderly := orderly_of_mem_bundles hb
  obtain ⟨k, hk, hread⟩ := mem_of_readStep hs
  obtain ⟨-, hkind, hliteral, hsolid⟩ := StepKeyword.read?_canonical hread
  rw [goesOnWithQue_iff hsolid s.kind]
  constructor
  · rintro hagain ⟨hcode, hque, ending, hending, hopens⟩
    have hmem : k ∈ b.vocabulary.stepKeywords := List.mem_mergeSort.1 hk
    have hlonger : (⟨s.literal ++ ending, s.kind⟩ : StepKeyword) ∈ b.language.steps := by
      apply List.mem_mergeSort.2
      rw [vocabulary_eq_french b hb hcode] at hmem ⊢
      rw [hliteral] at hque ⊢
      rw [hkind]
      exact mem_french k hmem hque ending hending
    have hsome := not_isBlank_of_mem_queEndings ending hending
    have hlength : s.literal.length < (s.literal ++ ending).length := by
      rw [List.length_append, Nat.lt_add_right_iff_pos, List.length_pos_iff]
      rintro rfl
      exact hsome rfl
    exact (horderly.readStep?_canonical_iff hs).1 hagain _ hlonger hlength
      ((StepKeyword.opens_append_iff hsome s.literal s.text s.kind).2 hopens)
  · intro hnot
    obtain ⟨s', hs'⟩ := exists_readStep?_canonical hs
    rcases readStep?_canonical_cases hb hs hs' with rfl | ⟨hcode, hque, -, ending, hending, -, h⟩
    · exact hs'
    · exact absurd ⟨hcode, hque, ending, hending, h⟩ hnot

/-- A step is read again from its canonical form in every bundled language, but in French if it was
set off by more than one blank and goes on from its literal as a longer keyword does. Even then the
kind is kept, and the step that is read is one that is read again. -/
theorem readStep?_canonical {code : Text} {l : Language} (h : find? code = some l) {line : Text}
    {s : StepLine} (hs : l.readStep? line = some s) :
    (l.readStep? s.canonical = some s ↔
      ¬(l.code = "fr".toList ∧ s.literal ∈ queLiterals ∧ GoesOnWithQue s.text)) ∧
    ∃ s', l.readStep? s.canonical = some s' ∧ s'.kind = s.kind ∧
      l.readStep? s'.canonical = some s' := by
  obtain ⟨b, hb, rfl⟩ := mem_bundles_of_find? h
  have hcode : b.language.code = "fr".toList ↔ b.code = "fr" := String.toList_inj
  refine ⟨(readStep?_canonical_iff_of_mem_bundles hb hs).trans (by rw [← hcode]; rfl), ?_⟩
  obtain ⟨s', hs'⟩ := exists_readStep?_canonical hs
  refine ⟨s', hs', ?_⟩
  rcases readStep?_canonical_cases hb hs hs' with rfl |
    ⟨-, hque, hkind, ending, hending, hliteral, -⟩
  · exact ⟨rfl, hs'⟩
  · refine ⟨hkind, (readStep?_canonical_iff_of_mem_bundles hb hs').2 ?_⟩
    rintro ⟨-, hque', -⟩
    rw [hliteral] at hque'
    exact append_not_mem_queLiterals s.literal hque ending hending hque'

def tabbedLine : Text := "Et\tque je mange".toList

def tabbedStep : StepLine := ⟨.and, "Et ".toList, "que je mange".toList⟩

theorem find?_french : find? "fr".toList = some frenchBundle.language := rfl

theorem readStep?_tabbedLine : frenchBundle.language.readStep? tabbedLine = some tabbedStep := by
  have horderly := orderly_of_mem_bundles frenchBundle_mem
  have hkeyword : (⟨"Et ".toList, .and⟩ : StepKeyword) ∈ Vocabulary.french.stepKeywords := by
    decide +kernel
  have hmax : ∀ k ∈ Vocabulary.french.stepKeywords, k ≠ ⟨"Et ".toList, .and⟩ →
      k.Opens tabbedLine → k.literal.length < "Et ".toList.length := by
    decide +kernel
  exact horderly.readStep?_eq_some_iff.2 ⟨_, List.mem_mergeSort.2 hkeyword, by decide +kernel,
    fun k hk ↦ hmax k (List.mem_mergeSort.1 hk)⟩

theorem tabbedStep_goesOn : tabbedStep.literal ∈ queLiterals ∧ GoesOnWithQue tabbedStep.text :=
  ⟨by decide +kernel, .inl ⟨' ', "je mange".toList, by decide, by decide +kernel⟩⟩

theorem readStep?_canonical_tabbedStep :
    find? "fr".toList = some frenchBundle.language ∧
      frenchBundle.language.readStep? tabbedLine = some tabbedStep ∧
      ∃ s', frenchBundle.language.readStep? "Et que je mange".toList = some s' ∧
        s' ≠ tabbedStep ∧ s'.kind = .and ∧
          frenchBundle.language.readStep? s'.canonical = some s' := by
  obtain ⟨hiff, s', hs', hkind, hagain⟩ := readStep?_canonical find?_french readStep?_tabbedLine
  have hcanonical : tabbedStep.canonical = "Et que je mange".toList := by decide +kernel
  rw [hcanonical] at hs' hiff
  refine ⟨find?_french, readStep?_tabbedLine, s', hs', ?_, hkind, hagain⟩
  rintro rfl
  exact hiff.1 hs' ⟨rfl, tabbedStep_goesOn⟩

/-- White space behind a keyword may decide which step a line is. -/
theorem not_readStep?_canonical : ¬∀ (code : Text) (l : Language) (line : Text) (s : StepLine),
    find? code = some l → trim line = line → l.readStep? line = some s →
      l.readStep? s.canonical = some s := by
  intro h
  have hagain := h _ _ tabbedLine tabbedStep find?_french (by decide +kernel) readStep?_tabbedLine
  rw [readStep?_canonical_iff_of_mem_bundles frenchBundle_mem readStep?_tabbedLine] at hagain
  exact hagain ⟨rfl, tabbedStep_goesOn⟩

end Language

end Gherkin
