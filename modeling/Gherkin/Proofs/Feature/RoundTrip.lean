import Gherkin.Proofs.Feature.Opening
import Gherkin.Proofs.Feature.Unplaced
import Gherkin.Proofs.Tree.Completeness
import Gherkin.Proofs.Tree.Soundness

/-!
# Features written and read again

A feature that was read from a text without carriage returns says the same after it was written down
and read again, and there is nothing to warn of. Its places differ, and so does its source, which is
what was written. For this the language has to be one whose keywords can be told apart, and no other
language may be asked for in place of English, of which the written form says nothing.

Main statement: `parseFeature_display`.
-/

namespace Gherkin

open Text (Solid OneLine isSpace trim afterPrefix?)

theorem dropByteOrderMark_subset (t : Text) : dropByteOrderMark t ⊆ t := by
  rw [dropByteOrderMark, Text.dropPrefix]
  cases h : afterPrefix? ['\ufeff'] t with
  | none => exact List.Subset.refl t
  | some r =>
    rw [Text.afterPrefix?_eq_some_iff.1 h]
    exact List.subset_append_right _ _

/-- A written feature begins with no byte order mark and is read in the language that it was written
in. -/
theorem languageOf?_display {options : ParseOptions} (hoptions : options.language = none)
    {p : ParsedText} {n : Tree.FeatureNode} {f : Feature} (hf : p.toFeature = .ok f)
    (hp : p.tree = .document n) {code : Text} (hcode : Language.find? code = some p.language)
    (hl : p.language.Legible) (hproper : ProperLeaves p.language n.leaves)
    (hone : ∀ line ∈ f.lines, OneLine line) :
    dropByteOrderMark f.display = f.display ∧
      languageOf? options f.display = some p.language := by
  obtain ⟨hmark, hdeclared⟩ := declaredLanguage?_lines hf hp hcode hl hproper hone
  have hlanguage : f.language = p.language := ParsedText.language_of_toFeature hf
  refine ⟨hmark, ?_⟩
  rw [languageOf?, hdeclared, hoptions, hlanguage, ← Language.find?_code hcode]
  split
  · next henglish => rw [henglish]; rfl
  · rfl

/-- A feature that was read says the same after it was written and read again, nothing is to be
warned of, and it is written as before. -/
theorem parseFeature_display (options : ParseOptions) (hoptions : options.language = none)
    (text : Text) (htext : '\r' ∉ text) (f : Feature) (hf : parseFeature options text = .ok f)
    (hfrench : f.language.code ≠ "fr".toList) :
    ∃ g, parseFeature options f.display = .ok g ∧ g.unplaced = f.unplaced ∧ g.warnings = [] ∧
      g.display = f.display := by
  obtain ⟨language, lexed, n, hlanguage, hlexed, hn, hbuilt⟩ := parseFeature_eq_ok_iff.1 hf
  obtain rfl : f.language = language := by
    obtain ⟨_, _, _, _, _, _, _, _, rfl⟩ := ParsedText.toFeature_eq_ok_iff.1 hbuilt
    rfl
  have hl := Language.legible_of_find? hlanguage hfrench
  have hcode := Language.code_solid_of_find? hlanguage
  -- what was read is proper, so the written lines say what the leaves of the tree say
  have hsource : '\r' ∉ dropByteOrderMark text :=
    fun hmem ↦ htext (dropByteOrderMark_subset text hmem)
  have hspelled := Tree.spelled_of_parseFeature hn
  have hproper : ProperLeaves f.language n.leaves := by
    rw [← hspelled.keeps.mergeTags_eq]
    exact proper_of_mem_mergeTags (proper_of_ofText hl hsource hlexed)
  have hsays := says_feature hbuilt rfl hl hcode hspelled hproper
  obtain ⟨ts, hts, hagain⟩ := hsays.exists_ofText options.path
  -- tokens that say the same spell the same tree, and from it the same feature is built
  obtain ⟨n', hspelled', hbare⟩ := hspelled.exists_unplaced hts
  obtain ⟨hmark, hlanguage'⟩ :=
    languageOf?_display hoptions hbuilt rfl hlanguage hl hproper hsays.oneLine
  let again : ParsedText := ⟨.document n', f.language, f.display, options.path, []⟩
  obtain ⟨g, hg, hsame, hwarnings⟩ :=
    ParsedText.exists_unplaced hbuilt rfl (show again.tree = .document n' from rfl) rfl hbare
  have hread : parseFeature options f.display = .ok g := by
    refine parseFeature_eq_ok_iff.2 ⟨f.language, ⟨ts, []⟩, n', ?_, ?_, ?_, ?_⟩ <;> rw [hmark]
    · exact hlanguage'
    · exact hagain
    · exact Tree.parseFeature_of_spelled hspelled' _
    · exact hg
  have hlines : g.lines = f.lines := by
    calc
      g.lines = g.unplaced.lines := g.lines_unplaced.symm
      _ = f.unplaced.lines := by rw [hsame]
      _ = f.lines := f.lines_unplaced
  refine ⟨g, hread, hsame, hwarnings, ?_⟩
  rw [Feature.display, hlines, Feature.display]

def sumsText : Text := "@math\nFeature: Sums\n\nScenario: Two\n  * I add\n    |1| 2|\n".toList

/-- The feature that is read from it. -/
def sums : Feature where
  keyword := "Feature".toList
  name := "Sums".toList
  tags := ["math".toList]
  description := none
  background := none
  scenarios := [{
    keyword := "Scenario".toList, kind := .scenario, name := "Two".toList, tags := []
    description := none
    steps := [{
      literal := "* ".toList, kind := .bullet, phase := .context, text := "I add".toList
      sentence := "* I add".toList
      table := some ⟨[["1".toList, "2".toList]], ⟨none, 6, 5⟩, ⟨49, 55, by decide⟩⟩
      docString := none, owner := some (.scenario 0)
      location := ⟨none, 5, 3⟩, span := ⟨37, 55, by decide⟩ }]
    examples := [], outlines := [], index := 0
    location := ⟨none, 4, 1⟩, span := ⟨21, 55, by decide⟩ }]
  language := .english
  source := sumsText
  warnings := []
  location := ⟨none, 2, 1⟩
  span := ⟨6, 55, by decide⟩

theorem parseFeature_sumsText : parseFeature {} sumsText = .ok sums := by
  have hcode : (declaredLanguage? (dropByteOrderMark sumsText) <|> none).getD
      Language.defaultCode = Language.defaultCode := by decide +kernel
  have hread : (parseFeature {} sumsText).toOption = some sums := by
    simp only [parseFeature, parse]
    rw [hcode, Language.find?_defaultCode]
    decide +kernel
  cases h : parseFeature {} sumsText <;> simp_all [Except.toOption]

theorem parseFeature_display_sums : parseFeature {} sumsText = .ok sums ∧
    ∃ g, parseFeature {} sums.display = .ok g ∧ g.unplaced = sums.unplaced ∧ g.warnings = [] ∧
      g.display = sums.display :=
  ⟨parseFeature_sumsText, parseFeature_display {} rfl sumsText (by decide) sums
    parseFeature_sumsText (by decide)⟩

end Gherkin
