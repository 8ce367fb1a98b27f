import Gherkin.Proofs.Language.Legible

/-!
# The longest keyword

Of all keywords that a line may be read with, the longest one decides. In the bundled languages this
leaves nothing to the order in which keywords are written down: at most one keyword reads a line as
a header, no line is both a header and a step, and two keywords of one length never read the same
step. What a line is read as therefore depends on which words are in which list of the vocabulary,
and on nothing else.

Main statements: the step that is read is the one of the longest keyword
(`Language.readStep?_eq_some_iff`), a vocabulary in another order has the same keywords
(`Vocabulary.Reorders.mem_stepKeywords_iff`), and lines are read alike in any order
(`Language.reads_by_longest_keyword`).
-/

namespace Gherkin

open Text (Solid isSpace isBlank trim trimStart trimEnd afterPrefix?)

/-- The line is a header with this keyword: the keyword, white space if any, and a colon. -/
def BlockKeyword.Opens (b : BlockKeyword) (line : Text) : Prop :=
  ∃ ws rest, isBlank ws ∧ line = b.literal ++ (ws ++ ':' :: rest)

/-- The line is a step with this keyword: the keyword's word, white space if the literal ends in a
blank, and a body. -/
def StepKeyword.Opens (k : StepKeyword) (line : Text) : Prop :=
  ∃ rest, line = trimEnd k.literal ++ rest ∧
    (trimEnd k.literal = k.literal ∨ rest.head?.any isSpace) ∧ ¬isBlank rest

theorem BlockKeyword.isSome_read?_iff {b : BlockKeyword} {line : Text} :
    (b.read? line).isSome ↔ b.Opens line := by
  rw [Option.isSome_iff_exists]
  constructor
  · rintro ⟨h, hread⟩
    obtain ⟨ws, rest, hws, hline, -⟩ := read?_eq_some_iff.1 hread
    exact ⟨ws, rest, hws, hline⟩
  · rintro ⟨ws, rest, hws, hline⟩
    exact ⟨_, read?_eq_some_iff.2 ⟨ws, rest, hws, hline, rfl⟩⟩

theorem Text.length_trimEnd_eq_iff {t : Text} : (trimEnd t).length = t.length ↔ trimEnd t = t := by
  obtain ⟨b, -, ht⟩ := Text.exists_eq_trimEnd_append t
  constructor
  · intro h
    have hb : b = [] := by
      rw [← List.length_eq_zero_iff]
      have hlength := congrArg List.length ht
      rw [List.length_append] at hlength
      omega
    rw [hb, List.append_nil] at ht
    exact ht.symm
  · exact congrArg List.length

theorem StepKeyword.isSome_read?_iff {k : StepKeyword} {line : Text} :
    (k.read? line).isSome ↔ k.Opens line := by
  rw [Option.isSome_iff_exists]
  constructor
  · rintro ⟨s, hread⟩
    obtain ⟨rest, hword, hgap, hblank, -⟩ := read?_eq_some_iff.1 hread
    rw [Text.length_trimEnd_eq_iff] at hgap
    exact ⟨rest, Text.afterPrefix?_eq_some_iff.1 hword, hgap, hblank⟩
  · rintro ⟨rest, hline, hgap, hblank⟩
    rw [← Text.length_trimEnd_eq_iff] at hgap
    exact ⟨_, read?_eq_some_iff.2 ⟨rest, Text.afterPrefix?_eq_some_iff.2 hline, hgap, hblank, rfl⟩⟩

theorem BlockKeyword.opens_of_read? {b : BlockKeyword} {line : Text} {h : HeaderLine}
    (hread : b.read? line = some h) : b.Opens line :=
  isSome_read?_iff.1 (Option.isSome_of_eq_some hread)

theorem StepKeyword.opens_of_read? {k : StepKeyword} {line : Text} {s : StepLine}
    (hread : k.read? line = some s) : k.Opens line :=
  isSome_read?_iff.1 (Option.isSome_of_eq_some hread)

instance (b : BlockKeyword) (line : Text) : Decidable (b.Opens line) :=
  decidable_of_iff _ BlockKeyword.isSome_read?_iff

instance (k : StepKeyword) (line : Text) : Decidable (k.Opens line) :=
  decidable_of_iff _ StepKeyword.isSome_read?_iff

/-- In a list from the largest to the smallest the first item that gives something is the largest
one, if no two items of one size do. -/
theorem findSome?_eq_some_iff_largest {α β : Type} {f : α → Option β} {size : α → Nat}
    {as : List α} (hsorted : as.Pairwise fun a b ↦ size b ≤ size a)
    (hunique : ∀ a ∈ as, ∀ b ∈ as, (f a).isSome → (f b).isSome → size a = size b → a = b) {y : β} :
    as.findSome? f = some y ↔
      ∃ a ∈ as, f a = some y ∧ ∀ b ∈ as, b ≠ a → (f b).isSome → size b < size a := by
  have hlargest {y : β} (h : as.findSome? f = some y) :
      ∃ a ∈ as, f a = some y ∧ ∀ b ∈ as, b ≠ a → (f b).isSome → size b < size a := by
    obtain ⟨before, a, after, rfl, hy, hbefore⟩ := List.findSome?_eq_some_iff.1 h
    have ha : a ∈ before ++ a :: after := by simp
    refine ⟨a, ha, hy, fun b hb hne hsome ↦ ?_⟩
    have hle : size b ≤ size a := by
      rcases List.mem_append.1 hb with hb | hb
      · rw [hbefore b hb] at hsome
        cases hsome
      · rcases List.mem_cons.1 hb with rfl | hb
        · exact Nat.le_refl _
        · exact List.rel_of_pairwise_cons (List.pairwise_append.1 hsorted).2.1 hb
    have hsize : size b ≠ size a :=
      fun heq ↦ hne (hunique b hb a ha hsome (by rw [hy]; rfl) heq)
    omega
  refine ⟨hlargest, ?_⟩
  rintro ⟨a, ha, hy, hmax⟩
  have hsome : (as.findSome? f).isSome :=
    List.findSome?_isSome_iff.2 ⟨a, ha, by rw [hy]; rfl⟩
  obtain ⟨y', hy'⟩ := Option.isSome_iff_exists.1 hsome
  obtain ⟨a', ha', hfound, hmax'⟩ := hlargest hy'
  have hsame : a' = a := by
    by_cases heq : a' = a
    · exact heq
    · have hlt := hmax a' ha' heq (by rw [hfound]; rfl)
      have hlt' := hmax' a ha (Ne.symm heq) (by rw [hy]; rfl)
      omega
  rw [hy', ← hfound, hsame, hy]

/-- Keywords of which no two read the same line, but for step keywords of different lengths. -/
structure ToldApart (blocks : List BlockKeyword) (steps : List StepKeyword) : Prop where
  block_solid : ∀ b ∈ blocks, Solid b.literal
  block_colon : ∀ b ∈ blocks, ':' ∉ b.literal
  block_eq : ∀ b ∈ blocks, ∀ b' ∈ blocks, b.literal = b'.literal → b = b'
  block_step : ∀ b ∈ blocks, ∀ k ∈ steps, k.Misses b.literal
  step_eq : ∀ k ∈ steps, ∀ k' ∈ steps, k.literal.length = k'.literal.length →
    trimEnd k.literal <+: trimEnd k'.literal → k = k'

instance (blocks : List BlockKeyword) (steps : List StepKeyword) :
    Decidable (ToldApart blocks steps) :=
  decidable_of_iff ((∀ b ∈ blocks, Solid b.literal) ∧ (∀ b ∈ blocks, ':' ∉ b.literal) ∧
      (∀ b ∈ blocks, ∀ b' ∈ blocks, b.literal = b'.literal → b = b') ∧
      (∀ b ∈ blocks, ∀ k ∈ steps, k.Misses b.literal) ∧
      ∀ k ∈ steps, ∀ k' ∈ steps, k.literal.length = k'.literal.length →
        trimEnd k.literal <+: trimEnd k'.literal → k = k')
    ⟨fun ⟨h₁, h₂, h₃, h₄, h₅⟩ ↦ ⟨h₁, h₂, h₃, h₄, h₅⟩, fun h ↦ ⟨h.1, h.2, h.3, h.4, h.5⟩⟩

/-- The order of the keywords does not matter. -/
theorem ToldApart.congr {blocks blocks' : List BlockKeyword} {steps steps' : List StepKeyword}
    (h : ToldApart blocks steps) (hblocks : ∀ b, b ∈ blocks' ↔ b ∈ blocks)
    (hsteps : ∀ k, k ∈ steps' ↔ k ∈ steps) : ToldApart blocks' steps' := by
  obtain ⟨hsolid, hcolon, hblock, hapart, hstep⟩ := h
  simp only [← hblocks, ← hsteps] at hsolid hcolon hblock hapart hstep
  exact ⟨hsolid, hcolon, hblock, hapart, hstep⟩

namespace ToldApart

variable {blocks : List BlockKeyword} {steps : List StepKeyword} {line : Text}

/-- At most one keyword reads a line as a header. -/
theorem header_unique (h : ToldApart blocks steps) :
    ∀ b ∈ blocks, ∀ b' ∈ blocks, b.Opens line → b'.Opens line → b = b' := by
  rintro b hb b' hb' ⟨ws, rest, hws, hline⟩ ⟨ws', rest', hws', hline'⟩
  apply h.block_eq b hb b' hb'
  exact eq_of_append_colon (h.block_solid b hb) (h.block_solid b' hb') (h.block_colon b hb)
    (h.block_colon b' hb') hws hws' (hline.symm.trans hline')

/-- No line is both a header and a step. -/
theorem not_step_of_header (h : ToldApart blocks steps) :
    ∀ b ∈ blocks, ∀ k ∈ steps, b.Opens line → ¬k.Opens line := by
  rintro b hb k hk ⟨ws, rest, -, rfl⟩ hopens
  have hmisses := h.block_step b hb k hk
  rw [← StepKeyword.isSome_read?_iff, StepKeyword.read?_of_misses hmisses] at hopens
  cases hopens

/-- Two keywords of one length do not read the same line as a step. -/
theorem step_unique (h : ToldApart blocks steps) :
    ∀ k ∈ steps, ∀ k' ∈ steps, k.Opens line → k'.Opens line →
      k.literal.length = k'.literal.length → k = k' := by
  rintro k hk k' hk' ⟨rest, hline, -⟩ ⟨rest', hline', -⟩ hlength
  have hword : trimEnd k.literal <+: line := ⟨rest, hline.symm⟩
  have hword' : trimEnd k'.literal <+: line := ⟨rest', hline'.symm⟩
  rcases List.prefix_or_prefix_of_prefix hword hword' with hprefix | hprefix
  · exact h.step_eq k hk k' hk' hlength hprefix
  · exact (h.step_eq k' hk' k hk hlength.symm hprefix).symm

end ToldApart

namespace Language

variable {l : Language} {line : Text}

/-- Keywords that are told apart, with those of steps from the longest to the shortest. -/
structure Orderly (l : Language) : Prop where
  apart : ToldApart l.blocks l.steps
  longest_first : l.steps.Pairwise fun k k' ↦ k'.literal.length ≤ k.literal.length

theorem Orderly.readHeader?_eq_some_iff (hl : l.Orderly) {h : HeaderLine} :
    l.readHeader? line = some h ↔ ∃ b ∈ l.blocks, b.read? line = some h := by
  refine ⟨mem_of_readHeader, ?_⟩
  rintro ⟨b, hb, hread⟩
  refine findSome?_eq_some_of_unique hb hread fun b' hb' ↦ ?_
  cases hread' : b'.read? line with
  | none => exact .inr rfl
  | some h' =>
    exact .inl (hl.apart.header_unique b' hb' b hb (BlockKeyword.opens_of_read? hread')
      (BlockKeyword.opens_of_read? hread))

/-- A line is read as a step with the longest of the keywords that open it. -/
theorem Orderly.readStep?_eq_some_iff (hl : l.Orderly) {s : StepLine} :
    l.readStep? line = some s ↔ ∃ k ∈ l.steps, k.read? line = some s ∧
      ∀ k' ∈ l.steps, k' ≠ k → k'.Opens line → k'.literal.length < k.literal.length := by
  simp only [← StepKeyword.isSome_read?_iff]
  apply findSome?_eq_some_iff_largest hl.longest_first
  simp only [StepKeyword.isSome_read?_iff]
  exact hl.apart.step_unique

/-- A line with a header keyword has no step. -/
theorem Orderly.readStep?_eq_none (hl : l.Orderly) {h : HeaderLine}
    (hread : l.readHeader? line = some h) : l.readStep? line = none := by
  rw [Option.eq_none_iff_forall_ne_some]
  intro s hs
  obtain ⟨b, hb, hbread⟩ := mem_of_readHeader hread
  obtain ⟨k, hk, hkread⟩ := mem_of_readStep hs
  exact hl.apart.not_step_of_header b hb k hk (BlockKeyword.opens_of_read? hbread)
    (StepKeyword.opens_of_read? hkread)

/-- The line as a header or else as a step. -/
def readHeaderFirst? (l : Language) (line : Text) : Option (HeaderLine ⊕ StepLine) :=
  (l.readHeader? line).map .inl <|> (l.readStep? line).map .inr

/-- The line as a step or else as a header. -/
def readStepFirst? (l : Language) (line : Text) : Option (HeaderLine ⊕ StepLine) :=
  (l.readStep? line).map .inr <|> (l.readHeader? line).map .inl

theorem Orderly.readStepFirst?_eq (hl : l.Orderly) :
    l.readStepFirst? line = l.readHeaderFirst? line := by
  unfold readStepFirst? readHeaderFirst?
  cases hheader : l.readHeader? line with
  | none => cases l.readStep? line <;> rfl
  | some h =>
    rw [hl.readStep?_eq_none hheader]
    rfl

end Language

namespace Vocabulary

/-- The same words in each list, in any order. -/
structure Reorders (v w : Vocabulary) : Prop where
  feature : v.feature.Perm w.feature
  background : v.background.Perm w.background
  scenario : v.scenario.Perm w.scenario
  scenarioOutline : v.scenarioOutline.Perm w.scenarioOutline
  examples : v.examples.Perm w.examples
  context : v.context.Perm w.context
  action : v.action.Perm w.action
  outcome : v.outcome.Perm w.outcome
  and : v.and.Perm w.and
  but : v.but.Perm w.but

theorem Reorders.refl (v : Vocabulary) : v.Reorders v :=
  ⟨.refl _, .refl _, .refl _, .refl _, .refl _, .refl _, .refl _, .refl _, .refl _, .refl _⟩

variable {v w : Vocabulary}

theorem Reorders.mem_blockKeywords_iff (h : v.Reorders w) {b : BlockKeyword} :
    b ∈ v.blockKeywords ↔ b ∈ w.blockKeywords := by
  apply List.Perm.mem_iff
  unfold blockKeywords
  exact ((((h.feature.map _).append (h.background.map _)).append
    (h.scenarioOutline.map _)).append (h.scenario.map _)).append (h.examples.map _)

/-- What is kept is the first keyword of each literal. -/
theorem mem_dropRepeated_iff {known : List Text} {ks : List StepKeyword} {k : StepKeyword} :
    k ∈ dropRepeated known ks ↔
      k.literal ∉ known ∧ ks.find? (·.literal = k.literal) = some k := by
  induction ks generalizing known with
  | nil => simp [dropRepeated]
  | cons k' ks ih =>
    rw [dropRepeated, List.find?_cons]
    by_cases hsame : k'.literal = k.literal
    · by_cases hknown : k'.literal ∈ known
      · rw [if_pos hknown, ih, ← hsame]
        simp [hknown]
      · rw [if_neg hknown, List.mem_cons, ih, ← hsame]
        simp [hknown, eq_comm]
    · have hne : k ≠ k' := fun heq ↦ hsame (by rw [heq])
      by_cases hknown : k'.literal ∈ known
      · rw [if_pos hknown, ih]
        simp [hsame]
      · rw [if_neg hknown, List.mem_cons, ih]
        simp [hsame, hne, Ne.symm hsame]

/-- Where all items of a sort are one, the order does not matter for finding it. -/
theorem find?_eq_of_perm {α : Type} {p : α → Bool} {as bs : List α} (h : as.Perm bs)
    (hp : ∀ a ∈ as, ∀ b ∈ as, p a → p b → a = b) : as.find? p = bs.find? p := by
  cases ha : as.find? p with
  | none =>
    rw [eq_comm, List.find?_eq_none]
    intro b hb
    exact List.find?_eq_none.1 ha b (h.mem_iff.2 hb)
  | some a =>
    have hmem := List.mem_of_find?_eq_some ha
    have hsome : (bs.find? p).isSome :=
      List.find?_isSome.2 ⟨a, h.mem_iff.1 hmem, List.find?_some ha⟩
    obtain ⟨b, hb⟩ := Option.isSome_iff_exists.1 hsome
    rw [hb, hp a hmem b (h.mem_iff.2 (List.mem_of_find?_eq_some hb)) (List.find?_some ha)
      (List.find?_some hb)]

/-- The words of one list, in any order, give the same keyword of a literal. -/
theorem find?_literal_eq_of_perm {words words' : List String} (h : words.Perm words')
    (kindOf : Text → StepKind) (literal : Text) :
    (words.map fun w ↦ StepKeyword.mk w.toList (kindOf w.toList)).find? (·.literal = literal) =
      (words'.map fun w ↦ StepKeyword.mk w.toList (kindOf w.toList)).find?
        (·.literal = literal) := by
  apply find?_eq_of_perm (h.map _)
  intro k hk k' hk' hliteral hliteral'
  obtain ⟨word, -, rfl⟩ := List.mem_map.1 hk
  obtain ⟨word', -, rfl⟩ := List.mem_map.1 hk'
  have hsame : word.toList = word'.toList :=
    (of_decide_eq_true hliteral).trans (of_decide_eq_true hliteral').symm
  rw [hsame]

theorem Reorders.mem_stepKeywords_iff (h : v.Reorders w) {k : StepKeyword} :
    k ∈ v.stepKeywords ↔ k ∈ w.stepKeywords := by
  have hfind {words words' : List String} (hwords : words.Perm words') (kind : StepKind) :=
    find?_literal_eq_of_perm hwords (fun t ↦ if trim t = ['*'] then .bullet else kind) k.literal
  unfold stepKeywords
  simp only [mem_dropRepeated_iff, List.find?_append, hfind h.context, hfind h.action,
    hfind h.outcome, hfind h.and, hfind h.but]

/-- The vocabulary's keywords are told apart, whatever their order. -/
abbrev ToldApart (v : Vocabulary) : Prop := Gherkin.ToldApart v.blockKeywords v.stepKeywords

theorem ToldApart.orderly (h : w.ToldApart) (hvw : v.Reorders w) (code : Text)
    (name native : String) : (v.toLanguage code name native).Orderly where
  apart := Gherkin.ToldApart.congr h
    (fun _ ↦ List.mem_mergeSort.trans hvw.mem_blockKeywords_iff)
    fun _ ↦ List.mem_mergeSort.trans hvw.mem_stepKeywords_iff
  longest_first := by
    refine (List.pairwise_mergeSort ?_ ?_ v.stepKeywords).imp fun hle ↦ of_decide_eq_true hle
    · intro k k' k'' hle hle'
      simp only [decide_eq_true_eq] at hle hle' ⊢
      omega
    · intro k k'
      simp only [Bool.or_eq_true, decide_eq_true_eq]
      omega

end Vocabulary

namespace Language

def Bundle.language (b : Bundle) : Language :=
  b.vocabulary.toLanguage b.code.toList b.name b.native

theorem toldApart_of_mem_bundles : ∀ b ∈ bundles, b.vocabulary.ToldApart := by
  decide +kernel

theorem orderly_of_mem_bundles {b : Bundle} (hb : b ∈ bundles) : b.language.Orderly :=
  (toldApart_of_mem_bundles b hb).orderly (.refl _) _ _ _

/-- Whatever line there is, at most one keyword of a bundled language reads it as a header, no line
is read as a header by one keyword and as a step by another, and a step is read with the one keyword
that is the longest of all that open the line. So it does not matter in which order a list of the
vocabulary is written down, nor whether headers or steps are tried first. -/
theorem reads_by_longest_keyword {b : Bundle} (hb : b ∈ bundles) (line : Text) :
    (∀ h ∈ b.language.blocks, ∀ h' ∈ b.language.blocks,
      h.Opens line → h'.Opens line → h = h') ∧
    (∀ h ∈ b.language.blocks, ∀ k ∈ b.language.steps, h.Opens line → ¬k.Opens line) ∧
    (∀ s, b.language.readStep? line = some s ↔
      ∃ k ∈ b.language.steps, k.read? line = some s ∧ ∀ k' ∈ b.language.steps,
        k' ≠ k → k'.Opens line → k'.literal.length < k.literal.length) ∧
    ∀ v : Vocabulary, v.Reorders b.vocabulary →
      (v.toLanguage b.code.toList b.name b.native).readHeader? line =
          b.language.readHeader? line ∧
        (v.toLanguage b.code.toList b.name b.native).readStep? line = b.language.readStep? line ∧
        (v.toLanguage b.code.toList b.name b.native).readStepFirst? line =
          b.language.readHeaderFirst? line := by
  have horderly := orderly_of_mem_bundles hb
  refine ⟨horderly.apart.header_unique, horderly.apart.not_step_of_header,
    fun s ↦ horderly.readStep?_eq_some_iff, fun v hv ↦ ?_⟩
  have horderly' := (toldApart_of_mem_bundles b hb).orderly hv b.code.toList b.name b.native
  have hheader : (v.toLanguage b.code.toList b.name b.native).readHeader? line =
      b.language.readHeader? line := by
    apply Option.ext
    intro h
    rw [horderly'.readHeader?_eq_some_iff, horderly.readHeader?_eq_some_iff]
    simp only [Vocabulary.toLanguage, Bundle.language, List.mem_mergeSort,
      hv.mem_blockKeywords_iff]
  have hstep : (v.toLanguage b.code.toList b.name b.native).readStep? line =
      b.language.readStep? line := by
    apply Option.ext
    intro s
    rw [horderly'.readStep?_eq_some_iff, horderly.readStep?_eq_some_iff]
    simp only [Vocabulary.toLanguage, Bundle.language, List.mem_mergeSort, hv.mem_stepKeywords_iff]
  refine ⟨hheader, hstep, ?_⟩
  rw [horderly'.readStepFirst?_eq, readHeaderFirst?, hheader, hstep, readHeaderFirst?]

def frenchBundle : Bundle := ⟨"fr", "French", "français", .french⟩

theorem frenchBundle_mem : frenchBundle ∈ bundles := by
  simp [bundles, frenchBundle]

/-- French with each of its lists written down backwards. -/
def backwardFrench : Vocabulary where
  feature := Vocabulary.french.feature.reverse
  background := Vocabulary.french.background.reverse
  scenario := Vocabulary.french.scenario.reverse
  scenarioOutline := Vocabulary.french.scenarioOutline.reverse
  examples := Vocabulary.french.examples.reverse
  context := Vocabulary.french.context.reverse
  action := Vocabulary.french.action.reverse
  outcome := Vocabulary.french.outcome.reverse
  and := Vocabulary.french.and.reverse
  but := Vocabulary.french.but.reverse

theorem reads_by_longest_keyword_backwardFrench :
    frenchBundle ∈ bundles ∧ backwardFrench.Reorders frenchBundle.vocabulary ∧
      (backwardFrench.toLanguage "fr".toList "French" "français").readStep?
          "Et qu'il pleuve".toList = some ⟨.and, "Et qu'".toList, "il pleuve".toList⟩ := by
  have hreorders : backwardFrench.Reorders frenchBundle.vocabulary :=
    ⟨List.reverse_perm _, List.reverse_perm _, List.reverse_perm _, List.reverse_perm _,
      List.reverse_perm _, List.reverse_perm _, List.reverse_perm _, List.reverse_perm _,
      List.reverse_perm _, List.reverse_perm _⟩
  obtain ⟨-, -, hlongest, horder⟩ := reads_by_longest_keyword frenchBundle_mem
    "Et qu'il pleuve".toList
  refine ⟨frenchBundle_mem, hreorders, (horder backwardFrench hreorders).2.1.trans ?_⟩
  rw [hlongest]
  have hkeyword : (⟨"Et qu'".toList, .and⟩ : StepKeyword) ∈ Vocabulary.french.stepKeywords := by
    decide +kernel
  have hmax : ∀ k' ∈ Vocabulary.french.stepKeywords, k' ≠ ⟨"Et qu'".toList, .and⟩ →
      k'.Opens "Et qu'il pleuve".toList → k'.literal.length < "Et qu'".toList.length := by
    decide +kernel
  exact ⟨_, List.mem_mergeSort.2 hkeyword, by decide +kernel,
    fun k' hk' ↦ hmax k' (List.mem_mergeSort.1 hk')⟩

end Language

end Gherkin
