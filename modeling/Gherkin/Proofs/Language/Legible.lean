import Gherkin.Language.Bundled
import Gherkin.Proofs.Text.Lines
import Gherkin.Proofs.Token.Detail

/-!
# Keywords that can be told apart

A language is legible if a line that one of its keywords begins, written with the keyword as the
language declares it, is read with that keyword again, whatever follows. For headers that is a
matter of colons. For steps it asks that no other keyword reads on where a literal ends, which
French does not grant: a step that begins with `Et ` may go on like one that begins with `Et que `.
It is still read as a step, and so French is readable in outline.

Main statements: written headers and steps are read as what they were written from
(`readHeader?_of_find?`, `exists_readStep?_append`), every bundled language but French is legible
(`legible_of_find?`), and every one is readable in outline (`readable_of_find?`).
-/

namespace Gherkin

open Text (Solid OneLine isSpace isBlank trim trimStart trimEnd afterPrefix?)

theorem afterPrefix?_append (p s t : Text) :
    afterPrefix? p (s ++ t) =
      match afterPrefix? p s with
      | some r => some (r ++ t)
      | none => (afterPrefix? s p).bind (afterPrefix? · t) := by
  induction p generalizing s with
  | nil => cases s <;> rfl
  | cons c p ih =>
    cases s with
    | nil => rfl
    | cons d s =>
      by_cases h : c = d
      · simp [afterPrefix?, h, ih]
      · simp [afterPrefix?, h, Ne.symm h]

/-- What a text is a prefix of its prefixes are prefixes of. -/
theorem afterPrefix?_append_of_some {p s r : Text} (h : afterPrefix? p s = some r) (t : Text) :
    afterPrefix? p (s ++ t) = some (r ++ t) := by
  rw [afterPrefix?_append, h]

/-- Two texts that part somewhere do so whatever follows. -/
theorem afterPrefix?_append_of_none {p s : Text} (h : afterPrefix? p s = none)
    (h' : afterPrefix? s p = none) (t : Text) : afterPrefix? p (s ++ t) = none := by
  rw [afterPrefix?_append, h, h']
  rfl

/-- The text begins with a character that opens no line of another sort and is no byte order
mark. -/
def opensLine (literal : Text) : Bool :=
  literal.head?.any fun c ↦ !isSpace c && c ∉ ['#', '|', '@', '"', '\x60', '\ufeff']

/-- The header keyword begins no line that the literal begins, whatever follows the literal. -/
def BlockKeyword.Misses (b : BlockKeyword) (literal : Text) : Prop :=
  afterPrefix? b.literal literal = none ∧ afterPrefix? literal b.literal = none

instance (b : BlockKeyword) (literal : Text) : Decidable (b.Misses literal) :=
  inferInstanceAs (Decidable (_ ∧ _))

/-- The step keyword reads no line that the literal begins, whatever follows the literal. -/
def StepKeyword.Misses (k : StepKeyword) (literal : Text) : Prop :=
  match afterPrefix? (trimEnd k.literal) literal with
  | none => afterPrefix? literal (trimEnd k.literal) = none
  | some rest =>
    (trimEnd k.literal).length ≠ k.literal.length ∧ rest.head?.any fun c ↦ !isSpace c

instance (k : StepKeyword) (literal : Text) : Decidable (k.Misses literal) := by
  unfold StepKeyword.Misses
  split <;> infer_instance

/-- Lines that the keywords of a language begin are told apart. In outline steps are told from other
lines only, and in full they are told from each other. -/
structure Language.Readable (d : Detail) (l : Language) : Prop where
  block_solid : ∀ b ∈ l.blocks, Solid b.literal
  block_oneLine : ∀ b ∈ l.blocks, OneLine b.literal
  block_opens : ∀ b ∈ l.blocks, opensLine b.literal
  block_colon : ∀ b ∈ l.blocks, ':' ∉ b.literal
  step_oneLine : ∀ k ∈ l.steps, OneLine k.literal
  step_opens : ∀ k ∈ l.steps, opensLine k.literal
  block_apart : ∀ k ∈ l.steps, ∀ b ∈ l.blocks, b.Misses k.literal
  step_apart : d = .full → ∀ k ∈ l.steps, ∀ k' ∈ l.steps, k' = k ∨ k'.Misses k.literal

/-- The keywords of a language can be told apart at the beginning of a line. -/
abbrev Language.Legible (l : Language) : Prop := l.Readable .full

theorem Language.Readable.outline {d : Detail} {l : Language} (h : l.Readable d) :
    l.Readable .outline :=
  { h with step_apart := nofun }

/-- A header line is the keyword, white space, a colon, and a rest that holds the name. -/
theorem BlockKeyword.read?_eq_some_iff {b : BlockKeyword} {line : Text} {h : HeaderLine} :
    b.read? line = some h ↔ ∃ ws rest, isBlank ws ∧ line = b.literal ++ (ws ++ ':' :: rest) ∧
      h = ⟨b.kind, b.literal, trim rest⟩ := by
  simp only [read?, Option.bind_eq_bind, Option.bind_eq_some_iff, Option.pure_def]
  constructor
  · rintro ⟨r, hr, rest, hcolon, hh⟩
    have hrest : trimStart r = ':' :: rest := Text.afterPrefix?_eq_some_iff.1 hcolon
    refine ⟨Text.leading r, rest, Text.isBlank_leading r, ?_, (Option.some.inj hh).symm⟩
    rw [Text.afterPrefix?_eq_some_iff.1 hr, ← hrest, Text.leading_append_trimStart]
  · rintro ⟨ws, rest, hws, rfl, rfl⟩
    refine ⟨ws ++ ':' :: rest, Text.afterPrefix?_eq_some_iff.2 rfl, rest, ?_, rfl⟩
    rw [Text.trimStart_append hws]
    rfl

/-- What stands before the first colon of a line tells its keyword, as no keyword holds a colon and
white space is told from a keyword. -/
theorem eq_of_append_colon {s t ws ws' rest rest' : Text} (hs : Solid s) (ht : Solid t)
    (hs' : ':' ∉ s) (ht' : ':' ∉ t) (hws : isBlank ws) (hws' : isBlank ws')
    (h : s ++ (ws ++ ':' :: rest) = t ++ (ws' ++ ':' :: rest')) : s = t := by
  have hfront {u v r : Text} (hu : ':' ∉ u) (hv : isBlank v) :
      (u ++ (v ++ ':' :: r)).takeWhile (fun c ↦ c ≠ ':') = u ++ v := by
    have hfree : ∀ c ∈ u ++ v, decide (c ≠ ':') = true := by
      intro c hc
      rw [decide_eq_true_eq]
      rintro rfl
      rcases List.mem_append.1 hc with hc | hc
      · exact hu hc
      · exact absurd (List.all_eq_true.1 hv _ hc) (by decide)
    rw [← List.append_assoc, List.takeWhile_append_of_pos hfree,
      List.takeWhile_cons_of_neg (by simp), List.append_nil]
  have hkeyword {u v : Text} (hu : Solid u) (hv : isBlank v) : trimEnd (u ++ v) = u := by
    rw [Text.trimEnd_append hv, Text.trimEnd_of_last hu.last]
  calc
    s = trimEnd (s ++ ws) := (hkeyword hs hws).symm
    _ = trimEnd ((s ++ (ws ++ ':' :: rest)).takeWhile fun c ↦ c ≠ ':') := by rw [hfront hs' hws]
    _ = trimEnd ((t ++ (ws' ++ ':' :: rest')).takeWhile fun c ↦ c ≠ ':') := by rw [h]
    _ = trimEnd (t ++ ws') := by rw [hfront ht' hws']
    _ = t := hkeyword ht hws'

/-- A header line is read by the keyword before its colon and by no other. -/
theorem BlockKeyword.read?_append {b : BlockKeyword} {literal ws : Text} (rest : Text)
    (hb : Solid b.literal) (hb' : ':' ∉ b.literal) (hl : Solid literal) (hl' : ':' ∉ literal)
    (hws : isBlank ws) :
    b.read? (literal ++ (ws ++ ':' :: rest)) =
      if b.literal = literal then some ⟨b.kind, b.literal, trim rest⟩ else none := by
  split
  · next heq => exact read?_eq_some_iff.2 ⟨ws, rest, hws, by rw [heq], rfl⟩
  · next hne =>
    rw [Option.eq_none_iff_forall_ne_some]
    intro h hread
    obtain ⟨ws', rest', hws', hline, -⟩ := read?_eq_some_iff.1 hread
    exact hne (eq_of_append_colon hb hl hb' hl' hws' hws hline.symm)

/-- What is read off the first item of a sort is read off the first item there is. -/
theorem findSome?_eq_map_find? {α β : Type} {f : α → Option β} {p : α → Bool} {g : α → β}
    {l : List α} (h : ∀ a ∈ l, f a = if p a then some (g a) else none) :
    l.findSome? f = (l.find? p).map g := by
  induction l with
  | nil => rfl
  | cons a l ih =>
    obtain ⟨ha, hl⟩ := List.forall_mem_cons.1 h
    rw [List.findSome?_cons, List.find?_cons, ha]
    cases p a with
    | true => rfl
    | false => exact ih hl

/-! ## Steps -/

theorem guard_of {c : Prop} [Decidable c] (h : c) : (guard c : Option Unit) = some () := if_pos h

theorem guard_of_not {c : Prop} [Decidable c] (h : ¬c) : (guard c : Option Unit) = none := if_neg h

/-- A step line is the word of a keyword, white space where the keyword asks for it, and a body. -/
theorem StepKeyword.read?_eq_some_iff {k : StepKeyword} {line : Text} {s : StepLine} :
    k.read? line = some s ↔ ∃ rest, afterPrefix? (trimEnd k.literal) line = some rest ∧
      ((trimEnd k.literal).length = k.literal.length ∨ rest.head?.any isSpace) ∧
      ¬isBlank rest ∧ s = ⟨k.kind, k.literal, trim rest⟩ := by
  rw [read?]
  cases hword : afterPrefix? (trimEnd k.literal) line with
  | none =>
    constructor
    · intro h
      cases h
    · rintro ⟨rest, hrest, -⟩
      cases hrest
  | some rest =>
    rw [Option.bind_eq_bind, Option.bind_some]
    constructor
    · intro h
      by_cases hgap : (trimEnd k.literal).length = k.literal.length ∨ rest.head?.any isSpace
      · by_cases hblank : isBlank rest
        · rw [guard_of hgap, guard_of_not (not_not_intro hblank)] at h
          cases h
        · rw [guard_of hgap, guard_of hblank] at h
          cases h
          exact ⟨rest, rfl, hgap, hblank, rfl⟩
      · rw [guard_of_not hgap] at h
        cases h
    · rintro ⟨_, hrest, hgap, hblank, rfl⟩
      cases hrest
      rw [guard_of hgap, guard_of hblank]
      rfl

/-- A keyword that misses a literal reads no line that begins with it. -/
theorem StepKeyword.read?_of_misses {k : StepKeyword} {literal : Text} (h : k.Misses literal)
    (t : Text) : k.read? (literal ++ t) = none := by
  rw [Option.eq_none_iff_forall_ne_some]
  intro s hread
  obtain ⟨rest, hword, hgap, -, -⟩ := read?_eq_some_iff.1 hread
  unfold StepKeyword.Misses at h
  split at h
  · next hnone =>
    rw [afterPrefix?_append_of_none hnone h] at hword
    cases hword
  · next rest' hsome =>
    obtain ⟨hlength, hspace⟩ := h
    rw [afterPrefix?_append_of_some hsome] at hword
    cases hword
    cases rest' with
    | nil => simp at hspace
    | cons c rest' =>
      have hnot : isSpace c = false := by simpa using hspace
      simp [hlength, hnot] at hgap

/-- A keyword reads what is written after its literal. -/
theorem StepKeyword.read?_append (k : StepKeyword) {t : Text} (ht : ¬isBlank t) :
    k.read? (k.literal ++ t) = some ⟨k.kind, k.literal, trim t⟩ := by
  obtain ⟨b, hb, hliteral⟩ := Text.exists_eq_trimEnd_append k.literal
  have hbegins : afterPrefix? (trimEnd k.literal) (k.literal ++ t) = some (b ++ t) := by
    rw [Text.afterPrefix?_eq_some_iff, ← List.append_assoc, ← hliteral]
  have hblank : ¬isBlank (b ++ t) := by
    rw [Text.isBlank_append]
    exact fun hboth ↦ ht hboth.2
  have htrim : trim (b ++ t) = trim t := by rw [trim, Text.trimStart_append hb, trim]
  have hgap : (trimEnd k.literal).length = k.literal.length ∨ (b ++ t).head?.any isSpace := by
    cases b with
    | nil => exact .inl (by rw [List.append_nil] at hliteral; rw [← hliteral])
    | cons c b =>
      have hc : isSpace c := by
        rw [isBlank, List.all_cons, Bool.and_eq_true] at hb
        exact hb.1
      exact .inr (by simpa using hc)
  exact read?_eq_some_iff.2 ⟨b ++ t, hbegins, hgap, hblank, by rw [htrim]⟩

/-- What a keyword reads is its own literal, and a body that is not blank. -/
theorem StepKeyword.eq_of_read? {k : StepKeyword} {line : Text} {s : StepLine}
    (hread : k.read? line = some s) :
    ∃ rest, ¬isBlank rest ∧ rest ⊆ line ∧ s = ⟨k.kind, k.literal, trim rest⟩ := by
  obtain ⟨rest, hword, -, hblank, hs⟩ := read?_eq_some_iff.1 hread
  refine ⟨rest, hblank, ?_, hs⟩
  rw [Text.afterPrefix?_eq_some_iff.1 hword]
  exact List.subset_append_right _ _

namespace Language

variable {d : Detail} {l : Language}

/-- The first keyword with the literal decides what a header opens. -/
theorem readHeader?_append (hl : l.Readable d) {b : BlockKeyword} (hb : b ∈ l.blocks) {ws : Text}
    (hws : isBlank ws) (rest : Text) :
    l.readHeader? (b.literal ++ (ws ++ ':' :: rest)) =
      (l.blocks.find? (·.literal = b.literal)).map fun k ↦ ⟨k.kind, k.literal, trim rest⟩ := by
  apply findSome?_eq_map_find?
  intro k hk
  rw [BlockKeyword.read?_append rest (hl.block_solid k hk) (hl.block_colon k hk)
    (hl.block_solid b hb) (hl.block_colon b hb) hws]
  simp

/-- A header that was read carries the first keyword with its literal. -/
theorem find?_of_readHeader? (hl : l.Readable d) {line : Text} {h : HeaderLine}
    (hread : l.readHeader? line = some h) :
    (⟨h.keyword, h.kind⟩ : BlockKeyword) ∈ l.blocks ∧
      l.blocks.find? (·.literal = h.keyword) = some ⟨h.keyword, h.kind⟩ ∧
      ∃ rest, rest ⊆ line ∧ h.name = trim rest := by
  obtain ⟨b, hb, hbread⟩ := mem_of_readHeader hread
  obtain ⟨ws, rest, hws, rfl, rfl⟩ := BlockKeyword.read?_eq_some_iff.1 hbread
  have hsub : rest ⊆ b.literal ++ (ws ++ ':' :: rest) := fun c hc ↦ by simp [hc]
  rw [readHeader?_append hl hb hws, Option.map_eq_some_iff] at hread
  obtain ⟨k, hk, heq⟩ := hread
  obtain ⟨hkind, hliteral, -⟩ := HeaderLine.mk.inj heq
  have hkb : k = ⟨b.literal, b.kind⟩ := by
    cases k
    cases hkind
    cases hliteral
    rfl
  exact ⟨hb, hkb ▸ hk, rest, hsub, rfl⟩

/-- A header that was written is read with the keyword and the name that it was written from. -/
theorem readHeader?_of_find? (hl : l.Readable d) {keyword name rest : Text} {kind : BlockKind}
    (hfind : l.blocks.find? (·.literal = keyword) = some ⟨keyword, kind⟩)
    (hrest : trim rest = name) :
    l.readHeader? (keyword ++ ':' :: rest) = some ⟨kind, keyword, name⟩ := by
  have hb : (⟨keyword, kind⟩ : BlockKeyword) ∈ l.blocks := List.mem_of_find?_eq_some hfind
  have hread : l.readHeader? (keyword ++ ([] ++ ':' :: rest)) = _ :=
    readHeader?_append hl hb rfl rest
  rw [List.nil_append] at hread
  rw [hread, hfind, ← hrest]
  rfl

theorem readHeader?_eq_none (hl : l.Readable d) {k : StepKeyword} (hk : k ∈ l.steps) (t : Text) :
    l.readHeader? (k.literal ++ t) = none := by
  rw [readHeader?, List.findSome?_eq_none_iff]
  intro b hb
  obtain ⟨h, h'⟩ := hl.block_apart k hk b hb
  simp [BlockKeyword.read?, afterPrefix?_append_of_none h h']

/-- What one item gives and no other does is what a list with that item gives. -/
theorem findSome?_eq_some_of_unique {α β : Type} {f : α → Option β} {a : α} {y : β} {as : List α}
    (ha : a ∈ as) (hy : f a = some y) (h : ∀ x ∈ as, x = a ∨ f x = none) :
    as.findSome? f = some y := by
  induction as with
  | nil => cases ha
  | cons x as ih =>
    obtain ⟨hx, has⟩ := List.forall_mem_cons.1 h
    rw [List.findSome?_cons]
    rcases hx with rfl | hx
    · rw [hy]
    · rw [hx]
      rcases List.mem_cons.1 ha with rfl | ha
      · rw [hy] at hx
        cases hx
      · exact ih ha has

/-- A step that was written is read as a step, and in a legible language with the keyword and the
body that it was written from. -/
theorem exists_readStep?_append (hl : l.Readable d) {k : StepKeyword} (hk : k ∈ l.steps) {t : Text}
    (ht : ¬isBlank t) :
    ∃ s, l.readStep? (k.literal ++ t) = some s ∧
      (TokenKind.step s.kind s.literal s.text).upTo d =
        (TokenKind.step k.kind k.literal (trim t)).upTo d := by
  have hread := k.read?_append ht
  cases d with
  | full =>
    refine ⟨_, findSome?_eq_some_of_unique hk hread fun k' hk' ↦ ?_, rfl⟩
    exact (hl.step_apart rfl k hk k' hk').imp id fun hmiss ↦ StepKeyword.read?_of_misses hmiss t
  | outline =>
    have hsome : (l.readStep? (k.literal ++ t)).isSome := by
      rw [readStep?, List.findSome?_isSome_iff]
      exact ⟨k, hk, by rw [hread]; rfl⟩
    obtain ⟨s, hs⟩ := Option.isSome_iff_exists.1 hsome
    exact ⟨s, hs, rfl⟩

end Language

/-- The keywords of a vocabulary can be told apart, in whatever order they are tried. -/
def Vocabulary.Readable (d : Detail) (v : Vocabulary) : Prop :=
  (∀ b ∈ v.blockKeywords, Solid b.literal ∧ OneLine b.literal ∧ opensLine b.literal ∧
    ':' ∉ b.literal) ∧
  (∀ k ∈ v.stepKeywords, OneLine k.literal ∧ opensLine k.literal ∧
    (∀ b ∈ v.blockKeywords, b.Misses k.literal) ∧
    (d = .full → ∀ k' ∈ v.stepKeywords, k' = k ∨ k'.Misses k.literal))

instance (d : Detail) (v : Vocabulary) : Decidable (v.Readable d) :=
  inferInstanceAs (Decidable (_ ∧ _))

theorem Vocabulary.Readable.toLanguage {d : Detail} {v : Vocabulary} (h : v.Readable d)
    (code : Text) (name native : String) : (v.toLanguage code name native).Readable d where
  block_solid b hb := (h.1 b (List.mem_mergeSort.1 hb)).1
  block_oneLine b hb := (h.1 b (List.mem_mergeSort.1 hb)).2.1
  block_opens b hb := (h.1 b (List.mem_mergeSort.1 hb)).2.2.1
  block_colon b hb := (h.1 b (List.mem_mergeSort.1 hb)).2.2.2
  step_oneLine k hk := (h.2 k (List.mem_mergeSort.1 hk)).1
  step_opens k hk := (h.2 k (List.mem_mergeSort.1 hk)).2.1
  block_apart k hk b hb := (h.2 k (List.mem_mergeSort.1 hk)).2.2.1 b (List.mem_mergeSort.1 hb)
  step_apart hd k hk k' hk' :=
    (h.2 k (List.mem_mergeSort.1 hk)).2.2.2 hd k' (List.mem_mergeSort.1 hk')

namespace Language

/-- All that is asked of the bundled languages. -/
theorem readable_of_mem_bundles :
    ∀ b ∈ bundles, b.vocabulary.Readable (if b.code = "fr" then .outline else .full) := by
  decide +kernel

/-- A step that begins with `Et ` may be read as one that begins with `Et que `. -/
example : ¬Vocabulary.french.Readable .full := by decide +kernel

theorem code_of_mem_bundles : ∀ b ∈ bundles, normalizeCode b.code.toList = b.code.toList ∧
    Solid b.code.toList ∧ OneLine b.code.toList ∧ b.code.toList ≠ [] := by
  decide +kernel

theorem mem_bundles_of_find? {code : Text} {l : Language} (h : find? code = some l) :
    ∃ b ∈ bundles, l = b.vocabulary.toLanguage b.code.toList b.name b.native := by
  obtain ⟨b, hb, rfl⟩ := Option.map_eq_some_iff.1 h
  exact ⟨b, List.mem_of_find?_eq_some hb, rfl⟩

theorem legible_of_find? {code : Text} {l : Language} (h : find? code = some l)
    (hfrench : l.code ≠ "fr".toList) : l.Legible := by
  obtain ⟨b, hb, rfl⟩ := mem_bundles_of_find? h
  have hcode : b.code ≠ "fr" := fun heq ↦ hfrench (congrArg String.toList heq)
  have hreadable := readable_of_mem_bundles b hb
  rw [if_neg hcode] at hreadable
  exact hreadable.toLanguage _ _ _

theorem readable_of_find? {code : Text} {l : Language} (h : find? code = some l) :
    l.Readable .outline := by
  obtain ⟨b, hb, rfl⟩ := mem_bundles_of_find? h
  exact ((readable_of_mem_bundles b hb).toLanguage _ _ _).outline

theorem find?_code {code : Text} {l : Language} (h : find? code = some l) :
    find? l.code = some l := by
  have hcode : normalizeCode l.code = normalizeCode code := by
    obtain ⟨b, hb, rfl⟩ := mem_bundles_of_find? h
    rw [← code_of_find? h]
    exact (code_of_mem_bundles b hb).1
  rw [find?, hcode]
  exact h

/-- A language is found under any code that comes to its own. -/
theorem find?_of_normalizeCode {code asked : Text} {l : Language} (h : find? code = some l)
    (hasked : normalizeCode asked = l.code) : find? asked = some l := by
  rw [find?, hasked, code_of_find? h]
  exact h

theorem code_solid_of_find? {code : Text} {l : Language} (h : find? code = some l) :
    Solid l.code ∧ OneLine l.code ∧ l.code ≠ [] := by
  obtain ⟨b, hb, rfl⟩ := mem_bundles_of_find? h
  exact (code_of_mem_bundles b hb).2

/-- English with its keywords in the order in which they are tried. -/
def english : Language where
  code := defaultCode
  name := "English"
  native := "English"
  blocks := [
    ⟨"Scenario Template".toList, .scenarioOutline⟩, ⟨"Scenario Outline".toList, .scenarioOutline⟩,
    ⟨"Business Need".toList, .feature⟩, ⟨"Background".toList, .background⟩,
    ⟨"Scenarios".toList, .examples⟩, ⟨"Scenario".toList, .scenario⟩,
    ⟨"Examples".toList, .examples⟩, ⟨"Feature".toList, .feature⟩,
    ⟨"Ability".toList, .feature⟩, ⟨"Example".toList, .scenario⟩]
  steps := [
    ⟨"Given ".toList, .context⟩, ⟨"When ".toList, .action⟩, ⟨"Then ".toList, .outcome⟩,
    ⟨"And ".toList, .and⟩, ⟨"But ".toList, .but⟩, ⟨"* ".toList, .bullet⟩]

/-- A document that names no language is read with these keywords. -/
theorem find?_defaultCode : find? defaultCode = some english := by
  have hfind : find? defaultCode =
      some (Vocabulary.english.toLanguage defaultCode "English" "English") := rfl
  have hblocks : Vocabulary.english.blockKeywords = [
      ⟨"Feature".toList, .feature⟩, ⟨"Business Need".toList, .feature⟩,
      ⟨"Ability".toList, .feature⟩, ⟨"Background".toList, .background⟩,
      ⟨"Scenario Outline".toList, .scenarioOutline⟩,
      ⟨"Scenario Template".toList, .scenarioOutline⟩, ⟨"Example".toList, .scenario⟩,
      ⟨"Scenario".toList, .scenario⟩, ⟨"Examples".toList, .examples⟩,
      ⟨"Scenarios".toList, .examples⟩] := by decide +kernel
  have hsteps : Vocabulary.english.stepKeywords = [
      ⟨"* ".toList, .bullet⟩, ⟨"Given ".toList, .context⟩, ⟨"When ".toList, .action⟩,
      ⟨"Then ".toList, .outcome⟩, ⟨"And ".toList, .and⟩, ⟨"But ".toList, .but⟩] := by
    decide +kernel
  rw [hfind, Vocabulary.toLanguage, hblocks, hsteps]
  simp [List.mergeSort, List.MergeSort.Internal.splitInTwo, english]

theorem legible_english : english.Legible := legible_of_find? find?_defaultCode (by decide)

end Language

end Gherkin
