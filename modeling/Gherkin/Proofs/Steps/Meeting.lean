import Gherkin.Proofs.Feature.ResolvedRendering
import Gherkin.Proofs.Feature.ResolvedSentence
import Gherkin.Proofs.Registry.Sound
import Gherkin.Proofs.Steps.Sentence

/-!
# Steps that named definitions meet

The sentence of every step that is read from a document is collapsed. So a definition without a
pattern of its own, which is registered under the sentence that a name spells, can match a step only
if that sentence is collapsed as well; and then it does match one, since the sentence can be the
body of a step.

Main statement: `sentenceOfName_meets_iff`.
-/

namespace Gherkin

open Text (Solid OneLine isSpace squeeze)

/-- The pattern matches the sentence of a step in some document. -/
def StepPattern.MeetsStep (p : StepPattern) : Prop :=
  ∃ options text, ∃ s : Step, s.Read options text ∧ (p.match? s.sentence).isSome

/-- A step with a body and nothing below it. -/
def givenStep (body : Text) : Step where
  literal := "Given ".toList
  kind := .context
  phase := .context
  text := body
  sentence := sentenceOfLine ("Given ".toList ++ body)
  table := none
  docString := none
  owner := none
  location := ⟨none, 1, 1⟩
  span := ⟨0, 0, le_rfl⟩

/-- Any solid line can be the body of a step. -/
theorem exists_read_givenStep {body : Text} (hsolid : Solid body) (hone : OneLine body)
    (hne : body ≠ []) : ∃ s : Step, s.Read {} (givenStep body).display ∧
      s.sentence = sentenceOfLine ("Given ".toList ++ body) := by
  have hkeyword : ⟨"Given ".toList, .context⟩ ∈ Language.english.steps := by decide +kernel
  have hshaped : (givenStep body).Shaped .english := ⟨hkeyword, nofun, nofun, nofun, .inl rfl⟩
  have hproper : (givenStep body).Proper .english :=
    ⟨⟨hkeyword, hsolid, hone, hne⟩, nofun, nofun⟩
  obtain ⟨s, hs, hsentence, -⟩ := (hproper.legible rfl).rendersToItself hshaped
  exact ⟨s, .bare hs List.mem_cons_self, hsentence⟩

/-- The sentence of a step that was read has no two blanks in a row. -/
theorem Step.Read.not_infix_sentence {options : ParseOptions} {text : Text} {s : Step}
    (h : s.Read options text) : ¬[' ', ' '] <:+: s.sentence := by
  rw [h.spoken.sentence_eq, sentenceOfLine, h.spoken.solid.collapse_eq]
  exact Text.not_infix_squeeze _

/-- Blanks are matched by blanks alone. -/
theorem infix_of_sameLetter {s t : Text} (h : List.Forall₂ Regex.SameLetter s t)
    (hs : [' ', ' '] <:+: s) : [' ', ' '] <:+: t := by
  have hblank {c : Char} (hc : Regex.SameLetter ' ' c) : c = ' ' :=
    (Regex.sameLetter_iff_of_isSpace rfl).1 hc
  induction h with
  | nil => exact hs
  | cons hc hrest ih =>
    rcases List.infix_cons_iff.1 hs with hprefix | hinfix
    · obtain ⟨rfl, hblanks⟩ := List.cons_prefix_cons.1 hprefix
      obtain ⟨rest, rfl⟩ := hblanks
      obtain ⟨d, later, hd, -, rfl⟩ := List.forall₂_cons_left_iff.1 hrest
      rw [hblank hc, hblank hd]
      exact ⟨[], later, rfl⟩
    · exact List.infix_cons (ih hinfix)

namespace PlainSentence

variable {s : Text} (h : PlainSentence s)

include h

theorem sentenceOfLine_eq_self_iff : sentenceOfLine s = s ↔ ¬[' ', ' '] <:+: s :=
  h.solid.collapse_eq_self_iff h.eq_blank

/-- A collapsed sentence stands unchanged behind the keyword of a step. -/
theorem sentenceOfLine_append (hs : sentenceOfLine s = s) :
    sentenceOfLine ("Given ".toList ++ s) = "Given ".toList ++ s := by
  have hsolid : Solid ("Given ".toList ++ s) :=
    .append (by decide) (by decide) h.solid.last h.ne_nil
  have hhead : ¬s.head?.any isSpace := by
    have hfirst := h.solid.head
    cases s with
    | nil => exact nofun
    | cons c s => simpa using hfirst
  have hgiven : squeeze ("Given".toList ++ ' ' :: s) = "Given".toList ++ squeeze (' ' :: s) :=
    Text.squeeze_append_of_solid (by decide) (by decide) (by decide) _
  rw [sentenceOfLine, hsolid.collapse_eq]
  refine hgiven.trans ?_
  rw [Text.squeeze_cons_of_not_any rfl hhead, Text.squeeze_of_collapse hs]
  rfl

/-- As a pattern a plain sentence matches the sentence of some step exactly if it is collapsed. -/
theorem meetsStep_iff {p : StepPattern} (hp : StepPattern.ofText s = .ok p) :
    p.MeetsStep ↔ sentenceOfLine s = s := by
  constructor
  · rintro ⟨options, text, step, hread, hmatch⟩
    obtain ⟨mid, hmid, hletters⟩ :=
      (StepPattern.isSome_match?_iff_of_plain h.isPlain hp).1 hmatch
    rw [h.sentenceOfLine_eq_self_iff]
    exact fun hinfix ↦
      hread.not_infix_sentence ((infix_of_sameLetter hletters hinfix).trans hmid)
  · intro hs
    obtain ⟨step, hread, hsentence⟩ := exists_read_givenStep h.solid h.oneLine h.ne_nil
    refine ⟨_, _, step, hread, ?_⟩
    rw [hsentence, h.sentenceOfLine_append hs]
    refine (StepPattern.isSome_match?_iff_of_plain h.isPlain hp).2
      ⟨s, (List.suffix_append _ _).isInfix, ?_⟩
    exact List.forall₂_same.2 fun c _ ↦ .inl rfl

end PlainSentence

variable {σ : Type}

/-- The definition is that of a handler which was entered under a sentence. -/
structure StepDefinition.EnteredUnder (d : StepDefinition σ) (sentence : Text) (handler : Handler σ)
    (origin : Option DeclarationSite) : Prop where
  text : d.pattern.text = sentence
  handler : d.handler = handler
  origin : d.origin = origin

namespace Registry

theorem mem_steps_put (r : Registry σ) (d : StepDefinition σ) : d ∈ (r.put d).steps := by
  rw [put]
  split
  · next i hi =>
    have hlt : i < r.steps.length := by simpa using (Option.filter_eq_some_iff.1 hi).2
    exact List.mem_set hlt d
  · simp

theorem registerNamed_eq_register {name sentence : Text} (h : sentenceOfName name = .ok sentence)
    (r : Registry σ) (handler : Handler σ) :
    r.registerNamed name handler = r.register sentence handler none := by
  rw [registerNamed, h]
  rfl

theorem registerDeclared_eq_map {declared : DeclaredStep σ} {sentence : Text}
    (h : declared.sentence = .ok sentence) (r : Registry σ) : r.registerDeclared declared =
      (r.register sentence declared.handler (some declared.origin)).map Prod.snd := by
  rw [registerDeclared, h]
  change (r.register sentence declared.handler (some declared.origin) >>=
    fun entered ↦ pure entered.2) = _
  cases r.register sentence declared.handler (some declared.origin) <;> rfl

/-- Under a plain sentence a handler is entered, unless the sentence is too large for a pattern. -/
theorem register_plainSentence (r : Registry σ) {s : Text} (hs : PlainSentence s)
    (handler : Handler σ) (origin : Option DeclarationSite) :
    r.register s handler origin = .error (.invalidPattern s .tooLarge) ∨
      ∃ handle r' d, r.register s handler origin = .ok (handle, r') ∧ d ∈ r'.steps ∧
        d.id = handle.id ∧ d.EnteredUnder s handler origin ∧
        (d.pattern.MeetsStep ↔ sentenceOfLine s = s) := by
  cases hp : StepPattern.ofText s with
  | error fault =>
    rw [StepPattern.eq_tooLarge_of_plain hs.isPlain hp] at hp
    exact .inl (by rw [register, hp])
  | ok p =>
    exact .inr ⟨_, _, r.nextStep p handler origin, register_of_ok hp r handler origin,
      mem_steps_put _ _, rfl, ⟨StepPattern.text_of_ofText hp, rfl, rfl⟩, hs.meetsStep_iff hp⟩

end Registry

theorem sentenceOfName_eq_ok_iff {name sentence : Text} : sentenceOfName name = .ok sentence ↔
    sentenceOfIdentifier? (identifierOf name) = some sentence := by
  rw [sentenceOfName]
  cases sentenceOfIdentifier? (identifierOf name) <;> simp

/-- The sentence that a name spells is not empty, and it is collapsed exactly if no run of
underscores sets two words of the name apart. Exactly then a definition that is registered or
declared under the name alone matches a step of some document. -/
theorem sentenceOfName_meets_iff {name sentence : Text} (h : sentenceOfName name = .ok sentence) :
    sentence ≠ [] ∧
    (sentenceOfLine sentence = sentence ↔ ¬HasWideGap (identifierOf name)) ∧
    (∀ (r : Registry σ) (handler : Handler σ),
      r.registerNamed name handler = .error (.invalidPattern sentence .tooLarge) ∨
      ∃ handle r' d, r.registerNamed name handler = .ok (handle, r') ∧ d ∈ r'.steps ∧
        d.id = handle.id ∧ d.EnteredUnder sentence handler none ∧
        (d.pattern.MeetsStep ↔ sentenceOfLine sentence = sentence)) ∧
    ∀ (r : Registry σ) (declared : DeclaredStep σ), declared.pattern = none →
      declared.documentation = none → declared.name = name →
      r.registerDeclared declared = .error (.invalidPattern sentence .tooLarge) ∨
      ∃ r' d, r.registerDeclared declared = .ok r' ∧ d ∈ r'.steps ∧
        d.EnteredUnder sentence declared.handler (some declared.origin) ∧
        (d.pattern.MeetsStep ↔ sentenceOfLine sentence = sentence) := by
  obtain ⟨hplain, hgap⟩ := sentenceOfIdentifier?_spec (sentenceOfName_eq_ok_iff.1 h)
  refine ⟨hplain.ne_nil, hplain.sentenceOfLine_eq_self_iff.trans (not_congr hgap),
    fun r handler ↦ ?_, fun r declared hpattern hdocumentation hname ↦ ?_⟩
  · rw [Registry.registerNamed_eq_register h]
    exact r.register_plainSentence hplain handler none
  · have hsentence : declared.sentence = .ok sentence := by
      rw [DeclaredStep.sentence, hpattern, hdocumentation, hname]
      exact h
    rw [Registry.registerDeclared_eq_map hsentence]
    rcases r.register_plainSentence hplain declared.handler (some declared.origin) with
      herror | ⟨handle, r', d, hok, hd, -, hentered, hmeets⟩
    · exact .inl (by rw [herror]; rfl)
    · exact .inr ⟨r', d, by rw [hok]; rfl, hd, hentered, hmeets⟩

def numberedName : Text := "steps::_1_2<u32>".toList

theorem exists_ofText_one_two : ∃ p, StepPattern.ofText ['1', ' ', '2'] = .ok p := by
  have hone := Regex.letterExpr_of_foldingOthers (Unicode.foldingOthers_of_isDigit (c := '1') rfl)
  have hblank := Regex.letterExpr_of_foldingOthers (Unicode.foldingOthers_of_isSpace (c := ' ') rfl)
  have htwo := Regex.letterExpr_of_foldingOthers (Unicode.foldingOthers_of_isDigit (c := '2') rfl)
  refine StepPattern.exists_ofText_of_plain (List.all_eq_true.1 (by decide)) ?_
  rw [List.map_cons, List.map_cons, List.map_cons, List.map_nil, hone, hblank, htwo]
  decide +kernel

theorem sentenceOfName_meets_iff_numberedName :
    sentenceOfName numberedName = .ok ['1', ' ', '2'] ∧ ¬HasWideGap (identifierOf numberedName) ∧
      ∀ (r : Registry Nat) (handler : Handler Nat) (origin : DeclarationSite),
        (∃ handle r' d, r.registerNamed numberedName handler = .ok (handle, r') ∧ d ∈ r'.steps ∧
          d.id = handle.id ∧ d.pattern.MeetsStep) ∧
        ∃ r' d, r.registerDeclared ⟨none, none, numberedName, handler, origin⟩ = .ok r' ∧
          d ∈ r'.steps ∧ d.origin = some origin ∧ d.pattern.MeetsStep := by
  have hname : sentenceOfName numberedName = .ok ['1', ' ', '2'] := by decide +kernel
  have hcollapsed : sentenceOfLine ['1', ' ', '2'] = ['1', ' ', '2'] := by decide +kernel
  obtain ⟨-, hgap, hregistered, hdeclared⟩ := sentenceOfName_meets_iff (σ := Nat) hname
  obtain ⟨p, hp⟩ := exists_ofText_one_two
  refine ⟨hname, hgap.1 hcollapsed, fun r handler origin ↦ ⟨?_, ?_⟩⟩
  · rcases hregistered r handler with herror | ⟨handle, r', d, hok, hd, hid, -, hmeets⟩
    · rw [Registry.registerNamed_eq_register hname, Registry.register_of_ok hp] at herror
      cases herror
    · exact ⟨handle, r', d, hok, hd, hid, hmeets.2 hcollapsed⟩
  · let declared : DeclaredStep Nat := ⟨none, none, numberedName, handler, origin⟩
    have hsentence : declared.sentence = .ok ['1', ' ', '2'] := hname
    rcases hdeclared r declared rfl rfl rfl with herror | ⟨r', d, hok, hd, hentered, hmeets⟩
    · rw [Registry.registerDeclared_eq_map hsentence, Registry.register_of_ok hp] at herror
      cases herror
    · exact ⟨r', d, hok, hd, hentered.origin, hmeets.2 hcollapsed⟩

/-- Two underscores between two words are two blanks, and those no step has. -/
theorem not_meetsStep_of_sentenceOfName : sentenceOfName "a__b".toList = .ok "A  b".toList ∧
    sentenceOfLine "A  b".toList ≠ "A  b".toList ∧
    ∀ p, StepPattern.ofText "A  b".toList = .ok p → ¬p.MeetsStep := by
  have hname : sentenceOfName "a__b".toList = .ok "A  b".toList := by decide +kernel
  have hcollapsed : sentenceOfLine "A  b".toList ≠ "A  b".toList := by decide +kernel
  have hplain := (sentenceOfIdentifier?_spec (sentenceOfName_eq_ok_iff.1 hname)).1
  exact ⟨hname, hcollapsed, fun p hp hmeets ↦ hcollapsed ((hplain.meetsStep_iff hp).1 hmeets)⟩

end Gherkin
