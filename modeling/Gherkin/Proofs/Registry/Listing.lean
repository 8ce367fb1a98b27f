import Gherkin.Proofs.Registry.Sound

/-!
# The registry as a plain list

Whoever uses a registry may think of its steps as one list without an index: registering puts a
definition in the place of the one with its pattern, or at the end, under the number that comes
next; removing takes out what a handle was given for and leaves the order of the others; what is
refused changes nothing; and a snapshot is a copy of the list. This reading of scripts knows nothing
of positions.

Main statements: a registry that presents a list answers every sentence with the first definition
of the list that matches it, and a definition that is replaced takes no part in which pattern that
is (`Registry.Indexed.presents`, `Registry.Indexed.answerTo_replaced`); and after any script a registry
presents what the plain reading of the script says (`Registry.presents_listing`).
-/

namespace Gherkin

variable {σ : Type}

/-- Definitions in one list, with the number given out last and the lists that were set aside. -/
structure Listing (σ : Type) where
  entries : List (StepDefinition σ) := []
  lastId : Nat := 0
  saved : List (List (StepDefinition σ)) := []

namespace Listing

/-- Registers a handler under the pattern that is read, unless none is read or it is refused. -/
def register (l : Listing σ) (reading : Except DefinitionError Text) (handler : Handler σ)
    (origin : Option DeclarationSite) : Listing σ :=
  match reading with
  | .error _ => l
  | .ok pattern =>
    match StepPattern.ofText pattern with
    | .error _ => l
    | .ok compiled =>
      { l with
        entries := replaceOrAppend ⟨⟨l.lastId + 1⟩, compiled, handler, origin⟩ l.entries
        lastId := l.lastId + 1 }

/-- The listing after an action. Hooks have no part in it. -/
def perform (l : Listing σ) : Action σ → Listing σ
  | .register pattern handler => l.register (.ok pattern) handler none
  | .registerNamed name handler => l.register (sentenceOfName name) handler none
  | .registerDocumented documentation handler =>
    l.register (sentenceOfDocumentation documentation) handler none
  | .unregister handle => { l with entries := withoutHandle handle l.entries }
  | .hook .. | .unhook _ => l
  | .clear => { l with entries := [] }
  | .snapshot => { l with saved := l.saved ++ [l.entries] }
  | .restore number => { l with entries := l.saved[number]?.getD l.entries }

/-- The listing after a block: the entries are what they were on entry, and numbers are not given
out again. -/
def leave (entry ended : Listing σ) : Listing σ := { ended with entries := entry.entries }

def interpretation : Interpretation σ (Listing σ) := ⟨perform, leave⟩

/-- The listing of declared steps in the order of the places where they are declared. -/
def ofDeclarations (ds : List (DeclaredStep σ)) : Listing σ :=
  (ds.mergeSort Registry.declaredBefore).foldl
    (fun l d ↦ l.register d.sentence d.handler (some d.origin)) {}

/-- The number that comes next is new to all definitions, those set aside included. -/
structure Fresh (l : Listing σ) : Prop where
  entries : ∀ d ∈ l.entries, d.id ≠ ⟨l.lastId + 1⟩
  saved : ∀ part ∈ l.saved, ∀ d ∈ part, d.id ≠ ⟨l.lastId + 1⟩

section Register

variable (l : Listing σ) {reading : Except DefinitionError Text} (handler : Handler σ)
  (origin : Option DeclarationSite)

theorem register_of_refused
    (h : ∀ pattern compiled, reading = .ok pattern → StepPattern.ofText pattern ≠ .ok compiled) :
    l.register reading handler origin = l := by
  cases reading with
  | error e => rfl
  | ok pattern =>
    cases hpattern : StepPattern.ofText pattern with
    | error fault => simp only [register, hpattern]
    | ok compiled => exact absurd hpattern (h pattern compiled rfl)

theorem register_of_ok {pattern : Text} {compiled : StepPattern} (hreading : reading = .ok pattern)
    (hcompiled : StepPattern.ofText pattern = .ok compiled) :
    l.register reading handler origin =
      { l with
        entries := replaceOrAppend ⟨⟨l.lastId + 1⟩, compiled, handler, origin⟩ l.entries
        lastId := l.lastId + 1 } := by
  simp only [register, hreading, hcompiled]

end Register

end Listing

/-- The first definition of a list that matches a sentence, and what the sentence gives it. -/
def FirstMatch (entries : List (StepDefinition σ)) (sentence : Text) (m : StepMatch σ) : Prop :=
  ∃ before after, entries = before ++ m.definition :: after ∧
    (∀ d ∈ before, d.pattern.match? sentence = none) ∧
    m.definition.pattern.match? sentence = some m.arguments

namespace Registry

theorem matchSentence_eq_ok_iff {r : Registry σ} {sentence : Text} {m : StepMatch σ} :
    r.matchSentence sentence = .ok m ↔ FirstMatch r.steps sentence m := by
  have hfind : r.matchSentence sentence = .ok m ↔
      (r.steps.findSome? fun d ↦ (d.pattern.match? sentence).map (⟨d, ·⟩)) = some m := by
    unfold matchSentence
    split
    · next found hfound => rw [hfound, Except.ok.injEq, Option.some.injEq]
    · next hnone => simp [hnone]
  rw [hfind, List.findSome?_eq_some_iff]
  constructor
  · rintro ⟨before, d, after, heq, hmatch, hbefore⟩
    obtain ⟨arguments, harguments, rfl⟩ := Option.map_eq_some_iff.1 hmatch
    exact ⟨before, after, heq, fun e he ↦ Option.map_eq_none_iff.1 (hbefore e he), harguments⟩
  · rintro ⟨before, after, heq, hbefore, hmatch⟩
    refine ⟨before, m.definition, after, heq, ?_, fun e he ↦ ?_⟩
    · rw [hmatch, Option.map_some]
    · rw [hbefore e he, Option.map_none]

theorem matchSentence_eq_error_iff {r : Registry σ} {sentence : Text} {e : UndefinedSentence} :
    r.matchSentence sentence = .error e ↔
      (∀ d ∈ r.steps, d.pattern.match? sentence = none) ∧ e = ⟨sentence, none⟩ := by
  have hnone : (r.steps.findSome? fun d ↦
      (d.pattern.match? sentence).map (StepMatch.mk d)) = none ↔
        ∀ d ∈ r.steps, d.pattern.match? sentence = none := by
    simp only [List.findSome?_eq_none_iff, Option.map_eq_none_iff]
  rw [← hnone]
  unfold matchSentence
  split
  · next found hfound => simp [hfound]
  · next hfound => simp [hfound, eq_comm]

/-- The pattern that a sentence matches and what the sentence gives it. -/
def answerTo (r : Registry σ) (sentence : Text) :
    Except UndefinedSentence (StepPattern × StepArguments) :=
  (r.matchSentence sentence).map fun m ↦ (m.definition.pattern, m.arguments)

/-- The first of some patterns that a sentence matches. -/
def answerAmong (patterns : List StepPattern) (sentence : Text) :
    Except UndefinedSentence (StepPattern × StepArguments) :=
  match patterns.findSome? fun p ↦ (p.match? sentence).map (p, ·) with
  | some answer => .ok answer
  | none => .error ⟨sentence, none⟩

/-- Nothing of the definitions but their patterns has a part in the answer. -/
theorem answerTo_eq (r : Registry σ) (sentence : Text) :
    r.answerTo sentence = answerAmong (r.steps.map StepDefinition.pattern) sentence := by
  have hmap : ((r.steps.map StepDefinition.pattern).findSome? fun p ↦
      (p.match? sentence).map (p, ·)) =
        (r.steps.findSome? fun d ↦ (d.pattern.match? sentence).map (StepMatch.mk d)).map
          fun m ↦ (m.definition.pattern, m.arguments) := by
    rw [List.map_findSome?, List.findSome?_map]
    congr 1
    funext d
    simp [Function.comp_def]
  unfold answerTo answerAmong matchSentence
  rw [hmap]
  cases r.steps.findSome? fun d ↦ (d.pattern.match? sentence).map (StepMatch.mk d) <;> rfl

/-- A pattern that is present can be registered again, and the same sentences match it as before. -/
theorem Indexed.answerTo_replaced {r : Registry σ} (h : r.Indexed) {pattern : Text}
    (hpattern : pattern ∈ patternsOf r.steps) (handler : Handler σ)
    (origin : Option DeclarationSite) :
    ∃ handle r', r.register pattern handler origin = .ok (handle, r') ∧
      ∀ sentence, r'.answerTo sentence = r.answerTo sentence := by
  obtain ⟨old, hold, rfl⟩ := mem_patternsOf.1 hpattern
  have hcompiled := h.compiled old hold
  refine ⟨_, _, register_of_ok hcompiled r handler origin, fun sentence ↦ ?_⟩
  have hpatterns : ((r.withStep old.pattern handler origin).steps.map StepDefinition.pattern) =
      r.steps.map StepDefinition.pattern := by
    rw [h.steps_withStep]
    refine map_pattern_replaceOrAppend hpattern fun e he htext ↦ ?_
    have hsame := h.compiled e he
    rw [show e.pattern.text = old.pattern.text from htext, hcompiled] at hsame
    exact (Except.ok.inj hsame).symm
  rw [answerTo_eq, answerTo_eq, hpatterns]

/-- What the registry shows is what the listing says: the index gives the positions of the patterns,
which are distinct; every sentence is answered with the first entry that matches it; and registering
a pattern again does not change which sentences match it. -/
structure Presents (r : Registry σ) (l : Listing σ) : Prop where
  steps : r.steps = l.entries
  lastId : r.lastId = l.lastId
  index : ∀ (pattern : Text) (i : Nat),
    r.index[pattern]? = some i ↔ ∃ d, l.entries[i]? = some d ∧ d.pattern.text = pattern
  distinct : l.entries.Pairwise fun a b ↦ a.pattern.text ≠ b.pattern.text
  matched : ∀ sentence m, r.matchSentence sentence = .ok m ↔ FirstMatch l.entries sentence m
  unmatched : ∀ sentence e, r.matchSentence sentence = .error e ↔
    (∀ d ∈ l.entries, d.pattern.match? sentence = none) ∧ e = ⟨sentence, none⟩
  replaced : ∀ pattern ∈ patternsOf l.entries, ∀ handler origin, ∃ handle r',
    r.register pattern handler origin = .ok (handle, r') ∧
      ∀ sentence, r'.answerTo sentence = r.answerTo sentence

theorem Indexed.presents {r : Registry σ} {l : Listing σ} (h : r.Indexed)
    (hsteps : r.steps = l.entries) (hlastId : r.lastId = l.lastId) : r.Presents l where
  steps := hsteps
  lastId := hlastId
  index pattern i := by
    rw [h.index_eq_some_iff, ← hsteps, patternsOf, List.getElem?_map, Option.map_eq_some_iff]
  distinct := hsteps ▸ List.pairwise_map.1 h.nodup
  matched sentence m := hsteps ▸ matchSentence_eq_ok_iff
  unmatched sentence e := hsteps ▸ matchSentence_eq_error_iff
  replaced pattern hpattern handler origin := h.answerTo_replaced (hsteps ▸ hpattern) handler origin

end Registry

/-! ## Scripts -/

/-- A sound session and a listing belong together if they hold the same definitions now and in all
snapshots, and have given out the same numbers. -/
structure Session.ListedAs (s : Session σ) (l : Listing σ) : Prop where
  sound : s.Sound
  entries : s.registry.steps = l.entries
  lastId : s.registry.lastId = l.lastId
  saved : s.snapshots.map (·.contents.steps) = l.saved

namespace Session.ListedAs

variable {s t : Session σ} {l k : Listing σ}

/-- Definitions with numbers that were given out are not mistaken for the one that comes next. -/
theorem fresh (h : s.ListedAs l) : l.Fresh := by
  have hnew : ∀ d : StepDefinition σ, d.id.number ≤ l.lastId → d.id ≠ ⟨l.lastId + 1⟩ := by
    intro d hd heq
    rw [heq] at hd
    exact Nat.not_succ_le_self _ hd
  refine ⟨fun d hd ↦ hnew d ?_, fun part hpart d hd ↦ hnew d ?_⟩
  · rw [← h.entries] at hd
    rw [← h.lastId]
    exact h.sound.registry.numbered d hd
  · rw [← h.saved] at hpart
    obtain ⟨saved, hsaved, rfl⟩ := List.mem_map.1 hpart
    rw [← h.lastId]
    exact Nat.le_trans ((h.sound.saved saved hsaved).numbered d hd)
      (h.sound.saved_lastId_le saved hsaved)

theorem noteStep (h : s.ListedAs l) (handler : Handler σ) (reading : Except DefinitionError Text)
    (hsound : (s.noteStep handler
      (reading >>= fun pattern ↦ s.registry.register pattern handler none)).Sound) :
    (s.noteStep handler (reading >>= fun pattern ↦ s.registry.register pattern handler none)).ListedAs
      (l.register reading handler none) := by
  rcases s.noteStep_cases handler reading with ⟨heq, hrefused⟩ | ⟨pattern, compiled, hreading,
    hcompiled, heq⟩
  · rw [heq, l.register_of_refused handler none hrefused]
    exact h
  · rw [heq] at hsound ⊢
    rw [l.register_of_ok handler none hreading hcompiled]
    refine ⟨hsound, ?_, ?_, h.saved⟩
    · change (s.registry.withStep compiled handler none).steps = _
      rw [h.sound.registry.indexed.steps_withStep, h.entries, Registry.nextStep, h.lastId]
    · change (s.registry.withStep compiled handler none).lastId = _
      rw [Registry.withStep_lastId, h.lastId]

theorem restore (h : s.ListedAs l) (number : Nat) :
    (s.perform (.restore number)).ListedAs (l.perform (.restore number)) := by
  have hsound := h.sound.perform (.restore number)
  have hsaved : l.saved[number]? = s.snapshots[number]?.map (·.contents.steps) := by
    rw [← h.saved, List.getElem?_map]
  cases hget : s.snapshots[number]? with
  | none =>
    have hsession : s.perform (.restore number) = s := by simp only [Session.perform, hget]
    have hlisting : l.perform (.restore number) = l := by
      simp only [Listing.perform, hsaved, hget, Option.map_none, Option.getD_none]
    rw [hsession, hlisting]
    exact h
  | some saved =>
    have hsession : s.perform (.restore number) =
        { s with registry := s.registry.restore saved } := by simp only [Session.perform, hget]
    have hlisting : l.perform (.restore number) = { l with entries := saved.contents.steps } := by
      simp only [Listing.perform, hsaved, hget, Option.map_some, Option.getD_some]
    rw [hsession] at hsound ⊢
    rw [hlisting]
    have hle := h.sound.saved_lastId_le saved (List.mem_of_getElem? hget)
    exact ⟨hsound, rfl, (Nat.max_eq_right hle).trans h.lastId, h.saved⟩

theorem perform (h : s.ListedAs l) (a : Action σ) : (s.perform a).ListedAs (l.perform a) := by
  have hsound := h.sound.perform a
  cases a with
  | register pattern handler => exact h.noteStep handler (.ok pattern) hsound
  | registerNamed name handler => exact h.noteStep handler (sentenceOfName name) hsound
  | registerDocumented documentation handler =>
    exact h.noteStep handler (sentenceOfDocumentation documentation) hsound
  | unregister handle =>
    refine ⟨hsound, ?_, ?_, h.saved⟩
    · exact (h.sound.registry.indexed.steps_unregister handle).trans (congrArg _ h.entries)
    · exact (Registry.unregister_lastId s.registry handle).trans h.lastId
  | hook scope t placement callback => exact ⟨hsound, h.entries, h.lastId, h.saved⟩
  | unhook handle => exact ⟨hsound, h.entries, h.lastId, h.saved⟩
  | clear => exact ⟨hsound, rfl, h.lastId, h.saved⟩
  | snapshot =>
    refine ⟨hsound, h.entries, h.lastId, ?_⟩
    change (s.snapshots ++ [s.registry.snapshot]).map _ = l.saved ++ [l.entries]
    rw [List.map_append, h.saved, ← h.entries]
    rfl
  | restore number => exact h.restore number

theorem leave (h : s.ListedAs l) (ht : t.ListedAs k) (hlater : s.Later t) :
    (s.leave t).ListedAs (l.leave k) where
  sound := h.sound.leave ht.sound
  entries := h.entries
  lastId := (Nat.max_eq_right hlater.lastId).trans ht.lastId
  saved := ht.saved

/-- The declared steps of a registry. -/
theorem ofDeclarations {ds : List (DeclaredStep σ)} {r : Registry σ}
    (h : Registry.ofDeclarations ds = .ok r) : (start r).ListedAs (.ofDeclarations ds) := by
  refine Registry.ofDeclarations_related (R := fun r l ↦ (start r).ListedAs l) _ ?_
    ⟨.start .empty, rfl, rfl, rfl⟩ h
  intro r r' l d hregister hl
  obtain ⟨pattern, compiled, hreading, hcompiled, rfl⟩ := Registry.of_registerDeclared hregister
  have hr := hl.sound.registry
  rw [l.register_of_ok d.handler (some d.origin) hreading hcompiled]
  refine ⟨.start (hr.withStep hcompiled d.handler (some d.origin)), ?_, ?_, hl.saved⟩
  · refine (hr.indexed.steps_withStep ..).trans ?_
    rw [← hl.entries, ← hl.lastId]
    rfl
  · exact (Registry.withStep_lastId ..).trans (congrArg (· + 1) hl.lastId)

end Session.ListedAs

namespace Registry

/-- Whatever a script does to a registry of declared steps, the registry then presents the list that
the plain reading of the script leaves behind, and the script ends as in the plain reading. -/
theorem presents_listing {ds : List (DeclaredStep σ)} {r : Registry σ}
    (h : Registry.ofDeclarations ds = .ok r) (script : Script σ) :
    ∃ (outcome : Outcome Empty Unit) (s : Session σ) (l : Listing σ),
      script.run Session.interpretation (.start r) = (outcome, s) ∧
      script.run Listing.interpretation (.ofDeclarations ds) = (outcome, l) ∧
      s.registry.Presents l ∧ s.snapshots.map (·.contents.steps) = l.saved ∧ l.Fresh := by
  obtain ⟨hend, hlisted⟩ := script.run_related (m := Listing.interpretation)
    (R := Session.ListedAs) (fun _ _ a hl ↦ hl.perform a)
    (fun _ _ _ _ hl ht hlater ↦ hl.leave ht hlater) (.ofDeclarations h)
  refine ⟨_, _, _, rfl, Prod.ext hend.symm rfl, ?_, hlisted.saved, hlisted.fresh⟩
  exact hlisted.sound.registry.indexed.presents hlisted.entries hlisted.lastId

/-- A definition that is replaced in a block, removed and brought back. -/
theorem presents_listing_there_and_back :
    Registry.ofDeclarations [anyStep] = .ok ofAnyStep ∧
    ∃ (outcome : Outcome Empty Unit) (s : Session Nat) (l : Listing Nat),
      Script.thereAndBack.run Session.interpretation (.start ofAnyStep) = (outcome, s) ∧
      Script.thereAndBack.run Listing.interpretation (.ofDeclarations [anyStep]) = (outcome, l) ∧
      s.registry.Presents l ∧ s.snapshots.map (·.contents.steps) = l.saved ∧ l.Fresh :=
  ⟨ofDeclarations_anyStep, presents_listing ofDeclarations_anyStep .thereAndBack⟩

end Registry

end Gherkin
