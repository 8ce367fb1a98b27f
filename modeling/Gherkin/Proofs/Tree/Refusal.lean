import Gherkin.Proofs.Readings
import Gherkin.Proofs.Tree.Parts

/-!
# Where documents are refused

The parser refuses a document at one of its tokens or at its end, and the headers and rows of a tree
stand where their tokens do. So whatever holds of refusals at the places and lines of tokens and at
the end holds of each refusal, and whatever holds of the places and lines of all tokens holds of all
headers and rows at which a document may be refused later on.

Three faults are listed for what cannot happen. A header is taken only where the first token after
the tags was seen to be one, scenarios are taken until no other begins, and a table is made only of
rows that are there. So of a refusal it has to be known only what follows where its fault is none of
these.

Main statements: `Tree.endsIn_ofTokens`, and of the tokens behind the scenarios
`Tree.startsScenario_of_takeScenarios`.
-/

namespace Gherkin

/-- The faults that an earlier look at the tokens rules out: a header that is missing or fits
nowhere, and a table without rows. -/
def SyntaxFault.IsRuledOut : SyntaxFault → Prop
  | expectedHeader | unexpectedBlock _ | emptyTable => True
  | _ => False

variable (P : Location → Text → Prop)

/-- A refusal stands at a place and shows a line as `P` says, and is for a fault that is not ruled
out. -/
structure SyntaxError.At (e : SyntaxError) : Prop where
  place : P e.location e.line
  fault : ¬e.fault.IsRuledOut

def Token.At (t : Token) : Prop := P t.location t.line

namespace Tree

def Header.At (h : Header) : Prop := P h.location h.line

def Row.At (r : Row) : Prop := P r.location r.line

/-- A table is not empty, and its rows stand as `P` says. -/
def Argument.At : Argument → Prop
  | table rows => rows ≠ [] ∧ ∀ r ∈ rows, r.At P
  | string _ => True

def StepNode.At (s : StepNode) : Prop := ∀ a ∈ s.argument, a.At P

structure ExamplesNode.At (e : ExamplesNode) : Prop where
  header : e.header.At P
  rows : ∀ r ∈ e.rows, r.At P

structure BlockNode.At (b : BlockNode) : Prop where
  header : b.header.At P
  steps : ∀ s ∈ b.steps, s.At P
  examples : ∀ e ∈ b.examples, e.At P

structure FeatureNode.At (n : FeatureNode) : Prop where
  header : n.header.At P
  background : ∀ b ∈ n.background, b.At P
  scenarios : ∀ b ∈ n.scenarios, b.At P

end Tree

/-- A tree read from the given start, all headers and rows of which stand as `P` says. -/
def Tree.At : DocumentKind → Tree → Prop
  | .feature, document n => n.At P
  | .steps, snippet ss => ∀ s ∈ ss, s.At P
  | _, _ => False

namespace Tree

variable {P} {E : SyntaxError → Prop} {eof : Location}
  (hE : ∀ {location : Location} {line : Text} {fault : SyntaxFault}, P location line →
    ¬fault.IsRuledOut → E ⟨location, fault, line⟩)
  (heof : ∀ {fault : SyntaxFault}, ¬fault.IsRuledOut → E ⟨eof, fault, []⟩)

/-- What is taken is as `Q` says, and the tokens that are handed on stand as `P` says. -/
structure Leaves (P : Location → Text → Prop) {α : Type} (Q : α → Prop) (taken : Taken α) :
    Prop where
  item : Q taken.1
  rest : ∀ t ∈ taken.2, Token.At P t

variable {ts : List Token} (hts : ∀ t ∈ ts, t.At P)

include hE heof hts in
theorem refuseAt_at {fault : SyntaxFault} (hfault : ¬fault.IsRuledOut) :
    E (refuseAt eof ts fault) := by
  cases ts with
  | nil => exact heof hfault
  | cons t ts => exact hE (hts t List.mem_cons_self) hfault

theorem Header.at_of_ofToken? {tags : List Text} {t : Token} {h : Header}
    (hread : ofToken? tags t = some h) (ht : t.At P) : h.At P := by
  unfold ofToken? at hread
  split at hread
  · cases hread
    exact ht
  · cases hread

theorem Row.at_of_ofToken? {t : Token} {r : Row} (hread : ofToken? t = some r) (ht : t.At P) :
    r.At P := by
  unfold ofToken? at hread
  split at hread
  · cases hread
    exact ht
  · cases hread

include hts in
theorem takeRun_rest {α : Type} (read? : Token → Option α) : ∀ t ∈ (takeRun read? ts).2, t.At P :=
  fun t ht ↦ hts t ((takeRun_suffix read? ts).subset ht)

include hts in
theorem takeRun_rows : ∀ r ∈ (takeRun Row.ofToken? ts).1, r.At P := by
  induction ts with
  | nil => exact List.forall_mem_nil _
  | cons t ts ih =>
    obtain ⟨ht, hrest⟩ := List.forall_mem_cons.1 hts
    rw [takeRun]
    cases hread : Row.ofToken? t with
    | none => exact List.forall_mem_nil _
    | some r => exact List.forall_mem_cons.2 ⟨Row.at_of_ofToken? hread ht, ih hrest⟩

theorem Header.isSome_ofToken?_iff (tags : List Text) {t : Token} :
    (ofToken? tags t).isSome ↔ t.blockKind?.isSome := by
  cases hk : t.kind <;> simp [ofToken?, Token.blockKind?, hk]

include hts in
/-- A header is never missing where one was seen. -/
theorem endsIn_takeHeader (tags : List Text) (hhead : (ts.head?.bind Token.blockKind?).isSome) :
    EndsIn E (Leaves P (·.At P)) (takeHeader eof tags ts) := by
  cases ts with
  | nil => cases hhead
  | cons t ts =>
    obtain ⟨ht, hrest⟩ := List.forall_mem_cons.1 hts
    obtain ⟨h, hread⟩ := Option.isSome_iff_exists.1 ((Header.isSome_ofToken?_iff tags).2 hhead)
    simp only [takeHeader, hread]
    exact ⟨Header.at_of_ofToken? hread ht, hrest⟩

include hE heof hts in
theorem endsIn_takeArgument :
    EndsIn E (Leaves P fun a ↦ ∀ x ∈ a, Argument.At P x) (takeArgument eof ts) := by
  cases ts with
  | nil => exact ⟨fun _ h ↦ absurd h (Option.not_mem_none _), hts⟩
  | cons t ts =>
    obtain ⟨ht, hrest⟩ := List.forall_mem_cons.1 hts
    rw [takeArgument]
    cases hrow : Row.ofToken? t with
    | some row =>
      have hafter := takeRun_rest hrest Row.ofToken?
      dsimp only
      split
      · exact refuseAt_at hE heof hafter not_false
      · refine ⟨?_, hafter⟩
        rintro _ ⟨⟩
        exact ⟨List.cons_ne_nil _ _, List.forall_mem_cons.2
          ⟨Row.at_of_ofToken? hrow ht, takeRun_rows hrest⟩⟩
    | none =>
      cases StringNode.ofToken? t with
      | none => exact ⟨fun _ h ↦ absurd h (Option.not_mem_none _), hts⟩
      | some s =>
        dsimp only
        split
        · exact refuseAt_at hE heof hrest not_false
        · split
          · exact refuseAt_at hE heof hrest not_false
          · refine ⟨?_, hrest⟩
            rintro _ ⟨⟩
            trivial

include hE heof hts in
theorem endsIn_takeSteps :
    EndsIn E (Leaves P fun ss ↦ ∀ s ∈ ss, StepNode.At P s) (takeSteps eof ts) := by
  fun_induction takeSteps eof ts with
  | case1 => exact ⟨List.forall_mem_nil _, hts⟩
  | case2 => exact ⟨List.forall_mem_nil _, hts⟩
  | case3 t ts step _ e harg =>
    have hargument := endsIn_takeArgument hE heof fun t ht ↦ hts t (List.mem_cons_of_mem _ ht)
    rw [harg] at hargument
    exact hargument
  | case4 t ts step _ argument after harg e hsteps ih =>
    have hargument := endsIn_takeArgument hE heof fun t ht ↦ hts t (List.mem_cons_of_mem _ ht)
    rw [harg] at hargument
    have hrest := ih hargument.rest
    rw [hsteps] at hrest
    exact hrest
  | case5 t ts step _ argument after harg steps last hsteps ih =>
    have hargument := endsIn_takeArgument hE heof fun t ht ↦ hts t (List.mem_cons_of_mem _ ht)
    rw [harg] at hargument
    have hrest := ih hargument.rest
    rw [hsteps] at hrest
    exact ⟨List.forall_mem_cons.2 ⟨hargument.item, hrest.item⟩, hrest.rest⟩

theorem takeTags_rest (hts : ∀ t ∈ ts, t.At P) : ∀ t ∈ (takeTags ts).2, t.At P :=
  fun t ht ↦ hts t ((takeTags_suffix ts).subset ht)

theorem not_isTags_of_blockKind? {t : Token} {kind : BlockKind} (hhead : t.blockKind? = some kind) :
    ¬t.isTags := by
  cases hkind : t.kind <;> simp_all [Token.blockKind?, Token.isTags]

theorem blockAfterTags?_cons {t : Token} (htags : ¬t.isTags) :
    blockAfterTags? (t :: ts) = t.blockKind? := by
  rw [blockAfterTags?, List.dropWhile_cons_of_neg htags]
  rfl

/-- A header in front is the header after the tags. -/
theorem blockAfterTags?_of_head {kind : BlockKind}
    (hhead : ts.head?.bind Token.blockKind? = some kind) : blockAfterTags? ts = some kind := by
  cases ts with
  | nil => cases hhead
  | cons t ts => rwa [blockAfterTags?_cons (not_isTags_of_blockKind? hhead)]

include hts in
theorem endsIn_takeExamplesBlock (hhead : (blockAfterTags? ts).isSome) :
    EndsIn E (Leaves P (·.At P)) (takeExamplesBlock eof ts) := by
  rw [takeExamplesBlock_eq]
  refine (endsIn_takeHeader (takeTags_rest hts) _ hhead).bind fun taken h ↦ ?_
  have hrest := takeRun_rest h.rest TextLine.ofToken?
  exact ⟨⟨h.item, takeRun_rows hrest⟩, takeRun_rest hrest Row.ofToken?⟩

include hts in
/-- Items are taken one after the other as long as the next one is seen to begin, and each leaves
fewer tokens than it was given. -/
theorem endsIn_loop {α : Type} {Q : α → Prop} {begins : List Token → Prop} [DecidablePred begins]
    {take : List Token → Except SyntaxError (Taken α)}
    {loop : List Token → Except SyntaxError (Taken (List α))}
    (hloop : ∀ ts, loop ts = if begins ts then do
        let (item, after) ← take ts
        let (items, last) ← loop after
        return (item :: items, last)
      else .ok ([], ts))
    (hshorter : ∀ {ts item rest}, take ts = .ok (item, rest) → rest.length < ts.length)
    (htake : ∀ {ts}, (∀ t ∈ ts, t.At P) → begins ts → EndsIn E (Leaves P Q) (take ts)) :
    EndsIn E (Leaves P fun items ↦ ∀ item ∈ items, Q item) (loop ts) := by
  induction hlength : ts.length using Nat.strongRecOn generalizing ts with
  | ind n ih =>
    rw [hloop]
    split
    · next hbegins =>
      refine (htake hts hbegins).traced.bind fun ⟨item, after⟩ ⟨hitem, htaken⟩ ↦ ?_
      have hfewer : after.length < n := hlength ▸ hshorter htaken
      refine (ih after.length hfewer hitem.rest rfl).bind fun ⟨items, last⟩ hitems ↦ ?_
      exact ⟨List.forall_mem_cons.2 ⟨hitem.item, hitems.item⟩, hitems.rest⟩
    · exact ⟨List.forall_mem_nil _, hts⟩

include hts in
theorem endsIn_takeExamples :
    EndsIn E (Leaves P fun es ↦ ∀ e ∈ es, ExamplesNode.At P e) (takeExamples eof ts) :=
  endsIn_loop hts (takeExamples_eq eof) takeExamplesBlock_length fun hts hhead ↦
    endsIn_takeExamplesBlock hts (Option.isSome_of_eq_some hhead)

include hE heof hts in
theorem endsIn_takeBlock (hhead : (blockAfterTags? ts).isSome) :
    EndsIn E (Leaves P (·.At P)) (takeBlock eof ts) := by
  rw [takeBlock]
  refine (endsIn_takeHeader (takeTags_rest hts) _ hhead).bind fun header hheader ↦ ?_
  have hrest := takeRun_rest hheader.rest TextLine.ofToken?
  refine (endsIn_takeSteps hE heof hrest).bind fun steps hsteps ↦ ?_
  dsimp only
  split
  · exact ⟨⟨hheader.item, hsteps.item, List.forall_mem_nil _⟩, hsteps.rest⟩
  · refine (endsIn_takeExamples hsteps.rest).bind fun examples hexamples ↦ ?_
    exact ⟨⟨hheader.item, hsteps.item, hexamples.item⟩, hexamples.rest⟩

theorem isSome_of_startsScenario (hstart : startsScenario ts) : (blockAfterTags? ts).isSome := by
  cases hkind : blockAfterTags? ts <;> simp_all [startsScenario]

include hE heof hts in
theorem endsIn_takeScenarios :
    EndsIn E (Leaves P fun bs ↦ ∀ b ∈ bs, BlockNode.At P b) (takeScenarios eof ts) :=
  endsIn_loop hts (takeScenarios_eq eof) takeBlock_length fun hts hstart ↦
    endsIn_takeBlock hE heof hts (isSome_of_startsScenario hstart)

/-- No scenario is left behind. -/
theorem startsScenario_of_takeScenarios {bs : List BlockNode} {rest : List Token}
    (htaken : takeScenarios eof ts = .ok (bs, rest)) : startsScenario rest = false := by
  fun_induction takeScenarios eof ts generalizing bs rest with
  | case1 => cases htaken
  | case2 => cases htaken
  | case3 ts _ block after hblock blocks last hblocks ih =>
    cases htaken
    exact ih hblocks
  | case4 ts hstart =>
    cases htaken
    exact Bool.eq_false_iff.2 hstart

theorem not_isRuledOut_of_strayTags? {start : DocumentKind} {fault : SyntaxFault}
    (hstray : strayTags? start ts = some fault) : ¬fault.IsRuledOut := by
  unfold strayTags? at hstray
  split at hstray <;> cases hstray <;> exact not_false

/-- Only tags above a second feature are passed over. -/
theorem blockAfterTags?_of_strayTags? {start : DocumentKind} (hstray : strayTags? start ts = none) :
    blockAfterTags? ts = some .feature := by
  unfold strayTags? at hstray
  split at hstray
  · assumption
  · cases hstray
  · cases hstray

/-- Only a scenario fits nowhere among the blocks of a feature. -/
theorem not_isRuledOut_strayToken {start : DocumentKind} {t : Token}
    (hstart : start = .feature → startsScenario (t :: ts) = false) (htags : ¬t.isTags) :
    ¬(strayToken start t.kind).IsRuledOut := by
  simp only [startsScenario, blockAfterTags?_cons htags, Token.blockKind?] at hstart
  cases start <;> cases hkind : t.kind with
  | block kind keyword name => cases kind <;> simp_all [strayToken, SyntaxFault.IsRuledOut]
  | _ => simp [strayToken, SyntaxFault.IsRuledOut]

include hE hts in
/-- Where no scenario was left behind, no token left behind is one that fits nowhere. -/
theorem endsIn_expectEnd (start : DocumentKind)
    (hstart : start = .feature → startsScenario ts = false) :
    EndsIn E (fun _ ↦ True) (expectEnd start ts) := by
  cases ts with
  | nil => trivial
  | cons t ts =>
    rw [expectEnd]
    split
    · cases hstray : strayTags? start (t :: ts) with
      | some fault => exact hE (hts t List.mem_cons_self) (not_isRuledOut_of_strayTags? hstray)
      | none =>
        dsimp only
        cases hdrop : (t :: ts).dropWhile Token.isTags with
        | nil => trivial
        | cons u us =>
          have hu : u ∈ t :: ts := (List.dropWhile_suffix Token.isTags).subset
            (hdrop ▸ List.mem_cons_self)
          have hkind : u.blockKind? = some .feature := by
            have hhead := blockAfterTags?_of_strayTags? hstray
            rwa [blockAfterTags?, hdrop] at hhead
          have htags := not_isTags_of_blockKind? hkind
          have hother : startsScenario (u :: us) = false := by
            simp [startsScenario, blockAfterTags?_cons htags, hkind]
          exact hE (hts u hu) (not_isRuledOut_strayToken (fun _ ↦ hother) htags)
    · next htags => exact hE (hts t List.mem_cons_self) (not_isRuledOut_strayToken hstart htags)

/-- What is taken of a feature leaves no scenario behind. -/
theorem startsScenario_of_takeFeature {n : FeatureNode} {rest : List Token}
    (htaken : takeFeature eof ts = .ok (n, rest)) : startsScenario rest = false := by
  simp only [takeFeature, ne_eq, ite_not] at htaken
  split at htaken
  · obtain ⟨header, -, htaken⟩ := bind_eq_ok_iff.1 htaken
    split at htaken
    · obtain ⟨background, -, htaken⟩ := bind_eq_ok_iff.1 htaken
      split at htaken
      · cases htaken
      · obtain ⟨scenarios, hscenarios, htaken⟩ := bind_eq_ok_iff.1 htaken
        cases htaken
        exact startsScenario_of_takeScenarios hscenarios
    · obtain ⟨scenarios, hscenarios, htaken⟩ := bind_eq_ok_iff.1 htaken
      cases htaken
      exact startsScenario_of_takeScenarios hscenarios
  · cases htaken

include hE heof hts in
theorem endsIn_takeFeature : EndsIn E (Leaves P (·.At P)) (takeFeature eof ts) := by
  have htags := takeTags_rest hts
  rw [takeFeature]
  dsimp only
  split
  · exact refuseAt_at hE heof htags not_false
  next hfeature =>
    have hhead : ((takeTags ts).2.head?.bind Token.blockKind?).isSome :=
      Option.isSome_of_eq_some (Decidable.not_not.1 hfeature)
    refine (endsIn_takeHeader htags _ hhead).bind fun header hheader ↦ ?_
    have hrest := takeRun_rest hheader.rest TextLine.ofToken?
    split
    · next hbackground =>
      have hhead := Option.isSome_of_eq_some (blockAfterTags?_of_head hbackground)
      refine (endsIn_takeBlock hE heof hrest hhead).bind fun background hbackground ↦ ?_
      split
      · exact refuseAt_at hE heof hbackground.rest not_false
      · refine (endsIn_takeScenarios hE heof hbackground.rest).bind fun scenarios hscenarios ↦ ?_
        refine ⟨⟨hheader.item, ?_, hscenarios.item⟩, hscenarios.rest⟩
        rintro _ ⟨⟩
        exact hbackground.item
    · refine (endsIn_takeScenarios hE heof hrest).bind fun scenarios hscenarios ↦ ?_
      exact ⟨⟨hheader.item, fun _ h ↦ absurd h (Option.not_mem_none _), hscenarios.item⟩,
        hscenarios.rest⟩

include hE heof hts in
theorem endsIn_parseFeature : EndsIn E (·.At P) (parseFeature eof ts) := by
  rw [parseFeature]
  refine (endsIn_takeFeature hE heof hts).traced.bind fun feature ⟨hfeature, htaken⟩ ↦ ?_
  refine (endsIn_expectEnd hE hfeature.rest .feature fun _ ↦
    startsScenario_of_takeFeature htaken).bind fun _ _ ↦ ?_
  exact hfeature.item

include hE heof hts in
theorem endsIn_parseSteps :
    EndsIn E (fun ss ↦ ∀ s ∈ ss, StepNode.At P s) (parseSteps eof ts) := by
  rw [parseSteps]
  refine (endsIn_takeSteps hE heof hts).bind fun steps hsteps ↦ ?_
  exact (endsIn_expectEnd hE hsteps.rest .steps nofun).bind fun _ _ ↦ hsteps.item

include hE heof hts in
/-- A document is refused at a token or at its end, and a tree stands where its tokens do. -/
theorem endsIn_ofTokens (start : DocumentKind) :
    EndsIn E (Tree.At P start) (ofTokens start eof ts) := by
  cases start with
  | feature => exact (endsIn_parseFeature hE heof hts).map fun _ h ↦ h
  | steps => exact (endsIn_parseSteps hE heof hts).map fun _ h ↦ h

end Tree

end Gherkin
