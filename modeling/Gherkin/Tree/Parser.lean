import Gherkin.Tree.Basic

/-!
# From tokens to the structure of a document

Each function takes what it recognises off the front of the tokens and hands on the rest. A feature
is a header with a description, a background if there is one, and scenarios, each of which may carry
examples; tags may stand before every header but that of a background. Where the tokens do not fit,
the first one that cannot be placed decides what is wrong.

Main statements: what is handed on is always an end of what was given, and each function that must
recognise something hands on less (`takeBlock_length`, `takeExamplesBlock_length`).
-/

namespace Gherkin.Tree

/-- What a function recognised and the tokens it did not use. -/
abbrev Taken (α : Type) := α × List Token

/-- The document is refused at the first of the tokens, or where the text ends. -/
def refuseAt (eof : Location) (ts : List Token) (fault : SyntaxFault) : SyntaxError :=
  match ts with
  | t :: _ => t.refuse fault
  | [] => ⟨eof, fault, []⟩

/-- The longest run of tokens of one kind. -/
def takeRun {α : Type} (read? : Token → Option α) : List Token → Taken (List α)
  | [] => ([], [])
  | t :: ts =>
    match read? t with
    | some a => (a :: (takeRun read? ts).1, (takeRun read? ts).2)
    | none => ([], t :: ts)

/-- The tags at the front, each name once. -/
def takeTags (ts : List Token) : Taken (List Text) :=
  (((ts.takeWhile Token.isTags).flatMap Token.tagNames).eraseDups, ts.dropWhile Token.isTags)

/-- The kind of block that the first token after the tags opens. -/
def blockAfterTags? (ts : List Token) : Option BlockKind :=
  (ts.dropWhile Token.isTags).head?.bind Token.blockKind?

def takeHeader (eof : Location) (tags : List Text) (ts : List Token) :
    Except SyntaxError (Taken Header) :=
  match ts with
  | [] => .error (refuseAt eof [] .expectedHeader)
  | t :: rest =>
    match Header.ofToken? tags t with
    | some h => .ok (h, rest)
    | none => .error (t.refuse .expectedHeader)

def startsWithRow (ts : List Token) : Bool := (ts.head?.bind Row.ofToken?).isSome

def startsWithString (ts : List Token) : Bool := (ts.head?.bind StringNode.ofToken?).isSome

/-- The argument of a step: a table or a multiline string, and not both. -/
def takeArgument (eof : Location) (ts : List Token) :
    Except SyntaxError (Taken (Option Argument)) :=
  match ts with
  | [] => .ok (none, [])
  | t :: rest =>
    match Row.ofToken? t, StringNode.ofToken? t with
    | some row, _ =>
      let (rows, after) := takeRun Row.ofToken? rest
      if startsWithString after then .error (refuseAt eof after .tableAndString)
      else .ok (some (.table (row :: rows)), after)
    | none, some s =>
      if startsWithRow rest then .error (refuseAt eof rest .tableAndString)
      else if startsWithString rest then .error (refuseAt eof rest .secondString)
      else .ok (some (.string s), rest)
    | none, none => .ok (none, t :: rest)

theorem takeRun_suffix {α : Type} (read? : Token → Option α) (ts : List Token) :
    (takeRun read? ts).2 <:+ ts := by
  induction ts with
  | nil => simp [takeRun]
  | cons t ts ih =>
    unfold takeRun
    split
    · exact ih.trans (List.suffix_cons ..)
    · exact List.suffix_rfl

theorem takeTags_suffix (ts : List Token) : (takeTags ts).2 <:+ ts := List.dropWhile_suffix _

theorem takeHeader_eq {eof : Location} {tags : List Text} {ts rest : List Token} {h : Header}
    (eq : takeHeader eof tags ts = .ok (h, rest)) :
    ∃ t, ts = t :: rest ∧ Header.ofToken? tags t = some h := by
  unfold takeHeader at eq
  split at eq
  · cases eq
  · next t rest' =>
    split at eq
    · next hd hh => cases eq; exact ⟨t, rfl, hh⟩
    · cases eq

theorem takeArgument_suffix {eof : Location} {ts rest : List Token} {a : Option Argument}
    (eq : takeArgument eof ts = .ok (a, rest)) : rest <:+ ts := by
  unfold takeArgument at eq
  split at eq
  · cases eq; exact List.suffix_rfl
  · next t ts' =>
    split at eq
    · dsimp only at eq
      split at eq
      · cases eq
      · cases eq; exact (takeRun_suffix _ _).trans (List.suffix_cons ..)
    · split at eq
      · cases eq
      · split at eq
        · cases eq
        · cases eq; exact List.suffix_cons ..
    · cases eq; exact List.suffix_rfl

/-- The steps at the front, each with its argument. -/
def takeSteps (eof : Location) (ts : List Token) : Except SyntaxError (Taken (List StepNode)) :=
  match ts with
  | [] => .ok ([], [])
  | t :: rest =>
    match StepNode.ofToken? t with
    | none => .ok ([], t :: rest)
    | some step =>
      match _h : takeArgument eof rest with
      | .error e => .error e
      | .ok (argument, after) =>
        match takeSteps eof after with
        | .error e => .error e
        | .ok (steps, last) => .ok ({ step with argument } :: steps, last)
termination_by ts.length
decreasing_by
  have := (takeArgument_suffix _h).length_le
  simp; omega

theorem takeSteps_suffix {eof : Location} {ts rest : List Token} {steps : List StepNode}
    (eq : takeSteps eof ts = .ok (steps, rest)) : rest <:+ ts := by
  fun_induction takeSteps eof ts generalizing steps rest with
  | case1 => cases eq; exact List.suffix_rfl
  | case2 => cases eq; exact List.suffix_rfl
  | case3 => cases eq
  | case4 => cases eq
  | case5 t ts' step _ argument after h steps' last h' ih =>
    cases eq
    exact ((ih h').trans (takeArgument_suffix h)).trans (List.suffix_cons ..)

/-- A block of examples: tags, header, description, rows. -/
def takeExamplesBlock (eof : Location) (ts : List Token) :
    Except SyntaxError (Taken ExamplesNode) :=
  let (tags, ts) := takeTags ts
  match takeHeader eof tags ts with
  | .error e => .error e
  | .ok (header, ts) =>
    let (description, ts) := takeRun TextLine.ofToken? ts
    let (rows, ts) := takeRun Row.ofToken? ts
    .ok (⟨header, description, rows⟩, ts)

theorem takeExamplesBlock_length {eof : Location} {ts rest : List Token} {e : ExamplesNode}
    (eq : takeExamplesBlock eof ts = .ok (e, rest)) : rest.length < ts.length := by
  unfold takeExamplesBlock at eq
  dsimp only at eq
  split at eq
  · cases eq
  · next header after hh =>
    obtain ⟨t, ht, -⟩ := takeHeader_eq hh
    cases eq
    have h₁ := (takeTags_suffix ts).length_le
    have h₂ := (takeRun_suffix TextLine.ofToken? after).length_le
    have h₃ := (takeRun_suffix Row.ofToken? (takeRun TextLine.ofToken? after).2).length_le
    rw [ht] at h₁
    simp at h₁
    omega

def takeExamples (eof : Location) (ts : List Token) :
    Except SyntaxError (Taken (List ExamplesNode)) :=
  if blockAfterTags? ts = some .examples then
    match _h : takeExamplesBlock eof ts with
    | .error e => .error e
    | .ok (block, after) =>
      match takeExamples eof after with
      | .error e => .error e
      | .ok (blocks, last) => .ok (block :: blocks, last)
  else .ok ([], ts)
termination_by ts.length
decreasing_by exact takeExamplesBlock_length _h

theorem takeExamples_length {eof : Location} {ts rest : List Token} {es : List ExamplesNode}
    (eq : takeExamples eof ts = .ok (es, rest)) : rest.length ≤ ts.length := by
  fun_induction takeExamples eof ts generalizing es rest with
  | case1 => cases eq
  | case2 => cases eq
  | case3 ts _ block after h blocks last h' ih =>
    cases eq
    have := takeExamplesBlock_length h
    have := ih h'
    omega
  | case4 => cases eq; exact Nat.le_refl _

/-- A background or a scenario: tags, header, description, steps, and for a scenario examples. -/
def takeBlock (eof : Location) (ts : List Token) : Except SyntaxError (Taken BlockNode) := do
  let (tags, ts) := takeTags ts
  let (header, ts) ← takeHeader eof tags ts
  let (description, ts) := takeRun TextLine.ofToken? ts
  let (steps, ts) ← takeSteps eof ts
  if header.kind = .background then return (⟨header, description, steps, []⟩, ts)
  let (examples, ts) ← takeExamples eof ts
  return (⟨header, description, steps, examples⟩, ts)

theorem takeBlock_length {eof : Location} {ts rest : List Token} {b : BlockNode}
    (eq : takeBlock eof ts = .ok (b, rest)) : rest.length < ts.length := by
  simp only [takeBlock, bind, Except.bind, pure, Except.pure] at eq
  split at eq
  · cases eq
  · next header hh =>
    obtain ⟨t, ht, -⟩ := takeHeader_eq hh
    split at eq
    · cases eq
    · next steps hs =>
      have h₁ := (takeTags_suffix ts).length_le
      have h₂ := (takeRun_suffix TextLine.ofToken? header.2).length_le
      have h₃ := (takeSteps_suffix hs).length_le
      rw [ht] at h₁
      simp at h₁
      split at eq
      · cases eq; omega
      · split at eq
        · cases eq
        · next examples he =>
          have h₄ := takeExamples_length he
          cases eq; omega

/-- Whether a scenario follows, be it plain or an outline. -/
def startsScenario (ts : List Token) : Bool :=
  blockAfterTags? ts = some .scenario || blockAfterTags? ts = some .scenarioOutline

def takeScenarios (eof : Location) (ts : List Token) :
    Except SyntaxError (Taken (List BlockNode)) :=
  if startsScenario ts then
    match _h : takeBlock eof ts with
    | .error e => .error e
    | .ok (block, after) =>
      match takeScenarios eof after with
      | .error e => .error e
      | .ok (blocks, last) => .ok (block :: blocks, last)
  else .ok ([], ts)
termination_by ts.length
decreasing_by exact takeBlock_length _h

/-- What is wrong with tags that nothing took. Before a second feature header the header itself is
what is wrong. -/
def strayTags? (start : DocumentKind) (ts : List Token) : Option SyntaxFault :=
  match start, blockAfterTags? ts with
  | .feature, some .feature => none
  | _, some .background => some .taggedBackground
  | _, _ => some .danglingTags

/-- What is wrong with a token that nothing took. -/
def strayToken (start : DocumentKind) (kind : TokenKind) : SyntaxFault :=
  match kind, start with
  | .block .., .steps | .tags _, .steps => .expectedStep kind.describe
  | .block .feature .., .feature => .secondFeature
  | .block .background .., .feature => .lateBackground
  | .block .examples .., .feature => .looseExamples
  | .block .scenario .., .feature | .block .scenarioOutline .., .feature =>
    .unexpectedBlock kind.describe
  | .step .., _ => .looseStep
  | .row _, _ => .looseTable
  | .docString .., _ => .looseString
  | .text _, _ | .tags _, .feature => .unexpectedText

/-- The tokens have to be used up. -/
def expectEnd (start : DocumentKind) (ts : List Token) : Except SyntaxError Unit :=
  match ts with
  | [] => .ok ()
  | t :: _ =>
    if t.isTags then
      match strayTags? start ts with
      | some fault => .error (t.refuse fault)
      | none =>
        match ts.dropWhile Token.isTags with
        | [] => .ok ()
        | u :: _ => .error (u.refuse (strayToken start u.kind))
    else .error (t.refuse (strayToken start t.kind))

/-- A feature: tags, header, description, a background if there is one, and scenarios. -/
def takeFeature (eof : Location) (ts : List Token) : Except SyntaxError (Taken FeatureNode) := do
  let (tags, ts) := takeTags ts
  if ts.head?.bind Token.blockKind? ≠ some .feature then
    let found := (ts.head?.map (·.kind.describe)).getD "end of input".toList
    throw (refuseAt eof ts (.expectedFeature found))
  let (header, ts) ← takeHeader eof tags ts
  let (description, ts) := takeRun TextLine.ofToken? ts
  if ts.head?.bind Token.blockKind? = some .background then
    let (background, ts) ← takeBlock eof ts
    if ts.head?.bind Token.blockKind? = some .background then
      throw (refuseAt eof ts .secondBackground)
    let (scenarios, ts) ← takeScenarios eof ts
    return (⟨header, description, some background, scenarios⟩, ts)
  else
    let (scenarios, ts) ← takeScenarios eof ts
    return (⟨header, description, none, scenarios⟩, ts)

def parseFeature (eof : Location) (ts : List Token) : Except SyntaxError FeatureNode := do
  let (feature, ts) ← takeFeature eof ts
  expectEnd .feature ts
  return feature

def parseSteps (eof : Location) (ts : List Token) : Except SyntaxError (List StepNode) := do
  let (steps, ts) ← takeSteps eof ts
  expectEnd .steps ts
  return steps

/-- The structure of the tokens, read from the given start. -/
def ofTokens (start : DocumentKind) (eof : Location) (ts : List Token) : Except SyntaxError Tree :=
  match start with
  | .feature => .document <$> parseFeature eof ts
  | .steps => .snippet <$> parseSteps eof ts

end Gherkin.Tree
