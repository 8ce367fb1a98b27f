import Gherkin.Proofs.Feature.Diagnostics
import Gherkin.Proofs.Tree.Soundness

/-!
# Failures that never come up

Three messages are worded for what cannot happen: a header is missing where one was seen, a scenario
fits nowhere, a table has no rows. Neither reading a text nor the rules on the tree that it gives
ever report one of them, and a document that is read has used up its tokens.

Main statement: `parse_never_tells_ruled_out`.
-/

namespace Gherkin

/-- How a message begins that tells of a missing header, a scenario out of place or an empty
table. -/
def ruledOutOpenings : List Text :=
  ["expected a block header", "unexpected '", "table must have at least one row"]

/-- A message is worded for a fault that is ruled out. -/
def TellsRuledOut (message : Text) : Prop := ∃ opening ∈ ruledOutOpenings, opening <+: message

/-- What a failure says is wrong, apart from its place. -/
def ParseError.message : ParseError → Text
  | refused e => e.fault.message
  | e => e.display

theorem not_tellsRuledOut_of_all {message : Text}
    (h : ruledOutOpenings.all (fun opening ↦ !opening.isPrefixOf message) = true) :
    ¬TellsRuledOut message := by
  rintro ⟨opening, hmem, hprefix⟩
  have hopening := List.all_eq_true.1 h opening hmem
  simp [List.isPrefixOf_iff_prefix.2 hprefix] at hopening

/-- Only faults that are ruled out have such messages. -/
theorem SyntaxFault.not_tellsRuledOut {fault : SyntaxFault} (h : ¬fault.IsRuledOut) :
    ¬TellsRuledOut fault.message := by
  refine not_tellsRuledOut_of_all ?_
  cases fault with
  | expectedHeader | unexpectedBlock | emptyTable => exact absurd trivial h
  | expectedFeature | expectedStep | invalidTag | raggedRow => rfl
  | _ => decide +kernel

variable {options : ParseOptions} {text : Text}

theorem not_tellsRuledOut_of_parse {start : DocumentKind} {e : ParseError}
    (h : parse start options text = .error e) : ¬TellsRuledOut e.message := by
  have hparse := endsIn_parse options text start
  rw [h] at hparse
  cases e with
  | refused e => exact SyntaxFault.not_tellsRuledOut hparse.fault
  | unknownLanguage | unreadable => exact not_tellsRuledOut_of_all rfl

theorem not_tellsRuledOut_of_toFeature {p : ParsedText} {e : SyntaxError}
    (hp : parse .feature options text = .ok p) (h : p.toFeature = .error e) :
    ¬TellsRuledOut e.fault.message := by
  have hparse := endsIn_parse options text .feature
  rw [hp] at hparse
  have hfeature := ParsedText.endsIn_toFeature hparse.1
  rw [h] at hfeature
  exact SyntaxFault.not_tellsRuledOut hfeature.fault

theorem not_tellsRuledOut_of_toSteps {p : ParsedText} {e : SyntaxError}
    (hp : parse .steps options text = .ok p) (h : p.toSteps = .error e) :
    ¬TellsRuledOut e.fault.message := by
  have hparse := endsIn_parse options text .steps
  rw [hp] at hparse
  have hsteps := ParsedText.endsIn_toSteps hparse.1
  rw [h] at hsteps
  exact SyntaxFault.not_tellsRuledOut hsteps.fault

/-- No failure of a text or of the tree that it gives tells of a fault that is ruled out, and of the
tokens of a document that is read none is left. -/
theorem parse_never_tells_ruled_out (options : ParseOptions) (text : Text) :
    (∀ start e, parse start options text = .error e → ¬TellsRuledOut e.message) ∧
    (∀ p e, parse .feature options text = .ok p → p.toFeature = .error e →
      ¬TellsRuledOut e.fault.message) ∧
    (∀ p e, parse .steps options text = .ok p → p.toSteps = .error e →
      ¬TellsRuledOut e.fault.message) ∧
    (∀ eof ts n, Tree.parseFeature eof ts = .ok n → Tree.takeFeature eof ts = .ok (n, [])) ∧
    ∀ eof ts steps, Tree.parseSteps eof ts = .ok steps → Tree.takeSteps eof ts = .ok (steps, []) :=
  ⟨fun _ _ ↦ not_tellsRuledOut_of_parse, fun _ _ ↦ not_tellsRuledOut_of_toFeature,
    fun _ _ ↦ not_tellsRuledOut_of_toSteps, fun _ _ _ ↦ Tree.takeFeature_of_parseFeature,
    fun _ _ _ ↦ Tree.takeSteps_of_parseSteps⟩

def headerOnly : Text := "Feature: empty\n".toList

def placelessToken (kind : TokenKind) : Token := ⟨kind, ⟨none, 1, 1⟩, .between 0 0, []⟩

def stepToken : Token := placelessToken (.step .context "Given ".toList "x".toList)

/-- A feature with one scenario, tags between their headers. -/
def taggedTokens : List Token :=
  [placelessToken (.block .feature "Feature".toList "f".toList),
    placelessToken (.tags ["t".toList]),
    placelessToken (.block .scenario "Scenario".toList "s".toList), stepToken]

/-- A header alone is refused among bare steps and makes no feature, the rows of a table are refused
for their widths, and what is read leaves nothing. -/
theorem parse_never_tells_ruled_out_headerOnly :
    (∃ e, parse .steps {} headerOnly = .error e ∧ ¬TellsRuledOut e.message) ∧
    (∃ p e, parse .feature {} headerOnly = .ok p ∧ p.toFeature = .error e ∧
      ¬TellsRuledOut e.fault.message) ∧
    (∃ p e, parse .steps {} raggedText = .ok p ∧ p.toSteps = .error e ∧
      ¬TellsRuledOut e.fault.message) ∧
    (∃ n, Tree.parseFeature ⟨none, 1, 1⟩ taggedTokens = .ok n ∧
      Tree.takeFeature ⟨none, 1, 1⟩ taggedTokens = .ok (n, [])) ∧
    ∃ ss, Tree.parseSteps ⟨none, 1, 1⟩ [stepToken] = .ok ss ∧
      Tree.takeSteps ⟨none, 1, 1⟩ [stepToken] = .ok (ss, []) := by
  obtain ⟨hparse, hfeature, -, htokens, hnone⟩ := parse_never_tells_ruled_out {} headerOnly
  obtain ⟨-, -, hsteps, -, -⟩ := parse_never_tells_ruled_out {} raggedText
  have hrefused : EndsIn (fun _ ↦ True) (fun _ ↦ False) (parse .steps {} headerOnly) := by
    simp only [parse]
    rw [code_of_undeclared (by decide +kernel), Language.find?_defaultCode]
    decide +kernel
  have hheader : EndsIn (fun _ ↦ False)
      (fun p ↦ EndsIn (fun _ ↦ True) (fun _ ↦ False) p.toFeature)
      (parse .feature {} headerOnly) := by
    simp only [parse]
    rw [code_of_undeclared (by decide +kernel), Language.find?_defaultCode]
    decide +kernel
  have hragged : EndsIn (fun _ ↦ False) (fun p ↦ EndsIn (fun _ ↦ True) (fun _ ↦ False) p.toSteps)
      (parse .steps {} raggedText) := by
    simp only [parse]
    rw [code_of_undeclared (by decide +kernel), Language.find?_defaultCode]
    decide +kernel
  have htagged : EndsIn (fun _ ↦ False) (fun _ ↦ True)
      (Tree.parseFeature ⟨none, 1, 1⟩ taggedTokens) := by
    decide +kernel
  have hsingle : EndsIn (fun _ ↦ False) (fun _ ↦ True)
      (Tree.parseSteps ⟨none, 1, 1⟩ [stepToken]) := by
    decide +kernel
  obtain ⟨e, he, -⟩ := hrefused.exists_error
  obtain ⟨p, hp, hfails⟩ := hheader.exists_ok
  obtain ⟨e', he', -⟩ := hfails.exists_error
  obtain ⟨q, hq, hfails⟩ := hragged.exists_ok
  obtain ⟨e'', he'', -⟩ := hfails.exists_error
  obtain ⟨n, hn, -⟩ := htagged.exists_ok
  obtain ⟨ss, hss, -⟩ := hsingle.exists_ok
  exact ⟨⟨e, he, hparse _ e he⟩, ⟨p, e', hp, he', hfeature p e' hp he'⟩,
    ⟨q, e'', hq, he'', hsteps q e'' hq he''⟩, ⟨n, hn, htokens _ _ n hn⟩,
    ⟨ss, hss, hnone _ _ ss hss⟩⟩

end Gherkin
