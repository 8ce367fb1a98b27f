import Gherkin.Token.Basic

/-!
# How much of a document is read again

A document that was read and written is read again in full, or at least in outline. The outline of a
token leaves out what a step line says and what stands in a multiline string; that there is a step
or a string is kept, and so is all that the rules on the structure of a document look at.

Main statements: tokens of other sorts are the same in outline only if they are the same
(`TokenKind.eq_of_upTo_eq`), and steps and strings are told apart from them
(`TokenKind.exists_step_of_upTo_eq`, `TokenKind.exists_docString_of_upTo_eq`).
-/

namespace Gherkin

/-- How much is asked for when something is read again. -/
inductive Detail where
  /-- All that is said. -/
  | full
  /-- All but what steps and multiline strings hold. -/
  | outline
  deriving DecidableEq

namespace TokenKind

/-- What is asked of a token to be read again. -/
def upTo (d : Detail) : TokenKind → TokenKind
  | step kind literal body =>
    match d with
    | .full => step kind literal body
    | .outline => step .bullet [] []
  | docString delimiter type content =>
    match d with
    | .full => docString delimiter type content
    | .outline => docString .quotes none []
  | kind => kind

variable {d : Detail} {k : TokenKind}

@[simp] theorem upTo_full (k : TokenKind) : k.upTo .full = k := by
  cases k <;> rfl

/-- The outline keeps the token as it is. -/
def Kept : TokenKind → Prop
  | step .. | docString .. => False
  | _ => True

theorem eq_of_upTo_eq {k' : TokenKind} (h : k.upTo d = k'.upTo d) (hkept : k'.Kept) : k = k' := by
  cases d with
  | full => rwa [upTo_full, upTo_full] at h
  | outline => cases k <;> cases k' <;> first | exact h | exact hkept.elim | cases h

theorem exists_step_of_upTo_eq {kind : StepKind} {literal body : Text}
    (h : k.upTo d = (step kind literal body).upTo d) :
    ∃ kind' literal' body', k = step kind' literal' body' := by
  cases d <;> cases k <;> first | exact ⟨_, _, _, rfl⟩ | cases h

theorem exists_docString_of_upTo_eq {delimiter : Delimiter} {type : Option Text} {content : Text}
    (h : k.upTo d = (docString delimiter type content).upTo d) :
    ∃ delimiter' type' content', k = docString delimiter' type' content' := by
  cases d <;> cases k <;> first | exact ⟨_, _, _, rfl⟩ | cases h

end TokenKind

end Gherkin
