import Gherkin.Proofs.Feature.Relocation
import Gherkin.Proofs.Tree.Blur

/-!
# Features seen through a blur

A tree seen through a blur gives the feature seen through it, or is refused alike, as nothing hangs
on places. Texts whose lines say the same through a blur are therefore read alike as a whole.

Main statements: `parse_blur_eq`, `parseFeature_blur_eq` and `parseSteps_blur_eq`.
-/

namespace Gherkin

variable (b : Blur)

def Table.blur (t : Table) : Table :=
  { t with location := b.location t.location, span := .nothing }

def DocString.blur (d : DocString) : DocString :=
  { d with location := b.location d.location, span := .nothing }

def Step.blur (s : Step) : Step :=
  { s with
    table := s.table.map (·.blur b), docString := s.docString.map (·.blur b)
    location := b.location s.location, span := .nothing }

def Description.blur (d : Description) : Description :=
  { d with location := b.location d.location, span := .nothing }

def Background.blur (g : Background) : Background :=
  { g with
    description := g.description.map (·.blur b), steps := g.steps.map (·.blur b)
    location := b.location g.location, span := .nothing }

def Examples.blur (e : Examples) : Examples :=
  { e with
    description := e.description.map (·.blur b), table := e.table.blur b
    location := b.location e.location, span := .nothing }

def Scenario.blur (s : Scenario) : Scenario :=
  { s with
    description := s.description.map (·.blur b), steps := s.steps.map (·.blur b)
    examples := s.examples.map (·.blur b), location := b.location s.location, span := .nothing }

/-- Of the source nothing is seen. -/
def Feature.blur (f : Feature) : Feature :=
  { f with
    description := f.description.map (·.blur b), background := f.background.map (·.blur b)
    scenarios := f.scenarios.map (·.blur b), source := [], warnings := f.warnings.map (·.blur b)
    location := b.location f.location, span := .nothing }

def ParsedText.blur (p : ParsedText) : ParsedText :=
  { p with tree := p.tree.blur b, source := [], warnings := p.warnings.map (·.blur b) }

/-- A tree seen through a blur gives the feature seen through it. -/
theorem ParsedText.toFeature_blur (p : ParsedText) :
    (p.blur b).toFeature = mapBoth (·.blur b) (·.blur b) p.toFeature :=
  p.toFeature_relocate b.relocation

theorem ParsedText.toSteps_blur (p : ParsedText) :
    (p.blur b).toSteps = mapBoth (·.blur b) (List.map (·.blur b)) p.toSteps :=
  p.toSteps_relocate b.relocation

/-- Two texts look alike through a blur if they name the same language, end alike, and their lines
say the same in every language. -/
structure LooksAlike (path : Option Text) (source source' : Text) : Prop where
  language : declaredLanguage? source = declaredLanguage? source'
  lines : ∀ language, mapBoth (·.blur b) (·.blur b) (Lexed.ofText language path source) =
    mapBoth (·.blur b) (·.blur b) (Lexed.ofText language path source')
  stop : b.location (endOfText path source) = b.location (endOfText path source')

/-- A refusal is reported as it is seen. -/
theorem mapBoth_mapError {α β : Type} (g : α → β) (r : Except SyntaxError α) :
    mapBoth (ParseError.blur b) g (r.mapError .refused) =
      (mapBoth (SyntaxError.blur b) g r).mapError .refused := by
  cases r <;> rfl

section Alike

variable {b} {options : ParseOptions} {text text' : Text}
  (h : LooksAlike b options.path (dropByteOrderMark text) (dropByteOrderMark text'))

include h

/-- Of texts that look alike the same structure is seen, or the same failure. -/
theorem parse_blur_eq (start : DocumentKind) :
    mapBoth (·.blur b) (·.blur b) (parse start options text) =
      mapBoth (·.blur b) (·.blur b) (parse start options text') := by
  rw [parse, parse]
  dsimp only
  rw [h.language]
  split
  · rfl
  · next language _ =>
    refine mapBoth_bind_congr (f := ParseError.blur b) (g := Lexed.blur b) ?_
      fun lexed lexed' hlexed ↦ ?_
    · rw [mapBoth_mapError, mapBoth_mapError, h.lines language]
    · simp only [Lexed.blur, Lexed.mk.injEq] at hlexed
      obtain ⟨htokens, hwarnings⟩ := hlexed
      refine mapBoth_bind_congr (f := ParseError.blur b) (g := Tree.blur b) ?_
        fun tree tree' htree ↦ ?_
      · rw [mapBoth_mapError, mapBoth_mapError, ← Tree.blur_ofTokens, ← Tree.blur_ofTokens,
          h.stop, htokens]
      · simp only [pure, Except.pure, mapBoth_ok, ParsedText.blur, htree, hwarnings]

/-- Of texts that look alike the same feature is seen, or the same failure. -/
theorem parseFeature_blur_eq :
    mapBoth (·.blur b) (·.blur b) (parseFeature options text) =
      mapBoth (·.blur b) (·.blur b) (parseFeature options text') := by
  refine mapBoth_bind_congr (parse_blur_eq h .feature) fun p p' hp ↦ ?_
  rw [mapBoth_mapError, mapBoth_mapError, ← ParsedText.toFeature_blur, ← ParsedText.toFeature_blur,
    hp]

/-- Of texts that look alike the same steps are seen, or the same failure. -/
theorem parseSteps_blur_eq :
    mapBoth (·.blur b) (List.map (·.blur b)) (parseSteps options text) =
      mapBoth (·.blur b) (List.map (·.blur b)) (parseSteps options text') := by
  refine mapBoth_bind_congr (parse_blur_eq h .steps) fun p p' hp ↦ ?_
  rw [mapBoth_mapError, mapBoth_mapError, ← ParsedText.toSteps_blur, ← ParsedText.toSteps_blur, hp]

end Alike

end Gherkin
