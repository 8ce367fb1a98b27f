import Gherkin.Proofs.Feature.Blur
import Gherkin.Proofs.Feature.Built
import Gherkin.Proofs.Token.Shift

/-!
# Line feeds with carriage returns in front

Where a text holds no carriage return, one in front of every line feed leaves the lines as they are,
each as many bytes further on as there are lines above it. What is read is then the same but for its
byte spans and the source it was read from, and what is refused is refused alike in all.

Main statement: `outcome_withReturns`.
-/

namespace Gherkin

open Text (OneLine)

/-- A text with a carriage return in front of each line feed. -/
def withReturns (text : Text) : Text := text.flatMap fun c ↦ if c = '\n' then ['\r', '\n'] else [c]

/-- Locations and kept lines are seen in full; byte spans and the source are not seen. -/
def Blur.spans : Blur := ⟨id, id, fun _ ↦ rfl, rfl⟩

section Returns

variable {text : Text}

theorem withReturns_cons_of_ne {c : Char} (h : c ≠ '\n') (t : Text) :
    withReturns (c :: t) = c :: withReturns t := by
  rw [withReturns, List.flatMap_cons, if_neg h]
  rfl

theorem withReturns_of_oneLine (h : OneLine text) : withReturns text = text := by
  induction text with
  | nil => rfl
  | cons c t ih =>
    obtain ⟨hc, ht⟩ := List.forall_mem_cons.1 h
    rw [withReturns_cons_of_ne hc, ih ht]

/-- A line gets its carriage return behind all that it holds. -/
theorem withReturns_line {x : Text} (h : OneLine x) (t : Text) :
    withReturns (x ++ '\n' :: t) = (x ++ ['\r']) ++ '\n' :: withReturns t := by
  have happend : withReturns (x ++ '\n' :: t) = withReturns x ++ withReturns ('\n' :: t) :=
    List.flatMap_append
  rw [happend, withReturns_of_oneLine h, List.append_assoc]
  rfl

/-- A byte order mark stands in front of the same text. -/
theorem dropByteOrderMark_withReturns (text : Text) :
    dropByteOrderMark (withReturns text) = withReturns (dropByteOrderMark text) := by
  cases text with
  | nil => rfl
  | cons c t =>
    by_cases hfeed : c = '\n'
    · subst hfeed
      rfl
    by_cases hmark : c = '\ufeff'
    · subst hmark
      rfl
    · rw [withReturns_cons_of_ne hfeed, dropByteOrderMark_of_ne hmark,
        dropByteOrderMark_of_ne hmark, withReturns_cons_of_ne hfeed]

end Returns

namespace SourceLine

/-- A line apart from the byte at which it starts. -/
def anywhere (l : SourceLine) : SourceLine := { l with offset := 0 }

@[simp] theorem content_anywhere (l : SourceLine) : l.anywhere.content = l.content := rfl

theorem map_anywhere_map_shift (d : Shift) (ls : List SourceLine) :
    (ls.map (·.shift d)).map (·.anywhere) =
      (ls.map (·.anywhere)).map (·.shift ⟨d.lines, 0⟩) := by
  rw [List.map_map, List.map_map]
  rfl

theorem chomp_append_return (x : Text) : chomp (x ++ ['\r']) = x := by
  rw [chomp, List.getLast?_concat, if_pos rfl, List.dropLast_concat]

/-- Carriage returns in front of line feeds change neither the number nor the text of a line. -/
theorem map_anywhere_ofText_withReturns {text : Text} (h : '\r' ∉ text) :
    (ofText (withReturns text)).map (·.anywhere) = (ofText text).map (·.anywhere) := by
  induction hlength : text.length using Nat.strongRecOn generalizing text with
  | _ n ih =>
    by_cases hfeed : '\n' ∈ text
    · obtain ⟨x, t, rfl, hx⟩ := List.eq_append_cons_of_mem hfeed
      have hone : OneLine x := fun c hc heq ↦ hx (heq ▸ hc)
      have hone' : OneLine (x ++ ['\r']) := hone.append (by decide)
      have hx' : '\r' ∉ x := fun hc ↦ h (List.mem_append_left _ hc)
      have ht' : '\r' ∉ t := fun hc ↦ h (List.mem_append_right _ (List.mem_cons_of_mem _ hc))
      have hlt : t.length < n := by
        rw [← hlength, List.length_append, List.length_cons]
        omega
      rw [withReturns_line hone, ofText_cons hone', ofText_cons hone, List.map_cons, List.map_cons,
        map_anywhere_map_shift, map_anywhere_map_shift, ih t.length hlt ht' rfl,
        chomp_append_return, chomp_of_not_mem hx']
    · rw [withReturns_of_oneLine fun c hc heq ↦ hfeed (heq ▸ hc)]

end SourceLine

/-- A line looks alike wherever it starts. -/
theorem Chunk.alike_anywhere (path : Option Text) (c : Chunk) :
    c.Alike .spans path (c.map (·.anywhere)) := by
  have hline (l : SourceLine) : l.Alike .spans path l.anywhere := ⟨rfl, rfl, rfl⟩
  cases c with
  | blank l => exact .blank l l.anywhere
  | comment l => exact .comment l l.anywhere
  | single l => exact .single (hline l)
  | string d opening body closing =>
    refine .string d (hline opening) (List.forall₂_map_right_iff.2 (List.forall₂_same.2 ?_))
    exact fun l _ ↦ ⟨rfl, rfl, rfl, rfl⟩
  | unterminated d opening body => exact .unterminated d (hline opening)

/-- Lines say the same wherever they start. -/
theorem Lexed.blur_ofChunks_anywhere (language : Language) (path : Option Text)
    (ls : List SourceLine) :
    mapBoth (·.blur .spans) (·.blur .spans) (ofChunks language path (Chunk.ofLines ls)) =
      mapBoth (·.blur .spans) (·.blur .spans)
        (ofChunks language path (Chunk.ofLines (ls.map (·.anywhere)))) := by
  rw [Chunk.ofLines_map SourceLine.content_anywhere]
  refine blur_ofChunks_of_alike (List.forall₂_map_right_iff.2 (List.forall₂_same.2 ?_))
  exact fun c _ ↦ c.alike_anywhere path

theorem looksAlike_withReturns {source : Text} (h : '\r' ∉ source) (path : Option Text) :
    LooksAlike .spans path (withReturns source) source := by
  have hlines := SourceLine.map_anywhere_ofText_withReturns h
  refine ⟨?_, fun language ↦ ?_, ?_⟩
  · have hcontents (ls : List SourceLine) :
        ls.map (·.content) = (ls.map (·.anywhere)).map (·.content) := by
      rw [List.map_map]
      rfl
    rw [declaredLanguage?, declaredLanguage?, hcontents, hlines, ← hcontents]
  · rw [Lexed.ofText, Lexed.ofText, Lexed.blur_ofChunks_anywhere, hlines,
      ← Lexed.blur_ofChunks_anywhere]
  · have hlength := congrArg List.length hlines
    rw [List.length_map, List.length_map] at hlength
    rw [endOfText, endOfText, hlength]

/-- Failures have no spans. -/
theorem mapBoth_blur_spans {α β : Type} (g : α → β) (r : Except ParseError α) :
    mapBoth (·.blur .spans) g r = r.map g := by
  cases r with
  | ok a => rfl
  | error e => cases e <;> rfl

/-- With a carriage return in front of each line feed, a text that holds none gives the same
structure, feature and steps but for spans and source, or fails alike. -/
theorem outcome_withReturns {text : Text} (h : '\r' ∉ text) (options : ParseOptions) :
    (∀ start, (parse start options (withReturns text)).map (·.blur .spans) =
      (parse start options text).map (·.blur .spans)) ∧
    (parseFeature options (withReturns text)).map (·.blur .spans) =
      (parseFeature options text).map (·.blur .spans) ∧
    (parseSteps options (withReturns text)).map (List.map (·.blur .spans)) =
      (parseSteps options text).map (List.map (·.blur .spans)) := by
  have halike : LooksAlike .spans options.path (dropByteOrderMark (withReturns text))
      (dropByteOrderMark text) := by
    rw [dropByteOrderMark_withReturns]
    refine looksAlike_withReturns (fun hc ↦ h ?_) options.path
    cases text with
    | nil => exact hc
    | cons c t =>
      by_cases hmark : c = '\ufeff'
      · subst hmark
        exact List.mem_cons_of_mem _ hc
      · rwa [dropByteOrderMark_of_ne hmark] at hc
  refine ⟨fun start ↦ ?_, ?_, ?_⟩
  · simpa only [mapBoth_blur_spans] using parse_blur_eq halike start
  · simpa only [mapBoth_blur_spans] using parseFeature_blur_eq halike
  · simpa only [mapBoth_blur_spans] using parseSteps_blur_eq halike

/-- A feature with a multiline string and a line in it that is worth a warning. -/
def quotingText : Text :=
  "Feature: f\n\nScenario: s\n Given x\n  \"\"\"\n y\n\n   z\n  \"\"\"\n".toList

theorem outcome_withReturns_quotingText :
    '\r' ∉ quotingText ∧ ∃ f, parseFeature {} quotingText = .ok f ∧
      f.warnings.map (·.location.line) = [6] ∧
      (parseFeature {} (withReturns quotingText)).map (·.blur .spans) = .ok (f.blur .spans) := by
  have hreturn : '\r' ∉ quotingText := by decide +kernel
  have hread : (parseFeature {} quotingText).toOption.map (·.warnings.map (·.location.line)) =
      some [6] := by
    simp only [parseFeature, parse]
    rw [code_of_undeclared (by decide +kernel), Language.find?_defaultCode]
    decide +kernel
  obtain ⟨f, hf, hwarnings⟩ := toOption_map_eq_some_iff.1 hread
  obtain ⟨-, hfeature, -⟩ := outcome_withReturns hreturn {}
  exact ⟨hreturn, f, hf, hwarnings, by rw [hfeature, hf]; rfl⟩

end Gherkin
