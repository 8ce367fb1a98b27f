import Gherkin.Proofs.Text.Offsets
import Gherkin.Proofs.Token.Proper
import Gherkin.Proofs.Tree.Refusal

/-!
# Lines that are refused or warned about

The lexer refuses a document at a line that says nothing it knows or that opens a string without an
end, and its tokens stand where their first lines do. It warns about the lines of multiline strings
that are indented less than the opening line. Which lines stand in a string is found by going
through the lines one by one.

Main statements: `Lexed.endsIn_ofText`, `Lexed.warnings_of_ofText` and
`pairwise_line_shallowLines`.
-/

namespace Gherkin

/-- The lines in multiline strings, each behind the line that opens its string. The first argument
is the string in which the lines begin, if they begin in one. -/
def stringLines : Option (Delimiter × SourceLine) → List SourceLine →
    List (SourceLine × SourceLine)
  | _, [] => []
  | none, l :: ls => stringLines ((Delimiter.opening? l.content).map fun d ↦ (d, l)) ls
  | some (d, opening), l :: ls =>
    if d.closes l then stringLines none ls
    else (opening, l) :: stringLines (some (d, opening)) ls

/-- What is warned about: lines in strings that hold something and are indented less than the line
that opens the string, each with its place and what is left of it without its indentation. -/
def shallowLines (path : Option Text) (ls : List SourceLine) : List Warning :=
  ((stringLines none ls).filter fun (opening, l) ↦
    !Text.isBlank l.text && decide (l.indent < opening.indent)).map fun (_, l) ↦
      ⟨l.location path, Text.trimStart l.text⟩

/-- A string goes on up to the line that closes it. -/
theorem stringLines_some (d : Delimiter) (opening : SourceLine) (ls : List SourceLine) :
    stringLines (some (d, opening)) ls =
      (ls.takeWhile fun x ↦ !d.closes x).map (opening, ·) ++
        stringLines none (ls.dropWhile fun x ↦ !d.closes x).tail := by
  induction ls with
  | nil => rfl
  | cons l ls ih =>
    rw [stringLines, List.takeWhile_cons, List.dropWhile_cons]
    cases d.closes l with
    | true => rfl
    | false => simp [ih]

/-- Outside strings a line counts only if it opens one. -/
theorem stringLines_none_sublist (ls : List SourceLine) (start : Option (Delimiter × SourceLine)) :
    ((stringLines start ls).map (·.2)).Sublist ls := by
  induction ls generalizing start with
  | nil => simp [stringLines]
  | cons l ls ih =>
    cases start with
    | none => exact (ih _).cons l
    | some string =>
      rw [stringLines]
      split
      · exact (ih none).cons l
      · exact (ih (some string)).cons_cons l

/-- Warnings are given once for each line and in order. -/
theorem pairwise_line_shallowLines (path : Option Text) (source : Text) :
    ((shallowLines path (SourceLine.ofText source)).map (·.location.line)).Pairwise (· < ·) := by
  have hlines : ((SourceLine.ofText source).map (·.number)).Pairwise (· < ·) :=
    List.pairwise_map.2 ((SourceLine.pairwise_ofText source).imp fun h ↦ h.1)
  have hsub := (stringLines_none_sublist (SourceLine.ofText source) none).map (·.number)
  have hfilter : ((shallowLines path (SourceLine.ofText source)).map (·.location.line)).Sublist
      (((stringLines none (SourceLine.ofText source)).map (·.2)).map (·.number)) := by
    rw [shallowLines, List.map_map, List.map_map]
    exact List.filter_sublist.map _
  exact hlines.sublist (hfilter.trans hsub)

section Chunks

variable {language : Language} {path : Option Text}

def Chunk.stringLines : Chunk → List (SourceLine × SourceLine)
  | string _ opening body _ | unterminated _ opening body => body.map (opening, ·)
  | _ => []

theorem Chunk.flatMap_stringLines_ofLines (ls : List SourceLine) :
    (ofLines ls).flatMap stringLines = Gherkin.stringLines none ls := by
  fun_induction ofLines ls with
  | case1 => rfl
  | case2 l ls hnil ih =>
    rw [List.flatMap_cons, ih, Gherkin.stringLines, hnil]
    rfl
  | case3 l ls hnil hcomment ih =>
    have hopening : Delimiter.opening? l.content = none := by
      cases hopens : Delimiter.opening? l.content with
      | none => rfl
      | some d => exact absurd hcomment (content_of_opening? hopens).2
    rw [List.flatMap_cons, ih, Gherkin.stringLines, hopening]
    rfl
  | case4 l ls _ _ hopening ih =>
    rw [List.flatMap_cons, ih, Gherkin.stringLines, hopening]
    rfl
  | case5 l ls _ _ d hopening body hrest =>
    rw [Gherkin.stringLines, hopening, Option.map_some, stringLines_some, hrest]
    simp [stringLines, Gherkin.stringLines, body]
  | case6 l ls _ _ d hopening body closing rest hrest ih =>
    rw [List.flatMap_cons, ih, Gherkin.stringLines, hopening, Option.map_some, stringLines_some,
      hrest]
    rfl

theorem Lexed.warnings_of_ofChunk {c : Chunk} {lexed : Lexed}
    (h : ofChunk language path c = .ok lexed) :
    lexed.warnings = (c.stringLines.filter fun (opening, l) ↦
      !Text.isBlank l.text && decide (l.indent < opening.indent)).map fun (_, l) ↦
        ⟨l.location path, Text.trimStart l.text⟩ := by
  cases c with
  | blank l => cases h; rfl
  | comment l => cases h; rfl
  | single l =>
    rw [ofChunk] at h
    cases hclassify : Token.classify language l.content with
    | error e => rw [hclassify] at h; cases h
    | ok kind => rw [hclassify] at h; cases h; rfl
  | unterminated d opening body => cases h
  | string d opening body closing =>
    cases h
    rw [Chunk.stringLines, List.filter_map, List.map_map]
    rfl

theorem Lexed.warnings_of_ofChunks {cs : List Chunk} {lexed : Lexed}
    (h : ofChunks language path cs = .ok lexed) :
    lexed.warnings = ((cs.flatMap Chunk.stringLines).filter fun (opening, l) ↦
      !Text.isBlank l.text && decide (l.indent < opening.indent)).map fun (_, l) ↦
        ⟨l.location path, Text.trimStart l.text⟩ := by
  induction cs generalizing lexed with
  | nil => cases h; rfl
  | cons c cs ih =>
    obtain ⟨first, hfirst, h⟩ := bind_eq_ok_iff.1 h
    obtain ⟨rest, hrest, h⟩ := bind_eq_ok_iff.1 h
    cases h
    rw [List.flatMap_cons, List.filter_append, List.map_append, ← ih hrest,
      ← warnings_of_ofChunk hfirst]

/-- A text that is read is warned about for its shallow lines. -/
theorem Lexed.warnings_of_ofText {source : Text} {lexed : Lexed}
    (h : ofText language path source = .ok lexed) :
    lexed.warnings = shallowLines path (SourceLine.ofText source) := by
  rw [warnings_of_ofChunks h, Chunk.flatMap_stringLines_ofLines, shallowLines]

variable {P : Location → Text → Prop}

/-- The line at which a chunk says something. -/
def Chunk.speaker? : Chunk → Option SourceLine
  | single l => some l
  | string _ opening _ _ | unterminated _ opening _ => some opening
  | _ => none

theorem Chunk.of_mem_speaker? {ls : List SourceLine} {c : Chunk} (hc : c ∈ ofLines ls)
    {l : SourceLine} (hl : l ∈ c.speaker?) : l ∈ ls ∧ l.content ≠ [] := by
  have hlines : ∀ x ∈ c.lines, x ∈ ls := by
    intro x hx
    rw [← flatMap_lines_ofLines ls]
    exact List.mem_flatMap.2 ⟨c, hc, hx⟩
  have hsorted := sorted_of_mem_ofLines hc
  cases c with
  | blank | comment => cases hl
  | single line =>
    cases hl
    exact ⟨hlines l List.mem_cons_self, hsorted.ne_nil⟩
  | string d opening body closing =>
    cases hl
    exact ⟨hlines l List.mem_cons_self, (content_of_opening? hsorted.1).1⟩
  | unterminated d opening body =>
    cases hl
    exact ⟨hlines l List.mem_cons_self, (content_of_opening? hsorted.1).1⟩

theorem endsIn_readTags (words : List Text) :
    EndsIn (¬·.IsRuledOut) (fun _ ↦ True) (readTags words) := by
  fun_induction readTags words with
  | case1 | case2 => trivial
  | case3 c name rest ih => exact ih.map fun _ _ ↦ trivial
  | case4 => exact not_false

/-- A line is refused for an open row or for a word that is no tag. -/
theorem Token.endsIn_classify (language : Language) (content : Text) :
    EndsIn (¬·.IsRuledOut) (fun _ ↦ True) (classify language content) := by
  unfold classify
  split
  · split
    · trivial
    · exact not_false
  · exact (endsIn_readTags _).map fun _ _ ↦ trivial
  · split
    · trivial
    · split <;> trivial

theorem Lexed.endsIn_ofChunk {c : Chunk} (hc : ∀ l ∈ c.speaker?, P (l.location path) l.text) :
    EndsIn (·.At P) (fun lexed : Lexed ↦ ∀ t ∈ lexed.tokens, t.At P) (ofChunk language path c) := by
  cases c with
  | blank l => exact List.forall_mem_nil _
  | comment l => exact List.forall_mem_nil _
  | single l =>
    have hl : P (l.location path) l.text := hc l rfl
    rw [ofChunk]
    have hsays := Token.endsIn_classify language l.content
    cases hread : Token.classify language l.content with
    | error fault =>
      rw [hread] at hsays
      exact ⟨hl, hsays⟩
    | ok kind => exact List.forall_mem_singleton.2 hl
  | string d opening body closing => exact List.forall_mem_singleton.2 (hc opening rfl)
  | unterminated d opening body => exact ⟨hc opening rfl, not_false⟩

theorem Lexed.endsIn_ofChunks {cs : List Chunk}
    (hcs : ∀ c ∈ cs, ∀ l ∈ c.speaker?, P (l.location path) l.text) :
    EndsIn (·.At P) (fun lexed : Lexed ↦ ∀ t ∈ lexed.tokens, t.At P)
      (ofChunks language path cs) := by
  induction cs with
  | nil => exact List.forall_mem_nil _
  | cons c cs ih =>
    obtain ⟨hc, hrest⟩ := List.forall_mem_cons.1 hcs
    refine (endsIn_ofChunk hc).bind fun first hfirst ↦ ?_
    refine (ih hrest).bind fun rest hrest ↦ ?_
    exact List.forall_mem_append.2 ⟨hfirst, hrest⟩

/-- A text is refused at one of its lines that are not blank, and its tokens stand at such lines. -/
theorem Lexed.endsIn_ofText {source : Text}
    (hlines : ∀ l ∈ SourceLine.ofText source, l.content ≠ [] → P (l.location path) l.text) :
    EndsIn (·.At P) (fun lexed : Lexed ↦ ∀ t ∈ lexed.tokens, t.At P)
      (ofText language path source) :=
  endsIn_ofChunks fun _ hc l hl ↦
    have ⟨hmem, hne⟩ := Chunk.of_mem_speaker? hc hl
    hlines l hmem hne

end Chunks

end Gherkin
