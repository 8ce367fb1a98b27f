import Gherkin.Proofs.Feature.Indentation
import Gherkin.Proofs.Feature.Relocation

/-!
# Remarks say nothing

Blank lines and comment lines may be put anywhere below the first line that is not blank, outside
multiline strings. Each line of the text then stands below all that is put above it, and what is
read there is the same at other places: the model, the warnings, and the fault with the line it
shows. Only the first line that is not blank may name the language, which is why nothing is put
above it.

Main statement: `outcome_remarked`.
-/

namespace Gherkin

open Text (byteSize lineSize splitLines total trim)

/-- A blank line or a comment line. -/
def IsRemark (raw : Text) : Prop := trim raw = [] ∨ (trim raw).head? = some '#'

instance (raw : Text) : Decidable (IsRemark raw) :=
  inferInstanceAs (Decidable (_ ∨ _))

/-- A line of a text, and the lines that are put below it. -/
structure Annotated where
  line : Text
  added : List Text
  deriving DecidableEq

namespace Annotated

def lines (l : Annotated) : List Text := l.line :: l.added

def plain (raw : Text) : Annotated := ⟨raw, []⟩

theorem map_line_plain (raws : List Text) : (raws.map plain).map (·.line) = raws := by
  rw [List.map_map]
  exact List.map_id raws

theorem flatMap_lines_plain (raws : List Text) : (raws.map plain).flatMap (·.lines) = raws := by
  rw [List.flatMap_map]
  exact List.flatMap_singleton' raws

/-- Only remarks are put below lines, and none within a multiline string. A string that is not
closed goes on to the end. -/
inductive Outside : List Annotated → Prop
  | nil : Outside []
  | line {raw : Text} {added : List Text} {ls : List Annotated}
      (hopens : Delimiter.opening? (trim raw) = none) (hadded : ∀ r ∈ added, IsRemark r)
      (hrest : Outside ls) : Outside (⟨raw, added⟩ :: ls)
  | string {d : Delimiter} {opening closing : Text} {body added : List Text} {ls : List Annotated}
      (hopens : Delimiter.opening? (trim opening) = some d) (hbody : ∀ x ∈ body, trim x ≠ d.mark)
      (hcloses : trim closing = d.mark) (hadded : ∀ r ∈ added, IsRemark r) (hrest : Outside ls) :
      Outside (plain opening :: (body.map plain ++ ⟨closing, added⟩ :: ls))
  | unterminated {d : Delimiter} {opening : Text} {body : List Text}
      (hopens : Delimiter.opening? (trim opening) = some d)
      (hbody : ∀ x ∈ body, trim x ≠ d.mark) : Outside (plain opening :: body.map plain)

end Annotated

/-- The second text is the first with remarks put below its lines, outside multiline strings and not
above the first line that is not blank. -/
structure Remarked (ls : List Annotated) (source source' : Text) : Prop where
  lines : splitLines source = ls.map (·.line)
  lines_remarked : splitLines source' = ls.flatMap (·.lines)
  outside : Annotated.Outside ls
  below_first : ∀ l ∈ ls.takeWhile (fun l ↦ trim l.line = []), l.added = []

/-! ## Where lines and bytes go -/

/-- How much is put above the line that a position stands on, where lines have the given size. -/
def addedAbove (size : Text → Nat) : List Annotated → Nat → Nat
  | [], _ => 0
  | l :: ls, p =>
    if p < size l.line then 0
    else total size l.added + addedAbove size ls (p - size l.line)

section AddedAbove

variable (size : Text → Nat) {l : Annotated} {ls : List Annotated} {p q : Nat}

theorem addedAbove_of_lt (h : p < size l.line) : addedAbove size (l :: ls) p = 0 := if_pos h

theorem addedAbove_add (p : Nat) :
    addedAbove size (l :: ls) (size l.line + p) =
      total size l.added + addedAbove size ls p := by
  rw [addedAbove, if_neg (by omega), Nat.add_sub_cancel_left]

theorem addedAbove_mono (h : p ≤ q) : addedAbove size ls p ≤ addedAbove size ls q := by
  induction ls generalizing p q with
  | nil => exact Nat.le_refl 0
  | cons l ls ih =>
    by_cases hp : p < size l.line
    · rw [addedAbove_of_lt size hp]
      exact Nat.zero_le _
    · rw [addedAbove, addedAbove, if_neg hp, if_neg (by omega)]
      exact Nat.add_le_add_left (ih (Nat.sub_le_sub_right h _)) _

end AddedAbove

/-- Lines and bytes go below all that is put above them. -/
def Movement.below (ls : List Annotated) : Movement where
  line n := n + addedAbove (fun _ ↦ 1) ls (n - 1)
  byte p := p + addedAbove lineSize ls p
  line_one := by
    cases ls with
    | nil => rfl
    | cons l ls => rw [Nat.sub_self, addedAbove_of_lt _ Nat.one_pos]
  byte_mono h := Nat.add_le_add h (addedAbove_mono lineSize h)

/-- From one position of the text and one of the other on, positions go below what is put above
them. -/
def Follows (size : Text → Nat) (f : Nat → Nat) (start start' : Nat) (ls : List Annotated) : Prop :=
  ∀ p, f (start + p) = start' + (p + addedAbove size ls p)

namespace Follows

variable {size : Text → Nat} {f : Nat → Nat} {start start' : Nat} {l : Annotated}
  {ls : List Annotated}

theorem head (h : Follows size f start start' (l :: ls)) {p : Nat} (hp : p < size l.line) :
    f (start + p) = start' + p := by
  rw [h p, addedAbove_of_lt size hp, Nat.add_zero]

theorem tail (h : Follows size f start start' (l :: ls)) :
    Follows size f (start + size l.line)
      (start' + size l.line + total size l.added) ls := by
  intro p
  rw [Nat.add_assoc start, h, addedAbove_add]
  omega

theorem plain {body : List Text} (h : Follows size f start start' (body.map .plain ++ ls)) :
    Follows size f (start + total size body) (start' + total size body) ls := by
  induction body generalizing start start' with
  | nil => exact h
  | cons x body ih =>
    have htail := ih (tail h)
    rw [total, ← Nat.add_assoc, ← Nat.add_assoc]
    exact htail

end Follows

/-- From one line and byte of the text and one of the other on, lines and bytes go below what is put
above them. -/
structure Movement.Displaces (v : Movement) (number offset number' offset' : Nat)
    (ls : List Annotated) : Prop where
  line : Follows (fun _ ↦ 1) v.line number number' ls
  byte : Follows lineSize v.byte offset offset' ls

namespace Movement.Displaces

variable {v : Movement} {number offset number' offset' : Nat} {l : Annotated} {ls : List Annotated}

theorem below (ls : List Annotated) : (Movement.below ls).Displaces 1 0 1 0 ls := by
  constructor
  · intro p
    have hline : (Movement.below ls).line (1 + p) =
        1 + p + addedAbove (fun _ ↦ 1) ls (1 + p - 1) := rfl
    rw [hline, Nat.add_sub_cancel_left, Nat.add_assoc]
  · intro p
    rw [Nat.zero_add, Nat.zero_add]
    rfl

theorem move_head (h : v.Displaces number offset number' offset' (l :: ls)) (text : Text) :
    SourceLine.move v ⟨number, offset, text⟩ = ⟨number', offset', text⟩ := by
  have hline : v.line (number + 0) = number' + 0 := h.line.head Nat.one_pos
  have hbyte : v.byte (offset + 0) = offset' + 0 := h.byte.head (Nat.succ_pos _)
  rw [SourceLine.move]
  exact congrArg₂ (SourceLine.mk · · text) hline hbyte

theorem whole_head (h : v.Displaces number offset number' offset' (l :: ls)) :
    SourceLine.Whole v ⟨number, offset, SourceLine.chomp l.line⟩ := by
  intro k hk
  have hchomp := SourceLine.byteSize_chomp_le l.line
  have hbyte : v.byte (offset + 0) = offset' + 0 := h.byte.head (Nat.succ_pos _)
  have hk : k < lineSize l.line := by
    rw [lineSize]
    exact Nat.lt_succ_of_le (Nat.le_trans hk hchomp)
  rw [h.byte.head hk]
  exact congrArg (· + k) hbyte.symm

theorem tail (h : v.Displaces number offset number' offset' (l :: ls)) :
    v.Displaces (number + 1) (offset + byteSize l.line + 1)
      (number' + 1 + l.added.length)
      (offset' + byteSize l.line + 1 + total lineSize l.added) ls := by
  refine ⟨?_, h.byte.tail⟩
  have hline := h.line.tail
  rwa [Text.total_one] at hline

theorem plain {body : List Text}
    (h : v.Displaces number offset number' offset' (body.map .plain ++ ls)) :
    v.Displaces (number + body.length) (offset + total lineSize body)
      (number' + body.length) (offset' + total lineSize body) ls := by
  refine ⟨?_, h.byte.plain⟩
  have hline := h.line.plain
  rwa [Text.total_one] at hline

/-- Lines that nothing is put between are moved to neighbouring lines. -/
theorem map_move_enumerate {body : List Text}
    (h : v.Displaces number offset number' offset' (body.map .plain ++ ls)) :
    (SourceLine.enumerate number offset body).map (·.move v) =
      SourceLine.enumerate number' offset' body := by
  induction body generalizing number offset number' offset' with
  | nil => rfl
  | cons x body ih =>
    rw [SourceLine.enumerate, SourceLine.enumerate, List.map_cons, h.move_head]
    exact congrArg _ (ih h.tail)

/-- The lines of the text are found, moved, among those with lines put between them. -/
theorem map_move_sublist (h : v.Displaces number offset number' offset' ls) :
    ((SourceLine.enumerate number offset (ls.map (·.line))).map (·.move v)).Sublist
      (SourceLine.enumerate number' offset' (ls.flatMap (·.lines))) := by
  induction ls generalizing number offset number' offset' with
  | nil => exact .slnil
  | cons l ls ih =>
    rw [List.map_cons, List.flatMap_cons, Annotated.lines, List.cons_append, SourceLine.enumerate,
      SourceLine.enumerate, SourceLine.enumerate_append, List.map_cons, h.move_head]
    exact .cons_cons _ ((ih h.tail).trans (List.sublist_append_right _ _))

/-- Nothing is put within a line. -/
theorem whole (h : v.Displaces number offset number' offset' ls) :
    ∀ l ∈ SourceLine.enumerate number offset (ls.map (·.line)), l.Whole v := by
  induction ls generalizing number offset number' offset' with
  | nil => exact fun l hl ↦ absurd hl List.not_mem_nil
  | cons l ls ih => exact List.forall_mem_cons.2 ⟨h.whole_head, ih h.tail⟩

end Movement.Displaces

/-! ## What lines say -/

/-- The chunks of lines without those that say nothing. -/
def Chunk.spoken (ls : List SourceLine) : List Chunk := (ofLines ls).filter fun c ↦ !c.isRemark

namespace Chunk

theorem spoken_line {l : SourceLine} (h : Delimiter.opening? l.content = none)
    (ls : List SourceLine) :
    spoken (l :: ls) = [ofLine l].filter (fun c ↦ !c.isRemark) ++ spoken ls := by
  rw [spoken, ofLines_line h, ← List.singleton_append, List.filter_append]
  rfl

section Strings

variable {d : Delimiter} {opening : Text} {body : List Text}
  (hopens : Delimiter.opening? (trim opening) = some d) (hbody : ∀ x ∈ body, trim x ≠ d.mark)
  (number offset : Nat)

include hopens hbody

theorem spoken_string {closing : Text} (hcloses : trim closing = d.mark) (raws : List Text) :
    spoken (SourceLine.enumerate number offset (opening :: (body ++ closing :: raws))) =
      .string d ⟨number, offset, SourceLine.chomp opening⟩
          (SourceLine.enumerate (number + 1) (offset + byteSize opening + 1) body)
          ⟨number + 1 + body.length, offset + byteSize opening + 1 + total lineSize body,
            SourceLine.chomp closing⟩ ::
        spoken (SourceLine.enumerate (number + 1 + body.length + 1)
          (offset + byteSize opening + 1 + total lineSize body + byteSize closing + 1)
          raws) := by
  rw [spoken, ofLines_enumerate_string hopens hbody number offset hcloses raws]
  rfl

theorem spoken_unterminated :
    spoken (SourceLine.enumerate number offset (opening :: body)) =
      [.unterminated d ⟨number, offset, SourceLine.chomp opening⟩
        (SourceLine.enumerate (number + 1) (offset + byteSize opening + 1) body)] := by
  rw [spoken, ofLines_enumerate_unterminated hopens hbody]
  rfl

end Strings

theorem spoken_remarks {added : List Text} (h : ∀ r ∈ added, IsRemark r) (number offset : Nat)
    (ls : List SourceLine) :
    spoken (SourceLine.enumerate number offset added ++ ls) = spoken ls := by
  induction added generalizing number offset with
  | nil => rfl
  | cons raw added ih =>
    obtain ⟨hraw, hadded⟩ := List.forall_mem_cons.1 h
    have hcontent := SourceLine.content_chomp number offset raw
    have hopens : Delimiter.opening? (trim raw) = none := by
      cases hopens : Delimiter.opening? (trim raw) with
      | none => rfl
      | some d =>
        obtain ⟨hnil, hcomment⟩ := content_of_opening? hopens
        exact absurd hraw (not_or.2 ⟨hnil, hcomment⟩)
    have hremark : (ofLine ⟨number, offset, SourceLine.chomp raw⟩).isRemark := by
      rw [ofLine, hcontent]
      rcases hraw with hnil | hcomment
      · rw [if_pos hnil]
        rfl
      · rw [if_pos hcomment]
        split <;> rfl
    rw [SourceLine.enumerate, List.cons_append, spoken, ofLines_line (hcontent ▸ hopens),
      List.filter_cons_of_neg (by rw [hremark]; decide)]
    exact ih hadded _ _

theorem filter_map_move (v : Movement) (cs : List Chunk) :
    (cs.map (·.map (·.move v))).filter (fun c ↦ !c.isRemark) =
      (cs.filter fun c ↦ !c.isRemark).map (·.map (·.move v)) := by
  have hremark : (fun c ↦ !isRemark c) ∘ (·.map (·.move v)) = fun c ↦ !isRemark c := by
    funext c
    cases c <;> rfl
  rw [List.filter_map, hremark]

theorem map_move_ofLine (v : Movement) (l : SourceLine) :
    (ofLine l).map (·.move v) = ofLine (l.move v) := by
  have hcontent : (l.move v).content = l.content := rfl
  rw [ofLine, ofLine, hcontent]
  split
  · rfl
  · split <;> rfl

end Chunk

/-- What a text with remarks says is what the text says, with its lines moved. -/
theorem Annotated.Outside.spoken_enumerate {ls : List Annotated} (h : Outside ls) {v : Movement}
    {number offset number' offset' : Nat}
    (hv : v.Displaces number offset number' offset' ls) :
    Chunk.spoken (SourceLine.enumerate number' offset' (ls.flatMap (·.lines))) =
      (Chunk.spoken (SourceLine.enumerate number offset (ls.map (·.line)))).map
        (·.map (·.move v)) := by
  induction h generalizing number offset number' offset' with
  | nil =>
    rw [List.flatMap_nil, List.map_nil, SourceLine.enumerate, SourceLine.enumerate, Chunk.spoken,
      Chunk.ofLines]
    rfl
  | @line raw added ls hopens hadded _ ih =>
    have hopens' (number offset : Nat) :
        Delimiter.opening? (SourceLine.content ⟨number, offset, SourceLine.chomp raw⟩) = none :=
      (congrArg Delimiter.opening? (SourceLine.content_chomp number offset raw)).trans hopens
    rw [List.flatMap_cons, lines, List.cons_append, SourceLine.enumerate,
      SourceLine.enumerate_append, List.map_cons, SourceLine.enumerate,
      Chunk.spoken_line (hopens' ..), Chunk.spoken_line (hopens' ..), List.map_append,
      ← Chunk.filter_map_move, List.map_singleton, Chunk.map_move_ofLine, hv.move_head,
      Chunk.spoken_remarks hadded]
    exact congrArg _ (ih hv.tail)
  | @string d opening closing body added ls hopens hbody hcloses hadded _ ih =>
    -- nothing is put within the string, so that all of it moves together
    have hwithin : v.Displaces (number + 1) (offset + byteSize opening + 1) (number' + 1)
        (offset' + byteSize opening + 1) (body.map plain ++ ⟨closing, added⟩ :: ls) := hv.tail
    have hclosing := hwithin.plain
    have hlines : (plain opening :: (body.map plain ++ ⟨closing, added⟩ :: ls)).map (·.line) =
        opening :: (body ++ closing :: ls.map (·.line)) := by
      rw [List.map_cons, List.map_append, map_line_plain]
      rfl
    have hlines' : (plain opening :: (body.map plain ++ ⟨closing, added⟩ :: ls)).flatMap (·.lines) =
        opening :: (body ++ closing :: (added ++ ls.flatMap (·.lines))) := by
      rw [List.flatMap_cons, List.flatMap_append, flatMap_lines_plain]
      rfl
    rw [hlines, hlines', Chunk.spoken_string hopens hbody number offset hcloses,
      Chunk.spoken_string hopens hbody number' offset' hcloses, SourceLine.enumerate_append,
      Chunk.spoken_remarks hadded, List.map_cons, Chunk.map, hv.move_head,
      hwithin.map_move_enumerate, hclosing.move_head]
    exact congrArg _ (ih hclosing.tail)
  | @unterminated d opening body hopens hbody =>
    have hwithin : v.Displaces (number + 1) (offset + byteSize opening + 1) (number' + 1)
        (offset' + byteSize opening + 1) (body.map plain ++ []) := by
      rw [List.append_nil]
      exact hv.tail
    have hlines : (plain opening :: body.map plain).map (·.line) = opening :: body := by
      rw [List.map_cons, map_line_plain]
      rfl
    have hlines' : (plain opening :: body.map plain).flatMap (·.lines) = opening :: body := by
      rw [List.flatMap_cons, flatMap_lines_plain]
      rfl
    rw [hlines, hlines', Chunk.spoken_unterminated hopens hbody,
      Chunk.spoken_unterminated hopens hbody, List.map_singleton, Chunk.map, hv.move_head,
      hwithin.map_move_enumerate]

/-! ## What is read -/

/-- The first line that is not blank is the same where nothing is put above it. -/
theorem Annotated.find?_trim_lines {ls : List Annotated}
    (h : ∀ l ∈ ls.takeWhile (fun l ↦ trim l.line = []), l.added = []) :
    ((ls.flatMap (·.lines)).map trim).find? (fun content ↦ content ≠ []) =
      ((ls.map (·.line)).map trim).find? fun content ↦ content ≠ [] := by
  induction ls with
  | nil => rfl
  | cons l ls ih =>
    rw [List.flatMap_cons, lines, List.cons_append, List.map_cons, List.map_cons, List.map_cons]
    by_cases hblank : trim l.line = []
    · rw [List.takeWhile_cons_of_pos (by simpa using hblank)] at h
      obtain ⟨hadded, hbelow⟩ := List.forall_mem_cons.1 h
      rw [List.find?_cons_of_neg (by simpa using hblank),
        List.find?_cons_of_neg (by simpa using hblank), hadded]
      exact ih hbelow
    · rw [List.find?_cons_of_pos (by simpa using hblank),
        List.find?_cons_of_pos (by simpa using hblank)]

namespace Remarked

variable {ls : List Annotated} {source source' : Text} (h : Remarked ls source source')

include h

/-- Nothing is put above the line that may name the language. -/
theorem declaredLanguage?_eq : declaredLanguage? source' = declaredLanguage? source := by
  rw [declaredLanguage?, declaredLanguage?, SourceLine.ofText, SourceLine.ofText,
    SourceLine.map_content_enumerate, SourceLine.map_content_enumerate, h.lines, h.lines_remarked,
    Annotated.find?_trim_lines h.below_first]

theorem map_move_sublist :
    ((SourceLine.ofText source).map (·.move (.below ls))).Sublist (SourceLine.ofText source') := by
  rw [SourceLine.ofText, SourceLine.ofText, h.lines, h.lines_remarked]
  exact (Movement.Displaces.below ls).map_move_sublist

/-- The text with remarks is the text relocated. -/
theorem relocates (path : Option Text) :
    Relocates ((Movement.below ls).relocation source') path source source' := by
  refine ⟨h.declaredLanguage?_eq, fun language ↦ ?_, rfl⟩
  have hdisplaces := Movement.Displaces.below ls
  have hspoken := h.outside.spoken_enumerate hdisplaces
  rw [← h.lines, ← h.lines_remarked] at hspoken
  have hwhole : ∀ c ∈ Chunk.spoken (SourceLine.ofText source), ∀ l ∈ c.lines,
      l.Whole (Movement.below ls) := by
    intro c hc l hl
    have hmem : l ∈ (Chunk.ofLines (SourceLine.ofText source)).flatMap Chunk.lines :=
      List.mem_flatMap.2 ⟨c, List.mem_of_mem_filter hc, hl⟩
    rw [Chunk.flatMap_lines_ofLines, SourceLine.ofText, h.lines] at hmem
    exact hdisplaces.whole l hmem
  calc
    Lexed.ofText language path source' =
        Lexed.ofChunks language path (Chunk.spoken (SourceLine.ofText source')) :=
      (Lexed.ofChunks_filter language path _).symm
    _ = Lexed.ofChunks language path ((Chunk.spoken (SourceLine.ofText source)).map
        (·.map (·.move (.below ls)))) := congrArg _ hspoken
    _ = mapBoth _ _ (Lexed.ofChunks language path (Chunk.spoken (SourceLine.ofText source))) :=
      Lexed.relocate_ofChunks source' hwhole
    _ = _ := congrArg _ (Lexed.ofChunks_filter language path _)

end Remarked

/-- With remarks put below its lines a text gives the same structure, feature and steps at the
places below all that is put above them, or fails with the same fault. A fault at the end shows no
line, and stays at the end. -/
theorem outcome_remarked {ls : List Annotated} {text text' : Text}
    (h : Remarked ls (dropByteOrderMark text) (dropByteOrderMark text')) (options : ParseOptions) :
    let m := (Movement.below ls).relocation (dropByteOrderMark text')
    let eof := endOfText options.path (dropByteOrderMark text')
    (∀ start, parse start options text' =
      mapBoth (·.moved m eof) (·.relocate m) (parse start options text)) ∧
    parseFeature options text' =
      mapBoth (·.moved m eof) (·.relocate m) (parseFeature options text) ∧
    parseSteps options text' =
      mapBoth (·.moved m eof) (List.map (·.relocate m)) (parseSteps options text) := by
  have hmoved := h.relocates options.path
  exact ⟨parse_moved hmoved, parseFeature_moved hmoved, parseSteps_moved hmoved⟩

/-- A feature with a table, and a string with a line that is not indented like it. -/
def plainText : Text :=
  "Feature: f\nScenario: s\nGiven x\n|a|\n|b|\nAnd y\n  \"\"\"\nz\n  \"\"\"".toList

/-- The same feature with blank lines and comments. -/
def remarkedText : Text :=
  ("Feature: f\n\n# about f\nScenario: s\nGiven x\n# rows\n|a|\n \n  # more\n|b|\nAnd y\n\n" ++
    "  \"\"\"\nz\n  \"\"\"\n# end").toList

/-- The lines of `plainText`, with what `remarkedText` has below them. -/
def remarksOfText : List Annotated :=
  [⟨"Feature: f".toList, [[], "# about f".toList]⟩, .plain "Scenario: s".toList,
    ⟨"Given x".toList, ["# rows".toList]⟩, ⟨"|a|".toList, [" ".toList, "  # more".toList]⟩,
    .plain "|b|".toList, ⟨"And y".toList, [[]]⟩, .plain "  \"\"\"".toList, .plain "z".toList,
    ⟨"  \"\"\"".toList, ["# end".toList]⟩]

theorem remarked_remarkedText :
    Remarked remarksOfText (dropByteOrderMark plainText) (dropByteOrderMark remarkedText) where
  lines := by decide +kernel
  lines_remarked := by decide +kernel
  below_first := by decide +kernel
  outside := by
    have hstring : Annotated.Outside (.plain "  \"\"\"".toList :: (["z".toList].map .plain ++
        ⟨"  \"\"\"".toList, ["# end".toList]⟩ :: [])) :=
      .string (d := .quotes) (by decide +kernel) (by decide +kernel) (by decide +kernel)
        (by decide +kernel) .nil
    refine .line (by decide +kernel) (by decide +kernel) ?_
    refine .line (by decide +kernel) (by decide +kernel) ?_
    refine .line (by decide +kernel) (by decide +kernel) ?_
    refine .line (by decide +kernel) (by decide +kernel) ?_
    refine .line (by decide +kernel) (by decide +kernel) ?_
    exact .line (by decide +kernel) (by decide +kernel) hstring

theorem outcome_remarked_remarkedText :
    Remarked remarksOfText (dropByteOrderMark plainText) (dropByteOrderMark remarkedText) ∧
      ∃ f, parseFeature {} plainText = .ok f ∧ f.warnings.map (·.location.line) = [8] ∧
        (Movement.below remarksOfText).line 8 = 14 ∧
        parseFeature {} remarkedText = .ok (f.relocate
          ((Movement.below remarksOfText).relocation (dropByteOrderMark remarkedText))) := by
  have hread : (parseFeature {} plainText).toOption.map (·.warnings.map (·.location.line)) =
      some [8] := by
    simp only [parseFeature, parse]
    rw [code_of_undeclared (by decide +kernel), Language.find?_defaultCode]
    decide +kernel
  obtain ⟨f, hf, hwarnings⟩ := toOption_map_eq_some_iff.1 hread
  obtain ⟨-, hfeature, -⟩ := outcome_remarked remarked_remarkedText {}
  exact ⟨remarked_remarkedText, f, hf, hwarnings, by decide +kernel, by rw [hfeature, hf]; rfl⟩

end Gherkin
