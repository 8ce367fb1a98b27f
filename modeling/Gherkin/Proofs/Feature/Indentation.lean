import Gherkin.Proofs.Feature.Blur
import Gherkin.Proofs.Feature.Built

/-!
# Indentation carries no meaning

Outside multiline strings a line says what stands between the white space at its ends, and within
one it says what is left of it when the indentation of the opening line is taken off. So lines may
be indented and filled up at will outside strings, and a string may be moved to the right as a
whole: what is read, refused and warned about stays the same, apart from columns, spans and kept
lines. Only a byte order mark must not come to stand at the front of the text, as it would be taken
off there.

Main statement: `outcome_reindented`.
-/

namespace Gherkin

open Text (isBlank leading trim trimStart)

/-- Columns and kept lines are not seen, nor are byte spans and the source. -/
def Blur.columns : Blur := ⟨fun l ↦ { l with column := 1 }, fun _ ↦ [], fun _ ↦ rfl, rfl⟩

/-- The second text has the lines of the first with other white space at their ends, where they
stand outside multiline strings, and with a common white space in front of the lines of each
multiline string. A string that is not closed goes on to the end. -/
inductive Reindented : List Text → List Text → Prop
  | nil : Reindented [] []
  | line {x y : Text} {xs ys : List Text} (hopens : Delimiter.opening? (trim x) = none)
      (hends : trim y = trim x) (hrest : Reindented xs ys) : Reindented (x :: xs) (y :: ys)
  | string {d : Delimiter} {front opening closing : Text} {body xs ys : List Text}
      (hfront : isBlank front) (hopens : Delimiter.opening? (trim opening) = some d)
      (hbody : ∀ x ∈ body, trim x ≠ d.mark) (hcloses : trim closing = d.mark)
      (hrest : Reindented xs ys) :
      Reindented (opening :: (body ++ closing :: xs))
        ((front ++ opening) :: (body.map (front ++ ·) ++ (front ++ closing) :: ys))
  | unterminated {d : Delimiter} {front opening : Text} {body : List Text}
      (hfront : isBlank front) (hopens : Delimiter.opening? (trim opening) = some d)
      (hbody : ∀ x ∈ body, trim x ≠ d.mark) :
      Reindented (opening :: body) ((front ++ opening) :: body.map (front ++ ·))

section Front

variable {front : Text} (hfront : isBlank front)

include hfront

theorem trim_front (t : Text) : trim (front ++ t) = trim t := by
  rw [trim, Text.trimStart_append hfront, trim]

theorem leading_front (t : Text) : leading (front ++ t) = front ++ leading t :=
  List.takeWhile_append_of_pos (List.all_eq_true.1 hfront)

/-- Moved to the right together with its opening line, a content line is as shallow as before. -/
theorem isShallow_front (indent : Nat) {t : Text} (ht : ¬isBlank t) :
    DocString.isShallow (front.length + indent) (front ++ t) = DocString.isShallow indent t := by
  have hblank : isBlank (front ++ t) = isBlank t := by
    rw [Bool.eq_false_iff.2 ht, Bool.eq_false_iff]
    exact fun h ↦ ht (Text.isBlank_append.1 h).2
  rw [DocString.isShallow, DocString.isShallow, hblank, leading_front hfront, List.length_append]
  congr 2
  rw [Nat.add_lt_add_iff_left]

/-- Moved to the right together with its opening line, a content line leaves the same. -/
theorem dedent_front (indent : Nat) {t : Text} (ht : ¬isBlank t) :
    DocString.dedent (front.length + indent) (front ++ t) = DocString.dedent indent t := by
  have hblank : ¬isBlank (front ++ t) := fun h ↦ ht (Text.isBlank_append.1 h).2
  rw [DocString.dedent, DocString.dedent, if_neg hblank, if_neg ht,
    isShallow_front hfront indent ht, Text.trimStart_append hfront, List.drop_append,
    List.drop_eq_nil_of_le (Nat.le_add_right front.length indent), List.nil_append,
    Nat.add_sub_cancel_left]

end Front

/-- White space in front of a line that is not empty stands in front of it when it is read. -/
theorem chomp_front (front : Text) {x : Text} (hx : x ≠ []) :
    SourceLine.chomp (front ++ x) = front ++ SourceLine.chomp x := by
  rw [SourceLine.chomp, SourceLine.chomp, List.getLast?_append_of_ne_nil _ hx]
  split
  · rw [List.dropLast_append_of_ne_nil hx]
  · rfl

theorem isBlank_chomp {x : Text} : isBlank (SourceLine.chomp x) ↔ isBlank x := by
  rw [Text.isBlank_iff_trim_eq_nil, SourceLine.trim_chomp, ← Text.isBlank_iff_trim_eq_nil]

theorem trimStart_of_isBlank {t : Text} (h : isBlank t) : trimStart t = [] := by
  have htrim := Text.trimStart_append (t := []) h
  rwa [List.append_nil] at htrim

/-- The bytes of a line with the line feed that closes it. -/
def Text.lineSize (raw : Text) : Nat := byteSize raw + 1

/-- The size of lines together. -/
def Text.total (size : Text → Nat) : List Text → Nat
  | [] => 0
  | raw :: raws => size raw + total size raws

theorem Text.total_one (raws : List Text) : total (fun _ ↦ 1) raws = raws.length := by
  induction raws with
  | nil => rfl
  | cons raw raws ih => rw [total, ih, List.length_cons, Nat.add_comm]

namespace SourceLine

variable {path : Option Text}

theorem content_chomp (number offset : Nat) (raw : Text) :
    content ⟨number, offset, chomp raw⟩ = trim raw := trim_chomp raw

/-- A line that holds something else than white space is indented by the white space put in front
of it and its own. -/
theorem indent_front {front : Text} (hfront : isBlank front) {x : Text} (hx : x ≠ [])
    (number offset offset' : Nat) :
    indent ⟨number, offset, chomp (front ++ x)⟩ =
      front.length + indent ⟨number, offset', chomp x⟩ := by
  rw [indent, indent, chomp_front front hx, leading_front hfront, List.length_append]

/-- A content line of a string looks alike after the string has been moved to the right. -/
theorem alikeWithin_front {front : Text} (hfront : isBlank front) (i number offset offset' : Nat)
    (x : Text) :
    AlikeWithin .columns path i (front.length + i) ⟨number, offset, chomp x⟩
      ⟨number, offset', chomp (front ++ x)⟩ := by
  by_cases hx : isBlank x
  · have hx' : isBlank (chomp x) := isBlank_chomp.2 hx
    have hmoved : isBlank (chomp (front ++ x)) :=
      isBlank_chomp.2 (Text.isBlank_append.2 ⟨hfront, hx⟩)
    refine ⟨?_, ?_, rfl, ?_⟩
    · rw [DocString.dedent, DocString.dedent, if_pos hx', if_pos hmoved]
    · rw [DocString.isShallow, DocString.isShallow, hx', hmoved]
      rfl
    · rw [trimStart_of_isBlank hx', trimStart_of_isBlank hmoved]
  · have hx' : ¬isBlank (chomp x) := fun h ↦ hx (isBlank_chomp.1 h)
    have hne : x ≠ [] := by
      rintro rfl
      exact hx rfl
    refine ⟨?_, ?_, rfl, ?_⟩
    · rw [chomp_front front hne, dedent_front hfront i hx']
    · rw [chomp_front front hne, isShallow_front hfront i hx']
    · rw [chomp_front front hne, Text.trimStart_append hfront]

theorem alikeWithin_enumerate {front : Text} (hfront : isBlank front) (i : Nat)
    (number offset offset' : Nat) (body : List Text) :
    List.Forall₂ (AlikeWithin .columns path i (front.length + i)) (enumerate number offset body)
      (enumerate number offset' (body.map (front ++ ·))) := by
  induction body generalizing number offset offset' with
  | nil => exact .nil
  | cons x body ih => exact .cons (alikeWithin_front hfront i number offset offset' x) (ih ..)

/-- Lines below others are numbered on. -/
theorem enumerate_append (number offset : Nat) (xs ys : List Text) :
    enumerate number offset (xs ++ ys) =
      enumerate number offset xs ++
        enumerate (number + xs.length) (offset + Text.total Text.lineSize xs) ys := by
  induction xs generalizing number offset with
  | nil => rfl
  | cons x xs ih =>
    rw [List.cons_append, enumerate, ih, enumerate, List.length_cons, List.cons_append,
      Text.total, Text.lineSize, Nat.add_assoc number, Nat.add_comm 1, ← Nat.add_assoc offset,
      ← Nat.add_assoc offset]

theorem map_content_enumerate (number offset : Nat) (raws : List Text) :
    (enumerate number offset raws).map (·.content) = raws.map trim := by
  calc
    (enumerate number offset raws).map (·.content) =
        ((enumerate number offset raws).map (·.text)).map trim := List.map_map.symm
    _ = raws.map (trim ∘ chomp) := by rw [map_text_enumerate, List.map_map]
    _ = raws.map trim := List.map_congr_left fun raw _ ↦ trim_chomp raw

end SourceLine

section Strings

variable {d : Delimiter} {opening : Text} {body : List Text}
  (hopens : Delimiter.opening? (trim opening) = some d) (hbody : ∀ x ∈ body, trim x ≠ d.mark)
  (number offset : Nat)

include hbody in
theorem closes_enumerate : ∀ l ∈ SourceLine.enumerate number offset body, d.closes l = false := by
  intro l hl
  have hcontent : l.content ∈ body.map trim := by
    rw [← SourceLine.map_content_enumerate number offset]
    exact List.mem_map_of_mem hl
  obtain ⟨x, hx, hxl⟩ := List.mem_map.1 hcontent
  rw [Delimiter.closes, decide_eq_false_iff_not, ← hxl]
  exact hbody x hx

include hopens hbody

theorem Chunk.ofLines_enumerate_string {closing : Text} (hcloses : trim closing = d.mark)
    (xs : List Text) :
    ofLines (SourceLine.enumerate number offset (opening :: (body ++ closing :: xs))) =
      let last := offset + Text.byteSize opening + 1 + Text.total Text.lineSize body
      .string d ⟨number, offset, SourceLine.chomp opening⟩
          (SourceLine.enumerate (number + 1) (offset + Text.byteSize opening + 1) body)
          ⟨number + 1 + body.length, last, SourceLine.chomp closing⟩ ::
        ofLines (SourceLine.enumerate (number + 1 + body.length + 1)
          (last + Text.byteSize closing + 1) xs) := by
  rw [SourceLine.enumerate, SourceLine.enumerate_append, SourceLine.enumerate]
  refine ofLines_string ?_ (closes_enumerate hbody _ _) ?_ _
  · rw [SourceLine.content_chomp, hopens]
  · rw [Delimiter.closes, SourceLine.content_chomp, decide_eq_true_eq, hcloses]

theorem Chunk.ofLines_enumerate_unterminated :
    ofLines (SourceLine.enumerate number offset (opening :: body)) =
      [.unterminated d ⟨number, offset, SourceLine.chomp opening⟩
        (SourceLine.enumerate (number + 1) (offset + Text.byteSize opening + 1) body)] := by
  rw [SourceLine.enumerate]
  refine ofLines_unterminated ?_ (closes_enumerate hbody _ _)
  rw [SourceLine.content_chomp, hopens]

end Strings

theorem Reindented.map_trim {xs ys : List Text} (h : Reindented xs ys) :
    ys.map trim = xs.map trim := by
  have hmoved {front : Text} (hfront : isBlank front) (body : List Text) :
      (body.map (front ++ ·)).map trim = body.map trim := by
    rw [List.map_map]
    exact List.map_congr_left fun x _ ↦ trim_front hfront x
  induction h with
  | nil => rfl
  | line _ hends _ ih => rw [List.map_cons, List.map_cons, hends, ih]
  | string hfront _ _ _ _ ih =>
    simp only [List.map_cons, List.map_append, hmoved hfront, trim_front hfront, ih]
  | unterminated hfront _ _ =>
    rw [List.map_cons, List.map_cons, hmoved hfront, trim_front hfront]

/-- Lines that are laid out anew are sorted into chunks that look alike. -/
theorem Reindented.alike {xs ys : List Text} (h : Reindented xs ys) (path : Option Text)
    (number offset offset' : Nat) :
    List.Forall₂ (Chunk.Alike .columns path)
      (Chunk.ofLines (SourceLine.enumerate number offset xs))
      (Chunk.ofLines (SourceLine.enumerate number offset' ys)) := by
  have hopening {d : Delimiter} {front x : Text} (hfront : isBlank front)
      (hopens : Delimiter.opening? (trim x) = some d) (number offset offset' : Nat) :
      SourceLine.Alike .columns path ⟨number, offset, SourceLine.chomp x⟩
          ⟨number, offset', SourceLine.chomp (front ++ x)⟩ ∧
        SourceLine.indent ⟨number, offset', SourceLine.chomp (front ++ x)⟩ =
          front.length + SourceLine.indent ⟨number, offset, SourceLine.chomp x⟩ := by
    have hne : x ≠ [] := by
      rintro rfl
      exact (content_of_opening? hopens).1 rfl
    refine ⟨⟨?_, rfl, rfl⟩, SourceLine.indent_front hfront hne ..⟩
    rw [SourceLine.content_chomp, SourceLine.content_chomp, trim_front hfront]
  have hmoved {d : Delimiter} {front : Text} {body : List Text} (hfront : isBlank front)
      (hbody : ∀ x ∈ body, trim x ≠ d.mark) : ∀ y ∈ body.map (front ++ ·), trim y ≠ d.mark := by
    intro y hy
    obtain ⟨x, hx, rfl⟩ := List.mem_map.1 hy
    rw [trim_front hfront]
    exact hbody x hx
  induction h generalizing number offset offset' with
  | nil =>
    rw [SourceLine.enumerate, SourceLine.enumerate, Chunk.ofLines]
    exact .nil
  | @line x y xs ys hopens hends _ ih =>
    have hx := SourceLine.content_chomp number offset x
    have hy := SourceLine.content_chomp number offset' y
    rw [SourceLine.enumerate, SourceLine.enumerate,
      Chunk.ofLines_line (hx ▸ hopens), Chunk.ofLines_line (hy ▸ hends ▸ hopens)]
    exact .cons (.ofLine ⟨(hx.trans hends.symm).trans hy.symm, rfl, rfl⟩) (ih ..)
  | @string d front opening closing body xs ys hfront hopens hbody hcloses _ ih =>
    have hopens' := (congrArg Delimiter.opening? (trim_front hfront opening)).trans hopens
    obtain ⟨halike, hindent⟩ := hopening hfront hopens number offset offset'
    rw [Chunk.ofLines_enumerate_string hopens hbody number offset hcloses xs,
      Chunk.ofLines_enumerate_string hopens' (hmoved hfront hbody) number offset'
        ((trim_front hfront closing).trans hcloses) ys, List.length_map]
    refine .cons (.string d halike ?_) (ih ..)
    rw [hindent]
    exact SourceLine.alikeWithin_enumerate hfront ..
  | @unterminated d front opening body hfront hopens hbody =>
    have hopens' := (congrArg Delimiter.opening? (trim_front hfront opening)).trans hopens
    obtain ⟨halike, -⟩ := hopening hfront hopens number offset offset'
    rw [Chunk.ofLines_enumerate_unterminated hopens hbody,
      Chunk.ofLines_enumerate_unterminated hopens' (hmoved hfront hbody)]
    exact .cons (.unterminated d halike) .nil

theorem Reindented.looksAlike {source source' : Text}
    (h : Reindented (Text.splitLines source) (Text.splitLines source')) (path : Option Text) :
    LooksAlike .columns path source' source := by
  refine ⟨?_, fun language ↦ ?_, ?_⟩
  · rw [declaredLanguage?, declaredLanguage?, SourceLine.ofText, SourceLine.ofText,
      SourceLine.map_content_enumerate, SourceLine.map_content_enumerate, h.map_trim]
  · exact (Lexed.blur_ofChunks_of_alike (h.alike path 1 0 0)).symm
  · have hlength := congrArg List.length h.map_trim
    rw [List.length_map, List.length_map] at hlength
    have hlines (t : Text) : (SourceLine.ofText t).length = (Text.splitLines t).length := by
      have htexts := congrArg List.length (SourceLine.map_text_enumerate 1 0 (Text.splitLines t))
      rwa [List.length_map, List.length_map] at htexts
    rw [endOfText, endOfText, hlines, hlines, hlength]

/-- A text that is laid out anew gives the same structure, feature and steps but for columns, spans,
kept lines and source, or fails alike at the same line, if neither text begins with a byte order
mark. -/
theorem outcome_reindented {text text' : Text} (hmark : text.head? ≠ some '\ufeff')
    (hmark' : text'.head? ≠ some '\ufeff')
    (h : Reindented (Text.splitLines text) (Text.splitLines text')) (options : ParseOptions) :
    (∀ start, mapBoth (·.blur .columns) (·.blur .columns) (parse start options text') =
      mapBoth (·.blur .columns) (·.blur .columns) (parse start options text)) ∧
    mapBoth (·.blur .columns) (·.blur .columns) (parseFeature options text') =
      mapBoth (·.blur .columns) (·.blur .columns) (parseFeature options text) ∧
    mapBoth (·.blur .columns) (List.map (·.blur .columns)) (parseSteps options text') =
      mapBoth (·.blur .columns) (List.map (·.blur .columns)) (parseSteps options text) := by
  have halike : LooksAlike .columns options.path (dropByteOrderMark text')
      (dropByteOrderMark text) := by
    rw [dropByteOrderMark_of_head? hmark, dropByteOrderMark_of_head? hmark']
    exact h.looksAlike options.path
  exact ⟨parse_blur_eq halike, parseFeature_blur_eq halike, parseSteps_blur_eq halike⟩

def flatText : Text := "Feature: f\nScenario: s\nGiven x\n\"\"\"\n y\n\"\"\"".toList

/-- The same feature with indentation, and with its string moved to the right. -/
def laidOutText : Text :=
  "  Feature: f\n\tScenario: s \n   Given x\n\t \"\"\"\n\t  y\n\t \"\"\"".toList

theorem reindented_laidOutText :
    Reindented (Text.splitLines flatText) (Text.splitLines laidOutText) := by
  have hflat : Text.splitLines flatText = "Feature: f".toList :: "Scenario: s".toList ::
      "Given x".toList :: "\"\"\"".toList :: ([" y".toList] ++ "\"\"\"".toList :: []) := by
    decide +kernel
  have hlaidOut : Text.splitLines laidOutText = "  Feature: f".toList :: "\tScenario: s ".toList ::
      "   Given x".toList :: ("\t ".toList ++ "\"\"\"".toList) ::
      ([" y".toList].map ("\t ".toList ++ ·) ++ ("\t ".toList ++ "\"\"\"".toList) :: []) := by
    decide +kernel
  rw [hflat, hlaidOut]
  refine .line (by decide +kernel) (by decide +kernel) ?_
  refine .line (by decide +kernel) (by decide +kernel) ?_
  refine .line (by decide +kernel) (by decide +kernel) ?_
  exact .string (d := .quotes) (by decide +kernel) (by decide +kernel) (by decide +kernel)
    (by decide +kernel) .nil

theorem outcome_reindented_laidOutText :
    flatText.head? ≠ some '\ufeff' ∧ laidOutText.head? ≠ some '\ufeff' ∧
      Reindented (Text.splitLines flatText) (Text.splitLines laidOutText) ∧
      ∃ f, parseFeature {} flatText = .ok f ∧ f.scenarios.length = 1 ∧
        mapBoth (·.blur .columns) (·.blur .columns) (parseFeature {} laidOutText) =
          .ok (f.blur .columns) := by
  have hmark : flatText.head? ≠ some '\ufeff' := by decide +kernel
  have hmark' : laidOutText.head? ≠ some '\ufeff' := by decide +kernel
  have hread : (parseFeature {} flatText).toOption.map (·.scenarios.length) = some 1 := by
    simp only [parseFeature, parse]
    rw [code_of_undeclared (by decide +kernel), Language.find?_defaultCode]
    decide +kernel
  obtain ⟨f, hf, hlength⟩ := toOption_map_eq_some_iff.1 hread
  obtain ⟨-, hfeature, -⟩ := outcome_reindented hmark hmark' reindented_laidOutText {}
  exact ⟨hmark, hmark', reindented_laidOutText, f, hf, hlength, by rw [hfeature, hf]; rfl⟩

def markedText : Text := " \ufeffFeature: f\nScenario: s\n".toList

/-- Without the blank the byte order mark of `markedText` is taken off, and the feature is read. -/
theorem outcome_markedText :
    markedText.head? ≠ some '\ufeff' ∧
      Reindented (Text.splitLines markedText) (Text.splitLines markedText.tail) ∧
      mapBoth (·.blur .columns) (·.blur .columns) (parseFeature {} markedText.tail) ≠
        mapBoth (·.blur .columns) (·.blur .columns) (parseFeature {} markedText) := by
  have hlines : Text.splitLines markedText =
      " \ufeffFeature: f".toList :: Text.splitLines "Scenario: s\n".toList := by decide +kernel
  have hlines' : Text.splitLines markedText.tail =
      "\ufeffFeature: f".toList :: Text.splitLines "Scenario: s\n".toList := by decide +kernel
  have hread : (parseFeature {} markedText.tail).toOption.map (·.scenarios.length) = some 1 := by
    simp only [parseFeature, parse]
    rw [code_of_undeclared (by decide +kernel), Language.find?_defaultCode]
    decide +kernel
  have hfail : (parseFeature {} markedText).toOption.map (·.scenarios.length) = none := by
    simp only [parseFeature, parse]
    rw [code_of_undeclared (by decide +kernel), Language.find?_defaultCode]
    decide +kernel
  obtain ⟨f, hf, -⟩ := toOption_map_eq_some_iff.1 hread
  refine ⟨by decide +kernel, ?_, fun hsame ↦ ?_⟩
  · rw [hlines, hlines']
    refine .line (by decide +kernel) (by decide +kernel) ?_
    have hrest : Text.splitLines "Scenario: s\n".toList = ["Scenario: s".toList, []] := by
      decide +kernel
    rw [hrest]
    exact .line (by decide +kernel) rfl (.line (by decide +kernel) rfl .nil)
  · rw [hf] at hsame
    cases hg : parseFeature {} markedText with
    | ok g =>
      rw [hg] at hfail
      cases hfail
    | error e =>
      rw [hg] at hsame
      cases hsame

end Gherkin
