import Gherkin.Proofs.Readings
import Gherkin.Proofs.Text.Offsets
import Gherkin.Proofs.Token.Proper

/-!
# Tokens whose places are changed

A relocation changes places, spans and kept lines in any way that spans can be joined after it as
before it. A movement is one that takes lines and bytes further down: lines that it moves as a whole
are sorted as before, and say the same at their new places. Lines that say nothing may be left out
where they are chunks of their own.

Main statements: `Lexed.relocate_ofChunks` and `Lexed.ofChunks_filter`.
-/

namespace Gherkin

open Text (byteSize)

/-- What becomes of locations, spans, kept lines and the source. Faults that belong to no line stand
at the first column of the first line, and a fault at the end keeps an empty line. -/
structure Relocation where
  location : Location → Location
  span : Span → Span
  line : Text → Text
  source : Text → Text
  location_start : ∀ path, location ⟨path, 1, 1⟩ = ⟨path, 1, 1⟩
  span_join : ∀ s t, span (s.join t) = (span s).join (span t)
  line_nil : line [] = []

section Relocate

variable (m : Relocation)

def SyntaxError.relocate (e : SyntaxError) : SyntaxError :=
  ⟨m.location e.location, e.fault, m.line e.line⟩

def Token.relocate (t : Token) : Token :=
  ⟨t.kind, m.location t.location, m.span t.span, m.line t.line⟩

/-- What a warning shows of its line stays. -/
def Warning.relocate (w : Warning) : Warning := { w with location := m.location w.location }

def Lexed.relocate (lexed : Lexed) : Lexed :=
  ⟨lexed.tokens.map (·.relocate m), lexed.warnings.map (·.relocate m)⟩

end Relocate

/-- Where lines and bytes go. The first line stays, and no byte comes before one that it came
after. -/
structure Movement where
  line : Nat → Nat
  byte : Nat → Nat
  line_one : line 1 = 1
  byte_mono {p q : Nat} : p ≤ q → byte p ≤ byte q

namespace Movement

def still : Movement := ⟨id, id, rfl, id⟩

variable (v : Movement)

def span (s : Span) : Span := ⟨v.byte s.start, v.byte s.stop, v.byte_mono s.start_le_stop⟩

theorem byte_max (p q : Nat) : v.byte (max p q) = max (v.byte p) (v.byte q) := by
  rcases Nat.le_total p q with h | h
  · rw [Nat.max_eq_right h, Nat.max_eq_right (v.byte_mono h)]
  · rw [Nat.max_eq_left h, Nat.max_eq_left (v.byte_mono h)]

theorem byte_min (p q : Nat) : v.byte (min p q) = min (v.byte p) (v.byte q) := by
  rcases Nat.le_total p q with h | h
  · rw [Nat.min_eq_left h, Nat.min_eq_left (v.byte_mono h)]
  · rw [Nat.min_eq_right h, Nat.min_eq_right (v.byte_mono h)]

/-- The relocation by a movement into the given source. -/
def relocation (source : Text) : Relocation where
  location l := { l with line := v.line l.line }
  span := v.span
  line := id
  source _ := source
  location_start path := by rw [v.line_one]
  span_join s t := by simp only [span, Span.join, byte_min, byte_max]
  line_nil := id_eq []

end Movement

def SourceLine.move (v : Movement) (l : SourceLine) : SourceLine :=
  ⟨v.line l.number, v.byte l.offset, l.text⟩

/-- The line is moved as a whole. -/
def SourceLine.Whole (v : Movement) (l : SourceLine) : Prop :=
  ∀ k ≤ byteSize l.text, v.byte (l.offset + k) = v.byte l.offset + k

namespace SourceLine

variable {v : Movement} {l : SourceLine}

theorem start_move (h : l.Whole v) : (l.move v).start = v.byte l.start :=
  (h _ (Text.byteSize_le_of_prefix (List.takeWhile_prefix _))).symm

theorem stop_move (h : l.Whole v) : (l.move v).stop = v.byte l.stop := by
  obtain ⟨b, -, htext⟩ := Text.exists_eq_trimEnd_append l.text
  refine (h _ (Text.byteSize_le_of_prefix ⟨b, htext.symm⟩)).symm

end SourceLine

theorem Movement.between_byte (v : Movement) (start stop : Nat) :
    Span.between (v.byte start) (v.byte stop) = v.span (.between start stop) := by
  simp only [Span.between, span, byte_max]

section Reading

variable {language : Language} {path : Option Text} {v : Movement} (source : Text)

theorem Warning.relocate_ofBody (indent : Nat) (body : List SourceLine) :
    ofBody path indent (body.map (·.move v)) =
      (ofBody path indent body).map (·.relocate (v.relocation source)) := by
  simp only [ofBody, List.filter_map, List.map_map]
  rfl

/-- A chunk all lines of which are moved as a whole says the same at their new places. -/
theorem Lexed.relocate_ofChunk {c : Chunk} (h : ∀ l ∈ c.lines, l.Whole v) :
    ofChunk language path (c.map (·.move v)) =
      mapBoth (·.relocate (v.relocation source)) (·.relocate (v.relocation source))
        (ofChunk language path c) := by
  cases c with
  | blank l => rfl
  | comment l => rfl
  | unterminated d opening body => rfl
  | single l =>
    have hl := h l List.mem_cons_self
    have hspan : (l.move v).span = v.span l.span := by
      rw [SourceLine.span, SourceLine.start_move hl, SourceLine.stop_move hl, v.between_byte]
      rfl
    have hcontent : (l.move v).content = l.content := rfl
    rw [Chunk.map, ofChunk, ofChunk, hcontent]
    cases Token.classify language l.content with
    | error fault => rfl
    | ok kind =>
      simp only [Token.ofLine, hspan]
      rfl
  | string d opening body closing =>
    have hopening := SourceLine.start_move (h opening List.mem_cons_self)
    have hclosing := SourceLine.stop_move (h closing (by simp [Chunk.lines]))
    simp only [Chunk.map, ofChunk, Token.ofString, hopening, hclosing, v.between_byte, List.map_map,
      mapBoth_ok, relocate, ← Warning.relocate_ofBody]
    rfl

theorem Lexed.relocate_ofChunks {cs : List Chunk} (h : ∀ c ∈ cs, ∀ l ∈ c.lines, l.Whole v) :
    ofChunks language path (cs.map (·.map (·.move v))) =
      mapBoth (·.relocate (v.relocation source)) (·.relocate (v.relocation source))
        (ofChunks language path cs) := by
  induction cs with
  | nil => rfl
  | cons c cs ih =>
    obtain ⟨hc, hcs⟩ := List.forall_mem_cons.1 h
    rw [List.map_cons, ofChunks, ofChunks, relocate_ofChunk source hc, ih hcs]
    refine mapBoth_bind (fun first ↦ ?_) _
    refine mapBoth_bind (fun rest ↦ ?_) _
    simp only [pure, Except.pure, mapBoth_ok, relocate, List.map_append]

end Reading

/-- The chunk is a line that says nothing. -/
def Chunk.isRemark : Chunk → Bool
  | blank _ | comment _ => true
  | _ => false

/-- Lines that say nothing may be left out. -/
theorem Lexed.ofChunks_filter (language : Language) (path : Option Text) (cs : List Chunk) :
    ofChunks language path (cs.filter fun c ↦ !c.isRemark) = ofChunks language path cs := by
  induction cs with
  | nil => rfl
  | cons c cs ih =>
    cases hc : c.isRemark with
    | false => rw [List.filter_cons_of_pos (by rw [hc]; rfl), ofChunks, ofChunks, ih]
    | true =>
      have hsilent : ofChunk language path c = .ok ⟨[], []⟩ := by
        cases c <;> first | rfl | cases hc
      rw [List.filter_cons_of_neg (by rw [hc]; decide), ofChunks, hsilent, ih]
      cases ofChunks language path cs <;> rfl

end Gherkin
