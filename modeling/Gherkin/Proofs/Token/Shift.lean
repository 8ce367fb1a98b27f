import Gherkin.Proofs.Token.Proper

/-!
# Text further down

Text that stands below other lines says what it says alone, some lines and bytes further down.
Reading looks at what a line holds and at its neighbours, never at where it stands, so that it gives
the same tokens and warnings with their places moved.

Main statements: moved lines are sorted into moved chunks (`Chunk.ofLines_map_shift`), and what is
read below a line that speaks for itself is what is read without it, moved (`ofText_below_iff`).
-/

namespace Gherkin

open Text (Solid OneLine byteSize)

/-- How far down something stands: by how many lines and by how many bytes. -/
structure Shift where
  lines : Nat
  bytes : Nat
  deriving DecidableEq, Repr

def Shift.add (d e : Shift) : Shift := ⟨d.lines + e.lines, d.bytes + e.bytes⟩

/-- Columns stay as they are, as whole lines stand above. -/
def Location.shift (d : Shift) (l : Location) : Location := { l with line := l.line + d.lines }

def Span.shift (d : Shift) (s : Span) : Span :=
  ⟨s.start + d.bytes, s.stop + d.bytes, Nat.add_le_add_right s.start_le_stop _⟩

def SourceLine.shift (d : Shift) (l : SourceLine) : SourceLine :=
  { l with number := l.number + d.lines, offset := l.offset + d.bytes }

def Chunk.shift (d : Shift) : Chunk → Chunk
  | blank l => blank (l.shift d)
  | comment l => comment (l.shift d)
  | single l => single (l.shift d)
  | string delimiter opening body closing =>
    string delimiter (opening.shift d) (body.map (·.shift d)) (closing.shift d)
  | unterminated delimiter opening body =>
    unterminated delimiter (opening.shift d) (body.map (·.shift d))

def Token.shift (d : Shift) (t : Token) : Token :=
  { t with location := t.location.shift d, span := t.span.shift d }

theorem Token.kind_shift (d : Shift) (t : Token) : (t.shift d).kind = t.kind := rfl

def Warning.shift (d : Shift) (w : Warning) : Warning := { w with location := w.location.shift d }

def Lexed.shift (d : Shift) (lexed : Lexed) : Lexed :=
  ⟨lexed.tokens.map (·.shift d), lexed.warnings.map (·.shift d)⟩

section Laws

variable (d e : Shift)

theorem Location.shift_shift (l : Location) : (l.shift d).shift e = l.shift (d.add e) := by
  simp only [shift, Shift.add, Nat.add_assoc]

theorem Span.shift_shift (s : Span) : (s.shift d).shift e = s.shift (d.add e) := by
  simp only [shift, Shift.add, Nat.add_assoc]

theorem Token.shift_shift (t : Token) : (t.shift d).shift e = t.shift (d.add e) := by
  simp only [shift, Location.shift_shift, Span.shift_shift]

theorem Warning.shift_shift (w : Warning) : (w.shift d).shift e = w.shift (d.add e) := by
  simp only [shift, Location.shift_shift]

theorem Lexed.shift_shift (lexed : Lexed) :
    (lexed.shift d).shift e = lexed.shift (d.add e) := by
  simp only [shift, List.map_map, Function.comp_def, Token.shift_shift, Warning.shift_shift]

theorem Span.join_shift (s s' : Span) : (s.shift d).join (s'.shift d) = (s.join s').shift d := by
  simp only [join, shift, Nat.add_min_add_right, Nat.add_max_add_right]

theorem Span.between_shift (start stop : Nat) :
    between (start + d.bytes) (stop + d.bytes) = (between start stop).shift d := by
  simp only [between, shift, Nat.add_max_add_right]

end Laws

namespace SourceLine

variable (d : Shift) (path : Option Text) (l : SourceLine)

@[simp] theorem text_shift : (l.shift d).text = l.text := rfl

@[simp] theorem content_shift : (l.shift d).content = l.content := rfl

@[simp] theorem indent_shift : (l.shift d).indent = l.indent := rfl

theorem start_shift : (l.shift d).start = l.start + d.bytes := by
  rw [start, start, text_shift, shift, Nat.add_right_comm]

theorem stop_shift : (l.shift d).stop = l.stop + d.bytes := by
  rw [stop, stop, text_shift, shift, Nat.add_right_comm]

theorem span_shift : (l.shift d).span = l.span.shift d := by
  rw [span, start_shift, stop_shift, Span.between_shift, span]

theorem enumerate_shift (number offset : Nat) (raws : List Text) :
    enumerate (number + d.lines) (offset + d.bytes) raws =
      (enumerate number offset raws).map (·.shift d) := by
  induction raws generalizing number offset with
  | nil => rfl
  | cons raw raws ih =>
    have hrest := ih (number + 1) (offset + byteSize raw + 1)
    rw [enumerate, enumerate, List.map_cons, ← hrest]
    rw [Nat.add_right_comm number 1, Nat.add_right_comm offset d.bytes,
      Nat.add_right_comm _ 1 d.bytes]
    rfl

/-- The lines below the first are those of the text below it, further down. -/
theorem ofText_cons {x : Text} (hx : OneLine x) (t : Text) :
    ofText (x ++ '\n' :: t) =
      ⟨1, 0, chomp x⟩ :: (ofText t).map (·.shift ⟨1, byteSize x + 1⟩) := by
  have hsplit : Text.splitLines (x ++ '\n' :: t) = x :: Text.splitLines t :=
    List.splitOn_append_cons_self_of_not_mem hx.not_mem t
  rw [ofText, hsplit, enumerate, ofText, ← enumerate_shift]
  simp only [Nat.zero_add]

end SourceLine

namespace Chunk

variable (d : Shift)

/-- Lines further down are sorted in the same way. -/
theorem ofLines_map_shift (ls : List SourceLine) :
    ofLines (ls.map (·.shift d)) = (ofLines ls).map (·.shift d) := by
  have hshift : shift d = map (·.shift d) := by
    funext c
    cases c <;> rfl
  rw [ofLines_map (SourceLine.content_shift d), hshift]

end Chunk

section Reading

variable {language : Language} {path : Option Text} {d : Shift}

theorem Token.ofLine_shift (l : SourceLine) (kind : TokenKind) :
    ofLine path (l.shift d) kind = (ofLine path l kind).shift d := by
  rw [ofLine, SourceLine.span_shift]
  rfl

theorem Token.ofString_shift (delimiter : Delimiter) (opening : SourceLine)
    (body : List SourceLine) (closing : SourceLine) :
    ofString path delimiter (opening.shift d) (body.map (·.shift d)) (closing.shift d) =
      (ofString path delimiter opening body closing).shift d := by
  simp only [ofString, SourceLine.start_shift, SourceLine.stop_shift, Span.between_shift,
    SourceLine.indent_shift, SourceLine.content_shift, List.map_map, Function.comp_def,
    SourceLine.text_shift]
  rfl

theorem Warning.ofBody_shift (indent : Nat) (body : List SourceLine) :
    ofBody path indent (body.map (·.shift d)) = (ofBody path indent body).map (·.shift d) := by
  simp only [ofBody, List.filter_map, List.map_map, Function.comp_def, SourceLine.text_shift]
  rfl

theorem Lexed.ofChunk_shift_eq_ok_iff {c : Chunk} {lexed : Lexed} :
    ofChunk language path (c.shift d) = .ok lexed ↔
      ∃ own, ofChunk language path c = .ok own ∧ lexed = own.shift d := by
  cases c with
  | single l =>
    simp only [Chunk.shift, ofChunk, SourceLine.content_shift]
    cases Token.classify language l.content with
    | error e => simp
    | ok kind => simp [Lexed.shift, Token.ofLine_shift, eq_comm]
  | string delimiter opening body closing =>
    simp [Chunk.shift, ofChunk, Lexed.shift, Token.ofString_shift, Warning.ofBody_shift, eq_comm]
  | unterminated delimiter opening body => simp [Chunk.shift, ofChunk]
  | _ => simp [Chunk.shift, ofChunk, Lexed.shift, eq_comm]

/-- Chunks further down say the same there. -/
theorem Lexed.ofChunks_map_shift_eq_ok_iff {cs : List Chunk} {lexed : Lexed} :
    ofChunks language path (cs.map (·.shift d)) = .ok lexed ↔
      ∃ own, ofChunks language path cs = .ok own ∧ lexed = own.shift d := by
  induction cs generalizing lexed with
  | nil => simp [ofChunks, Lexed.shift, eq_comm]
  | cons c cs ih =>
    simp only [List.map_cons, ofChunks, bind_eq_ok_iff, ofChunk_shift_eq_ok_iff, ih, pure,
      Except.pure, Except.ok.injEq]
    constructor
    · rintro ⟨_, ⟨first, hfirst, rfl⟩, _, ⟨rest, hrest, rfl⟩, rfl⟩
      exact ⟨_, ⟨first, hfirst, rest, hrest, rfl⟩, by simp [Lexed.shift]⟩
    · rintro ⟨_, ⟨first, hfirst, rest, hrest, rfl⟩, rfl⟩
      exact ⟨_, ⟨first, hfirst, rfl⟩, _, ⟨rest, hrest, rfl⟩, by simp [Lexed.shift]⟩

/-- What is read below a line that speaks for itself is what is read without it, further down. -/
theorem Lexed.ofText_below_iff {x : Text} {kind : TokenKind} (hx : ReadsAs language x kind)
    {t : Text} {lexed : Lexed} :
    ofText language path (x ++ '\n' :: t) = .ok lexed ↔
      ∃ own, ofText language path t = .ok own ∧
        lexed = ⟨.ofLine path ⟨1, 0, x⟩ kind :: (own.shift ⟨1, byteSize x + 1⟩).tokens,
          (own.shift ⟨1, byteSize x + 1⟩).warnings⟩ := by
  have hcontent : (⟨1, 0, x⟩ : SourceLine).content = x := hx.solid.trim_eq
  have hchunks : Chunk.ofLines (SourceLine.ofText (x ++ '\n' :: t)) =
      .single ⟨1, 0, x⟩ ::
        (Chunk.ofLines (SourceLine.ofText t)).map (·.shift ⟨1, byteSize x + 1⟩) := by
    rw [SourceLine.ofText_cons hx.oneLine, SourceLine.chomp_of_last hx.solid.last,
      ← Chunk.ofLines_map_shift, Chunk.ofLines, hcontent, if_neg hx.speaks.ne_nil,
      if_neg hx.speaks.no_comment]
    split
    · rfl
    · next delimiter hstring =>
      rw [hx.speaks.no_string] at hstring
      cases hstring
  have hline : ofChunk language path (.single ⟨1, 0, x⟩) =
      .ok ⟨[.ofLine path ⟨1, 0, x⟩ kind], []⟩ := by
    rw [ofChunk, hcontent, hx.classify_eq]
  rw [ofText, hchunks, ofChunks, hline, bind_eq_ok_iff]
  simp only [Except.ok.injEq, exists_eq_left', bind_eq_ok_iff, ofChunks_map_shift_eq_ok_iff, pure,
    Except.pure, List.nil_append, List.singleton_append]
  constructor
  · rintro ⟨_, ⟨own, hown, rfl⟩, rfl⟩
    exact ⟨own, hown, rfl⟩
  · rintro ⟨own, hown, rfl⟩
    exact ⟨_, ⟨own, hown, rfl⟩, rfl⟩

end Reading

end Gherkin
