import Gherkin.Proofs.Token.Says

/-!
# Multiline strings that are read again

A multiline string can be written at any indentation and read on its own in any language, whatever
text it comes from: what the lines hold is shielded, and what reading would drop at the edges is
written once more. Only a carriage return at the end of a content line has no written form; the line
feed that is written behind it makes it part of the end of the line.

Main statement: a multiline string that was read comes back as one token of the same delimiter and
type, with the content that has no carriage returns at the end of its lines
(`docString_read_again`).
-/

namespace Gherkin

open Text (Solid OneLine)

variable {l : Language} {path : Option Text} {source : Text} {lexed : Lexed}
  {d : Delimiter} {type : Option Text} {content : Text}

/-- The type of a string that was read is a solid line, and its content is made of lines that
reading leaves. -/
theorem kept_of_mem_ofText (h : Lexed.ofText l path source = .ok lexed) {t : Token}
    (ht : t ∈ lexed.tokens) (hkind : t.kind = .docString d type content) :
    (∀ label ∈ type, label ≠ [] ∧ Solid label ∧ OneLine label) ∧ DocString.Kept d content := by
  obtain ⟨c, hc, hfrom⟩ := Lexed.exists_from_of_mem_ofChunks h ht
  have hone : ∀ line ∈ c.lines, OneLine line.text := by
    intro line hline
    have hmem : line ∈ (Chunk.ofLines (SourceLine.ofText source)).flatMap Chunk.lines :=
      List.mem_flatMap.2 ⟨c, hc, hline⟩
    rw [Chunk.flatMap_lines_ofLines] at hmem
    exact (SourceLine.text_subset_of_mem_ofText hmem).1
  cases hfrom with
  | @line line kind hclassify =>
    obtain rfl : kind = .docString d type content := hkind
    cases Token.said_of_classify hclassify
  | string delimiter opening body closing =>
    obtain ⟨rfl, rfl, rfl⟩ := TokenKind.docString.inj hkind
    have hopening : OneLine opening.content :=
      (hone opening (by simp [Chunk.lines])).mono (Text.trim_subset _)
    refine ⟨proper_of_contentType? hopening, DocString.kept_assemble fun line hline ↦ ?_⟩
    obtain ⟨raw, hraw, rfl⟩ := List.mem_map.1 hline
    exact hone raw (by simp [Chunk.lines, hraw])

/-- A multiline string that was read from any text is written at any indentation so that reading
gives one token and no warning, in whatever language. The token has the delimiter, the type, and the
content without the carriage returns at the end of its lines; so it says the same exactly if no
line of the content ends with a carriage return. -/
theorem docString_read_again (h : Lexed.ofText l path source = .ok lexed) {t : Token}
    (ht : t ∈ lexed.tokens) (hkind : t.kind = .docString d type content) (location : Location)
    (span : Span) (indent : Nat) (l' : Language) (path' : Option Text) :
    ∃ t' : Token,
      Lexed.ofText l' path'
          (Text.unlines (DocString.lines indent ⟨content, type, d, location, span⟩)) =
        .ok ⟨[t'], []⟩ ∧
      t'.kind = .docString d type (DocString.chomped content) ∧
      (t'.kind = t.kind ↔ ∀ line ∈ Text.splitLines content, line.getLast? ≠ some '\r') := by
  obtain ⟨htype, hkept⟩ := kept_of_mem_ofText h ht hkind
  have hstring : Says .full l' (DocString.lines indent ⟨content, type, d, location, span⟩)
      [.docString d type (DocString.chomped content)] :=
    says_chompedString htype (fun _ ↦ hkept) indent
  obtain ⟨ts, hts, hread⟩ := hstring.exists_ofText path'
  simp only [TokenKind.upTo_full, List.map_cons, List.map_nil] at hts
  obtain ⟨t', rfl, ht'⟩ := List.map_eq_singleton_iff.1 hts
  refine ⟨t', hread, ht', ?_⟩
  rw [ht', hkind, ← hkept.chomped_eq_self_iff]
  exact ⟨fun heq ↦ (TokenKind.docString.inj heq).2.2, fun heq ↦ by rw [heq]⟩

def wordless : Language where
  code := "none"
  name := "none"
  native := "none"
  blocks := []
  steps := []

/-- A string with blank edges, a shallow line, a written and an open delimiter and a line that ends
with two carriage returns. -/
def frayedText : Text :=
  "  \"\"\" md\n\n \n    a\\\"\\\"\\\"b\"\"\n c\r\r\n  \"\"\""

/-- The token of that string. -/
def frayedToken : Token where
  kind := .docString .quotes (some "md".toList) "\n  a\"\"\"b\"\"\nc\r".toList
  location := ⟨none, 1, 3⟩
  span := ⟨2, 37, by decide⟩
  line := "  \"\"\" md"

theorem ofText_frayedText : Lexed.ofText wordless none frayedText =
    .ok ⟨[frayedToken], [⟨⟨none, 5, 2⟩, "c\r"⟩]⟩ := by
  have hread : (Lexed.ofText wordless none frayedText).toOption.map id =
      some ⟨[frayedToken], [⟨⟨none, 5, 2⟩, "c\r"⟩]⟩ := by
    decide +kernel
  obtain ⟨lexed, h, rfl⟩ := toOption_map_eq_some_iff.1 hread
  exact h

theorem docString_read_again_frayedToken :
    Lexed.ofText wordless none frayedText = .ok ⟨[frayedToken], [⟨⟨none, 5, 2⟩, "c\r"⟩]⟩ ∧
      ∃ t', Lexed.ofText wordless none (Text.unlines (DocString.lines 3
          ⟨"\n  a\"\"\"b\"\"\nc\r".toList, some "md".toList, .quotes, frayedToken.location,
            frayedToken.span⟩)) = .ok ⟨[t'], []⟩ ∧
        t'.kind = .docString .quotes (some "md".toList) "\n  a\"\"\"b\"\"\nc".toList := by
  obtain ⟨t', hread, hkind, -⟩ := docString_read_again ofText_frayedText List.mem_cons_self rfl
    frayedToken.location frayedToken.span 3 wordless none
  exact ⟨ofText_frayedText, t', hread, hkind⟩

/-- A content line that ended with two carriage returns keeps one, which is lost when the string is
written and read again. -/
theorem not_docString_read_again :
    ¬∀ (l l' : Language) (path path' : Option Text) (source : Text) (lexed : Lexed),
      Lexed.ofText l path source = .ok lexed → ∀ t ∈ lexed.tokens,
      ∀ (d : Delimiter) (type : Option Text) (content : Text),
      t.kind = .docString d type content →
      ∀ (location : Location) (span : Span) (indent : Nat), ∃ t' : Token,
        Lexed.ofText l' path'
            (Text.unlines (DocString.lines indent ⟨content, type, d, location, span⟩)) =
          .ok ⟨[t'], []⟩ ∧
        t'.kind = t.kind := by
  intro h
  obtain ⟨t', hread, hkind⟩ := h wordless wordless none none _ _ ofText_frayedText _
    List.mem_cons_self _ _ _ rfl frayedToken.location frayedToken.span 3
  have hother : (Lexed.ofText wordless none (Text.unlines (DocString.lines 3
      ⟨"\n  a\"\"\"b\"\"\nc\r".toList, some "md".toList, .quotes, frayedToken.location,
        frayedToken.span⟩))).toOption.map (fun lexed ↦ lexed.tokens.map (·.kind)) =
      some [.docString .quotes (some "md".toList) "\n  a\"\"\"b\"\"\nc".toList] := by
    decide +kernel
  rw [hread] at hother
  have heq : frayedToken.kind =
      .docString .quotes (some "md".toList) "\n  a\"\"\"b\"\"\nc".toList :=
    hkind.symm.trans (List.cons.inj (Option.some.inj hother)).1
  exact absurd heq (by decide)

end Gherkin
