import Gherkin.Proofs.Feature.Printed

/-!
# How written features begin

The first line of a written feature names its language, or else it is a line of tags or the header,
which begins no comment. So the language in which the feature is read again is its own, or for an
English feature the one that is asked for.

Main statement: `declaredLanguage?_lines`.
-/

namespace Gherkin

open Text (Solid OneLine isSpace trim afterPrefix?)

section Beginning

variable {line : Text} {rest : List Text}

/-- The first line of a document is the first that is not blank. -/
theorem find?_content_ofText (h : ∀ l ∈ line :: rest, OneLine l) (hne : trim line ≠ []) :
    (((SourceLine.ofText (Text.unlines (line :: rest))).map (·.content)).find?
      fun content ↦ content ≠ []) = some (trim line) := by
  have hcontent : (SourceLine.ofText (Text.unlines (line :: rest))).map (·.content) =
      trim line :: (rest.map SourceLine.chomp ++ [[]]).map trim := by
    have htexts := congrArg (List.map trim) (SourceLine.map_text_ofText_unlines h)
    rwa [List.map_map, List.map_cons, List.cons_append, List.map_cons,
      SourceLine.trim_chomp] at htexts
  rw [hcontent, List.find?_cons_of_pos (by simpa using hne)]

/-- A document that begins with no comment names no language. -/
theorem declaredLanguage?_eq_none {c : Char} {t : Text} (h : ∀ l ∈ (c :: t) :: rest, OneLine l)
    (hspace : isSpace c = false) (hcomment : c ≠ '#') :
    declaredLanguage? (Text.unlines ((c :: t) :: rest)) = none := by
  obtain ⟨s, hs⟩ := Text.trim_cons hspace t
  have hfirst := find?_content_ofText h (hs ▸ List.cons_ne_nil c s)
  rw [declaredLanguage?, hfirst, hs]
  simp [afterPrefix?, Ne.symm hcomment]

/-- The line that names a language names it. -/
theorem declaredLanguage?_comment {code : Text} (hsolid : Solid code) (hne : code ≠ [])
    (h : ∀ l ∈ ("# language: ".toList ++ code) :: rest, OneLine l) :
    declaredLanguage? (Text.unlines (("# language: ".toList ++ code) :: rest)) = some code := by
  have hline : trim ("# language: ".toList ++ code) = "# language: ".toList ++ code :=
    (Solid.append (s := "# language: ".toList) rfl (by decide) hsolid.last hne).trim_eq
  have hfirst := find?_content_ofText h (by rw [hline]; simp)
  have hsign : afterPrefix? ['#'] ("# language: ".toList ++ code) =
      some (" language: ".toList ++ code) := rfl
  have hword : afterPrefix? "language".toList (Text.trimStart (" language: ".toList ++ code)) =
      some (": ".toList ++ code) := rfl
  have hcolon : afterPrefix? [':'] (Text.trimStart (": ".toList ++ code)) =
      some (" ".toList ++ code) := rfl
  have hcode : trim (" ".toList ++ code) = code := Text.trim_append (a := " ".toList) rfl hsolid
  rw [declaredLanguage?, hfirst, hline]
  simp only [Option.bind_eq_bind, Option.bind_some, hsign, hword, hcolon, hcode,
    List.isEmpty_eq_false_iff.2 hne]
  rfl

/-- The first line of a written header begins no comment, be it a line of tags or not. -/
theorem exists_head_of_header {d : Detail} {l : Language} (hl : l.Readable d) {h : Tree.Header}
    (hproper : ReadableLeaves d l h.leaves) (more : List Text) :
    ∃ c t rest, tagLines h.tags ++ ([headerLine h.keyword h.name] ++ more) = (c :: t) :: rest ∧
      isSpace c = false ∧ c ≠ '#' ∧ c ≠ '\ufeff' := by
  obtain ⟨htags, hline⟩ := readableLeaves_append_iff.1 hproper
  cases hnames : h.tags with
  | nil =>
    obtain ⟨hfind, -⟩ : (TokenKind.block h.kind h.keyword h.name).Proper d l :=
      hline _ List.mem_cons_self
    have hopens := hl.block_opens _ (List.mem_of_find?_eq_some hfind)
    cases hkeyword : h.keyword with
    | nil =>
      rw [hkeyword] at hopens
      cases hopens
    | cons c keyword =>
      simp only [hkeyword, opensLine, List.head?_cons, Option.any_some, Bool.and_eq_true,
        Bool.not_eq_true', decide_eq_true_eq, List.mem_cons, not_or] at hopens
      obtain ⟨hspace, hcomment, -, -, -, -, hmark, -⟩ := hopens
      obtain ⟨t, ht⟩ : ∃ t, headerLine (c :: keyword) h.name = c :: t := by
        rw [headerLine]
        split
        · exact ⟨_, rfl⟩
        · exact ⟨_, rfl⟩
      exact ⟨c, t, more, by rw [ht]; rfl, hspace, hcomment, hmark⟩
  | cons name names =>
    rw [hnames] at htags
    obtain ⟨-, -, hproper⟩ : (TokenKind.tags (name :: names)).Proper d l :=
      htags _ List.mem_cons_self
    obtain ⟨t, ht, -, -⟩ := join_tags hproper
    refine ⟨'@', t, [headerLine h.keyword h.name] ++ more, ?_, rfl, by decide, by decide⟩
    rw [← ht]
    rfl

end Beginning

/-- A written feature begins with no byte order mark and names its language, unless that is
English. -/
theorem declaredLanguage?_lines {d : Detail} {p : ParsedText} {n : Tree.FeatureNode} {f : Feature}
    (hf : p.toFeature = .ok f) (hp : p.tree = .document n) {code : Text}
    (hcode : Language.find? code = some p.language) (hl : p.language.Readable d)
    (hproper : ReadableLeaves d p.language n.leaves) (hone : ∀ line ∈ f.lines, OneLine line) :
    dropByteOrderMark f.display = f.display ∧
      declaredLanguage? f.display =
        if f.language.code = Language.defaultCode then none else some f.language.code := by
  obtain ⟨m, background, scenarios, hm, -, -, -, -, rfl⟩ := ParsedText.toFeature_eq_ok_iff.1 hf
  obtain rfl : n = m := Tree.document.inj (hp.symm.trans hm)
  obtain ⟨hsolid, -, hne⟩ := Language.code_solid_of_find? hcode
  obtain ⟨hheader, -⟩ := readableLeaves_append_iff.1 hproper
  simp only [Feature.display, Feature.lines, languageLines, List.append_assoc] at hone ⊢
  by_cases henglish : p.language.code = Language.defaultCode
  · simp only [if_pos henglish, List.nil_append] at hone ⊢
    obtain ⟨c, t, rest, hlines, hspace, hcomment, hmark⟩ := exists_head_of_header hl hheader _
    rw [hlines] at hone ⊢
    exact ⟨dropByteOrderMark_of_ne hmark _, declaredLanguage?_eq_none hone hspace hcomment⟩
  · simp only [if_neg henglish, List.singleton_append] at hone ⊢
    exact ⟨dropByteOrderMark_of_ne (by decide) _, declaredLanguage?_comment hsolid hne hone⟩

end Gherkin
