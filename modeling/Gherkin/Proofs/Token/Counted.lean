import Gherkin.Proofs.Token.Reach
import Gherkin.Proofs.Token.Says

/-!
# Which lines the tokens come from

A line is silent if it is blank or a comment. Where no multiline string is opened the tokens stand
for the lines that are not silent, one for each. Where there is nothing but one string, it runs from
the first line that is not silent, and what follows the line that closes it is silent.

Main statements: the number of tokens (`length_tokens`) and the lines of a lone string
(`loneString_of_tokens`).
-/

namespace Gherkin

open Text (OneLine)

variable {l : Language} {path : Option Text} {ls : List SourceLine} {lexed : Lexed}

instance (content : Text) : Decidable (Silent content) :=
  inferInstanceAs (Decidable (_ ∨ _))

/-- The tokens of chunks are those of the first and those of the others. -/
theorem Lexed.exists_of_ofChunks_cons {c : Chunk} {cs : List Chunk}
    (h : ofChunks l path (c :: cs) = .ok lexed) : ∃ first rest,
      ofChunk l path c = .ok first ∧ ofChunks l path cs = .ok rest ∧
        lexed.tokens = first.tokens ++ rest.tokens := by
  obtain ⟨first, hfirst, h⟩ := bind_eq_ok_iff.1 h
  obtain ⟨rest, hrest, h⟩ := bind_eq_ok_iff.1 h
  cases h
  exact ⟨first, rest, hfirst, hrest, rfl⟩

/-- A line that speaks for itself gives one token, which is no string. -/
theorem Lexed.exists_of_ofChunk_single {line : SourceLine}
    (h : ofChunk l path (.single line) = .ok lexed) :
    ∃ t, lexed.tokens = [t] ∧ t.isString = false := by
  rw [ofChunk] at h
  cases hclassify : Token.classify l line.content with
  | error e => rw [hclassify] at h; cases h
  | ok kind =>
    rw [hclassify] at h
    cases h
    exact ⟨_, rfl, Token.not_isString_ofLine hclassify⟩

/-- Where no string is opened each line that is not silent gives one token. -/
theorem length_tokens (h : Lexed.ofChunks l path (Chunk.ofLines ls) = .ok lexed)
    (hstring : ∀ t ∈ lexed.tokens, t.isString = false) :
    lexed.tokens.length = ls.countP fun x ↦ ¬Silent x.content := by
  fun_induction Chunk.ofLines ls generalizing lexed with
  | case1 =>
    cases h
    rfl
  | case2 x ls hnil ih =>
    obtain ⟨first, rest, hfirst, hrest, htokens⟩ := Lexed.exists_of_ofChunks_cons h
    cases hfirst
    rw [htokens, List.nil_append] at hstring ⊢
    rw [ih hrest hstring, List.countP_cons_of_neg (by simp [Silent, hnil])]
  | case3 x ls hnil hcomment ih =>
    obtain ⟨first, rest, hfirst, hrest, htokens⟩ := Lexed.exists_of_ofChunks_cons h
    cases hfirst
    rw [htokens, List.nil_append] at hstring ⊢
    rw [ih hrest hstring, List.countP_cons_of_neg (by simp [Silent, hcomment])]
  | case4 x ls hnil hcomment hopening ih =>
    obtain ⟨first, rest, hfirst, hrest, htokens⟩ := Lexed.exists_of_ofChunks_cons h
    obtain ⟨t, ht, -⟩ := Lexed.exists_of_ofChunk_single hfirst
    rw [htokens, ht] at hstring ⊢
    rw [List.singleton_append, List.length_cons,
      ih hrest fun u hu ↦ hstring u (List.mem_cons_of_mem _ hu),
      List.countP_cons_of_pos (by simp [Silent, hnil, hcomment])]
  | case5 x ls hnil hcomment d hd body =>
    obtain ⟨first, rest, hfirst, -, -⟩ := Lexed.exists_of_ofChunks_cons h
    cases hfirst
  | case6 x ls hnil hcomment d hd body closing after hrest =>
    obtain ⟨first, others, hfirst, -, htokens⟩ := Lexed.exists_of_ofChunks_cons h
    cases hfirst
    rw [htokens] at hstring
    cases hstring _ List.mem_cons_self

/-- Lines that give no token are silent. -/
theorem silent_of_tokens_eq_nil (h : Lexed.ofChunks l path (Chunk.ofLines ls) = .ok lexed)
    (hnil : lexed.tokens = []) : ∀ x ∈ ls, Silent x.content := by
  have hlength := length_tokens h (by rw [hnil]; exact List.forall_mem_nil _)
  rw [hnil, List.length_nil, eq_comm, List.countP_eq_zero] at hlength
  intro x hx
  simpa using hlength x hx

/-- Lines that hold one multiline string and are silent apart from it. -/
inductive LoneString (d : Delimiter) (content : Text) : List SourceLine → Prop
  | intro {before : List SourceLine} {opening : SourceLine} {body : List SourceLine}
    {closing : SourceLine} {after : List SourceLine} :
    (∀ x ∈ before, Silent x.content) → (∀ x ∈ after, Silent x.content) →
      Delimiter.opening? opening.content = some d →
      content = DocString.assemble d opening.indent (body.map (·.text)) →
      LoneString d content (before ++ opening :: (body ++ closing :: after))

theorem LoneString.cons {d : Delimiter} {content : Text} {x : SourceLine} (hx : Silent x.content)
    (h : LoneString d content ls) : LoneString d content (x :: ls) := by
  cases h with
  | intro hbefore hafter hopening hcontent =>
    exact .intro (List.forall_mem_cons.2 ⟨hx, hbefore⟩) hafter hopening hcontent

/-- The lines of a string with nothing beside it. -/
theorem loneString_of_tokens (h : Lexed.ofChunks l path (Chunk.ofLines ls) = .ok lexed)
    {d : Delimiter} {type : Option Text} {content : Text}
    (hkinds : lexed.tokens.map (·.kind) = [.docString d type content]) :
    LoneString d content ls := by
  fun_induction Chunk.ofLines ls generalizing lexed with
  | case1 =>
    cases h
    cases hkinds
  | case2 x ls hnil ih =>
    obtain ⟨first, rest, hfirst, hrest, htokens⟩ := Lexed.exists_of_ofChunks_cons h
    cases hfirst
    rw [htokens, List.nil_append] at hkinds
    exact (ih hrest hkinds).cons (.inl hnil)
  | case3 x ls hnil hcomment ih =>
    obtain ⟨first, rest, hfirst, hrest, htokens⟩ := Lexed.exists_of_ofChunks_cons h
    cases hfirst
    rw [htokens, List.nil_append] at hkinds
    exact (ih hrest hkinds).cons (.inr hcomment)
  | case4 x ls hnil hcomment hopening ih =>
    obtain ⟨first, rest, hfirst, hrest, htokens⟩ := Lexed.exists_of_ofChunks_cons h
    obtain ⟨t, ht, hnot⟩ := Lexed.exists_of_ofChunk_single hfirst
    rw [htokens, ht, List.singleton_append, List.map_cons] at hkinds
    rw [Token.isString, (List.cons.inj hkinds).1] at hnot
    cases hnot
  | case5 x ls hnil hcomment d' hd body =>
    obtain ⟨first, rest, hfirst, -, -⟩ := Lexed.exists_of_ofChunks_cons h
    cases hfirst
  | case6 x ls hnil hcomment d' hd body closing after hrest =>
    obtain ⟨first, rest, hfirst, hothers, htokens⟩ := Lexed.exists_of_ofChunks_cons h
    cases hfirst
    rw [htokens, List.singleton_append, List.map_cons] at hkinds
    obtain ⟨hkind, hnone⟩ := List.cons.inj hkinds
    obtain ⟨rfl, -, hcontent⟩ := TokenKind.docString.inj hkind
    have hafter := silent_of_tokens_eq_nil hothers (List.map_eq_nil_iff.1 hnone)
    have hlone : LoneString d' content
        ([] ++ x :: (ls.takeWhile (fun y ↦ !d'.closes y) ++ closing :: after)) :=
      .intro (fun _ hx ↦ absurd hx List.not_mem_nil) hafter hd hcontent.symm
    rwa [List.nil_append, ← hrest, List.takeWhile_append_dropWhile] at hlone

/-- Lines above as many lines that are not silent as there are tokens are silent. -/
theorem silent_of_length_tokens {xs ys rest : List SourceLine}
    (h : Lexed.ofChunks l path (Chunk.ofLines (xs ++ (ys ++ rest))) = .ok lexed)
    (hstring : ∀ t ∈ lexed.tokens, t.isString = false)
    (hys : ∀ y ∈ ys, ¬Silent y.content) (hlength : lexed.tokens.length = ys.length) :
    ∀ x ∈ xs, Silent x.content := by
  have hall : ys.countP (fun y ↦ ¬Silent y.content) = ys.length :=
    List.countP_eq_length.2 fun y hy ↦ by simpa using hys y hy
  have hcount := length_tokens h hstring
  rw [List.countP_append, List.countP_append, hall, hlength] at hcount
  have hnone : xs.countP (fun x ↦ ¬Silent x.content) = 0 := by omega
  intro x hx
  simpa using List.countP_eq_zero.1 hnone x hx

/-- Where one of two lists goes on after an item and the other after another, the items are the same
or one of them comes first. -/
theorem append_cons_eq_append_cons {α : Type} {xs ys us vs : List α} {x y : α}
    (h : xs ++ x :: us = ys ++ y :: vs) :
    (xs = ys ∧ x = y ∧ us = vs) ∨ (∃ m, ys = xs ++ x :: m ∧ us = m ++ y :: vs) ∨
      ∃ m, xs = ys ++ y :: m ∧ vs = m ++ x :: us := by
  rcases List.append_eq_append_iff.1 h with ⟨m, rfl, hm⟩ | ⟨m, rfl, hm⟩
  · cases m with
    | nil =>
      obtain ⟨rfl, rfl⟩ := List.cons.inj hm
      exact .inl ⟨(List.append_nil xs).symm, rfl, rfl⟩
    | cons z m =>
      obtain ⟨rfl, rfl⟩ := List.cons.inj hm
      exact .inr (.inl ⟨m, rfl, rfl⟩)
  · cases m with
    | nil =>
      obtain ⟨rfl, rfl⟩ := List.cons.inj hm
      exact .inl ⟨List.append_nil ys, rfl, rfl⟩
    | cons z m =>
      obtain ⟨rfl, rfl⟩ := List.cons.inj hm
      exact .inr (.inr ⟨m, rfl, rfl⟩)

theorem not_silent_of_opening? {content : Text} {d : Delimiter}
    (h : Delimiter.opening? content = some d) : ¬Silent content := by
  obtain ⟨hnil, hcomment⟩ := content_of_opening? h
  exact not_or_intro hnil hcomment

/-- The content of a string has more lines that are not blank than what is written for it, if the
string is opened above the line that is written to open it. -/
theorem not_opened_above {d d' : Delimiter} {content : Text} {indent : Nat}
    {opening opening' : SourceLine} {m b body : List SourceLine}
    (hcontent : content = DocString.assemble d' opening'.indent (b.map (·.text)))
    (hone : ∀ x ∈ b, OneLine x.text) (hopening : Delimiter.opening? opening.content = some d)
    (hbody : body.map (·.text) = (contentLines d indent content).map SourceLine.chomp) :
    ¬(m ++ opening :: body) <+: b := by
  rintro ⟨more, rfl⟩
  have hread : DocString.inked (Text.splitLines (DocString.assemble d' opening'.indent
      ((m ++ opening :: body ++ more).map (·.text)))) =
      DocString.inked ((m ++ opening :: body ++ more).map (·.text)) :=
    DocString.inked_assemble (List.forall_mem_map.2 hone)
  have hchomp : DocString.inked (body.map (·.text)) =
      DocString.inked (Text.splitLines content) := by
    rw [hbody, DocString.inked_map fun line _ ↦ ?_, DocString.inked_contentLines]
    rw [Text.isBlank_iff_trim_eq_nil, SourceLine.trim_chomp, Text.isBlank_iff_trim_eq_nil]
  have hopens : ¬Text.isBlank opening.text := by
    rw [Text.isBlank_iff_trim_eq_nil]
    exact (content_of_opening? hopening).1
  rw [← hcontent, List.map_append, List.map_append, List.map_cons, DocString.inked_append,
    DocString.inked_append] at hread
  have hcons : DocString.inked (opening.text :: body.map (·.text)) =
      DocString.inked (body.map (·.text)) + 1 :=
    List.countP_cons_of_pos (by simpa using hopens)
  omega

/-- A lone string that is written below some lines is opened where it is written to be, if reading
gives the content that it was written for. -/
theorem LoneString.silent_and_proper {d d' : Delimiter} {content : Text} {indent : Nat}
    {xs body : List SourceLine} {opening closing ending : SourceLine}
    (h : LoneString d' content (xs ++ opening :: (body ++ [closing, ending])))
    (hone : ∀ x ∈ xs ++ opening :: (body ++ [closing, ending]), OneLine x.text)
    (hopening : Delimiter.opening? opening.content = some d) (hclosing : ¬Silent closing.content)
    (hbody : body.map (·.text) = (contentLines d indent content).map SourceLine.chomp)
    (hreturn : ∀ x ∈ body ++ [closing, ending], '\r' ∉ x.text) :
    (∀ x ∈ xs, Silent x.content) ∧ DocString.Proper d content := by
  generalize hlines : xs ++ opening :: (body ++ [closing, ending]) = lines at h hone
  cases h with
  | @intro before opening' b closing' after hbefore hafter hopening' hcontent =>
    have hb : ∀ x ∈ b, OneLine x.text := fun x hx ↦ hone x (by simp [hx])
    rcases append_cons_eq_append_cons hlines with
      ⟨rfl, rfl, hrest⟩ | ⟨m, rfl, -⟩ | ⟨m, rfl, hrest⟩
    · obtain rfl := Option.some.inj (hopening.symm.trans hopening')
      have hb' : ∀ x ∈ b, '\r' ∉ x.text := fun x hx ↦ hreturn x (by rw [hrest]; simp [hx])
      refine ⟨hbefore, ?_⟩
      rw [hcontent]
      exact DocString.proper_assemble (List.forall_mem_map.2 fun x hx ↦ ⟨hb x hx, hb' x hx⟩)
    · -- the string is not opened below the line that is written to open it
      exact absurd (hbefore opening (by simp)) (not_silent_of_opening? hopening)
    · -- nor above it
      have hwithin : (m ++ opening :: body) <+: b := by
        have hsplit : (m ++ opening :: body) ++ closing :: [ending] = b ++ closing' :: after := by
          rw [hrest, List.append_assoc, List.cons_append]
        rcases append_cons_eq_append_cons hsplit with ⟨heq, -, -⟩ | ⟨m', rfl, -⟩ | ⟨m', -, hlast⟩
        · exact heq ▸ List.prefix_rfl
        · exact List.prefix_append _ _
        · exact absurd (hafter closing (by rw [hlast]; simp)) hclosing
      exact absurd hwithin (not_opened_above hcontent hb hopening hbody)

end Gherkin
