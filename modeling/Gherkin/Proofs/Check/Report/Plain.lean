import Gherkin.Proofs.Check.Report.Passages

/-!
# Reports read off a text

A text of reports tells files, errors and warnings line by line. Where the path of a file could be
taken for something else, or what is told of it goes on over a line, the text may be read in more
than one way; else the passages can be read off it, each from its first line: the path ends at the
first colon, numbers and colons follow, a word, and what is to be said.

Main statement: `Document.shows_text_iff`.
-/

namespace Gherkin.Check

open Text (OneLine NoDigit noDigit_cons)

/-- A path that is on one line, ends at the first colon and begins no line that is indented. -/
structure PlainPath (path : Text) : Prop where
  oneLine : OneLine path
  no_colon : ':' ∉ path
  not_indented : path.head? ≠ some ' '

/-- A notice of which each text is on one line, and a column is told only with a line. -/
structure Notice.Plain (d : Notice) : Prop where
  message : OneLine d.message
  source : ∀ s ∈ d.source, OneLine s
  column : d.line = none → d.column = none

/-- A passage about a file that can be read off its lines. -/
def Passage.Plain : Passage → Prop
  | passed path name _ _ => PlainPath path ∧ OneLine name
  | resolved _ _ => False
  | noticed path _ d => PlainPath path ∧ d.Plain

/-- Texts that end where a character comes first are told apart by what stands in front of it. -/
theorem append_cons_inj {c : Char} {s s' rest rest' : Text} (hs : c ∉ s) (hs' : c ∉ s')
    (h : s ++ c :: rest = s' ++ c :: rest') : s = s' ∧ rest = rest' := by
  have hsplit := congrArg (List.splitOn c) h
  rw [List.splitOn_append_cons_self_of_not_mem hs, List.splitOn_append_cons_self_of_not_mem hs']
    at hsplit
  obtain rfl := (List.cons.inj hsplit).1
  exact ⟨rfl, (List.cons.inj (List.append_cancel_left h)).2⟩

/-- Numbers with a colon behind each can be read off what begins with them. -/
theorem numbers_inj {ns ns' : List Nat} {rest rest' : Text}
    (h : ns.flatMap (Text.ofNat · ++ [':']) ++ ' ' :: rest =
      ns'.flatMap (Text.ofNat · ++ [':']) ++ ' ' :: rest') : ns = ns' ∧ rest = rest' := by
  -- a blank is no digit, so one list of numbers ends where the other does
  have hblank {n : Nat} {s s' : Text} : Text.ofNat n ++ s ≠ ' ' :: s' := by
    intro heq
    obtain ⟨c, digits, hdigits⟩ : ∃ c digits, Text.ofNat n = c :: digits :=
      List.exists_cons_of_ne_nil Nat.toDigits_ne_nil
    have hdigit : c.isDigit := Text.isDigit_of_mem_ofNat (hdigits ▸ List.mem_cons_self)
    rw [hdigits] at heq
    rw [(List.cons.inj heq).1] at hdigit
    cases hdigit
  induction ns generalizing ns' with
  | nil =>
    cases ns' with
    | nil => exact ⟨rfl, (List.cons.inj h).2⟩
    | cons n' ns' =>
      rw [List.flatMap_cons, List.append_assoc, List.append_assoc] at h
      exact absurd h.symm hblank
  | cons n ns ih =>
    cases ns' with
    | nil =>
      rw [List.flatMap_cons, List.append_assoc, List.append_assoc] at h
      exact absurd h hblank
    | cons n' ns' =>
      simp only [List.flatMap_cons, List.append_assoc] at h
      obtain ⟨rfl, hmore⟩ := Text.ofNat_append_inj (noDigit_cons (by decide) _)
        (noDigit_cons (by decide) _) h
      obtain ⟨rfl, hrest⟩ := ih (List.cons.inj hmore).2
      exact ⟨rfl, hrest⟩

/-- What a line about a file tells can be read off it. -/
theorem lineAbout_inj {path path' word word' body body' : Text} {ns ns' : List Nat}
    (hpath : ':' ∉ path) (hpath' : ':' ∉ path') (hword : ':' ∉ word) (hword' : ':' ∉ word')
    (h : lineAbout path ns word body = lineAbout path' ns' word' body') :
    path = path' ∧ ns = ns' ∧ word = word' ∧ body = body' := by
  obtain ⟨rfl, hnumbers⟩ := append_cons_inj hpath hpath' h
  obtain ⟨rfl, hwords⟩ := numbers_inj hnumbers
  obtain ⟨rfl, hbody⟩ := append_cons_inj hword hword' hwords
  exact ⟨rfl, rfl, rfl, (List.cons.inj hbody).2⟩

theorem not_mem_counted {c : Char} (hdigit : c.isDigit = false) {n : Nat} {one more : Text}
    (hone : c ∉ ' ' :: one) (hmore : c ∉ ' ' :: more) : c ∉ counted n one more := by
  intro hc
  rcases List.mem_append.1 hc with hc | hc
  · rw [Text.isDigit_of_mem_ofNat hc] at hdigit
    cases hdigit
  · split at hc
    · exact hone hc
    · exact hmore hc

/-- The numbers behind a name can be read off from the end, where the last bracket opens. -/
theorem sized_inj {name name' : Text} {m m' n n' : Nat} (h : sized name m n = sized name' m' n') :
    name = name' ∧ m = m' ∧ n = n' := by
  have hsizes (m n : Nat) : '(' ∉ (sizes m n).reverse := by
    simp [sizes, not_mem_counted]
  have hreverse := congrArg List.reverse h
  simp only [sized, List.reverse_append, List.reverse_cons, List.append_assoc,
    List.singleton_append] at hreverse
  obtain ⟨hbrackets, hname⟩ := append_cons_inj (hsizes m n) (hsizes m' n') hreverse
  obtain ⟨rfl, hmore⟩ := counted_append_inj (List.reverse_inj.1 hbrackets)
  obtain ⟨rfl, -⟩ := counted_append_inj (List.cons.inj (List.cons.inj hmore).2).2
  exact ⟨List.reverse_inj.1 (List.cons.inj hname).2, rfl, rfl⟩

theorem word_injective {a b : Severity} (h : a.word = b.word) : a = b := by
  cases a with
  | error =>
    cases b with
    | error => rfl
    | warning => exact absurd h (by decide)
  | warning =>
    cases b with
    | error => exact absurd h (by decide)
    | warning => rfl

/-- The lines do not go on with one that is indented. -/
def NotIndented (lines : List Text) : Prop := ∀ line ∈ lines.head?, line.head? ≠ some ' '

theorem notIndented_lineAbout {path word body : Text} {ns : List Nat} (h : PlainPath path)
    (lines : List Text) : NotIndented (lineAbout path ns word body :: lines) := by
  rintro _ ⟨⟩
  cases path with
  | nil => simp [lineAbout]
  | cons c path => exact h.not_indented

theorem notIndented_flatMap_lines {ps : List Passage} (h : ∀ p ∈ ps, p.Plain) :
    NotIndented (ps.flatMap Passage.lines) := by
  cases ps with
  | nil => exact nofun
  | cons p ps =>
    have hp := h p List.mem_cons_self
    cases p with
    | passed => exact notIndented_lineAbout hp.1 _
    | resolved => exact hp.elim
    | noticed => exact notIndented_lineAbout hp.1 _

theorem Severity.no_colon (a : Severity) : ':' ∉ a.word := by
  cases a <;> decide

/-- The line and the column of a notice are told by the numbers. -/
theorem Notice.Plain.numbers_inj {d d' : Notice} (hd : d.Plain) (hd' : d'.Plain)
    (h : d.numbers = d'.numbers) : d.line = d'.line ∧ d.column = d'.column := by
  obtain ⟨_, line, column, _⟩ := d
  obtain ⟨_, line', column', _⟩ := d'
  have hcolumn : line = none → column = none := hd.column
  have hcolumn' : line' = none → column' = none := hd'.column
  cases line <;> cases line' <;> cases column <;> cases column' <;>
    simp_all [numbers]

/-- An indented line is told apart from lines that begin with none. -/
theorem indented_inj {source source' : Option Text} {rest rest' : List Text}
    (hrest : NotIndented rest) (hrest' : NotIndented rest')
    (h : source.toList.map (Text.blanks 4 ++ ·) ++ rest =
      source'.toList.map (Text.blanks 4 ++ ·) ++ rest') : source = source' ∧ rest = rest' := by
  have hindented {s : Text} {lines : List Text} : ¬ NotIndented ((Text.blanks 4 ++ s) :: lines) :=
    fun hnot ↦ hnot _ rfl rfl
  cases source with
  | none =>
    cases source' with
    | none => exact ⟨rfl, h⟩
    | some source' =>
      have hmore : rest = (Text.blanks 4 ++ source') :: rest' := h
      rw [hmore] at hrest
      exact absurd hrest hindented
  | some source =>
    cases source' with
    | none =>
      have hmore : (Text.blanks 4 ++ source) :: rest = rest' := h
      rw [← hmore] at hrest'
      exact absurd hrest' hindented
    | some source' =>
      obtain ⟨hsource, hrests⟩ := List.cons.inj h
      obtain rfl : source = source' := List.append_cancel_left hsource
      exact ⟨rfl, hrests⟩

/-- A notice is read off its first line and the indented line behind it, if there is one. -/
theorem noticed_inj {path path' : Text} {severity severity' : Severity} {d d' : Notice}
    (hp : (Passage.noticed path severity d).Plain)
    (hp' : (Passage.noticed path' severity' d').Plain)
    {rest rest' : List Text} (hrest : NotIndented rest) (hrest' : NotIndented rest')
    (h : (Passage.noticed path severity d).lines ++ rest =
      (Passage.noticed path' severity' d').lines ++ rest') :
    Passage.noticed path severity d = .noticed path' severity' d' ∧ rest = rest' := by
  obtain ⟨hpath, hd⟩ := hp
  obtain ⟨hpath', hd'⟩ := hp'
  obtain ⟨hline, hmore⟩ := List.cons.inj h
  obtain ⟨rfl, hnumbers, hword, hmessage⟩ := lineAbout_inj hpath.no_colon hpath'.no_colon
    severity.no_colon severity'.no_colon hline
  obtain rfl := word_injective hword
  obtain ⟨hlines, hcolumns⟩ := hd.numbers_inj hd' hnumbers
  obtain ⟨hsource, hrests⟩ := indented_inj hrest hrest' hmore
  have hnotice : d = d' := by
    obtain ⟨message, line, column, source⟩ := d
    rw [Notice.mk.injEq]
    exact ⟨hmessage, hlines, hcolumns, hsource⟩
  rw [hnotice]
  exact ⟨rfl, hrests⟩

/-- A passage is read off the lines that begin with it. -/
theorem passage_inj {p p' : Passage} (hp : p.Plain) (hp' : p'.Plain) {rest rest' : List Text}
    (hrest : NotIndented rest) (hrest' : NotIndented rest')
    (h : p.lines ++ rest = p'.lines ++ rest') : p = p' ∧ rest = rest' := by
  have hok : ':' ∉ "ok".toList := by decide
  have hword (a : Severity) : "ok".toList ≠ a.word := by cases a <;> decide
  cases p with
  | resolved => exact hp.elim
  | passed path name m n =>
    cases p' with
    | resolved => exact hp'.elim
    | passed path' name' m' n' =>
      obtain ⟨hline, hrests⟩ := List.cons.inj h
      obtain ⟨rfl, -, -, hsized⟩ := lineAbout_inj hp.1.no_colon hp'.1.no_colon hok hok hline
      obtain ⟨rfl, rfl, rfl⟩ := sized_inj hsized
      exact ⟨rfl, hrests⟩
    | noticed path' severity d =>
      obtain ⟨-, -, hsame, -⟩ := lineAbout_inj hp.1.no_colon hp'.1.no_colon hok severity.no_colon
        (List.cons.inj h).1
      exact absurd hsame (hword severity)
  | noticed path severity d =>
    cases p' with
    | resolved => exact hp'.elim
    | passed path' name' m' n' =>
      obtain ⟨-, -, hsame, -⟩ := lineAbout_inj hp.1.no_colon hp'.1.no_colon severity.no_colon hok
        (List.cons.inj h).1
      exact absurd hsame.symm (hword severity)
    | noticed path' severity' d' => exact noticed_inj hp hp' hrest hrest' h

theorem passages_inj {ps ps' : List Passage} (hps : ∀ p ∈ ps, p.Plain) (hps' : ∀ p ∈ ps', p.Plain)
    (h : ps.flatMap Passage.lines = ps'.flatMap Passage.lines) : ps = ps' := by
  have hne (p : Passage) : p.lines ≠ [] := by
    cases p <;> exact List.cons_ne_nil _ _
  induction ps generalizing ps' with
  | nil =>
    cases ps' with
    | nil => rfl
    | cons p' ps' => exact absurd (List.append_eq_nil_iff.1 h.symm).1 (hne p')
  | cons p ps ih =>
    cases ps' with
    | nil => exact absurd (List.append_eq_nil_iff.1 h).1 (hne p)
    | cons p' ps' =>
      obtain ⟨hp, hrest⟩ := List.forall_mem_cons.1 hps
      obtain ⟨hp', hrest'⟩ := List.forall_mem_cons.1 hps'
      obtain ⟨rfl, hmore⟩ := passage_inj hp hp' (notIndented_flatMap_lines hrest)
        (notIndented_flatMap_lines hrest') h
      rw [ih hrest hrest' hmore]

theorem oneLine_lineAbout {path word body : Text} (ns : List Nat) (hpath : OneLine path)
    (hword : OneLine word) (hbody : OneLine body) : OneLine (lineAbout path ns word body) := by
  have hnumbers : OneLine (ns.flatMap (Text.ofNat · ++ [':'])) := by
    intro c hc
    obtain ⟨n, -, hc⟩ := List.mem_flatMap.1 hc
    exact ((oneLine_ofNat n).append (by decide)) c hc
  have hcolon : OneLine [':'] := by decide
  have hblank : OneLine [' '] := by decide
  have hcolons : OneLine [':', ' '] := by decide
  exact hpath.append (hcolon.append (hnumbers.append (hblank.append (hword.append
    (hcolons.append hbody)))))

theorem oneLine_counted (n : Nat) {one more : Text} (hone : OneLine (' ' :: one))
    (hmore : OneLine (' ' :: more)) : OneLine (counted n one more) := by
  refine (oneLine_ofNat n).append ?_
  split
  · exact hone
  · exact hmore

theorem Passage.Plain.oneLine_of_mem_lines {p : Passage} (hp : p.Plain) {line : Text}
    (h : line ∈ p.lines) : OneLine line := by
  cases p with
  | resolved => exact hp.elim
  | passed path name m n =>
    obtain rfl := List.mem_singleton.1 h
    have hopen : OneLine [' ', '('] := by decide
    have hcomma : OneLine [',', ' '] := by decide
    have hscenarios : OneLine (counted m "scenario" "scenarios") :=
      oneLine_counted m (by decide) (by decide)
    have hexamples : OneLine (counted n "example" "examples") :=
      oneLine_counted n (by decide) (by decide)
    exact oneLine_lineAbout [] hp.1.oneLine (by decide) (hp.2.append (hopen.append
      (hscenarios.append (hcomma.append (hexamples.append (by decide))))))
  | noticed path severity d =>
    rcases List.mem_cons.1 h with rfl | h
    · exact oneLine_lineAbout _ hp.1.oneLine (by cases severity <;> decide) hp.2.message
    · obtain ⟨source, hsource, rfl⟩ := List.mem_map.1 h
      exact (Text.oneLine_blanks 4).append (hp.2.source source (Option.mem_toList.1 hsource))

/-- The text tells the passages, each of which can be read off its lines, and the counts. -/
structure Shows (t : Text) (ps : List Passage) (checked failed : Nat) : Prop where
  plain : ∀ p ∈ ps, p.Plain
  text_eq : t = Text.unlines (ps.flatMap Passage.lines ++ [summary checked failed])

/-- The text form of plain passages can be read in one way only. -/
theorem Document.shows_text_iff {d : Document} (h : ∀ p ∈ d.passages, p.Plain) {ps : List Passage}
    {checked failed : Nat} : Shows d.text ps checked failed ↔
      ps = d.passages ∧ checked = d.checked ∧ failed = d.failed := by
  have hone {ps : List Passage} (hps : ∀ p ∈ ps, p.Plain) (checked failed : Nat) :
      ∀ line ∈ ps.flatMap Passage.lines ++ [summary checked failed], OneLine line := by
    intro line hline
    rcases List.mem_append.1 hline with hline | hline
    · obtain ⟨p, hp, hline⟩ := List.mem_flatMap.1 hline
      exact (hps p hp).oneLine_of_mem_lines hline
    · rw [List.mem_singleton.1 hline]
      exact oneLine_summary checked failed
  constructor
  · rintro ⟨hplain, htext⟩
    have hlines := congrArg Text.splitLines htext
    rw [text, Text.splitLines_unlines (hone h _ _), Text.splitLines_unlines (hone hplain _ _)]
      at hlines
    obtain ⟨hpassages, hsummary⟩ := List.append_inj' (List.append_cancel_right hlines) rfl
    obtain ⟨hchecked, hfailed⟩ := summary_inj (List.cons.inj hsummary).1
    exact ⟨(passages_inj h hplain hpassages).symm, hchecked.symm, hfailed.symm⟩
  · rintro ⟨rfl, rfl, rfl⟩
    exact ⟨h, rfl⟩

example : Passage.Plain (.noticed "./a.feature".toList .warning
    ⟨"short".toList, some 2, some 1, some "y".toList⟩) :=
  ⟨⟨by decide, by decide, by decide⟩, ⟨by decide, by simp [OneLine], nofun⟩⟩

end Gherkin.Check
