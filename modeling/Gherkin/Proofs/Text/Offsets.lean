import Gherkin.Proofs.Text.Lines

/-!
# Where a byte stands

A byte offset of a text names a place if a character starts there or the text ends there. The text
before that place tells its line and its column: line feeds are counted, and characters since the
last of them. Physical lines are cut out of a text by offsets, so each of them can be found in the
text again, and its number and its indentation are those of the bytes at which its content starts
and ends.

Main statements: what a slice is (`slice?_eq_some_iff`), where the content of a physical line stands
(`lineAt_start`, `columnAt_start`, `lineAt_stop`), and that this is a slice (`slice?_content`).
-/

namespace Gherkin

namespace Text

theorem byteSize_eq_zero_iff {t : Text} : byteSize t = 0 ↔ t = [] := by
  cases t with
  | nil => simp
  | cons c t =>
    have hpos := c.utf8Size_pos
    simp only [byteSize_cons, List.cons_ne_nil, iff_false]
    omega

/-- Of two texts with which the same text begins, the one of fewer bytes begins the other. -/
theorem prefix_of_byteSize_le {s t source : Text} (hs : s <+: source) (ht : t <+: source)
    (hle : byteSize s ≤ byteSize t) : s <+: t := by
  rcases List.prefix_or_prefix_of_prefix hs ht with hst | ⟨r, rfl⟩
  · exact hst
  · have hr : byteSize r = 0 := by
      rw [byteSize_append] at hle
      omega
    obtain rfl := byteSize_eq_zero_iff.1 hr
    exact (List.append_nil t).symm ▸ List.prefix_rfl

theorem byteSize_le_of_prefix {s t : Text} (h : s <+: t) : byteSize s ≤ byteSize t := by
  obtain ⟨r, rfl⟩ := h
  rw [byteSize_append]
  omega

theorem takeBytes?_cons (c : Char) (t : Text) (n : Nat) :
    takeBytes? (c.utf8Size + n) (c :: t) = (takeBytes? n t).map (c :: ·) := by
  obtain ⟨m, hm⟩ := Nat.exists_eq_succ_of_ne_zero (Nat.pos_iff_ne_zero.1 c.utf8Size_pos)
  have hsum : c.utf8Size + n = (m + n) + 1 := by omega
  have hrest : m + n + 1 - c.utf8Size = n := by omega
  rw [hsum, takeBytes?, if_pos (by omega), hrest]

theorem dropBytes?_cons (c : Char) (t : Text) (n : Nat) :
    dropBytes? (c.utf8Size + n) (c :: t) = dropBytes? n t := by
  obtain ⟨m, hm⟩ := Nat.exists_eq_succ_of_ne_zero (Nat.pos_iff_ne_zero.1 c.utf8Size_pos)
  have hsum : c.utf8Size + n = (m + n) + 1 := by omega
  have hrest : m + n + 1 - c.utf8Size = n := by omega
  rw [hsum, dropBytes?, if_pos (by omega), hrest]

theorem takeBytes?_byteSize_append (front back : Text) :
    takeBytes? (byteSize front) (front ++ back) = some front := by
  induction front with
  | nil => rw [byteSize_nil, takeBytes?]
  | cons c front ih => rw [byteSize_cons, List.cons_append, takeBytes?_cons, ih, Option.map_some]

theorem dropBytes?_byteSize_append (front back : Text) :
    dropBytes? (byteSize front) (front ++ back) = some back := by
  induction front with
  | nil => rw [byteSize_nil, List.nil_append, dropBytes?]
  | cons c front ih => rw [byteSize_cons, List.cons_append, dropBytes?_cons, ih]

theorem takeBytes?_eq_some_iff {n : Nat} {t front : Text} :
    takeBytes? n t = some front ↔ front <+: t ∧ byteSize front = n := by
  constructor
  · intro h
    fun_induction takeBytes? n t generalizing front with
    | case1 t =>
      cases h
      exact ⟨List.nil_prefix, rfl⟩
    | case2 n => cases h
    | case3 n c t hle ih =>
      obtain ⟨rest, hrest, rfl⟩ := Option.map_eq_some_iff.1 h
      obtain ⟨hbegins, hsize⟩ := ih hrest
      exact ⟨(List.prefix_cons_inj c).2 hbegins, by rw [byteSize_cons]; omega⟩
    | case4 n c t hlt => cases h
  · rintro ⟨⟨back, rfl⟩, rfl⟩
    exact takeBytes?_byteSize_append front back

theorem dropBytes?_eq_some_iff {n : Nat} {t back : Text} :
    dropBytes? n t = some back ↔ ∃ front, t = front ++ back ∧ byteSize front = n := by
  constructor
  · intro h
    fun_induction dropBytes? n t with
    | case1 t =>
      cases h
      exact ⟨[], rfl, rfl⟩
    | case2 n => cases h
    | case3 n c t hle ih =>
      obtain ⟨front, rfl, hsize⟩ := ih h
      exact ⟨c :: front, rfl, by rw [byteSize_cons]; omega⟩
    | case4 n c t hlt => cases h
  · rintro ⟨front, rfl, rfl⟩
    exact dropBytes?_byteSize_append front back

/-- A slice is what stands between two places of a text. -/
theorem slice?_eq_some_iff {t covered : Text} {start stop : Nat} :
    slice? t start stop = some covered ↔ ∃ front back, t = front ++ (covered ++ back) ∧
      byteSize front = start ∧ byteSize (front ++ covered) = stop := by
  rw [slice?]
  constructor
  · intro h
    split at h
    · next hle =>
      obtain ⟨rest, hrest, hcovered⟩ := Option.bind_eq_some_iff.1 h
      obtain ⟨front, rfl, hfront⟩ := dropBytes?_eq_some_iff.1 hrest
      obtain ⟨⟨back, rfl⟩, hsize⟩ := takeBytes?_eq_some_iff.1 hcovered
      refine ⟨front, back, rfl, hfront, ?_⟩
      rw [byteSize_append]
      omega
    · cases h
  · rintro ⟨front, back, rfl, rfl, rfl⟩
    rw [byteSize_append, if_pos (Nat.le_add_right _ _), Nat.add_sub_cancel_left,
      Option.bind_eq_some_iff]
    exact ⟨covered ++ back, dropBytes?_eq_some_iff.2 ⟨front, rfl, rfl⟩,
      takeBytes?_eq_some_iff.2 ⟨⟨back, rfl⟩, rfl⟩⟩

/-- From where one slice starts to where a later one stops there is a slice, which begins with the
one and ends with the other. -/
theorem exists_slice?_between {t covered covered' : Text} {start stop start' stop' : Nat}
    (h : slice? t start stop = some covered) (h' : slice? t start' stop' = some covered')
    (hle : stop ≤ start') :
    ∃ between, slice? t start stop' = some (covered ++ (between ++ covered')) := by
  obtain ⟨front, back, ht, hstart, hstop⟩ := slice?_eq_some_iff.1 h
  obtain ⟨front', back', ht', hstart', hstop'⟩ := slice?_eq_some_iff.1 h'
  have hfront : front ++ covered <+: t := ⟨back, by rw [ht, List.append_assoc]⟩
  have hfront' : front' <+: t := ⟨covered' ++ back', ht'.symm⟩
  obtain ⟨between, rfl⟩ := prefix_of_byteSize_le hfront hfront' (by omega)
  refine ⟨between, slice?_eq_some_iff.2 ⟨front, back', ?_, hstart, ?_⟩⟩
  · rw [ht']
    simp only [List.append_assoc]
  · rw [← hstop']
    simp only [List.append_assoc]

/-- The text before a byte. -/
def before (source : Text) (n : Nat) : Text := (takeBytes? n source).getD []

/-- The line on which a byte stands, counted from one. -/
def lineAt (source : Text) (n : Nat) : Nat := (before source n).count '\n' + 1

/-- The column at which a byte stands, counted from one and in characters. -/
def columnAt (source : Text) (n : Nat) : Nat :=
  ((before source n).reverse.takeWhile fun c ↦ c ≠ '\n').length + 1

theorem before_byteSize {front source : Text} (h : front <+: source) :
    before source (byteSize front) = front := by
  rw [before, takeBytes?_eq_some_iff.2 ⟨h, rfl⟩, Option.getD_some]

/-- The text ends where a line does, or is empty. -/
def EndsLine (t : Text) : Prop := t.getLast?.all fun c ↦ c = '\n'

theorem EndsLine.append {s t : Text} (hs : EndsLine s) (ht : EndsLine t) : EndsLine (s ++ t) := by
  unfold EndsLine at *
  rw [List.getLast?_append]
  cases hlast : t.getLast? with
  | none => exact hs
  | some c => rwa [hlast] at ht

theorem endsLine_flatMap {α : Type} {write : α → Text} {as : List α}
    (h : ∀ a, EndsLine (write a)) : EndsLine (as.flatMap write) := by
  induction as with
  | nil => rfl
  | cons a as ih => exact (h a).append ih

theorem lineAt_append {front lead rest : Text} (hlead : OneLine lead) :
    lineAt (front ++ (lead ++ rest)) (byteSize (front ++ lead)) = front.count '\n' + 1 := by
  have hprefix : front ++ lead <+: front ++ (lead ++ rest) := ⟨rest, List.append_assoc ..⟩
  rw [lineAt, before_byteSize hprefix, List.count_append, List.count_eq_zero.2 hlead.not_mem,
    Nat.add_zero]

theorem columnAt_append {front lead rest : Text} (hfront : EndsLine front) (hlead : OneLine lead) :
    columnAt (front ++ (lead ++ rest)) (byteSize (front ++ lead)) = lead.length + 1 := by
  have hprefix : front ++ lead <+: front ++ (lead ++ rest) := ⟨rest, List.append_assoc ..⟩
  have hfree : ∀ c ∈ lead.reverse, decide (c ≠ '\n') = true := by
    intro c hc
    exact decide_eq_true (hlead c (List.mem_reverse.1 hc))
  have hstop : front.reverse.takeWhile (fun c ↦ decide (c ≠ '\n')) = [] := by
    unfold EndsLine at hfront
    rw [← List.head?_reverse] at hfront
    cases hrev : front.reverse with
    | nil => rfl
    | cons c cs =>
      rw [hrev, List.head?_cons, Option.all_some, decide_eq_true_eq] at hfront
      exact List.takeWhile_cons_of_neg (by simp [hfront])
  rw [columnAt, before_byteSize hprefix, List.reverse_append,
    List.takeWhile_append_of_pos hfree, hstop, List.append_nil, List.length_reverse]

/-- What stands behind whole lines and goes on in one line can be told apart from them. -/
theorem append_inj_of_endsLine {front front' lead lead' : Text} (hfront : EndsLine front)
    (hfront' : EndsLine front') (hlead : OneLine lead) (hlead' : OneLine lead')
    (h : front ++ lead = front' ++ lead') : front = front' ∧ lead = lead' := by
  have hcolumn {front lead : Text} (hfront : EndsLine front) (hlead : OneLine lead) :
      columnAt (front ++ lead) (byteSize (front ++ lead)) = lead.length + 1 := by
    simpa using @columnAt_append front lead [] hfront hlead
  have hlength : lead.length + 1 = lead'.length + 1 := by
    rw [← hcolumn hfront hlead, ← hcolumn hfront' hlead', h]
  exact List.append_inj' h (Nat.succ.inj hlength)

end Text

namespace SourceLine

open Text (OneLine EndsLine byteSize isSpace)

/-! ## Physical lines in their text -/

/-- The line is cut out of the text: its offset and its number are those of the byte at which it
starts, and what it holds is the rest of that line without a carriage return at the end. -/
def CutFrom (source : Text) (l : SourceLine) : Prop :=
  ∃ front raw back, source = front ++ (raw ++ back) ∧ l.text = chomp raw ∧ OneLine raw ∧
    byteSize front = l.offset ∧ front.count '\n' + 1 = l.number ∧ EndsLine front

theorem oneLine_of_mem_splitLines {source raw : Text} (h : raw ∈ Text.splitLines source) :
    OneLine raw := by
  intro c hc heq
  exact (Text.not_mem_of_mem_splitLines h).1 (heq ▸ hc)

/-- Lines that are counted from the end of what stands before them are cut out of the whole. -/
theorem cutFrom_of_mem_enumerate (front : Text) {raws : List Text} (hfront : EndsLine front)
    (hone : ∀ raw ∈ raws, OneLine raw) {l : SourceLine}
    (hl : l ∈ enumerate (front.count '\n' + 1) (byteSize front) raws) :
    l.CutFrom (front ++ Text.join ['\n'] raws) := by
  induction raws generalizing front with
  | nil => cases hl
  | cons raw raws ih =>
    obtain ⟨hraw, hraws⟩ := List.forall_mem_cons.1 hone
    rw [enumerate] at hl
    rcases List.mem_cons.1 hl with rfl | hl
    · cases raws with
      | nil => exact ⟨front, raw, [], by simp [Text.join], rfl, hraw, rfl, rfl, hfront⟩
      | cons next raws =>
        refine ⟨front, raw, '\n' :: Text.join ['\n'] (next :: raws), ?_, rfl, hraw, rfl, rfl,
          hfront⟩
        rw [Text.join, List.intercalate_cons_cons, List.append_assoc]
        rfl
    · -- the lines below are counted from the end of this one
      cases raws with
      | nil => cases hl
      | cons next raws =>
        have hends : EndsLine (front ++ (raw ++ ['\n'])) := by
          simp [EndsLine, List.getLast?_append]
        have hcount : (front ++ (raw ++ ['\n'])).count '\n' = front.count '\n' + 1 := by
          rw [List.count_append, List.count_append, List.count_eq_zero.2 hraw.not_mem]
          rfl
        have hsize : byteSize (front ++ (raw ++ ['\n'])) = byteSize front + byteSize raw + 1 := by
          rw [Text.byteSize_append, Text.byteSize_append, Nat.add_assoc]
          rfl
        have hrest := ih (front ++ (raw ++ ['\n'])) hends hraws
          (by rwa [hcount, hsize])
        have hjoin : Text.join ['\n'] (raw :: next :: raws) =
            raw ++ ['\n'] ++ Text.join ['\n'] (next :: raws) := List.intercalate_cons_cons
        rwa [List.append_assoc, ← hjoin] at hrest

/-- The physical lines of a text are cut out of it. -/
theorem cutFrom_of_mem_ofText {source : Text} {l : SourceLine} (hl : l ∈ ofText source) :
    l.CutFrom source := by
  have hcut := cutFrom_of_mem_enumerate [] rfl
    (fun raw hraw ↦ oneLine_of_mem_splitLines hraw) hl
  rwa [List.nil_append, Text.join, Text.splitLines, List.intercalate_splitOn] at hcut

section CutFrom

variable {source : Text} {l : SourceLine}

/-- What a line begins with stands in the text at the offset of the line. -/
theorem CutFrom.exists_append (h : l.CutFrom source) {lead rest : Text}
    (htext : l.text = lead ++ rest) :
    ∃ front back, source = front ++ (lead ++ (rest ++ back)) ∧ byteSize front = l.offset ∧
      front.count '\n' + 1 = l.number ∧ EndsLine front ∧ OneLine lead := by
  obtain ⟨front, raw, back, rfl, hchomp, hone, hsize, hcount, hends⟩ := h
  have hraw : ∃ cut, raw = l.text ++ cut := by
    rw [hchomp, chomp]
    split
    · next hlast =>
      obtain ⟨init, rfl⟩ := List.getLast?_eq_some_iff.1 hlast
      exact ⟨['\r'], by rw [List.dropLast_concat]⟩
    · exact ⟨[], (List.append_nil raw).symm⟩
  obtain ⟨cut, rfl⟩ := hraw
  rw [htext] at hone ⊢
  refine ⟨front, cut ++ back, by simp only [List.append_assoc], hsize, hcount, hends, ?_⟩
  exact fun c hc ↦ hone c (by simp [hc])

/-- A byte in a line stands on this line. -/
theorem CutFrom.lineAt_eq (h : l.CutFrom source) {lead rest : Text}
    (htext : l.text = lead ++ rest) :
    source.lineAt (l.offset + byteSize lead) = l.number := by
  obtain ⟨front, back, rfl, hsize, hcount, -, hlead⟩ := h.exists_append htext
  rw [← hsize, ← Text.byteSize_append, Text.lineAt_append hlead, hcount]

theorem CutFrom.columnAt_eq (h : l.CutFrom source) {lead rest : Text}
    (htext : l.text = lead ++ rest) :
    source.columnAt (l.offset + byteSize lead) = lead.length + 1 := by
  obtain ⟨front, back, rfl, hsize, -, hends, hlead⟩ := h.exists_append htext
  rw [← hsize, ← Text.byteSize_append, Text.columnAt_append hends hlead]

theorem lineAt_start (hl : l ∈ ofText source) : source.lineAt l.start = l.number :=
  (cutFrom_of_mem_ofText hl).lineAt_eq (Text.leading_append_trimStart l.text).symm

theorem columnAt_start (hl : l ∈ ofText source) : source.columnAt l.start = l.indent + 1 :=
  (cutFrom_of_mem_ofText hl).columnAt_eq (Text.leading_append_trimStart l.text).symm

theorem lineAt_stop (hl : l ∈ ofText source) : source.lineAt l.stop = l.number := by
  obtain ⟨b, -, hb⟩ := Text.exists_eq_trimEnd_append l.text
  exact (cutFrom_of_mem_ofText hl).lineAt_eq hb

/-- Trimming at the start and at the end leaves the content between the two. -/
theorem leading_append_content (h : l.content ≠ []) :
    Text.leading l.text ++ l.content = Text.trimEnd l.text := by
  obtain ⟨b, hb, ht⟩ := Text.exists_eq_trimEnd_append (Text.trimStart l.text)
  have hcontent : Text.trimEnd (Text.trimStart l.text) = l.content := rfl
  have hlast : (Text.leading l.text ++ l.content).getLast?.all fun c ↦ !isSpace c := by
    have hsolid := (Text.solid_trim l.text).last
    change l.content.getLast?.all _ at hsolid
    rw [List.getLast?_append, List.getLast?_eq_some_getLast h, Option.some_or]
    rwa [List.getLast?_eq_some_getLast h] at hsolid
  calc
    _ = Text.trimEnd (Text.leading l.text ++ l.content) := (Text.trimEnd_of_last hlast).symm
    _ = Text.trimEnd (Text.leading l.text ++ l.content ++ b) := (Text.trimEnd_append hb).symm
    _ = Text.trimEnd l.text := by
      rw [List.append_assoc, ← hcontent, ← ht, Text.leading_append_trimStart]

/-- The content of a line is the slice of the text at the span of the line. -/
theorem slice?_content (hl : l ∈ ofText source) (h : l.content ≠ []) :
    source.slice? l.start l.stop = some l.content := by
  obtain ⟨b, -, hb⟩ := Text.exists_eq_trimEnd_append l.text
  rw [← leading_append_content h, List.append_assoc] at hb
  obtain ⟨front, back, rfl, hsize, -⟩ := (cutFrom_of_mem_ofText hl).exists_append hb
  apply Text.slice?_eq_some_iff.2
  refine ⟨front ++ Text.leading l.text, b ++ back, by simp only [List.append_assoc], ?_, ?_⟩
  · rw [Text.byteSize_append, hsize, start]
  · rw [List.append_assoc, leading_append_content h, Text.byteSize_append, hsize, stop]

end CutFrom

/-- The line comes before the other, and its bytes do. -/
def Before (l l' : SourceLine) : Prop := l.number < l'.number ∧ l.stop < l'.offset

theorem byteSize_chomp_le (raw : Text) : byteSize (chomp raw) ≤ byteSize raw := by
  rw [chomp]
  split
  · exact Text.byteSize_le_of_prefix (List.dropLast_prefix raw)
  · exact Nat.le_refl _

theorem le_of_mem_enumerate {number offset : Nat} {raws : List Text} {l : SourceLine}
    (hl : l ∈ enumerate number offset raws) : number ≤ l.number ∧ offset ≤ l.offset := by
  induction raws generalizing number offset with
  | nil => cases hl
  | cons raw raws ih =>
    rcases List.mem_cons.1 hl with rfl | hl
    · exact ⟨Nat.le_refl _, Nat.le_refl _⟩
    · have hle := ih hl
      omega

theorem pairwise_enumerate (number offset : Nat) (raws : List Text) :
    (enumerate number offset raws).Pairwise Before := by
  induction raws generalizing number offset with
  | nil => exact .nil
  | cons raw raws ih =>
    apply List.Pairwise.cons _ (ih _ _)
    intro l hl
    have hle := le_of_mem_enumerate hl
    have hchomp := byteSize_chomp_le raw
    obtain ⟨b, -, hb⟩ := Text.exists_eq_trimEnd_append (chomp raw)
    have htrim := Text.byteSize_le_of_prefix ⟨b, hb.symm⟩
    refine ⟨?_, ?_⟩
    · dsimp only
      omega
    · unfold stop
      dsimp only
      omega

/-- The physical lines of a text come one after the other. -/
theorem pairwise_ofText (source : Text) : (ofText source).Pairwise Before :=
  pairwise_enumerate 1 0 _

end SourceLine

end Gherkin
