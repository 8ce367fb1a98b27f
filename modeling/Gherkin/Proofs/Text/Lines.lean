import Gherkin.Position

/-!
# Lines and the white space around them

A text is solid if it has white space at neither end, and it is one line if it holds no line feed.
Solid texts are what trimming gives and what it leaves alone, and texts that are one line each can
be joined to a document and read from it again, but for a carriage return at the end of a line.

Main statements: white space around a solid text is all that trimming takes away
(`trim_append_append`), and lines written down are the lines that are read
(`map_text_ofText_unlines`).
-/

namespace Gherkin

namespace Text

/-! ## Solid texts -/

/-- The text begins and ends with something else than white space, or is empty. -/
structure Solid (t : Text) : Prop where
  head : t.head?.all fun c ↦ !isSpace c
  last : t.getLast?.all fun c ↦ !isSpace c

instance (t : Text) : Decidable (Solid t) :=
  decidable_of_iff (t.head?.all (fun c ↦ !isSpace c) ∧ t.getLast?.all fun c ↦ !isSpace c)
    ⟨fun h ↦ ⟨h.1, h.2⟩, fun h ↦ ⟨h.head, h.last⟩⟩

theorem Solid.nil : Solid [] := ⟨rfl, rfl⟩

/-- Only the head and the end of two joined texts matter. -/
theorem Solid.append {s t : Text} (hs : s.head?.all fun c ↦ !isSpace c) (hs' : s ≠ [])
    (ht : t.getLast?.all fun c ↦ !isSpace c) (ht' : t ≠ []) : Solid (s ++ t) := by
  constructor
  · cases s with
    | nil => exact absurd rfl hs'
    | cons c s => exact hs
  · rw [List.getLast?_append, List.getLast?_eq_some_getLast ht', Option.some_or]
    rwa [List.getLast?_eq_some_getLast ht'] at ht

theorem head?_dropWhile_isSpace (t : Text) :
    (t.dropWhile isSpace).head?.all fun c ↦ !isSpace c := by
  have h := List.head?_dropWhile_not isSpace t
  cases hd : (t.dropWhile isSpace).head? with
  | none => rfl
  | some c =>
    rw [hd] at h
    simpa using h

theorem dropWhile_isSpace_of_head {t : Text} (h : t.head?.all fun c ↦ !isSpace c) :
    t.dropWhile isSpace = t := by
  cases t with
  | nil => rfl
  | cons c t => exact List.dropWhile_cons_of_neg (by simpa using h)

theorem trimStart_of_head {t : Text} (h : t.head?.all fun c ↦ !isSpace c) : trimStart t = t :=
  dropWhile_isSpace_of_head h

theorem trimEnd_of_last {t : Text} (h : t.getLast?.all fun c ↦ !isSpace c) : trimEnd t = t := by
  rw [trimEnd, dropWhile_isSpace_of_head (by rwa [List.head?_reverse]), List.reverse_reverse]

theorem Solid.trim_eq {t : Text} (h : Solid t) : trim t = t := by
  rw [trim, trimStart_of_head h.head, trimEnd_of_last h.last]

/-- Trimming the end cuts off white space. -/
theorem exists_eq_trimEnd_append (t : Text) : ∃ b, isBlank b ∧ t = trimEnd t ++ b := by
  refine ⟨(t.reverse.takeWhile isSpace).reverse, ?_, ?_⟩
  · simp [isBlank, List.all_takeWhile]
  · rw [trimEnd, ← List.reverse_append, List.takeWhile_append_dropWhile, List.reverse_reverse]

theorem isBlank_leading (t : Text) : isBlank (leading t) := List.all_takeWhile

/-- Trimming cuts off white space at both ends. -/
theorem exists_eq_append_trim_append (t : Text) :
    ∃ a b, isBlank a ∧ isBlank b ∧ t = a ++ (trim t ++ b) := by
  obtain ⟨b, hb, ht⟩ := exists_eq_trimEnd_append (trimStart t)
  refine ⟨leading t, b, isBlank_leading t, hb, ?_⟩
  rw [trim, ← ht, leading_append_trimStart]

theorem solid_trim (t : Text) : Solid (trim t) := by
  constructor
  · cases h : trim t with
    | nil => rfl
    | cons c s =>
      obtain ⟨b, -, hb⟩ := exists_eq_trimEnd_append (trimStart t)
      have hhead : (trimStart t).head? = some c := by
        rw [hb, show trimEnd (trimStart t) = c :: s from h]
        rfl
      have hsolid := head?_dropWhile_isSpace t
      rw [show t.dropWhile isSpace = trimStart t from rfl, hhead] at hsolid
      exact hsolid
  · rw [trim, trimEnd, List.getLast?_reverse]
    exact head?_dropWhile_isSpace _

/-- White space around a solid text is what trimming takes away. -/
theorem trim_append_append {a t b : Text} (ha : isBlank a) (ht : Solid t) (hb : isBlank b) :
    trim (a ++ (t ++ b)) = t := by
  rw [trim, trimStart_append ha]
  cases t with
  | nil =>
    have hnil : trimStart b = [] := by
      have htrim := trimStart_append (t := []) hb
      rwa [List.append_nil] at htrim
    rw [List.nil_append, hnil]
    rfl
  | cons c t =>
    rw [trimStart_of_head (t := c :: t ++ b) ht.head, trimEnd_append hb, trimEnd_of_last ht.last]

theorem trim_append {a t : Text} (ha : isBlank a) (ht : Solid t) : trim (a ++ t) = t := by
  simpa using trim_append_append ha ht (b := []) rfl

theorem isBlank_append {s t : Text} : isBlank (s ++ t) ↔ isBlank s ∧ isBlank t := by
  rw [isBlank, List.all_append, Bool.and_eq_true]
  exact Iff.rfl

theorem isBlank_iff_trim_eq_nil {t : Text} : isBlank t ↔ trim t = [] := by
  constructor
  · intro h
    simpa using trim_append_append (b := []) h Solid.nil rfl
  · intro h
    obtain ⟨a, b, ha, hb, ht⟩ := exists_eq_append_trim_append t
    rw [h, List.nil_append] at ht
    rw [ht, isBlank_append]
    exact ⟨ha, hb⟩

theorem isBlank_of_subset {s t : Text} (h : s ⊆ t) (ht : isBlank t) : isBlank s := by
  rw [isBlank, List.all_eq_true] at ht ⊢
  exact fun c hc ↦ ht c (h hc)

theorem isBlank_blanks (n : Nat) : isBlank (blanks n) := by
  simp [isBlank, blanks, isSpace]

theorem trim_subset (t : Text) : trim t ⊆ t := by
  obtain ⟨a, b, -, -, ht⟩ := exists_eq_append_trim_append t
  intro c hc
  rw [ht]
  simp [hc]

/-- A text that begins with something else than white space begins so when it is trimmed. -/
theorem trim_cons {c : Char} (hc : isSpace c = false) (t : Text) : ∃ s, trim (c :: t) = c :: s := by
  obtain ⟨b, hb, ht⟩ := exists_eq_trimEnd_append (c :: t)
  rw [trim, trimStart_of_head (by simpa using hc)]
  cases h : trimEnd (c :: t) with
  | nil =>
    rw [h, List.nil_append] at ht
    rw [← ht, isBlank, List.all_cons, hc, Bool.false_and] at hb
    cases hb
  | cons d s =>
    rw [h, List.cons_append] at ht
    exact ⟨s, by rw [(List.cons.inj ht).1]⟩

/-! ## Single lines -/

def OneLine (t : Text) : Prop := ∀ c ∈ t, c ≠ '\n'

instance (t : Text) : Decidable (OneLine t) := List.decidableBAll (fun c ↦ c ≠ '\n') t

theorem OneLine.mono {s t : Text} (h : OneLine t) (hst : s ⊆ t) : OneLine s :=
  fun c hc ↦ h c (hst hc)

theorem OneLine.append {s t : Text} (hs : OneLine s) (ht : OneLine t) : OneLine (s ++ t) := by
  intro c hc
  exact (List.mem_append.1 hc).elim (hs c) (ht c)

theorem oneLine_blanks (n : Nat) : OneLine (blanks n) := by
  intro c hc
  rw [List.eq_of_mem_replicate hc]
  decide

/-- A line feed is white space, so a text without any is one line. -/
theorem oneLine_of_not_isSpace {t : Text} (h : ∀ c ∈ t, isSpace c = false) : OneLine t := by
  rintro c hc rfl
  exact absurd (h _ hc) (by decide)

theorem OneLine.not_mem {t : Text} (h : OneLine t) : '\n' ∉ t := fun hc ↦ h _ hc rfl

theorem unlines_append (ls ls' : List Text) : unlines (ls ++ ls') = unlines ls ++ unlines ls' :=
  List.flatMap_append

theorem unlines_flatMap {α : Type} (as : List α) (lines : α → List Text) :
    unlines (as.flatMap lines) = as.flatMap fun a ↦ unlines (lines a) :=
  List.flatMap_assoc

theorem splitLines_unlines {lines : List Text} (h : ∀ line ∈ lines, OneLine line) :
    splitLines (unlines lines) = lines ++ [[]] := by
  induction lines with
  | nil => rfl
  | cons line lines ih =>
    obtain ⟨hline, hlines⟩ := List.forall_mem_cons.1 h
    calc
      splitLines (unlines (line :: lines)) = splitLines (line ++ '\n' :: unlines lines) := by
        simp [unlines]
      _ = line :: splitLines (unlines lines) :=
        List.splitOn_append_cons_self_of_not_mem hline.not_mem _
      _ = line :: lines ++ [[]] := by rw [ih hlines, List.cons_append]

/-- A text has a first line, even if there is nothing on it. -/
theorem exists_splitLines (t : Text) : ∃ first rest, splitLines t = first :: rest :=
  List.exists_cons_of_ne_nil (List.splitOnP_ne_nil _ t)

/-- A text that is closed by a line feed is written as its lines. -/
theorem unlines_splitLines (t : Text) : unlines (splitLines t) = t ++ ['\n'] := by
  have hjoin {lines : List Text} (hne : lines ≠ []) :
      unlines lines = ['\n'].intercalate lines ++ ['\n'] := by
    induction lines with
    | nil => exact absurd rfl hne
    | cons line lines ih =>
      cases lines with
      | nil => rw [List.intercalate_singleton]; exact List.append_nil _
      | cons next lines =>
        rw [List.intercalate_cons_cons, List.append_assoc, List.append_assoc,
          ← ih (List.cons_ne_nil _ _), ← List.append_assoc]
        rfl
  have hne : splitLines t ≠ [] := List.splitOnP_ne_nil _ t
  rw [hjoin hne, splitLines, List.intercalate_splitOn]

/-- The pieces between separators hold none, and nothing that the text does not hold. -/
theorem of_mem_splitOnP {p : Char → Bool} {t piece : Text} (h : piece ∈ t.splitOnP p) :
    (∀ c ∈ piece, p c = false) ∧ piece ⊆ t := by
  induction t generalizing piece with
  | nil =>
    obtain rfl : piece = [] := by simpa using h
    exact ⟨fun c hc ↦ absurd hc List.not_mem_nil, List.Subset.refl _⟩
  | cons c t ih =>
    rw [List.splitOnP_cons_eq_if_modifyHead] at h
    have hsub : ∀ {s : Text}, s ⊆ t → s ⊆ c :: t := List.subset_cons_of_subset c
    split at h
    · rcases List.mem_cons.1 h with rfl | h
      · exact ⟨fun d hd ↦ absurd hd List.not_mem_nil, List.nil_subset _⟩
      · exact ⟨(ih h).1, hsub (ih h).2⟩
    · next hc =>
      obtain ⟨first, rest, hsplit⟩ := List.exists_cons_of_ne_nil (List.splitOnP_ne_nil p t)
      rw [hsplit] at h ih
      rcases List.mem_cons.1 h with rfl | h
      · obtain ⟨hfree, hfirst⟩ := ih List.mem_cons_self
        exact ⟨List.forall_mem_cons.2 ⟨by simpa using hc, hfree⟩, List.cons_subset_cons c hfirst⟩
      · obtain ⟨hfree, hrest⟩ := ih (List.mem_cons_of_mem _ h)
        exact ⟨hfree, hsub hrest⟩

theorem not_mem_of_mem_splitLines {t line : Text} (h : line ∈ splitLines t) :
    '\n' ∉ line ∧ line ⊆ t := by
  obtain ⟨hfree, hsub⟩ := of_mem_splitOnP h
  exact ⟨fun hmem ↦ absurd (hfree _ hmem) (by decide), hsub⟩

end Text

namespace SourceLine

theorem map_text_enumerate (number offset : Nat) (raws : List Text) :
    (enumerate number offset raws).map (·.text) = raws.map chomp := by
  induction raws generalizing number offset with
  | nil => rfl
  | cons raw raws ih => rw [enumerate, List.map_cons, ih, List.map_cons]

theorem chomp_of_not_mem {line : Text} (h : '\r' ∉ line) : chomp line = line := by
  rw [chomp, if_neg fun hlast ↦ h (List.mem_of_getLast? hlast)]

/-- A line that ends in something else than white space is read as it stands. -/
theorem chomp_of_last {line : Text} (h : line.getLast?.all fun c ↦ !Text.isSpace c) :
    chomp line = line := by
  rw [chomp, if_neg]
  intro hlast
  rw [hlast] at h
  exact absurd h (by decide)

theorem chomp_subset (line : Text) : chomp line ⊆ line := by
  rw [chomp]
  split
  · exact List.dropLast_subset _
  · exact List.Subset.refl _

/-- A carriage return at the end of a line is white space. -/
theorem trim_chomp (line : Text) : Text.trim (chomp line) = Text.trim line := by
  rw [chomp]
  split
  · next hlast =>
    obtain ⟨front, rfl⟩ := List.getLast?_eq_some_iff.1 hlast
    have hreturn : Text.isBlank ['\r'] := by decide
    obtain ⟨a, b, ha, hb, hfront⟩ := Text.exists_eq_append_trim_append front
    calc
      Text.trim (front ++ ['\r']).dropLast = Text.trim front := by rw [List.dropLast_concat]
      _ = Text.trim (a ++ (Text.trim front ++ (b ++ ['\r']))) :=
        (Text.trim_append_append ha (Text.solid_trim front)
          (Text.isBlank_append.2 ⟨hb, hreturn⟩)).symm
      _ = Text.trim (front ++ ['\r']) := by
        rw [← List.append_assoc, ← List.append_assoc, List.append_assoc a, ← hfront]
  · rfl

/-- Lines that are written down are the lines that are read, with an empty one at the end. -/
theorem map_text_ofText_unlines {lines : List Text} (h : ∀ line ∈ lines, line.OneLine) :
    (ofText (Text.unlines lines)).map (·.text) = lines.map chomp ++ [[]] := by
  rw [ofText, map_text_enumerate, Text.splitLines_unlines h, List.map_append]
  rfl

/-- The lines of a text hold nothing that the text does not hold. -/
theorem text_subset_of_mem_ofText {source : Text} {l : SourceLine} (hl : l ∈ ofText source) :
    l.text.OneLine ∧ l.text ⊆ source := by
  have hmem : l.text ∈ (Text.splitLines source).map chomp := by
    rw [← map_text_enumerate]
    exact List.mem_map_of_mem hl
  obtain ⟨raw, hraw, htext⟩ := List.mem_map.1 hmem
  obtain ⟨hfeed, hsub⟩ := Text.not_mem_of_mem_splitLines hraw
  have hchomp : l.text ⊆ raw := htext ▸ chomp_subset raw
  exact ⟨fun c hc heq ↦ hfeed (heq ▸ hchomp hc), List.Subset.trans hchomp hsub⟩

end SourceLine

end Gherkin
