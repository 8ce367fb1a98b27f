import Gherkin.Regex.CharSet
import Mathlib.Data.List.Sort
import Mathlib.Tactic.Common

/-!
# What sets of characters hold

The algebra on ranges of code points does what the names of its operations say, as long as the ends
of all ranges are characters: a union holds the characters of both sets, a complement all the other
characters. Surrogates are no characters, so two ranges on both sides of them count as touching.

Main statements: a set that is put in order holds what its ranges hold (`holds_melt`), a complement
holds exactly what the set does not (`holds_gaps`), and halving finds a code point in ordered ranges
exactly where one of them holds it (`Unicode.RangeTable.contains_iff`).
-/

namespace Gherkin.Unicode

def Holds (rs : Ranges) (n : Nat) : Prop := ∃ r ∈ rs, r.1 ≤ n ∧ n ≤ r.2

@[simp] theorem not_holds_nil (n : Nat) : ¬Holds [] n := by
  simp [Holds]

@[simp] theorem holds_cons {r : Nat × Nat} {rs : Ranges} {n : Nat} :
    Holds (r :: rs) n ↔ r.1 ≤ n ∧ n ≤ r.2 ∨ Holds rs n := by
  simp [Holds]

/-- The ends of a range are characters and stand in the right order. -/
structure ProperRange (r : Nat × Nat) : Prop where
  le : r.1 ≤ r.2
  fst : r.1.isValidChar
  snd : r.2.isValidChar

instance (r : Nat × Nat) : Decidable (ProperRange r) :=
  decidable_of_iff (r.1 ≤ r.2 ∧ r.1.isValidChar ∧ r.2.isValidChar)
    ⟨fun ⟨h₁, h₂, h₃⟩ ↦ ⟨h₁, h₂, h₃⟩, fun h ↦ ⟨h.le, h.fst, h.snd⟩⟩

/-- Proper ranges in increasing order, none of which overlap. -/
structure Ascending (rs : Ranges) : Prop where
  apart : rs.Pairwise fun r s ↦ r.2 < s.1
  proper : ∀ r ∈ rs, ProperRange r

theorem Ascending.head {r : Nat × Nat} {rs : Ranges} (h : Ascending (r :: rs)) :
    ProperRange r ∧ ∀ s ∈ rs, r.2 < s.1 :=
  ⟨h.proper r List.mem_cons_self, (List.pairwise_cons.1 h.apart).1⟩

theorem Ascending.tail {r : Nat × Nat} {rs : Ranges} (h : Ascending (r :: rs)) : Ascending rs :=
  ⟨(List.pairwise_cons.1 h.apart).2, fun s hs ↦ h.proper s (List.mem_cons_of_mem r hs)⟩

theorem Ascending.cons {r : Nat × Nat} {rs : Ranges} (hr : ProperRange r) (hrs : Ascending rs)
    (h : ∀ s ∈ rs, r.2 < s.1) : Ascending (r :: rs) :=
  ⟨List.pairwise_cons.2 ⟨h, hrs.apart⟩, by
    intro s hs
    rcases List.mem_cons.1 hs with rfl | hs
    · exact hr
    · exact hrs.proper s hs⟩

theorem le_lastCode {n : Nat} (hn : n.isValidChar) : n ≤ lastCode := by
  simp only [Nat.isValidChar] at hn
  unfold lastCode
  omega

theorem lt_codeAfter (n : Nat) : n < codeAfter n := by
  unfold codeAfter
  split <;> omega

theorem codeBefore_lt {n : Nat} (hn : 0 < n) : codeBefore n < n := by
  unfold codeBefore
  split <;> omega

theorem codeAfter_le_iff {a n : Nat} (hn : n.isValidChar) : codeAfter a ≤ n ↔ a < n := by
  unfold codeAfter
  simp only [Nat.isValidChar] at hn
  split <;> omega

theorem le_codeBefore_iff {a n : Nat} (hn : n.isValidChar) (ha : 0 < a) :
    n ≤ codeBefore a ↔ n < a := by
  unfold codeBefore
  simp only [Nat.isValidChar] at hn
  split <;> omega

/-- Behind a character comes another one, unless it is the last. -/
theorem isValidChar_codeAfter {n : Nat} (hn : n.isValidChar) :
    (codeAfter n).isValidChar ∨ lastCode < codeAfter n := by
  unfold codeAfter lastCode
  simp only [Nat.isValidChar] at hn ⊢
  split <;> omega

theorem isValidChar_codeBefore {n : Nat} (hn : n.isValidChar) (hpos : 0 < n) :
    (codeBefore n).isValidChar := by
  unfold codeBefore
  simp only [Nat.isValidChar] at hn ⊢
  split <;> omega

theorem Ascending.codeAfter_le {r : Nat × Nat} {rs : Ranges} (h : Ascending (r :: rs)) :
    ∀ s ∈ rs, codeAfter r.2 ≤ s.1 := by
  intro s hs
  exact (codeAfter_le_iff (h.tail.proper s hs).fst).2 (h.head.2 s hs)

theorem le_of_mem_gaps {start : Nat} {rs : Ranges} (hrs : Ascending rs)
    (hstart : ∀ r ∈ rs, start ≤ r.1) : ∀ r ∈ gaps start rs, start ≤ r.1 := by
  induction rs generalizing start with
  | nil => simp [gaps]
  | cons r rs ih =>
    have hlater := ih hrs.tail hrs.codeAfter_le
    have hle : start ≤ codeAfter r.2 :=
      calc start ≤ r.1 := hstart r List.mem_cons_self
        _ ≤ r.2 := hrs.head.1.le
        _ ≤ codeAfter r.2 := (lt_codeAfter r.2).le
    intro s hs
    unfold gaps at hs
    split at hs
    · rcases List.mem_cons.1 hs with rfl | hs
      · exact le_rfl
      · exact hle.trans (hlater s hs)
    · exact hle.trans (hlater s hs)

/-- The gaps between ranges hold the characters that the ranges do not. -/
theorem holds_gaps {start : Nat} {rs : Ranges} (hrs : Ascending rs)
    (hstart : ∀ r ∈ rs, start ≤ r.1) {n : Nat} (hn : n.isValidChar) :
    Holds (gaps start rs) n ↔ start ≤ n ∧ ¬Holds rs n := by
  induction rs generalizing start with
  | nil =>
    have hlast := le_lastCode hn
    unfold gaps
    split <;> simp <;> omega
  | cons r rs ih =>
    obtain ⟨hr, hrest⟩ := hrs.head
    have hlater := ih hrs.tail hrs.codeAfter_le
    rw [codeAfter_le_iff hn] at hlater
    have hhead := hstart r List.mem_cons_self
    have hle := hr.le
    -- the later ranges lie behind this one
    have hbehind : Holds rs n → r.2 < n := by
      rintro ⟨s, hs, hsn, -⟩
      exact (hrest s hs).trans_le hsn
    unfold gaps
    split
    · next hlt =>
      have hbefore := le_codeBefore_iff hn (Nat.zero_lt_of_lt hlt)
      simp only [holds_cons, hlater, hbefore]
      grind
    · simp only [holds_cons, hlater]
      grind

theorem Ascending.gaps {start : Nat} {rs : Ranges} (hrs : Ascending rs)
    (hstart : ∀ r ∈ rs, start ≤ r.1) (hvalid : start.isValidChar ∨ lastCode < start) :
    Ascending (gaps start rs) := by
  induction rs generalizing start with
  | nil =>
    unfold Unicode.gaps
    split
    · next hle =>
      have hlast : lastCode.isValidChar := by decide
      have hstartValid := hvalid.resolve_right (by omega)
      exact .cons ⟨hle, hstartValid, hlast⟩ ⟨.nil, by simp⟩ (by simp)
    · exact ⟨.nil, by simp⟩
  | cons r rs ih =>
    obtain ⟨hr, -⟩ := hrs.head
    have hlater := ih hrs.tail hrs.codeAfter_le (isValidChar_codeAfter hr.snd)
    unfold Unicode.gaps
    split
    · next hlt =>
      have hpos : 0 < r.1 := Nat.zero_lt_of_lt hlt
      have hlast := le_lastCode hr.fst
      have hstartValid := hvalid.resolve_right (by omega)
      have hproper : ProperRange (start, codeBefore r.1) :=
        ⟨(le_codeBefore_iff hstartValid hpos).2 hlt, hstartValid,
          isValidChar_codeBefore hr.fst hpos⟩
      refine .cons hproper hlater fun s hs ↦ ?_
      calc codeBefore r.1 < r.1 := codeBefore_lt hpos
        _ ≤ r.2 := hr.le
        _ < codeAfter r.2 := lt_codeAfter r.2
        _ ≤ s.1 := le_of_mem_gaps hrs.tail hrs.codeAfter_le s hs
    · exact hlater

section Places

variable {rs : Ranges} {i j n : Nat} {r s : Nat × Nat}

theorem Ascending.snd_lt_fst (hrs : Ascending rs) (hij : i < j) (hr : rs[i]? = some r)
    (hs : rs[j]? = some s) : r.2 < s.1 := by
  obtain ⟨hi, rfl⟩ := List.getElem?_eq_some_iff.1 hr
  obtain ⟨hj, rfl⟩ := List.getElem?_eq_some_iff.1 hs
  exact List.pairwise_iff_getElem.1 hrs.apart i j hi hj hij

theorem Ascending.fst_le_snd (hrs : Ascending rs) (hr : rs[i]? = some r) : r.1 ≤ r.2 :=
  (hrs.proper r (List.mem_of_getElem? hr)).le

/-- A range that holds a code point stands before every range that begins behind it. -/
theorem Ascending.lt_of_lt_fst (hrs : Ascending rs) (hr : rs[i]? = some r) (hs : rs[j]? = some s)
    (hn : r.1 ≤ n) (hlt : n < s.1) : i < j := by
  rcases Nat.lt_trichotomy i j with hij | rfl | hji
  · exact hij
  · rw [Option.some.inj (hr.symm.trans hs)] at hn
    omega
  · have hapart := hrs.snd_lt_fst hji hs hr
    have hle := hrs.fst_le_snd hs
    omega

/-- A range that holds a code point stands behind every range that ends before it. -/
theorem Ascending.lt_of_snd_lt (hrs : Ascending rs) (hr : rs[i]? = some r) (hs : rs[j]? = some s)
    (hn : n ≤ r.2) (hlt : s.2 < n) : j < i := by
  rcases Nat.lt_trichotomy j i with hji | rfl | hij
  · exact hji
  · rw [Option.some.inj (hr.symm.trans hs)] at hn
    omega
  · have hapart := hrs.snd_lt_fst hij hr hs
    have hle := hrs.fst_le_snd hs
    omega

end Places

namespace RangeTable

theorem search_iff {rs : Ranges} (hrs : Ascending rs) (n lo hi : Nat) (hhi : hi ≤ rs.length) :
    search ⟨rs.toArray⟩ n lo hi = true ↔
      ∃ i, lo ≤ i ∧ i < hi ∧ ∃ r, rs[i]? = some r ∧ r.1 ≤ n ∧ n ≤ r.2 := by
  fun_induction search ⟨rs.toArray⟩ n lo hi with
  | case1 lo hi hlt mid hmid =>
    simp only [List.getElem?_toArray, List.getElem?_eq_none_iff] at hmid
    omega
  | case2 lo hi hlt mid first last hmid hbefore ih =>
    rw [List.getElem?_toArray] at hmid
    refine (ih (by omega)).trans ⟨?_, ?_⟩
    · rintro ⟨i, hlo, hi, h⟩
      exact ⟨i, hlo, by omega, h⟩
    · rintro ⟨i, hlo, hi, r, hr, hfirst, hlast⟩
      exact ⟨i, hlo, hrs.lt_of_lt_fst hr hmid hfirst hbefore, r, hr, hfirst, hlast⟩
  | case3 lo hi hlt mid first last hmid hbefore hbehind ih =>
    rw [List.getElem?_toArray] at hmid
    refine (ih (by omega)).trans ⟨?_, ?_⟩
    · rintro ⟨i, hlo, hi, h⟩
      exact ⟨i, by omega, hi, h⟩
    · rintro ⟨i, hlo, hi, r, hr, hfirst, hlast⟩
      exact ⟨i, hrs.lt_of_snd_lt hr hmid hlast hbehind, hi, r, hr, hfirst, hlast⟩
  | case4 lo hi hlt mid first last hmid hbefore hbehind =>
    rw [List.getElem?_toArray] at hmid
    exact iff_of_true rfl ⟨mid, by omega, by omega, _, hmid, by omega, by omega⟩
  | case5 lo hi hlt =>
    simp only [Bool.false_eq_true, false_iff, not_exists, not_and]
    omega

/-- Halving finds a character in ordered ranges exactly where one of them holds it. -/
theorem contains_iff {rs : Ranges} (hrs : Ascending rs) (c : Char) :
    contains ⟨rs.toArray⟩ c = true ↔ Holds rs c.toNat := by
  unfold contains
  rw [search_iff hrs _ _ _ (by simp), Holds]
  constructor
  · rintro ⟨i, -, -, r, hr, hn⟩
    exact ⟨r, List.mem_of_getElem? hr, hn⟩
  · rintro ⟨r, hr, hn⟩
    obtain ⟨i, hi, rfl⟩ := List.getElem_of_mem hr
    exact ⟨i, Nat.zero_le _, by simpa using hi, _, List.getElem?_eq_getElem hi, hn⟩

end RangeTable

/-- Proper ranges in increasing order of their first code points. They may overlap. -/
structure Sorted (rs : Ranges) : Prop where
  le : rs.Pairwise fun r s ↦ r.1 ≤ s.1
  proper : ∀ r ∈ rs, ProperRange r

theorem Sorted.head {r : Nat × Nat} {rs : Ranges} (h : Sorted (r :: rs)) :
    ProperRange r ∧ ∀ s ∈ r :: rs, r.1 ≤ s.1 :=
  ⟨h.proper r List.mem_cons_self,
    List.forall_mem_cons.2 ⟨le_rfl, (List.pairwise_cons.1 h.le).1⟩⟩

theorem Sorted.tail {r : Nat × Nat} {rs : Ranges} (h : Sorted (r :: rs)) : Sorted rs :=
  ⟨(List.pairwise_cons.1 h.le).2, fun s hs ↦ h.proper s (List.mem_cons_of_mem r hs)⟩

variable {a b c d : Nat} {rest : Ranges}

/-- Two ranges that overlap or touch can be melted into one. -/
theorem Sorted.merge (h : Sorted ((a, b) :: (c, d) :: rest)) : Sorted ((a, max b d) :: rest) := by
  obtain ⟨hab, hle⟩ := h.head
  have hcd := h.tail.head.1
  have hproper : ProperRange (a, max b d) := by
    refine ⟨hab.le.trans (Nat.le_max_left b d), hab.fst, ?_⟩
    rcases Nat.le_total b d with hbd | hbd
    · rw [Nat.max_eq_right hbd]
      exact hcd.snd
    · rw [Nat.max_eq_left hbd]
      exact hab.snd
  exact ⟨List.pairwise_cons.2 ⟨fun s hs ↦ hle s (by simp [hs]), h.tail.tail.le⟩,
    List.forall_mem_cons.2 ⟨hproper, h.tail.tail.proper⟩⟩

theorem Sorted.holds_merge (h : Sorted ((a, b) :: (c, d) :: rest)) (htouch : c ≤ codeAfter b)
    {n : Nat} (hn : n.isValidChar) :
    Holds ((a, max b d) :: rest) n ↔ Holds ((a, b) :: (c, d) :: rest) n := by
  have hac : a ≤ c := h.head.2 (c, d) (by simp)
  have hafter : b < n → codeAfter b ≤ n := (codeAfter_le_iff hn).2
  have hboth : a ≤ n ∧ n ≤ max b d ↔ a ≤ n ∧ n ≤ b ∨ c ≤ n ∧ n ≤ d := by
    omega
  simp only [holds_cons, hboth, or_assoc]

end Gherkin.Unicode

namespace Gherkin.Regex.CharSet

open Unicode (Holds Ascending Sorted ProperRange Ranges)

theorem le_of_mem_melt {rs : Ranges} (hrs : Sorted rs) {n : Nat} (hn : ∀ r ∈ rs, n ≤ r.1) :
    ∀ r ∈ melt rs, n ≤ r.1 := by
  fun_induction melt rs with
  | case1 => simp
  | case2 r => exact hn
  | case3 a b c d rest htouch ih =>
    obtain ⟨hfirst, hlater⟩ := List.forall_mem_cons.1 hn
    exact ih hrs.merge
      (List.forall_mem_cons.2 ⟨hfirst, fun r hr ↦ hlater r (List.mem_cons_of_mem _ hr)⟩)
  | case4 a b c d rest hapart ih =>
    obtain ⟨hfirst, hlater⟩ := List.forall_mem_cons.1 hn
    exact List.forall_mem_cons.2 ⟨hfirst, ih hrs.tail hlater⟩

theorem ascending_melt {rs : Ranges} (hrs : Sorted rs) : Ascending (melt rs) := by
  fun_induction melt rs with
  | case1 => exact ⟨.nil, by simp⟩
  | case2 r => exact ⟨by simp, hrs.proper⟩
  | case3 a b c d rest htouch ih => exact ih hrs.merge
  | case4 a b c d rest hapart ih =>
    refine .cons hrs.head.1 (ih hrs.tail) fun r hr ↦ ?_
    calc b < Unicode.codeAfter b := Unicode.lt_codeAfter b
      _ ≤ c := (not_le.1 hapart).le
      _ ≤ r.1 := le_of_mem_melt hrs.tail hrs.tail.head.2 r hr

theorem holds_melt {rs : Ranges} (hrs : Sorted rs) {n : Nat} (hn : n.isValidChar) :
    Holds (melt rs) n ↔ Holds rs n := by
  fun_induction melt rs with
  | case1 => rfl
  | case2 r => rfl
  | case3 a b c d rest htouch ih => exact (ih hrs.merge).trans (hrs.holds_merge htouch hn)
  | case4 a b c d rest hapart ih =>
    rw [Unicode.holds_cons, ih hrs.tail]
    exact Unicode.holds_cons.symm

theorem sorted_mergeSort {rs : Ranges} (hrs : ∀ r ∈ rs, ProperRange r) :
    Sorted (rs.mergeSort fun r s ↦ r.1 ≤ s.1) := by
  refine ⟨?_, fun r hr ↦ hrs r (List.mem_mergeSort.1 hr)⟩
  have htrans (r s t : Nat × Nat) (h : decide (r.1 ≤ s.1) = true)
      (h' : decide (s.1 ≤ t.1) = true) : decide (r.1 ≤ t.1) = true :=
    decide_eq_true ((of_decide_eq_true h).trans (of_decide_eq_true h'))
  have htotal (r s : Nat × Nat) : (decide (r.1 ≤ s.1) || decide (s.1 ≤ r.1)) = true := by
    simpa using Nat.le_total r.1 s.1
  simpa using List.pairwise_mergeSort htrans htotal rs

theorem ascending_ofRanges {rs : Ranges} (hrs : ∀ r ∈ rs, ProperRange r) :
    Ascending (ofRanges rs).ranges :=
  ascending_melt (sorted_mergeSort hrs)

theorem holds_ofRanges {rs : Ranges} (hrs : ∀ r ∈ rs, ProperRange r) {n : Nat}
    (hn : n.isValidChar) : Holds (ofRanges rs).ranges n ↔ Holds rs n := by
  refine (holds_melt (sorted_mergeSort hrs) hn).trans ?_
  simp only [Holds, List.mem_mergeSort]

section Algebra

variable {s t : CharSet}

theorem ascending_compl (hs : Ascending s.ranges) : Ascending s.compl.ranges :=
  hs.gaps (fun _ _ ↦ Nat.zero_le _) (.inl (by decide))

theorem ascending_union (hs : Ascending s.ranges) (ht : Ascending t.ranges) :
    Ascending (s.union t).ranges :=
  ascending_ofRanges (List.forall_mem_append.2 ⟨hs.proper, ht.proper⟩)

/-- A complement holds exactly the characters that the set does not. -/
theorem holds_compl (hs : Ascending s.ranges) (c : Char) :
    Holds s.compl.ranges c.toNat ↔ ¬Holds s.ranges c.toNat :=
  (Unicode.holds_gaps hs (fun _ _ ↦ Nat.zero_le _) c.valid).trans (by simp)

/-- A union holds the characters of both sets. -/
theorem holds_union (hs : Ascending s.ranges) (ht : Ascending t.ranges) (c : Char) :
    Holds (s.union t).ranges c.toNat ↔ Holds s.ranges c.toNat ∨ Holds t.ranges c.toNat := by
  have hproper := List.forall_mem_append.2 ⟨hs.proper, ht.proper⟩
  refine (holds_ofRanges hproper (n := c.toNat) c.valid).trans ?_
  simp only [Holds, List.mem_append, or_and_right, exists_or]

end Algebra

theorem ascending_single (c : Char) : Ascending (single c).ranges :=
  .cons ⟨le_rfl, c.valid, c.valid⟩ ⟨.nil, by simp⟩ (by simp)

theorem holds_single {c d : Char} : Holds (single c).ranges d.toNat ↔ d = c := by
  simp only [single, Unicode.holds_cons, Unicode.not_holds_nil, or_false, Char.ext_iff]
  rw [← UInt32.toNat_inj]
  change c.toNat ≤ d.toNat ∧ d.toNat ≤ c.toNat ↔ d.toNat = c.toNat
  omega

theorem ascending_spaces : Ascending spaces.ranges :=
  ⟨by decide, by decide⟩

theorem holds_spaces {c : Char} : Holds spaces.ranges c.toNat ↔ Text.isSpace c := by
  simp only [spaces, Text.isSpace, Unicode.holds_cons, Unicode.not_holds_nil, or_false,
    Bool.or_eq_true, Bool.and_eq_true, decide_eq_true_eq, beq_iff_eq]
  omega

end Gherkin.Regex.CharSet
