import Gherkin.Unicode.CaseMap
import Mathlib.Data.List.Forall2

/-!
# What the tables of letter case hold

The two tables of letter case are read through once, row by row: each code point in them is that of
a character, neither of white space nor of a digit of ASCII, and where the upper case of a character
beyond ASCII is in ASCII it is a capital letter. What is looked up in a table stands in it, so the
same holds of what is found.

Main statements: what a character becomes in upper case (`of_mem_toUpper`), and that white space and
digits have no case (`foldingOthers_of_isSpace`, `foldingOthers_of_isDigit`).
-/

namespace Gherkin.Unicode

open Text (isSpace)

/-- What a check of the rows, character by character, says of their words. The rows are compared
with texts rather than taken apart, which would take long. -/
theorem forall_mem_wordsOf {ts : List Text} {rows : List String} {p : Text → Bool}
    (hrows : List.Forall₂ (fun t row ↦ row = String.ofList t) ts rows)
    (hts : (ts.all fun t ↦ (Text.words t).all p) = true) : ∀ word ∈ wordsOf rows, p word := by
  induction hrows with
  | nil => exact List.forall_mem_nil _
  | @cons t row ts rows hrow _ ih =>
    rw [List.all_cons, Bool.and_eq_true] at hts
    rw [wordsOf, List.flatMap_cons, hrow, String.toList_ofList]
    exact List.forall_mem_append.2 ⟨List.all_eq_true.1 hts.1, ih hts.2⟩

theorem toNat_ofNat {n : Nat} (h : n.isValidChar) : (Char.ofNat n).toNat = n := by
  rw [Char.ofNat, dif_pos h]
  rfl

/-- The code point of a character that is neither white space nor a digit of ASCII. -/
def isMark (n : Nat) : Bool :=
  decide n.isValidChar && !(isSpace (Char.ofNat n) || (Char.ofNat n).isDigit)

/-- The code point of a capital letter of ASCII or of a mark beyond it. -/
def isUpperCode (n : Nat) : Bool := isMark n && (decide (128 ≤ n) || decide (65 ≤ n ∧ n ≤ 90))

theorem upperPairs_codes :
    ∀ word ∈ wordsOf upperPairs, ((readUpper word).2.all isUpperCode) = true := by
  apply forall_mem_wordsOf
  · dsimp only [upperPairs]
    repeat' constructor
  · decide +kernel

theorem foldingOrbits_codes :
    ∀ word ∈ wordsOf foldingOrbits, ((readOrbit word).all isMark) = true := by
  apply forall_mem_wordsOf
  · dsimp only [foldingOrbits]
    repeat' constructor
  · decide +kernel

theorem CaseTable.mem_of_search {t : CaseTable} {n lo hi : Nat} {values : List Nat}
    (h : t.search n lo hi = some values) : (n, values) ∈ t.entries := by
  fun_induction search t n lo hi with
  | case1 => cases h
  | case2 _ _ _ _ _ _ _ _ ih => exact ih h
  | case3 _ _ _ _ _ _ _ _ _ ih => exact ih h
  | case4 lo hi _ mid key found hmid hbefore hbehind =>
    obtain rfl : key = n := by omega
    obtain rfl := Option.some.inj h
    exact Array.mem_of_getElem? hmid
  | case5 => cases h

/-- What is found in a table stands in it. -/
theorem CaseTable.mem_of_find? {t : CaseTable} {n : Nat} {values : List Nat}
    (h : t.find? n = some values) : (n, values) ∈ t.entries := mem_of_search h

theorem isUpperCode_of_find? {n : Nat} {values : List Nat} (h : upperTable.find? n = some values) :
    ∀ v ∈ values, isUpperCode v := by
  have hmem := CaseTable.mem_of_find? h
  rw [upperTable, List.mem_toArray, List.mem_map] at hmem
  obtain ⟨word, hword, hentry⟩ := hmem
  have hcodes := upperPairs_codes word hword
  rw [hentry] at hcodes
  exact List.all_eq_true.1 hcodes

/-- In ASCII upper case changes small letters to capital ones and nothing else. -/
theorem toUpper_ascii {c : Char} (hc : c.toNat < 128) : c.toUpper = c ∨ c.toUpper.isUpper := by
  have hall : ∀ n : Fin 128, (Char.ofNat n).toUpper = Char.ofNat n ∨
      (Char.ofNat n).toUpper.isUpper := by
    decide
  have h := hall ⟨c.toNat, hc⟩
  rwa [Char.ofNat_toNat] at h

/-- What a character becomes in upper case is the character itself, a capital letter of ASCII, or
beyond ASCII and no white space. -/
theorem of_mem_toUpper {c d : Char} (h : d ∈ toUpper c) :
    d = c ∨ d.isUpper ∨ 128 ≤ d.toNat ∧ isSpace d = false := by
  rw [toUpper] at h
  split at h
  · next hc =>
    rw [List.mem_singleton.1 h]
    exact (toUpper_ascii hc).imp id .inl
  · cases hfind : upperTable.find? c.toNat with
    | none =>
      rw [hfind] at h
      exact .inl (List.mem_singleton.1 h)
    | some values =>
      rw [hfind, Option.getD_some, charactersOr] at h
      split at h
      · exact .inl (List.mem_singleton.1 h)
      · obtain ⟨v, hv, rfl⟩ := List.mem_map.1 h
        have hcode := isUpperCode_of_find? hfind v hv
        simp only [isUpperCode, isMark, Bool.and_eq_true, Bool.or_eq_true, decide_eq_true_eq,
          Bool.not_eq_true', Bool.or_eq_false_iff] at hcode
        obtain ⟨⟨hvalid, hspace, -⟩, hrange⟩ := hcode
        have hcode := toNat_ofNat hvalid
        refine .inr (hrange.symm.imp (fun hcapital ↦ ?_) fun hbeyond ↦ ⟨by rwa [hcode], hspace⟩)
        rw [← hcode] at hcapital
        exact decide_eq_true (by simpa [UInt32.le_iff_toNat_le] using hcapital)

theorem isMark_of_mem_foldingEntries {n : Nat} {values : List Nat}
    (h : (n, values) ∈ foldingEntries) : isMark n ∧ ∀ v ∈ values, isMark v := by
  rw [foldingEntries, List.mem_mergeSort, List.mem_flatMap] at h
  obtain ⟨orbit, horbit, hentry⟩ := h
  obtain ⟨word, hword, rfl⟩ := List.mem_map.1 horbit
  obtain ⟨m, hm, hpair⟩ := List.mem_map.1 hentry
  obtain ⟨rfl, rfl⟩ := Prod.mk.inj hpair
  have hmarks := List.all_eq_true.1 (foldingOrbits_codes word hword)
  exact ⟨hmarks m hm, fun v hv ↦ hmarks v (List.mem_filter.1 hv).1⟩

theorem isMark_of_mem_foldingOthers {n m : Nat} (h : m ∈ foldingOthers n) :
    isMark n ∧ isMark m := by
  rw [foldingOthers] at h
  cases hfind : foldingTable.find? n with
  | none =>
    rw [hfind] at h
    cases h
  | some values =>
    have hmem := CaseTable.mem_of_find? hfind
    rw [foldingTable, List.mem_toArray] at hmem
    obtain ⟨hn, hvalues⟩ := isMark_of_mem_foldingEntries hmem
    rw [hfind] at h
    exact ⟨hn, hvalues m h⟩

theorem isValidChar_of_mem_foldingOthers {n m : Nat} (h : m ∈ foldingOthers n) :
    m.isValidChar := by
  have hmark := (isMark_of_mem_foldingOthers h).2
  rw [isMark, Bool.and_eq_true] at hmark
  exact of_decide_eq_true hmark.1

theorem foldingOthers_eq_nil {c : Char} (h : isSpace c || c.isDigit) :
    foldingOthers c.toNat = [] := by
  rw [List.eq_nil_iff_forall_not_mem]
  intro m hm
  have hmark := (isMark_of_mem_foldingOthers hm).1
  rw [isMark, Char.ofNat_toNat, h, Bool.not_true, Bool.and_false] at hmark
  cases hmark

/-- White space has no case. -/
theorem foldingOthers_of_isSpace {c : Char} (h : isSpace c) : foldingOthers c.toNat = [] :=
  foldingOthers_eq_nil (by rw [h, Bool.true_or])

/-- The digits of ASCII have no case. -/
theorem foldingOthers_of_isDigit {c : Char} (h : c.isDigit) : foldingOthers c.toNat = [] :=
  foldingOthers_eq_nil (by rw [h, Bool.or_true])

end Gherkin.Unicode
