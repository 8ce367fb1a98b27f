import Gherkin.Proofs.Feature.PlaceholderSearch

/-!
# Texts as stencils

A text is cut at its placeholders into what stands between them and the names that they ask for. The
cut does not depend on any row: the names that a search for all matches gives, the text that a
replacement of all matches puts together, and the pieces that a text is read as all come from the
same stencil. A value is put between the parts as it stands, so brackets in it mean nothing.

Main statement: a text has exactly one stencil, which gives its names and its text under every row
(`fill_stencil`).
-/

namespace Gherkin

open Text (isSpace)
open Regex (groupText splice Replaced)

/-- A name that a placeholder can ask for. It may hold opening brackets. -/
structure PlaceholderName (name : Text) : Prop where
  ne_nil : name ≠ []
  no_closing : '>' ∉ name
  head : name.head?.all fun c ↦ !isSpace c

/-- No placeholder begins anywhere in `s` where `rest` follows it. -/
def Plain (s rest : Text) : Prop :=
  ∀ u v name, s = u ++ v → v ≠ [] → PlaceholderName name → ¬placeholderOf name <+: v ++ rest

theorem PlaceholderName.read {name : Text} (h : PlaceholderName name) (after : Text) :
    placeholder? (name ++ '>' :: after) = some (name, after) :=
  placeholder?_eq_some_iff.2 ⟨rfl, h.no_closing, h.ne_nil, h.head⟩

theorem placeholderName_of_read {t name after : Text} (h : placeholder? t = some (name, after)) :
    t = name ++ '>' :: after ∧ PlaceholderName name := by
  obtain ⟨rfl, hclosing, hne, hhead⟩ := placeholder?_eq_some_iff.1 h
  exact ⟨rfl, hne, hclosing, hhead⟩

theorem plain_nil (rest : Text) : Plain [] rest := by
  intro u v name huv hv
  exact absurd (List.append_eq_nil_iff.1 huv.symm).2 hv

theorem Plain.tail {c : Char} {s rest : Text} (h : Plain (c :: s) rest) : Plain s rest := by
  intro u v name huv
  exact h (c :: u) v name (by rw [huv, List.cons_append])

theorem Plain.read_eq_none {s rest : Text} (h : Plain ('<' :: s) rest) :
    placeholder? (s ++ rest) = none := by
  rw [Option.eq_none_iff_forall_ne_some]
  rintro ⟨name, after⟩ hread
  obtain ⟨heq, hname⟩ := placeholderName_of_read hread
  refine h [] ('<' :: s) name rfl (List.cons_ne_nil _ _) hname ⟨after, ?_⟩
  rw [placeholderOf_append, ← heq, List.cons_append]

theorem Plain.cons {c : Char} {s rest : Text} (hs : Plain s rest)
    (hc : c = '<' → placeholder? (s ++ rest) = none) : Plain (c :: s) rest := by
  intro u v name huv hv hname
  cases u with
  | nil =>
    rintro ⟨after, hafter⟩
    rw [List.nil_append] at huv
    rw [← huv, placeholderOf_append, List.cons_append] at hafter
    obtain ⟨rfl, heq⟩ := List.cons.inj hafter
    have hread := hname.read after
    rw [heq, hc rfl] at hread
    cases hread
  | cons d u => exact hs u v name (List.cons.inj huv).2 hv hname

namespace Placeholder

/-- The leftmost placeholder is not looked for where none begins. -/
theorem first?_append {s rest : Text} (h : Plain s rest) :
    first? (s ++ rest) = (first? rest).map (Prod.map (s ++ ·) id) := by
  induction s with
  | nil =>
    rw [List.nil_append]
    cases first? rest <;> rfl
  | cons c s ih =>
    rw [List.cons_append, first?_cons_of_none, ih h.tail, Option.map_map]
    · rfl
    · rintro rfl
      exact h.read_eq_none

theorem plain_of_first? {t : Text} (h : first? t = none) : Plain t [] := by
  induction t with
  | nil => exact plain_nil []
  | cons c t ih =>
    rw [first?] at h
    split at h
    · cases h
    · next hread =>
      refine (ih (Option.map_eq_none_iff.1 h)).cons ?_
      rintro rfl
      rwa [if_pos rfl, List.append_nil] at *

theorem plain_of_first?_eq_some {t before name after : Text}
    (h : first? t = some (before, name, after)) :
    t = before ++ (placeholderOf name ++ after) ∧ PlaceholderName name ∧
      Plain before (placeholderOf name ++ after) := by
  induction t generalizing before with
  | nil => cases h
  | cons c t ih =>
    by_cases hread : c = '<' ∧ (placeholder? t).isSome
    · obtain ⟨rfl, hread⟩ := hread
      obtain ⟨⟨name', after'⟩, hread⟩ := Option.isSome_iff_exists.1 hread
      rw [first?_cons_of_some hread] at h
      cases h
      obtain ⟨rfl, hname⟩ := placeholderName_of_read hread
      exact ⟨(placeholderOf_append name after).symm, hname, plain_nil _⟩
    · have hnone : c = '<' → placeholder? t = none := by simpa using hread
      rw [first?_cons_of_none hnone, Option.map_eq_some_iff] at h
      obtain ⟨⟨before', name', after'⟩, hfirst, heq⟩ := h
      cases heq
      obtain ⟨rfl, hname, hplain⟩ := ih hfirst
      exact ⟨rfl, hname, hplain.cons hnone⟩

end Placeholder

/-- A text cut at its placeholders: what stands before the first one, and for each placeholder its
name and what stands between it and the next one. -/
structure Stencil where
  head : Text
  parts : List (Text × Text)

namespace Stencil

def written (m : Stencil) : Text := m.head ++ m.parts.flatMap fun p ↦ placeholderOf p.1 ++ p.2

def names (m : Stencil) : List Text := m.parts.map Prod.fst

/-- The text of a stencil with the values of a row in the places of the names; a placeholder whose
name the row lacks stays as it is. -/
def filled (row : Record) (m : Stencil) : Text :=
  m.head ++ m.parts.flatMap fun p ↦ (row.get? p.1).getD (placeholderOf p.1) ++ p.2

/-- A text is cut at a placeholder wherever one begins outside of those further left. -/
inductive Cuts : Text → Stencil → Prop where
  | last {t : Text} (h : Plain t []) : Cuts t ⟨t, []⟩
  | placeholder {before name after : Text} {m : Stencil} (hname : PlaceholderName name)
      (hbefore : Plain before (placeholderOf name ++ after)) (hafter : Cuts after m) :
      Cuts (before ++ (placeholderOf name ++ after)) ⟨before, (name, m.head) :: m.parts⟩

variable {t : Text} {m : Stencil}

theorem exists_cuts (t : Text) : ∃ m, Cuts t m := by
  induction hn : t.length using Nat.strongRecOn generalizing t with
  | ind n ih =>
    cases hfirst : Placeholder.first? t with
    | none => exact ⟨_, .last (Placeholder.plain_of_first? hfirst)⟩
    | some found =>
      obtain ⟨before, name, after⟩ := found
      obtain ⟨rfl, hname, hbefore⟩ := Placeholder.plain_of_first?_eq_some hfirst
      have hlength : after.length < n := by
        rw [← hn, placeholderOf_append]
        simp only [List.length_append, List.length_cons]
        omega
      obtain ⟨m, hm⟩ := ih _ hlength after rfl
      exact ⟨_, .placeholder hname hbefore hm⟩

theorem first?_eq_some {before name after : Text} (hname : PlaceholderName name)
    (hbefore : Plain before (placeholderOf name ++ after)) :
    Placeholder.first? (before ++ (placeholderOf name ++ after)) = some (before, name, after) := by
  rw [Placeholder.first?_append hbefore, placeholderOf_append,
    Placeholder.first?_cons_of_some (hname.read after)]
  simp

theorem first?_eq_none (h : Plain t []) : Placeholder.first? t = none := by
  have hfirst := Placeholder.first?_append h
  rwa [List.append_nil] at hfirst

/-- A text is cut in one way only. -/
theorem Cuts.unique {m' : Stencil} (h : Cuts t m) (h' : Cuts t m') : m' = m := by
  induction h generalizing m' with
  | last hplain =>
    have hnone := first?_eq_none hplain
    cases h' with
    | last => rfl
    | placeholder hname hbefore hafter =>
      rw [first?_eq_some hname hbefore] at hnone
      cases hnone
  | placeholder hname hbefore hafter ih =>
    have hsome := first?_eq_some hname hbefore
    generalize ht : _ ++ (placeholderOf _ ++ _) = t at h' hsome
    cases h' with
    | last hplain =>
      rw [first?_eq_none hplain] at hsome
      cases hsome
    | placeholder hname' hbefore' hafter' =>
      rw [first?_eq_some hname' hbefore'] at hsome
      cases hsome
      rw [ih hafter']

theorem Cuts.written_eq (h : Cuts t m) : m.written = t := by
  induction h with
  | last => simp [written]
  | placeholder _ _ _ ih =>
    simp only [written, List.flatMap_cons, List.append_assoc] at ih ⊢
    rw [ih]

theorem ofText_append {s rest : Text} (h : Plain s rest) :
    Piece.ofText (s ++ rest) = s.map .literal ++ Piece.ofText rest := by
  induction s with
  | nil => rfl
  | cons c s ih =>
    by_cases hc : c = '<'
    · subst hc
      rw [List.cons_append, Piece.ofText_cons_of_none h.read_eq_none, ih h.tail]
      rfl
    · rw [List.cons_append, Piece.ofText_cons_of_ne hc, ih h.tail]
      rfl

theorem Cuts.placeholders_eq (h : Cuts t m) : placeholders t = m.names := by
  have hplain (s : Text) : (s.map Piece.literal).filterMap Piece.name? = [] := by
    simp [Piece.name?]
  induction h with
  | @last t hplain' =>
    have hpieces := ofText_append hplain'
    rw [List.append_nil, Piece.ofText_nil, List.append_nil] at hpieces
    rw [placeholders, hpieces, hplain]
    rfl
  | @placeholder before name after m hname hbefore _ ih =>
    rw [placeholders, ofText_append hbefore, placeholderOf_append,
      Piece.ofText_cons_of_some (hname.read after), List.filterMap_append, hplain]
    exact congrArg (name :: ·) ih

theorem Cuts.substitute_eq (h : Cuts t m) (row : Record) : substitute row t = m.filled row := by
  have hplain (s : Text) : (s.map Piece.literal).flatMap (Piece.fill row) = s := by
    simp [List.flatMap_map, Piece.fill]
  induction h with
  | @last t hplain' =>
    have hpieces := ofText_append hplain'
    rw [List.append_nil, Piece.ofText_nil, List.append_nil] at hpieces
    rw [substitute, hpieces, hplain]
    simp [filled]
  | @placeholder before name after m hname hbefore _ ih =>
    rw [substitute, ofText_append hbefore, List.flatMap_append, hplain, ← substitute,
      placeholderOf_append, substitute_cons_of_some (hname.read after), ih]
    simp [filled]

end Stencil

/-! ## Matches -/

namespace Placeholder

theorem capturesFrom_of_none {t : Text} (h : first? t = none) (index : Nat) (last : Option Char) :
    program.capturesFrom index last t = [] := by
  rw [Regex.Program.capturesFrom, run_eq, h]
  rfl

theorem length_placeholderOf (name : Text) : (placeholderOf name).length = name.length + 2 := by
  simp [placeholderOf, Piece.toText]

/-- Behind a match the search goes on with what follows the closing bracket. -/
theorem capturesFrom_of_some {before name after : Text}
    (h : first? (before ++ (placeholderOf name ++ after)) = some (before, name, after))
    (index : Nat) (last : Option Char) :
    program.capturesFrom index last (before ++ (placeholderOf name ++ after)) =
      savesAt (index + before.length) name ::
        program.capturesFrom (index + before.length + name.length + 2) (some '>') after := by
  have hrest : (before ++ (placeholderOf name ++ after)).drop
      (index + before.length + name.length + 2 - (index + 1)) = '>' :: after := by
    have hcut : before ++ (placeholderOf name ++ after) =
        (before ++ '<' :: name) ++ '>' :: after := by
      simp [placeholderOf_append]
    rw [hcut]
    refine List.drop_left' ?_
    simp only [List.length_append, List.length_cons]
    omega
  rw [Regex.Program.capturesFrom, run_eq, h]
  simp only [Option.map_some]
  split
  · next hnil =>
    have hcontra : '>' :: after = [] := hrest.symm.trans hnil
    cases hcontra
  · next last' rest hcons =>
    have hsame : '>' :: after = last' :: rest := hrest.symm.trans hcons
    cases hsame
    rfl

/-- The text of a group that is known to stand between two parts of the text. -/
theorem groupText_append {saves : Saves} {index : Nat} (s u v : Text)
    (hstart : saves.lookup (2 * index) = some s.length)
    (hstop : saves.lookup (2 * index + 1) = some (s.length + u.length)) :
    groupText (s ++ (u ++ v)) saves index = some u := by
  simp [groupText, hstart, hstop]

/-- The two groups of a match are the placeholder and its name. -/
theorem groupText_savesAt (before name after : Text) :
    groupText (before ++ (placeholderOf name ++ after)) (savesAt before.length name) 0 =
        some (placeholderOf name) ∧
      groupText (before ++ (placeholderOf name ++ after)) (savesAt before.length name) 1 =
        some name := by
  constructor
  · refine groupText_append _ _ _ rfl ?_
    rw [length_placeholderOf]
    rfl
  · have hcut : before ++ (placeholderOf name ++ after) =
        (before ++ ['<']) ++ (name ++ '>' :: after) := by
      simp [placeholderOf_append]
    have hlength : (before ++ ['<']).length = before.length + 1 := by simp
    rw [hcut]
    refine groupText_append _ _ _ ?_ ?_
    · rw [hlength]
      rfl
    · rw [hlength, Nat.add_right_comm]
      rfl

theorem valueIn_savesAt (row : Record) (before name after : Text) :
    valueIn row (before ++ (placeholderOf name ++ after)) (savesAt before.length name) =
      (row.get? name).getD (placeholderOf name) := by
  obtain ⟨hwhole, hname⟩ := groupText_savesAt before name after
  rw [valueIn, hwhole, hname]
  rfl

/-- What stands before a match is kept, the value follows, and then comes the rest. -/
theorem splice_savesAt (value : Saves → Text) (before skipped name after : Text)
    (later : List Saves) :
    splice value (before ++ (skipped ++ (placeholderOf name ++ after))) before.length
        (savesAt (before.length + skipped.length) name :: later) =
      skipped ++ value (savesAt (before.length + skipped.length) name) ++
        splice value (before ++ (skipped ++ (placeholderOf name ++ after)))
          (before.length + skipped.length + name.length + 2) later := by
  have hstart : (savesAt (before.length + skipped.length) name).lookup 0 =
      some (before.length + skipped.length) := rfl
  have hstop : (savesAt (before.length + skipped.length) name).lookup 1 =
      some (before.length + skipped.length + name.length + 2) := rfl
  have hskipped : ((before ++ (skipped ++ (placeholderOf name ++ after))).drop before.length).take
      (before.length + skipped.length - before.length) = skipped := by
    simp
  simp only [splice, hstart, hstop, Option.getD_some, hskipped]

end Placeholder

namespace Stencil

open Placeholder

variable {t : Text} {m : Stencil}

/-- The matches in what is left of a text give the names of its stencil, and the filled stencil
when their values are put in their places. -/
theorem Cuts.captures (h : Cuts t m) (row : Record) (before : Text) (last : Option Char) :
    let found := program.capturesFrom before.length last t
    found.filterMap (groupText (before ++ t) · 1) = m.names ∧
      splice (valueIn row (before ++ t)) (before ++ t) before.length found = m.filled row := by
  induction h generalizing before last with
  | last hplain =>
    rw [capturesFrom_of_none (first?_eq_none hplain)]
    simp [names, splice, filled]
  | @placeholder skipped name after m hname hbefore _ ih =>
    have hlength : (before ++ skipped ++ placeholderOf name).length =
        before.length + skipped.length + name.length + 2 := by
      simp only [List.length_append, length_placeholderOf, Nat.add_assoc]
    have hstart : (before ++ skipped).length = before.length + skipped.length :=
      List.length_append
    have hname' := (groupText_savesAt (before ++ skipped) name after).2
    have hvalue := valueIn_savesAt row (before ++ skipped) name after
    -- the places of later matches are counted from the beginning of the whole text
    obtain ⟨hnames, hfilled⟩ := ih (before ++ skipped ++ placeholderOf name) (some '>')
    rw [hlength] at hnames hfilled
    rw [hstart] at hname' hvalue
    simp only [List.append_assoc] at hname' hvalue hnames hfilled
    rw [capturesFrom_of_some (first?_eq_some hname hbefore)]
    constructor
    · simp only [List.filterMap_cons, hname', hnames]
      rfl
    · rw [splice_savesAt, hvalue, hfilled]
      simp [filled]

theorem Cuts.captures_eq_nil_iff (h : Cuts t m) (index : Nat) (last : Option Char) :
    program.capturesFrom index last t = [] ↔ m.names = [] := by
  cases h with
  | last hplain => simp [capturesFrom_of_none (first?_eq_none hplain), names]
  | placeholder hname hbefore =>
    simp [capturesFrom_of_some (first?_eq_some hname hbefore), names]

theorem Cuts.names_eq (h : Cuts t m) : Placeholder.names t = m.names :=
  (h.captures .empty [] none).1

theorem Cuts.fill_eq (h : Cuts t m) (row : Record) :
    Placeholder.fill row t = if m.names = [] then .borrowed t else .owned (m.filled row) := by
  have hnil := h.captures_eq_nil_iff 0 none
  have hfilled : splice (valueIn row t) t 0 (program.capturesFrom 0 none t) = m.filled row :=
    (h.captures row [] none).2
  unfold Placeholder.fill Regex.Program.replaceAll Regex.Program.captures
  split
  · next hfound => rw [if_pos (hnil.1 hfound)]
  · next hfound => rw [if_neg (mt hnil.2 hfound), hfilled]

theorem filled_of_names_eq_nil (h : m.names = []) (row : Record) : m.filled row = m.written := by
  have hparts : m.parts = [] := List.map_eq_nil_iff.1 h
  rw [filled, written, hparts]
  rfl

theorem Cuts.text_fill (h : Cuts t m) (row : Record) :
    (Placeholder.fill row t).text = m.filled row := by
  rw [h.fill_eq row]
  split
  · next hnil =>
    rw [filled_of_names_eq_nil hnil, h.written_eq]
    rfl
  · rfl

/-- Only the values of the names that a stencil asks for count. -/
theorem filled_congr {row row' : Record} (h : ∀ name ∈ m.names, row.get? name = row'.get? name) :
    m.filled row = m.filled row' := by
  unfold filled
  congr 1
  refine List.flatMap_congr fun p hp ↦ ?_
  rw [h p.1 (List.mem_map_of_mem hp)]

end Stencil

/-- Every text has exactly one stencil. A search for all matches gives the names of the stencil,
and a replacement of all matches gives its text with the values of the row as they stand, or the
text itself if there are no names. The pieces of the text say the same. Rows that agree on the names
therefore give the same text. -/
theorem fill_stencil (t : Text) :
    ∃ m : Stencil, (∀ m', m'.Cuts t ↔ m' = m) ∧ m.written = t ∧
      Placeholder.names t = m.names ∧ placeholders t = m.names ∧
      (∀ row, Placeholder.fill row t =
        if m.names = [] then .borrowed t else .owned (m.filled row)) ∧
      (∀ row, (Placeholder.fill row t).text = m.filled row ∧ substitute row t = m.filled row) ∧
      ∀ row row', (∀ name ∈ placeholders t, row.get? name = row'.get? name) →
        Placeholder.fill row t = Placeholder.fill row' t := by
  obtain ⟨m, hm⟩ := Stencil.exists_cuts t
  refine ⟨m, fun m' ↦ ⟨hm.unique, fun h ↦ h ▸ hm⟩, hm.written_eq, hm.names_eq, hm.placeholders_eq,
    hm.fill_eq, fun row ↦ ⟨hm.text_fill row, hm.substitute_eq row⟩, fun row row' hagree ↦ ?_⟩
  rw [hm.placeholders_eq] at hagree
  rw [hm.fill_eq, hm.fill_eq, Stencil.filled_congr hagree]

/-- A value that reads as a placeholder stays as it is, and so does a name that holds a bracket. -/
theorem fill_stencil_pointing :
    Placeholder.names "<a> <<b>".toList = ["a".toList, "<b".toList] ∧
      (Placeholder.fill pointing "<a> <<b>".toList).text = "<b> <<b>".toList ∧
      Placeholder.fill pointing "<a> <<b>".toList =
        Placeholder.fill (pointing.insert "b".toList "2".toList) "<a> <<b>".toList := by
  obtain ⟨m, -, -, hnames, hplaceholders, -, htext, hrows⟩ := fill_stencil "<a> <<b>".toList
  obtain ⟨hfill, hsubstitute⟩ := htext pointing
  refine ⟨?_, ?_, hrows _ _ ?_⟩
  · rw [hnames, ← hplaceholders]
    decide +kernel
  · rw [hfill, ← hsubstitute]
    decide +kernel
  · decide +kernel

end Gherkin
