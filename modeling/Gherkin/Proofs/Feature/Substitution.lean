import Gherkin.Feature.Placeholder
import Mathlib.Data.List.Infix
import Mathlib.Data.List.TakeWhile

/-!
# Filled placeholders

A placeholder in a text is looked for at every opening bracket, whatever the names of a record, and
its name may hold further opening brackets. A bracket that is still open before a column's
placeholder therefore takes it in: the name that is read then holds a bracket, no column has such a
name, and the text stays as it is. All other occurrences of columns are filled, each with the value
as it stands.

Main statements: where no bracket is open before a column's placeholder, the text is the one with
all occurrences filled, and every other occurrence is kept (`substitute_fills_columns`).
-/

namespace Gherkin

open Text (isSpace)

/-- A name that a placeholder can ask for and that holds no bracket. -/
structure ColumnName (name : Text) : Prop where
  ne_nil : name ≠ []
  no_opening : '<' ∉ name
  no_closing : '>' ∉ name
  head : name.head?.all fun c ↦ !isSpace c

instance (name : Text) : Decidable (ColumnName name) :=
  decidable_of_iff (name ≠ [] ∧ '<' ∉ name ∧ '>' ∉ name ∧ name.head?.all fun c ↦ !isSpace c)
    ⟨fun ⟨h₁, h₂, h₃, h₄⟩ ↦ ⟨h₁, h₂, h₃, h₄⟩, fun h ↦ ⟨h.1, h.2, h.3, h.4⟩⟩

def placeholderOf (name : Text) : Text := (Piece.placeholder name).toText

theorem placeholderOf_append (name after : Text) :
    placeholderOf name ++ after = '<' :: (name ++ '>' :: after) := by
  simp [placeholderOf, Piece.toText]

/-- What may begin a name, with no closing bracket to end it. -/
structure Unfinished (t : Text) : Prop where
  no_closing : '>' ∉ t
  head : t.head?.all fun c ↦ !isSpace c

instance (t : Text) : Decidable (Unfinished t) :=
  decidable_of_iff ('>' ∉ t ∧ t.head?.all fun c ↦ !isSpace c)
    ⟨fun h ↦ ⟨h.1, h.2⟩, fun h ↦ ⟨h.1, h.2⟩⟩

/-- The text ends in an unfinished placeholder, which takes in what comes next up to the next closing
bracket. -/
def LeavesOpen (t : Text) : Prop := ∃ after, ('<' :: after) <:+ t ∧ Unfinished after

instance (t : Text) : Decidable (LeavesOpen t) :=
  decidable_of_iff (∃ s ∈ t.tails, s.head? = some '<' ∧ Unfinished s.tail) <| by
    simp only [List.mem_tails]
    constructor
    · rintro ⟨s, hs, hhead, hafter⟩
      obtain ⟨after, rfl⟩ := List.head?_eq_some_iff.1 hhead
      exact ⟨after, hs, hafter⟩
    · rintro ⟨after, hs, hafter⟩
      exact ⟨'<' :: after, hs, rfl, hafter⟩

theorem LeavesOpen.of_suffix {s t : Text} (h : LeavesOpen s) (hst : s <:+ t) : LeavesOpen t := by
  obtain ⟨after, hafter, hrest⟩ := h
  exact ⟨after, hafter.trans hst, hrest⟩

theorem leavesOpen_cons {c : Char} {t : Text} :
    LeavesOpen (c :: t) ↔ c = '<' ∧ Unfinished t ∨ LeavesOpen t := by
  constructor
  · rintro ⟨after, hsuffix, hafter⟩
    rcases List.suffix_cons_iff.1 hsuffix with heq | h
    · obtain ⟨rfl, rfl⟩ := List.cons.inj heq
      exact .inl ⟨rfl, hafter⟩
    · exact .inr ⟨after, h, hafter⟩
  · rintro (⟨rfl, ht⟩ | h)
    · exact ⟨t, List.suffix_rfl, ht⟩
    · exact h.of_suffix (List.suffix_cons _ _)

/-- Only what follows a closing bracket decides whether a text leaves a bracket open. -/
theorem leavesOpen_append_cons {s t : Text} : LeavesOpen (s ++ '>' :: t) ↔ LeavesOpen t := by
  induction s with
  | nil => simp [leavesOpen_cons]
  | cons c s ih =>
    have hclosed : ¬Unfinished (s ++ '>' :: t) := fun h ↦ h.no_closing (by simp)
    simp [leavesOpen_cons, ih, hclosed]

/-- What stands before the first closing bracket. -/
theorem takeWhile_closing {name : Text} (h : '>' ∉ name) (after : Text) :
    (name ++ '>' :: after).takeWhile (fun c ↦ decide (c ≠ '>')) = name := by
  have hname : ∀ c ∈ name, decide (c ≠ '>') = true :=
    fun c hc ↦ decide_eq_true fun heq ↦ h (heq ▸ hc)
  have hstop : ('>' :: after).takeWhile (fun c ↦ decide (c ≠ '>')) = [] := rfl
  rw [List.takeWhile_append_of_pos hname, hstop, List.append_nil]

theorem placeholder?_eq_some_iff {t name after : Text} :
    placeholder? t = some (name, after) ↔
      t = name ++ '>' :: after ∧ '>' ∉ name ∧ name ≠ [] ∧ name.head?.all fun c ↦ !isSpace c := by
  constructor
  · intro h
    refine ⟨placeholder?_eq_some h, ?_⟩
    cases t with
    | nil => cases h
    | cons c rest =>
      simp only [placeholder?] at h
      split at h
      · cases h
      · next hc =>
        split at h
        · cases h
        · cases h
          simp only [Bool.or_eq_true, decide_eq_true_eq, not_or, Bool.not_eq_true] at hc
          rw [List.takeWhile_cons_of_pos (by simpa using hc.1)]
          refine ⟨?_, List.cons_ne_nil _ _, by simpa using hc.2⟩
          intro hmem
          rcases List.mem_cons.1 hmem with heq | hmem
          · exact hc.1 heq.symm
          · simpa using List.mem_takeWhile_imp hmem
  · rintro ⟨rfl, hno, hne, hspace⟩
    cases name with
    | nil => exact absurd rfl hne
    | cons c name =>
      have hpos : ∀ d ∈ c :: name, decide (d ≠ '>') = true :=
        fun d hd ↦ decide_eq_true fun heq ↦ hno (heq ▸ hd)
      have hdrop : (c :: name ++ '>' :: after).dropWhile (fun d ↦ decide (d ≠ '>')) =
          '>' :: after := List.dropWhile_append_of_pos hpos
      have htake := takeWhile_closing hno after
      have hc : c ≠ '>' := by simpa using hpos c List.mem_cons_self
      rw [List.cons_append] at hdrop htake ⊢
      simp only [placeholder?, hdrop, htake]
      rw [if_neg (by simpa [hc] using hspace)]

theorem placeholder?_append {name after : Text} (h : ColumnName name) :
    placeholder? (name ++ '>' :: after) = some (name, after) :=
  placeholder?_eq_some_iff.2 ⟨rfl, h.no_closing, h.ne_nil, h.head⟩

/-- Where no name can be read and none is begun, more text changes nothing. -/
theorem placeholder?_append_eq_none {s : Text} (h : placeholder? s = none) (hs : ¬Unfinished s)
    (t : Text) : placeholder? (s ++ t) = none := by
  rw [Option.eq_none_iff_forall_ne_some]
  rintro ⟨name, after⟩ hsome
  obtain ⟨heq, hname⟩ := placeholder?_eq_some_iff.1 hsome
  -- either the name goes on after `s`, or it is closed within `s`
  have hunfinished : s <+: name → False := fun hfront ↦ by
    refine hs ⟨fun hmem ↦ hname.1 (hfront.subset hmem), ?_⟩
    obtain ⟨more, rfl⟩ := hfront
    cases s with
    | nil => rfl
    | cons c s => exact hname.2.2
  rcases List.append_eq_append_iff.1 heq with ⟨more, rfl, -⟩ | ⟨more, rfl, hmore⟩
  · exact hunfinished (List.prefix_append s more)
  · cases more with
    | nil => exact hunfinished (by simp)
    | cons c more =>
      obtain ⟨rfl, -⟩ := List.cons.inj hmore
      rw [placeholder?_eq_some_iff.2 ⟨rfl, hname⟩] at h
      cases h

namespace Piece

@[simp] theorem ofText_nil : ofText [] = [] := by
  rw [ofText]

theorem ofText_cons_of_ne {c : Char} (hc : c ≠ '<') (t : Text) :
    ofText (c :: t) = literal c :: ofText t := by
  rw [ofText, if_neg hc]

theorem ofText_cons_of_none {t : Text} (h : placeholder? t = none) :
    ofText ('<' :: t) = literal '<' :: ofText t := by
  rw [ofText, if_pos rfl]
  split
  · next heq => rw [h] at heq; cases heq
  · rfl

theorem ofText_cons_of_some {t name after : Text} (h : placeholder? t = some (name, after)) :
    ofText ('<' :: t) = placeholder name :: ofText after := by
  rw [ofText, if_pos rfl]
  split
  · next heq => rw [h] at heq; cases heq; rfl
  · next heq => rw [h] at heq; cases heq

/-- A text that leaves no bracket open is read apart from what follows it. -/
theorem ofText_append {s : Text} (hs : ¬LeavesOpen s) (t : Text) :
    ofText (s ++ t) = ofText s ++ ofText t := by
  fun_induction ofText s with
  | case1 => rfl
  | case2 rest name after h ih =>
    obtain ⟨rfl, hname⟩ := placeholder?_eq_some_iff.1 h
    have hafter : ¬LeavesOpen after := fun hopen ↦
      hs (leavesOpen_append_cons (s := '<' :: name).2 hopen)
    have h' : placeholder? (name ++ '>' :: after ++ t) = some (name, after ++ t) :=
      placeholder?_eq_some_iff.2 ⟨by simp, hname⟩
    rw [List.cons_append, ofText_cons_of_some h', ih hafter, List.cons_append]
  | case3 rest h ih =>
    rw [leavesOpen_cons, not_or] at hs
    have h' := placeholder?_append_eq_none h (fun hrest ↦ hs.1 ⟨rfl, hrest⟩) t
    rw [List.cons_append, ofText_cons_of_none h', ih hs.2, List.cons_append]
  | case4 c rest hc ih =>
    rw [leavesOpen_cons, not_or] at hs
    rw [List.cons_append, ofText_cons_of_ne hc, ih hs.2, List.cons_append]

end Piece

theorem placeholders_cons_of_some {t name after : Text} (h : placeholder? t = some (name, after)) :
    placeholders ('<' :: t) = name :: placeholders after := by
  rw [placeholders, Piece.ofText_cons_of_some h]
  rfl

theorem placeholders_cons_of_none {t : Text} (h : placeholder? t = none) :
    placeholders ('<' :: t) = placeholders t := by
  rw [placeholders, Piece.ofText_cons_of_none h]
  rfl

theorem placeholders_cons_of_ne {c : Char} (hc : c ≠ '<') (t : Text) :
    placeholders (c :: t) = placeholders t := by
  rw [placeholders, Piece.ofText_cons_of_ne hc]
  rfl

theorem placeholders_append_of_not_mem {s : Text} (hs : '<' ∉ s) (t : Text) :
    placeholders (s ++ t) = placeholders t := by
  induction s with
  | nil => rfl
  | cons c s ih =>
    obtain ⟨hc, hs⟩ := List.ne_and_not_mem_of_not_mem_cons hs
    rw [List.cons_append, placeholders_cons_of_ne hc.symm, ih hs]

section Occurrence

variable {row : Record}

@[simp] theorem substitute_nil : substitute row [] = [] := by
  simp [substitute]

theorem substitute_append {s : Text} (hs : ¬LeavesOpen s) (t : Text) :
    substitute row (s ++ t) = substitute row s ++ substitute row t := by
  simp only [substitute, Piece.ofText_append hs, List.flatMap_append]

theorem substitute_cons_of_ne {c : Char} (hc : c ≠ '<') (t : Text) :
    substitute row (c :: t) = c :: substitute row t := by
  simp [substitute, Piece.ofText_cons_of_ne hc, Piece.fill]

theorem substitute_cons_of_none {t : Text} (h : placeholder? t = none) :
    substitute row ('<' :: t) = '<' :: substitute row t := by
  simp [substitute, Piece.ofText_cons_of_none h, Piece.fill]

theorem substitute_cons_of_some {t name after : Text} (h : placeholder? t = some (name, after)) :
    substitute row ('<' :: t) =
      (row.get? name).getD (placeholderOf name) ++ substitute row after := by
  simp [substitute, Piece.ofText_cons_of_some h, Piece.fill, placeholderOf, Piece.toText]

/-- A text without opening brackets is not changed, whatever follows it. -/
theorem substitute_append_of_not_mem {s : Text} (hs : '<' ∉ s) (t : Text) :
    substitute row (s ++ t) = s ++ substitute row t := by
  induction s with
  | nil => rfl
  | cons c s ih =>
    obtain ⟨hc, hs⟩ := List.ne_and_not_mem_of_not_mem_cons hs
    rw [List.cons_append, substitute_cons_of_ne hc.symm, ih hs, List.cons_append]

/-- A text in which no column's placeholder occurs stays as it is. -/
theorem substitute_eq_self {t : Text} (h : ∀ name ∈ row.keys, ¬placeholderOf name <:+: t) :
    substitute row t = t := by
  fun_induction Piece.ofText t with
  | case1 => exact substitute_nil
  | case2 rest name after hname ih =>
    obtain ⟨rfl, -⟩ := placeholder?_eq_some_iff.1 hname
    have heq := placeholderOf_append name after
    have hunknown : row.get? name = none := Record.get?_eq_none_iff.2 fun hmem ↦
      h name hmem ⟨[], after, heq⟩
    have hafter : after <:+: '<' :: (name ++ '>' :: after) := ⟨placeholderOf name, [], by simp [heq]⟩
    rw [substitute_cons_of_some hname, hunknown, Option.getD_none,
      ih fun other hother hin ↦ h other hother (hin.trans hafter), heq]
  | case3 rest hnone ih =>
    rw [substitute_cons_of_none hnone,
      ih fun name hname hin ↦ h name hname (List.infix_cons hin)]
  | case4 c rest hc ih =>
    rw [substitute_cons_of_ne hc, ih fun name hname hin ↦ h name hname (List.infix_cons hin)]

/-- The value of a column takes the place of its placeholder and is not read again. -/
theorem substitute_column {name value before : Text} (hname : ColumnName name)
    (hvalue : row.get? name = some value) (hbefore : ¬LeavesOpen before) (after : Text) :
    substitute row (before ++ (placeholderOf name ++ after)) =
      substitute row before ++ (value ++ substitute row after) := by
  rw [substitute_append hbefore, placeholderOf_append,
    substitute_cons_of_some (placeholder?_append hname), hvalue, Option.getD_some]

/-- A bracket that is open before a column's placeholder keeps it from being filled. -/
theorem substitute_kept (hcolumns : ∀ name ∈ row.keys, ColumnName name) {name before : Text}
    (hname : ColumnName name) (hbefore : LeavesOpen before) (after : Text) :
    substitute row (before ++ (placeholderOf name ++ after)) =
      substitute row before ++ (placeholderOf name ++ substitute row after) := by
  fun_induction Piece.ofText before with
  | case1 => exact absurd hbefore (by decide)
  | case2 rest other more hother ih =>
    obtain ⟨rfl, hname'⟩ := placeholder?_eq_some_iff.1 hother
    have hread : placeholder? (other ++ '>' :: more ++ (placeholderOf name ++ after)) =
        some (other, more ++ (placeholderOf name ++ after)) :=
      placeholder?_eq_some_iff.2 ⟨by simp, hname'⟩
    have hopen : LeavesOpen more := leavesOpen_append_cons (s := '<' :: other).1 hbefore
    rw [List.cons_append, substitute_cons_of_some hread, substitute_cons_of_some hother, ih hopen,
      List.append_assoc]
  | case3 rest hnone ih =>
    by_cases hrest : Unfinished rest
    · -- the name that is read goes on to the end of the column's name, and holds its bracket
      have hread : placeholder? (rest ++ (placeholderOf name ++ after)) =
          some (rest ++ '<' :: name, after) := by
        refine placeholder?_eq_some_iff.2 ⟨by simp [placeholderOf, Piece.toText], ?_, by simp, ?_⟩
        · have hno := hrest.no_closing
          have hno' := hname.no_closing
          simp [hno, hno']
        · cases rest with
          | nil => rfl
          | cons c rest => exact hrest.head
      have hunknown : row.get? (rest ++ '<' :: name) = none :=
        Record.get?_eq_none_iff.2 fun hmem ↦ (hcolumns _ hmem).no_opening (by simp)
      have hself : substitute row rest = rest := substitute_eq_self fun other _ hin ↦
        hrest.no_closing (hin.subset (by simp [placeholderOf, Piece.toText]))
      rw [List.cons_append, substitute_cons_of_some hread, hunknown, Option.getD_none,
        substitute_cons_of_none hnone, hself]
      simp [placeholderOf, Piece.toText]
    · have hopen : LeavesOpen rest :=
        (leavesOpen_cons.1 hbefore).resolve_left fun h ↦ hrest h.2
      rw [List.cons_append, substitute_cons_of_none (placeholder?_append_eq_none hnone hrest _),
        substitute_cons_of_none hnone, ih hopen, List.cons_append]
  | case4 c rest hc ih =>
    have hopen : LeavesOpen rest := (leavesOpen_cons.1 hbefore).resolve_left fun h ↦ hc h.1
    rw [List.cons_append, substitute_cons_of_ne hc, substitute_cons_of_ne hc, ih hopen,
      List.cons_append]

end Occurrence

/-! ## All occurrences of columns -/

namespace Record

/-- The second text is the first one with every occurrence of a column's placeholder replaced by the
column's value, all at once, and everything else as it was. -/
inductive Fills (row : Record) : Text → Text → Prop where
  | verbatim {t : Text} (h : ∀ name ∈ row.keys, ¬placeholderOf name <:+: t) : Fills row t t
  | column {before name value after filled : Text}
      (hbefore : ∀ name ∈ row.keys, ¬placeholderOf name <:+: before)
      (hvalue : row.get? name = some value) (hafter : Fills row after filled) :
      Fills row (before ++ (placeholderOf name ++ after)) (before ++ (value ++ filled))

/-- No bracket is open before any occurrence of a column's placeholder. -/
def Clear (row : Record) (t : Text) : Prop :=
  ∀ before after, ∀ name ∈ row.keys, t = before ++ (placeholderOf name ++ after) →
    ¬LeavesOpen before

instance (row : Record) (t : Text) : Decidable (row.Clear t) :=
  decidable_of_iff (∀ before ∈ t.inits, ∀ name ∈ row.keys,
      before ++ placeholderOf name <+: t → ¬LeavesOpen before) <| by
    constructor
    · rintro h before after name hname rfl
      exact h before (by simp) name hname ⟨after, by simp⟩
    · rintro h before - name hname ⟨after, hafter⟩
      exact h before after name hname (by simp [← hafter])

variable {row : Record}

theorem Clear.of_append {s t : Text} (h : row.Clear (s ++ t)) : row.Clear t := by
  rintro before after name hname rfl hopen
  exact h (s ++ before) after name hname (by simp) (hopen.of_suffix (List.suffix_append s before))

/-- The first occurrence of a column in a text, if there is one. -/
theorem exists_first_column (row : Record) (t : Text) :
    (∀ name ∈ row.keys, ¬placeholderOf name <:+: t) ∨
      ∃ before name after, name ∈ row.keys ∧ t = before ++ (placeholderOf name ++ after) ∧
        ∀ other ∈ row.keys, ¬placeholderOf other <:+: before := by
  have hnil : ∀ name ∈ row.keys, ¬placeholderOf name <:+: [] := fun name _ hin ↦
    absurd (List.eq_nil_of_infix_nil hin) (List.cons_ne_nil _ _)
  induction t with
  | nil => exact .inl hnil
  | cons c t ih =>
    by_cases hhere : ∃ name ∈ row.keys, placeholderOf name <+: c :: t
    · obtain ⟨name, hname, after, hafter⟩ := hhere
      exact .inr ⟨[], name, after, hname, hafter.symm, hnil⟩
    · rcases ih with hnone | ⟨before, name, after, hname, rfl, hfirst⟩
      · refine .inl fun name hname hin ↦ ?_
        rcases List.infix_cons_iff.1 hin with hfront | hin
        · exact hhere ⟨name, hname, hfront⟩
        · exact hnone name hname hin
      · refine .inr ⟨c :: before, name, after, hname, rfl, fun other hother hin ↦ ?_⟩
        rcases List.infix_cons_iff.1 hin with hfront | hin
        · exact hhere ⟨other, hother, hfront.trans (List.prefix_append (c :: before) _)⟩
        · exact hfirst other hother hin

/-- The occurrences of columns in a text can be gone through from the front. -/
theorem exists_fills (row : Record) (t : Text) : ∃ filled, row.Fills t filled := by
  induction hn : t.length using Nat.strongRecOn generalizing t with
  | ind n ih =>
    rcases row.exists_first_column t with hnone | ⟨before, name, after, hname, rfl, hfirst⟩
    · exact ⟨t, .verbatim hnone⟩
    · obtain ⟨value, hvalue⟩ : ∃ value, row.get? name = some value :=
        Option.ne_none_iff_exists'.1 fun h ↦ get?_eq_none_iff.1 h hname
      have hlength : after.length < n := by
        rw [← hn]
        simp [placeholderOf, Piece.toText]
        omega
      obtain ⟨filled, hfilled⟩ := ih _ hlength after rfl
      exact ⟨_, .column hfirst hvalue hfilled⟩

theorem Fills.eq_substitute (hcolumns : ∀ name ∈ row.keys, ColumnName name) {t filled : Text}
    (h : row.Fills t filled) (hclear : row.Clear t) : filled = substitute row t := by
  induction h with
  | verbatim h => exact (substitute_eq_self h).symm
  | @column before name value after filled hbefore hvalue hafter ih =>
    have hname := mem_keys_of_get? hvalue
    have hopen : ¬LeavesOpen before := hclear before after name hname rfl
    rw [substitute_column (hcolumns name hname) hvalue hopen, substitute_eq_self hbefore,
      ← ih hclear.of_append.of_append]

/-- The first occurrence of a column in a text is the only first one. -/
theorem column_eq_column (hcolumns : ∀ name ∈ row.keys, ColumnName name) {s s' name name' t t' : Text}
    (hname : name ∈ row.keys) (hname' : name' ∈ row.keys)
    (hs' : ∀ other ∈ row.keys, ¬placeholderOf other <:+: s')
    (heq : s ++ (placeholderOf name ++ t) = s' ++ (placeholderOf name' ++ t'))
    (hle : s <+: s') : s = s' ∧ name = name' ∧ t = t' := by
  obtain ⟨more, rfl⟩ := hle
  rw [List.append_assoc, List.append_cancel_left_eq] at heq
  cases more with
  | nil =>
    have hread := congrArg (fun u ↦ placeholder? u.tail) heq
    simp only [List.nil_append, placeholderOf_append, List.tail_cons,
      placeholder?_append (hcolumns name hname), placeholder?_append (hcolumns name' hname')] at hread
    cases hread
    simp
  | cons c more =>
    exfalso
    -- the later occurrence begins after the earlier one ends, or its bracket stands in a name
    rw [placeholderOf_append, placeholderOf_append, List.cons_append] at heq
    obtain ⟨rfl, hrest⟩ := List.cons.inj heq
    rcases List.append_eq_append_iff.1 hrest with ⟨more', rfl, h⟩ | ⟨more', rfl, h⟩
    · cases more' with
      | nil => cases (List.cons.inj h).1
      | cons d more' =>
        obtain ⟨rfl, -⟩ := List.cons.inj h
        exact hs' name hname ⟨s, more', by simp [placeholderOf, Piece.toText]⟩
    · cases more' with
      | nil => cases (List.cons.inj h).1
      | cons d more' =>
        obtain ⟨rfl, -⟩ := List.cons.inj h
        exact (hcolumns _ hname).no_opening (by simp)

theorem Fills.eq_self {t filled : Text} (h : row.Fills t filled)
    (hnone : ∀ name ∈ row.keys, ¬placeholderOf name <:+: t) : filled = t := by
  cases h with
  | verbatim => rfl
  | @column before name value after _ _ hvalue =>
    exact absurd ⟨before, after, by simp⟩ (hnone name (mem_keys_of_get? hvalue))

theorem Fills.exists_column (hcolumns : ∀ name ∈ row.keys, ColumnName name)
    {before name after t filled : Text} (hname : name ∈ row.keys)
    (hbefore : ∀ other ∈ row.keys, ¬placeholderOf other <:+: before)
    (ht : t = before ++ (placeholderOf name ++ after)) (h : row.Fills t filled) :
    ∃ value filled', row.get? name = some value ∧ row.Fills after filled' ∧
      filled = before ++ (value ++ filled') := by
  cases h with
  | verbatim hnone => exact absurd ⟨before, after, by simp [ht]⟩ (hnone name hname)
  | @column before' name' value after' filled' hbefore' hvalue hafter =>
    have hname' := mem_keys_of_get? hvalue
    have hsame : before = before' ∧ name = name' ∧ after = after' := by
      rcases List.prefix_or_prefix_of_prefix ⟨_, ht.symm⟩ (List.prefix_append before' _) with h | h
      · exact column_eq_column hcolumns hname hname' hbefore' ht.symm h
      · obtain ⟨h₁, h₂, h₃⟩ := column_eq_column hcolumns hname' hname hbefore ht h
        exact ⟨h₁.symm, h₂.symm, h₃.symm⟩
    obtain ⟨rfl, rfl, rfl⟩ := hsame
    exact ⟨value, filled', hvalue, hafter, rfl⟩

/-- There is only one way to fill all occurrences of columns in a text. -/
theorem Fills.unique (hcolumns : ∀ name ∈ row.keys, ColumnName name) {t filled filled' : Text}
    (h : row.Fills t filled) (h' : row.Fills t filled') : filled = filled' := by
  induction h generalizing filled' with
  | verbatim hnone => exact (h'.eq_self hnone).symm
  | column hbefore hvalue hafter ih =>
    obtain ⟨value', filled'', hvalue', hafter', rfl⟩ :=
      h'.exists_column hcolumns (mem_keys_of_get? hvalue) hbefore rfl
    rw [hvalue] at hvalue'
    cases hvalue'
    rw [ih hafter']

end Record

/-- Where no bracket is open before a column's placeholder, the text with its placeholders filled is
the one with every occurrence of a column replaced by the column's value. Any other occurrence is
kept as it is. -/
theorem substitute_fills_columns (row : Record) (hcolumns : ∀ name ∈ row.keys, ColumnName name) :
    (∀ t filled, row.Clear t → (row.Fills t filled ↔ filled = substitute row t)) ∧
      ∀ before after, ∀ name ∈ row.keys, LeavesOpen before →
        substitute row (before ++ (placeholderOf name ++ after)) =
          substitute row before ++ (placeholderOf name ++ substitute row after) := by
  refine ⟨fun t filled hclear ↦ ⟨fun h ↦ h.eq_substitute hcolumns hclear, ?_⟩, ?_⟩
  · rintro rfl
    obtain ⟨filled, hfilled⟩ := row.exists_fills t
    rwa [← hfilled.eq_substitute hcolumns hclear]
  · exact fun before after name hname hopen ↦
      substitute_kept hcolumns (hcolumns name hname) hopen after

/-- A row of which one value is the placeholder of the other column. -/
def pointing : Record := .ofList [("a".toList, "<b>".toList), ("b".toList, "1".toList)]

theorem substitute_fills_columns_pointing :
    (∀ name ∈ pointing.keys, ColumnName name) ∧ pointing.Clear "<a><b> < <c>".toList ∧
      pointing.Fills "<a><b> < <c>".toList "<b>1 < <c>".toList ∧ LeavesOpen "<".toList ∧
        substitute pointing ("<".toList ++ (placeholderOf "a".toList ++ [])) =
          substitute pointing "<".toList ++ (placeholderOf "a".toList ++ substitute pointing []) := by
  obtain ⟨hclear, hkept⟩ := substitute_fills_columns pointing (by decide)
  exact ⟨by decide, by decide +kernel, (hclear _ _ (by decide +kernel)).2 (by decide +kernel),
    by decide, hkept _ _ _ (by decide) (by decide)⟩

/-- A bracket right before a column's placeholder keeps it from being filled. -/
theorem not_fills_substitute : ¬∀ (row : Record) (t : Text),
    (∀ name ∈ row.keys, ColumnName name) → row.Fills t (substitute row t) := by
  intro h
  have hfills := h pointing "<<b>".toList (by decide)
  have hfilled : pointing.Fills ("<".toList ++ (placeholderOf "b".toList ++ []))
      ("<".toList ++ ("1".toList ++ [])) :=
    .column (by decide) (by decide) (.verbatim (by decide))
  have hsame := hfilled.unique (by decide) hfills
  revert hsame
  decide +kernel

end Gherkin
