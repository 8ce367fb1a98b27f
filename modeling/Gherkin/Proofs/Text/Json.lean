import Gherkin.Text.Json

/-!
# Written documents can be told apart

What is written for a value ends where the value ends: behind it a separator or a closing bracket
comes next, and neither can be taken for a part of it. So a written document is the written form of
one value only.

Main statement: `Json.display_injective`.
-/

namespace Gherkin

namespace Text

def NoDigit (t : Text) : Prop := ∀ c ∈ t.head?, c.isDigit = false

theorem noDigit_cons {c : Char} (h : c.isDigit = false) (t : Text) : NoDigit (c :: t) := by
  rintro d hd
  cases hd
  exact h

theorem isDigit_of_mem_ofNat {n : Nat} {c : Char} (h : c ∈ ofNat n) : c.isDigit :=
  Nat.isDigit_of_mem_toDigits (by decide) (by decide) h

theorem takeWhile_isDigit_ofNat_append (n : Nat) {rest : Text} (h : NoDigit rest) :
    (ofNat n ++ rest).takeWhile Char.isDigit = ofNat n := by
  rw [List.takeWhile_append_of_pos fun c hc ↦ isDigit_of_mem_ofNat hc]
  cases rest with
  | nil => simp
  | cons c rest => simp [h c rfl]

theorem ofNat_injective {m n : Nat} (h : ofNat m = ofNat n) : m = n := by
  have hvalue := congrArg (Nat.ofDigitChars 10 · 0) h
  simpa [ofNat, Nat.ofDigitChars_ten_toDigits] using hvalue

/-- A number ends where no digit comes next. -/
theorem ofNat_append_inj {m n : Nat} {rest rest' : Text} (hrest : NoDigit rest)
    (hrest' : NoDigit rest') (h : ofNat m ++ rest = ofNat n ++ rest') : m = n ∧ rest = rest' := by
  have hdigits := congrArg (List.takeWhile Char.isDigit) h
  rw [takeWhile_isDigit_ofNat_append m hrest, takeWhile_isDigit_ofNat_append n hrest'] at hdigits
  obtain rfl := ofNat_injective hdigits
  exact ⟨rfl, List.append_cancel_left h⟩

end Text

namespace Json

open Text (NoDigit noDigit_cons isDigit_of_mem_ofNat)

/-- What is written for a thing can be split off in front of a text that does not go on with a
digit. -/
def SplitsOff {α : Type} (write : α → Text) (a : α) : Prop :=
  ∀ b rest rest', NoDigit rest → NoDigit rest' → write a ++ rest = write b ++ rest' →
    a = b ∧ rest = rest'

def hexValue (c : Char) : Nat := "0123456789abcdef".toList.idxOf c

/-- The character that comes next in a string, and what comes behind it; none at its end. -/
def unescape? : Text → Option (Char × Text)
  | '\\' :: 'n' :: rest => some ('\n', rest)
  | '\\' :: 'r' :: rest => some ('\r', rest)
  | '\\' :: 't' :: rest => some ('\t', rest)
  | '\\' :: 'b' :: rest => some ('\x08', rest)
  | '\\' :: 'f' :: rest => some ('\x0c', rest)
  | '\\' :: 'u' :: _ :: _ :: a :: b :: rest =>
    some (Char.ofNat (16 * hexValue a + hexValue b), rest)
  | '\\' :: c :: rest => some (c, rest)
  | '"' :: _ => none
  | c :: rest => some (c, rest)
  | [] => none

theorem unescape?_escapedChar (c : Char) (rest : Text) :
    unescape? (escapedChar c ++ rest) = some (c, rest) := by
  by_cases hspecial : c ∈ ['"', '\\', '\n', '\r', '\t', '\x08', '\x0c']
  · simp only [List.mem_cons, List.not_mem_nil, or_false] at hspecial
    rcases hspecial with rfl | rfl | rfl | rfl | rfl | rfl | rfl <;> rfl
  · simp only [List.mem_cons, List.not_mem_nil, or_false, not_or] at hspecial
    obtain ⟨hquote, hslash, hfeed, hreturn, htab, hback, hform⟩ := hspecial
    rw [escapedChar, if_neg (by simp [hquote, hslash]), if_neg hfeed, if_neg hreturn, if_neg htab,
      if_neg hback, if_neg hform]
    split
    · next hcontrol =>
      have hvalue : ∀ n < 32, 16 * hexValue (hexDigit (n / 16)) + hexValue (hexDigit n) = n := by
        decide +kernel
      change some (Char.ofNat _, rest) = _
      rw [hvalue _ hcontrol, Char.ofNat_toNat]
    · rw [List.singleton_append, unescape?.eq_def]
      split <;> simp_all

theorem flatMap_escapedChar_inj {t t' rest rest' : Text}
    (h : t.flatMap escapedChar ++ '"' :: rest = t'.flatMap escapedChar ++ '"' :: rest') :
    t = t' ∧ rest = rest' := by
  induction t generalizing t' with
  | nil =>
    cases t' with
    | nil => exact ⟨rfl, (List.cons.inj h).2⟩
    | cons d t' =>
      -- a quote ends the one string and not the other
      have hread := congrArg unescape? h
      rw [List.flatMap_cons, List.append_assoc, unescape?_escapedChar] at hread
      cases hread
  | cons c t ih =>
    have hread := congrArg unescape? h
    rw [List.flatMap_cons, List.append_assoc, unescape?_escapedChar] at hread
    cases t' with
    | nil => cases hread
    | cons d t' =>
      rw [List.flatMap_cons, List.append_assoc, unescape?_escapedChar] at hread
      obtain ⟨rfl, hmore⟩ := Prod.mk.inj (Option.some.inj hread)
      obtain ⟨rfl, hrest⟩ := ih hmore
      exact ⟨rfl, hrest⟩

theorem quote_append (t rest : Text) :
    quote t ++ rest = '"' :: (t.flatMap escapedChar ++ '"' :: rest) := by
  simp [quote]

theorem splitsOff_quote (t : Text) : SplitsOff quote t := by
  intro b rest rest' _ _ h
  rw [quote_append, quote_append] at h
  exact flatMap_escapedChar_inj (List.cons.inj h).2

section Items

variable {α : Type} {write : α → Text} {as bs : List α} {rest rest' : Text}

def furtherItems (level : Nat) (items : List Text) : Text :=
  items.flatMap fun item ↦ ',' :: (newLine level ++ item)

@[simp] theorem furtherItems_nil (level : Nat) : furtherItems level [] = [] := rfl

@[simp] theorem furtherItems_cons (level : Nat) (item : Text) (items : List Text) :
    furtherItems level (item :: items) =
      ',' :: (newLine level ++ (item ++ furtherItems level items)) := by
  simp [furtherItems]

theorem enclose_cons (level : Nat) (opening closing : Char) (item : Text) (items : List Text) :
    enclose level opening closing (item :: items) =
      opening :: (newLine (level + 1) ++ (item ++ (furtherItems (level + 1) items ++
        (newLine level ++ [closing])))) := by
  have hjoin (first : Text) (more : List Text) :
      Text.join [','] (first :: more) = first ++ more.flatMap (',' :: ·) := by
    induction more generalizing first with
    | nil => simp [Text.join]
    | cons next more ih =>
      rw [Text.join, List.intercalate_cons_cons, ← Text.join, ih]
      simp
  rw [enclose, if_neg (by simp), List.map_cons, hjoin, List.flatMap_map]
  simp [furtherItems]

theorem newLine_append_furtherItems (level : Nat) (first item : Text) (items items' : List Text)
    (rest : Text) :
    newLine level ++ (first ++ (furtherItems level (items ++ item :: items') ++ rest)) =
      (first :: items).flatMap (newLine level ++ · ++ [',']) ++
        (newLine level ++ (item ++ (furtherItems level items' ++ rest))) := by
  induction items generalizing first with
  | nil => simp
  | cons next items ih => simpa using ih next

/-- What is written of items begins with the first of them, each closed by a comma, and the next. -/
theorem exists_enclose_eq (level : Nat) (opening closing : Char) (items : List Text) (item : Text)
    (items' : List Text) : ∃ more, enclose level opening closing (items ++ item :: items') =
      [opening] ++ items.flatMap (newLine (level + 1) ++ · ++ [',']) ++ newLine (level + 1) ++ item ++
        more := by
  refine ⟨furtherItems (level + 1) items' ++ (newLine level ++ [closing]), ?_⟩
  cases items with
  | nil => simp [enclose_cons]
  | cons first items =>
    rw [List.cons_append, enclose_cons, newLine_append_furtherItems]
    simp

theorem noDigit_furtherItems {level level' : Nat} {items : List Text} {rest : Text} :
    NoDigit (furtherItems level items ++ (newLine level' ++ rest)) := by
  cases items <;> exact noDigit_cons (by decide) _

theorem furtherItems_inj {level level' : Nat} (hwrite : ∀ a ∈ as, SplitsOff write a)
    (h : furtherItems level (as.map write) ++ (newLine level' ++ rest) =
      furtherItems level (bs.map write) ++ (newLine level' ++ rest')) : as = bs ∧ rest = rest' := by
  induction as generalizing bs with
  | nil =>
    cases bs with
    | nil => exact ⟨rfl, List.append_cancel_left h⟩
    | cons b bs => cases (List.cons.inj h).1
  | cons a as ih =>
    cases bs with
    | nil => cases (List.cons.inj h).1
    | cons b bs =>
      obtain ⟨ha, has⟩ := List.forall_mem_cons.1 hwrite
      simp only [List.map_cons, furtherItems_cons, List.cons_append, List.append_assoc,
        List.cons.injEq, true_and, List.append_cancel_left_eq] at h
      obtain ⟨rfl, hmore⟩ := ha b _ _ noDigit_furtherItems noDigit_furtherItems h
      obtain ⟨rfl, hrest⟩ := ih has hmore
      exact ⟨rfl, hrest⟩

theorem splitsOff_enclose (level : Nat) (opening : Char) {closing : Char}
    (hclosing : closing ≠ '\n') (hwrite : ∀ a ∈ as, SplitsOff write a) :
    SplitsOff (fun items ↦ enclose level opening closing (items.map write)) as := by
  intro bs rest rest' _ _ h
  cases as with
  | nil =>
    cases bs with
    | nil => exact ⟨rfl, List.append_cancel_left h⟩
    | cons b bs =>
      simp only [List.map_cons, enclose_cons] at h
      exact absurd (List.cons.inj (List.cons.inj h).2).1 hclosing
  | cons a as =>
    cases bs with
    | nil =>
      simp only [List.map_cons, enclose_cons] at h
      exact absurd (List.cons.inj (List.cons.inj h).2).1.symm hclosing
    | cons b bs =>
      obtain ⟨ha, has⟩ := List.forall_mem_cons.1 hwrite
      simp only [List.map_cons, enclose_cons, List.cons_append, List.append_assoc, List.cons.injEq,
        true_and, List.append_cancel_left_eq] at h
      obtain ⟨rfl, hmore⟩ := ha b _ _ noDigit_furtherItems noDigit_furtherItems h
      obtain ⟨rfl, hrest⟩ := furtherItems_inj has hmore
      exact ⟨rfl, (List.cons.inj hrest).2⟩

end Items

/-! ## Values -/

theorem renderItems_eq (level : Nat) (items : List Json) :
    renderItems level items = items.map (render level) := by
  induction items with
  | nil => rfl
  | cons item items ih => rw [renderItems, ih, List.map_cons]

def renderMember (level : Nat) (m : Text × Json) : Text :=
  quote m.1 ++ [':', ' '] ++ render level m.2

theorem renderMembers_eq (level : Nat) (members : List (Text × Json)) :
    renderMembers level members = members.map (renderMember level) := by
  induction members with
  | nil => rfl
  | cons m members ih => rw [renderMembers, ih, List.map_cons, renderMember]

/-- What is written of an array begins with the first of its items and the next. -/
theorem exists_render_array_eq (level : Nat) (items : List Json) (item : Json)
    (items' : List Json) : ∃ more, render level (.array (items ++ item :: items')) =
      ['['] ++ items.flatMap (newLine (level + 1) ++ render (level + 1) · ++ [',']) ++
        newLine (level + 1) ++ render (level + 1) item ++ more := by
  obtain ⟨more, hmore⟩ := exists_enclose_eq level '[' ']' (items.map (render (level + 1)))
    (render (level + 1) item) (items'.map (render (level + 1)))
  refine ⟨more, ?_⟩
  rw [render, renderItems_eq, List.map_append, List.map_cons, hmore, List.flatMap_map]

/-- What is written of an object begins with its first member. -/
theorem exists_render_object_eq (level : Nat) (name : Text) (value : Json)
    (members : List (Text × Json)) : ∃ more, render level (.object ((name, value) :: members)) =
      ['\x7b'] ++ newLine (level + 1) ++ quote name ++ [':', ' '] ++ render (level + 1) value ++
        more := by
  obtain ⟨more, hmore⟩ := exists_enclose_eq level '\x7b' '\x7d' []
    (renderMember (level + 1) (name, value)) (members.map (renderMember (level + 1)))
  refine ⟨more, ?_⟩
  rw [render, renderMembers_eq, List.map_cons]
  simpa [renderMember] using hmore

theorem splitsOff_renderMember {level : Nat} {m : Text × Json}
    (h : SplitsOff (render level) m.2) : SplitsOff (renderMember level) m := by
  intro m' rest rest' hrest hrest' heq
  simp only [renderMember, List.append_assoc] at heq
  obtain ⟨hname, hvalue⟩ := splitsOff_quote m.1 m'.1 _ _ (noDigit_cons (by decide) _)
    (noDigit_cons (by decide) _) heq
  have hvalue : render level m.2 ++ rest = render level m'.2 ++ rest' :=
    (List.cons.inj (List.cons.inj hvalue).2).2
  obtain ⟨hvalue, hrest⟩ := h m'.2 rest rest' hrest hrest' hvalue
  exact ⟨Prod.ext hname hvalue, hrest⟩

/-- The kinds of values. -/
def kind : Json → Nat
  | text _ => 0
  | number _ => 1
  | boolean _ => 2
  | array _ => 3
  | object _ => 4

/-- The kind of a value whose written form begins with a character. -/
def kindOf (c : Char) : Nat :=
  if c = '"' then 0 else if c.isDigit then 1 else if c = '[' then 3 else if c = '\x7b' then 4 else 2

theorem exists_render_eq (level : Nat) (j : Json) :
    ∃ c rest, render level j = c :: rest ∧ kindOf c = j.kind := by
  have henclose (opening closing : Char) (items : List Text) :
      ∃ rest, enclose level opening closing items = opening :: rest := by
    cases items with
    | nil => exact ⟨[closing], rfl⟩
    | cons item items => exact ⟨_, enclose_cons level opening closing item items⟩
  cases j with
  | text t => exact ⟨'"', _, rfl, rfl⟩
  | number n =>
    obtain ⟨c, rest, hrest⟩ : ∃ c rest, Text.ofNat n = c :: rest :=
      List.exists_cons_of_ne_nil Nat.toDigits_ne_nil
    have hdigit : c.isDigit := isDigit_of_mem_ofNat (hrest ▸ List.mem_cons_self)
    refine ⟨c, rest, hrest, ?_⟩
    have hquote : c ≠ '"' := by
      rintro rfl
      cases hdigit
    rw [kindOf, if_neg hquote, if_pos hdigit, kind]
  | boolean b => cases b <;> exact ⟨_, _, rfl, by decide⟩
  | array items =>
    obtain ⟨rest, hrest⟩ := henclose '[' ']' (renderItems (level + 1) items)
    exact ⟨'[', rest, hrest, rfl⟩
  | object members =>
    obtain ⟨rest, hrest⟩ := henclose '\x7b' '\x7d' (renderMembers (level + 1) members)
    exact ⟨'\x7b', rest, hrest, rfl⟩

theorem kind_eq_of_render_append_eq {level : Nat} {a b : Json} {rest rest' : Text}
    (h : render level a ++ rest = render level b ++ rest') : a.kind = b.kind := by
  obtain ⟨c, ra, ha, hkind⟩ := exists_render_eq level a
  obtain ⟨d, rb, hb, hkind'⟩ := exists_render_eq level b
  rw [ha, hb] at h
  rw [← hkind, ← hkind', (List.cons.inj h).1]

/-- The written form of a value can be split off. -/
theorem splitsOff_render : (a : Json) → (level : Nat) → SplitsOff (render level) a
  | text t, level => by
    intro b rest rest' hrest hrest' h
    cases b <;> cases kind_eq_of_render_append_eq h
    next t' =>
    obtain ⟨rfl, hend⟩ := splitsOff_quote t t' rest rest' hrest hrest' h
    exact ⟨rfl, hend⟩
  | number n, level => by
    intro b rest rest' hrest hrest' h
    cases b <;> cases kind_eq_of_render_append_eq h
    next n' =>
    obtain ⟨rfl, hend⟩ := Text.ofNat_append_inj hrest hrest' h
    exact ⟨rfl, hend⟩
  | boolean x, level => by
    intro b rest rest' _ _ h
    cases b <;> cases kind_eq_of_render_append_eq h
    next y => cases x <;> cases y <;> simp_all [render]
  | array items, level => by
    intro b rest rest' hrest hrest' h
    cases b <;> cases kind_eq_of_render_append_eq h
    next items' =>
    have hitems : ∀ item ∈ items, SplitsOff (render (level + 1)) item :=
      fun item _ ↦ splitsOff_render item (level + 1)
    simp only [render, renderItems_eq] at h
    obtain ⟨rfl, hend⟩ := splitsOff_enclose level '[' (by decide) hitems items' rest rest' hrest
      hrest' h
    exact ⟨rfl, hend⟩
  | object members, level => by
    intro b rest rest' hrest hrest' h
    cases b <;> cases kind_eq_of_render_append_eq h
    next members' =>
    have hmembers : ∀ m ∈ members, SplitsOff (renderMember (level + 1)) m :=
      fun m _ ↦ splitsOff_renderMember (splitsOff_render m.2 (level + 1))
    simp only [render, renderMembers_eq] at h
    obtain ⟨rfl, hend⟩ := splitsOff_enclose level '\x7b' (by decide) hmembers members' rest rest'
      hrest hrest' h
    exact ⟨rfl, hend⟩
termination_by a => sizeOf a
decreasing_by
  · have := List.sizeOf_lt_of_mem ‹item ∈ items›
    simp only [array.sizeOf_spec]
    omega
  · have := List.sizeOf_lt_of_mem ‹m ∈ members›
    cases m
    simp only [object.sizeOf_spec, Prod.mk.sizeOf_spec] at this ⊢
    omega

/-- A written document is the written form of one value only. -/
theorem display_injective {a b : Json} (h : a.display = b.display) : a = b :=
  (splitsOff_render a 0 b [] [] nofun nofun (congrArg (· ++ []) h)).1

end Json

end Gherkin
