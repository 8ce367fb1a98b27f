import Gherkin.Feature.Basic
import Gherkin.Proofs.Text.Offsets
import Gherkin.Token.Basic

/-!
# How the nodes of a document lie in its text

The parts of a document that carry a location and a span form a tree: a node stands at a place, has
a description or none, and encloses its parts. Such a layout is sound if every place is the one that
its first byte has in the text, the bytes of a node hold its parts, and what stands side by side
does so in order. A node that stands where its header does and whose span is joined with those of
its parts, one after the other, is sound if they are.

Main statements: a span that is joined with later ones in order (`Span.foldl_join_eq_getLast?`), and
the step from a header and the parts below it to their node (`Stands.node`).
-/

namespace Gherkin

open Text (Solid)

namespace Span

variable {s a b : Span} {ss : List Span}

def Before (a b : Span) : Prop := a.stop < b.start

theorem eq_of_start_of_stop (hstart : a.start = b.start) (hstop : a.stop = b.stop) : a = b := by
  cases a
  cases b
  simp_all

theorem join_self (s : Span) : s.join s = s :=
  eq_of_start_of_stop (Nat.min_self _) (Nat.max_self _)

theorem Before.start_join (h : a.Before b) : (a.join b).start = a.start := by
  have hle := a.start_le_stop
  unfold Before at h
  exact Nat.min_eq_left (by omega)

theorem Before.stop_join (h : a.Before b) : (a.join b).stop = b.stop := by
  have hle := b.start_le_stop
  unfold Before at h
  exact Nat.max_eq_right (by omega)

instance (a b : Span) : Decidable (a ≤ b) := decidable_of_iff _ le_iff.symm

theorem le_refl (s : Span) : s ≤ s := le_iff.2 ⟨Nat.le_refl _, Nat.le_refl _⟩

theorem le_trans {c : Span} (h : a ≤ b) (h' : b ≤ c) : a ≤ c :=
  le_iff.2 ⟨Nat.le_trans (le_iff.1 h').1 (le_iff.1 h).1,
    Nat.le_trans (le_iff.1 h).2 (le_iff.1 h').2⟩

theorem le_foldl_join (ss : List Span) (s : Span) : s ≤ ss.foldl join s := by
  induction ss generalizing s with
  | nil => exact le_refl s
  | cons a ss ih => exact le_trans (le_join_left s a) (ih (s.join a))

/-- Spans that are joined lie within the whole. -/
theorem le_foldl_join_of_mem (h : a ∈ ss) : a ≤ ss.foldl join s := by
  induction ss generalizing s with
  | nil => cases h
  | cons b ss ih =>
    rcases List.mem_cons.1 h with rfl | h
    · exact le_trans (le_join_right s a) (le_foldl_join ss (s.join a))
    · exact ih h

/-- Spans in order are so still when the first two are joined. -/
theorem pairwise_join_cons (h : (s :: a :: ss).Pairwise Before) :
    s.Before a ∧ (s.join a :: ss).Pairwise Before := by
  obtain ⟨hs, hrest⟩ := List.pairwise_cons.1 h
  obtain ⟨ha, hss⟩ := List.pairwise_cons.1 hrest
  have hbefore := hs a List.mem_cons_self
  refine ⟨hbefore, List.pairwise_cons.2 ⟨fun b hb ↦ ?_, hss⟩⟩
  rw [Before, hbefore.stop_join]
  exact ha b hb

theorem start_foldl_join (h : (s :: ss).Pairwise Before) : (ss.foldl join s).start = s.start := by
  induction ss generalizing s with
  | nil => rfl
  | cons a ss ih =>
    obtain ⟨hbefore, hrest⟩ := pairwise_join_cons h
    rw [List.foldl_cons, ih hrest, hbefore.start_join]

/-- Spans that are joined end where one of them does. -/
theorem exists_stop_foldl_join (ss : List Span) (s : Span) :
    ∃ a ∈ s :: ss, (ss.foldl join s).stop = a.stop := by
  induction ss generalizing s with
  | nil => exact ⟨s, List.mem_cons_self, rfl⟩
  | cons a ss ih =>
    obtain ⟨b, hb, hstop⟩ := ih (s.join a)
    rw [List.foldl_cons, hstop]
    rcases List.mem_cons.1 hb with rfl | hb
    · rcases Nat.le_total s.stop a.stop with hle | hle
      · exact ⟨a, by simp, Nat.max_eq_right hle⟩
      · exact ⟨s, by simp, Nat.max_eq_left hle⟩
    · exact ⟨b, by simp [hb], rfl⟩

/-- A span that is joined with later ones in order reaches to the end of the last. -/
theorem foldl_join_eq_getLast? {α : Type} (span : α → Span) {as : List α}
    (h : (s :: as.map span).Pairwise Before) :
    (as.map span).foldl join s = (as.getLast?.map fun a ↦ s.join (span a)).getD s := by
  induction as generalizing s with
  | nil => rfl
  | cons a as ih =>
    obtain ⟨hbefore, hrest⟩ := pairwise_join_cons h
    rw [List.map_cons, List.foldl_cons, ih hrest, List.getLast?_cons]
    cases hlast : as.getLast? with
    | none => rfl
    | some last =>
      -- the span in between is covered by the first and the last
      have hmem : span last ∈ as.map span := List.mem_map_of_mem (List.mem_of_getLast? hlast)
      have hfirst : s.Before (span last) :=
        (List.pairwise_cons.1 h).1 _ (List.mem_cons_of_mem _ hmem)
      have hjoined : (s.join (span a)).Before (span last) := (List.pairwise_cons.1 hrest).1 _ hmem
      apply eq_of_start_of_stop
      · exact hjoined.start_join.trans (hbefore.start_join.trans hfirst.start_join.symm)
      · exact hjoined.stop_join.trans hfirst.stop_join.symm

end Span

/-- Where a node is said to stand: at the location of its first byte, over its bytes. -/
structure Place where
  location : Location
  span : Span
  deriving DecidableEq, Repr

/-- The bytes of the place are a piece of the text that begins with the keyword and has no white
space at its ends, and the location counts the lines and characters before them. -/
structure Place.Exact (source keyword : Text) (p : Place) : Prop where
  line : p.location.line = source.lineAt p.span.start
  column : p.location.column = source.columnAt p.span.start
  covers : ∃ covered, source.slice? p.span.start p.span.stop = some covered ∧ covered ≠ [] ∧
    Solid covered ∧ keyword <+: covered

/-- How a node lies in its text: its keyword, which is empty for a node that has none, its place,
its description if it has one, and its other parts. -/
inductive Layout where
  | node (keyword : Text) (place : Place) (description : Option Layout) (parts : List Layout)

namespace Layout

/-- A node without parts. -/
def bare (keyword : Text) (place : Place) : Layout := node keyword place none []

def keyword : Layout → Text
  | node keyword _ _ _ => keyword

def place : Layout → Place
  | node _ place _ _ => place

def span (l : Layout) : Span := l.place.span

/-- The node and everything below it stands at its place in the text. Parts lie within the node, and
no two of them or of the description overlap or stand in the wrong order. -/
inductive Sound (source : Text) : Layout → Prop
  | node {keyword : Text} {place : Place} {description : Option Layout} {parts : List Layout} :
    place.Exact source keyword → (∀ d ∈ description, Sound source d) →
      (∀ p ∈ parts, Sound source p) → (∀ p ∈ parts, p.span ≤ place.span) →
      ((description.toList ++ parts).map Layout.span).Pairwise Span.Before →
      Sound source (node keyword place description parts)

/-- The node is the whole or stands somewhere below it. -/
inductive IsIn (l : Layout) : Layout → Prop
  | self : IsIn l l
  | part {keyword : Text} {place : Place} {description : Option Layout} {parts : List Layout}
    {child : Layout} : child ∈ description.toList ++ parts → IsIn l child →
      IsIn l (node keyword place description parts)

theorem IsIn.sound {source : Text} {l whole : Layout} (h : l.IsIn whole)
    (hwhole : whole.Sound source) : l.Sound source := by
  induction h with
  | self => exact hwhole
  | part hpart _ ih =>
    cases hwhole with
    | node _ hdescription hparts =>
      rcases List.mem_append.1 hpart with hpart | hpart
      · exact ih (hdescription _ (Option.mem_toList.1 hpart))
      · exact ih (hparts _ hpart)

end Layout

section Exact

variable {source keyword keyword' : Text} {p p' : Place}

/-- A place that reaches from one to a later one is where the first is. -/
theorem Place.Exact.join (h : p.Exact source keyword) (h' : p'.Exact source keyword')
    (hbefore : p.span.Before p'.span) :
    Place.Exact source keyword ⟨p.location, p.span.join p'.span⟩ where
  line := by rw [hbefore.start_join, h.line]
  column := by rw [hbefore.start_join, h.column]
  covers := by
    obtain ⟨covered, hslice, hne, hsolid, hkeyword⟩ := h.covers
    obtain ⟨covered', hslice', hne', hsolid', -⟩ := h'.covers
    obtain ⟨between, hjoined⟩ := Text.exists_slice?_between hslice hslice' (Nat.le_of_lt hbefore)
    refine ⟨covered ++ (between ++ covered'), ?_, by simp [hne], ?_,
      hkeyword.trans (List.prefix_append _ _)⟩
    · rw [hbefore.start_join, hbefore.stop_join, hjoined]
    · apply Solid.append hsolid.head hne _ (by simp [hne'])
      rw [List.getLast?_append, List.getLast?_eq_some_getLast hne', Option.some_or]
      rw [← List.getLast?_eq_some_getLast hne']
      exact hsolid'.last

theorem Layout.Sound.exact {l : Layout} (h : l.Sound source) :
    l.place.Exact source l.keyword := by
  cases h with
  | node hexact => exact hexact

/-- A place that is joined with later ones in order is where the first is. -/
theorem Place.Exact.foldl_join (h : p.Exact source keyword) {ls : List Layout}
    (hsound : ∀ l ∈ ls, l.Sound source)
    (hordered : (p.span :: ls.map Layout.span).Pairwise Span.Before) :
    Place.Exact source keyword ⟨p.location, (ls.map Layout.span).foldl Span.join p.span⟩ := by
  induction ls generalizing p with
  | nil => exact h
  | cons l ls ih =>
    obtain ⟨hl, hls⟩ := List.forall_mem_cons.1 hsound
    obtain ⟨hbefore, hrest⟩ := Span.pairwise_join_cons hordered
    exact ih (p := ⟨p.location, p.span.join l.span⟩) (h.join hl.exact hbefore) hls hrest

end Exact

/-- The span starts where one of the tokens does and stops where one of them does. -/
def Span.Within (ts : List Token) (s : Span) : Prop :=
  (∃ t ∈ ts, s.start = t.span.start) ∧ ∃ t ∈ ts, s.stop = t.span.stop

/-- Nodes that are sound stand in order where the tokens do. -/
structure Stands (source : Text) (ts : List Token) (ls : List Layout) : Prop where
  sound : ∀ l ∈ ls, l.Sound source
  within : ∀ l ∈ ls, l.span.Within ts
  ordered : (ls.map Layout.span).Pairwise Span.Before

namespace Stands

variable {source keyword : Text} {place : Place} {ts us : List Token} {ls ms : List Layout}

theorem nil : Stands source ts [] := ⟨nofun, nofun, .nil⟩

/-- What stands where earlier tokens do comes before what stands where later ones do. -/
theorem append (h : Stands source ts ls) (h' : Stands source us ms)
    (hbefore : ∀ t ∈ ts, ∀ u ∈ us, t.span.Before u.span) :
    Stands source (ts ++ us) (ls ++ ms) where
  sound := by
    intro l hl
    exact (List.mem_append.1 hl).elim (h.sound l) (h'.sound l)
  within := by
    intro l hl
    rcases List.mem_append.1 hl with hl | hl
    · obtain ⟨⟨t, ht, hstart⟩, u, hu, hstop⟩ := h.within l hl
      exact ⟨⟨t, List.mem_append_left _ ht, hstart⟩, u, List.mem_append_left _ hu, hstop⟩
    · obtain ⟨⟨t, ht, hstart⟩, u, hu, hstop⟩ := h'.within l hl
      exact ⟨⟨t, List.mem_append_right _ ht, hstart⟩, u, List.mem_append_right _ hu, hstop⟩
  ordered := by
    rw [List.map_append]
    refine List.pairwise_append.2 ⟨h.ordered, h'.ordered, fun a ha b hb ↦ ?_⟩
    obtain ⟨l, hl, rfl⟩ := List.mem_map.1 ha
    obtain ⟨m, hm, rfl⟩ := List.mem_map.1 hb
    obtain ⟨-, t, ht, hstop⟩ := h.within l hl
    obtain ⟨⟨u, hu, hstart⟩, -⟩ := h'.within m hm
    rw [Span.Before, hstop, hstart]
    exact hbefore t ht u hu

/-- A header with the description and the parts below it is a node that encloses the parts. -/
theorem node (description : Option Layout) (parts : List Layout)
    (h : Stands source ts (.bare keyword place :: (description.toList ++ parts))) :
    Stands source ts [.node keyword
      ⟨place.location, (parts.map Layout.span).foldl Span.join place.span⟩ description parts] := by
  obtain ⟨hheader, hbelow⟩ := List.forall_mem_cons.1 h.sound
  have hdescription : ∀ d ∈ description, d.Sound source :=
    fun d hd ↦ hbelow d (List.mem_append_left _ (Option.mem_toList.2 hd))
  have hparts : ∀ p ∈ parts, p.Sound source := fun p hp ↦ hbelow p (List.mem_append_right _ hp)
  have hexact : place.Exact source keyword := by
    cases hheader with
    | node hexact => exact hexact
  obtain ⟨hfirst, hrest⟩ := List.pairwise_cons.1 h.ordered
  have hordered : (place.span :: parts.map Layout.span).Pairwise Span.Before :=
    h.ordered.sublist (by simp [Layout.span, Layout.place, Layout.bare])
  refine ⟨List.forall_mem_singleton.2 ?_, List.forall_mem_singleton.2 ?_,
    List.pairwise_singleton ..⟩
  · apply Layout.Sound.node (hexact.foldl_join hparts hordered) hdescription hparts _ hrest
    intro p hp
    exact Span.le_foldl_join_of_mem (List.mem_map_of_mem hp)
  · obtain ⟨⟨t, ht, hstart⟩, -⟩ := h.within _ List.mem_cons_self
    refine ⟨⟨t, ht, (Span.start_foldl_join hordered).trans hstart⟩, ?_⟩
    obtain ⟨a, ha, hstop⟩ := Span.exists_stop_foldl_join (parts.map Layout.span) place.span
    obtain ⟨l, hl, hspan⟩ : ∃ l ∈ Layout.bare keyword place :: (description.toList ++ parts),
        l.span = a := by
      rcases List.mem_cons.1 ha with rfl | ha
      · exact ⟨_, List.mem_cons_self, rfl⟩
      · obtain ⟨p, hp, rfl⟩ := List.mem_map.1 ha
        exact ⟨p, List.mem_cons_of_mem _ (List.mem_append_right _ hp), rfl⟩
    obtain ⟨-, u, hu, hstop'⟩ := h.within l hl
    exact ⟨u, hu, by rw [← hstop', hspan]; exact hstop⟩

end Stands

end Gherkin
