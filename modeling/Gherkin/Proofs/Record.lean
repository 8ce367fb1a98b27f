import Gherkin.Record
import Mathlib.Data.Finset.Card

/-!
# Records of many values

A record that was empty and took values at names one after the other holds each name once, in the
order in which the names first came, and with it the value that came last. Each value is answered by
the one it takes the place of, which is the last one that came before it at the same name.

Main statements: what one value changes (`Holds.exchange`), and what a sequence of values makes of
an empty record and how it is answered (`exchangeAll_empty`, `holds_ofList`).
-/

namespace Gherkin.Record

/-- Values are put at names one after the other; the answers are the values that the names held
before. -/
def exchangeAll (r : Record) : List (Text × Text) → List (Option Text) × Record
  | [] => ([], r)
  | (key, value) :: rest =>
    let (old, next) := r.exchange key value
    let (olds, last) := next.exchangeAll rest
    (old :: olds, last)

/-- The record is what pairs of names and values make of an empty one. -/
structure Holds (pairs : List (Text × Text)) (r : Record) : Prop where
  keys_eq : r.keys = (pairs.map Prod.fst).eraseDups
  get?_eq : ∀ key, r.get? key = pairs.reverse.lookup key

theorem holds_empty : Holds [] empty := ⟨rfl, fun _ ↦ rfl⟩

namespace Holds

variable {pairs : List (Text × Text)} {r : Record} (h : Holds pairs r)

include h

/-- One more value at a name adds the name only if it is new. -/
theorem insert (key value : Text) : Holds (pairs ++ [(key, value)]) (r.insert key value) := by
  refine ⟨?_, fun other ↦ ?_⟩
  · rw [keys_insert, h.keys_eq, List.map_append, List.eraseDups_append]
    by_cases hkey : key ∈ pairs.map Prod.fst
    · simp [hkey, List.removeAll]
    · simp [hkey, List.removeAll, List.eraseDups_cons]
  · rw [List.reverse_append, List.reverse_singleton, List.singleton_append, List.lookup_cons]
    by_cases hother : other = key
    · rw [hother, get?_insert_self, beq_self_eq_true]
    · rw [get?_insert_of_ne r value hother, h.get?_eq, beq_false_of_ne hother]

theorem insertAll (more : List (Text × Text)) :
    Holds (pairs ++ more) (more.foldl (fun r p ↦ r.insert p.1 p.2) r) := by
  induction more generalizing pairs r with
  | nil => rwa [List.append_nil]
  | cons p more ih =>
    have hrest := ih (h.insert p.1 p.2)
    rwa [List.append_assoc] at hrest

/-- One more value is answered by the last one of its name. -/
theorem exchange (key value : Text) :
    (r.exchange key value).1 = pairs.reverse.lookup key ∧
      Holds (pairs ++ [(key, value)]) (r.exchange key value).2 := by
  rw [exchange_eq]
  exact ⟨h.get?_eq key, h.insert key value⟩

theorem size_eq : r.size = (pairs.map Prod.fst).toFinset.card := by
  have hnames : (pairs.map Prod.fst).toFinset = r.keys.toFinset := by
    ext name
    rw [h.keys_eq, List.mem_toFinset, List.mem_toFinset, List.mem_eraseDups]
  calc
    r.size = r.keys.length := (List.length_map _).symm
    _ = r.keys.toFinset.card := (List.toFinset_card_of_nodup r.nodup).symm
    _ = (pairs.map Prod.fst).toFinset.card := by rw [hnames]

/-- Each of more values is answered by the last one of its name that came before it. -/
theorem exchangeAll (more : List (Text × Text)) :
    (r.exchangeAll more).1 =
        more.mapIdx (fun i p ↦ (pairs ++ more.take i).reverse.lookup p.1) ∧
      Holds (pairs ++ more) (r.exchangeAll more).2 := by
  induction more generalizing pairs r with
  | nil => exact ⟨rfl, by rwa [List.append_nil]⟩
  | cons p more ih =>
    obtain ⟨key, value⟩ := p
    obtain ⟨hold, hnext⟩ := h.exchange key value
    obtain ⟨holds, hlast⟩ := ih hnext
    rw [List.append_assoc] at hlast
    refine ⟨?_, hlast⟩
    rw [Record.exchangeAll, List.mapIdx_cons, List.take_zero, List.append_nil]
    simp only [hold, holds, List.take_succ_cons, List.append_assoc, List.singleton_append]

end Holds

/-- Values that are put into an empty record are answered, and held in the end, as the values that
came before and that came at all say. -/
theorem exchangeAll_empty (pairs : List (Text × Text)) :
    (empty.exchangeAll pairs).1 = pairs.mapIdx (fun i p ↦ (pairs.take i).reverse.lookup p.1) ∧
      Holds pairs (empty.exchangeAll pairs).2 :=
  holds_empty.exchangeAll pairs

theorem holds_ofList (pairs : List (Text × Text)) : Holds pairs (ofList pairs) :=
  holds_empty.insertAll pairs

example :
    (ofList [("a".toList, "1".toList), ("b".toList, "2".toList), ("a".toList, "3".toList)]).entries =
      [("a".toList, "3".toList), ("b".toList, "2".toList)] := by
  decide +kernel

end Gherkin.Record
