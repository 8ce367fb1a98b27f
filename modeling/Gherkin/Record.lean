import Gherkin.Text.Basic

/-!
# Records

A record maps names to values and remembers the order in which the names first came in. It is what
one body row of a table says under the table's header.

Main statements: inserting at a name makes it hold the value (`get?_insert_self`), leaves the other
names alone (`get?_insert_of_ne`), and appends the name only where it is new (`keys_insert`); an exchange
also tells what the name held (`exchange_eq`).
-/

namespace Gherkin

/-- A list of name and value pairs in which no name comes twice. -/
structure Record where
  entries : List (Text × Text)
  nodup : (entries.map Prod.fst).Nodup := by simp
  deriving DecidableEq, Repr

namespace Record

/-- The pairs after `value` was put at `key`: in the place of the old value, or at the end. -/
def putPair (key value : Text) : List (Text × Text) → List (Text × Text)
  | [] => [(key, value)]
  | p :: rest => if p.1 = key then (key, value) :: rest else p :: putPair key value rest

/-- The pairs after `value` was put at `key`, behind the value that it took the place of. -/
def swapPair (key value : Text) : List (Text × Text) → Option Text × List (Text × Text)
  | [] => (none, [(key, value)])
  | p :: rest =>
    if p.1 = key then (some p.2, (key, value) :: rest)
    else ((swapPair key value rest).1, p :: (swapPair key value rest).2)

/-- The value of the first pair with the given name. -/
def findPair? (key : Text) : List (Text × Text) → Option Text
  | [] => none
  | p :: rest => if p.1 = key then some p.2 else findPair? key rest

theorem swapPair_eq (key value : Text) (pairs : List (Text × Text)) :
    swapPair key value pairs = (findPair? key pairs, putPair key value pairs) := by
  induction pairs with
  | nil => rfl
  | cons p rest ih =>
    by_cases h : p.1 = key
    · simp only [swapPair, findPair?, putPair, if_pos h]
    · simp only [swapPair, findPair?, putPair, if_neg h, ih]

theorem map_fst_putPair (key value : Text) (pairs : List (Text × Text)) :
    (putPair key value pairs).map Prod.fst =
      if key ∈ pairs.map Prod.fst then pairs.map Prod.fst else pairs.map Prod.fst ++ [key] := by
  induction pairs with
  | nil => simp [putPair]
  | cons p rest ih =>
    by_cases h : p.1 = key
    · simp [putPair, h]
    · by_cases hk : key ∈ rest.map Prod.fst
      · rw [if_pos (by simp [hk])]
        rw [if_pos hk] at ih
        simp only [putPair, if_neg h, List.map_cons, ih]
      · rw [if_neg (by simpa [Ne.symm h] using hk)]
        rw [if_neg hk] at ih
        simp only [putPair, if_neg h, List.map_cons, ih, List.cons_append]

def empty : Record := ⟨[], by simp⟩

/-- The names in the order in which they first came in. -/
def keys (r : Record) : List Text := r.entries.map Prod.fst

def get? (r : Record) (key : Text) : Option Text := findPair? key r.entries

def contains (r : Record) (key : Text) : Bool := (r.get? key).isSome

def size (r : Record) : Nat := r.entries.length

def isEmpty (r : Record) : Bool := r.entries.isEmpty

/-- The record in which `key` holds `value`; a name that was held before keeps its place. -/
def insert (r : Record) (key value : Text) : Record :=
  ⟨putPair key value r.entries, by
    have h := r.nodup
    rw [map_fst_putPair]
    split
    · exact h
    · next hk =>
      rw [List.nodup_append]
      exact ⟨h, by simp, by rintro a ha b hb rfl; simp at hb; exact hk (hb ▸ ha)⟩⟩

/-- The record in which `key` holds `value`, behind the value that it held before. -/
def exchange (r : Record) (key value : Text) : Option Text × Record :=
  ((swapPair key value r.entries).1, ⟨(swapPair key value r.entries).2, by
    rw [swapPair_eq]
    exact (r.insert key value).nodup⟩)

/-- The record of a list of pairs; of two values for one name the later one stays. -/
def ofList (pairs : List (Text × Text)) : Record :=
  pairs.foldl (fun r p ↦ r.insert p.1 p.2) empty

theorem exchange_eq (r : Record) (key value : Text) :
    r.exchange key value = (r.get? key, r.insert key value) := by
  simp only [exchange, swapPair_eq, get?, insert]

theorem keys_insert (r : Record) (key value : Text) :
    (r.insert key value).keys = if key ∈ r.keys then r.keys else r.keys ++ [key] :=
  map_fst_putPair key value r.entries

theorem get?_insert_self (r : Record) (key value : Text) :
    (r.insert key value).get? key = some value := by
  simp only [insert, get?]
  induction r.entries with
  | nil => simp [putPair, findPair?]
  | cons p rest ih => by_cases h : p.1 = key <;> simp [putPair, findPair?, h, ih]

theorem get?_insert_of_ne (r : Record) {key other : Text} (value : Text) (h : other ≠ key) :
    (r.insert key value).get? other = r.get? other := by
  simp only [insert, get?]
  induction r.entries with
  | nil => simp [putPair, findPair?, Ne.symm h]
  | cons p rest ih =>
    by_cases hp : p.1 = key
    · simp [putPair, findPair?, hp, Ne.symm h]
    · simp only [putPair, if_neg hp, findPair?, ih]

theorem get?_eq_none_iff {r : Record} {key : Text} : r.get? key = none ↔ key ∉ r.keys := by
  simp only [get?, keys]
  induction r.entries with
  | nil => simp [findPair?]
  | cons p rest ih =>
    rw [List.map_cons, List.mem_cons, not_or]
    by_cases hp : p.1 = key
    · simp [findPair?, hp]
    · rw [findPair?, if_neg hp, ih]
      exact ⟨fun h ↦ ⟨Ne.symm hp, h⟩, And.right⟩

theorem mem_keys_of_get? {r : Record} {key value : Text} (h : r.get? key = some value) :
    key ∈ r.keys :=
  Decidable.byContradiction fun hkey ↦ by
    rw [get?_eq_none_iff.2 hkey] at h
    cases h

end Record

end Gherkin
