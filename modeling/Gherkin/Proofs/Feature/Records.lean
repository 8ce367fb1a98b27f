import Gherkin.Proofs.Feature.WellFormed
import Gherkin.Proofs.Record
import Mathlib.Data.List.Forall2

/-!
# Records of the rows of tables

Below its header a table has rows, and each of them is read as a record of the names in the header.
Rows are put under the header cell by cell as far as both go; as the tables that are read have rows
of one width, no cell is lost on the way, apart from those that have a namesake further right.

Main statements: `Table.Rectangular.forall₂_records`, and for the tables that reading gives
`rectangular_of_parseFeature` and `rectangular_of_parseSteps`.
-/

namespace Gherkin

/-- The record holds the names of a header once, in order, and with each of them the cell of a row
in the last column of that name. -/
structure Record.Labels (names cells : List Text) (r : Record) : Prop where
  keys_eq : r.keys = names.eraseDups
  get?_eq : ∀ name ∈ names, ∃ column cell, names[column]? = some name ∧
    name ∉ names.drop (column + 1) ∧ cells[column]? = some cell ∧ r.get? name = some cell

/-- The last cell below a name is the cell below the last of that name. -/
theorem exists_lookup_reverse_zip {names cells : List Text} (hlength : cells.length = names.length)
    {name : Text} (hname : name ∈ names) :
    ∃ column cell, names[column]? = some name ∧ name ∉ names.drop (column + 1) ∧
      cells[column]? = some cell ∧ (names.zip cells).reverse.lookup name = some cell := by
  induction names generalizing cells with
  | nil => cases hname
  | cons first names ih =>
    cases cells with
    | nil => cases hlength
    | cons cell cells =>
      have hlength : cells.length = names.length := Nat.succ.inj hlength
      rw [List.zip_cons_cons, List.reverse_cons, List.lookup_append]
      by_cases hlater : name ∈ names
      · obtain ⟨column, later, hcolumn, hlast, hcell, hlookup⟩ := ih hlength hlater
        exact ⟨column + 1, later, hcolumn, hlast, hcell, by rw [hlookup, Option.some_or]⟩
      · have hnone : (names.zip cells).reverse.lookup name = none := by
          refine List.lookup_eq_none_iff.2 fun p hp ↦ ?_
          have hmem := (List.of_mem_zip (List.mem_reverse.1 hp)).1
          exact bne_iff_ne.2 fun heq ↦ hlater (heq ▸ hmem)
        obtain rfl : name = first := (List.mem_cons.1 hname).resolve_right hlater
        refine ⟨0, cell, rfl, hlater, rfl, ?_⟩
        rw [hnone, Option.none_or, List.lookup_cons_self]

theorem Record.labels_ofList_zip {names cells : List Text} (hlength : cells.length = names.length) :
    (ofList (names.zip cells)).Labels names cells := by
  have hholds := holds_ofList (names.zip cells)
  refine ⟨?_, fun name hname ↦ ?_⟩
  · rw [hholds.keys_eq, List.map_fst_zip (Nat.le_of_eq hlength.symm)]
  · obtain ⟨column, cell, hcolumn, hlast, hcell, hlookup⟩ := exists_lookup_reverse_zip hlength hname
    exact ⟨column, cell, hcolumn, hlast, hcell, (hholds.get?_eq name).trans hlookup⟩

/-- There is a record for each row, in order. -/
theorem Table.Rectangular.forall₂_records {t : Table} (h : t.Rectangular) :
    List.Forall₂ (fun row r ↦ r.Labels t.header row) t.body t.records := by
  rw [records, List.forall₂_map_right_iff, List.forall₂_same]
  exact fun row hrow ↦ Record.labels_ofList_zip (h.length_eq row (List.mem_of_mem_tail hrow))

/-- All tables of a feature: those of its steps and those of its examples. -/
def Feature.tables (f : Feature) : List Table :=
  (f.background.toList.flatMap (·.steps) ++ f.scenarios.flatMap (·.steps)).filterMap (·.table) ++
    (f.scenarios.flatMap (·.examples)).map (·.table)

theorem Feature.WellFormed.rectangular {f : Feature} (h : f.WellFormed) :
    ∀ t ∈ f.tables, t.Rectangular := by
  have hscenario : ∀ c ∈ f.scenarios, ∃ index, c.WellFormed index := fun c hc ↦
    have ⟨index, hindex⟩ := List.mem_iff_getElem?.1 hc
    ⟨index, h.scenario index c hindex⟩
  intro t ht
  rcases List.mem_append.1 ht with ht | ht
  · obtain ⟨s, hs, ht⟩ := List.mem_filterMap.1 ht
    rcases List.mem_append.1 hs with hs | hs
    · obtain ⟨b, hb, hs⟩ := List.mem_flatMap.1 hs
      exact ((h.background b (Option.mem_toList.1 hb)).each s hs).table t ht
    · obtain ⟨c, hc, hs⟩ := List.mem_flatMap.1 hs
      obtain ⟨index, hwell⟩ := hscenario c hc
      exact (hwell.steps.each s hs).table t ht
  · obtain ⟨e, he, rfl⟩ := List.mem_map.1 ht
    obtain ⟨c, hc, he⟩ := List.mem_flatMap.1 he
    obtain ⟨index, hwell⟩ := hscenario c hc
    exact (hwell.examples e he).table

theorem rectangular_of_parseFeature {options : ParseOptions} {text : Text} {f : Feature}
    (h : parseFeature options text = .ok f) : ∀ t ∈ f.tables, t.Rectangular := by
  obtain ⟨language, lexed, n, -, hlexed, hn, hbuilt⟩ := parseFeature_eq_ok_iff.1 h
  have hleaves := tidyLeaves_of_ofText hlexed hn
  exact (ParsedText.wellFormed_of_toFeature hbuilt rfl hleaves).rectangular

theorem rectangular_of_parseSteps {options : ParseOptions} {text : Text} {steps : List Step}
    (h : parseSteps options text = .ok steps) : ∀ s ∈ steps, ∀ t ∈ s.table, t.Rectangular := by
  obtain ⟨language, lexed, ns, -, -, -, hnodes⟩ := parseSteps_eq_ok_iff.1 h
  intro s hs
  obtain ⟨phase, n, -, hread⟩ := Step.exists_node_of_ofNodes hnodes s hs
  exact Step.rectangular_of_ofNode hread

end Gherkin
