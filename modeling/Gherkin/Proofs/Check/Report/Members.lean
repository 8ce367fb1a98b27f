import Gherkin.Check.Report.Printer
import Gherkin.Proofs.Feature.Records

/-!
# Members of the objects in reports

An object of a JSON document may be read in more than one way if it names a member twice. Reports
hold no such object: the names that are written out differ, and the row of an example is a record,
which holds each name once.

Main statements: `Check.namesOnce_reportsToJson`, and with what is known of the records before they
are written `records_keep_order_and_cells`.
-/

namespace Gherkin

/-- No object in the value names a member twice. -/
inductive Json.NamesOnce : Json → Prop
  | text (t : Text) : NamesOnce (.text t)
  | number (n : Nat) : NamesOnce (.number n)
  | boolean (b : Bool) : NamesOnce (.boolean b)
  | array {items : List Json} : (∀ j ∈ items, NamesOnce j) → NamesOnce (.array items)
  | object {members : List (Text × Json)} :
    (members.map Prod.fst).Nodup → (∀ m ∈ members, NamesOnce m.2) → NamesOnce (.object members)

namespace Json

theorem NamesOnce.arrayOf {α : Type} {write : α → Json} {items : List α}
    (h : ∀ a ∈ items, (write a).NamesOnce) : NamesOnce (.array (items.map write)) :=
  .array (List.forall_mem_map.2 h)

theorem namesOnce_texts (ts : List Text) : NamesOnce (.array (ts.map .text)) :=
  .arrayOf fun t _ ↦ .text t

/-- The members are named by some of the names, in order. -/
structure MembersOf (names : List Text) (members : List (Text × Json)) : Prop where
  names : (members.map Prod.fst).Sublist names
  values : ∀ m ∈ members, m.2.NamesOnce

namespace MembersOf

variable {α : Type} {name : Text} {names names' : List Text} {members members' : List (Text × Json)}

theorem nil : MembersOf [] [] := ⟨.slnil, List.forall_mem_nil _⟩

theorem cons {j : Json} (hj : j.NamesOnce) (h : MembersOf names members) :
    MembersOf (name :: names) ((name, j) :: members) :=
  ⟨h.names.cons_cons name, List.forall_mem_cons.2 ⟨hj, h.values⟩⟩

theorem append (h : MembersOf names members) (h' : MembersOf names' members') :
    MembersOf (names ++ names') (members ++ members') :=
  ⟨by rw [List.map_append]; exact h.names.append h'.names,
    List.forall_mem_append.2 ⟨h.values, h'.values⟩⟩

theorem optional {write : α → Json} {a : Option α} (h : ∀ x ∈ a, (write x).NamesOnce) :
    MembersOf [name] (Check.optionalMember name write a) := by
  cases a with
  | none => exact ⟨List.nil_sublist _, List.forall_mem_nil _⟩
  | some a => exact nil.cons (h a rfl)

theorem list {write : α → Json} {items : List α} (h : ∀ x ∈ items, (write x).NamesOnce) :
    MembersOf [name] (Check.listMember name write items) := by
  rw [Check.listMember]
  split
  · exact ⟨List.nil_sublist _, List.forall_mem_nil _⟩
  · exact nil.cons (.arrayOf h)

/-- Members of different names make an object that names each once. -/
theorem object (h : MembersOf names members) (hnames : names.Nodup) : NamesOnce (.object members) :=
  .object (hnames.sublist h.names) h.values

end MembersOf

/-- A record makes an object that names each member once. -/
theorem namesOnce_record (r : Record) :
    NamesOnce (.object (r.entries.map fun c ↦ (c.1, .text c.2))) := by
  refine .object ?_ (List.forall_mem_map.2 fun c _ ↦ .text c.2)
  rw [List.map_map]
  exact r.nodup

end Json

namespace Check

open Json (MembersOf)

theorem Notice.namesOnce_toJson (d : Notice) : d.toJson.NamesOnce := by
  rw [toJson]
  exact MembersOf.object (.append (.append (.append (.cons (.text d.message) .nil)
    (.optional fun n _ ↦ .number n)) (.optional fun n _ ↦ .number n))
    (.optional fun t _ ↦ .text t)) (by decide)

/-- The row of an example is that of a record. -/
theorem ExampleSummary.namesOnce_toJson (e : Example) : (ofExample e).toJson.NamesOnce := by
  have hrow : ∀ cells ∈ (ofExample e).row,
      (Json.object (cells.map fun c ↦ (c.1, .text c.2))).NamesOnce := by
    rintro cells hcells
    obtain ⟨r, -, rfl⟩ := Option.map_eq_some_iff.1 hcells
    exact Json.namesOnce_record r
  rw [toJson]
  exact MembersOf.object (.append (.optional hrow) (.cons (Json.namesOnce_texts _) .nil))
    (by decide)

theorem ScenarioSummary.namesOnce_toJson (expand : Bool) (f : Feature) (s : Scenario) :
    (ofScenario expand f s).toJson.NamesOnce := by
  have hexamples : ∀ e ∈ (ofScenario expand f s).examples, e.toJson.NamesOnce := by
    intro e he
    rw [ofScenario] at he
    dsimp only at he
    split at he
    · obtain ⟨example', -, rfl⟩ := List.mem_map.1 he
      exact ExampleSummary.namesOnce_toJson example'
    · cases he
  rw [toJson]
  exact MembersOf.object (.append (.cons (.text _) (.cons (.text _) (.cons (.number _)
    (.cons (Json.namesOnce_texts _) (.cons (.number _) .nil))))) (.list hexamples)) (by decide)

theorem FeatureSummary.namesOnce_toJson (expand : Bool) (f : Feature) :
    (ofFeature expand f).toJson.NamesOnce := by
  have hscenarios : ∀ s ∈ (ofFeature expand f).scenarios, s.toJson.NamesOnce :=
    List.forall_mem_map.2 fun s _ ↦ ScenarioSummary.namesOnce_toJson expand f s
  rw [toJson]
  exact MembersOf.object (.cons (.text _) (.cons (.text _) (.cons (.boolean _)
    (.cons (.arrayOf hscenarios) .nil)))) (by decide)

theorem FileReport.namesOnce_toJson (expand : Bool) (path : OsText)
    (read : Except ParseError Feature) : (ofResult expand path read).toJson.NamesOnce := by
  have hfeature : ∀ f ∈ (ofResult expand path read).feature, f.toJson.NamesOnce := by
    cases read with
    | error e => exact nofun
    | ok f =>
      rintro _ ⟨⟩
      exact FeatureSummary.namesOnce_toJson expand f
  rw [toJson]
  exact MembersOf.object (.append (.append (.append (.cons (.text _) .nil) (.optional hfeature))
    (.optional fun d _ ↦ d.namesOnce_toJson)) (.list fun d _ ↦ d.namesOnce_toJson)) (by decide)

/-- A document of reports on files names no member of an object twice. -/
theorem namesOnce_reportsToJson (options : ParseOptions) (expand : Bool) (files : List FoundFile) :
    (reportsToJson (files.map (FileReport.ofFile options expand))).NamesOnce := by
  have hfiles : ∀ r ∈ files.map (FileReport.ofFile options expand), r.toJson.NamesOnce :=
    List.forall_mem_map.2 fun f _ ↦ FileReport.namesOnce_toJson expand f.path _
  rw [reportsToJson]
  exact MembersOf.object (.cons (.arrayOf hfiles) (.cons (.number _) (.cons (.number _) .nil)))
    (by decide)

end Check

/-- A record holds each name that came once, in the order in which the names first came, with the
last value of that name, and answers each value with the one before it. The records of a table that
was read have the cells of its rows, one record for each row, and in a report they name no cell
twice. -/
theorem records_keep_order_and_cells :
    (∀ pairs : List (Text × Text),
      (Record.empty.exchangeAll pairs).2.keys = (pairs.map Prod.fst).eraseDups ∧
      (∀ key, (Record.empty.exchangeAll pairs).2.get? key = pairs.reverse.lookup key) ∧
      (Record.empty.exchangeAll pairs).1 =
        pairs.mapIdx (fun i p ↦ (pairs.take i).reverse.lookup p.1) ∧
      (Record.empty.exchangeAll pairs).2.size = (pairs.map Prod.fst).toFinset.card) ∧
    (∀ options text f, parseFeature options text = .ok f → ∀ t ∈ f.tables,
      List.Forall₂ (fun row r ↦ r.Labels t.header row) t.body t.records) ∧
    (∀ options text steps, parseSteps options text = .ok steps → ∀ s ∈ steps, ∀ t ∈ s.table,
      List.Forall₂ (fun row r ↦ r.Labels t.header row) t.body t.records) ∧
    ∀ (options : ParseOptions) (expand : Bool) (files : List Check.FoundFile),
      (Check.reportsToJson (files.map (Check.FileReport.ofFile options expand))).NamesOnce := by
  refine ⟨fun pairs ↦ ?_, fun options text f h t ht ↦ ?_, fun options text steps h s hs t ht ↦ ?_,
    Check.namesOnce_reportsToJson⟩
  · obtain ⟨hanswers, hholds⟩ := Record.exchangeAll_empty pairs
    exact ⟨hholds.keys_eq, hholds.get?_eq, hanswers, hholds.size_eq⟩
  · exact (rectangular_of_parseFeature h t ht).forall₂_records
  · exact (rectangular_of_parseSteps h s hs t ht).forall₂_records

/-- A feature whose examples have two columns of one name. -/
def doubledColumnText : Text :=
  "Feature: f\nScenario Outline: s\nGiven <a>\nExamples:\n|a|b|a|\n|1|2|3|\n".toList

def doubledColumnStep : Text := "Given x\n|a|a|\n|1|2|\n".toList

theorem records_keep_order_and_cells_doubledColumn :
    (∃ f, parseFeature {} doubledColumnText = .ok f ∧
      f.tables.map (·.records.map (·.entries)) =
        [[[("a".toList, "3".toList), ("b".toList, "2".toList)]]] ∧
      ∀ t ∈ f.tables, List.Forall₂ (fun row r ↦ r.Labels t.header row) t.body t.records) ∧
    ∃ steps, parseSteps {} doubledColumnStep = .ok steps ∧
      steps.map (·.records.map (·.entries)) = [[[("a".toList, "2".toList)]]] ∧
      ∀ s ∈ steps, ∀ t ∈ s.table,
        List.Forall₂ (fun row r ↦ r.Labels t.header row) t.body t.records := by
  obtain ⟨-, hfeature, hsteps, -⟩ := records_keep_order_and_cells
  have hread : (parseFeature {} doubledColumnText).toOption.map
      (·.tables.map (·.records.map (·.entries))) =
        some [[[("a".toList, "3".toList), ("b".toList, "2".toList)]]] := by
    simp only [parseFeature, parse]
    rw [code_of_undeclared (by decide +kernel), Language.find?_defaultCode]
    decide +kernel
  have hreadSteps : (parseSteps {} doubledColumnStep).toOption.map
      (List.map (·.records.map (·.entries))) = some [[[("a".toList, "2".toList)]]] := by
    simp only [parseSteps, parse]
    rw [code_of_undeclared (by decide +kernel), Language.find?_defaultCode]
    decide +kernel
  obtain ⟨f, hf, htables⟩ := toOption_map_eq_some_iff.1 hread
  obtain ⟨steps, hs, hrecords⟩ := toOption_map_eq_some_iff.1 hreadSteps
  exact ⟨⟨f, hf, htables, hfeature {} _ f hf⟩, steps, hs, hrecords, hsteps {} _ steps hs⟩

end Gherkin
