import Gherkin.Feature.Example
import Gherkin.Proofs.Feature.WellFormed
import Mathlib.Algebra.GroupWithZero.Nat
import Mathlib.Data.List.Forall2

/-!
# Walks through examples

A walk through the examples of a scenario can be asked again and again for the next one. Each answer
brings the end nearer by one, and the number of examples that the walk says are still to come is the
number of those that it will give, before the first call and after any call. At the end the walk
stays where it is. The scenario that is walked through is never changed.

The examples are those of the rows in order, block after block of the scenario's tables, and a
scenario without rows is its own only example.

Main statements: one call (`ExampleCursor.call_of_lt`, `ExampleCursor.call_of_le`), any number of
calls (`ExampleCursor.next_after`, `ExampleCursor.remaining_after`), and what they give in a
scenario that was read from a text (`walk_gives_each_row_once`).
-/

namespace Gherkin

/-- The step is a template with the values of a row in it. Of what sort it is, to which block it
belongs and where it stands is as in the template. -/
structure Step.Resolves (row : Record) (template s : Step) : Prop where
  eq_resolve : s = template.resolve row
  kind_eq : s.kind = template.kind
  phase_eq : s.phase = template.phase
  owner_eq : s.owner = template.owner
  location_eq : s.location = template.location
  span_eq : s.span = template.span

theorem Step.resolves_resolve (row : Record) (template : Step) :
    Step.Resolves row template (template.resolve row) :=
  ⟨rfl, rfl, rfl, rfl, rfl, rfl⟩

/-- The example is the one at an index of a scenario: each step with the values of the row there, or
the scenario's own steps if it has no rows. -/
inductive Scenario.Entry (s : Scenario) (index : Nat) : Example → Prop
  | ofRow {row : Record} {steps : List Step} (hrow : s.outlines[index]? = some row)
    (hsteps : List.Forall₂ (Step.Resolves row) s.steps steps) : Entry s index ⟨some row, steps⟩
  | own (hrows : s.outlines = []) : Entry s index ⟨none, s.steps⟩

theorem Scenario.entry_resolved {s : Scenario} {index : Nat} {row : Record}
    (h : s.outlines[index]? = some row) : s.Entry index (s.resolved row) := by
  refine .ofRow h ?_
  rw [List.forall₂_map_right_iff, List.forall₂_same]
  intro template _
  exact Step.resolves_resolve row template

theorem Scenario.Entry.length_steps {s : Scenario} {index : Nat} {e : Example}
    (h : s.Entry index e) : e.steps.length = s.steps.length := by
  cases h with
  | ofRow _ hsteps => exact hsteps.length_eq.symm
  | own => rfl

/-- How many rows the tables of a scenario's examples have below their headers. -/
def Scenario.bodyRows (s : Scenario) : Nat :=
  (s.examples.map fun e ↦ e.table.body.length).sum

theorem Scenario.exampleCount_eq {s : Scenario}
    (h : s.outlines = s.examples.flatMap fun e ↦ e.table.records) :
    s.exampleCount = max 1 s.bodyRows := by
  have hrows : s.outlines.length = s.bodyRows := by
    rw [h, List.length_flatMap, bodyRows]
    congr 1
    apply List.map_congr_left
    intro e _
    exact List.length_map ..
  rw [exampleCount, hrows, Nat.max_comm]

namespace ExampleCursor

/-- One call for the next example: the answer, and the walk after it. At the end of the walk there
is no answer, and the walk stays where it is. -/
def call (c : ExampleCursor) : Option Example × ExampleCursor :=
  match c.advance with
  | some (e, c') => (some e, c')
  | none => (none, c)

/-- Before the end a call gives the entry of the scenario that comes next. -/
theorem call_of_lt {c : ExampleCursor} (h : c.next < c.scenario.exampleCount) :
    ∃ e, c.call = (some e, ⟨c.scenario, c.next + 1⟩) ∧ c.scenario.Entry c.next e := by
  unfold Scenario.exampleCount at h
  by_cases hrows : c.scenario.outlines = []
  · have hfirst : c.next = 0 := by
      rw [hrows, List.length_nil] at h
      omega
    refine ⟨⟨none, c.scenario.steps⟩, ?_, .own hrows⟩
    simp [call, advance, hrows, hfirst]
  · have hlength : 0 < c.scenario.outlines.length := List.length_pos_iff.2 hrows
    have hlt : c.next < c.scenario.outlines.length := by omega
    have hrow := List.getElem?_eq_getElem hlt
    refine ⟨c.scenario.resolved c.scenario.outlines[c.next], ?_, Scenario.entry_resolved hrow⟩
    simp [call, advance, hrows, hrow]

/-- At the end a call gives nothing and changes nothing. -/
theorem call_of_le {c : ExampleCursor} (h : c.scenario.exampleCount ≤ c.next) :
    c.call = (none, c) := by
  have hend : c.advance = none := by
    rw [Option.eq_none_iff_forall_ne_some]
    rintro ⟨e, c'⟩ hmoved
    have hnearer := remaining_advance hmoved
    unfold remaining at hnearer
    omega
  rw [call, hend]

/-- The examples still to come are as many as the walk says. -/
theorem length_toList (c : ExampleCursor) : c.toList.length = c.remaining := by
  induction c using toList.induct with
  | case1 c hend =>
    rw [toList, hend, List.length_nil]
    rcases Nat.lt_or_ge c.next c.scenario.exampleCount with hlt | hle
    · obtain ⟨e, hcall, -⟩ := call_of_lt hlt
      rw [call, hend] at hcall
      cases hcall
    · exact (Nat.sub_eq_zero_of_le hle).symm
  | case2 c e c' hmoved ih =>
    rw [toList, hmoved, List.length_cons, ih, remaining_advance hmoved]

theorem entry_of_advance {c c' : ExampleCursor} {e : Example} (h : c.advance = some (e, c')) :
    c.scenario.Entry c.next e ∧ c'.scenario = c.scenario := by
  have hlt : c.next < c.scenario.exampleCount := by
    have hnearer := remaining_advance h
    unfold remaining at hnearer
    omega
  obtain ⟨e', hcall, hentry⟩ := call_of_lt hlt
  rw [call, h] at hcall
  cases hcall
  exact ⟨hentry, rfl⟩

/-- Every example still to come has a step for each step of the scenario. -/
theorem length_steps_of_mem {c : ExampleCursor} {e : Example} (h : e ∈ c.toList) :
    e.steps.length = c.scenario.steps.length := by
  induction c using toList.induct with
  | case1 c hend =>
    rw [toList, hend] at h
    cases h
  | case2 c first c' hmoved ih =>
    rw [toList, hmoved] at h
    obtain ⟨hentry, hscenario⟩ := entry_of_advance hmoved
    rcases List.mem_cons.1 h with rfl | h
    · exact hentry.length_steps
    · rw [ih h, hscenario]

def after (c : ExampleCursor) : Nat → ExampleCursor
  | 0 => c
  | n + 1 => (c.after n).call.2

theorem scenario_after (c : ExampleCursor) (n : Nat) : (c.after n).scenario = c.scenario := by
  induction n with
  | zero => rfl
  | succ n ih =>
    rw [after]
    rcases Nat.lt_or_ge (c.after n).next (c.after n).scenario.exampleCount with hlt | hle
    · obtain ⟨e, hcall, -⟩ := call_of_lt hlt
      rw [hcall, ih]
    · rw [call_of_le hle, ih]

/-- Every call passes one example, and the calls after the last example pass none. -/
theorem next_after (s : Scenario) (n : Nat) : (s.cursor.after n).next = min n s.exampleCount := by
  induction n with
  | zero => exact (Nat.zero_min _).symm
  | succ n ih =>
    have hscenario : (s.cursor.after n).scenario = s := scenario_after s.cursor n
    rw [after]
    rcases Nat.lt_or_ge n s.exampleCount with hlt | hle
    · have hbefore : (s.cursor.after n).next < (s.cursor.after n).scenario.exampleCount := by
        rw [hscenario, ih]
        omega
      obtain ⟨e, hcall, -⟩ := call_of_lt hbefore
      rw [hcall]
      change (s.cursor.after n).next + 1 = min (n + 1) s.exampleCount
      omega
    · have hend : (s.cursor.after n).scenario.exampleCount ≤ (s.cursor.after n).next := by
        rw [hscenario, ih]
        omega
      rw [call_of_le hend, ih]
      omega

theorem remaining_after (s : Scenario) (n : Nat) :
    (s.cursor.after n).remaining = s.exampleCount - n := by
  rw [remaining, scenario_after, next_after]
  change s.exampleCount - min n s.exampleCount = s.exampleCount - n
  omega

end ExampleCursor

theorem Scenario.length_resolvedExamples (s : Scenario) :
    s.resolvedExamples.length = s.exampleCount :=
  ExampleCursor.length_toList s.cursor

/-- The rows of a scenario that was read are those of its tables, in order. -/
theorem outlines_of_parseFeature {options : ParseOptions} {text : Text} {f : Feature}
    (hf : parseFeature options text = .ok f) {s : Scenario} (hs : s ∈ f.scenarios) :
    s.outlines = s.examples.flatMap fun e ↦ e.table.records := by
  obtain ⟨_, _, _, -, -, -, hbuilt⟩ := parseFeature_eq_ok_iff.1 hf
  obtain ⟨_, _, hnode, -⟩ := (ParsedText.exists_blocks_of_toFeature hbuilt rfl).2 s hs
  obtain ⟨-, _, _, -, -, rfl⟩ := Scenario.ofNode_eq_ok_iff.1 hnode
  rfl

/-- A walk through the examples of a scenario gives one example for each row below the headers of
its tables, or one if there is no row, and then none whatever the number of calls. Before the first
call and after each call it tells how many examples are still to come. -/
theorem walk_gives_each_row_once {options : ParseOptions} {text : Text} {f : Feature}
    (hf : parseFeature options text = .ok f) {s : Scenario} (hs : s ∈ f.scenarios) :
    (s.outlines = s.examples.flatMap fun e ↦ e.table.records) ∧
      s.exampleCount = max 1 s.bodyRows ∧
      ∀ n, (s.cursor.after n).scenario = s ∧
        (s.cursor.after n).remaining = max 1 s.bodyRows - n ∧
        (s.cursor.after n).toList.length = (s.cursor.after n).remaining ∧
        (n < max 1 s.bodyRows → ∃ e, (s.cursor.after n).call.1 = some e ∧ s.Entry n e) ∧
        (max 1 s.bodyRows ≤ n → (s.cursor.after n).call = (none, s.cursor.after n)) := by
  have houtlines := outlines_of_parseFeature hf hs
  have hcount := Scenario.exampleCount_eq houtlines
  refine ⟨houtlines, hcount, fun n ↦ ?_⟩
  have hscenario : (s.cursor.after n).scenario = s := ExampleCursor.scenario_after s.cursor n
  have hnext := ExampleCursor.next_after s n
  rw [← hcount]
  refine ⟨hscenario, ExampleCursor.remaining_after s n, ExampleCursor.length_toList _,
    fun hlt ↦ ?_, fun hle ↦ ?_⟩
  · rw [Nat.min_eq_left (Nat.le_of_lt hlt)] at hnext
    have hbefore : (s.cursor.after n).next < (s.cursor.after n).scenario.exampleCount := by
      rwa [hscenario, hnext]
    obtain ⟨e, hcall, hentry⟩ := ExampleCursor.call_of_lt hbefore
    rw [hscenario, hnext] at hentry
    exact ⟨e, congrArg Prod.fst hcall, hentry⟩
  · rw [Nat.min_eq_right hle] at hnext
    apply ExampleCursor.call_of_le
    rw [hnext]
    exact Nat.le_of_eq (congrArg Scenario.exampleCount hscenario)

/-- A scenario with three tables of examples, of which the second is a header only. -/
def roundsText : Text :=
  ("Feature: Rounds\nScenario Outline: Pour\nGiven <n> cups\nExamples:\n|n|\n|1|\n" ++
    "Examples:\n|n|\nExamples:\n|n|\n|2|\n|3|\n").toList

theorem walk_gives_each_row_of_roundsText :
    ∃ f s, parseFeature {} roundsText = .ok f ∧ s ∈ f.scenarios ∧
      s.examples.map (fun e ↦ e.table.body.length) = [1, 0, 2] ∧
      (s.cursor.after 2).remaining = 1 ∧
      (∃ e, (s.cursor.after 2).call.1 = some e ∧ s.Entry 2 e) ∧
      (s.cursor.after 3).call = (none, s.cursor.after 3) := by
  have hcode : (declaredLanguage? (dropByteOrderMark roundsText) <|> none).getD
      Language.defaultCode = Language.defaultCode := by decide +kernel
  have hread : (parseFeature {} roundsText).toOption.map (fun f ↦ f.scenarios.map fun s ↦
      s.examples.map fun e ↦ e.table.body.length) = some [[1, 0, 2]] := by
    simp only [parseFeature, parse]
    rw [hcode, Language.find?_defaultCode]
    decide +kernel
  cases h : parseFeature {} roundsText with
  | error e =>
    rw [h] at hread
    cases hread
  | ok f =>
    rw [h] at hread
    have hsizes : (f.scenarios.map fun s ↦ s.examples.map fun e ↦ e.table.body.length) =
        [[1, 0, 2]] := Option.some.inj hread
    have hfirst := List.mem_singleton_self [1, 0, 2]
    rw [← hsizes] at hfirst
    obtain ⟨s, hs, hrows⟩ := List.mem_map.1 hfirst
    have htotal : max 1 s.bodyRows = 3 := by rw [Scenario.bodyRows, hrows]; rfl
    obtain ⟨-, -, hwalk⟩ := walk_gives_each_row_once h hs
    rw [htotal] at hwalk
    exact ⟨f, s, rfl, hs, hrows, (hwalk 2).2.1, (hwalk 2).2.2.2.1 (by decide),
      (hwalk 3).2.2.2.2 (by decide)⟩

end Gherkin
