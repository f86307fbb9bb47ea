/-
**Placing a plan first changes nothing for what is compiled.** What the desk answers when it places
a plan holds the placed workflow. Printed as JSON again, that workflow is a plan like any other. It
compiles to the same document as the first plan, and placing it once more leaves it as it is.

* `Desk.parse_placementJson`: the answer can be read back.
* `Desk.placed_of_parse`: the workflow in the answer, read as a plan.
* `Desk.normalizing_changes_nothing`: compiling and placing after placing.
-/

import LaneChart.Proofs.Desk.Answers
import LaneChart.Proofs.Json.RoundTrip
import LaneChart.Proofs.Workflow.Coercion
import LaneChart.Proofs.Workflow.Plans

namespace LaneChart

open Json

namespace Desk

variable {σ : Type} [Storage σ]

theorem get_placementJson (workflow : Workflow) (report : PlacementReport) :
    (placementJson workflow report).get? "definition" = some workflow.toJson.sorted ∧
      (placementJson workflow report).get? "reassigned" = some (.ofNat report.reassigned) ∧
      (placementJson workflow report).get? "fabricatedLanes" =
        some (.bool report.fabricatedLanes) := by
  simp only [placementJson, get_sorted]
  exact ⟨rfl, rfl, rfl⟩

/-- **The answer to a plan that is placed can be read back** when the count in it fits. -/
theorem parse_placementJson (workflow : Workflow) {report : PlacementReport}
    (fits : report.reassigned < 2 ^ 64) :
    parse (placementJson workflow report).pretty = .ok (placementJson workflow report) := by
  refine parse_pretty (within_sorted ⟨trivial, ?_⟩)
  simp only [List.forall_mem_cons]
  refine ⟨workflow.nested_toJson 122, ?_, trivial, nofun⟩
  have counted : (Number.whole report.reassigned).Fits := by
    constructor <;> omega
  exact counted

/-- **The workflow in the answer, read as a plan,** is placed already. -/
theorem placed_of_parse {plan text : String} {draft : Draft} (read : Draft.ofPlan plan = .ok draft)
    (lanes : LaneSet) (printed : parse text = .ok (lanes.place draft).toJson.sorted) :
    ∃ again, Draft.ofPlan text = .ok again ∧
      lanes.placeWithReport again = (lanes.place draft, ⟨0, false⟩) := by
  refine ⟨_, Draft.ofPlan_of_parse printed (isObject_sorted _), ?_⟩
  rw [Draft.ofJson_sorted]
  exact lanes.placeWithReport_ofJson draft (Draft.id_ne_empty_of_ofPlan read)

/-- **Normalizing first changes nothing for what is compiled.** The answer to a plan that is placed
is JSON with a definition. The definition can be printed and read back, and every text that reads as
the definition is a plan that compiles as the first plan does, whether it is kept or not. Placing
such a text gives the same definition again, with nobody moved and no lane made up. -/
theorem normalizing_changes_nothing (desk : Desk σ) (plan answer : String)
    (accepted : normalizePlan desk.settings plan = .done answer) :
    ∃ value definition, answer = value.pretty ∧ value.get? "definition" = some definition ∧
      -- The answer holds a count, which is only read back exactly when it fits 64 bits.
      (plan.length < 2 ^ 64 → parse answer = .ok value) ∧
      parse definition.pretty = .ok definition ∧ parse definition.compact = .ok definition ∧
      ∀ text, parse text = .ok definition →
        (∃ xml, compilePlan plan false desk = (.done xml, desk) ∧
          compilePlan text false desk = (.done xml, desk)) ∧
        (∀ save, compilePlan text save desk = compilePlan plan save desk) ∧
        ∃ again, normalizePlan desk.settings text = .done again.pretty ∧
          parse again.pretty = .ok again ∧ again.get? "definition" = some definition ∧
          again.get? "reassigned" = some (.ofNat 0) ∧
          again.get? "fabricatedLanes" = some (.bool false) := by
  cases read : Draft.ofPlan plan with
  | error fault =>
    rw [normalizePlan, read] at accepted
    cases accepted
  | ok draft =>
    rw [normalizePlan_of_ofPlan read] at accepted
    cases accepted
    have within := (desk.settings.lanes.place draft).within_sorted_toJson 123
    refine ⟨_, _, rfl, (get_placementJson _ _).1, fun short => ?_, parse_pretty within,
      parse_compact within, fun text printed => ?_⟩
    · refine parse_placementJson _ (Nat.lt_of_le_of_lt ?_ short)
      exact Nat.le_trans (desk.settings.lanes.reassigned_le draft)
        (Draft.length_elements_le_of_ofPlan read)
    · obtain ⟨second, readAgain, placed⟩ := placed_of_parse read desk.settings.lanes printed
      have workflow : desk.settings.lanes.place second = desk.settings.lanes.place draft := by
        rw [LaneSet.place, placed]
      have document : desk.settings.compile second = desk.settings.compile draft := by
        rw [Settings.compile, workflow, Settings.compile]
      have compiled : ∀ save, compilePlan text save desk = compilePlan plan save desk := by
        intro save
        rw [compilePlan_of_ofPlan read, compilePlan_of_ofPlan readAgain, document]
      have unsaved : compilePlan plan false desk = (.done (desk.settings.compile draft), desk) :=
        compilePlan_of_ofPlan read false desk
      have again := normalizePlan_of_ofPlan readAgain desk.settings
      rw [workflow, placed] at again
      exact ⟨⟨_, unsaved, (compiled false).trans unsaved⟩, compiled, _, again,
        parse_placementJson _ (Nat.two_pow_pos 64), get_placementJson _ _⟩

/-- A plan with one element and no lane. -/
def lonePlan : String := "\x7b\"elements\":[\x7b\"id\":\"a\"\x7d]\x7d"

/-- Such a plan is placed, and what the answer holds compiles as the plan does. -/
theorem normalizing_changes_nothing_lone :
    ∃ answer value definition xml, normalizePlan {} lonePlan = .done answer ∧
      parse answer = .ok value ∧ value.get? "definition" = some definition ∧
      (compilePlan lonePlan false ⟨{}, ({} : Shelf)⟩).1 = .done xml ∧
      (compilePlan definition.pretty false ⟨{}, ({} : Shelf)⟩).1 = .done xml := by
  have readable : (Draft.ofPlan lonePlan).isOk = true := by decide +kernel
  have short : lonePlan.length < 2 ^ 64 := by decide +kernel
  generalize lonePlan = plan at readable short
  cases read : Draft.ofPlan plan with
  | error fault =>
    rw [read] at readable
    cases readable
  | ok draft =>
    obtain ⟨value, definition, printed, found, whole, pretty, _, reads⟩ :=
      normalizing_changes_nothing ⟨{}, ({} : Shelf)⟩ plan _ (normalizePlan_of_ofPlan read {})
    obtain ⟨⟨xml, first, second⟩, _⟩ := reads definition.pretty pretty
    exact ⟨_, value, definition, xml, normalizePlan_of_ofPlan read {}, whole short, found,
      congrArg Prod.fst first, congrArg Prod.fst second⟩

end Desk

end LaneChart
