/-
**Whatever is printed is read back.** Every record is read back from both of its printed forms as it
was. A workflow is also read back as a plan, by a reader that knows nothing of records: the two
readers and the printer have the names of all members in common.

* `Element.readsBack`, `Flow.readsBack`, …: the records.
* `Restores`: a reader gives a record back from both printed forms.
* `readers_agree`: the result.
-/

import LaneChart.Diagram.Summary
import LaneChart.Proofs.Json.RoundTrip
import LaneChart.Proofs.Record.Reading
import LaneChart.Proofs.Workflow.Coercion
import LaneChart.Session.Record

namespace LaneChart

open Json Record

/-! ### Workflows -/

theorem Element.readsBack (element : Element) :
    ReadsBack Element.record.read element.toJson element :=
  Layout.readsBack (.next rfl rfl (readsBack_text _) (.next rfl rfl (readsBack_text _)
    (.next rfl rfl (readsBack_text _) (.next rfl rfl (readsBack_ofText _) .nil)))) rfl

theorem Flow.readsBack (flow : Flow) : ReadsBack Flow.record.read flow.toJson flow :=
  Layout.readsBack (.next rfl rfl (readsBack_text _) (.next rfl rfl (readsBack_text _)
    (.next rfl rfl (readsBack_text _) (.next rfl rfl (readsBack_text _) .nil)))) rfl

theorem Lane.readsBack (lane : Lane) : ReadsBack Lane.record.read lane.toJson lane :=
  Layout.readsBack (.next rfl rfl (readsBack_text _) (.next rfl rfl (readsBack_text _)
    (.next rfl rfl (readsBack_texts _) .nil))) rfl

/-- An id that is absent is left out, and absent when nothing is read. -/
theorem Workflow.readsBack (workflow : Workflow) :
    ReadsBack Workflow.record.read workflow.toJson workflow := by
  obtain ⟨id, elements, flows, lanes⟩ := workflow
  have elementsRead := readsBack_list (fun _ => opens_object _) Element.readsBack elements
  have flowsRead := readsBack_list (fun _ => opens_object _) Flow.readsBack flows
  have lanesRead := readsBack_list (fun _ => opens_object _) Lane.readsBack lanes
  cases id with
  | none =>
    exact Layout.readsBack (.next rfl rfl elementsRead (.next rfl rfl flowsRead
      (.next rfl rfl lanesRead .nil))) rfl
  | some id =>
    exact Layout.readsBack (.next rfl rfl (readsBack_someText id) (.next rfl rfl elementsRead
      (.next rfl rfl flowsRead (.next rfl rfl lanesRead .nil)))) rfl

/-! ### Summaries -/

theorem SummaryEntry.readsBack (entry : SummaryEntry) :
    ReadsBack SummaryEntry.record.read entry.toJson entry :=
  Layout.readsBack (.next rfl rfl (readsBack_text _) (.next rfl rfl (readsBack_text _)
    (.next rfl rfl (readsBack_text _) .nil))) rfl

theorem Summary.readsBack (summary : Summary) :
    ReadsBack Summary.record.read summary.toJson summary :=
  Layout.readsBack (.next rfl rfl (readsBack_text _) (.next rfl rfl (readsBack_text _)
    (.next rfl rfl (readsBack_list (fun _ => opens_object _) SummaryEntry.readsBack _) .nil))) rfl

/-! ### Notices, selections and patches -/

/-- Every kind is found under its name. -/
theorem NoticeKind.lookup_name (kind : NoticeKind) :
    NoticeKind.named.lookup kind.name = some kind := by
  cases kind <;> rfl

theorem Notice.readsBack (notice : Notice) :
    ReadsBack Notice.record.read notice.toJson notice :=
  Layout.readsBack (.next rfl rfl (readsBack_text _) (.next rfl rfl (readsBack_text _)
    (.next rfl rfl (readsBack_choice notice.kind.lookup_name)
      (.next rfl rfl (readsBack_count _) .nil)))) rfl

theorem Selection.readsBack (selection : Selection) :
    ReadsBack Selection.record.read selection.toJson selection :=
  Layout.readsBack (.next rfl rfl (readsBack_text _) (.next rfl rfl (readsBack_text _)
    (.next rfl rfl (readsBack_text _) (.next rfl rfl (readsBack_text _) .nil)))) rfl

/-- What a patch does not change is left out, and absent when nothing is read. -/
theorem Patch.readsBack (patch : Patch) : ReadsBack Patch.record.read patch.toJson patch := by
  obtain ⟨name, id⟩ := patch
  cases name with
  | none =>
    cases id with
    | none => exact Layout.readsBack .nil rfl
    | some id => exact Layout.readsBack (.next rfl rfl (readsBack_someText id) .nil) rfl
  | some name =>
    cases id with
    | none => exact Layout.readsBack (.next rfl rfl (readsBack_someText name) .nil) rfl
    | some id =>
      exact Layout.readsBack (.next rfl rfl (readsBack_someText name)
        (.next rfl rfl (readsBack_someText id) .nil)) rfl

/-! ### Both printed forms -/

/-- **A reader gives something back** from both printed forms of a value. -/
def Restores {α : Type} (reader : Reader α) (value : Json) (result : α) : Prop :=
  readText reader value.pretty = .ok result ∧ readText reader value.compact = .ok result

theorem Record.ReadsBack.restores {α : Type} {reader : Reader α} {value : Json} {result : α}
    (reads : ReadsBack reader value result) : Restores reader value result :=
  readText_printed reads

/-- A workflow is read as a value that differs from the printed one in the order of members. -/
theorem Workflow.restores_value (workflow : Workflow) :
    Restores (readValue nestingLimit) workflow.toJson workflow.toJson.sorted :=
  readText_printed fun spacing level =>
    reads_spread spacing nestingLimit (workflow.within_toJson 123) level

/-- **The readers and the printer agree.** Whatever is printed is read back as it was: workflows,
summaries, notices, selections and patches, with any texts in them. A printed workflow, as it is or
read as a value, is a plan with the same elements and flows, with the same lanes but for their
members, and with the same id unless that is empty. -/
theorem readers_agree :
    (∀ workflow : Workflow,
      let plan : Draft :=
        { id := workflow.id.filter (· ≠ "")
          elements := workflow.elements
          flows := some workflow.flows
          lanes := workflow.lanes.map fun lane => { lane with members := [] } }
      Restores Workflow.record.read workflow.toJson workflow ∧
        Draft.ofJson workflow.toJson = plan ∧
        ∃ value, Restores (readValue nestingLimit) workflow.toJson value ∧
          Draft.ofJson value = plan) ∧
      (∀ summary : Summary, Restores Summary.record.read summary.toJson summary) ∧
      (∀ notice : Notice, Restores Notice.record.read notice.toJson notice) ∧
      (∀ selection : Selection, Restores Selection.record.read selection.toJson selection) ∧
      ∀ patch : Patch, Restores Patch.record.read patch.toJson patch := by
  refine ⟨fun workflow => ?_, fun summary => summary.readsBack.restores,
    fun notice => notice.readsBack.restores, fun selection => selection.readsBack.restores,
    fun patch => patch.readsBack.restores⟩
  have coerced := Draft.ofJson_toJson workflow
  refine ⟨workflow.readsBack.restores, coerced, workflow.toJson.sorted, workflow.restores_value, ?_⟩
  rw [Draft.ofJson_sorted]
  exact coerced

end LaneChart
