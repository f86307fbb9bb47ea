/-
**What is read of a plan.** A text that is JSON as a whole is taken as it is, without a look for an
object inside. Of any plan the draft has no empty id, and no more elements than the text has
characters.

* `Draft.ofPlan_eq_ok_iff`: what is read of a plan.
* `Draft.ofPlan_of_parse`: a text that is an object.
* `Draft.ofPlan_eq_ok`: where the draft of any plan comes from.
* `Draft.id_ne_empty_of_ofPlan`, `Draft.length_elements_le_of_ofPlan`: what holds of that draft.
-/

import LaneChart.Proofs.Json.Extent
import LaneChart.Workflow.Plan

namespace LaneChart

namespace Text

theorem length_throughLastBrace {text span : List Char}
    (found : throughLastBrace? text = some span) : span.length ≤ text.length := by
  induction text generalizing span with
  | nil => cases found
  | cons c text ih =>
    rw [throughLastBrace?] at found
    cases later : throughLastBrace? text with
    | some kept =>
      rw [later] at found
      cases found
      exact Nat.succ_le_succ (ih later)
    | none =>
      simp only [later] at found
      split at found
      · cases found
        exact Nat.succ_le_succ (Nat.zero_le _)
      · cases found

/-- A span is no longer than the text that it is a part of. -/
theorem length_braceSpan {text span : List Char} (found : braceSpan? text = some span) :
    span.length ≤ text.length :=
  Nat.le_trans (length_throughLastBrace found) (List.dropWhile_sublist _).length_le

end Text

namespace Draft

open Json

/-- What is read is the draft in the value in the prose, if that is an object. -/
theorem ofPlan_eq_ok_iff {text : String} {draft : Draft} :
    ofPlan text = .ok draft ↔ ∃ value,
      jsonInProse text.toList = .ok value ∧ value.isObject = true ∧ draft = ofJson value := by
  rw [ofPlan]
  cases jsonInProse text.toList with
  | error fault => exact ⟨nofun, nofun⟩
  | ok value =>
    show (if value.isObject then .ok (ofJson value) else .error .notAnObject :
      Except PlanFault Draft) = .ok draft ↔ _
    constructor
    · intro read
      split at read
      · rename_i object
        cases read
        exact ⟨value, rfl, object, rfl⟩
      · cases read
    · rintro ⟨_, ⟨⟩, object, rfl⟩
      exact if_pos object

/-- A text that is JSON is not looked through. -/
theorem jsonInProse_of_parse {text : String} {value : Json} (read : parse text = .ok value) :
    jsonInProse text.toList = .ok value := by
  rw [parse, readText] at read
  rw [jsonInProse, read]

/-- **A text that is an object** is a plan, and nothing else is looked for in it. -/
theorem ofPlan_of_parse {text : String} {value : Json} (read : parse text = .ok value)
    (object : value.isObject = true) : ofPlan text = .ok (ofJson value) :=
  ofPlan_eq_ok_iff.mpr ⟨value, jsonInProse_of_parse read, object, rfl⟩

/-- A value in prose is a value in a part of the prose. -/
theorem exists_part_of_jsonInProse {text : List Char} {value : Json}
    (found : jsonInProse text = .ok value) :
    ∃ part, part.length ≤ text.length ∧ readChars (readValue nestingLimit) part = .ok value := by
  unfold jsonInProse at found
  split at found
  · rename_i whole read
    cases found
    exact ⟨text, Nat.le_refl _, read⟩
  split at found
  · cases found
  · rename_i span isSpan
    split at found
    · rename_i inner read
      cases found
      exact ⟨span, Text.length_braceSpan isSpan, read⟩
    · cases found

/-- **Where the draft of a plan comes from:** a value in a part of the text. -/
theorem ofPlan_eq_ok {plan : String} {draft : Draft} (read : ofPlan plan = .ok draft) :
    ∃ part value, part.length ≤ plan.length ∧
      readChars (readValue nestingLimit) part = .ok value ∧ draft = ofJson value := by
  obtain ⟨value, found, -, rfl⟩ := ofPlan_eq_ok_iff.mp read
  obtain ⟨part, shorter, parsed⟩ := exists_part_of_jsonInProse found
  exact ⟨part, value, String.length_toList ▸ shorter, parsed, rfl⟩

/-- An empty id is never read. -/
theorem id_ne_empty_of_ofPlan {plan : String} {draft : Draft} (read : ofPlan plan = .ok draft) :
    draft.id ≠ some "" := by
  obtain ⟨_, value, _, _, rfl⟩ := ofPlan_eq_ok read
  intro empty
  have kept : decide ("" ≠ "") = true := (Option.filter_eq_some_iff.mp empty).2
  cases kept

/-- **A draft has no more elements than its plan has characters.** -/
theorem length_elements_le_of_ofPlan {plan : String} {draft : Draft}
    (read : ofPlan plan = .ok draft) : draft.elements.length ≤ plan.length := by
  obtain ⟨part, value, shorter, parsed, rfl⟩ := ofPlan_eq_ok read
  have roomy := roomy_of_readChars shorter parsed
  have root : Roomy plan.length (rootOf value) := by
    unfold rootOf
    split
    · exact roomy.get ‹_›
    · exact roomy
  show ((objectsIn ((rootOf value).get? "elements")).map elementOf).length ≤ plan.length
  rw [List.length_map]
  refine Nat.le_trans (List.length_filter_le _ _) ?_
  cases found : (rootOf value).get? "elements" with
  | none => exact Nat.zero_le _
  | some elements =>
    cases root.get found with
    | list few _ => exact few
    | _ => exact Nat.zero_le _

end Draft

end LaneChart
