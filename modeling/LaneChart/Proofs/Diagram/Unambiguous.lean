/-
**A document determines its workflow,** up to the characters that XML 1.0 does not have and to
kinds of elements that share a tag. Whatever ids, names and references hold, none of them can pass
for another attribute, another element, another member of a lane or another line.

* `Lane.cleaned`, `Element.shown`, `Flow.cleaned`: what a document says of a part.
* `Workflow.tidy_definitions`: a document is laid out so that its text is unambiguous.
* `Workflow.content_of_document_eq`: what two workflows with one document have in common.
-/

import LaneChart.Proofs.Diagram.RoundTrip
import LaneChart.Proofs.Markup.Unambiguous

namespace LaneChart

open Markup

/-! ### What a document says of a part -/

/-- A lane without the characters that XML 1.0 does not have. -/
def Lane.cleaned (lane : Lane) : Lane :=
  ⟨clean lane.id, clean lane.name, lane.members.map clean⟩

/-- The tag, the id and the name of an element, without the characters that XML 1.0 does not
have. -/
def Element.shown (element : Element) : String × String × String :=
  (element.kind.tag, clean element.id, clean element.name)

/-- A flow without the characters that XML 1.0 does not have. -/
def Flow.cleaned (flow : Flow) : Flow :=
  ⟨clean flow.id, clean flow.source, clean flow.target, clean flow.name⟩

theorem Lane.cleaned_node (lane : Lane) : lane.node.cleaned = lane.cleaned.node := by
  rw [node, Node.cleaned_block, List.map_map, node, cleaned, List.map_map]
  rfl

/-- A lane can be told from its node. -/
theorem Lane.node_inj {lane other : Lane} (same : lane.node = other.node) : lane = other := by
  obtain ⟨id, name, members⟩ := lane
  obtain ⟨otherId, otherName, otherMembers⟩ := other
  obtain ⟨-, sameAttributes, sameMembers⟩ := Node.block_inj same
  have reference : ∀ member otherMember : String,
      Node.element "bpmn2:flowNodeRef" [] [.text member] =
        Node.element "bpmn2:flowNodeRef" [] [.text otherMember] → member = otherMember := by
    intro member otherMember sameNode
    simpa using sameNode
  have sameLists : members = otherMembers := (List.map_inj_right reference).mp sameMembers
  simp only [List.cons.injEq, Prod.mk.injEq, true_and, and_true] at sameAttributes
  rw [sameAttributes.1, sameAttributes.2, sameLists]

/-- The node that says this of an element. -/
def shownNode (shown : String × String × String) : Node :=
  .empty ("bpmn2:" ++ shown.1) [("id", shown.2.1), ("name", shown.2.2)]

theorem Element.cleaned_node (element : Element) :
    element.node.cleaned = shownNode element.shown := rfl

theorem shownNode_inj {shown other : String × String × String}
    (same : shownNode shown = shownNode other) : shown = other := by
  obtain ⟨tag, id, name⟩ := shown
  obtain ⟨otherTag, otherId, otherName⟩ := other
  obtain ⟨sameTag, sameAttributes⟩ := Node.empty.inj same
  simp only [List.cons.injEq, Prod.mk.injEq, true_and, and_true] at sameAttributes
  rw [sameAttributes.1, sameAttributes.2, show tag = otherTag by simpa using sameTag]

theorem Flow.cleaned_node (flow : Flow) : flow.node.cleaned = flow.cleaned.node := rfl

/-- A flow can be told from its node. -/
theorem Flow.node_inj {flow other : Flow} (same : flow.node = other.node) : flow = other := by
  obtain ⟨id, source, target, name⟩ := flow
  obtain ⟨otherId, otherSource, otherTarget, otherName⟩ := other
  simpa [node] using same

/-- An element is no flow: it has two attributes. -/
theorem shownNode_ne_flow (shown : String × String × String) (flow : Flow) :
    shownNode shown ≠ flow.node := by
  intro same
  simp [shownNode, Flow.node] at same

/-! ### The layout of a document -/

namespace Workflow

theorem tidy_laneSetNode (workflow : Workflow) : workflow.laneSetNode.Tidy := by
  refine .block fun node member => ?_
  obtain ⟨lane, _, rfl⟩ := List.mem_map.mp member
  refine .block fun reference listed => ?_
  obtain ⟨_, _, rfl⟩ := List.mem_map.mp listed
  exact .alone

theorem tidy_processNode (options : DrawingOptions) (workflow : Workflow) :
    (workflow.processNode options).Tidy := by
  refine .block fun node member => ?_
  rcases List.mem_append.mp member with front | inFlows
  · rcases List.mem_append.mp front with inLanes | inElements
    · split at inLanes
      · rw [List.mem_singleton.mp inLanes]
        exact workflow.tidy_laneSetNode
      · cases inLanes
    · obtain ⟨element, _, rfl⟩ := List.mem_map.mp inElements
      exact .empty
  · obtain ⟨flow, _, rfl⟩ := List.mem_map.mp inFlows
    exact .empty

theorem tidy_planeNode (workflow : Workflow) : workflow.planeNode.Tidy := by
  refine .block fun node member => ?_
  rcases List.mem_append.mp member with inShapes | inEdges
  · obtain ⟨⟨element, bounds⟩, _, rfl⟩ := List.mem_map.mp inShapes
    refine .block fun part same => ?_
    rw [List.mem_singleton.mp same]
    exact .empty
  · obtain ⟨⟨flow, source, target⟩, _, rfl⟩ := List.mem_map.mp inEdges
    refine .block fun part same => ?_
    rcases List.mem_cons.mp same with rfl | last
    · exact .empty
    · rw [List.mem_singleton.mp last]
      exact .empty

/-- **A document is laid out so that its text is unambiguous.** -/
theorem tidy_definitions (options : DrawingOptions) (workflow : Workflow) :
    (workflow.definitions options).Tidy := by
  refine .block fun node member => ?_
  rcases List.mem_cons.mp member with rfl | diagram
  · exact tidy_processNode options workflow
  · rw [List.mem_singleton.mp diagram]
    refine .block fun plane same => ?_
    rw [List.mem_singleton.mp same]
    exact tidy_planeNode workflow

/-! ### Workflows with one document -/

/-- Workflows with one text have one tree, without the characters that XML 1.0 does not have. -/
theorem cleaned_definitions_eq {first second : Workflow} {options : DrawingOptions}
    (same : first.document options = second.document options) :
    (first.definitions options).cleaned = (second.definitions options).cleaned := by
  refine Node.print_inj (first.sound_definitions options) (first.tidy_definitions options)
    (second.sound_definitions options) (second.tidy_definitions options) ?_
  exact List.append_cancel_left (List.append_cancel_right (String.ofList_inj.mp same))

/-- The parts of a process, without the characters that XML 1.0 does not have. -/
theorem cleaned_parts (workflow : Workflow) :
    (((if (⟨true⟩ : DrawingOptions).laneSet then [workflow.laneSetNode] else []) ++
        workflow.elements.map Element.node ++ workflow.flows.map Flow.node).map Node.cleaned) =
      Node.block 4 "bpmn2:laneSet" [("id", "LaneSet_1")]
          ((workflow.lanes.map Lane.cleaned).map Lane.node) ::
        ((workflow.elements.map Element.shown).map shownNode ++
          (workflow.flows.map Flow.cleaned).map Flow.node) := by
  have kept : Attributes.cleaned [("id", "LaneSet_1")] = [("id", "LaneSet_1")] := by decide
  have lanes : Node.cleaned ∘ Lane.node = Lane.node ∘ Lane.cleaned := funext Lane.cleaned_node
  have elements : Node.cleaned ∘ Element.node = shownNode ∘ Element.shown :=
    funext Element.cleaned_node
  have flows : Node.cleaned ∘ Flow.node = Flow.node ∘ Flow.cleaned := funext Flow.cleaned_node
  rw [if_pos rfl, List.map_append, List.map_append, List.map_map, List.map_map, List.map_map,
    List.map_map, List.map_map, elements, flows, ← lanes, List.map_singleton, laneSetNode,
    Node.cleaned_block, kept, List.map_map]
  rfl

theorem elements_ne_flow (workflow : Workflow) :
    ∀ node ∈ (workflow.elements.map Element.shown).map shownNode,
      ∀ flow, node ≠ Flow.node flow := by
  intro node member flow same
  obtain ⟨shown, _, equal⟩ := List.mem_map.mp member
  exact shownNode_ne_flow shown flow (equal.trans same)

theorem head_flows (workflow : Workflow) :
    ∀ node ∈ ((workflow.flows.map Flow.cleaned).map Flow.node).head?,
      ¬∀ flow, node ≠ Flow.node flow := by
  intro node first none
  obtain ⟨flow, _, equal⟩ := List.mem_map.mp (List.mem_of_mem_head? first)
  exact none flow equal.symm

/-- **A document determines its workflow.** Two workflows whose documents list their lanes and are
the same text agree on the id, on the lanes with their members, on the elements and on the flows,
each in this order and up to the characters that XML 1.0 does not have. -/
theorem content_of_document_eq {first second : Workflow}
    (same : first.document ⟨true⟩ = second.document ⟨true⟩) :
    clean (first.id.getD "Definitions_1") = clean (second.id.getD "Definitions_1") ∧
      first.lanes.map Lane.cleaned = second.lanes.map Lane.cleaned ∧
      first.elements.map Element.shown = second.elements.map Element.shown ∧
      first.flows.map Flow.cleaned = second.flows.map Flow.cleaned := by
  have sameTree := cleaned_definitions_eq same
  rw [definitions, definitions, Node.cleaned_block, Node.cleaned_block] at sameTree
  obtain ⟨-, sameAttributes, sameHalves⟩ := Node.block_inj sameTree
  have sameId : clean (first.id.getD "Definitions_1") = clean (second.id.getD "Definitions_1") := by
    simpa [Attributes.cleaned] using sameAttributes
  have sameProcess := (List.cons.inj sameHalves).1
  rw [processNode, processNode, Node.cleaned_block, Node.cleaned_block, cleaned_parts,
    cleaned_parts] at sameProcess
  obtain ⟨sameLanes, sameRest⟩ := List.cons.inj (Node.block_inj sameProcess).2.2
  obtain ⟨sameElements, sameFlows⟩ := append_inj_of_forall
    (fun node => ∀ flow, node ≠ Flow.node flow) (elements_ne_flow first) (elements_ne_flow second)
    (head_flows first) (head_flows second) sameRest
  refine ⟨sameId, ?_, ?_, ?_⟩
  · exact (List.map_inj_right fun _ _ => Lane.node_inj).mp (Node.block_inj sameLanes).2.2
  · exact (List.map_inj_right fun _ _ => shownNode_inj).mp sameElements
  · exact (List.map_inj_right fun _ _ => Flow.node_inj).mp sameFlows

/-- A workflow whose texts look like markup. Its own id, and the id and the type of its one element
are given. -/
def markedUp (own : Option String) (id typeName : String) : Workflow :=
  ⟨own, [⟨id, typeName, "\"<x>", none⟩], [⟨"f", id, "B", "&"⟩], [⟨"L", "\n", [id]⟩]⟩

/-- Two workflows with one document: they differ in characters that XML 1.0 does not have, in an
id that is left out, and in two types that are drawn alike. -/
theorem content_of_document_eq_alike :
    markedUp none "A\x01" "userTask" ≠ markedUp (some "Definitions_\x021") "A" "task" ∧
      (markedUp none "A\x01" "userTask").document ⟨true⟩ =
        (markedUp (some "Definitions_\x021") "A" "task").document ⟨true⟩ ∧
      clean "Definitions_1" = clean "Definitions_\x021" ∧
      (markedUp none "A\x01" "userTask").lanes.map Lane.cleaned =
        (markedUp (some "Definitions_\x021") "A" "task").lanes.map Lane.cleaned ∧
      (markedUp none "A\x01" "userTask").elements.map Element.shown =
        (markedUp (some "Definitions_\x021") "A" "task").elements.map Element.shown ∧
      (markedUp none "A\x01" "userTask").flows.map Flow.cleaned =
        (markedUp (some "Definitions_\x021") "A" "task").flows.map Flow.cleaned := by
  have sameTree : ((markedUp none "A\x01" "userTask").definitions ⟨true⟩).print =
      ((markedUp (some "Definitions_\x021") "A" "task").definitions ⟨true⟩).print := rfl
  have same : (markedUp none "A\x01" "userTask").document ⟨true⟩ =
      (markedUp (some "Definitions_\x021") "A" "task").document ⟨true⟩ := by
    rw [document, document, sameTree]
  exact ⟨by decide, same, content_of_document_eq same⟩

end Workflow

end LaneChart
