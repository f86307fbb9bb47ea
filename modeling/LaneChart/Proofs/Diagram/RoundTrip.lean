/-
**Reading back a compiled document.** The document of any draft is well-formed XML, and its summary
lists the lane set, the elements and the flows of the draft, in this order and with nothing else.

* `Node.entries_lined`: children are listed, the lines between them are not.
* `Workflow.sound_definitions`: the document of a workflow is a tree that can be printed.
* `scan_document`: the pieces of a printed document.
* `Workflow.summarize_document`: the summary of the document of a workflow, placed or not.
* `Settings.summarize_compile`: the summary of the document of a draft.
-/

import LaneChart.Proofs.Diagram.Outline
import LaneChart.Proofs.Markup.Grammar
import LaneChart.Proofs.Workflow.Placement
import LaneChart.Settings.Basic

namespace LaneChart

open Markup

/-! ### Children on lines of their own -/

namespace Markup.Node

/-- Line breaks are not listed. -/
theorem entries_lined (indent : Nat) (children : List Node) :
    entries (lined indent children) = entries children := by
  unfold entries lined
  rw [List.filterMap_append, List.filterMap_flatMap]
  induction children with
  | nil => rfl
  | cons child children ih =>
    rw [List.flatMap_cons, List.append_assoc, ih, List.filterMap_cons, List.filterMap_cons,
      List.filterMap_cons, List.filterMap_nil]
    cases child.entry? <;> rfl

end Markup.Node

/-! ### The tree of a document -/

/-- Attributes are sound when their keys are different names. -/
theorem Markup.SoundAttributes.of_keys {attributes : Attributes} (keys : List String)
    (same : attributes.map (·.1) = keys) (named : ∀ key ∈ keys, isName key.toList = true)
    (distinct : keys.Nodup) : SoundAttributes attributes where
  named := fun _ member => named _ (same ▸ List.mem_map_of_mem member)
  distinct := same ▸ distinct

theorem isName_tag (kind : ElementKind) : isName ("bpmn2:" ++ kind.tag).toList = true := by
  cases kind <;> decide

theorem localPart_tag (kind : ElementKind) :
    localPart ("bpmn2:" ++ kind.tag).toList = kind.tag.toList := by
  cases kind <;> decide

theorem sound_drawnNode {tag : String} (named : isName tag.toList = true) (id : String)
    {parts : List Node} (sound : ∀ part ∈ parts, part.Sound) : (drawnNode tag id parts).Sound :=
  Node.sound_block named (.of_keys ["id", "bpmnElement"] rfl (by decide) (by decide)) sound

namespace Workflow

theorem sound_laneSetNode (workflow : Workflow) : workflow.laneSetNode.Sound := by
  refine Node.sound_block (by decide) (.of_keys ["id"] rfl (by decide) (by decide)) ?_
  intro node member
  obtain ⟨lane, _, rfl⟩ := List.mem_map.mp member
  refine Node.sound_block (by decide) (.of_keys ["id", "name"] rfl (by decide) (by decide)) ?_
  intro reference listed
  obtain ⟨_, _, rfl⟩ := List.mem_map.mp listed
  exact ⟨by decide, .of_keys [] rfl (by decide) (by decide), trivial, trivial⟩

theorem sound_processNode (options : DrawingOptions) (workflow : Workflow) :
    (workflow.processNode options).Sound := by
  refine Node.sound_block (by decide)
    (.of_keys ["id", "isExecutable"] rfl (by decide) (by decide)) ?_
  intro node member
  rcases List.mem_append.mp member with front | inFlows
  · rcases List.mem_append.mp front with inLanes | inElements
    · split at inLanes
      · rw [List.mem_singleton.mp inLanes]
        exact workflow.sound_laneSetNode
      · cases inLanes
    · obtain ⟨element, _, rfl⟩ := List.mem_map.mp inElements
      exact ⟨isName_tag element.kind, .of_keys ["id", "name"] rfl (by decide) (by decide)⟩
  · obtain ⟨flow, _, rfl⟩ := List.mem_map.mp inFlows
    exact ⟨by decide,
      .of_keys ["id", "sourceRef", "targetRef", "name"] rfl (by decide) (by decide)⟩

theorem sound_planeNode (workflow : Workflow) : workflow.planeNode.Sound := by
  refine Node.sound_block (by decide)
    (.of_keys ["id", "bpmnElement"] rfl (by decide) (by decide)) ?_
  intro node member
  rcases List.mem_append.mp member with inShapes | inEdges
  · obtain ⟨⟨element, bounds⟩, _, rfl⟩ := List.mem_map.mp inShapes
    refine sound_drawnNode (by decide) _ fun part same => ?_
    rw [List.mem_singleton.mp same]
    exact ⟨by decide, .of_keys ["x", "y", "width", "height"] rfl (by decide) (by decide)⟩
  · obtain ⟨⟨flow, source, target⟩, _, rfl⟩ := List.mem_map.mp inEdges
    have soundPoint : ∀ point : Waypoint, point.node.Sound := fun point =>
      ⟨by decide, .of_keys ["x", "y"] rfl (by decide) (by decide)⟩
    refine sound_drawnNode (by decide) _ fun part same => ?_
    rcases List.mem_cons.mp same with rfl | last
    · exact soundPoint source
    · rw [List.mem_singleton.mp last]
      exact soundPoint target

/-- **The document of a workflow can be printed,** whatever its ids and names are. -/
theorem sound_definitions (options : DrawingOptions) (workflow : Workflow) :
    (workflow.definitions options).Sound := by
  refine Node.sound_block (by decide)
    (.of_keys ["xmlns:xsi", "xmlns:bpmn2", "xmlns:bpmndi", "xmlns:dc", "xmlns:di", "id",
      "targetNamespace"] rfl (by decide) (by decide)) ?_
  intro node member
  rcases List.mem_cons.mp member with rfl | diagram
  · exact sound_processNode options workflow
  · rw [List.mem_singleton.mp diagram]
    refine Node.sound_block (by decide) (.of_keys ["id"] rfl (by decide) (by decide)) ?_
    intro plane same
    rw [List.mem_singleton.mp same]
    exact sound_planeNode workflow

end Workflow

/-! ### What the tree shows -/

/-- How the lane set is listed. -/
def laneSetEntry : SummaryEntry := ⟨"laneSet", "LaneSet_1", ""⟩

/-- How an element is listed. -/
def Element.entry (element : Element) : SummaryEntry :=
  ⟨element.kind.tag, clean element.id, clean element.name⟩

/-- How a flow is listed. -/
def Flow.entry (flow : Flow) : SummaryEntry :=
  ⟨"sequenceFlow", clean flow.id, clean flow.name⟩

theorem Element.entry_node (element : Element) : element.node.entry? = some element.entry := by
  rw [Element.node, Node.entry?, localPart_tag, String.ofList_toList,
    Attributes.value_head (by decide), Attributes.value_skip (by decide),
    Attributes.value_head (by decide)]
  rfl

theorem Flow.entry_node (flow : Flow) : flow.node.entry? = some flow.entry := by
  have tag : String.ofList (localPart "bpmn2:sequenceFlow".toList) = "sequenceFlow" := by decide
  rw [Flow.node, Node.entry?, tag, Attributes.value_head (by decide),
    Attributes.value_skip (by decide), Attributes.value_skip (by decide),
    Attributes.value_skip (by decide), Attributes.value_head (by decide)]
  rfl

namespace Workflow

theorem entry_laneSetNode (workflow : Workflow) :
    workflow.laneSetNode.entry? = some laneSetEntry := by
  have tag : String.ofList (localPart "bpmn2:laneSet".toList) = "laneSet" := by decide
  have kept : clean "LaneSet_1" = "LaneSet_1" := by decide
  rw [laneSetNode, Node.block_eq, Node.entry?, tag, Attributes.value_head (by decide), kept,
    Attributes.value_skip (by decide)]
  rfl

/-- What is listed of a workflow: the lane set if it is drawn, the elements, the flows. -/
def listed (options : DrawingOptions) (workflow : Workflow) : List SummaryEntry :=
  (if options.laneSet then [laneSetEntry] else []) ++ workflow.elements.map Element.entry ++
    workflow.flows.map Flow.entry

theorem entries_process (options : DrawingOptions) (workflow : Workflow) :
    Node.entries ((if options.laneSet then [workflow.laneSetNode] else []) ++
      workflow.elements.map Element.node ++ workflow.flows.map Flow.node) =
      workflow.listed options := by
  have elements : (workflow.elements.map Element.node).filterMap Node.entry? =
      workflow.elements.map Element.entry := by
    have same : Node.entry? ∘ Element.node = some ∘ Element.entry := funext Element.entry_node
    rw [List.filterMap_map, same, List.filterMap_eq_map]
  have flows : (workflow.flows.map Flow.node).filterMap Node.entry? =
      workflow.flows.map Flow.entry := by
    have same : Node.entry? ∘ Flow.node = some ∘ Flow.entry := funext Flow.entry_node
    rw [List.filterMap_map, same, List.filterMap_eq_map]
  rw [Node.entries, List.filterMap_append, List.filterMap_append, elements, flows, listed]
  cases options.laneSet with
  | false => rfl
  | true =>
    rw [if_pos rfl, if_pos rfl, List.filterMap_cons, entry_laneSetNode]
    rfl

/-- The first process of a document is the one of the workflow. -/
theorem openProcess_definitions (options : DrawingOptions) (workflow : Workflow) :
    (workflow.definitions options).openProcess? =
      some (Node.lined 2 ((if options.laneSet then [workflow.laneSetNode] else []) ++
        workflow.elements.map Element.node ++ workflow.flows.map Flow.node)) := rfl

/-- The id under which a document is known: its own, or a common one when nothing of it is left. -/
def summaryId (workflow : Workflow) : String :=
  let id := clean (workflow.id.getD "Definitions_1")
  if id ≠ "" then id else "process_001"

end Workflow

/-! ### The text of a document -/

theorem next_declaration (rest : List Char) :
    Token.next ("?xml version=\"1.0\" encoding=\"UTF-8\"?>".toList ++ rest) =
      .ok (.other, rest) := rfl

/-- **The pieces of a printed document:** the declaration, and the pieces of the tree. -/
theorem scan_document (root : Node) (sound : root.Sound) :
    Scan.of (declaration.toList ++ root.print ++ ['\n']) = ⟨.other :: root.tokens, none⟩ := by
  have shape : declaration.toList ++ root.print ++ ['\n'] =
      '<' :: ("?xml version=\"1.0\" encoding=\"UTF-8\"?>".toList ++
        '\n' :: (root.print ++ ['\n'])) := by
    rw [List.append_assoc]
    rfl
  rw [Scan.of_eq, shape]
  show Scan.pieces ('<' :: _) = _
  rw [Scan.pieces_take (next_declaration _), Scan.pieces_skip (by decide),
    Node.pieces_print root sound]
  show (Scan.prepend root.tokens ⟨[], none⟩).prepend [.other] = _
  simp [Scan.prepend]

theorem summarizeChars_document {name : String} {attributes : Attributes} {children : List Node}
    (sound : (Node.element name attributes children).Sound) :
    summarizeChars (declaration.toList ++ (Node.element name attributes children).print ++
      ['\n']) = .ok (Outline.summaryOf name attributes children) := by
  unfold summarizeChars
  rw [scan_document _ sound]
  exact Outline.finish_root sound

/-- The id of a document stands behind the names of its vocabularies. -/
theorem Workflow.value_id_definitions (workflow : Workflow) :
    Attributes.value? "id".toList (vocabularies ++
      [("id", workflow.id.getD "Definitions_1"),
        ("targetNamespace", "http://bpmn.io/schema/bpmn")]) =
      some (clean (workflow.id.getD "Definitions_1")) := by
  rw [vocabularies, List.cons_append, Attributes.value_skip (by decide), List.cons_append,
    Attributes.value_skip (by decide), List.cons_append, Attributes.value_skip (by decide),
    List.cons_append, Attributes.value_skip (by decide), List.cons_append,
    Attributes.value_skip (by decide), List.nil_append, Attributes.value_head (by decide)]

/-- **The summary of the document of a workflow,** placed or not. -/
theorem Workflow.summarize_document (options : DrawingOptions) (workflow : Workflow) :
    summarize (workflow.document options) =
      .ok ⟨workflow.summaryId, "Current Process", workflow.listed options⟩ := by
  rw [summarize, Workflow.document, String.toList_ofList]
  refine (summarizeChars_document (workflow.sound_definitions options)).trans ?_
  have found := workflow.openProcess_definitions options
  rw [definitions, Node.block_eq] at found
  show Except.ok (Outline.summaryOf _ _ (Node.lined 0 _)) = _
  rw [Outline.summaryOf, value_id_definitions, found, Option.getD_some, Node.entries_lined,
    entries_process, summaryId]
  split
  · rename_i kept
    rw [Option.filter_some, if_pos (decide_eq_true kept)]
    rfl
  · rename_i empty
    rw [Option.filter_some, if_neg (by simpa using empty)]
    rfl

/-- **The document of a workflow is well-formed XML.** -/
theorem Workflow.isDocument_document (options : DrawingOptions) (workflow : Workflow) :
    IsDocument (workflow.document options).toList := by
  have element := Node.isElement_print (workflow.sound_definitions options)
  rw [Workflow.document, String.toList_ofList]
  have apart : ['\n'].all Text.isBlank = true := by decide
  exact IsDocument.intro apart element apart

namespace Settings

/-- **Reading back a compiled document.** -/
theorem summarize_compile (settings : Settings) (draft : Draft) :
    summarize (settings.compile draft) =
      .ok { id :=
              if clean (draft.id.getD "Definitions_1") ≠ "" then
                clean (draft.id.getD "Definitions_1")
              else "process_001"
            name := "Current Process"
            elements :=
              (if settings.emitLaneSet then [⟨"laneSet", "LaneSet_1", ""⟩] else []) ++
                draft.elements.map (fun element =>
                  ⟨element.kind.tag, clean element.id, clean element.name⟩) ++
                (draft.flows.getD []).map (fun flow =>
                  ⟨"sequenceFlow", clean flow.id, clean flow.name⟩) } ∧
      IsDocument (settings.compile draft).toList := by
  refine ⟨?_, Workflow.isDocument_document _ _⟩
  have elements := settings.lanes.map_place_elements draft Element.entry fun _ _ => rfl
  rw [Settings.compile, Workflow.summarize_document, Workflow.listed, elements]
  rfl

end Settings

end LaneChart
