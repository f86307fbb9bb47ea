/-
**The drawing mirrors the workflow.** A document is read as a tree. In it there is a shape for every
element, where the layout puts the element, and no two shapes meet. There is a flow for every flow,
but an edge only for those that join two elements; it goes from the first element with the one id to
the first element with the other.

* `Bounds.Apart`: rectangles that do not meet; `Workflow.bounds_apart`: those of a workflow.
* `Workflow.boundsOf_eq`: the rectangle that an id stands for is the one at its first place.
* `Flow.tree`, `Bounds.tree`, `Waypoint.tree`, `drawnTree`, `planeTree`: the parts of a document as
  they are read.
* `Node.found`: all elements with a name that are read from a node; `Workflow.found_processNode`,
  `Workflow.found_planeNode`: the flows, and what is drawn.
* `Workflow.treeIn_document`: the tree of a document; `Tree.Mirrors`: what is in it.
* `Workflow.drawing_mirrors`: the document of every workflow.
-/

import LaneChart.Proofs.Diagram.Identity
import LaneChart.Proofs.Markup.Tree

namespace LaneChart

open Markup

/-! ### The layout -/

/-- **Two rectangles that do not meet:** one ends before the other begins, from left to right or
from top to bottom. -/
def Bounds.Apart (first second : Bounds) : Prop :=
  first.x + first.width < second.x ∨ second.x + second.width < first.x ∨
    first.y + first.height < second.y ∨ second.y + second.height < first.y

theorem ElementKind.width_le (kind : ElementKind) : kind.size.1 ≤ 100 := by
  unfold size
  split
  · decide
  · split <;> decide

namespace Workflow

theorem le_x_of_mem_boundsFrom {position : Nat} {elements : List Element} {bounds : Bounds}
    (member : bounds ∈ boundsFrom position elements) : 100 + 200 * position ≤ bounds.x := by
  induction elements generalizing position with
  | nil => cases member
  | cons element rest ih =>
    rcases List.mem_cons.mp member with rfl | later
    · exact Nat.le_refl _
    · have further := ih later
      omega

/-- **No two shapes meet:** the steps from one to the next are wider than any of them. -/
theorem bounds_apart (workflow : Workflow) : workflow.bounds.Pairwise Bounds.Apart := by
  have apart : ∀ position elements,
      (boundsFrom position elements).Pairwise Bounds.Apart := by
    intro position elements
    induction elements generalizing position with
    | nil => exact .nil
    | cons element rest ih =>
      refine .cons (fun bounds member => .inl ?_) (ih (position + 1))
      have narrow := element.kind.width_le
      have further := le_x_of_mem_boundsFrom member
      show 100 + 200 * position + element.kind.size.1 < bounds.x
      omega
  exact apart 0 workflow.elements

/-- What stands beside the first item that is wanted. -/
theorem find_zip {α β : Type} (wanted : α → Bool) (items : List α) (others : List β)
    (same : others.length = items.length) :
    ((items.zip others).find? fun pair => wanted pair.1).map (·.2) =
      others[items.findIdx wanted]? := by
  induction items generalizing others with
  | nil =>
    rw [List.length_eq_zero_iff.mp same]
    rfl
  | cons item items ih =>
    obtain ⟨other, others, rfl⟩ := List.exists_cons_of_length_eq_add_one same
    rw [List.zip_cons_cons, List.find?_cons, List.findIdx_cons]
    cases wanted item with
    | true => rfl
    | false => exact ih others (Nat.succ.inj same)

theorem length_bounds (workflow : Workflow) :
    workflow.bounds.length = workflow.elements.length := length_boundsFrom 0 workflow.elements

/-- **The rectangle that an id stands for** is the one at its first place. -/
theorem boundsOf_eq (workflow : Workflow) (id : String) :
    workflow.boundsOf? id = workflow.bounds[workflow.elementIds.idxOf id]? := by
  have place : workflow.elementIds.idxOf id = workflow.elements.findIdx (·.id == id) := by
    rw [List.idxOf, elementIds, List.findIdx_map]
    rfl
  rw [place]
  exact find_zip (·.id == id) workflow.elements workflow.bounds workflow.length_bounds

end Workflow

/-! ### The parts of a document -/

/-- A flow as it is read. -/
def Flow.tree (flow : Flow) : Tree :=
  .node "bpmn2:sequenceFlow"
    [("id", clean flow.id), ("sourceRef", clean flow.source), ("targetRef", clean flow.target),
      ("name", clean flow.name)] []

/-- A rectangle as it is read. -/
def Bounds.tree (bounds : Bounds) : Tree :=
  .node "dc:Bounds"
    [("x", toString bounds.x), ("y", toString bounds.y), ("width", toString bounds.width),
      ("height", toString bounds.height)] []

/-- A point of a flow as it is read. -/
def Waypoint.tree (point : Waypoint) : Tree :=
  .node "di:waypoint" [("x", toString point.x), ("y", toString point.y)] []

/-- What draws the thing with an id, as it is read. -/
def drawnTree (name id : String) (parts : List Tree) : Tree :=
  .node name [("id", clean id ++ "_di"), ("bpmnElement", clean id)] parts

/-- The plane as it is read: what is drawn, in order. -/
def planeTree (drawn : List Tree) : Tree :=
  .node "bpmndi:BPMNPlane" [("id", "BPMNPlane_1"), ("bpmnElement", processId)] drawn

/-- **A document mirrors a workflow:** it has all its flows, all its shapes in the rectangles that
they have in the layout, and an edge for every flow that joins two elements. The shapes and behind
them the edges are what is on its only plane. -/
structure Markup.Tree.Mirrors (root : Tree) (workflow : Workflow) : Prop where
  flows : root.named "bpmn2:sequenceFlow" = workflow.flows.map Flow.tree
  shapes : root.named "bpmndi:BPMNShape" =
    (workflow.elements.zip workflow.bounds).map fun (element, bounds) =>
      drawnTree "bpmndi:BPMNShape" element.id [bounds.tree]
  edges : List.Forall₂
    (fun edge flow => ∃ source target,
      workflow.bounds[workflow.elementIds.idxOf flow.source]? = some source ∧
      workflow.bounds[workflow.elementIds.idxOf flow.target]? = some target ∧
      edge = drawnTree "bpmndi:BPMNEdge" flow.id
        [Waypoint.tree ⟨source.x + 50, source.y + 40⟩, Waypoint.tree ⟨target.x, target.y + 40⟩])
    (root.named "bpmndi:BPMNEdge") workflow.joining
  plane : root.named "bpmndi:BPMNPlane" =
    [planeTree (root.named "bpmndi:BPMNShape" ++ root.named "bpmndi:BPMNEdge")]

/-- All shapes as they are read. -/
def Workflow.shapeTrees (workflow : Workflow) : List Tree :=
  workflow.shapes.map fun (element, bounds) =>
    drawnTree "bpmndi:BPMNShape" element.id [bounds.tree]

/-- All edges as they are read. -/
def Workflow.edgeTrees (workflow : Workflow) : List Tree :=
  workflow.edges.map fun (flow, source, target) =>
    drawnTree "bpmndi:BPMNEdge" flow.id [source.tree, target.tree]

/-- Numbers are read as they are. -/
theorem clean_toString (n : Nat) : clean (toString n) = toString n := by
  refine clean_eq_self (List.all_eq_true.mpr fun c member => ?_)
  have digits : (toString n).toList = Nat.toDigits 10 n := Nat.toList_repr
  rw [digits] at member
  have digit := Nat.isDigit_of_mem_toDigits (by decide) (by decide) member
  obtain ⟨lower, upper⟩ : 48 ≤ c.toNat ∧ c.toNat ≤ 57 := by
    simpa [Char.isDigit, UInt32.le_iff_toNat_le] using digit
  simp only [isXmlChar, Bool.or_eq_true, Bool.and_eq_true, decide_eq_true_eq]
  omega

theorem clean_append (front back : String) : clean (front ++ back) = clean front ++ clean back := by
  rw [clean, String.toList_append, List.filter_append, String.ofList_append]
  rfl

theorem trees_bounds (bounds : Bounds) : bounds.node.trees = [bounds.tree] := by
  simp only [Bounds.node, Node.trees, Attributes.cleaned, List.map_cons, List.map_nil,
    clean_toString]
  rfl

theorem trees_waypoint (point : Waypoint) : point.node.trees = [point.tree] := by
  simp only [Waypoint.node, Node.trees, Attributes.cleaned, List.map_cons, List.map_nil,
    clean_toString]
  rfl

theorem trees_drawnNode (name id : String) (parts : List Node) :
    (drawnNode name id parts).trees = [drawnTree name id (parts.flatMap Node.trees)] := by
  have mark : clean "_di" = "_di" := by decide
  have read : Attributes.cleaned [("id", id ++ "_di"), ("bpmnElement", id)] =
      [("id", clean id ++ "_di"), ("bpmnElement", clean id)] := by
    show [("id", clean (id ++ "_di")), ("bpmnElement", clean id)] = _
    rw [clean_append, mark]
  rw [drawnNode, Node.trees_block, read, drawnTree]

theorem trees_shape (id : String) (bounds : Bounds) :
    (drawnNode "bpmndi:BPMNShape" id [bounds.node]).trees =
      [drawnTree "bpmndi:BPMNShape" id [bounds.tree]] := by
  rw [trees_drawnNode, List.flatMap_singleton, trees_bounds]

theorem trees_edge (id : String) (source target : Waypoint) :
    (drawnNode "bpmndi:BPMNEdge" id [source.node, target.node]).trees =
      [drawnTree "bpmndi:BPMNEdge" id [source.tree, target.tree]] := by
  rw [trees_drawnNode, List.flatMap_cons, List.flatMap_singleton, trees_waypoint, trees_waypoint]
  rfl

theorem trees_planeNode (workflow : Workflow) :
    workflow.planeNode.trees = [planeTree (workflow.shapeTrees ++ workflow.edgeTrees)] := by
  have own : Attributes.cleaned [("id", "BPMNPlane_1"), ("bpmnElement", processId)] =
      [("id", "BPMNPlane_1"), ("bpmnElement", processId)] := by decide
  rw [Workflow.planeNode, Node.trees_block, own, List.flatMap_append, List.flatMap_map,
    List.flatMap_map, funext fun shape : Element × Bounds => trees_shape shape.1.id shape.2,
    funext fun edge : Flow × Waypoint × Waypoint => trees_edge edge.1.id edge.2.1 edge.2.2,
    ← List.map_eq_flatMap, ← List.map_eq_flatMap]
  rfl

/-! ### What is read from a node -/

/-- The names of what a document mirrors. -/
def mirrored : List String :=
  ["bpmn2:sequenceFlow", "bpmndi:BPMNShape", "bpmndi:BPMNEdge", "bpmndi:BPMNPlane"]

namespace Markup.Node

/-- **All elements with a name** that are read from a node. -/
def found (wanted : String) (node : Node) : List Tree := node.trees.flatMap (Tree.named wanted)

theorem found_block (wanted : String) (indent : Nat) (name : String) (attributes : Attributes)
    (children : List Node) :
    (block indent name attributes children).found wanted =
      (if name = wanted then [.node name attributes.cleaned (children.flatMap trees)] else []) ++
        children.flatMap (found wanted) := by
  rw [found, trees_block, List.flatMap_singleton, Tree.named, Tree.allNamed_eq_flatMap,
    List.flatMap_assoc]
  rfl

theorem found_empty (wanted name : String) (attributes : Attributes) :
    (empty name attributes).found wanted =
      if name = wanted then [.node name attributes.cleaned []] else [] := by
  rw [found, trees, List.flatMap_singleton, Tree.named, Tree.allNamed, List.append_nil]

variable {wanted : String}

/-- A node that is not mirrored itself: only what is in it counts. -/
theorem found_outer (asked : wanted ∈ mirrored) {name : String} (other : name ∉ mirrored)
    (indent : Nat) (attributes : Attributes) (children : List Node) :
    (block indent name attributes children).found wanted = children.flatMap (found wanted) := by
  rw [found_block, if_neg (ne_of_mem_of_not_mem asked other).symm, List.nil_append]

/-- A node that is not mirrored and has nothing in it. -/
theorem found_other (asked : wanted ∈ mirrored) {name : String} (other : name ∉ mirrored)
    (attributes : Attributes) : (empty name attributes).found wanted = [] := by
  rw [found_empty, if_neg (ne_of_mem_of_not_mem asked other).symm]

/-- Nodes of one kind that are not mirrored. -/
theorem flatMap_found_other {α : Type} {node : α → Node}
    (none : ∀ item, (node item).found wanted = []) (items : List α) :
    (items.map node).flatMap (found wanted) = [] := by
  rw [List.flatMap_map]
  exact List.flatMap_eq_nil_iff.mpr fun item _ => none item

end Markup.Node

namespace Workflow

/-! ### What is read from a document -/

variable {wanted : String}

/-- Trees of one kind with a name. -/
theorem flatMap_kind {α : Type} {found : α → List Tree} {name : String} {tree : α → Tree}
    (single : ∀ item, found item = if name = wanted then [tree item] else []) (items : List α) :
    items.flatMap found = if name = wanted then items.map tree else [] := by
  rw [funext single]
  split
  · exact List.map_eq_flatMap.symm
  · exact List.flatMap_eq_nil_iff.mpr fun _ _ => rfl

/-- What draws something: it has no parts that are mirrored. -/
theorem named_drawnTree (name id : String) {parts : List Tree}
    (none : parts.flatMap (Tree.named wanted) = []) :
    (drawnTree name id parts).named wanted =
      if name = wanted then [drawnTree name id parts] else [] := by
  rw [drawnTree, Tree.named, Tree.allNamed_eq_flatMap, none, List.append_nil]

/-- **The flows of the process** are read from it, and nothing that is drawn is. -/
theorem found_processNode (asked : wanted ∈ mirrored) (options : DrawingOptions)
    (workflow : Workflow) :
    (workflow.processNode options).found wanted =
      if "bpmn2:sequenceFlow" = wanted then workflow.flows.map Flow.tree else [] := by
  have reference : ∀ member : String,
      (Node.element "bpmn2:flowNodeRef" [] [.text member]).found wanted = [] := fun member => by
    rw [Node.found, Node.trees, List.flatMap_singleton, Tree.named,
      if_neg (ne_of_mem_of_not_mem asked (by decide)).symm]
    rfl
  have lane : ∀ lane : Lane, lane.node.found wanted = [] := fun lane => by
    rw [Lane.node, Node.found_outer asked (by decide), Node.flatMap_found_other reference]
  have lanes : (if options.laneSet then [workflow.laneSetNode] else []).flatMap
      (Node.found wanted) = [] := by
    split
    · rw [List.flatMap_singleton, laneSetNode, Node.found_outer asked (by decide),
        Node.flatMap_found_other lane]
    · rfl
  have element : ∀ element : Element, element.node.found wanted = [] := fun element => by
    have other : "bpmn2:" ++ element.kind.tag ∉ mirrored := by
      cases element.kind <;> decide
    exact Node.found_other asked other _
  rw [processNode, Node.found_outer asked (by decide), List.flatMap_append, List.flatMap_append,
    lanes, Node.flatMap_found_other element, List.flatMap_map]
  exact flatMap_kind (fun flow => Node.found_empty wanted _ _) workflow.flows

/-- **The plane with its shapes and its edges.** -/
theorem found_planeNode (asked : wanted ∈ mirrored) (workflow : Workflow) :
    workflow.planeNode.found wanted =
      (if "bpmndi:BPMNPlane" = wanted then
        [planeTree (workflow.shapeTrees ++ workflow.edgeTrees)] else []) ++
      ((if "bpmndi:BPMNShape" = wanted then workflow.shapeTrees else []) ++
        if "bpmndi:BPMNEdge" = wanted then workflow.edgeTrees else []) := by
  have bounds : ∀ bounds : Bounds, bounds.tree.named wanted = [] := fun bounds => by
    rw [Bounds.tree, Tree.named, if_neg (ne_of_mem_of_not_mem asked (by decide)).symm]
    rfl
  have waypoint : ∀ point : Waypoint, point.tree.named wanted = [] := fun point => by
    rw [Waypoint.tree, Tree.named, if_neg (ne_of_mem_of_not_mem asked (by decide)).symm]
    rfl
  have shapes : workflow.shapeTrees.flatMap (Tree.named wanted) =
      if "bpmndi:BPMNShape" = wanted then workflow.shapeTrees else [] := by
    rw [shapeTrees, List.flatMap_map]
    refine flatMap_kind (fun shape => named_drawnTree _ _ ?_) workflow.shapes
    rw [List.flatMap_singleton, bounds]
  have edges : workflow.edgeTrees.flatMap (Tree.named wanted) =
      if "bpmndi:BPMNEdge" = wanted then workflow.edgeTrees else [] := by
    rw [edgeTrees, List.flatMap_map]
    refine flatMap_kind (fun edge => named_drawnTree _ _ ?_) workflow.edges
    rw [List.flatMap_cons, List.flatMap_singleton, waypoint, waypoint]
    rfl
  rw [Node.found, trees_planeNode, List.flatMap_singleton, planeTree, Tree.named,
    Tree.allNamed_eq_flatMap, List.flatMap_append, shapes, edges]

/-- **What is read from a document:** the process and the plane. -/
theorem found_definitions (asked : wanted ∈ mirrored) (options : DrawingOptions)
    (workflow : Workflow) :
    (workflow.definitions options).found wanted =
      (workflow.processNode options).found wanted ++ workflow.planeNode.found wanted := by
  rw [definitions, Node.found_outer asked (by decide), List.flatMap_cons, List.flatMap_singleton,
    Node.found_outer asked (by decide), List.flatMap_singleton]

/-- **The document of a workflow has a tree,** the one that it was printed from. -/
theorem treeIn_document (options : DrawingOptions) (workflow : Workflow) :
    ∃ root, treeIn? (workflow.document options) = some root ∧
      ∀ wanted, root.named wanted = (workflow.definitions options).found wanted := by
  have sound := workflow.sound_definitions options
  obtain ⟨root, single⟩ : ∃ root, (workflow.definitions options).trees = [root] :=
    ⟨_, Node.trees_block _ _ _ _⟩
  have built :
      Tree.build [] [] (.other :: (workflow.definitions options).tokens) = some [root] := by
    rw [Tree.build, ← List.append_nil (Node.tokens _), Tree.build_tokens _ sound, single]
    rfl
  refine ⟨root, ?_, fun wanted => ?_⟩
  · rw [treeIn?, document, String.toList_ofList, scan_document _ sound]
    dsimp only
    rw [built]
  · rw [Node.found, single, List.flatMap_singleton]

/-- **Every edge goes from shape to shape:** from the first element with the source's id to the
first one with the target's. -/
theorem edges_spec (workflow : Workflow) :
    List.Forall₂
      (fun edge flow => ∃ source target,
        workflow.bounds[workflow.elementIds.idxOf flow.source]? = some source ∧
        workflow.bounds[workflow.elementIds.idxOf flow.target]? = some target ∧
        edge = (flow, source.departure, target.arrival))
      workflow.edges workflow.joining := by
  have drawn : ∀ edge ∈ workflow.edges, ∃ source target,
      workflow.boundsOf? edge.1.source = some source ∧
      workflow.boundsOf? edge.1.target = some target ∧
      edge = (edge.1, source.departure, target.arrival) := by
    intro edge member
    obtain ⟨flow, _, drawn⟩ := List.mem_filterMap.mp member
    split at drawn
    · rename_i source target hasSource hasTarget
      cases drawn
      exact ⟨source, target, hasSource, hasTarget, rfl⟩
    · cases drawn
  rw [← workflow.edges_map_fst, List.forall₂_map_right_iff, List.forall₂_same]
  simpa only [boundsOf_eq] using drawn

/-- **The drawing mirrors the workflow.** The document of every workflow has a tree, in it are all
flows, a shape for every element, and an edge for every flow that joins two elements, and nothing
else is on the plane. No two shapes meet. -/
theorem drawing_mirrors (options : DrawingOptions) (workflow : Workflow) :
    (∃ root, treeIn? (workflow.document options) = some root ∧ root.Mirrors workflow) ∧
      workflow.bounds.length = workflow.elements.length ∧
      workflow.bounds.Pairwise Bounds.Apart := by
  refine ⟨?_, workflow.length_bounds, workflow.bounds_apart⟩
  obtain ⟨root, read, named⟩ := workflow.treeIn_document options
  have parts : ∀ wanted ∈ mirrored, root.named wanted =
      (workflow.processNode options).found wanted ++ workflow.planeNode.found wanted :=
    fun wanted asked => (named wanted).trans (found_definitions asked options workflow)
  have flows : root.named "bpmn2:sequenceFlow" = workflow.flows.map Flow.tree := by
    rw [parts _ (by decide), found_processNode (by decide), found_planeNode (by decide)]
    exact List.append_nil _
  have shapes : root.named "bpmndi:BPMNShape" = workflow.shapeTrees := by
    rw [parts _ (by decide), found_processNode (by decide), found_planeNode (by decide)]
    exact List.append_nil _
  have edges : root.named "bpmndi:BPMNEdge" = workflow.edgeTrees := by
    rw [parts _ (by decide), found_processNode (by decide), found_planeNode (by decide)]
    rfl
  have plane : root.named "bpmndi:BPMNPlane" =
      [planeTree (workflow.shapeTrees ++ workflow.edgeTrees)] := by
    rw [parts _ (by decide), found_processNode (by decide), found_planeNode (by decide)]
    rfl
  refine ⟨root, read, flows, shapes, ?_, ?_⟩
  · rw [edges, edgeTrees, List.forall₂_map_left_iff]
    refine workflow.edges_spec.imp fun edge flow spec => ?_
    obtain ⟨source, target, hasSource, hasTarget, rfl⟩ := spec
    exact ⟨source, target, hasSource, hasTarget, rfl⟩
  · rw [plane, shapes, edges]

end Workflow

end LaneChart
