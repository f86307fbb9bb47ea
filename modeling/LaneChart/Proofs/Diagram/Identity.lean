/-
**The ids in a compiled document.** The ids that a draft gives, the ids that every document has,
and the ids of what is drawn share one space of names. They are all different exactly when no given
id is one of the others.

* `idsIn`: the ids of all tags of a text, as they are read.
* `Node.ids`: the ids in a tree; `Token.ids_tokens`: they are read from its pieces.
* `Workflow.ids`, `Workflow.idsIn_document`: the ids in the document of a workflow.
* `Workflow.givenIds`, `Workflow.fixedIds`, `Workflow.drawnIds`: where they come from;
  `Workflow.ids_perm`: there are no others.
* `Settings.ids_distinct_iff`: when all ids of a compiled document are different.
-/

import LaneChart.Proofs.Diagram.RoundTrip

namespace LaneChart

open Markup

/-! ### Reading ids -/

namespace Markup

/-- The id of a piece; only tags that open or close themselves have one. -/
def Token.id? : Token → Except Fault (Option (List Char))
  | .opening tag | .selfClosing tag => tag.find? "id".toList
  | .closing _ | .other => .ok none

/-- The ids of several pieces. -/
def Token.ids : List Token → Except Fault (List String)
  | [] => .ok []
  | token :: rest => do
    let id ← token.id?
    let others ← ids rest
    return (id.map String.ofList).toList ++ others

/-- **The ids in a text:** those of its tags, in order, with their references replaced. -/
def idsIn (text : String) : Except Fault (List String) :=
  match Scan.of text.toList with
  | ⟨tokens, none⟩ => Token.ids tokens
  | ⟨_, some fault⟩ => .error fault

/-- The id among attributes, if there is one. -/
def Attributes.id (attributes : Attributes) : List String :=
  (attributes.value? "id".toList).toList

/-- Attributes without an id, as their keys show. -/
theorem Attributes.id_of_keys {attributes : Attributes} (keys : List String)
    (same : attributes.map (·.1) = keys)
    (others : ∀ key ∈ keys, localPart key.toList ≠ "id".toList) : attributes.id = [] := by
  have missing : attributes.find? (fun entry => localPart entry.1.toList == "id".toList) = none :=
    List.find?_eq_none.mpr fun entry member =>
      mt beq_iff_eq.mp (others entry.1 (same ▸ List.mem_map_of_mem member))
  rw [id, value?, missing]
  rfl

namespace Node

mutual

/-- **The ids in a tree.** -/
def ids : Node → List String
  | .element _ attributes children => attributes.id ++ allIds children
  | .empty _ attributes => attributes.id
  | .text _ | .comment _ | .line _ => []
termination_by structural node => node

/-- The ids in several trees. -/
def allIds : List Node → List String
  | [] => []
  | node :: rest => node.ids ++ allIds rest
termination_by structural nodes => nodes

end

theorem allIds_eq_flatMap (nodes : List Node) : allIds nodes = nodes.flatMap ids := by
  induction nodes with
  | nil => rfl
  | cons node nodes ih => rw [allIds, ih, List.flatMap_cons]

/-- Line breaks have no ids. -/
theorem allIds_lined (indent : Nat) (children : List Node) :
    allIds (lined indent children) = children.flatMap ids := by
  rw [allIds_eq_flatMap, lined, List.flatMap_append, List.flatMap_assoc]
  simp [ids]

theorem ids_block (indent : Nat) (name : String) (attributes : Attributes)
    (children : List Node) :
    (block indent name attributes children).ids = attributes.id ++ children.flatMap ids := by
  rw [block_eq, ids, allIds_lined]

end Node

namespace Token

/-- The id that is read in a printed tag. -/
theorem ids_tag {token : Token} {name : List Char} {attributes : Attributes} {tail : List Char}
    (is : token.id? = Tag.find? "id".toList ⟨name, Node.printAttributes attributes ++ tail⟩)
    (sound : SoundAttributes attributes) (blank : ∀ c ∈ tail, Text.isBlank c = true)
    (rest : List Token) :
    ids (token :: rest) = (ids rest).map (attributes.id ++ ·) := by
  have found : token.id? = .ok ((attributes.value? "id".toList).map String.toList) := by
    rw [is, Tag.find_print _ _ sound blank]
  rw [ids, found, Attributes.id]
  cases attributes.value? "id".toList with
  | none => cases ids rest <;> rfl
  | some id =>
    have same : ((some id).map String.toList).map String.ofList = some id :=
      congrArg some String.ofList_toList
    cases ids rest with
    | error fault => rfl
    | ok others =>
      show Except.ok (((((some id).map String.toList).map String.ofList).toList) ++ others) = _
      rw [same]
      rfl

/-- A piece without an id. -/
theorem ids_of_none {token : Token} (is : token.id? = .ok none) (rest : List Token) :
    ids (token :: rest) = ids rest := by
  rw [ids, is]
  cases ids rest <;> rfl

theorem map_nil_append (found : Except Fault (List String)) : found.map ([] ++ ·) = found := by
  cases found <;> rfl

theorem map_append_append (found : Except Fault (List String)) (front middle : List String) :
    (found.map (middle ++ ·)).map (front ++ ·) = found.map (front ++ middle ++ ·) := by
  cases found with
  | error fault => rfl
  | ok others => exact congrArg Except.ok (List.append_assoc _ _ _).symm

mutual

/-- **The ids of a tree are read from its pieces.** -/
theorem ids_tokens (node : Node) (sound : node.Sound) (rest : List Token) :
    ids (node.tokens ++ rest) = (ids rest).map (node.ids ++ ·) := by
  cases node with
  | element name attributes children =>
    obtain ⟨_, soundAttributes, soundChildren⟩ := sound
    have whole : (Node.element name attributes children).tokens ++ rest =
        .opening ⟨name.toList, Node.printAttributes attributes⟩ ::
          (Node.allTokens children ++ .closing name.toList :: rest) := by
      simp [Node.tokens]
    have opens : (Token.opening ⟨name.toList, Node.printAttributes attributes⟩).id? =
        Tag.find? "id".toList ⟨name.toList, Node.printAttributes attributes ++ []⟩ := by
      rw [List.append_nil]
      rfl
    rw [whole, ids_tag opens soundAttributes (List.forall_mem_nil _),
      ids_allTokens children soundChildren, ids_of_none rfl, map_append_append]
    rfl
  | empty name attributes =>
    exact ids_tag rfl sound.2 (by simp [Text.isBlank]) rest
  | text content => exact (map_nil_append _).symm
  | comment content => exact (ids_of_none rfl rest).trans (map_nil_append _).symm
  | line indent => exact (map_nil_append _).symm
termination_by structural node

/-- The ids of several trees. -/
theorem ids_allTokens (nodes : List Node) (sound : Node.AllSound nodes) (rest : List Token) :
    ids (Node.allTokens nodes ++ rest) = (ids rest).map (Node.allIds nodes ++ ·) := by
  cases nodes with
  | nil => exact (map_nil_append _).symm
  | cons node nodes =>
    rw [Node.allTokens, List.append_assoc, ids_tokens node sound.1,
      ids_allTokens nodes sound.2, map_append_append]
    rfl
termination_by structural nodes

end

end Token

end Markup

/-! ### The ids of a document -/

/-- The ids of the elements. -/
def Workflow.elementIds (workflow : Workflow) : List String := workflow.elements.map (·.id)

/-- The flows that join two elements. -/
def Workflow.joining (workflow : Workflow) : List Flow :=
  workflow.flows.filter fun flow =>
    flow.source ∈ workflow.elementIds && flow.target ∈ workflow.elementIds

namespace Workflow

/-- **The ids of what is drawn:** a shape for every element, and an edge for every flow that joins
two of them. -/
def drawnIds (workflow : Workflow) : List String :=
  (workflow.elementIds ++ workflow.joining.map (·.id)).map (· ++ "_di")

/-- **The ids that every document has.** -/
def fixedIds (options : DrawingOptions) (workflow : Workflow) : List String :=
  (if workflow.id.isSome then [] else ["Definitions_1"]) ++ [processId] ++
    (if options.laneSet then ["LaneSet_1"] else []) ++ ["BPMNDiagram_1", "BPMNPlane_1"]

/-- **The ids that come with a workflow,** as far as they are written. -/
def givenIds (options : DrawingOptions) (workflow : Workflow) : List String :=
  workflow.id.toList ++ (if options.laneSet then workflow.lanes.map (·.id) else []) ++
    workflow.elementIds ++ workflow.flows.map (·.id)

/-- The ids of a document in the order in which they are written. -/
def ids (options : DrawingOptions) (workflow : Workflow) : List String :=
  [workflow.id.getD "Definitions_1", processId] ++
    (if options.laneSet then "LaneSet_1" :: workflow.lanes.map (·.id) else []) ++
    workflow.elementIds ++ workflow.flows.map (·.id) ++ ["BPMNDiagram_1", "BPMNPlane_1"] ++
    workflow.drawnIds

theorem length_boundsFrom (position : Nat) (elements : List Element) :
    (boundsFrom position elements).length = elements.length := by
  induction elements generalizing position with
  | nil => rfl
  | cons element rest ih => rw [boundsFrom, List.length_cons, ih, List.length_cons]

theorem shapes_map_fst (workflow : Workflow) : workflow.shapes.map (·.1) = workflow.elements :=
  List.map_fst_zip (length_boundsFrom 0 workflow.elements).ge

/-- An element can be drawn to when it is there. -/
theorem isSome_boundsOf (workflow : Workflow) (id : String) :
    (workflow.boundsOf? id).isSome = decide (id ∈ workflow.elementIds) := by
  rw [Bool.eq_iff_iff, decide_eq_true_iff, boundsOf?, Option.isSome_map, List.find?_isSome,
    elementIds, ← workflow.shapes_map_fst, List.map_map, List.mem_map]
  exact exists_congr fun shape => and_congr_right fun _ => beq_iff_eq

/-- **An edge is drawn** for every flow that joins two elements, and for no other. -/
theorem edges_map_fst (workflow : Workflow) : workflow.edges.map (·.1) = workflow.joining := by
  rw [edges, List.map_filterMap, joining, ← List.filterMap_eq_filter]
  refine List.filterMap_congr fun flow _ => ?_
  rw [Option.guard, ← isSome_boundsOf, ← isSome_boundsOf]
  cases workflow.boundsOf? flow.source with
  | none => rfl
  | some source => cases workflow.boundsOf? flow.target <;> rfl

theorem ids_drawnNode (tag id : String) (parts : List Node)
    (idless : ∀ part ∈ parts, part.ids = []) :
    (drawnNode tag id parts).ids = [clean (id ++ "_di")] := by
  rw [drawnNode, Node.ids_block, List.flatMap_eq_nil_iff.mpr idless, Attributes.id,
    Attributes.value_head (by decide)]
  rfl

/-- Things of one kind, with one id each. -/
theorem flatMap_ids {α : Type} {node : α → Node} {id : α → String}
    (single : ∀ item, (node item).ids = [clean (id item)]) (items : List α) :
    (items.map node).flatMap Node.ids = (items.map id).map clean := by
  induction items with
  | nil => rfl
  | cons item items ih =>
    rw [List.map_cons, List.flatMap_cons, single, ih]
    rfl

theorem ids_laneSetNode (workflow : Workflow) :
    workflow.laneSetNode.ids = ("LaneSet_1" :: workflow.lanes.map (·.id)).map clean := by
  have single : ∀ lane : Lane, lane.node.ids = [clean lane.id] := by
    intro lane
    have idless : ∀ reference ∈ lane.members.map fun member =>
        Node.element "bpmn2:flowNodeRef" [] [.text member], reference.ids = [] := by
      intro reference listed
      obtain ⟨_, _, rfl⟩ := List.mem_map.mp listed
      rfl
    rw [Lane.node, Node.ids_block, List.flatMap_eq_nil_iff.mpr idless, Attributes.id,
      Attributes.value_head (by decide)]
    rfl
  rw [laneSetNode, Node.ids_block, flatMap_ids single, Attributes.id,
    Attributes.value_head (by decide)]
  rfl

theorem ids_processNode (options : DrawingOptions) (workflow : Workflow) :
    (workflow.processNode options).ids =
      (processId :: (if options.laneSet then "LaneSet_1" :: workflow.lanes.map (·.id) else []) ++
        workflow.elementIds ++ workflow.flows.map (·.id)).map clean := by
  have element : ∀ element : Element, element.node.ids = [clean element.id] := fun element => by
    rw [Element.node, Node.ids, Attributes.id, Attributes.value_head (by decide)]
    rfl
  have flow : ∀ flow : Flow, flow.node.ids = [clean flow.id] := fun flow => by
    rw [Flow.node, Node.ids, Attributes.id, Attributes.value_head (by decide)]
    rfl
  rw [processNode, Node.ids_block, List.flatMap_append, List.flatMap_append, flatMap_ids element,
    flatMap_ids flow, Attributes.id, Attributes.value_head (by decide), elementIds]
  cases options.laneSet with
  | false => simp
  | true => simp [ids_laneSetNode]

theorem ids_planeNode (workflow : Workflow) :
    workflow.planeNode.ids = ("BPMNPlane_1" :: workflow.drawnIds).map clean := by
  have shape : ∀ shape : Element × Bounds,
      (drawnNode "bpmndi:BPMNShape" shape.1.id [shape.2.node]).ids =
        [clean (shape.1.id ++ "_di")] := fun shape =>
    ids_drawnNode _ _ _ fun part same => by
      rw [List.mem_singleton.mp same]
      exact Attributes.id_of_keys ["x", "y", "width", "height"] rfl (by decide)
  have edge : ∀ edge : Flow × Waypoint × Waypoint,
      (drawnNode "bpmndi:BPMNEdge" edge.1.id [edge.2.1.node, edge.2.2.node]).ids =
        [clean (edge.1.id ++ "_di")] := fun edge =>
    ids_drawnNode _ _ _ fun part same => by
      rcases List.mem_cons.mp same with rfl | last
      · exact Attributes.id_of_keys ["x", "y"] rfl (by decide)
      · rw [List.mem_singleton.mp last]
        exact Attributes.id_of_keys ["x", "y"] rfl (by decide)
  have elements : workflow.shapes.map (fun shape => shape.1.id ++ "_di") =
      workflow.elementIds.map (· ++ "_di") := by
    rw [elementIds, ← workflow.shapes_map_fst, List.map_map, List.map_map]
    rfl
  have flows : workflow.edges.map (fun edge => edge.1.id ++ "_di") =
      (workflow.joining.map (·.id)).map (· ++ "_di") := by
    rw [← workflow.edges_map_fst, List.map_map, List.map_map]
    rfl
  rw [planeNode, Node.ids_block, List.flatMap_append, flatMap_ids shape, flatMap_ids edge, elements,
    flows, Attributes.id, Attributes.value_head (by decide), drawnIds]
  simp

/-- **The ids in the tree of a document.** -/
theorem ids_definitions (options : DrawingOptions) (workflow : Workflow) :
    (workflow.definitions options).ids = (workflow.ids options).map clean := by
  have diagram : (Node.block 2 "bpmndi:BPMNDiagram" [("id", "BPMNDiagram_1")]
      [workflow.planeNode]).ids =
        ("BPMNDiagram_1" :: "BPMNPlane_1" :: workflow.drawnIds).map clean := by
    rw [Node.ids_block, List.flatMap_singleton, ids_planeNode, Attributes.id,
      Attributes.value_head (by decide)]
    rfl
  have own : Attributes.id (vocabularies ++ [("id", workflow.id.getD "Definitions_1"),
      ("targetNamespace", "http://bpmn.io/schema/bpmn")]) =
        [clean (workflow.id.getD "Definitions_1")] := by
    rw [Attributes.id, value_id_definitions]
    rfl
  rw [definitions, Node.ids_block, own, List.flatMap_cons, List.flatMap_singleton, ids_processNode,
    diagram, ids]
  simp

/-- **The ids in the document of a workflow,** as they are read. -/
theorem idsIn_document (options : DrawingOptions) (workflow : Workflow) :
    idsIn (workflow.document options) = .ok ((workflow.ids options).map clean) := by
  rw [idsIn, Workflow.document, String.toList_ofList,
    scan_document _ (workflow.sound_definitions options)]
  show Token.ids (.other :: _) = _
  rw [Token.ids_of_none rfl, ← List.append_nil (Node.tokens _),
    Token.ids_tokens _ (workflow.sound_definitions options), ids_definitions]
  exact congrArg Except.ok (List.append_nil _)

/-! ### Where they come from -/

/-- **There are no other ids.** -/
theorem ids_perm (options : DrawingOptions) (workflow : Workflow) :
    (workflow.ids options).Perm
      (workflow.givenIds options ++ (workflow.fixedIds options ++ workflow.drawnIds)) := by
  rw [List.perm_iff_count]
  intro id
  simp only [ids, givenIds, fixedIds, List.count_append]
  cases workflow.id <;> cases options.laneSet <;> simp [List.count_cons] <;> omega

/-- No id of a drawing is one that every document has. -/
theorem not_mem_drawnIds_of_mem_fixedIds {options : DrawingOptions} {workflow : Workflow}
    {id : String} (fixed : id ∈ workflow.fixedIds options) : id ∉ workflow.drawnIds := by
  intro drawn
  obtain ⟨drawnThing, _, rfl⟩ := List.mem_map.mp drawn
  have ending : "_di".toList <:+ (drawnThing ++ "_di").toList := by
    rw [String.toList_append]
    exact List.suffix_append _ _
  have known : (drawnThing ++ "_di") ∈
      ["Definitions_1", processId, "LaneSet_1", "BPMNDiagram_1", "BPMNPlane_1"] := by
    revert fixed
    rw [fixedIds]
    cases workflow.id <;> cases options.laneSet <;> simp <;> tauto
  generalize drawnThing ++ "_di" = id at ending known
  simp only [List.mem_cons, List.not_mem_nil, or_false] at known
  rcases known with rfl | rfl | rfl | rfl | rfl <;> revert ending <;> decide

theorem nodup_fixedIds (options : DrawingOptions) (workflow : Workflow) :
    (workflow.fixedIds options).Nodup := by
  rw [fixedIds]
  cases workflow.id.isSome <;> cases options.laneSet <;> decide

/-- Different things are drawn under different ids. -/
theorem nodup_drawnIds {workflow : Workflow}
    (distinct : (workflow.elementIds ++ workflow.flows.map (·.id)).Nodup) :
    workflow.drawnIds.Nodup := by
  have joining : (workflow.joining.map (·.id)).Sublist (workflow.flows.map (·.id)) :=
    List.filter_sublist.map _
  have injective : Function.Injective fun id : String => id ++ "_di" := by
    intro first second same
    exact String.append_left_inj _ |>.mp same
  exact (distinct.sublist (List.Sublist.append_left joining _)).map injective

/-- **When the ids of a document are different:** no given id is one that every document has, or one
under which something is drawn. -/
theorem nodup_ids_iff {options : DrawingOptions} {workflow : Workflow}
    (distinct : (workflow.givenIds options).Nodup) :
    (workflow.ids options).Nodup ↔
      ∀ id ∈ workflow.givenIds options,
        id ∉ workflow.fixedIds options ∧ id ∉ workflow.drawnIds := by
  have inner : (workflow.elementIds ++ workflow.flows.map (·.id)).Nodup := by
    rw [givenIds, List.append_assoc] at distinct
    exact distinct.of_append_right
  have others : (workflow.fixedIds options ++ workflow.drawnIds).Nodup :=
    List.nodup_append.mpr ⟨workflow.nodup_fixedIds options, nodup_drawnIds inner,
      fun id fixed other drawn same => not_mem_drawnIds_of_mem_fixedIds fixed (same ▸ drawn)⟩
  rw [(workflow.ids_perm options).nodup_iff, List.nodup_append, and_iff_right distinct,
    and_iff_right others]
  constructor
  · intro apart id given
    exact ⟨fun fixed => apart id given id (List.mem_append_left _ fixed) rfl,
      fun drawn => apart id given id (List.mem_append_right _ drawn) rfl⟩
  · intro apart id given other found same
    rcases List.mem_append.mp found with fixed | drawn
    · exact (apart id given).1 (same ▸ fixed)
    · exact (apart id given).2 (same ▸ drawn)

end Workflow

/-! ### Compiled documents -/

theorem Markup.clean_eq_self {text : String} (allowed : text.toList.all isXmlChar = true) :
    clean text = text := by
  rw [clean, List.filter_eq_self.mpr (List.all_eq_true.mp allowed), String.ofList_toList]

/-- **The ids of a document are read as they are** when the given ones can be written. -/
theorem Workflow.clean_ids {options : DrawingOptions} {workflow : Workflow}
    (allowed : ∀ id ∈ workflow.givenIds options, id.toList.all isXmlChar = true) :
    (workflow.ids options).map clean = workflow.ids options := by
  have fixed : ∀ id ∈ workflow.fixedIds options, id.toList.all isXmlChar = true := by
    rw [fixedIds]
    cases workflow.id.isSome <;> cases options.laneSet <;> decide
  have drawn : ∀ id ∈ workflow.drawnIds, id.toList.all isXmlChar = true := by
    intro id member
    obtain ⟨thing, known, rfl⟩ := List.mem_map.mp member
    have given : thing ∈ workflow.givenIds options := by
      rw [givenIds]
      rcases List.mem_append.mp known with element | flow
      · exact List.mem_append_left _ (List.mem_append_right _ element)
      · exact List.mem_append_right _ ((List.filter_sublist.map _).subset flow)
    rw [String.toList_append, List.all_append, allowed thing given]
    decide
  refine (List.map_congr_left fun id member => ?_).trans (List.map_id _)
  refine clean_eq_self ?_
  rcases List.mem_append.mp ((workflow.ids_perm options).mem_iff.mp member) with given | others
  · exact allowed id given
  · rcases List.mem_append.mp others with isFixed | isDrawn
    · exact fixed id isFixed
    · exact drawn id isDrawn

/-- **The ids that a draft gives,** with those of the lanes in which its elements are placed. -/
def Draft.ids (set : LaneSet) (draft : Draft) : List String :=
  draft.id.toList ++ (set.place draft).lanes.map (·.id) ++ draft.elements.map (·.id) ++
    (draft.flows.getD []).map (·.id)

namespace Settings

/-- What is written of the ids of a draft. -/
theorem givenIds_sublist (settings : Settings) (draft : Draft) :
    ((settings.lanes.place draft).givenIds settings.drawing).Sublist
      (draft.ids settings.lanes) := by
  have elements : (settings.lanes.place draft).elementIds = draft.elements.map (·.id) :=
    settings.lanes.map_place_elements draft (·.id) fun _ _ => rfl
  have lanes : (if settings.drawing.laneSet then
      (settings.lanes.place draft).lanes.map (·.id) else []).Sublist
        ((settings.lanes.place draft).lanes.map (·.id)) := by
    split
    · exact List.Sublist.refl _
    · exact List.nil_sublist _
  rw [Workflow.givenIds, elements, Draft.ids]
  exact (((List.Sublist.refl _).append lanes).append_right _).append_right _

/-- **The ids of a compiled document.** When the ids of a draft are different from each other and
can be written, the document has them as far as they are written, the ids that every document has, and
those under which elements and flows are drawn. All of them are different exactly when none of the
first kind is one of the others. -/
theorem ids_distinct_iff (settings : Settings) (draft : Draft)
    (distinct : (draft.ids settings.lanes).Nodup)
    (allowed : ∀ id ∈ draft.ids settings.lanes, id.toList.all isXmlChar = true) :
    let workflow := settings.lanes.place draft
    let given := workflow.givenIds settings.drawing
    let fixed := workflow.fixedIds settings.drawing
    ∃ ids, idsIn (settings.compile draft) = .ok ids ∧
      ids.Perm (given ++ (fixed ++ workflow.drawnIds)) ∧
      (ids.Nodup ↔ ∀ id ∈ given, id ∉ fixed ∧ id ∉ workflow.drawnIds) := by
  intro workflow given fixed
  have written := settings.givenIds_sublist draft
  refine ⟨workflow.ids settings.drawing, ?_, workflow.ids_perm _,
    Workflow.nodup_ids_iff (distinct.sublist written)⟩
  rw [Settings.compile, Workflow.idsIn_document,
    Workflow.clean_ids fun id member => allowed id (written.subset member)]

/-- Two elements, the second with the id under which the first is drawn. -/
def twinned : Draft where
  id := none
  elements := [⟨"a", "task", "", none⟩, ⟨"a_di", "task", "", none⟩]
  flows := none
  lanes := []

/-- **Two tags with one id:** an element, and the shape of another one. -/
theorem twinned_ids_collide :
    (twinned.ids {}).Nodup ∧ (∀ id ∈ twinned.ids {}, id ≠ "" ∧ id.toList.all isXmlChar = true) ∧
      ∃ ids, idsIn (({} : Settings).compile twinned) = .ok ids ∧ 2 ≤ ids.count "a_di" := by
  have ids : ((({} : Settings).lanes.place twinned).ids ({} : Settings).drawing).map clean =
      ["Definitions_1", "Process_1", "LaneSet_1", "Lane_Planning", "Lane_Execution", "Lane_Review",
        "Lane_Completion", "a", "a_di", "BPMNDiagram_1", "BPMNPlane_1", "a_di", "a_di_di"] := by
    decide +kernel
  refine ⟨by decide +kernel, by decide +kernel, _, Workflow.idsIn_document _ _, ?_⟩
  rw [ids]
  decide

/-- A draft with two elements and a flow between them. -/
def joined : Draft where
  id := some "d"
  elements := [⟨"a", "task", "", none⟩, ⟨"b", "task", "", none⟩]
  flows := some [⟨"f", "a", "b", ""⟩]
  lanes := []

theorem joined_ids_distinct :
    (joined.ids {}).Nodup ∧
      ∃ ids, idsIn (({} : Settings).compile joined) = .ok ids ∧ ids.Nodup ∧ "f_di" ∈ ids := by
  have distinct : (joined.ids {}).Nodup := by decide +kernel
  obtain ⟨ids, read, same, apart⟩ := ids_distinct_iff {} joined distinct (by decide +kernel)
  refine ⟨distinct, ids, read, apart.mpr (by decide +kernel), same.mem_iff.mpr ?_⟩
  decide +kernel

end Settings

end LaneChart
