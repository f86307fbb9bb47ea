/-
**Reading a text as a tree.** The pieces of a text are put together again: an element holds what
stands between its start tag and its end tag. Of every element the name is read, all its attributes
with their references replaced, and the elements in it. Text and comments are passed over.

* `Tree`: an element as it is read; `Tree.named`: all elements with a name, outer ones first.
* `treeIn?`: the tree of a text, if the text has one.
* `Node.trees`: the trees of a node, as far as they can be read.
* `Tree.build_tokens`: they are built from its pieces.
-/

import LaneChart.Proofs.Markup.Unambiguous

namespace LaneChart.Markup

/-! ### Trees -/

/-- **An element as it is read.** -/
inductive Tree where
  | node (name : String) (attributes : Attributes) (children : List Tree)
deriving Repr

namespace Tree

mutual

/-- **All elements with a name** in a tree, in the order of their start tags. -/
def named (wanted : String) : Tree → List Tree
  | .node name attributes children =>
    (if name = wanted then [.node name attributes children] else []) ++ allNamed wanted children
termination_by structural tree => tree

/-- All elements with a name in several trees. -/
def allNamed (wanted : String) : List Tree → List Tree
  | [] => []
  | tree :: rest => tree.named wanted ++ allNamed wanted rest
termination_by structural trees => trees

end

theorem allNamed_eq_flatMap (wanted : String) (trees : List Tree) :
    allNamed wanted trees = trees.flatMap (named wanted) := by
  induction trees with
  | nil => rfl
  | cons tree rest ih => rw [allNamed, ih, List.flatMap_cons]

end Tree

/-! ### Reading -/

/-- An attribute with the references in its value replaced. -/
def Attribute.pair? (item : Attribute) : Option (String × String) :=
  (unescape item.value).toOption.map fun value => (String.ofList item.key, String.ofList value)

/-- All attributes of a tag. -/
def Tag.pairs? (tag : Tag) : Option Attributes :=
  match tag.attributes with
  | (items, none) => items.mapM Attribute.pair?
  | (_, some _) => none

/-- An element whose end tag is still to come: its name and attributes, and what stands in front of
it where it is. -/
structure Unfinished where
  name : List Char
  attributes : Attributes
  before : List Tree

/-- **The trees of a row of pieces.** The first argument has the elements that are not finished yet,
innermost first, and the second one the trees that are finished in the innermost one. -/
def Tree.build : List Unfinished → List Tree → List Token → Option (List Tree)
  | [], found, [] => some found
  | _ :: _, _, [] => none
  | open_, found, .opening tag :: rest => do
    let attributes ← tag.pairs?
    build (⟨tag.name, attributes, found⟩ :: open_) [] rest
  | open_, found, .selfClosing tag :: rest => do
    let attributes ← tag.pairs?
    build open_ (found ++ [.node (String.ofList tag.name) attributes []]) rest
  | [], _, .closing _ :: _ => none
  | last :: open_, found, .closing name :: rest =>
    if name = last.name then
      build open_ (last.before ++ [.node (String.ofList name) last.attributes found]) rest
    else none
  | open_, found, .other :: rest => build open_ found rest

/-- **The tree of a text,** if the text has one and nothing else. -/
def treeIn? (text : String) : Option Tree :=
  match Scan.of text.toList with
  | ⟨tokens, none⟩ =>
    match Tree.build [] [] tokens with
    | some [tree] => some tree
    | _ => none
  | ⟨_, some _⟩ => none

/-! ### The trees of a node -/

namespace Node

mutual

/-- **The trees of a node:** one for an element, and none for text, comments and line breaks. -/
def trees : Node → List Tree
  | .element name attributes children => [.node name attributes.cleaned (allTrees children)]
  | .empty name attributes => [.node name attributes.cleaned []]
  | .text _ | .comment _ | .line _ => []
termination_by structural node => node

/-- The trees of several nodes. -/
def allTrees : List Node → List Tree
  | [] => []
  | node :: rest => node.trees ++ allTrees rest
termination_by structural nodes => nodes

end

theorem allTrees_eq_flatMap (nodes : List Node) : allTrees nodes = nodes.flatMap trees := by
  induction nodes with
  | nil => rfl
  | cons node nodes ih => rw [allTrees, ih, List.flatMap_cons]

theorem trees_block (indent : Nat) (name : String) (attributes : Attributes)
    (children : List Node) :
    (block indent name attributes children).trees =
      [.node name attributes.cleaned (children.flatMap trees)] := by
  have lines : allTrees (lined indent children) = children.flatMap trees := by
    rw [allTrees_eq_flatMap, lined, List.flatMap_append, List.flatMap_assoc]
    simp [trees]
  rw [block_eq, trees, lines]

end Node

/-! ### Reading a printed tree -/

theorem pair_writtenAttribute (entry : String × String) :
    (writtenAttribute entry).pair? = some (entry.1, clean entry.2) := by
  have read : unescape (writtenAttribute entry).value = .ok (clean entry.2).toList :=
    unescape_escape entry.2
  rw [Attribute.pair?, read]
  show some (String.ofList entry.1.toList, String.ofList (clean entry.2).toList) = _
  rw [String.ofList_toList, String.ofList_toList]

/-- **All attributes of a printed tag.** -/
theorem pairs_print (name : List Char) {attributes : Attributes}
    (sound : SoundAttributes attributes) {tail : List Char}
    (blank : ∀ c ∈ tail, Text.isBlank c = true) :
    (Tag.mk name (Node.printAttributes attributes ++ tail)).pairs? =
      some attributes.cleaned := by
  have same := attributes.readsAs_print
  rw [Tag.pairs?, Tag.attributes_written name (writesAttributes_print attributes)
    (same.named sound) (same.distinct sound) blank]
  have each : Attribute.pair? ∘ writtenAttribute = some ∘ fun entry => (entry.1, clean entry.2) :=
    funext pair_writtenAttribute
  show (attributes.map writtenAttribute).mapM Attribute.pair? = some attributes.cleaned
  rw [List.mapM_map, each]
  exact List.mapM_pure

namespace Tree

mutual

/-- **The trees of a node are built from its pieces,** whatever is open and whatever follows. -/
theorem build_tokens (node : Node) (sound : node.Sound) (unfinished : List Unfinished)
    (found : List Tree) (rest : List Token) :
    build unfinished found (node.tokens ++ rest) = build unfinished (found ++ node.trees) rest := by
  cases node with
  | element name attributes children =>
    obtain ⟨_, soundAttributes, soundChildren⟩ := sound
    have read := pairs_print name.toList soundAttributes (List.forall_mem_nil _)
    rw [List.append_nil] at read
    have whole : (Node.element name attributes children).tokens ++ rest =
        .opening ⟨name.toList, Node.printAttributes attributes⟩ ::
          (Node.allTokens children ++ .closing name.toList :: rest) := by
      simp [Node.tokens]
    rw [whole, build, read, Option.bind_eq_bind, Option.bind_some,
      build_allTokens children soundChildren, build, if_pos rfl, String.ofList_toList]
    rfl
  | empty name attributes =>
    have space : ∀ c ∈ [' '], Text.isBlank c = true := by simp [Text.isBlank]
    have read := pairs_print name.toList sound.2 space
    have whole : (Node.empty name attributes).tokens ++ rest =
        .selfClosing ⟨name.toList, Node.printAttributes attributes ++ [' ']⟩ :: rest := rfl
    rw [whole, build, read, Option.bind_eq_bind, Option.bind_some, String.ofList_toList]
    rfl
  | text content => rw [Node.trees, List.append_nil]; rfl
  | comment content => rw [Node.trees, List.append_nil, Node.tokens, List.singleton_append, build]
  | line indent => rw [Node.trees, List.append_nil]; rfl
termination_by structural node

/-- The trees of several nodes. -/
theorem build_allTokens (nodes : List Node) (sound : Node.AllSound nodes)
    (unfinished : List Unfinished) (found : List Tree) (rest : List Token) :
    build unfinished found (Node.allTokens nodes ++ rest) =
      build unfinished (found ++ Node.allTrees nodes) rest := by
  cases nodes with
  | nil => rw [Node.allTrees, List.append_nil]; rfl
  | cons node nodes =>
    rw [Node.allTokens, List.append_assoc, build_tokens node sound.1,
      build_allTokens nodes sound.2, Node.allTrees, List.append_assoc]
termination_by structural nodes

end

end Tree

end LaneChart.Markup
