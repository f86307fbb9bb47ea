/-
**The lanes that elements are placed in.** There are four roles, and a lane set says what the lane
of each role is called.

* `Role`, `Role.roundRobin`: the roles and their order.
* `Role.of?`: the role that an element has by its kind or its name. The first rule that matches
  wins.
* `LaneSet`: the lane of every role.
-/

import LaneChart.Workflow.Basic
import LaneChart.Text.Search

namespace LaneChart

/-- **What happens in a lane.** -/
inductive Role where
  | planning
  | execution
  | review
  | completion
deriving DecidableEq, Repr

namespace Role

/-- The order in which roles take turns. -/
def order : List Role := [planning, execution, review, completion]

/-- The role whose turn it is. -/
def roundRobin (turn : Nat) : Role :=
  match turn % 4 with
  | 0 => planning
  | 1 => execution
  | 2 => review
  | _ => completion

/-- The name of a role. -/
def name : Role → String
  | planning => "Planning"
  | execution => "Execution"
  | review => "Review"
  | completion => "Completion"

/-- Whether a name holds a word, whatever the case of its letters. The words are made of Latin
letters, and no other character has a lower case that completes one of them: the Kelvin sign
becomes a `k`, which no word has, and the dotted capital `I` keeps its dot. So only Latin letters
need folding. -/
def mentions (word name : String) : Bool :=
  Text.occurs word.toList (name.toList.map Char.toLower)

/-- **The role that an element shows** by its kind or its name. -/
def of? (element : Element) : Option Role :=
  if element.kind = .startEvent || mentions "start" element.name then some planning
  else if element.kind = .endEvent || mentions "complete" element.name then some completion
  else if element.kind = .exclusiveGateway || mentions "?" element.name then some review
  else if mentions "develop" element.name || mentions "implement" element.name then some execution
  else none

end Role

/-- The id and the name of a lane. -/
structure LaneLabel where
  id : String
  name : String
deriving DecidableEq, Repr

/-- The lane with a label and nobody in it. -/
def LaneLabel.lane (label : LaneLabel) : Lane := ⟨label.id, label.name, []⟩

/-- **The lane of every role.** -/
structure LaneSet where
  planning : LaneLabel := ⟨"Lane_Planning", "Planning & Initiation"⟩
  execution : LaneLabel := ⟨"Lane_Execution", "Development & Execution"⟩
  review : LaneLabel := ⟨"Lane_Review", "Review & Quality Control"⟩
  completion : LaneLabel := ⟨"Lane_Completion", "Completion & Delivery"⟩
deriving DecidableEq, Repr

namespace LaneSet

/-- The label of the lane of a role. -/
def label (set : LaneSet) : Role → LaneLabel
  | .planning => set.planning
  | .execution => set.execution
  | .review => set.review
  | .completion => set.completion

/-- All labels, in the order of the roles. -/
def labels (set : LaneSet) : List LaneLabel := Role.order.map set.label

end LaneSet

end LaneChart
