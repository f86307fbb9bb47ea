/-
**The summary of a document.** It lists the direct children of the first process in the document,
which is all that an editor needs to know which elements there are.

* `Summary`, `SummaryEntry`: the list.
* `Outline`: what is known after some pieces of the document: the unfinished elements, innermost
  first, where the first process is, and what was collected.
* `summarize`: the summary of a text, or the first fault in it.
-/

import LaneChart.Markup.Attribute
import LaneChart.Record.Reader

namespace LaneChart

open Markup

/-- An element of a summary. -/
structure SummaryEntry where
  typeName : String
  id : String
  name : String
deriving DecidableEq, Repr

/-- **What a document shows.** -/
structure Summary where
  id : String
  name : String
  elements : List SummaryEntry
deriving DecidableEq, Repr

/-- Where the first process is. -/
inductive ProcessPosition where
  | ahead
  /-- it is unfinished, and that many elements are while nothing in it is -/
  | around (depth : Nat)
  | behind
deriving DecidableEq, Repr

/-- **What is known of a document so far.** -/
structure Outline where
  unfinished : List (List Char) := []
  id : Option String := none
  process : ProcessPosition := .ahead
  /-- the children of the process, last one first -/
  children : List SummaryEntry := []
  rooted : Bool := false
deriving DecidableEq, Repr

namespace Outline

/-- The value of an attribute as text. -/
def valueOf (key : String) (tag : Tag) : Except Fault (Option String) := do
  return (← tag.find? key.toList).map String.ofList

/-- Takes the id of a tag that stands for the whole document. -/
def noteRoot (tag : Tag) (outline : Outline) : Except Fault Outline :=
  if outline.unfinished.isEmpty then do
    return { outline with id := (← valueOf "id" tag).filter (· ≠ "") }
  else return outline

/-- Takes a tag that is a child of the process. -/
def noteChild (tag : Tag) (outline : Outline) : Except Fault Outline :=
  if outline.process = .around outline.unfinished.length then do
    let id ← valueOf "id" tag
    let name ← valueOf "name" tag
    let entry : SummaryEntry :=
      ⟨String.ofList tag.localName, id.getD "", name.getD ""⟩
    return { outline with children := entry :: outline.children }
  else return outline

/-- Takes what a tag shows, whatever follows it. -/
def note (tag : Tag) (outline : Outline) : Except Fault Outline := do
  let outline ← outline.noteRoot tag
  let outline ← outline.noteChild tag
  return { outline with rooted := true }

/-- Enters an element. -/
def enter (tag : Tag) (outline : Outline) : Outline :=
  let unfinished := tag.name :: outline.unfinished
  { outline with
    unfinished := unfinished
    process :=
      if outline.process = .ahead && tag.localName == ['p', 'r', 'o', 'c', 'e', 's', 's'] then
        .around unfinished.length
      else outline.process }

/-- Leaves the innermost element, which has to have the name. -/
def leave (name : List Char) (outline : Outline) : Except Fault Outline :=
  match outline.unfinished with
  | [] => .error (.unmatchedEnd (String.ofList name))
  | expected :: outer =>
    if expected = name then
      .ok { outline with
        unfinished := outer
        process :=
          if outline.process = .around outline.unfinished.length then .behind
          else outline.process }
    else .error (.wrongEnd (String.ofList expected) (String.ofList name))

/-- Takes a piece of the document. -/
def step (outline : Outline) : Token → Except Fault Outline
  | .opening tag => do return (← outline.note tag).enter tag
  | .selfClosing tag => outline.note tag
  | .closing name => outline.leave name
  | .other => .ok outline

/-- The summary at the end of the document. -/
def finish (outline : Outline) : Except Fault Summary :=
  if !outline.rooted then .error .noRoot
  else if !outline.unfinished.isEmpty then .error (.unclosedElements outline.unfinished.length)
  else
    .ok { id := outline.id.getD "process_001"
          name := "Current Process"
          elements := outline.children.reverse }

end Outline

/-- `summarize` for a list of characters. -/
def summarizeChars (text : List Char) : Except Fault Summary := do
  let scan := Scan.of text
  let outline ← scan.tokens.foldlM Outline.step {}
  match scan.fault with
  | some fault => throw fault
  | none => outline.finish

/-- **The summary of a document.** -/
def summarize (text : String) : Except Fault Summary := summarizeChars text.toList

/-! ### As JSON -/

/-- An entry that is being read. -/
structure SummaryEntry.Partial where
  typeName : Option String := none
  id : Option String := none
  name : Option String := none

namespace SummaryEntry

open Record

/-- How an entry is read. -/
def record : Layout SummaryEntry.Partial SummaryEntry where
  name := "SummaryElement"
  fields :=
    [.of "type" readString (·.typeName)
        (fun part typeName => { part with typeName := some typeName }) false,
      .of "id" readString (·.id) (fun part id => { part with id := some id }) false,
      .of "name" readString (·.name) (fun part name => { part with name := some name }) false]
  start := {}
  finish := fun part => do
    return ⟨← needed "type" part.typeName, ← needed "id" part.id, ← needed "name" part.name⟩

/-- An entry as JSON. -/
def toJson (entry : SummaryEntry) : Json :=
  .object [("type", .text entry.typeName), ("id", .text entry.id), ("name", .text entry.name)]

end SummaryEntry

/-- A summary that is being read. -/
structure Summary.Partial where
  id : Option String := none
  name : Option String := none
  elements : Option (List SummaryEntry) := none

namespace Summary

open Record

/-- How a summary is read. -/
def record : Layout Summary.Partial Summary where
  name := "DiagramSummary"
  fields :=
    [.of "id" readString (·.id) (fun part id => { part with id := some id }) false,
      .of "name" readString (·.name) (fun part name => { part with name := some name }) false,
      .of "elements" (readList SummaryEntry.record.read) (·.elements)
        (fun part elements => { part with elements := some elements }) false]
  start := {}
  finish := fun part => do
    return ⟨← needed "id" part.id, ← needed "name" part.name, ← needed "elements" part.elements⟩

/-- A summary as JSON. -/
def toJson (summary : Summary) : Json :=
  .object [("id", .text summary.id), ("name", .text summary.name),
    ("elements", .list (summary.elements.map SummaryEntry.toJson))]

end Summary

end LaneChart
