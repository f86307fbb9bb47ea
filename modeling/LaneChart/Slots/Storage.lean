/-
**Slots: what a session leaves for the next one.** There are three of them, each holds a text or
nothing, and every call to the storage that keeps them may fail.

* `Slot`: the three slots and their keys.
* `Storage`: the calls. A storage is a value, and a call gives back the storage after it.
* `Shelf`: slots in memory, where no call fails.
* `OutOfService`: a storage where every call fails.
* `FaultyShelf`: a shelf with a switch for each call to each slot.
-/

import LaneChart.Files.Disk

namespace LaneChart

/-- **The slots.** -/
inductive Slot where
  /-- the document that was last compiled, imported or saved -/
  | diagram
  /-- when it was last saved -/
  | timestamp
  /-- a plan that waits to be shown -/
  | pending
deriving DecidableEq, Repr

namespace Slot

/-- The name under which a slot is kept. -/
def key : Slot → String
  | diagram => "bpmn-diagram"
  | timestamp => "bpmn-diagram-timestamp"
  | pending => "bpmn-current-diagram"

/-- All slots. -/
def all : List Slot := [diagram, timestamp, pending]

end Slot

/-- **Why a call to a storage fails.** -/
inductive StorageFault where
  | disk (fault : Files.Fault)
  | refused (reason : String)
deriving DecidableEq, Repr

/-- What went wrong, without saying that it is the storage where it did. -/
def StorageFault.detail : StorageFault → String
  | .disk fault => fault.message
  | .refused reason => reason

/-- How it is said that a call to a storage fails. -/
def StorageFault.message (fault : StorageFault) : String :=
  s!"storage unavailable: {fault.detail}"

/-- **The calls to a storage.** -/
class Storage (σ : Type) where
  /-- the text in a slot -/
  get : Slot → StateM σ (Except StorageFault (Option String))
  /-- puts a text into a slot -/
  set : Slot → String → StateM σ (Except StorageFault Unit)
  /-- empties a slot -/
  remove : Slot → StateM σ (Except StorageFault Unit)

/-! ### Slots in memory -/

/-- **Slots in memory.** -/
structure Shelf where
  content : Slot → Option String := fun _ => none

namespace Shelf

/-- The shelf with something else in a slot. -/
def put (shelf : Shelf) (slot : Slot) (value : Option String) : Shelf :=
  ⟨fun other => if other = slot then value else shelf.content other⟩

end Shelf

instance : Storage Shelf where
  get slot := fun shelf => (.ok (shelf.content slot), shelf)
  set slot text := fun shelf => (.ok (), shelf.put slot (some text))
  remove slot := fun shelf => (.ok (), shelf.put slot none)

/-! ### Storage that fails -/

/-- **A storage where every call fails.** -/
structure OutOfService where

namespace OutOfService

/-- Why its calls fail. -/
def fault : StorageFault := .refused "storage quota exceeded"

end OutOfService

instance : Storage OutOfService where
  get _ := fun storage => (.error OutOfService.fault, storage)
  set _ _ := fun storage => (.error OutOfService.fault, storage)
  remove _ := fun storage => (.error OutOfService.fault, storage)

/-- The calls to a slot. -/
inductive StorageCall where
  | get
  | set
  | remove
deriving DecidableEq, Repr

/-- The name of a call. -/
def StorageCall.name : StorageCall → String
  | get => "get"
  | set => "set"
  | remove => "remove"

/-- **A shelf with a switch for each call to each slot.** A call that is switched off fails and
changes nothing. -/
structure FaultyShelf where
  shelf : Shelf := {}
  isOff : StorageCall → Slot → Bool := fun _ _ => false

namespace FaultyShelf

/-- Turns the switch of a call to a slot. -/
def turn (storage : FaultyShelf) (call : StorageCall) (slot : Slot) (off : Bool) : FaultyShelf :=
  { storage with
    isOff := fun otherCall otherSlot =>
      if otherCall = call && otherSlot = slot then off else storage.isOff otherCall otherSlot }

/-- Makes a call to the shelf unless it is switched off. -/
def attempt {α : Type} (call : StorageCall) (slot : Slot)
    (run : StateM Shelf (Except StorageFault α)) : StateM FaultyShelf (Except StorageFault α) :=
  fun storage =>
    if storage.isOff call slot then
      (.error (.refused s!"flaky {call.name} {slot.key}"), storage)
    else
      let (result, shelf) := run storage.shelf
      (result, { storage with shelf := shelf })

end FaultyShelf

instance : Storage FaultyShelf where
  get slot := FaultyShelf.attempt .get slot (Storage.get slot)
  set slot text := FaultyShelf.attempt .set slot (Storage.set slot text)
  remove slot := FaultyShelf.attempt .remove slot (Storage.remove slot)

end LaneChart
