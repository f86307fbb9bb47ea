/-
**Slots in a folder.** Every slot is a file. A text is first written into a draft file beside it,
which then takes the place of the slot, so nobody reads a slot that is half written.

* `SlotFolder`: a disk and the folder in it.
* `SlotFolder.get`, `SlotFolder.set`, `SlotFolder.remove`: the calls. Setting makes the folder
  first; a step that fails leaves what the steps before it did.
-/

import LaneChart.Slots.Storage

namespace LaneChart

/-- **A disk and the folder in it that holds the slots.** -/
structure SlotFolder where
  disk : Files.Disk
  folder : Files.Path
deriving DecidableEq

namespace SlotFolder

/-- The file of a slot. -/
def slotPath (storage : SlotFolder) (slot : Slot) : Files.Path := slot.key :: storage.folder

/-- The file into which a text for a slot is written first. -/
def draftPath (storage : SlotFolder) (slot : Slot) : Files.Path :=
  s!".{slot.key}.tmp" :: storage.folder

/-- The same folder on another disk. -/
def onDisk (storage : SlotFolder) (disk : Files.Disk) : SlotFolder := { storage with disk := disk }

/-- The text in a slot; a file that is missing is an empty slot. -/
def get (slot : Slot) : StateM SlotFolder (Except StorageFault (Option String)) := fun storage =>
  match storage.disk.read (storage.slotPath slot) with
  | .ok text => (.ok (some text), storage)
  | .error .notFound => (.ok none, storage)
  | .error fault => (.error (.disk fault), storage)

/-- Puts a text into a slot: makes the folder, writes the draft file, and moves it to the slot. -/
def set (slot : Slot) (text : String) : StateM SlotFolder (Except StorageFault Unit) :=
  fun storage =>
    match storage.disk.makeFolders storage.folder with
    | .error fault => (.error (.disk fault), storage)
    | .ok made =>
      match made.write (storage.draftPath slot) text with
      | .error fault => (.error (.disk fault), storage.onDisk made)
      | .ok written =>
        match written.rename (storage.draftPath slot) (storage.slotPath slot) with
        | .error fault => (.error (.disk fault), storage.onDisk written)
        | .ok moved => (.ok (), storage.onDisk moved)

/-- Empties a slot; one that is empty stays so. -/
def remove (slot : Slot) : StateM SlotFolder (Except StorageFault Unit) := fun storage =>
  match storage.disk.remove (storage.slotPath slot) with
  | .ok disk => (.ok (), storage.onDisk disk)
  | .error .notFound => (.ok (), storage)
  | .error fault => (.error (.disk fault), storage)

/-- The names of the files in the folder, in order. -/
def names (storage : SlotFolder) : Except Files.Fault (List String) :=
  storage.disk.names storage.folder

end SlotFolder

instance : Storage SlotFolder where
  get := SlotFolder.get
  set := SlotFolder.set
  remove := SlotFolder.remove

end LaneChart
