/-
**Slots in a folder are slots in memory.** A folder that starts without slots answers every call as
a shelf that starts empty does, and no call fails. What was left behind in drafts is never read.

* `SlotFolder.Holds`: the slot files are those of a shelf, and the folder can be used.
* `SlotFolder.Accepts`, `SlotFolder.set_accepted`: nothing is in the way of a text for a slot, and
  what setting changes then.
* `SlotFolder.get_run`, `SlotFolder.set_run`, `SlotFolder.remove_run`: the calls to such a folder.
* `SlotCall.answer`, `SlotCall.answers`: what calls answer.
* `SlotFolder.Holds.call`, `SlotFolder.Holds.calls`: one call to a folder and to its shelf, and a
  run of them.
* `SlotFolder.Holds.names_set`: what the folder lists after a text was put into a slot.
* `SlotFolder.Fresh`: the folder is missing, or no slot is in it.
* `SlotFolder.answers_eq_shelf`: every run of calls to a folder without slots.
-/

import LaneChart.Proofs.Files.Folders
import LaneChart.Proofs.Session.Calls
import LaneChart.Slots.Folder

namespace LaneChart

open Files (Disk)

/-! ### Names -/

/-- The name of the file into which a text for a slot is written first. -/
def Slot.draftName (slot : Slot) : String := s!".{slot.key}.tmp"

theorem Slot.key_inj {slot other : Slot} : other.key = slot.key ↔ other = slot := by
  cases slot <;> cases other <;> decide

theorem Slot.key_ne_draftName (slot other : Slot) : slot.key ≠ other.draftName := by
  cases slot <;> cases other <;> decide

theorem Shelf.content_put (shelf : Shelf) (slot other : Slot) (value : Option String) :
    (shelf.put slot value).content other = if other = slot then value else shelf.content other :=
  rfl

/-- What a slot holds already is put there. -/
theorem Shelf.put_content (shelf : Shelf) (slot : Slot) :
    shelf.put slot (shelf.content slot) = shelf := by
  have same : ∀ other,
      (shelf.put slot (shelf.content slot)).content other = shelf.content other := by
    intro other
    rw [content_put]
    by_cases same : other = slot
    · rw [if_pos same, same]
    · rw [if_neg same]
  exact congrArg Shelf.mk (funext same)

namespace SlotFolder

/-! ### What a folder holds -/

/-- What stands in the folder under a name. -/
def found? (storage : SlotFolder) (name : String) : Option Files.Entry :=
  storage.disk.entry? (name :: storage.folder)

/-- **The slot files are those of a shelf,** byte by byte, and nothing is in the way of the calls:
the folder is there or can be made, and drafts can be written. -/
structure Holds (storage : SlotFolder) (shelf : Shelf) : Prop where
  grounded : storage.disk.Grounded
  reachable : storage.disk.IsFolder storage.folder ∨ storage.disk.IsMissing storage.folder
  slots : ∀ slot : Slot, storage.found? slot.key =
    (shelf.content slot).map fun text => .file text.toUTF8
  drafts : ∀ slot : Slot, storage.found? slot.draftName ≠ some .folder

variable {storage : SlotFolder} {shelf : Shelf}

theorem draftPath_eq (storage : SlotFolder) (slot : Slot) :
    storage.draftPath slot = slot.draftName :: storage.folder := rfl

/-- No folder stands where a slot is kept. -/
theorem Holds.slot_ne_folder (holds : storage.Holds shelf) (slot : Slot) :
    storage.found? slot.key ≠ some .folder := by
  rw [holds.slots]
  cases shelf.content slot <;> nofun

/-- A folder that lists a file is there. -/
theorem Holds.isFolder (holds : storage.Holds shelf) {name : String} {entry : Files.Entry}
    (listed : storage.found? name = some entry) : storage.disk.IsFolder storage.folder :=
  holds.grounded _ _ (listed ▸ Option.some_ne_none entry)

/-- A path in the folder is missing when nothing is listed for it. -/
theorem Holds.isMissing (holds : storage.Holds shelf) {name : String}
    (absent : storage.found? name = none) : storage.disk.IsMissing (name :: storage.folder) := by
  rw [Disk.isMissing_cons]
  rcases holds.reachable with folder | missing
  · exact .inr ⟨folder, absent⟩
  · exact .inl missing

/-- One slot holds something else, and no folder was put where a draft is. -/
theorem Holds.put (holds : storage.Holds shelf) {after : SlotFolder} {slot : Slot}
    {value : Option String} (sound : after.disk.Grounded)
    (inside : after.disk.IsFolder after.folder)
    (slots : ∀ other : Slot, after.found? other.key =
      if other.key = slot.key then value.map fun text => .file text.toUTF8
      else storage.found? other.key)
    (drafts : ∀ other : Slot, after.found? other.draftName = none ∨
      after.found? other.draftName = storage.found? other.draftName) :
    after.Holds (shelf.put slot value) := by
  refine ⟨sound, .inl inside, fun other => ?_, fun other folder => ?_⟩
  · rw [slots, Shelf.content_put]
    by_cases same : other = slot
    · rw [if_pos (congrArg Slot.key same), if_pos same]
    · rw [if_neg (mt Slot.key_inj.mp same), if_neg same, holds.slots]
  · rcases drafts other with gone | kept
    · cases gone.symm.trans folder
    · exact holds.drafts other (kept.symm.trans folder)

/-! ### The calls -/

/-- **Getting** gives back what the shelf holds, and changes nothing. -/
theorem get_run (holds : storage.Holds shelf) (slot : Slot) :
    SlotFolder.get slot storage = (.ok (shelf.content slot), storage) := by
  have listed := holds.slots slot
  rw [SlotFolder.get]
  cases content : shelf.content slot with
  | none =>
    rw [content] at listed
    rw [slotPath, Disk.read_missing (holds.isMissing listed)]
  | some text =>
    rw [content] at listed
    rw [slotPath, Disk.read_file (holds.isFolder listed) listed]

/-- **Nothing is in the way of a text for a slot:** the folder is there or can be made, and no
folder stands where the draft or the slot is. -/
structure Accepts (storage : SlotFolder) (slot : Slot) : Prop where
  reachable : storage.disk.IsFolder storage.folder ∨ storage.disk.IsMissing storage.folder
  draft : storage.found? slot.draftName ≠ some .folder
  place : storage.found? slot.key ≠ some .folder

theorem Holds.accepts (holds : storage.Holds shelf) (slot : Slot) : storage.Accepts slot :=
  ⟨holds.reachable, holds.drafts slot, holds.slot_ne_folder slot⟩

/-- The folder is made, and what stands in it stays. -/
theorem makeFolders_folder (grounded : storage.disk.Grounded)
    (reachable : storage.disk.IsFolder storage.folder ∨ storage.disk.IsMissing storage.folder) :
    ∃ made, storage.disk.makeFolders storage.folder = .ok made ∧ made.Grounded ∧
      made.IsFolder storage.folder ∧
      ∀ name, made.entry? (name :: storage.folder) = storage.found? name := by
  obtain ⟨made, making, sound, others⟩ := Disk.makeFolders_spec grounded reachable
  refine ⟨made, making, sound, ?_, fun name => ?_⟩
  · rw [Disk.isFolder_iff]
    intro part suffix
    rw [others, if_pos suffix]
  · rw [others, if_neg (Disk.not_suffix_outer _ _), found?]

/-- **What setting changes in the folder** when nothing is in the way: the slot is there, its draft
is gone, and nothing else is different. -/
theorem set_accepted (grounded : storage.disk.Grounded) {slot : Slot}
    (accepts : storage.Accepts slot) (text : String) :
    ∃ disk, SlotFolder.set slot text storage = (.ok (), storage.onDisk disk) ∧ disk.Grounded ∧
      disk.IsFolder storage.folder ∧
      ∀ name, (storage.onDisk disk).found? name =
        if name = slot.key then some (.file text.toUTF8)
        else if name = slot.draftName then none
        else storage.found? name := by
  obtain ⟨made, making, sound, inside, same⟩ := makeFolders_folder grounded accepts.reachable
  obtain ⟨written, moved, writing, moving, soundMoved, insideMoved, entries⟩ :=
    Disk.replace_inside sound inside (Slot.key_ne_draftName slot slot)
      (same slot.draftName ▸ accepts.draft) (same slot.key ▸ accepts.place) text
  refine ⟨moved, ?_, soundMoved, insideMoved, fun name => ?_⟩
  · rw [SlotFolder.set, making, draftPath_eq, slotPath]
    simp only [writing, moving]
  · rw [found?, ← same]
    exact entries name

/-- Setting a slot of a folder that holds a shelf. -/
theorem set_run (holds : storage.Holds shelf) (slot : Slot) (text : String) :
    ∃ disk, SlotFolder.set slot text storage = (.ok (), storage.onDisk disk) ∧ disk.Grounded ∧
      disk.IsFolder storage.folder ∧
      ∀ name, (storage.onDisk disk).found? name =
        if name = slot.key then some (.file text.toUTF8)
        else if name = slot.draftName then none
        else storage.found? name :=
  set_accepted holds.grounded (holds.accepts slot) text

/-- **Setting** puts the text on the shelf. -/
theorem Holds.set (holds : storage.Holds shelf) (slot : Slot) (text : String) :
    (SlotFolder.set slot text storage).2.Holds (shelf.put slot (some text)) := by
  obtain ⟨disk, run, sound, inside, entries⟩ := set_run holds slot text
  rw [run]
  refine holds.put sound inside (fun other => ?_) fun other => ?_
  · rw [entries, if_neg (Slot.key_ne_draftName other slot)]
    rfl
  · rw [entries, if_neg (Slot.key_ne_draftName slot other).symm]
    by_cases same : other.draftName = slot.draftName
    · exact .inl (if_pos same)
    · exact .inr (if_neg same)

/-- **Emptying a slot** empties it on the shelf. -/
theorem remove_run (holds : storage.Holds shelf) (slot : Slot) :
    (SlotFolder.remove slot storage).1 = .ok () ∧
      (SlotFolder.remove slot storage).2.Holds (shelf.put slot none) := by
  have listed := holds.slots slot
  rw [SlotFolder.remove, slotPath]
  cases content : shelf.content slot with
  | none =>
    rw [content] at listed
    rw [Disk.remove_missing (holds.isMissing listed), ← content, Shelf.put_content]
    exact ⟨rfl, holds⟩
  | some text =>
    rw [content] at listed
    have inside := holds.isFolder listed
    have entries : ∀ name, (storage.onDisk (storage.disk.clear (slot.key :: storage.folder))).found?
        name = if name = slot.key then none else storage.found? name := fun name => by
      show Disk.entry? (storage.disk.clear _) (name :: storage.folder) = _
      rw [Disk.entry_clear]
      simp only [List.cons.injEq, and_true]
      rfl
    rw [Disk.remove_file inside listed]
    refine ⟨rfl, holds.put (holds.grounded.clear fun folder => ?_)
      (inside.clear (Disk.not_suffix_outer _ _)) (fun other => entries other.key) fun other => ?_⟩
    · cases listed.symm.trans folder
    · rw [entries, if_neg (Slot.key_ne_draftName slot other).symm]
      exact .inr rfl

end SlotFolder

/-! ### Runs -/

namespace SlotCall

variable {σ : Type} [Storage σ]

/-- **What a call answers:** the text that was got, if there is one, or that all went well. -/
def answer (storage : σ) : SlotCall → Except StorageFault (Option String)
  | get slot => (Storage.get slot storage).1
  | set slot text => (Storage.set slot text storage).1.map fun _ => none
  | remove slot => (Storage.remove slot storage).1.map fun _ => none

/-- **What calls answer** that are made one after the other. -/
def answers (storage : σ) : List SlotCall → List (Except StorageFault (Option String))
  | [] => []
  | call :: rest => call.answer storage :: answers (call.make storage).2 rest

/-- No call to a shelf fails. -/
theorem isOk_answers_shelf (shelf : Shelf) (calls : List SlotCall) :
    ∀ answer ∈ answers shelf calls, answer.isOk = true := by
  induction calls generalizing shelf with
  | nil => nofun
  | cons call rest ih =>
    rw [answers]
    rintro answer (_ | ⟨_, later⟩)
    · cases call <;> rfl
    · exact ih _ answer later

end SlotCall

namespace SlotFolder

variable {storage : SlotFolder} {shelf : Shelf}

/-- **One call to a folder and to its shelf:** the answers are the same, and the folder holds what
is on the shelf then. -/
theorem Holds.call (holds : storage.Holds shelf) (call : SlotCall) :
    call.answer storage = call.answer shelf ∧
      (call.make storage).2.Holds (call.make shelf).2 := by
  cases call with
  | get slot =>
    have run := get_run holds slot
    refine ⟨congrArg Prod.fst run, ?_⟩
    show (SlotFolder.get slot storage).2.Holds shelf
    rw [run]
    exact holds
  | set slot text =>
    obtain ⟨disk, run, -⟩ := set_run holds slot text
    refine ⟨?_, holds.set slot text⟩
    show (SlotFolder.set slot text storage).1.map _ = _
    rw [run]
    rfl
  | remove slot =>
    obtain ⟨done, after⟩ := remove_run holds slot
    refine ⟨?_, after⟩
    show (SlotFolder.remove slot storage).1.map _ = _
    rw [done]
    rfl

/-- **A run of calls to a folder and to its shelf.** -/
theorem Holds.calls (holds : storage.Holds shelf) (calls : List SlotCall) :
    SlotCall.answers storage calls = SlotCall.answers shelf calls ∧
      (SlotCall.makeAll storage calls).2.Holds (SlotCall.makeAll shelf calls).2 := by
  induction calls generalizing storage shelf with
  | nil => exact ⟨rfl, holds⟩
  | cons call rest ih =>
    obtain ⟨same, after⟩ := holds.call call
    obtain ⟨sameRest, afterAll⟩ := ih after
    refine ⟨?_, afterAll⟩
    rw [SlotCall.answers, SlotCall.answers, same, sameRest]

/-- **What the folder lists after a text was put into a slot:** no draft of the slot, and the slots
that hold something. -/
theorem Holds.names_set (holds : storage.Holds shelf) (slot : Slot) (text : String) :
    ∃ listed, (SlotFolder.set slot text storage).2.names = .ok listed ∧
      slot.draftName ∉ listed ∧
      ∀ other : Slot, other.key ∈ listed ↔
        ((shelf.put slot (some text)).content other).isSome = true := by
  have after := holds.set slot text
  obtain ⟨disk, run, -, inside, entries⟩ := set_run holds slot text
  rw [run] at after ⊢
  obtain ⟨listed, listing, names⟩ := Disk.names_inside inside
  refine ⟨listed, listing, fun draft => ?_, fun other => ?_⟩
  · refine (names _).mp draft ?_
    show (storage.onDisk disk).found? slot.draftName = none
    rw [entries, if_neg (Slot.key_ne_draftName slot slot).symm, if_pos rfl]
  · rw [names]
    show (storage.onDisk disk).found? other.key ≠ none ↔ _
    rw [after.slots, Option.ne_none_iff_isSome, Option.isSome_map]

/-! ### From the start -/

/-- **A folder without slots:** it is missing and can be made, or it is there and holds no slot, and
no folder stands where a draft is written. Files may be there, such as drafts that were left behind,
with any bytes in them. -/
structure Fresh (storage : SlotFolder) : Prop where
  grounded : storage.disk.Grounded
  reachable : storage.disk.IsFolder storage.folder ∨ storage.disk.IsMissing storage.folder
  empty : ∀ slot : Slot, storage.found? slot.key = none
  drafts : ∀ slot : Slot, storage.found? slot.draftName ≠ some .folder

/-- A folder without slots is an empty shelf. -/
theorem Fresh.holds (fresh : storage.Fresh) : storage.Holds {} :=
  ⟨fresh.grounded, fresh.reachable, fresh.empty, fresh.drafts⟩

/-- **A folder without slots is as good as a shelf.** All calls answer what the calls to an empty
shelf do, and none fails. What else is in the folder at the start makes no difference, so drafts
that were left behind are not read. And once a text was put into a slot, the folder lists no draft
of that slot, and it lists the slots that hold something. -/
theorem answers_eq_shelf (fresh : storage.Fresh) (calls : List SlotCall) :
    SlotCall.answers storage calls = SlotCall.answers ({} : Shelf) calls ∧
      (∀ answer ∈ SlotCall.answers storage calls, answer.isOk = true) ∧
      (∀ other : SlotFolder, other.Fresh →
        SlotCall.answers other calls = SlotCall.answers storage calls) ∧
      ∀ slot text,
        let after := calls ++ [.set slot text]
        ∃ listed, (SlotCall.makeAll storage after).2.names = .ok listed ∧
          slot.draftName ∉ listed ∧
          ∀ other : Slot, other.key ∈ listed ↔
            ((SlotCall.makeAll ({} : Shelf) after).2.content other).isSome = true := by
  obtain ⟨same, holds⟩ := fresh.holds.calls calls
  refine ⟨same, ?_, fun other otherFresh => ?_, fun slot text => ?_⟩
  · rw [same]
    exact SlotCall.isOk_answers_shelf {} calls
  · rw [same]
    exact (otherFresh.holds.calls calls).1
  · simp only [SlotCall.makeAll_concat]
    exact holds.names_set slot text

/-- A folder in which a draft was left behind that is not even text. -/
def withStaleDraft : SlotFolder where
  disk := ⟨[(["data"], .folder), ([".bpmn-diagram.tmp", "data"], .file ⟨#[0xff]⟩)]⟩
  folder := ["data"]

theorem fresh_withStaleDraft : withStaleDraft.Fresh where
  grounded := Disk.grounded_of_entries
    (List.forall_mem_cons.mpr ⟨rfl, List.forall_mem_singleton.mpr rfl⟩)
  reachable := .inl rfl
  empty := fun slot => by cases slot <;> decide
  drafts := fun slot => by cases slot <;> decide

theorem answers_eq_shelf_withStaleDraft :
    withStaleDraft.Fresh ∧
      SlotCall.answers withStaleDraft [.get .diagram, .set .diagram "ä", .get .diagram,
        .get .pending, .remove .diagram, .get .diagram] =
        [.ok none, .ok none, .ok (some "ä"), .ok none, .ok none, .ok none] :=
  ⟨fresh_withStaleDraft, (answers_eq_shelf fresh_withStaleDraft _).1.trans rfl⟩

end SlotFolder

end LaneChart
