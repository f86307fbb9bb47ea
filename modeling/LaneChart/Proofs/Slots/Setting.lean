/-
**A text is put into a slot, or every slot is read as before.** Setting takes three calls to the
disk: the folder is made, the draft is written, and the draft takes the place of the slot. Each of
them can fail when the ones before it have changed the disk. What they change is never where a slot
is read, until the last one succeeds.

* `Disk.read_made`: what is read in a folder that was made, as before it was made.
* `Disk.write_folder`, `Disk.replace_folder`: a draft that cannot be written because a folder is in
  the way, and one that cannot take the place of a folder.
* `SlotFolder.set_refused`: a text for a slot that is not accepted leaves all slots as they were
  read.
* `SlotFolder.set_whole_or_nothing`: both ways in which setting can end, and when it succeeds.
-/

import LaneChart.Proofs.Slots.Folder

namespace LaneChart

/-! ### The calls to the disk -/

namespace Files.Disk

variable {disk : Disk} {outer : Path} {name : String}

/-- What is read at a path depends on what it leads to. -/
theorem read_congr {other : Disk} {path : Path} (same : other.reach path = disk.reach path) :
    other.read path = disk.read path := by
  rw [read, read, same]

/-- A folder that could be made is there, or nothing is in its way. -/
theorem reachable_of_makeFolders {made : Disk} {path : Path}
    (making : disk.makeFolders path = .ok made) : disk.IsFolder path ∨ disk.IsMissing path := by
  cases path with
  | nil => exact .inl rfl
  | cons name outer =>
    rw [makeFolders] at making
    split at making
    · exact .inl ‹_›
    · cases making
    · exact .inr (.inl ‹_›)
    · exact .inr (.inr ‹_›)
    · cases making

/-- **Making a folder makes no difference to what is read in it.** If it was missing, nothing was
there before and nothing is there now. -/
theorem read_made (grounded : disk.Grounded)
    (reachable : disk.IsFolder outer ∨ disk.IsMissing outer)
    {made : Disk} (inside : made.IsFolder outer)
    (same : made.entry? (name :: outer) = disk.entry? (name :: outer)) :
    made.read (name :: outer) = disk.read (name :: outer) := by
  rcases reachable with folder | missing
  · refine read_congr ?_
    rw [reach_inside inside, reach_inside folder, same]
  · have absent : made.entry? (name :: outer) = none :=
      same.trans (grounded.entry_of_isMissing missing name)
    rw [read_missing ((isMissing_cons _ _ _).mpr (.inl missing)),
      read_missing ((isMissing_cons _ _ _).mpr (.inr ⟨inside, absent⟩))]

/-- Nothing is written where a folder is. -/
theorem write_folder (inside : disk.IsFolder outer)
    (taken : disk.entry? (name :: outer) = some .folder) (text : String) :
    disk.write (name :: outer) text = .error .isAFolder := by
  rw [write, reach_inside inside, taken]
  rfl

/-- **A draft that cannot take the place of a folder** stays, and nothing else in the folder around
them is different. -/
theorem replace_folder (grounded : disk.Grounded) (inside : disk.IsFolder outer)
    {draft target : String} (apart : target ≠ draft)
    (draftFree : disk.entry? (draft :: outer) ≠ some .folder)
    (taken : disk.entry? (target :: outer) = some .folder) (text : String) :
    ∃ written, disk.write (draft :: outer) text = .ok written ∧
      written.rename (draft :: outer) (target :: outer) = .error .isAFolder ∧
      written.Grounded ∧ written.IsFolder outer ∧
      ∀ name, name ≠ draft → written.entry? (name :: outer) = disk.entry? (name :: outer) := by
  let written := disk.put (draft :: outer) (.file text.toUTF8)
  have insideWritten : written.IsFolder outer :=
    inside.put fun suffix => absurd suffix (not_suffix_outer _ _)
  have others : ∀ name, name ≠ draft →
      written.entry? (name :: outer) = disk.entry? (name :: outer) := fun name other => by
    rw [entry_put, if_neg fun is => other (List.cons.inj is).1]
  have there : written.entry? (draft :: outer) = some (.file text.toUTF8) := by
    rw [entry_put, if_pos rfl]
  refine ⟨written, write_inside inside draftFree text, ?_,
    grounded.put inside fun folder => absurd folder draftFree, insideWritten, others⟩
  rw [rename, reach_inside insideWritten, reach_inside insideWritten, there, others target apart,
    taken]
  rfl

end Files.Disk

open Files (Disk)

namespace SlotFolder

variable {storage : SlotFolder}

/-! ### What is got -/

/-- What getting gives back depends on what is read where the slot is. -/
theorem get_onDisk {disk : Disk} {slot : Slot}
    (same : disk.read (storage.slotPath slot) = storage.disk.read (storage.slotPath slot)) :
    (SlotFolder.get slot (storage.onDisk disk)).1 = (SlotFolder.get slot storage).1 := by
  have read : (storage.onDisk disk).disk.read ((storage.onDisk disk).slotPath slot) =
      storage.disk.read (storage.slotPath slot) := same
  rw [SlotFolder.get, SlotFolder.get, read]
  split <;> rfl

/-- A slot that holds the bytes of a text gives it back. -/
theorem get_text (inside : storage.disk.IsFolder storage.folder) {slot : Slot} {text : String}
    (here : storage.found? slot.key = some (.file text.toUTF8)) :
    (SlotFolder.get slot storage).1 = .ok (some text) := by
  rw [SlotFolder.get, slotPath, Disk.read_file inside here]

/-! ### A text that is not accepted -/

/-- **A text that is not accepted leaves all slots as they were read,** wherever it is stopped: the
folder cannot be made, the draft cannot be written, or it cannot take the place of the slot. -/
theorem set_refused (grounded : storage.disk.Grounded) {slot : Slot}
    (refused : ¬ storage.Accepts slot) (text : String) :
    ∃ fault disk, SlotFolder.set slot text storage = (.error fault, storage.onDisk disk) ∧
      disk.Grounded ∧ ∀ other : Slot,
        disk.read (storage.slotPath other) = storage.disk.read (storage.slotPath other) := by
  cases making : storage.disk.makeFolders storage.folder with
  | error fault =>
    refine ⟨.disk fault, storage.disk, ?_, grounded, fun other => rfl⟩
    rw [SlotFolder.set, making]
    rfl
  | ok made =>
    have reachable := Disk.reachable_of_makeFolders making
    obtain ⟨made', making', sound, inside, same⟩ := makeFolders_folder grounded reachable
    cases making.symm.trans making'
    have readMade : ∀ name, made.read (name :: storage.folder) =
        storage.disk.read (name :: storage.folder) := fun name =>
      Disk.read_made grounded reachable inside (same name)
    by_cases draftTaken : storage.found? slot.draftName = some .folder
    · have writing := Disk.write_folder inside ((same slot.draftName).trans draftTaken) text
      refine ⟨.disk .isAFolder, made, ?_, sound, fun other => readMade other.key⟩
      rw [SlotFolder.set, making, draftPath_eq]
      simp only [writing]
    · have slotTaken : storage.found? slot.key = some .folder := by
        by_contra free
        exact refused ⟨reachable, draftTaken, free⟩
      obtain ⟨written, writing, moving, soundWritten, insideWritten, others⟩ :=
        Disk.replace_folder sound inside (Slot.key_ne_draftName slot slot)
          (same slot.draftName ▸ draftTaken) (same slot.key ▸ slotTaken) text
      refine ⟨.disk .isAFolder, written, ?_, soundWritten, fun other => ?_⟩
      · rw [SlotFolder.set, making, draftPath_eq, slotPath]
        simp only [writing, moving]
      · -- Only the draft is different, and no slot is read there.
        refine Eq.trans (Disk.read_congr ?_) (readMade other.key)
        rw [slotPath, Disk.reach_inside insideWritten, Disk.reach_inside inside,
          others _ (Slot.key_ne_draftName other slot)]

/-! ### Both ways -/

/-- **A text is put into a slot, or every slot is read as before.** Whatever is on the disk, if
setting a slot fails then getting any slot gives back what it gave back before, be it a text,
nothing or a fault. If it succeeds then getting the slot gives back the text, and getting any other
slot what it gave back before. It succeeds exactly when nothing is in the way, and the disk makes
sense afterwards in any case. -/
theorem set_whole_or_nothing (grounded : storage.disk.Grounded) (slot : Slot) (text : String) :
    let result := (SlotFolder.set slot text storage).1
    let after := (SlotFolder.set slot text storage).2
    (∀ fault, result = .error fault → ∀ other,
      (SlotFolder.get other after).1 = (SlotFolder.get other storage).1) ∧
    (result = .ok () → (SlotFolder.get slot after).1 = .ok (some text) ∧
      ∀ other, other ≠ slot →
        (SlotFolder.get other after).1 = (SlotFolder.get other storage).1) ∧
    (result = .ok () ↔ storage.Accepts slot) ∧ after.disk.Grounded := by
  intro result after
  by_cases accepts : storage.Accepts slot
  · obtain ⟨disk, run, sound, inside, entries⟩ := set_accepted grounded accepts text
    have done : result = .ok () := congrArg Prod.fst run
    have shape : after = storage.onDisk disk := congrArg Prod.snd run
    rw [shape]
    refine ⟨fun fault failed => ?_, fun _ => ⟨get_text inside ?_, fun other apart => ?_⟩,
      iff_of_true done accepts, sound⟩
    · rw [done] at failed
      cases failed
    · rw [entries, if_pos rfl]
    · refine get_onDisk (Disk.read_made grounded accepts.reachable inside ?_)
      show (storage.onDisk disk).found? other.key = storage.found? other.key
      rw [entries, if_neg (mt Slot.key_inj.mp apart), if_neg (Slot.key_ne_draftName other slot)]
  · obtain ⟨fault, disk, run, sound, same⟩ := set_refused grounded accepts text
    have failed : result = .error fault := congrArg Prod.fst run
    have shape : after = storage.onDisk disk := congrArg Prod.snd run
    have notDone : result ≠ .ok () := by
      rw [failed]
      exact nofun
    rw [shape]
    exact ⟨fun _ _ other => get_onDisk (same other), fun done => absurd done notDone,
      iff_of_false notDone accepts, sound⟩

/-- A folder in which a folder stands where the document is kept, beside a plan that waits and a
time that is not even text. -/
def withBlockedSlot : SlotFolder where
  disk := ⟨[(["data"], .folder), (["bpmn-diagram", "data"], .folder),
    (["bpmn-current-diagram", "data"], .file "{}".toUTF8),
    (["bpmn-diagram-timestamp", "data"], .file ⟨#[0xff]⟩)]⟩
  folder := ["data"]

/-- There the document cannot be set, which leaves its draft behind, and the other slots can. -/
theorem set_whole_or_nothing_blocked :
    withBlockedSlot.disk.Grounded ∧
      (SlotFolder.set .diagram "<a/>" withBlockedSlot).1 = .error (.disk .isAFolder) ∧
      (SlotFolder.set .diagram "<a/>" withBlockedSlot).2 ≠ withBlockedSlot ∧
      (SlotFolder.get .pending (SlotFolder.set .diagram "<a/>" withBlockedSlot).2).1 =
        .ok (some "{}") ∧
      (SlotFolder.get .timestamp (SlotFolder.set .timestamp "now" withBlockedSlot).2).1 =
        .ok (some "now") := by
  have grounded : withBlockedSlot.disk.Grounded := by
    refine Disk.grounded_of_entries ?_
    simp only [withBlockedSlot, List.forall_mem_cons]
    exact ⟨rfl, rfl, rfl, rfl, List.forall_mem_nil _⟩
  have failed : (SlotFolder.set .diagram "<a/>" withBlockedSlot).1 = .error (.disk .isAFolder) :=
    rfl
  have kept := (set_whole_or_nothing grounded .diagram "<a/>").1 _ failed .pending
  have put := (set_whole_or_nothing grounded .timestamp "now").2.1 rfl
  exact ⟨grounded, failed, by decide, kept.trans rfl, put.1⟩

end SlotFolder

end LaneChart
