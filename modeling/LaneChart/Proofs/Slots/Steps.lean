/-
**Two who put a text into the same slot.** Putting a text into a slot takes four steps: the folder
is made, the draft is opened, which empties it, the text is written into the open file, and the
draft is moved to the slot. Two who do so at the same time open the same draft. An open file is
written to wherever it was moved meanwhile.

* `SlotFolder.next`: the next step. `SlotFolder.next_eq_set`: without an interruption, the four
  steps are `SlotFolder.set`.
* `Race`, `Race.turn`, `Race.run`: the disk that two share and how far each of them is, a step of
  one of them or a look into the slot, and a row of these.
* `View`, `Race.Shows`: what matters of a race are two files; `Race.Shows.run`: it is enough to look
  at them.
-/

import LaneChart.Proofs.Slots.Folder
import Mathlib.Logic.Function.Basic

namespace LaneChart

open Files (Disk Path)

/-! ### Files that are written to -/

namespace Files

/-- What a file holds after a text was written over its beginning. -/
def overlay (text old : ByteArray) : ByteArray := text ++ old.extract text.size old.size

theorem overlay_empty (text : ByteArray) : overlay text .empty = text := by
  rw [overlay, ByteArray.extract_eq_empty_iff.mpr (by simp), ByteArray.append_empty]

namespace Disk

/-- Writes a text over the beginning of the file at a path. -/
def overwrite (disk : Disk) (path : Path) (text : String) : Disk :=
  match disk.entry? path with
  | some (.file content) => disk.put path (.file (overlay text.toUTF8 content))
  | _ => disk

theorem put_put (disk : Disk) (path : Path) (first second : Entry) :
    (disk.put path first).put path second = disk.put path second := by
  simp [put, List.filter_filter]

/-- **To write a text** is to open the file and to write into it. -/
theorem write_eq_overwrite (disk : Disk) (name : String) (outer : Path) (text : String) :
    disk.write (name :: outer) text =
      (disk.write (name :: outer) "").map (·.overwrite (name :: outer) text) := by
  have stores (stored : ∀ text, disk.write (name :: outer) text =
      .ok (disk.put (name :: outer) (.file text.toUTF8))) : disk.write (name :: outer) text =
        (disk.write (name :: outer) "").map (·.overwrite (name :: outer) text) := by
    have empty : entry? (disk.put (name :: outer) (.file "".toUTF8)) (name :: outer) =
        some (.file .empty) := by rw [entry_put, if_pos rfl]; rfl
    rw [stored, stored]
    simp only [Except.map, overwrite, empty, put_put, overlay_empty]
  cases reached : disk.reach (name :: outer) with
  | error fault =>
    rw [write, write, reached]
    rfl
  | ok found =>
    cases found with
    | none => exact stores fun text => by rw [write, reached]; rfl
    | some entry =>
      cases entry with
      | folder =>
        rw [write, write, reached]
        rfl
      | file content => exact stores fun text => by rw [write, reached]; rfl

end Disk

end Files

/-! ### The steps -/

/-- **Who puts a text into the slot.** -/
inductive Writer where
  | desk
  | editor
deriving DecidableEq, Repr

/-- The other one. -/
def Writer.other : Writer → Writer
  | desk => editor
  | editor => desk

/-- **How far a writer is.** An open file is known by where it is. -/
inductive Progress (File : Type) where
  | toMake
  | toOpen
  | toWrite (file : File)
  | toMove
  | ended (result : Except StorageFault Unit)

/-- The same progress where files are known in another way. -/
def Progress.map {File Other : Type} (place : File → Other) : Progress File → Progress Other
  | toMake => .toMake
  | toOpen => .toOpen
  | toWrite file => .toWrite (place file)
  | toMove => .toMove
  | ended result => .ended result

namespace Progress

theorem map_id {File : Type} (progress : Progress File) : progress.map id = progress := by
  cases progress <;> rfl

theorem map_map {File Other Third : Type} (first : File → Other) (second : Other → Third)
    (progress : Progress File) :
    (progress.map first).map second = progress.map (second ∘ first) := by
  cases progress <;> rfl

end Progress

namespace SlotFolder

/-- **The next step of a writer,** and how far it is then. A step that fails is the last one. -/
def next (slot : Slot) (text : String) (storage : SlotFolder) :
    Progress (Option Path) → SlotFolder × Progress (Option Path)
  | .toMake =>
    match storage.disk.makeFolders storage.folder with
    | .error fault => (storage, .ended (.error (.disk fault)))
    | .ok made => (storage.onDisk made, .toOpen)
  | .toOpen =>
    match storage.disk.write (storage.draftPath slot) "" with
    | .error fault => (storage, .ended (.error (.disk fault)))
    | .ok opened => (storage.onDisk opened, .toWrite (some (storage.draftPath slot)))
  | .toWrite none => (storage, .toMove)
  | .toWrite (some path) => (storage.onDisk (storage.disk.overwrite path text), .toMove)
  | .toMove =>
    match storage.disk.rename (storage.draftPath slot) (storage.slotPath slot) with
    | .error fault => (storage, .ended (.error (.disk fault)))
    | .ok moved => (storage.onDisk moved, .ended (.ok ()))
  | .ended result => (storage, .ended result)

/-- **The steps of a writer who is not interrupted** are putting the text into the slot. -/
theorem next_eq_set (slot : Slot) (text : String) (storage : SlotFolder) :
    let step := fun (storage, progress) => next slot text storage progress
    step (step (step (step (storage, .toMake)))) =
      ((set slot text storage).2, .ended (set slot text storage).1) := by
  intro step
  simp only [step, next, set]
  cases storage.disk.makeFolders storage.folder with
  | error fault => rfl
  | ok made =>
    have wholly := Disk.write_eq_overwrite made slot.draftName storage.folder text
    have draft : (storage.onDisk made).draftPath slot = slot.draftName :: storage.folder := rfl
    have disk : (storage.onDisk made).disk = made := rfl
    simp only [draftPath_eq storage, draft, disk, wholly]
    cases made.write (slot.draftName :: storage.folder) "" with
    | error fault => rfl
    | ok opened =>
      simp only [Except.map]
      show next slot text
        (storage.onDisk (opened.overwrite (slot.draftName :: storage.folder) text)) .toMove = _
      rw [next]
      show (match (opened.overwrite (slot.draftName :: storage.folder) text).rename
        (slot.draftName :: storage.folder) (storage.slotPath slot) with
        | .error fault => _
        | .ok moved => _) = _
      cases (opened.overwrite (slot.draftName :: storage.folder) text).rename
        (slot.draftName :: storage.folder) (storage.slotPath slot) <;> rfl

end SlotFolder

/-! ### Two writers -/

/-- **A disk that two share.** -/
structure Race where
  storage : SlotFolder
  progress : Writer → Progress (Option Path) := fun _ => .toMake
  /-- what was read from the slot -/
  answers : List (Except StorageFault (Option String)) := []

/-- A step of a writer, or a look into the slot. -/
inductive Turn where
  | step (writer : Writer)
  | get
deriving DecidableEq, Repr

namespace Race

/-- Where an open file is when one was moved. The file that was replaced is nowhere. -/
def movedPath (source target : Path) (file : Option Path) : Option Path :=
  if file = some source then some target else if file = some target then none else file

variable (slot : Slot) (texts : Writer → String)

/-- **A step of a writer.** When it moves a file, then the other one has it open where it is. -/
def advance (writer : Writer) (race : Race) : Race :=
  let (storage, after) := race.storage.next slot (texts writer) (race.progress writer)
  let follow := match race.progress writer, after with
    | .toMove, .ended (.ok _) =>
      movedPath (race.storage.draftPath slot) (race.storage.slotPath slot)
    | _, _ => id
  { race with
    storage := storage
    progress := Function.update (fun other => (race.progress other).map follow) writer after }

/-- **What happens next.** -/
def turn (race : Race) : Turn → Race
  | .step writer => race.advance slot texts writer
  | .get =>
    let (answer, storage) := SlotFolder.get slot race.storage
    { race with storage := storage, answers := race.answers ++ [answer] }

/-- **One thing after the other.** -/
def run (race : Race) (schedule : List Turn) : Race := schedule.foldl (turn slot texts) race

end Race

/-! ### What matters of it -/

/-- **Where an open file is.** -/
inductive Place where
  | draft
  | slot
  | nowhere
deriving DecidableEq, Repr

namespace Place

/-- Where it is when the draft was moved to the slot. -/
def moved : Place → Place
  | .draft => .slot
  | .slot => .nowhere
  | .nowhere => .nowhere

/-- Its path. -/
def path? (storage : SlotFolder) (slot : Slot) : Place → Option Path
  | .draft => some (storage.draftPath slot)
  | .slot => some (storage.slotPath slot)
  | .nowhere => none

theorem path_moved (storage : SlotFolder) (slot : Slot) (place : Place) :
    Race.movedPath (storage.draftPath slot) (storage.slotPath slot) (place.path? storage slot) =
      place.moved.path? storage slot := by
  have apart : storage.slotPath slot ≠ storage.draftPath slot := fun same =>
    Slot.key_ne_draftName slot slot (List.cons.inj same).1
  cases place <;> simp [Race.movedPath, path?, moved, apart]

end Place

/-- **What matters of a race:** the files of the slot and of its draft. -/
structure View where
  slot : Option ByteArray
  draft : Option ByteArray
  progress : Writer → Progress Place := fun _ => .toMake
  /-- what was in the slot when it was read -/
  seen : List (Option ByteArray) := []

namespace View

/-- The view after a step of a writer. -/
def goOn (view : View) (writer : Writer) (next : Progress Place) : View :=
  { view with progress := Function.update view.progress writer next }

variable (texts : Writer → ByteArray)

/-- **A step of a writer.** -/
def advance (writer : Writer) (view : View) : View :=
  match view.progress writer with
  | .toMake => view.goOn writer .toOpen
  | .toOpen => { view with draft := some .empty }.goOn writer (.toWrite .draft)
  | .toWrite .draft =>
    { view with draft := view.draft.map (Files.overlay (texts writer)) }.goOn writer .toMove
  | .toWrite .slot =>
    { view with slot := view.slot.map (Files.overlay (texts writer)) }.goOn writer .toMove
  | .toWrite .nowhere => view.goOn writer .toMove
  | .toMove =>
    match view.draft with
    | none => view.goOn writer (.ended (.error (.disk .notFound)))
    | some content =>
      { view with
        slot := some content
        draft := none
        progress := fun other => (view.progress other).map Place.moved }.goOn writer
          (.ended (.ok ()))
  | .ended _ => view

/-- **What happens next.** -/
def turn (view : View) : Turn → View
  | .step writer => view.advance texts writer
  | .get => { view with seen := view.seen ++ [view.slot] }

/-- **One thing after the other.** -/
def run (view : View) (schedule : List Turn) : View := schedule.foldl (turn texts) view

end View

/-- What is read from a file. -/
def readBack : Option ByteArray → Except StorageFault (Option String)
  | none => .ok none
  | some content =>
    match String.fromUTF8? content with
    | some text => .ok (some text)
    | none => .error (.disk .notText)

namespace Race

/-- **A view shows a race:** the two files are those in the folder, and the writers are as far. -/
structure Shows (slot : Slot) (race : Race) (view : View) : Prop where
  grounded : race.storage.disk.Grounded
  reachable : race.storage.disk.IsFolder race.storage.folder ∨
    race.storage.disk.IsMissing race.storage.folder
  made : ∀ writer, view.progress writer ≠ .toMake → race.storage.disk.IsFolder race.storage.folder
  slotFile : race.storage.found? slot.key = view.slot.map .file
  draftFile : race.storage.found? slot.draftName = view.draft.map .file
  progress : ∀ writer, race.progress writer =
    (view.progress writer).map (Place.path? race.storage slot)
  answers : race.answers = view.seen.map readBack

variable {slot : Slot} {texts : Writer → String} {race : Race} {view : View} {writer : Writer}

/-- A step that is not the last one moves no file. -/
theorem advance_stays (early : race.progress writer ≠ .toMove) :
    race.advance slot texts writer = { race with
      storage := (race.storage.next slot (texts writer) (race.progress writer)).1
      progress := Function.update race.progress writer
        (race.storage.next slot (texts writer) (race.progress writer)).2 } := by
  have follow : (match race.progress writer,
      (race.storage.next slot (texts writer) (race.progress writer)).2 with
    | .toMove, .ended (.ok _) =>
      movedPath (race.storage.draftPath slot) (race.storage.slotPath slot)
    | _, _ => id) = id := by
    cases due : race.progress writer <;> first | rfl | exact absurd due early
  rw [advance]
  simp only [follow, Progress.map_id]

/-- The parts of a view after a step. -/
theorem Shows.step (shows : Shows slot race view) {disk : Disk} {after : View}
    {racing : Writer → Progress (Option Path)} (sound : disk.Grounded)
    (inside : disk.IsFolder race.storage.folder)
    (slotFile : (race.storage.onDisk disk).found? slot.key = after.slot.map .file)
    (draftFile : (race.storage.onDisk disk).found? slot.draftName = after.draft.map .file)
    (progress : ∀ writer, racing writer =
      (after.progress writer).map (Place.path? race.storage slot))
    (seen : after.seen = view.seen) :
    Shows slot { race with storage := race.storage.onDisk disk, progress := racing } after where
  grounded := sound
  reachable := .inl inside
  made _ _ := inside
  slotFile := slotFile
  draftFile := draftFile
  progress := progress
  answers := shows.answers.trans (congrArg _ seen.symm)

theorem map_update (storage : SlotFolder) (view : View) (next : Progress Place)
    (writer other : Writer) :
    (Function.update view.progress writer next other).map (Place.path? storage slot) =
      Function.update (fun other => (view.progress other).map (Place.path? storage slot)) writer
        (next.map (Place.path? storage slot)) other :=
  Function.apply_update (fun _ => Progress.map (Place.path? storage slot)) _ _ _ _

/-- What stands in the folder when a file was put there. -/
theorem found_put (storage : SlotFolder) (name other : String) (content : ByteArray) :
    (storage.onDisk (storage.disk.put (name :: storage.folder) (.file content))).found? other =
      if other = name then some (.file content) else storage.found? other := by
  show Disk.entry? (storage.disk.put _ _) (other :: storage.folder) = _
  rw [Disk.entry_put]
  simp only [List.cons.injEq, and_true]
  rfl

/-- **Making the folder** changes nothing in it. -/
theorem Shows.make (shows : Shows slot race view) (due : view.progress writer = .toMake) :
    Shows slot (race.advance slot texts writer) (view.goOn writer .toOpen) := by
  have here : race.progress writer = .toMake := (shows.progress writer).trans (by rw [due]; rfl)
  obtain ⟨made, making, sound, others⟩ := Disk.makeFolders_spec shows.grounded shows.reachable
  have inside : made.IsFolder race.storage.folder := by
    rw [Disk.isFolder_iff]
    intro part suffix
    rw [others, if_pos suffix]
  have same : ∀ name, (race.storage.onDisk made).found? name = race.storage.found? name := by
    intro name
    exact (others _).trans (if_neg (Disk.not_suffix_outer _ _))
  rw [advance_stays (by rw [here]; nofun)]
  simp only [here, SlotFolder.next, making]
  refine shows.step sound inside ((same _).trans shows.slotFile) ((same _).trans shows.draftFile)
    (fun other => ?_) rfl
  rw [View.goOn, map_update, funext shows.progress]
  rfl

/-- **Opening the draft** empties it. -/
theorem Shows.openDraft (shows : Shows slot race view) (due : view.progress writer = .toOpen) :
    Shows slot (race.advance slot texts writer)
      ({ view with draft := some .empty }.goOn writer (.toWrite .draft)) := by
  have here : race.progress writer = .toOpen := (shows.progress writer).trans (by rw [due]; rfl)
  have inside := shows.made writer (by rw [due]; nofun)
  have free : race.storage.disk.entry? (slot.draftName :: race.storage.folder) ≠ some .folder := by
    intro folder
    have listed := shows.draftFile.symm.trans folder
    cases found : view.draft <;> rw [found] at listed <;> cases listed
  have opened := Disk.write_inside inside free ""
  rw [advance_stays (by rw [here]; nofun)]
  simp only [here, SlotFolder.next, SlotFolder.draftPath_eq, opened]
  refine shows.step (shows.grounded.put inside fun folder => absurd folder free)
    (inside.put fun suffix => absurd suffix (Disk.not_suffix_outer _ _)) ?_ ?_ (fun other => ?_) rfl
  · rw [found_put, if_neg (Slot.key_ne_draftName slot slot)]
    exact shows.slotFile
  · rw [found_put, if_pos rfl]
    rfl
  · rw [View.goOn, map_update, funext shows.progress]
    rfl

/-- **A file that is written to** is there already, or nothing happens. -/
theorem overwrite_spec {storage : SlotFolder} (sound : storage.disk.Grounded)
    (inside : storage.disk.IsFolder storage.folder) {name : String} {content : Option ByteArray}
    (here : storage.found? name = content.map .file) (text : String) :
    let after := storage.disk.overwrite (name :: storage.folder) text
    after.Grounded ∧ after.IsFolder storage.folder ∧ ∀ other,
      (storage.onDisk after).found? other =
        if other = name then (content.map (Files.overlay text.toUTF8)).map .file
        else storage.found? other := by
  intro after
  have listed : storage.disk.entry? (name :: storage.folder) = content.map .file := here
  cases content with
  | none =>
    have same : after = storage.disk := by
      simp only [after, Disk.overwrite, listed, Option.map_none]
    rw [same]
    refine ⟨sound, inside, fun other => ?_⟩
    split
    · rename_i isName
      rw [isName]
      exact here
    · rfl
  | some old =>
    have put : after = storage.disk.put (name :: storage.folder)
        (.file (Files.overlay text.toUTF8 old)) := by
      simp only [after, Disk.overwrite, listed, Option.map_some]
    rw [put]
    exact ⟨sound.put inside fun folder => (nomatch listed.symm.trans folder),
      inside.put fun suffix => absurd suffix (Disk.not_suffix_outer _ _),
      fun other => found_put storage name other _⟩

/-- **Writing** changes the file that is open, wherever it is. -/
theorem Shows.write (shows : Shows slot race view) {place : Place}
    (due : view.progress writer = .toWrite place) :
    Shows slot (race.advance slot texts writer)
      (view.advance (fun writer => (texts writer).toUTF8) writer) := by
  have here : race.progress writer = .toWrite (place.path? race.storage slot) :=
    (shows.progress writer).trans (by rw [due]; rfl)
  have inside := shows.made writer (by rw [due]; nofun)
  have apart := Slot.key_ne_draftName slot slot
  rw [advance_stays (by rw [here]; nofun), View.advance, due]
  simp only [here]
  have progress : ∀ other, Function.update race.progress writer .toMove other =
      (Function.update view.progress writer .toMove other).map
        (Place.path? race.storage slot) := by
    intro other
    rw [map_update, funext shows.progress]
    rfl
  cases place with
  | draft =>
    obtain ⟨sound, stays, found⟩ :=
      overwrite_spec shows.grounded inside shows.draftFile (texts writer)
    exact shows.step sound stays ((found _).trans ((if_neg apart).trans shows.slotFile))
      ((found _).trans (if_pos rfl)) progress rfl
  | slot =>
    obtain ⟨sound, stays, found⟩ :=
      overwrite_spec shows.grounded inside shows.slotFile (texts writer)
    exact shows.step sound stays ((found _).trans (if_pos rfl))
      ((found _).trans ((if_neg apart.symm).trans shows.draftFile)) progress rfl
  | nowhere => exact shows.step shows.grounded inside shows.slotFile shows.draftFile progress rfl

/-- **Moving the draft** replaces the slot, if the draft is there. -/
theorem Shows.move (shows : Shows slot race view) (due : view.progress writer = .toMove) :
    Shows slot (race.advance slot texts writer)
      (view.advance (fun writer => (texts writer).toUTF8) writer) := by
  have here : race.progress writer = .toMove := (shows.progress writer).trans (by rw [due]; rfl)
  have inside := shows.made writer (by rw [due]; nofun)
  have apart := Slot.key_ne_draftName slot slot
  have listed : race.storage.disk.entry? (slot.draftName :: race.storage.folder) =
    view.draft.map .file := shows.draftFile
  rw [View.advance, due, Race.advance]
  cases found : view.draft with
  | none =>
    rw [found] at listed
    have missing : race.storage.disk.rename (race.storage.draftPath slot)
      (race.storage.slotPath slot) = .error .notFound := Disk.rename_missing inside listed slot.key
    simp only [here, SlotFolder.next, missing, Progress.map_id]
    refine shows.step shows.grounded inside shows.slotFile shows.draftFile (fun other => ?_) rfl
    rw [View.goOn, map_update, funext shows.progress]
    rfl
  | some content =>
    rw [found] at listed
    have free : race.storage.disk.entry? (slot.key :: race.storage.folder) ≠ some .folder := by
      intro folder
      have isFile := shows.slotFile.symm.trans folder
      cases kept : view.slot <;> rw [kept] at isFile <;> cases isFile
    have moved : race.storage.disk.rename (race.storage.draftPath slot)
        (race.storage.slotPath slot) = .ok _ := Disk.rename_inside inside listed free
    simp only [here, SlotFolder.next, moved]
    have isFile : race.storage.disk.entry? (slot.draftName :: race.storage.folder) ≠
        some .folder := by
      rw [listed]
      nofun
    have cleared := shows.grounded.clear isFile
    have stays := inside.clear (Disk.not_suffix_outer slot.draftName _)
    have asName : ∀ {name other : String},
        name :: race.storage.folder = other :: race.storage.folder ↔ name = other := by simp
    have target : Disk.entry? (race.storage.disk.clear (slot.draftName :: race.storage.folder))
        (slot.key :: race.storage.folder) =
          race.storage.disk.entry? (slot.key :: race.storage.folder) := by
      rw [Disk.entry_clear, if_neg (mt asName.mp apart)]
    refine shows.step (cleared.put stays fun folder => absurd (target ▸ folder) free)
      (stays.put fun suffix => absurd suffix (Disk.not_suffix_outer _ _)) ?_ ?_
      (fun other => ?_) rfl
    · exact (Disk.entry_put _ _ _ _ _).trans (if_pos rfl)
    · refine (Disk.entry_put _ _ _ _ _).trans ((if_neg (mt asName.mp apart.symm)).trans ?_)
      exact (Disk.entry_clear _ _ _ _).trans (if_pos rfl)
    · rw [View.goOn, map_update, funext shows.progress]
      have follow : Race.movedPath (race.storage.draftPath slot) (race.storage.slotPath slot) ∘
          Place.path? race.storage slot = Place.path? race.storage slot ∘ Place.moved :=
        funext (Place.path_moved race.storage slot)
      simp only [Progress.map_map, follow]
      rfl

/-- **A step of a writer is seen in the view.** -/
theorem Shows.advance (shows : Shows slot race view) (texts : Writer → String) (writer : Writer) :
    Shows slot (race.advance slot texts writer)
      (view.advance (fun writer => (texts writer).toUTF8) writer) := by
  cases due : view.progress writer with
  | toMake =>
    rw [View.advance, due]
    exact shows.make due
  | toOpen =>
    rw [View.advance, due]
    exact shows.openDraft due
  | toWrite place => exact shows.write due
  | toMove => exact shows.move due
  | ended result =>
    have here : race.progress writer = .ended result :=
      (shows.progress writer).trans (by rw [due]; rfl)
    have same : race.advance slot texts writer = race := by
      rw [advance_stays (by rw [here]; nofun)]
      simp only [here, SlotFolder.next]
      rw [← here, Function.update_eq_self]
    rw [same, View.advance, due]
    exact shows

/-- **What is read** is the file of the slot. -/
theorem Shows.get_run (shows : Shows slot race view) :
    SlotFolder.get slot race.storage = (readBack view.slot, race.storage) := by
  have listed : race.storage.disk.entry? (slot.key :: race.storage.folder) =
    view.slot.map .file := shows.slotFile
  rw [SlotFolder.get, SlotFolder.slotPath]
  cases found : view.slot with
  | none =>
    rw [found] at listed
    have missing : race.storage.disk.IsMissing (slot.key :: race.storage.folder) := by
      rw [Disk.isMissing_cons]
      exact shows.reachable.elim (fun folder => .inr ⟨folder, listed⟩) .inl
    rw [Disk.read_missing missing]
    rfl
  | some content =>
    rw [found] at listed
    have inside := shows.grounded _ _ (by rw [listed]; exact Option.some_ne_none _)
    rw [Disk.read, Disk.reach_inside inside, listed, readBack]
    simp only [bind, Except.bind, Option.map_some]
    cases String.fromUTF8? content <;> rfl

/-- **Whatever happens next is seen in the view.** -/
theorem Shows.turn (shows : Shows slot race view) (texts : Writer → String) (turn : Turn) :
    Shows slot (race.turn slot texts turn)
      (view.turn (fun writer => (texts writer).toUTF8) turn) := by
  cases turn with
  | step writer => exact shows.advance texts writer
  | get =>
    rw [Race.turn, View.turn, shows.get_run]
    have answers : race.answers ++ [readBack view.slot] =
        (view.seen ++ [view.slot]).map readBack := by
      rw [shows.answers, List.map_append]
      rfl
    exact { shows with answers := answers }

theorem Shows.run (shows : Shows slot race view) (texts : Writer → String) (schedule : List Turn) :
    Shows slot (race.run slot texts schedule)
      (view.run (fun writer => (texts writer).toUTF8) schedule) := by
  induction schedule generalizing race view with
  | nil => exact shows
  | cons turn schedule ih => exact ih (shows.turn texts turn)

/-- **What is seen at the start:** the text in the slot, and perhaps a draft that was left
behind. -/
theorem exists_shows {storage : SlotFolder} {shelf : Shelf} (holds : storage.Holds shelf)
    (slot : Slot) : ∃ draft, Shows slot { storage }
      { slot := (shelf.content slot).map String.toUTF8, draft } := by
  have made (draft : Option ByteArray) (listed : storage.found? slot.draftName = draft.map .file) :
      Shows slot { storage } { slot := (shelf.content slot).map String.toUTF8, draft } := by
    refine ⟨holds.grounded, holds.reachable, fun _ late => absurd rfl late, ?_, listed,
      fun _ => rfl, rfl⟩
    rw [Option.map_map]
    exact holds.slots slot
  cases left : storage.found? slot.draftName with
  | none => exact ⟨none, made none left⟩
  | some entry =>
    cases entry with
    | file content => exact ⟨some content, made (some content) left⟩
    | folder => exact absurd left (holds.drafts slot)

end Race

end LaneChart
