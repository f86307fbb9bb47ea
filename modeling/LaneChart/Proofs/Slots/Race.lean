/-
**What is read while two write.** Nobody reads half a text as long as the two take turns: neither
opens the draft while the other one has opened it and has not moved it yet. Otherwise the draft may
be moved while it is empty, or be written to after it was moved. Then the empty text is read, or one
text that was written over the other.

* `Turn.crowds`, `Race.isOrderly`: the two do not take turns, and a run in which they do.
* `View.Orderly`, `View.Pieced`: what every step keeps if they take turns, and what it keeps anyway.
* `Race.reads_whole_while_orderly`: what is read. `Race.diagrams_are_torn`: two torn texts.
-/

import LaneChart.Proofs.Slots.Steps

namespace LaneChart

/-! ### Taking turns -/

namespace Progress

variable {File Other : Type}

/-- Whether a writer is about to open the draft. -/
def isOpening : Progress File → Bool
  | toOpen => true
  | _ => false

/-- Whether a writer has opened the draft and not moved it yet. -/
def isInside : Progress File → Bool
  | toWrite _ | toMove => true
  | _ => false

/-- Whether a writer has nothing left to write. -/
def isWritten : Progress File → Bool
  | toMove | ended _ => true
  | _ => false

theorem map_eq_toWrite {place : File → Other} {progress : Progress File} {other : Other}
    (writing : progress.map place = .toWrite other) :
    ∃ file, progress = .toWrite file ∧ place file = other := by
  cases progress with
  | toWrite file => exact ⟨file, rfl, toWrite.inj writing⟩
  | toMake | toOpen | toMove | ended => cases writing

theorem isOpening_map (place : File → Other) (progress : Progress File) :
    (progress.map place).isOpening = progress.isOpening := by
  cases progress <;> rfl

theorem isInside_map (place : File → Other) (progress : Progress File) :
    (progress.map place).isInside = progress.isInside := by
  cases progress <;> rfl

end Progress

/-- **A writer opens the draft while the other one is not done with it.** -/
def Turn.crowds {File : Type} (progress : Writer → Progress File) : Turn → Bool
  | .step writer => (progress writer).isOpening && (progress writer.other).isInside
  | .get => false

/-- **The writers take turns.** -/
def Race.isOrderly (slot : Slot) (texts : Writer → String) : Race → List Turn → Bool
  | _, [] => true
  | race, turn :: rest =>
    !turn.crowds race.progress && isOrderly slot texts (race.turn slot texts turn) rest

namespace Writer

theorem eq_or_eq_other (writer one : Writer) : one = writer ∨ one = writer.other := by
  cases writer <;> cases one <;> decide

theorem other_ne (writer : Writer) : writer.other ≠ writer := by
  cases writer <;> decide

theorem other_other (writer : Writer) : writer.other.other = writer := by
  cases writer <;> rfl

/-- What holds of a writer and of the other one holds of both. -/
theorem forall_of {property : Writer → Prop} (writer : Writer) (this : property writer)
    (that : property writer.other) (one : Writer) : property one := by
  rcases eq_or_eq_other writer one with same | other
  · rw [same]
    exact this
  · rw [other]
    exact that

end Writer

namespace View

variable {before : Option ByteArray} {texts : Writer → ByteArray} {view : View} {writer : Writer}

@[simp] theorem progress_goOn (view : View) (writer : Writer) (next : Progress Place) :
    (view.goOn writer next).progress writer = next := Function.update_self ..

@[simp] theorem progress_goOn_other (view : View) (writer : Writer) (next : Progress Place) :
    (view.goOn writer next).progress writer.other = view.progress writer.other :=
  Function.update_of_ne writer.other_ne _ _

@[simp] theorem progress_goOn_of_other (view : View) (writer : Writer) (next : Progress Place) :
    (view.goOn writer.other next).progress writer = view.progress writer :=
  Function.update_of_ne writer.other_ne.symm _ _

@[simp] theorem slot_goOn (view : View) (writer : Writer) (next : Progress Place) :
    (view.goOn writer next).slot = view.slot := rfl

@[simp] theorem draft_goOn (view : View) (writer : Writer) (next : Progress Place) :
    (view.goOn writer next).draft = view.draft := rfl

@[simp] theorem seen_goOn (view : View) (writer : Writer) (next : Progress Place) :
    (view.goOn writer next).seen = view.seen := rfl

/-! ### Whole texts -/

/-- **What a reader may expect:** what was there before, or a text. -/
def IsWhole (before : Option ByteArray) (texts : Writer → ByteArray) (content : Option ByteArray) :
    Prop :=
  content = before ∨ ∃ writer, content = some (texts writer)

/-- **What holds while the writers take turns:** only one of them is busy with the draft, and it
finds there what it left. -/
structure Orderly (before : Option ByteArray) (texts : Writer → ByteArray) (view : View) :
    Prop where
  slot : IsWhole before texts view.slot
  seen : ∀ content ∈ view.seen, IsWhole before texts content
  alone : ∀ writer, (view.progress writer).isInside = true →
    (view.progress writer.other).isInside = false
  opened : ∀ writer place, view.progress writer = .toWrite place →
    place = .draft ∧ view.draft = some .empty
  written : ∀ writer, view.progress writer = .toMove → view.draft = some (texts writer)

/-- To look at one writer is enough if the other one is not busy. -/
theorem orderly_of_busy (writer : Writer) (slot : IsWhole before texts view.slot)
    (seen : ∀ content ∈ view.seen, IsWhole before texts content)
    (idle : (view.progress writer.other).isInside = false)
    (opened : ∀ place, view.progress writer = .toWrite place →
      place = .draft ∧ view.draft = some .empty)
    (written : view.progress writer = .toMove → view.draft = some (texts writer)) :
    Orderly before texts view where
  slot := slot
  seen := seen
  alone := Writer.forall_of writer (fun _ => idle) fun inside => absurd inside (by simp [idle])
  opened := Writer.forall_of writer opened fun place due => by simp [due, Progress.isInside] at idle
  written := Writer.forall_of writer written fun due => by simp [due, Progress.isInside] at idle

/-- **A step keeps the order** if it does not crowd. -/
theorem Orderly.advance (orderly : Orderly before texts view)
    (free : (Turn.step writer).crowds view.progress = false) :
    Orderly before texts (view.advance texts writer) := by
  rw [View.advance]
  cases due : view.progress writer with
  | toMake =>
    refine ⟨orderly.slot, orderly.seen, ?_, ?_, ?_⟩
    · refine Writer.forall_of writer (fun inside => ?_) fun _ => ?_
      · simp [Progress.isInside] at inside
      · simp [Writer.other_other, Progress.isInside]
    · refine Writer.forall_of writer (fun place late => ?_) fun place late => ?_
      · simp at late
      · exact orderly.opened writer.other place (by simpa using late)
    · refine Writer.forall_of writer (fun late => ?_) fun late => ?_
      · simp at late
      · exact orderly.written writer.other (by simpa using late)
  | toOpen =>
    have idle : (view.progress writer.other).isInside = false := by
      simpa [Turn.crowds, due, Progress.isOpening] using free
    refine orderly_of_busy writer orderly.slot orderly.seen ?_ (fun place late => ?_)
      fun late => ?_
    · simpa using idle
    · rw [progress_goOn] at late
      exact ⟨(Progress.toWrite.inj late).symm, rfl⟩
    · simp at late
  | toWrite place =>
    obtain ⟨rfl, empty⟩ := orderly.opened writer place due
    have idle := orderly.alone writer (by rw [due]; rfl)
    refine orderly_of_busy writer orderly.slot orderly.seen ?_ (fun place late => ?_)
      fun _ => ?_
    · simpa using idle
    · simp at late
    · show view.draft.map (Files.overlay (texts writer)) = some (texts writer)
      rw [empty, Option.map_some, Files.overlay_empty]
  | toMove =>
    have idle := orderly.alone writer (by rw [due]; rfl)
    have whole := orderly.written writer due
    simp only [whole]
    refine orderly_of_busy writer (.inr ⟨writer, rfl⟩) orderly.seen ?_
      (fun place late => ?_) fun late => ?_
    · simpa [Progress.isInside_map] using idle
    · simp at late
    · simp at late
  | ended result => exact orderly

/-! ### Torn texts -/

/-- **What a reader may not expect:** nothing, or one text over the other. -/
def IsTorn (texts : Writer → ByteArray) (content : Option ByteArray) : Prop :=
  content = some .empty ∨
    ∃ writer, content = some (Files.overlay (texts writer) (texts writer.other))

/-- What a writer has open. -/
def file? (view : View) : Place → Option ByteArray
  | .draft => view.draft
  | .slot => view.slot
  | .nowhere => none

/-- **What holds anyway:** a writer has the empty draft open, or the other one has written, and
perhaps into the same file. -/
structure Pieced (before : Option ByteArray) (texts : Writer → ByteArray) (view : View) :
    Prop where
  slot : IsWhole before texts view.slot ∨ IsTorn texts view.slot
  seen : ∀ content ∈ view.seen, IsWhole before texts content ∨ IsTorn texts content
  draft : ∀ writer, (view.progress writer).isInside = true →
    IsWhole none texts view.draft ∨ IsTorn texts view.draft
  opened : ∀ writer place, view.progress writer = .toWrite place →
    place = .draft ∧ view.draft = some .empty ∨
    (view.progress writer.other).isWritten = true ∧
      ∀ content ∈ view.file? place, content = .empty ∨ content = texts writer.other

/-- Where one writer has not written yet, the other one has the empty draft open. -/
theorem Pieced.draft_of_unwritten (pieced : Pieced before texts view)
    (early : (view.progress writer).isWritten = false) {place : Place}
    (due : view.progress writer.other = .toWrite place) :
    place = .draft ∧ view.draft = some .empty := by
  rcases pieced.opened writer.other place due with empty | ⟨late, -⟩
  · exact empty
  · rw [Writer.other_other, early] at late
    cases late

/-- What the files are after one of them was written to. -/
theorem file_advance {place : Place} (due : view.progress writer = .toWrite place) (one : Place) :
    (view.advance texts writer).file? one =
      if one = place then (view.file? place).map (Files.overlay (texts writer))
      else view.file? one := by
  rw [advance, due]
  cases place <;> cases one <;> rfl

/-- **What a writer leaves where it writes** is its text, or its text over the other one. -/
theorem Pieced.file_advance (pieced : Pieced before texts view) {place : Place}
    (due : view.progress writer = .toWrite place) (one : Place) {old : Option ByteArray}
    (held : IsWhole old texts (view.file? one) ∨ IsTorn texts (view.file? one)) :
    IsWhole old texts ((view.advance texts writer).file? one) ∨
      IsTorn texts ((view.advance texts writer).file? one) := by
  have whole : Files.overlay (texts writer) .empty = texts writer := Files.overlay_empty _
  rw [View.file_advance due]
  split
  · rename_i same
    rw [same] at held
    cases found : view.file? place with
    | none => rwa [found] at held
    | some content =>
      rcases pieced.opened writer place due with ⟨rfl, empty⟩ | ⟨-, onlyThese⟩
      · rw [← Option.some.inj (empty.symm.trans found), Option.map_some, whole]
        exact .inl (.inr ⟨writer, rfl⟩)
      · rcases onlyThese content found with rfl | rfl
        · rw [Option.map_some, whole]
          exact .inl (.inr ⟨writer, rfl⟩)
        · exact .inr (.inr ⟨writer, rfl⟩)
  · exact held

/-- A step that changes no file, and that is no step from writing. -/
theorem Pieced.goOn (pieced : Pieced before texts view) {next : Progress Place}
    (inside : next.isInside = false)
    (written : (view.progress writer).isWritten = true → next.isWritten = true) :
    Pieced before texts (view.goOn writer next) where
  slot := pieced.slot
  seen := pieced.seen
  draft := Writer.forall_of writer (fun busy => by simp [inside] at busy) fun busy =>
    pieced.draft writer.other (by simpa using busy)
  opened := by
    refine Writer.forall_of writer (fun place due => ?_) fun place due => ?_
    · rw [progress_goOn] at due
      rw [due] at inside
      cases inside
    · rw [progress_goOn_other] at due
      refine (pieced.opened writer.other place due).imp_right (And.imp_left fun late => ?_)
      rw [Writer.other_other] at late ⊢
      simpa using written late

theorem Pieced.openDraft (pieced : Pieced before texts view)
    (due : view.progress writer = .toOpen) :
    Pieced before texts ({ view with draft := some .empty }.goOn writer (.toWrite .draft)) where
  slot := pieced.slot
  seen := pieced.seen
  draft _ _ := .inr (.inl rfl)
  opened := by
    refine Writer.forall_of writer (fun place opened => .inl ⟨?_, rfl⟩)
      fun place opened => .inl ⟨?_, rfl⟩
    · rw [progress_goOn, Progress.toWrite.injEq] at opened
      exact opened.symm
    · rw [progress_goOn_other] at opened
      exact (pieced.draft_of_unwritten (by rw [due]; rfl) opened).1

theorem Pieced.write (pieced : Pieced before texts view) {place : Place}
    (due : view.progress writer = .toWrite place) :
    Pieced before texts (view.advance texts writer) := by
  have progress : (view.advance texts writer).progress =
      Function.update view.progress writer .toMove := by
    rw [advance, due]
    cases place <;> rfl
  have seen : (view.advance texts writer).seen = view.seen := by
    rw [advance, due]
    cases place <;> rfl
  refine ⟨pieced.file_advance due .slot pieced.slot, ?_, fun _ _ => ?_, ?_⟩
  · rw [seen]
    exact pieced.seen
  · exact pieced.file_advance due .draft (pieced.draft writer (by rw [due]; rfl))
  · refine Writer.forall_of writer (fun one opened => ?_) fun one opened => .inr ⟨?_, ?_⟩
    · rw [progress, Function.update_self] at opened
      cases opened
    · rw [Writer.other_other, progress, Function.update_self]
      rfl
    · rw [progress, Function.update_of_ne writer.other_ne] at opened
      obtain ⟨rfl, empty⟩ := pieced.draft_of_unwritten (by rw [due]; rfl) opened
      intro content found
      rw [Writer.other_other]
      rw [Option.mem_def, View.file_advance due] at found
      split at found
      · rename_i same
        rw [← same, file?, empty, Option.map_some, Files.overlay_empty] at found
        exact .inr (Option.some.inj found).symm
      · exact .inl (Option.some.inj (empty.symm.trans found)).symm

/-- What the other one has open follows the file when it is moved. -/
theorem Pieced.move (pieced : Pieced before texts view) (due : view.progress writer = .toMove)
    {content : ByteArray} (left : view.draft = some content) :
    Pieced before texts
      ({ view with
        slot := some content
        draft := none
        progress := fun one => (view.progress one).map Place.moved }.goOn writer
          (.ended (.ok ()))) where
  slot := by
    have made := pieced.draft writer (by rw [due]; rfl)
    rw [left] at made
    rcases made with (none | whole) | torn
    · cases none
    · exact .inl (.inr whole)
    · exact .inr torn
  seen := pieced.seen
  draft _ _ := .inl (.inl rfl)
  opened := by
    refine Writer.forall_of writer (fun place opened => ?_) fun place opened => .inr ⟨?_, ?_⟩
    · rw [progress_goOn] at opened
      cases opened
    · rw [Writer.other_other, progress_goOn]
      rfl
    · rw [progress_goOn_other] at opened
      obtain ⟨was, due', rfl⟩ := Progress.map_eq_toWrite opened
      intro last found
      have held : view.file? was = some last := by
        cases was with
        | draft => exact left.trans found
        | slot | nowhere => cases found
      rcases pieced.opened writer.other was due' with ⟨rfl, empty⟩ | ⟨-, onlyThese⟩
      · exact .inl (Option.some.inj (empty.symm.trans held)).symm
      · exact onlyThese last held

/-- **A step keeps the pieces.** -/
theorem Pieced.advance (pieced : Pieced before texts view) (writer : Writer) :
    Pieced before texts (view.advance texts writer) := by
  cases due : view.progress writer with
  | toMake =>
    rw [View.advance, due]
    exact pieced.goOn rfl (by simp [due, Progress.isWritten])
  | toOpen =>
    rw [View.advance, due]
    exact pieced.openDraft due
  | toWrite place => exact pieced.write due
  | toMove =>
    rw [View.advance, due]
    cases left : view.draft with
    | none => exact pieced.goOn rfl fun _ => rfl
    | some content => exact pieced.move due left
  | ended result =>
    rw [View.advance, due]
    exact pieced

/-! ### Whole runs -/

theorem Pieced.run (pieced : Pieced before texts view) (schedule : List Turn) :
    Pieced before texts (view.run texts schedule) := by
  induction schedule generalizing view with
  | nil => exact pieced
  | cons turn schedule ih =>
    refine ih ?_
    cases turn with
    | step writer => exact pieced.advance writer
    | get =>
      have seen := List.forall_mem_append.mpr ⟨pieced.seen, List.forall_mem_singleton.mpr pieced.slot⟩
      exact { pieced with seen }

/-- **Whoever crowds can tear a text:** there is a way to go on after which it is read. -/
theorem Pieced.exists_torn (pieced : Pieced before texts view) {turn : Turn}
    (crowds : turn.crowds view.progress = true) :
    ∃ rest, ∃ content ∈ (view.run texts (turn :: rest)).seen, IsTorn texts content := by
  cases turn with
  | get => cases crowds
  | step writer =>
    rw [Turn.crowds, Bool.and_eq_true] at crowds
    have opening : view.progress writer = .toOpen := by
      cases due : view.progress writer <;> simp [due, Progress.isOpening] at crowds ⊢
    cases due : view.progress writer.other with
    | toMake | toOpen | ended => simp [due, Progress.isInside] at crowds
    | toMove =>
      -- the other one moves the draft that was just emptied
      refine ⟨[.step writer.other, .get], some .empty, ?_, .inl rfl⟩
      simp [View.run, View.turn, View.advance, opening, due]
    | toWrite place =>
      -- the other one moves its text, and this one writes over it
      obtain ⟨rfl, -⟩ := pieced.draft_of_unwritten (by rw [opening]; rfl) due
      refine ⟨[.step writer.other, .step writer.other, .step writer, .get],
        some (Files.overlay (texts writer) (texts writer.other)), ?_, .inr ⟨writer, rfl⟩⟩
      simp [View.run, View.turn, View.advance, opening, due, Files.overlay_empty, Progress.map,
        Place.moved]

end View

namespace Race

variable {slot : Slot} {texts : Writer → String} {race : Race} {view : View}
  {before : Option ByteArray}

/-- Who crowds is seen in the view. -/
theorem Shows.crowds (shows : Shows slot race view) (turn : Turn) :
    turn.crowds race.progress = turn.crowds view.progress := by
  cases turn with
  | step writer =>
    simp only [Turn.crowds, shows.progress, Progress.isOpening_map, Progress.isInside_map]
  | get => rfl

/-- **What is seen in an orderly run** is whole. -/
theorem Shows.orderly_run (shows : Shows slot race view)
    (orderly : view.Orderly before fun writer => (texts writer).toUTF8) {schedule : List Turn}
    (turns : race.isOrderly slot texts schedule = true) :
    (view.run (fun writer => (texts writer).toUTF8) schedule).Orderly before
      fun writer => (texts writer).toUTF8 := by
  induction schedule generalizing race view with
  | nil => exact orderly
  | cons turn schedule ih =>
    rw [isOrderly, Bool.and_eq_true, Bool.not_eq_true', shows.crowds] at turns
    refine ih (shows.turn texts turn) ?_ turns.2
    cases turn with
    | step writer => exact orderly.advance turns.1
    | get =>
      have seen := List.forall_mem_append.mpr ⟨orderly.seen, List.forall_mem_singleton.mpr orderly.slot⟩
      exact { orderly with seen }

theorem readBack_text (text : String) : readBack (some text.toUTF8) = .ok (some text) := by
  rw [readBack, Files.Disk.fromUTF8_toUTF8]

theorem readBack_before (before : Option String) :
    readBack (before.map String.toUTF8) = .ok before := by
  cases before with
  | none => rfl
  | some text => exact readBack_text text

/-- What a reader may expect. -/
def IsWhole (shelf : Shelf) (slot : Slot) (texts : Writer → String)
    (answer : Except StorageFault (Option String)) : Prop :=
  answer = .ok (shelf.content slot) ∨ ∃ writer, answer = .ok (some (texts writer))

/-- What a reader may not expect: an empty text, or what is read where one text stands over the
other. -/
def IsTorn (texts : Writer → String) (answer : Except StorageFault (Option String)) : Prop :=
  answer = .ok (some "") ∨ ∃ writer, answer =
    readBack (some (Files.overlay (texts writer).toUTF8 (texts writer.other).toUTF8))

theorem isWhole_readBack {shelf : Shelf} {content : Option ByteArray}
    (whole : View.IsWhole ((shelf.content slot).map String.toUTF8)
      (fun writer => (texts writer).toUTF8) content) :
    IsWhole shelf slot texts (readBack content) := by
  rcases whole with rfl | ⟨writer, rfl⟩
  · exact .inl (readBack_before _)
  · exact .inr ⟨writer, readBack_text _⟩

theorem isTorn_readBack {content : Option ByteArray}
    (torn : View.IsTorn (fun writer => (texts writer).toUTF8) content) :
    IsTorn texts (readBack content) := by
  rcases torn with rfl | ⟨writer, rfl⟩
  · exact .inl (readBack_text "")
  · exact .inr ⟨writer, rfl⟩

/-- What a tool call and a session write. -/
def diagrams : Writer → String
  | .desk => "<desk/>"
  | .editor => "<a/>"

/-- The session opens the draft when the tool call has already written it. -/
def emptied : List Turn :=
  [.step .desk, .step .editor, .step .desk, .step .desk, .step .editor, .step .desk, .get]

/-- The session opens the draft when the tool call has not written it yet. -/
def mixed : List Turn :=
  [.step .desk, .step .editor, .step .desk, .step .editor, .step .desk, .step .desk, .step .editor,
    .get]

/-- **Two who write while a third reads.** What is read is what was there before or one of the two
texts, unless the two do not take turns; then it may also be torn. And as soon as they do not, there
is a way to go on after which a torn text is read. -/
theorem reads_whole_while_orderly {storage : SlotFolder} {shelf : Shelf}
    (holds : storage.Holds shelf) (slot : Slot) (texts : Writer → String) :
    (∀ schedule, ∀ answer ∈ (run slot texts { storage } schedule).answers,
      IsWhole shelf slot texts answer ∨
        isOrderly slot texts { storage } schedule = false ∧ IsTorn texts answer) ∧
    ∀ schedule turn, turn.crowds (run slot texts { storage } schedule).progress = true →
      ∃ rest, ∃ answer ∈ (run slot texts { storage } (schedule ++ turn :: rest)).answers,
        IsTorn texts answer := by
  obtain ⟨draft, shows⟩ := exists_shows holds slot
  have start : View.Pieced ((shelf.content slot).map String.toUTF8)
      (fun writer => (texts writer).toUTF8)
      { slot := (shelf.content slot).map String.toUTF8, draft } :=
    ⟨.inl (.inl rfl), by nofun, by nofun, by nofun⟩
  refine ⟨fun schedule answer found => ?_, fun schedule turn crowded => ?_⟩
  · rw [(shows.run texts schedule).answers] at found
    obtain ⟨content, seen, rfl⟩ := List.mem_map.mp found
    cases turns : isOrderly slot texts { storage } schedule with
    | true =>
      have orderly := shows.orderly_run
        (View.orderly_of_busy .desk (.inl rfl) (by nofun) rfl (by nofun) (by nofun)) turns
      exact .inl (isWhole_readBack (orderly.seen content seen))
    | false =>
      rcases (start.run schedule).seen content seen with whole | torn
      · exact .inl (isWhole_readBack whole)
      · exact .inr ⟨rfl, isTorn_readBack torn⟩
  · have after := shows.run texts schedule
    rw [after.crowds] at crowded
    obtain ⟨rest, content, seen, torn⟩ := (start.run schedule).exists_torn crowded
    refine ⟨rest, readBack content, ?_, isTorn_readBack torn⟩
    rw [run, List.foldl_append]
    show readBack content ∈ (run slot texts (run slot texts { storage } schedule)
      (turn :: rest)).answers
    rw [(after.run texts (turn :: rest)).answers]
    exact List.mem_map.mpr ⟨content, seen, rfl⟩

theorem reads_whole_while_orderly_diagrams :
    SlotFolder.withStaleDraft.Holds {} ∧
      (∀ answer ∈ (run .diagram diagrams { storage := .withStaleDraft } emptied).answers,
        IsWhole {} .diagram diagrams answer ∨
          isOrderly .diagram diagrams { storage := .withStaleDraft } emptied = false ∧
            IsTorn diagrams answer) ∧
      ∃ rest, ∃ answer ∈ (run .diagram diagrams { storage := .withStaleDraft }
        (emptied.take 4 ++ .step .editor :: rest)).answers, IsTorn diagrams answer :=
  have holds := SlotFolder.fresh_withStaleDraft.holds
  have reads := reads_whole_while_orderly holds .diagram diagrams
  ⟨holds, reads.1 emptied, reads.2 (emptied.take 4) (.step .editor) (by decide)⟩

/-- **A half-written slot:** one reader finds it empty, and another one finds the end of the longer
text behind the shorter one. -/
theorem diagrams_are_torn :
    (run .diagram diagrams { storage := .withStaleDraft } emptied).answers = [.ok (some "")] ∧
      (run .diagram diagrams { storage := .withStaleDraft } mixed).answers =
        [.ok (some "<a/>k/>")] ∧
      ¬ IsWhole {} .diagram diagrams (.ok (some "")) ∧
      ¬ IsWhole {} .diagram diagrams (.ok (some "<a/>k/>")) := by
  refine ⟨rfl, rfl, ?_, ?_⟩
  · rintro (before | ⟨writer, text⟩)
    · cases before
    · cases writer <;> simp [diagrams] at text
  · rintro (before | ⟨writer, text⟩)
    · cases before
    · cases writer <;> simp [diagrams] at text

end Race

end LaneChart
