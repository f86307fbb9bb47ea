/-
**Settings files that leave things out.** Settings are read back from the text that is written of
them. A file from which parts were taken out gives the same settings with the standard values in the
places of these parts; what was added to it, and the order in which things stand, does not matter.

* `LaneSet.without`, `Settings.without`: settings with parts replaced by the standard ones.
* `Settings.Edited`: the text of settings after somebody has edited it.
* `LaneSet.reads_edited`, `Settings.reads_edited`: what is read of it.
* `Settings.saved_and_edited`: the result.
-/

import LaneChart.Proofs.Files.Folders
import LaneChart.Proofs.Record.Rewriting
import LaneChart.Settings.File

namespace LaneChart

open Json Record

/-! ### Parts that are gone -/

/-- The lane set with the standard labels in the places that are gone. -/
def LaneSet.without (gone : String → Bool) (set : LaneSet) : LaneSet :=
  let standard : LaneSet := {}
  { planning := if gone "planning" then standard.planning else set.planning
    execution := if gone "execution" then standard.execution else set.execution
    review := if gone "review" then standard.review else set.review
    completion := if gone "completion" then standard.completion else set.completion }

/-- **The settings with the standard ones in the places that are gone,** at the top and among the
lanes. -/
def Settings.without (gone goneLanes : String → Bool) (settings : Settings) : Settings :=
  let standard : Settings := {}
  { lanes := if gone "lanes" then standard.lanes else settings.lanes.without goneLanes
    emitLaneSet := if gone "emitLaneSet" then standard.emitLaneSet else settings.emitLaneSet
    notificationMs :=
      if gone "notificationMs" then standard.notificationMs else settings.notificationMs }

/-- The text of a member of settings: an object is rewritten in its turn. -/
def EditedMember (gone : String → Bool) : Json → List Char → Prop
  | .object members => Rewritten IsPrinted gone members
  | value => IsPrinted value

/-- **The text of settings after somebody has edited it:** some members at the top and some of the
lanes are taken out, others are added, and they stand in any order. -/
def Settings.Edited (settings : Settings) (gone goneLanes : String → Bool) (text : List Char) :
    Prop :=
  ∃ members, settings.toJson = .object members ∧ Rewritten (EditedMember goneLanes) gone members text

/-! ### Lane sets -/

theorem LaneLabel.readsBack (label : LaneLabel) :
    ReadsBack LaneLabel.record.read label.toJson label :=
  Layout.readsBack (.next rfl rfl (readsBack_text _) (.next rfl rfl (readsBack_text _) .nil)) rfl

/-- A value is there, or the standard one is taken. -/
theorem getD_ite {α : Type} (gone : Bool) (value standard : α) :
    (if !gone then some value else none).getD standard = if gone then standard else value := by
  cases gone <;> rfl

namespace LaneSet

/-- The members of a printed lane set. -/
def members (set : LaneSet) : Members :=
  [("planning", set.planning.toJson), ("execution", set.execution.toJson),
    ("review", set.review.toJson), ("completion", set.completion.toJson)]

/-- The labels that have been read. -/
def read (set : LaneSet) (done : String → Bool) : LaneSet.Partial where
  planning := if done "planning" then some set.planning else none
  execution := if done "execution" then some set.execution else none
  review := if done "review" then some set.review else none
  completion := if done "completion" then some set.completion else none

/-- Every label is read by the field that has its name. -/
def progress (set : LaneSet) :
    LaneSet.record.Progress fun key text => ∃ value, (key, value) ∈ set.members ∧
      IsPrinted value text where
  after := set.read
  start := rfl
  free := by
    simp [record, read]
  fill := by
    rintro field member done text ⟨value, there, spacing, level, rfl⟩
    simp only [record, List.mem_cons, List.not_mem_nil, or_false] at member
    rcases member with rfl | rfl | rfl | rfl
    · obtain rfl : value = set.planning.toJson := by simpa [members] using there
      exact Field.reads_fill (set.planning.readsBack spacing level)
        (by simp [read, Function.update])
    · obtain rfl : value = set.execution.toJson := by simpa [members] using there
      exact Field.reads_fill (set.execution.readsBack spacing level)
        (by simp [read, Function.update])
    · obtain rfl : value = set.review.toJson := by simpa [members] using there
      exact Field.reads_fill (set.review.readsBack spacing level)
        (by simp [read, Function.update])
    · obtain rfl : value = set.completion.toJson := by simpa [members] using there
      exact Field.reads_fill (set.completion.readsBack spacing level)
        (by simp [read, Function.update])

/-- **Lanes that are gone have the standard labels.** -/
theorem reads_edited (set : LaneSet) {gone : String → Bool} {text : List Char}
    (edited : Rewritten IsPrinted gone set.members text) :
    Reads LaneSet.record.read text (set.without gone) := by
  refine set.progress.reads_rewritten rfl (by decide) (fun done left => ?_) edited
  show record.finish (set.read done) = .ok (set.without gone)
  simp only [record, read, without, left "planning" (by decide), left "execution" (by decide),
    left "review" (by decide), left "completion" (by decide), getD_ite]

end LaneSet

/-! ### Settings -/

namespace Settings

/-- The members of printed settings. -/
def members (settings : Settings) : Members :=
  [("lanes", settings.lanes.toJson), ("emitLaneSet", .bool settings.emitLaneSet),
    ("notificationMs", .ofNat settings.notificationMs.toNat)]

/-- The settings that have been read, where the lanes read are those that are not gone. -/
def read (settings : Settings) (goneLanes done : String → Bool) : Settings.Partial where
  lanes := if done "lanes" then some (settings.lanes.without goneLanes) else none
  emitLaneSet := if done "emitLaneSet" then some settings.emitLaneSet else none
  notificationMs := if done "notificationMs" then some settings.notificationMs else none

/-- Every part is read by the field that has its name. -/
def progress (settings : Settings) (goneLanes : String → Bool) :
    Settings.record.Progress fun key text => ∃ value, (key, value) ∈ settings.members ∧
      EditedMember goneLanes value text where
  after := settings.read goneLanes
  start := rfl
  free := by
    simp [record, read]
  fill := by
    rintro field member done text ⟨value, there, written⟩
    simp only [record, List.mem_cons, List.not_mem_nil, or_false] at member
    rcases member with rfl | rfl | rfl
    · obtain rfl : value = settings.lanes.toJson := by simpa [members] using there
      exact Field.reads_fill (settings.lanes.reads_edited written)
        (by simp [read, Function.update])
    · obtain rfl : value = .bool settings.emitLaneSet := by
        simpa [members] using there
      obtain ⟨spacing, level, rfl⟩ := written
      exact Field.reads_fill (readsBack_flag _ spacing level) (by simp [read, Function.update])
    · obtain rfl : value = .ofNat settings.notificationMs.toNat := by
        simpa [members] using there
      obtain ⟨spacing, level, rfl⟩ := written
      exact Field.reads_fill (readsBack_count _ spacing level) (by simp [read, Function.update])

/-- **Parts that are gone have their standard values.** -/
theorem reads_edited (settings : Settings) {gone goneLanes : String → Bool} {text : List Char}
    (edited : settings.Edited gone goneLanes text) :
    Reads record.read text (settings.without gone goneLanes) := by
  obtain ⟨_, ⟨⟩, edited⟩ := edited
  refine (settings.progress goneLanes).reads_rewritten rfl (by decide) (fun done left => ?_) edited
  show record.finish (settings.read goneLanes done) = .ok (settings.without gone goneLanes)
  simp only [record, read, without, left "lanes" (by decide), left "emitLaneSet" (by decide),
    left "notificationMs" (by decide), getD_ite]

/-- What is printed of settings is edited in no way. -/
theorem edited_spread (settings : Settings) (spacing : Spacing) (level : Nat) :
    settings.Edited (fun _ => false) (fun _ => false) (spread spacing level settings.toJson) := by
  refine ⟨settings.members, rfl, .of_spread spacing level ?_⟩
  simp only [members, List.forall_mem_cons]
  exact ⟨.of_spread spacing (level + 1) fun _ _ => ⟨spacing, _, rfl⟩, ⟨spacing, _, rfl⟩,
    ⟨spacing, _, rfl⟩, List.forall_mem_nil _⟩

theorem readsBack (settings : Settings) : ReadsBack record.read settings.toJson settings :=
  fun spacing level => settings.reads_edited (settings.edited_spread spacing level)

theorem ofText_pretty (settings : Settings) : ofText settings.toJson.pretty = .ok settings :=
  (readText_printed settings.readsBack).1

/-- **What was saved is loaded.** -/
theorem load_of_save {disk written : Files.Disk} {path : Files.Path} {settings : Settings}
    (saved : settings.save disk path = .ok written) : load written path = .ok settings := by
  unfold save at saved
  cases made : disk.makeFolders path.tail with
  | error fault =>
    rw [made] at saved
    cases saved
  | ok around =>
    rw [made] at saved
    rw [load, Files.Disk.read_write saved]
    exact congrArg (Except.mapError _) settings.ofText_pretty

/-- **Settings survive writing, and a file that leaves things out is filled up.** Settings that are
saved can be loaded, and are what they were. If somebody edits what is written of them, in that
members are taken out at the top or among the lanes, others are added and all are moved around, then
the standard values stand for what was taken out, and for nothing else. -/
theorem saved_and_edited (settings : Settings) :
    ofText settings.toJson.pretty = .ok settings ∧
      (∀ disk path written, settings.save disk path = .ok written →
        load written path = .ok settings) ∧
      ∀ gone goneLanes text, settings.Edited gone goneLanes text →
        ∀ front behind, Blank front → Blank behind →
          ofText (String.ofList (front ++ (text ++ behind))) =
            .ok (settings.without gone goneLanes) := by
  refine ⟨settings.ofText_pretty, fun disk path written saved => ?_,
    fun gone goneLanes text edited front behind frontBlank behindBlank => ?_⟩
  · exact load_of_save saved
  · rw [ofText, readText, String.toList_ofList]
    exact (settings.reads_edited edited).readChars frontBlank behindBlank

/-- Settings with two labels of their own. -/
def relabelled : Settings where
  lanes := { planning := ⟨"P", "Plan"⟩, execution := ⟨"E", "Do"⟩ }
  emitLaneSet := false
  notificationMs := 7

/-- A file without one of the members and without three of the lanes, with a member more. -/
theorem saved_and_edited_shortened :
    (∃ written, relabelled.save {} ["settings"] = .ok written ∧
        load written ["settings"] = .ok relabelled) ∧
      ofText (" \x7b\"theme\":null,\"notificationMs\":7," ++
          "\"lanes\":\x7b\"execution\":\x7b\"id\":\"E\",\"name\":\"Do\"\x7d\x7d\x7d") =
        .ok { lanes := { execution := ⟨"E", "Do"⟩ }, notificationMs := 7 } := by
  have none : Blank [] := List.forall_mem_nil _
  have printed (value : Json) : IsPrinted value (spread .compact 0 value) := ⟨.compact, 0, rfl⟩
  have label := printed relabelled.lanes.execution.toJson
  have millis := printed (.ofNat relabelled.notificationMs.toNat)
  have lanes : Rewritten IsPrinted (· ≠ "execution") relabelled.lanes.members _ :=
    @Rewritten.mk _ _ _ [("execution", _)] [] _ _ (.cons ⟨rfl, label⟩ .nil) (List.forall_mem_nil _)
      (.of_eq (List.append_nil _).symm) (.member none none none none (.done none))
  have edited : relabelled.Edited (· = "emitLaneSet") (· ≠ "execution") _ :=
    ⟨relabelled.members, rfl, @Rewritten.mk _ _ _ [("lanes", _), ("notificationMs", _)]
      [("theme", ['n', 'u', 'l', 'l'])] _ _ (.cons ⟨rfl, lanes⟩ (.cons ⟨rfl, millis⟩ .nil))
      (List.forall_mem_singleton.mpr ⟨by decide, .null⟩) (List.reverse_perm _)
      (.member none none none none (.member none none none none
        (.member none none none none (.done none))))⟩
  obtain ⟨written, saved⟩ : ∃ written, relabelled.save {} ["settings"] = .ok written := ⟨_, rfl⟩
  refine ⟨⟨written, saved, (saved_and_edited relabelled).2.1 {} ["settings"] written saved⟩, ?_⟩
  have read := (saved_and_edited relabelled).2.2 _ _ _ edited [' '] [] (List.forall_mem_singleton.mpr rfl) none
  exact (congrArg ofText (by decide +kernel)).trans read

end Settings

end LaneChart
