/-
**What stands where on a disk.** On a disk that makes sense, everything stands in a folder. Then a
path inside a folder leads to what is listed for it, and each call changes one entry, or makes the
folders on one way.

* `Disk.IsFolder`, `Disk.IsMissing`: a folder is there; nothing is there, and no file is in the way.
* `Disk.Grounded`: everything stands in a folder.
* `Disk.isFolder_iff`: all names on the way to a folder are folders.
* `Disk.makeFolders_spec`: what making a folder changes.
* `Disk.read_file`, `Disk.write_inside`, `Disk.rename_inside`, `Disk.remove_file`,
  `Disk.names_inside`: the other calls, inside a folder; `Disk.read_missing` and
  `Disk.remove_missing` where nothing is.
* `Disk.replace_inside`: a file is replaced through a draft.
-/

import LaneChart.Files.Disk
import LaneChart.Proofs.Lookup
import Mathlib.Tactic.ByContra

namespace LaneChart.Files.Disk

/-! ### Entries -/

theorem lookup_filter_ne (entries : List (Path × Entry)) (path other : Path) :
    (entries.filter (·.1 ≠ path)).lookup other =
      if other = path then none else entries.lookup other := by
  induction entries with
  | nil => simp
  | cons entry entries ih =>
    obtain ⟨here, found⟩ := entry
    by_cases gone : here = path
    · subst gone
      rw [List.filter_cons_of_neg (by simp), ih, lookup_cons_ite]
      split <;> rfl
    · rw [List.filter_cons_of_pos (by simpa using gone), lookup_cons_ite, lookup_cons_ite, ih]
      by_cases same : other = here
      · rw [if_pos same, if_pos same, if_neg (same ▸ gone)]
      · rw [if_neg same, if_neg same]

/-- What is listed after something was put somewhere. -/
theorem entry_put (disk : Disk) (name : String) (outer other : Path) (entry : Entry) :
    entry? (disk.put (name :: outer) entry) other =
      if other = name :: outer then some entry else disk.entry? other := by
  cases other with
  | nil => rfl
  | cons first rest =>
    show ((name :: outer, entry) :: disk.entries.filter (·.1 ≠ name :: outer)).lookup
      (first :: rest) = _
    rw [lookup_cons_ite, lookup_filter_ne]
    by_cases same : first :: rest = name :: outer
    · rw [if_pos same, if_pos same]
    · rw [if_neg same, if_neg same, if_neg same]
      rfl

/-- What is listed after something was taken away. -/
theorem entry_clear (disk : Disk) (name : String) (outer other : Path) :
    entry? (disk.clear (name :: outer)) other =
      if other = name :: outer then none else disk.entry? other := by
  cases other with
  | nil => rfl
  | cons first rest => exact lookup_filter_ne disk.entries (name :: outer) (first :: rest)

/-! ### Folders -/

/-- **A path leads to a folder.** -/
def IsFolder (disk : Disk) (path : Path) : Prop := disk.reach path = .ok (some .folder)

/-- **Nothing is at a path,** and no file is on the way to it. -/
def IsMissing (disk : Disk) (path : Path) : Prop :=
  disk.reach path = .ok none ∨ disk.reach path = .error .notFound

/-- **Everything stands in a folder.** -/
def Grounded (disk : Disk) : Prop :=
  ∀ name outer, disk.entry? (name :: outer) ≠ none → disk.IsFolder outer

/-- What is listed stands in a folder when every entry does. -/
theorem grounded_of_entries {disk : Disk}
    (inside : ∀ listed ∈ disk.entries, disk.IsFolder listed.1.tail) : disk.Grounded := by
  intro name outer there
  obtain ⟨listed, member, here⟩ := List.lookup_isSome_iff.mp (Option.ne_none_iff_isSome.mp there)
  have folder := inside listed member
  rwa [← eq_of_beq here] at folder

/-- Inside a folder, a path leads to what is listed for it. -/
theorem reach_inside {disk : Disk} {outer : Path} (inside : disk.IsFolder outer) (name : String) :
    disk.reach (name :: outer) = .ok (disk.entry? (name :: outer)) := by
  rw [reach, show disk.reach outer = .ok (some .folder) from inside]

theorem isFolder_cons (disk : Disk) (name : String) (outer : Path) :
    disk.IsFolder (name :: outer) ↔
      disk.IsFolder outer ∧ disk.entry? (name :: outer) = some .folder := by
  constructor
  · intro folder
    have around : disk.IsFolder outer := by
      rw [IsFolder, reach] at folder
      split at folder
      · cases folder
      · cases folder
      · cases folder
      · assumption
    refine ⟨around, ?_⟩
    rw [IsFolder, reach_inside around] at folder
    exact Except.ok.inj folder
  · rintro ⟨around, listed⟩
    rw [IsFolder, reach_inside around, listed]

/-- **All names on the way to a folder are folders.** -/
theorem isFolder_iff (disk : Disk) (path : Path) :
    disk.IsFolder path ↔ ∀ part, part <:+ path → disk.entry? part = some .folder := by
  induction path with
  | nil =>
    refine iff_of_true rfl fun part suffix => ?_
    rw [List.suffix_nil.mp suffix]
    rfl
  | cons name outer ih =>
    rw [isFolder_cons, ih]
    constructor
    · rintro ⟨around, listed⟩ part suffix
      rcases List.suffix_cons_iff.mp suffix with rfl | within
      · exact listed
      · exact around part within
    · intro all
      exact ⟨fun part suffix => all part (suffix.trans (List.suffix_cons name outer)),
        all _ List.suffix_rfl⟩

/-- A path is missing when its folder is, or when its folder is there and does not list it. -/
theorem isMissing_cons (disk : Disk) (name : String) (outer : Path) :
    disk.IsMissing (name :: outer) ↔
      disk.IsMissing outer ∨ disk.IsFolder outer ∧ disk.entry? (name :: outer) = none := by
  unfold IsMissing IsFolder
  rw [reach]
  split <;> rename_i found <;> rw [found] <;> simp

theorem not_isFolder_of_isMissing {disk : Disk} {path : Path} (missing : disk.IsMissing path) :
    ¬ disk.IsFolder path := by
  intro folder
  rcases missing with none | fault
  · cases none.symm.trans folder
  · cases fault.symm.trans folder

theorem not_suffix_outer (name : String) (outer : Path) : ¬ name :: outer <:+ outer := by
  intro suffix
  have shorter := suffix.length_le
  rw [List.length_cons] at shorter
  omega

/-! ### What a change leaves in place -/

/-- Where a path leads depends on what is listed on the way. -/
theorem reach_congr {disk other : Disk} {path : Path}
    (same : ∀ part, part <:+ path → other.entry? part = disk.entry? part) :
    other.reach path = disk.reach path := by
  induction path with
  | nil => rfl
  | cons name outer ih =>
    have around := ih fun part suffix => same part (suffix.trans (List.suffix_cons name outer))
    rw [reach, reach, around, same _ List.suffix_rfl]

/-- A folder stays one when nothing but a folder is put on the way to it. -/
theorem IsFolder.put {disk : Disk} {path : Path} (folder : disk.IsFolder path) {name : String}
    {outer : Path} {entry : Entry} (kept : name :: outer <:+ path → entry = .folder) :
    (disk.put (name :: outer) entry).IsFolder path := by
  rw [isFolder_iff] at folder ⊢
  intro part suffix
  rw [entry_put]
  split
  · rename_i same
    rw [kept (same ▸ suffix)]
  · exact folder part suffix

theorem IsFolder.clear {disk : Disk} {path : Path} (folder : disk.IsFolder path) {name : String}
    {outer : Path} (apart : ¬ name :: outer <:+ path) :
    (disk.clear (name :: outer)).IsFolder path := by
  rw [isFolder_iff] at folder ⊢
  intro part suffix
  rw [entry_clear, if_neg fun same : part = name :: outer => apart (same ▸ suffix)]
  exact folder part suffix

/-- **Something is put into a folder:** everything stands in a folder as before, unless a folder was
replaced. -/
theorem Grounded.put {disk : Disk} (grounded : disk.Grounded) {name : String} {outer : Path}
    {entry : Entry} (inside : disk.IsFolder outer)
    (kept : disk.entry? (name :: outer) = some .folder → entry = .folder) :
    (disk.put (name :: outer) entry).Grounded := by
  intro first rest there
  rw [entry_put] at there
  by_cases same : first :: rest = name :: outer
  · cases same
    exact inside.put fun suffix => absurd suffix (not_suffix_outer _ _)
  · rw [if_neg same] at there
    have folder := grounded first rest there
    exact folder.put fun suffix => kept ((isFolder_iff _ _).mp folder _ suffix)

/-- **A file is taken away:** everything stands in a folder as before. -/
theorem Grounded.clear {disk : Disk} (grounded : disk.Grounded) {name : String} {outer : Path}
    (file : disk.entry? (name :: outer) ≠ some .folder) :
    (disk.clear (name :: outer)).Grounded := by
  intro first rest there
  rw [entry_clear] at there
  by_cases same : first :: rest = name :: outer
  · rw [if_pos same] at there
    exact absurd rfl there
  · rw [if_neg same] at there
    have folder := grounded first rest there
    exact folder.clear fun suffix => file ((isFolder_iff _ _).mp folder _ suffix)

/-- Nothing is listed in a folder that is missing. -/
theorem Grounded.entry_of_isMissing {disk : Disk} (grounded : disk.Grounded) {outer : Path}
    (missing : disk.IsMissing outer) (name : String) : disk.entry? (name :: outer) = none := by
  by_contra there
  exact not_isFolder_of_isMissing missing (grounded name outer there)

/-! ### Making folders -/

/-- Making one folder where nothing is. -/
theorem makeFolder_inside {disk : Disk} {name : String} {outer : Path}
    (inside : disk.IsFolder outer) (absent : disk.entry? (name :: outer) = none) :
    disk.makeFolder (name :: outer) = .ok (disk.put (name :: outer) .folder) := by
  rw [makeFolder, reach_inside inside, absent]
  rfl

/-- A folder added to those on the way around it. -/
theorem entry_put_folder {disk around : Disk} {name : String} {outer : Path}
    (others : ∀ other, around.entry? other =
      if other <:+ outer then some .folder else disk.entry? other) (other : Path) :
    entry? (around.put (name :: outer) .folder) other =
      if other <:+ name :: outer then some .folder else disk.entry? other := by
  rw [entry_put, others]
  by_cases same : other = name :: outer
  · rw [if_pos same, if_pos (same ▸ List.suffix_rfl)]
  · have within : other <:+ name :: outer ↔ other <:+ outer := by
      rw [List.suffix_cons_iff, or_iff_right same]
    rw [if_neg same]
    simp only [within]

/-- What a folder and those on the way to it already list. -/
theorem entry_isFolder {disk : Disk} {path : Path} (folder : disk.IsFolder path) (other : Path) :
    disk.entry? other = if other <:+ path then some .folder else disk.entry? other := by
  split
  · rename_i suffix
    exact (isFolder_iff _ _).mp folder other suffix
  · rfl

/-- **Making a folder** makes it and the folders on the way, and changes nothing else. -/
theorem makeFolders_spec {disk : Disk} (grounded : disk.Grounded) {path : Path}
    (reachable : disk.IsFolder path ∨ disk.IsMissing path) :
    ∃ made, disk.makeFolders path = .ok made ∧ made.Grounded ∧
      ∀ other, made.entry? other = if other <:+ path then some .folder else disk.entry? other := by
  induction path with
  | nil => exact ⟨disk, rfl, grounded, entry_isFolder rfl⟩
  | cons name outer ih =>
    rcases reachable with folder | missing
    · refine ⟨disk, ?_, grounded, entry_isFolder folder⟩
      rw [makeFolders, show disk.reach (name :: outer) = .ok (some .folder) from folder]
    rcases (isMissing_cons _ _ _).mp missing with around | ⟨folder, absent⟩
    · -- The folder around it is made first.
      obtain ⟨made, done, sound, others⟩ := ih (.inr around)
      have folder : made.IsFolder outer := by
        rw [isFolder_iff]
        intro part suffix
        rw [others, if_pos suffix]
      have absent : made.entry? (name :: outer) = none := by
        rw [others, if_neg (not_suffix_outer _ _), grounded.entry_of_isMissing around]
      have fault : disk.reach (name :: outer) = .error .notFound := by
        rcases around with found | found <;> rw [reach, found]
      refine ⟨_, ?_, sound.put folder fun _ => rfl, entry_put_folder others⟩
      rw [makeFolders, fault]
      simp only [done]
      exact makeFolder_inside folder absent
    · refine ⟨_, ?_, grounded.put folder fun _ => rfl, entry_put_folder (entry_isFolder folder)⟩
      rw [makeFolders, reach_inside folder, absent]
      exact makeFolder_inside folder absent

/-! ### The other calls -/

theorem read_missing {disk : Disk} {path : Path} (missing : disk.IsMissing path) :
    disk.read path = .error .notFound := by
  rcases missing with found | found <;> rw [read, found] <;> rfl

theorem remove_missing {disk : Disk} {path : Path} (missing : disk.IsMissing path) :
    disk.remove path = .error .notFound := by
  rcases missing with found | found <;> rw [remove, found] <;> rfl

variable {disk : Disk} {outer : Path} {name : String}

/-- The bytes of a text are read as that text. -/
theorem fromUTF8_toUTF8 (text : String) : String.fromUTF8? text.toUTF8 = some text :=
  dif_pos text.isValidUTF8

/-- **Reading** gives back the text of a file. -/
theorem read_file (inside : disk.IsFolder outer) {text : String}
    (here : disk.entry? (name :: outer) = some (.file text.toUTF8)) :
    disk.read (name :: outer) = .ok text := by
  rw [read, reach_inside inside, here]
  simp only [bind, Except.bind, fromUTF8_toUTF8]
  rfl

/-- **Writing** puts a file where no folder is. -/
theorem write_inside (inside : disk.IsFolder outer)
    (free : disk.entry? (name :: outer) ≠ some .folder) (text : String) :
    disk.write (name :: outer) text = .ok (disk.put (name :: outer) (.file text.toUTF8)) := by
  rw [write, reach_inside inside]
  cases found : disk.entry? (name :: outer) with
  | none => rfl
  | some entry =>
    cases entry with
    | file content => rfl
    | folder => exact absurd found free

/-- **What was written is read,** whatever the disk is like otherwise. -/
theorem read_write {disk written : Disk} {path : Path} {text : String}
    (done : disk.write path text = .ok written) : written.read path = .ok text := by
  cases path with
  | nil => cases done
  | cons name outer =>
    have inside : disk.IsFolder outer := by
      rw [write, reach] at done
      unfold IsFolder
      split at done
      · cases done
      · cases done
      · cases done
      · assumption
    have put : written = disk.put (name :: outer) (.file text.toUTF8) := by
      rw [write, reach_inside inside] at done
      cases found : disk.entry? (name :: outer) with
      | none =>
        rw [found] at done
        exact (Except.ok.inj done).symm
      | some entry =>
        rw [found] at done
        cases entry with
        | file content => exact (Except.ok.inj done).symm
        | folder => cases done
    subst put
    exact read_file (inside.put fun suffix => absurd suffix (not_suffix_outer _ _))
      (by rw [entry_put, if_pos rfl])

/-- **Renaming** moves a file to where no folder is. -/
theorem rename_inside (inside : disk.IsFolder outer) {target : String} {content : ByteArray}
    (here : disk.entry? (name :: outer) = some (.file content))
    (free : disk.entry? (target :: outer) ≠ some .folder) :
    disk.rename (name :: outer) (target :: outer) =
      .ok ((disk.clear (name :: outer)).put (target :: outer) (.file content)) := by
  rw [rename, reach_inside inside, reach_inside inside, here]
  cases found : disk.entry? (target :: outer) with
  | none => rfl
  | some entry =>
    cases entry with
    | file content => rfl
    | folder => exact absurd found free

/-- Nothing is moved from where nothing is. -/
theorem rename_missing (inside : disk.IsFolder outer) (absent : disk.entry? (name :: outer) = none)
    (target : String) : disk.rename (name :: outer) (target :: outer) = .error .notFound := by
  rw [rename, reach_inside inside, reach_inside inside, absent]
  rfl

/-- **A draft that takes the place of a file:** the text is there, the draft is gone, and nothing
else in the folder is different. -/
theorem replace_inside (grounded : disk.Grounded) (inside : disk.IsFolder outer)
    {draft target : String} (apart : target ≠ draft)
    (draftFree : disk.entry? (draft :: outer) ≠ some .folder)
    (targetFree : disk.entry? (target :: outer) ≠ some .folder) (text : String) :
    ∃ written moved, disk.write (draft :: outer) text = .ok written ∧
      written.rename (draft :: outer) (target :: outer) = .ok moved ∧
      moved.Grounded ∧ moved.IsFolder outer ∧
      ∀ name, moved.entry? (name :: outer) =
        if name = target then some (.file text.toUTF8)
        else if name = draft then none
        else disk.entry? (name :: outer) := by
  have asName : ∀ {name other : String}, name :: outer = other :: outer ↔ name = other := by simp
  let written := disk.put (draft :: outer) (.file text.toUTF8)
  have soundWritten : written.Grounded := grounded.put inside fun folder => absurd folder draftFree
  have insideWritten : written.IsFolder outer :=
    inside.put fun suffix => absurd suffix (not_suffix_outer _ _)
  have draftWritten : written.entry? (draft :: outer) = some (.file text.toUTF8) := by
    rw [entry_put, if_pos rfl]
  have targetWritten : written.entry? (target :: outer) = disk.entry? (target :: outer) := by
    rw [entry_put, if_neg (mt asName.mp apart)]
  have soundCleared := soundWritten.clear fun folder => nomatch draftWritten.symm.trans folder
  have insideCleared := insideWritten.clear (not_suffix_outer draft outer)
  have targetCleared : entry? (written.clear (draft :: outer)) (target :: outer) =
      disk.entry? (target :: outer) := by
    rw [entry_clear, if_neg (mt asName.mp apart), targetWritten]
  refine ⟨written, _, write_inside inside draftFree text,
    rename_inside insideWritten draftWritten (targetWritten ▸ targetFree),
    soundCleared.put insideCleared fun folder => absurd (targetCleared ▸ folder) targetFree,
    insideCleared.put fun suffix => absurd suffix (not_suffix_outer _ _), fun name => ?_⟩
  rw [entry_put, entry_clear, entry_put]
  simp only [asName]
  by_cases isTarget : name = target
  · rw [if_pos isTarget, if_pos isTarget]
  · rw [if_neg isTarget, if_neg isTarget]
    by_cases isDraft : name = draft
    · rw [if_pos isDraft, if_pos isDraft]
    · rw [if_neg isDraft, if_neg isDraft, if_neg isDraft]

/-- **Removing** takes a file away. -/
theorem remove_file (inside : disk.IsFolder outer) {content : ByteArray}
    (here : disk.entry? (name :: outer) = some (.file content)) :
    disk.remove (name :: outer) = .ok (disk.clear (name :: outer)) := by
  rw [remove, reach_inside inside, here]
  rfl

/-- **The names in a folder** are those of the entries that stand in it. -/
theorem names_inside (inside : disk.IsFolder outer) :
    ∃ listed, disk.names outer = .ok listed ∧
      ∀ name, name ∈ listed ↔ disk.entry? (name :: outer) ≠ none := by
  rw [names, show disk.reach outer = .ok (some .folder) from inside]
  refine ⟨_, rfl, fun name => ?_⟩
  rw [List.mem_mergeSort, List.mem_filterMap]
  show _ ↔ disk.entries.lookup (name :: outer) ≠ none
  rw [Option.ne_none_iff_isSome, List.lookup_isSome_iff]
  refine exists_congr fun entry => and_congr_right fun _ => ?_
  obtain ⟨path, entry⟩ := entry
  cases path with
  | nil => simp
  | cons first rest =>
    rw [beq_iff_eq, List.cons.injEq, eq_comm (a := name), eq_comm (a := outer)]
    by_cases here : rest = outer <;> simp [here]

end LaneChart.Files.Disk
