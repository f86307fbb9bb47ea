/-
**Setting up a project does no damage and can be repeated.** A setup puts one entry into the list
of servers, keeps all others, and never touches a settings file that is there. Once it has been run,
the disk is settled: another run puts the same list in the place of the list and finds the same
settings.

* `Setup.Starts`: an entry that starts a program.
* `Setup.Registered`: a list of servers that differs from an older one by such an entry.
* `Setup.Workable`: the disks on which a setup can write.
* `Setup.Settled`: a disk on which a setup has been run; `Setup.Settled.step` is another run.
* `Setup.Workable.settled`: the first run settles the disk.
* `Setup.run_merges_and_settles`: the result.
-/

import LaneChart.Proofs.Json.Reprinting
import LaneChart.Proofs.Json.RoundTrip
import LaneChart.Proofs.Settings.Merging
import LaneChart.Settings.Setup

namespace LaneChart.Setup

open Json Files

/-! ### The list of servers -/

/-- **An entry that starts a program,** over standard input and output and without arguments. It
says this and nothing else. -/
structure Starts (program : String) (entry : Json) : Prop where
  type : entry.get? "type" = some (.text "stdio")
  command : entry.get? "command" = some (.text program)
  args : entry.get? "args" = some (.list [])
  keys : ∀ key value, entry.get? key = some value → key ∈ ["args", "command", "type"]

/-- **A list of servers that differs from an older one,** which need not be there, by an entry that
starts a program. What is no object has no members. -/
structure Registered (program : String) (old : Option Json) (root : Json) : Prop where
  isObject : root.isObject = true
  others : ∀ key, key ≠ "mcpServers" → root.get? key = old.bind (·.get? key)
  servers : ∃ servers, root.get? "mcpServers" = some servers ∧ servers.isObject = true ∧
    (∃ entry, servers.get? "swimlane" = some entry ∧ Starts program entry) ∧
    ∀ key, key ≠ "swimlane" →
      servers.get? key = (old.bind (·.get? "mcpServers")).bind (·.get? key)

/-- The entry that a setup writes starts the program. -/
theorem starts_serverEntry (program : String) : Starts program (serverEntry program) where
  type := rfl
  command := rfl
  args := rfl
  keys _ _ found := List.mem_map_of_mem (f := Prod.fst) (mem_of_lookup found)

theorem get_insert (key wanted : String) (value : Json) (members : Members) :
    (Json.object (insert key value members)).get? wanted =
      if wanted = key then some value else (Json.object members).get? wanted :=
  lookup_insert key wanted value members

theorem members_getD (old : Option Json) :
    (old.getD .null).members?.getD [] = (old.bind members?).getD [] := by
  cases old <;> rfl

/-- What is not there, or no object, has no members. -/
theorem get_members (old : Option Json) (key : String) :
    (Json.object ((old.bind members?).getD [])).get? key = old.bind (·.get? key) := by
  cases old with
  | none => rfl
  | some value => cases value <;> rfl

/-- **Registering a program changes its entry and nothing else.** -/
theorem registered_register (program : String) (old : Option Json) :
    Registered program old (register program (old.getD .null)) := by
  let members := (old.bind members?).getD []
  let servers := ((members.lookup "mcpServers").bind members?).getD []
  let withEntry := Json.object (insert "swimlane" (serverEntry program) servers)
  have shape : register program (old.getD .null) =
      .object (insert "mcpServers" withEntry members) := by
    unfold register
    rw [members_getD]
    rfl
  have outer : ∀ key, (Json.object members).get? key = old.bind (·.get? key) := get_members old
  have inner : ∀ key, (Json.object servers).get? key =
      (old.bind (·.get? "mcpServers")).bind (·.get? key) := by
    intro key
    rw [← outer]
    exact get_members _ key
  rw [shape]
  refine ⟨rfl, fun key other => ?others, withEntry, ?servers, rfl,
    ⟨_, ?entry, starts_serverEntry program⟩, fun key other => ?otherServers⟩
  case others => rw [get_insert, if_neg other, outer]
  case servers => rw [get_insert, if_pos rfl]
  case entry => rw [get_insert, if_pos rfl]
  case otherServers => rw [get_insert, if_neg other, inner]

/-- **A program that is registered may as well be registered again.** -/
theorem register_register (program : String) (old : Json) :
    register program (register program old) = register program old := by
  unfold register
  simp only [members?, Option.getD_some, lookup_insert, if_true, Option.bind_some, insert_insert]

theorem within_serverEntry (program : String) (depth : Nat) :
    Within Ascending (depth + 2) (serverEntry program) := by
  have keys : (["args", "command", "type"] : List String).Pairwise (· < ·) := by decide
  refine ⟨List.pairwise_map.mp keys, ?_⟩
  simp only [List.forall_mem_cons, within_text, true_and]
  exact ⟨List.forall_mem_nil _, List.forall_mem_nil _⟩

/-- A list of servers that can be read can be read with the entry. -/
theorem within_register (program : String) {depth : Nat} {old : Json}
    (within : Within Ascending (depth + 4) old) :
    Within Ascending (depth + 4) (register program old) := by
  have members : Within Ascending (depth + 4) (.object (old.members?.getD [])) := by
    cases old with
    | object members => exact within
    | _ => exact ⟨List.Pairwise.nil, List.forall_mem_nil _⟩
  have servers : Within Ascending (depth + 3) (.object
      ((((old.members?.getD []).lookup "mcpServers").bind members?).getD [])) := by
    cases found : (old.members?.getD []).lookup "mcpServers" with
    | none => exact ⟨List.Pairwise.nil, List.forall_mem_nil _⟩
    | some value =>
      have inside := members.2 _ (mem_of_lookup found)
      cases value with
      | object servers => exact inside
      | _ => exact ⟨List.Pairwise.nil, List.forall_mem_nil _⟩
  exact within_insert members (within_insert servers (within_serverEntry program depth))

/-! ### Disks that have been set up -/

/-- The disk after so many runs. -/
def afterRuns (setup : Setup) (n : Nat) (disk : Disk) : Disk :=
  (fun disk => (setup.run disk).2)^[n] disk

variable {setup : Setup} {disk : Disk}

/-- **A disk with a list of servers** in its place, which has the entry and can be read. -/
structure Listing (setup : Setup) (root : Json) (disk : Disk) : Prop where
  grounded : disk.Grounded
  inside : disk.IsFolder setup.serverList.tail
  listed : disk.entry? setup.serverList = some (.file root.pretty.toUTF8)
  readable : parse root.pretty = .ok root
  registered : register setup.program root = root

/-- **A disk on which a setup has been run.** Something is at the path of the settings, and it is
what the setup answers with. -/
structure Settled (setup : Setup) (root : Json) (answer : Except SetupFault Settings)
    (disk : Disk) : Prop extends Listing setup root disk where
  present : disk.has setup.settings = true
  answers : (Settings.load disk setup.settings).mapError .settings = answer

theorem load_congr {other : Disk} {path : Path} (same : other.reach path = disk.reach path) :
    Settings.load other path = Settings.load disk path := by
  unfold Settings.load Disk.read
  rw [same]

theorem has_congr {other : Disk} {path : Path} (same : other.reach path = disk.reach path) :
    other.has path = disk.has path := by
  unfold Disk.has
  rw [same]

theorem seedSettings_present (present : disk.has setup.settings = true) :
    setup.seedSettings disk =
      (Settings.load disk setup.settings).map fun settings => (settings, disk) := by
  rw [seedSettings, if_pos present]
  cases Settings.load disk setup.settings <;> rfl

/-- What a run does when it can write the list and the settings are there. -/
theorem run_present {listed : Disk} (registers : setup.registerIn disk = .ok listed)
    (present : listed.has setup.settings = true) :
    setup.run disk = ((Settings.load listed setup.settings).mapError .settings, listed) := by
  unfold run
  rw [registers]
  simp only [seedSettings_present present]
  cases Settings.load listed setup.settings <;> rfl

namespace Settled

variable {root : Json} {answer : Except SetupFault Settings}

theorem exists_cons (settled : setup.Settled root answer disk) :
    ∃ name outer, setup.serverList = name :: outer := by
  cases shape : setup.serverList with
  | nil =>
    have listed := settled.listed
    rw [shape] at listed
    cases listed
  | cons name outer => exact ⟨name, outer, rfl⟩

/-- **Another run answers the same,** and changes nothing. -/
theorem step (settled : setup.Settled root answer disk) :
    (setup.run disk).1 = answer ∧
      (∀ path, Disk.entry? (setup.run disk).2 path = disk.entry? path) ∧
      setup.Settled root answer (setup.run disk).2 := by
  obtain ⟨name, outer, shape⟩ := settled.exists_cons
  have inside : disk.IsFolder outer := by
    have inside := settled.inside
    rwa [shape] at inside
  have here : disk.entry? (name :: outer) = some (.file root.pretty.toUTF8) :=
    shape ▸ settled.listed
  let again := disk.put (name :: outer) (.file root.pretty.toUTF8)
  have registers : setup.registerIn disk = .ok again := by
    unfold registerIn
    rw [shape, Disk.read_file inside here]
    show disk.write (name :: outer) (register setup.program (serversIn root.pretty)).pretty = _
    rw [serversIn, settled.readable]
    show disk.write (name :: outer) (register setup.program root).pretty = _
    rw [settled.registered]
    exact Disk.write_inside inside (by rw [here]; nofun) root.pretty
  have same : ∀ path, again.entry? path = disk.entry? path := by
    intro path
    rw [Disk.entry_put]
    split
    · rename_i at_
      rw [at_, here]
    · rfl
  have reached : ∀ path, again.reach path = disk.reach path :=
    fun path => Disk.reach_congr fun part _ => same part
  have present : again.has setup.settings = true :=
    (has_congr (reached _)).trans settled.present
  have answers : (Settings.load again setup.settings).mapError .settings = answer := by
    rw [load_congr (reached _)]
    exact settled.answers
  rw [run_present registers present]
  refine ⟨answers, same, ⟨?_, ?_, ?_, settled.readable, settled.registered⟩, present, answers⟩
  · exact settled.grounded.put inside fun folder => by rw [here] at folder; cases folder
  · exact (reached _).trans settled.inside
  · exact (same _).trans settled.listed

/-- **So do any number of runs.** -/
theorem steps (settled : setup.Settled root answer disk) (n : Nat) :
    (∀ path, Disk.entry? (setup.afterRuns n disk) path = disk.entry? path) ∧
      setup.Settled root answer (setup.afterRuns n disk) := by
  induction n with
  | zero => exact ⟨fun _ => rfl, settled⟩
  | succ n ih =>
    obtain ⟨same, still⟩ := ih
    obtain ⟨_, also, next⟩ := still.step
    rw [afterRuns, Function.iterate_succ_apply']
    exact ⟨fun path => (also path).trans (same path), next⟩

end Settled

/-! ### The first run -/

/-- **A disk on which a setup can write.** The folder of the list of servers is there, and the list
is absent or a text, whose numbers are whole if it is JSON. At the path of the settings there is
anything, or nothing in a place where a file can be made. -/
structure Workable (setup : Setup) (disk : Disk) : Prop where
  grounded : disk.Grounded
  isPlace : setup.serverList ≠ []
  inside : disk.IsFolder setup.serverList.tail
  apart : ¬setup.serverList <:+ setup.settings
  list : disk.entry? setup.serverList = none ∨
    ∃ text : String, disk.entry? setup.serverList = some (.file text.toUTF8) ∧
      ∀ value, parse text = .ok value → Integral value
  settings : disk.has setup.settings = true ∨ disk.IsMissing setup.settings

/-- The list of servers on a disk, if there is a text and it is JSON. -/
def listOn (setup : Setup) (disk : Disk) : Option Json :=
  match disk.read setup.serverList with
  | .ok content => (parse content).toOption
  | .error _ => none

/-- The list of servers that a run writes. -/
def merged (setup : Setup) (disk : Disk) : Json :=
  register setup.program ((setup.listOn disk).getD .null)

/-- The disk with a list of servers in its place. -/
def listed (setup : Setup) (disk : Disk) (root : Json) : Disk :=
  disk.put setup.serverList (.file root.pretty.toUTF8)

theorem entry_listed (isPlace : setup.serverList ≠ []) (root : Json) (path : Path) :
    Disk.entry? (setup.listed disk root) path =
      if path = setup.serverList then some (.file root.pretty.toUTF8) else disk.entry? path := by
  obtain ⟨name, outer, shape⟩ := List.exists_cons_of_ne_nil isPlace
  rw [listed, shape, Disk.entry_put]

namespace Workable

/-- The list is written with the entry, and can be read again. -/
theorem registers (workable : setup.Workable disk) :
    setup.registerIn disk = .ok (setup.listed disk (setup.merged disk)) ∧
      Within Ascending nestingLimit ((setup.listOn disk).getD .null) := by
  obtain ⟨name, outer, shape⟩ := List.exists_cons_of_ne_nil workable.isPlace
  have inside : disk.IsFolder outer := by
    have inside := workable.inside
    rwa [shape] at inside
  have list := workable.list
  rw [listed, merged, listOn, registerIn, shape]
  rw [shape] at list
  rcases list with absent | ⟨content, here, whole⟩
  · have missing : disk.IsMissing (name :: outer) :=
      (Disk.isMissing_cons _ _ _).mpr (.inr ⟨inside, absent⟩)
    rw [Disk.read_missing missing]
    exact ⟨Disk.write_inside inside (by rw [absent]; nofun) _, trivial⟩
  · rw [Disk.read_file inside here]
    refine ⟨Disk.write_inside inside (by rw [here]; nofun) _, ?_⟩
    show Within Ascending nestingLimit ((parse content).toOption.getD .null)
    cases read : parse content with
    | error rejection => trivial
    | ok value => exact within_of_parse read (whole value read)

/-- The list is not in the way of the settings. -/
theorem reach_settings (workable : setup.Workable disk) (root : Json) :
    (setup.listed disk root).reach setup.settings = disk.reach setup.settings := by
  refine Disk.reach_congr fun part suffix => ?_
  rw [entry_listed workable.isPlace, if_neg]
  rintro rfl
  exact workable.apart suffix

/-- The list is in its place after it has been written. -/
theorem listing (workable : setup.Workable disk) :
    let root := setup.merged disk
    setup.Listing root (setup.listed disk root) := by
  intro root
  obtain ⟨name, outer, shape⟩ := List.exists_cons_of_ne_nil workable.isPlace
  have inside : disk.IsFolder outer := by
    have inside := workable.inside
    rwa [shape] at inside
  have noFolder : disk.entry? (name :: outer) ≠ some .folder := by
    rw [← shape]
    rcases workable.list with absent | ⟨content, here, -⟩
    · rw [absent]
      nofun
    · rw [here]
      nofun
  have within : Within Ascending nestingLimit root := within_register _ workable.registers.2
  refine ⟨?_, ?_, ?_, parse_pretty within, register_register _ _⟩
  · rw [listed, shape]
    exact workable.grounded.put inside fun folder => absurd folder noFolder
  · rw [listed, shape]
    exact inside.put fun suffix => absurd suffix (Disk.not_suffix_outer _ _)
  · rw [entry_listed workable.isPlace, if_pos rfl]

end Workable

/-- **Saving where nothing is** makes the file and the folders on the way. -/
theorem save_missing (grounded : disk.Grounded) {path : Path} (missing : disk.IsMissing path)
    (settings : Settings) :
    ∃ saved, settings.save disk path = .ok saved ∧ saved.Grounded ∧ saved.has path = true ∧
      ∀ other, saved.entry? other =
        if other = path then some (.file settings.toJson.pretty.toUTF8)
        else if other <:+ path then some .folder
        else disk.entry? other := by
  cases path with
  | nil => exact absurd rfl (Disk.not_isFolder_of_isMissing missing)
  | cons name outer =>
    have reachable : disk.IsFolder outer ∨ disk.IsMissing outer := by
      rcases (Disk.isMissing_cons _ _ _).mp missing with around | ⟨folder, _⟩
      · exact .inr around
      · exact .inl folder
    have absent : disk.entry? (name :: outer) = none := by
      rcases (Disk.isMissing_cons _ _ _).mp missing with around | ⟨_, absent⟩
      · exact grounded.entry_of_isMissing around name
      · exact absent
    obtain ⟨made, done, sound, others⟩ := Disk.makeFolders_spec grounded reachable
    have inside : made.IsFolder outer := by
      rw [Disk.isFolder_iff]
      intro part suffix
      rw [others, if_pos suffix]
    have free : made.entry? (name :: outer) = none := by
      rw [others, if_neg (Disk.not_suffix_outer _ _), absent]
    have noFolder : made.entry? (name :: outer) ≠ some .folder := by
      rw [free]
      nofun
    let saved := made.put (name :: outer) (.file settings.toJson.pretty.toUTF8)
    have entries : ∀ other, saved.entry? other =
        if other = name :: outer then some (.file settings.toJson.pretty.toUTF8)
        else if other <:+ name :: outer then some .folder
        else disk.entry? other := by
      intro other
      rw [Disk.entry_put, others]
      by_cases here : other = name :: outer
      · rw [if_pos here, if_pos here]
      · simp only [if_neg here, List.suffix_cons_iff, or_iff_right here]
    refine ⟨saved, ?_, sound.put inside fun folder => absurd folder noFolder, ?_, entries⟩
    · rw [Settings.save, List.tail_cons, done]
      exact Disk.write_inside inside noFolder _
    · have there : saved.IsFolder outer :=
        inside.put fun suffix => absurd suffix (Disk.not_suffix_outer _ _)
      rw [Disk.has, Disk.reach_inside there, entries, if_pos rfl]

/-- The list stays in its place when the settings are saved. -/
theorem Listing.saved {root : Json} (listing : setup.Listing root disk)
    (missing : disk.IsMissing setup.settings) (apart : ¬setup.serverList <:+ setup.settings)
    {saved : Disk} (grounded : saved.Grounded) {content : String}
    (entries : ∀ other, saved.entry? other =
      if other = setup.settings then some (.file content.toUTF8)
      else if other <:+ setup.settings then some .folder
      else disk.entry? other) : setup.Listing root saved := by
  refine ⟨grounded, ?_, ?_, listing.readable, listing.registered⟩
  · have folders := (Disk.isFolder_iff _ _).mp listing.inside
    refine (Disk.isFolder_iff _ _).mpr fun part suffix => ?_
    have notSettings : part ≠ setup.settings := by
      rintro rfl
      refine Disk.not_isFolder_of_isMissing missing ((Disk.isFolder_iff _ _).mpr ?_)
      exact fun inner within => folders inner (within.trans suffix)
    rw [entries, if_neg notSettings, folders part suffix, ite_self]
  · have notSettings : setup.serverList ≠ setup.settings := fun same =>
      apart (same ▸ List.suffix_rfl)
    rw [entries, if_neg notSettings, if_neg apart, listing.listed]

theorem has_of_isMissing {path : Path} (missing : disk.IsMissing path) : disk.has path = false := by
  rcases missing with found | found <;> rw [Disk.has, found]

namespace Workable

/-- Writing the list changes nothing else. -/
theorem listed_others (workable : setup.Workable disk) (root : Json) {path : Path}
    (other : path ≠ setup.serverList) :
    Disk.entry? (setup.listed disk root) path = disk.entry? path := by
  rw [entry_listed workable.isPlace, if_neg other]

/-- Settings that are there stay, and are what the first run answers with. -/
theorem run_kept (workable : setup.Workable disk) (present : disk.has setup.settings = true) :
    setup.Settled (setup.merged disk) (setup.run disk).1 (setup.run disk).2 ∧
      ∀ path, path ≠ setup.serverList →
        Disk.entry? (setup.run disk).2 path = disk.entry? path := by
  have reached := workable.reach_settings (setup.merged disk)
  have stillPresent := (has_congr reached).trans present
  rw [run_present workable.registers.1 stillPresent]
  exact ⟨⟨workable.listing, stillPresent, rfl⟩, fun _ => workable.listed_others _⟩

/-- Where there are none, the standard settings are saved. -/
theorem run_made (workable : setup.Workable disk) (missing : disk.IsMissing setup.settings) :
    setup.Settled (setup.merged disk) (setup.run disk).1 (setup.run disk).2 ∧
      Settings.load (setup.run disk).2 setup.settings = .ok {} ∧
      ∀ path, path ≠ setup.serverList → ¬path <:+ setup.settings →
        Disk.entry? (setup.run disk).2 path = disk.entry? path := by
  have listing := workable.listing
  have reached := workable.reach_settings (setup.merged disk)
  have stillMissing : (setup.listed disk (setup.merged disk)).IsMissing setup.settings := by
    unfold Disk.IsMissing
    rwa [reached]
  obtain ⟨saved, done, grounded, present, entries⟩ :=
    save_missing listing.grounded stillMissing {}
  have loaded := Settings.load_of_save done
  have ran : setup.run disk = (.ok {}, saved) := by
    unfold run
    rw [workable.registers.1]
    simp only [seedSettings, has_of_isMissing stillMissing, Bool.false_eq_true, if_false, done]
  rw [ran]
  refine ⟨⟨listing.saved stillMissing workable.apart grounded entries, present, ?_⟩, loaded,
    fun path other around => ?_⟩
  · rw [loaded]
    rfl
  · have notSettings : path ≠ setup.settings := fun same => around (same ▸ List.suffix_rfl)
    rw [entries, if_neg notSettings, if_neg around, workable.listed_others _ other]

/-- **The first run settles the disk.** -/
theorem settled (workable : setup.Workable disk) :
    setup.Settled (setup.merged disk) (setup.run disk).1 (setup.run disk).2 := by
  rcases workable.settings with present | missing
  · exact (workable.run_kept present).1
  · exact (workable.run_made missing).1

end Workable

/-- **Setting up a project merges one entry into the list of servers, and can be repeated.** After a
run the list has the entry and all it had before, and nothing else. Settings that are there are not
touched, and neither is anything else on the disk; where there are none, the standard ones are
loaded afterwards. However often the setup is run again, the answer is the same, also when it is
that the settings are broken, and every file stays as it is. -/
theorem run_merges_and_settles (setup : Setup) (disk : Disk) (workable : setup.Workable disk) :
    let answer := (setup.run disk).1
    let after := (setup.run disk).2
    (∃ content root, after.read setup.serverList = .ok content ∧ parse content = .ok root ∧
        Registered setup.program (setup.listOn disk) root) ∧
      (disk.has setup.settings = true →
        after.entry? setup.settings = disk.entry? setup.settings ∧
          answer = (Settings.load disk setup.settings).mapError .settings ∧
          ∀ path, path ≠ setup.serverList → after.entry? path = disk.entry? path) ∧
      (disk.IsMissing setup.settings →
        Settings.load after setup.settings = .ok {} ∧ answer = .ok {} ∧
          ∀ path, path ≠ setup.serverList → ¬path <:+ setup.settings →
            after.entry? path = disk.entry? path) ∧
      ∀ n,
        let again := setup.afterRuns n after
        (setup.run again).1 = answer ∧ ∀ path, again.entry? path = after.entry? path := by
  intro answer after
  have settled := workable.settled
  refine ⟨?merged, fun present => ?_, fun missing => ?_, fun n => ?_⟩
  case merged =>
    obtain ⟨name, outer, shape⟩ := settled.exists_cons
    have inside : after.IsFolder outer := by
      have inside := settled.inside
      rwa [shape] at inside
    refine ⟨_, _, ?_, settled.readable, registered_register setup.program (setup.listOn disk)⟩
    rw [shape]
    exact Disk.read_file inside (shape ▸ settled.listed)
  · obtain ⟨-, kept⟩ := workable.run_kept present
    have onTheWay : ∀ part, part <:+ setup.settings → after.entry? part = disk.entry? part := by
      intro part suffix
      refine kept part ?_
      rintro rfl
      exact workable.apart suffix
    have loaded := load_congr (Disk.reach_congr onTheWay)
    exact ⟨onTheWay _ List.suffix_rfl, by rw [← loaded]; exact settled.answers.symm, kept⟩
  · obtain ⟨-, loaded, others⟩ := workable.run_made missing
    refine ⟨loaded, ?_, others⟩
    have answers := settled.answers
    rw [loaded] at answers
    exact answers.symm
  · obtain ⟨same, still⟩ := settled.steps n
    exact ⟨still.step.1, same⟩

/-- A list with another server in it, in a project that has no settings yet. -/
theorem run_merges_and_settles_otherServer :
    let old := Json.object [("keep", .ofNat 1), ("mcpServers", .object [("other", .null)])]
    let setup : Setup := ⟨"/bin/desk", [".mcp.json", "project"], ["settings.json", "data"]⟩
    let disk := (({} : Disk).put ["project"] .folder).put setup.serverList
      (.file old.compact.toUTF8)
    (∃ content root servers entry, (setup.run disk).2.read setup.serverList = .ok content ∧
        parse content = .ok root ∧ root.get? "keep" = some (.ofNat 1) ∧
        root.get? "mcpServers" = some servers ∧ servers.get? "other" = some .null ∧
        servers.get? "swimlane" = some entry ∧ entry.get? "type" = some (.text "stdio") ∧
        entry.get? "command" = some (.text "/bin/desk") ∧ entry.get? "args" = some (.list [])) ∧
      Settings.load (setup.run disk).2 setup.settings = .ok {} := by
  intro old setup disk
  have readable : parse old.compact = .ok old := by
    have keys : (["keep", "mcpServers"] : List String).Pairwise (· < ·) := by decide
    refine parse_compact ⟨List.pairwise_map.mp keys, ?_⟩
    simp only [List.forall_mem_cons]
    exact ⟨⟨by decide, by decide⟩,
      ⟨List.pairwise_singleton _ _, List.forall_mem_singleton.mpr trivial⟩, List.forall_mem_nil _⟩
  have inside : disk.IsFolder ["project"] := rfl
  have here : disk.entry? [".mcp.json", "project"] = some (.file old.compact.toUTF8) := rfl
  have missing : disk.IsMissing setup.settings := .inr rfl
  have integral : Integral old := by
    refine .object ?_
    simp only [List.forall_mem_cons]
    exact ⟨.number ⟨by decide, by decide⟩, .object (List.forall_mem_singleton.mpr .null),
      List.forall_mem_nil _⟩
  have empty : ({} : Disk).Grounded := fun _ _ there => absurd rfl there
  have top : ({} : Disk).IsFolder [] := rfl
  have around : (({} : Disk).put ["project"] .folder).IsFolder ["project"] := rfl
  have workable : setup.Workable disk :=
    { grounded := (empty.put top fun _ => rfl).put around nofun
      isPlace := List.cons_ne_nil _ _
      inside := inside
      apart := by decide
      list := .inr ⟨old.compact, here, fun value parsed => by
        rwa [Except.ok.inj (parsed.symm.trans readable)]⟩
      settings := .inr missing }
  obtain ⟨⟨content, root, read, parsed, registered⟩, -, settings, -⟩ :=
    run_merges_and_settles setup disk workable
  have known : setup.listOn disk = some old := by
    rw [listOn, Disk.read_file inside here]
    show (parse old.compact).toOption = some old
    rw [readable]
    rfl
  rw [known] at registered
  obtain ⟨servers, found, -, ⟨entry, there, starts⟩, others⟩ := registered.servers
  exact ⟨⟨content, root, servers, entry, read, parsed, registered.others "keep" (by decide), found,
    others "other" (by decide), there, starts.type, starts.command, starts.args⟩,
    (settings missing).1⟩

end LaneChart.Setup
