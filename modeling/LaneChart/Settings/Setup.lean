/-
**Setting up a project.** The desk is registered in the project's list of servers, and a settings
file is made if there is none. A settings file that is there is never changed, and neither is any
other entry of the list.

* `serverEntry`, `register`: the entry, and the list with it.
* `Setup`: which files are concerned.
* `Setup.run`: both steps. The list is written before the settings are looked at.
-/

import LaneChart.Settings.File

namespace LaneChart

/-- **The files that a setup concerns.** -/
structure Setup where
  /-- the program that the entry starts -/
  program : String
  serverList : Files.Path
  settings : Files.Path
deriving DecidableEq, Repr

/-- Why a setup fails. -/
inductive SetupFault where
  | serverList (fault : Files.Fault)
  | settings (fault : SettingsFault)
deriving DecidableEq, Repr

/-- How it is said that a setup fails. -/
def SetupFault.message : SetupFault → String
  | .serverList fault => fault.message
  | .settings fault => fault.message

namespace Setup

/-- The name of the entry. -/
def serverKey : String := "swimlane"

/-- **The entry** of a program in a list of servers. -/
def serverEntry (program : String) : Json :=
  .object [("args", .list []), ("command", .text program), ("type", .text "stdio")]

/-- **A list of servers with the entry.** What is not an object counts as an empty one. -/
def register (program : String) (root : Json) : Json :=
  let members := root.members?.getD []
  let servers := ((members.lookup "mcpServers").bind Json.members?).getD []
  .object (Json.insert "mcpServers"
    (.object (Json.insert serverKey (serverEntry program) servers)) members)

/-- The list of servers in a text; what is not JSON counts as null. -/
def serversIn (text : String) : Json := (Json.parse text).toOption.getD .null

/-- Registers the program in its file. -/
def registerIn (setup : Setup) (disk : Files.Disk) : Except Files.Fault Files.Disk := do
  let root ← match disk.read setup.serverList with
    | .ok text => pure (serversIn text)
    | .error .notFound => pure .null
    | .error fault => throw fault
  disk.write setup.serverList (register setup.program root).pretty

/-- The settings, and the disk with a file of standard settings if there was none. -/
def seedSettings (setup : Setup) (disk : Files.Disk) :
    Except SettingsFault (Settings × Files.Disk) :=
  if disk.has setup.settings then do return (← Settings.load disk setup.settings, disk)
  else
    match Settings.save disk setup.settings {} with
    | .ok disk => .ok ({}, disk)
    | .error fault => .error (.unreadable fault)

/-- **Sets up a project.** Gives back the settings in force. -/
def run (setup : Setup) : StateM Files.Disk (Except SetupFault Settings) := fun disk =>
  match setup.registerIn disk with
  | .error fault => (.error (.serverList fault), disk)
  | .ok disk =>
    match setup.seedSettings disk with
    | .error fault => (.error (.settings fault), disk)
    | .ok (settings, disk) => (.ok settings, disk)

end Setup

end LaneChart
