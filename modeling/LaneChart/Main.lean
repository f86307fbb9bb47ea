/-
**The program.** With the argument `init` it sets up the project in the current folder. Otherwise
it answers requests line by line until the input ends.

The library works on a picture of the files that matter. The program takes the picture before
every operation and afterwards writes back what is different.
-/

import LaneChart.Desk.Conversation
import LaneChart.Settings.Setup
import LaneChart.Slots.Folder

namespace LaneChart.Program

/-- The names on the way to a file. -/
def pathOf (text : String) : Files.Path := ((text.splitOn "/").filter (· ≠ "")).reverse

/-- The place of a path. -/
def locationOf (path : Files.Path) : String := "/" ++ "/".intercalate path.reverse

/-- The picture with what is found at a path and on the way to it. -/
def look (disk : Files.Disk) : Files.Path → IO Files.Disk
  | [] => return disk
  | name :: outer => do
    let disk ← look disk outer
    let location := (← IO.currentDir) / locationOf (name :: outer)
    if ← location.isDir then return disk.put (name :: outer) .folder
    else if ← location.pathExists then
      return disk.put (name :: outer) (.file (← IO.FS.readBinFile location))
    else return disk

/-- The picture of several paths. -/
def picture (paths : List Files.Path) : IO Files.Disk := paths.foldlM look {}

/-- Makes the file at a path what it is in a picture. A text takes its place in one step. -/
def writeBack (path : Files.Path) (entry : Option Files.Entry) : IO Unit := do
  match entry, path with
  | some (.file content), name :: outer =>
    let draft := locationOf (s!".{name}.tmp" :: outer)
    IO.FS.createDirAll (locationOf outer)
    IO.FS.writeBinFile draft content
    IO.FS.rename draft (locationOf path)
  | some .folder, _ => IO.FS.createDirAll (locationOf path)
  | _, _ => IO.FS.removeFile (locationOf path)

/-- Runs an operation on the picture of some paths, and writes back those that are different. -/
def onFiles {α : Type} (paths : List Files.Path) (run : StateM Files.Disk α) : IO α := do
  let before ← picture paths
  let (result, after) := run.run before
  for path in paths do
    if before.entry? path ≠ after.entry? path then writeBack path (after.entry? path)
  return result

/-- The folder of a user. -/
def homeFolder : IO Files.Path := do return pathOf ((← IO.getEnv "HOME").getD ".")

/-- Sets up the project in the current folder. -/
def setUp : IO UInt32 := do
  let folder : Files.Path := ".swimlane" :: (← homeFolder)
  let setup : Setup :=
    { program := (← IO.appPath).toString
      serverList := ".mcp.json" :: pathOf (← IO.currentDir).toString
      settings := "settings.json" :: folder }
  match ← onFiles [setup.serverList, setup.settings] setup.run with
  | .error fault =>
    IO.eprintln s!"Error: {fault.message}"
    return 1
  | .ok settings =>
    IO.eprintln s!"Wrote {locationOf setup.serverList}\n\nLanes:"
    for label in settings.lanes.labels do
      let padding := String.ofList (List.replicate (16 - label.id.length) ' ')
      IO.eprintln s!"  {label.id}{padding} {label.name}"
    IO.eprintln "\nDone. MCP clients started in this directory will use swimlane."
    return 0

/-- Answers one line. -/
def answer (settings : Settings) (folder : Files.Path) (line : String) : IO Unit := do
  match Json.parse line with
  | .error _ => return ()
  | .ok request =>
    let paths := Slot.all.map fun slot => slot.key :: folder
    let reply ← onFiles paths fun disk =>
      let desk : Desk SlotFolder := ⟨settings, ⟨disk, folder⟩⟩
      let (reply, desk) := (Desk.reply? request).run desk
      (reply, desk.storage.disk)
    match reply with
    | none => return ()
    | some reply =>
      IO.println reply.compact
      (← IO.getStdout).flush

/-- Answers line by line. -/
partial def serve (settings : Settings) (folder : Files.Path) : IO Unit := do
  let line ← (← IO.getStdin).getLine
  if line.isEmpty then return ()
  answer settings folder line
  serve settings folder

end LaneChart.Program

open LaneChart LaneChart.Program

/-- Runs the program. -/
def main (arguments : List String) : IO UInt32 := do
  if arguments.head? = some "init" then setUp
  else
    let folder : Files.Path := ".swimlane" :: (← homeFolder)
    let path : Files.Path := "settings.json" :: folder
    let settings := Settings.loadOrStandard (← picture [path]) path
    serve settings folder
    return 0
