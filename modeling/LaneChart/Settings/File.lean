/-
**The settings file.**

* `SettingsFault`: why a file gives no settings.
* `Settings.load`, `Settings.save`: reading and writing a file.
* `Settings.loadOrStandard`: settings whatever the file is like.
-/

import LaneChart.Files.Disk
import LaneChart.Settings.Basic

namespace LaneChart

/-- **Why a file gives no settings.** -/
inductive SettingsFault where
  | unreadable (fault : Files.Fault)
  | invalid (rejection : Json.Rejection)
deriving DecidableEq, Repr

/-- How it is said that a file gives no settings. -/
def SettingsFault.message : SettingsFault → String
  | .unreadable fault => s!"storage unavailable: {fault.message}"
  | .invalid rejection => s!"settings file is invalid: {rejection.message}"

namespace Settings

/-- The settings in a file. -/
def load (disk : Files.Disk) (path : Files.Path) : Except SettingsFault Settings :=
  match disk.read path with
  | .error fault => .error (.unreadable fault)
  | .ok text => (ofText text).mapError .invalid

/-- Writes settings into a file, and makes the folders on the way. -/
def save (disk : Files.Disk) (path : Files.Path) (settings : Settings) :
    Except Files.Fault Files.Disk := do
  (← disk.makeFolders path.tail).write path settings.toJson.pretty

/-- The settings in a file, or the standard ones when there is anything wrong with it. -/
def loadOrStandard (disk : Files.Disk) (path : Files.Path) : Settings :=
  (load disk path).toOption.getD {}

end Settings

end LaneChart
