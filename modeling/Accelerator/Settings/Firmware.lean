import Accelerator.Files
import Accelerator.Settings.Basic
import Accelerator.Settings.Entries

/-! Where the image to load comes from: the settings, then the settings file, then the
default. -/

namespace Accelerator

inductive FirmwareSource where
  | settings
  | settingsFile
  | unreadable
  | unnamed
deriving DecidableEq

namespace Settings

def entries? (s : Settings) (files : Files) : Option Entries :=
  (files.read? s.settingsFile).bind Entries.ofBytes?

def resolveFirmware (s : Settings) (files : Files) : String × FirmwareSource :=
  match s.firmware.filter (· ≠ "") with
  | some path => (path, .settings)
  | none =>
    match s.entries? files with
    | none => (s.defaultFirmware, .unreadable)
    | some entries =>
      match (entries.get? "firmware").filter (· ≠ "") with
      | some path => (path, .settingsFile)
      | none => (s.defaultFirmware, .unnamed)

end Settings

end Accelerator
