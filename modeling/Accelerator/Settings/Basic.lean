import Accelerator.Selection
import Accelerator.Striping
import Accelerator.Table

/-! Everything about a run of the host that can be set. -/

namespace Accelerator

structure Verbosity where
  devices : Nat := 0
  buffers : Nat := 0
  units : Nat := 0
  controllers : Nat := 0
deriving DecidableEq

structure Settings where
  /-- The image to load, whatever the settings file and the default say. -/
  firmware : Option String := none
  settingsFile : String := "/etc/vart.conf"
  defaultFirmware : String := "/usr/lib/dpu.xclbin"
  selection : Selection := .all
  /-- Use the images that the devices hold already. -/
  skipImageLoad : Bool := false
  /-- The kernel name to choose a controller by, in place of the one found. -/
  kernelOverride : Option String := none
  /-- Fingerprints that replace those of the compute units with these full names. -/
  fingerprints : Table String UInt64 := []
  /-- Commands count as completed without being submitted. -/
  dryRun : Bool := false
  /-- In milliseconds, as is `pollInterval`. -/
  timeout : Nat := 10000
  pollInterval : Nat := 1000
  verbosity : Verbosity := {}
  striping : Striping := {}
  controllersDisabled : Bool := false
  lockDirectory : String
deriving DecidableEq

namespace Settings

/-- The directory for temporary files where the surroundings name none. -/
def usualLockDirectory : String := "/tmp"

def ensure (ok : Bool) (key value reason : String) : Except DeviceError Unit :=
  if ok then .ok () else .error (.invalidSetting key value reason)

def validateStriping (s : Striping) : Except DeviceError Unit := do
  if s.enabled then
    ensure (0 < s.bankCount) "DRAM_NUM_OF_BANK" "0" "must be positive"
    ensure (0 < s.bankRange) "DRAM_BANK_RANGE" "0" "must be positive"
    ensure s.padding.isSome "DRAM_BANK_RANGE" (toString s.bankRange)
      s!"{s.bankCount} banks overflow the address space"

/-- What the rest of the library relies on. -/
def validate (s : Settings) : Except DeviceError Unit := do
  validateStriping s.striping
  ensure (0 < s.timeout) "XLNX_DPU_TIMEOUT" "0" "must be positive"
  ensure (0 < s.pollInterval) "poll_interval" "0" "must be positive"

end Settings

end Accelerator
