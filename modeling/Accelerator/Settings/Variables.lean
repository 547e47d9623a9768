import Accelerator.Settings.Basic
import Accelerator.Text.Blank

/-! Settings given as variables. A value that is blank counts as not given, except that of
a fingerprint. -/

namespace Accelerator

/-- The value of each variable; of repeated ones the last. -/
abbrev Variables := Table String String

namespace Variables

/-- What `value` reads as, or the setting at fault. -/
def readSetting {α : Type} (read : List Char → Except NumberError α) (key value : String) :
    Except DeviceError α :=
  match read value.toList with
  | .ok a => .ok a
  | .error e => .error (.invalidSetting key value e.message)

/-- The value without the white space around it, unless nothing is left. -/
def value? (vars : Variables) (key : String) : Option String :=
  ((vars.get? key).map trimText).filter (· ≠ "")

def valueOr {α : Type} (vars : Variables) (read : List Char → Except NumberError α)
    (key : String) (default : α) : Except DeviceError α :=
  match vars.value? key with
  | none => .ok default
  | some value => readSetting read key value

def readFlag (cs : List Char) : Except NumberError Bool :=
  if ["on", "ON", "true", "TRUE", "yes", "YES"].contains (String.ofList cs) then .ok true
  else if ["off", "OFF", "false", "FALSE", "no", "NO"].contains (String.ofList cs) then .ok false
  else (readInt 0x7fffffffffffffff cs).map (· ≠ 0)

def readWord (cs : List Char) : Except NumberError Nat :=
  readNat (wordLimit - 1) cs

def readByte (cs : List Char) : Except NumberError Nat :=
  readNat 255 cs

def fingerprintOf? (key : String) : Option String :=
  let suffix := ".fingerprint".toList
  if suffix.isSuffixOf key.toList then
    some (String.ofList (key.toList.take (key.toList.length - suffix.length)))
  else none

def readFingerprint (key value : String) : Except DeviceError UInt64 :=
  match readWord (trim value.toList) with
  | .ok n => .ok (UInt64.ofNat n)
  | .error e => .error (.invalidSetting key value e.message)

def fingerprints : Variables → Except DeviceError (Table String UInt64)
  | [] => .ok []
  | (key, value) :: vars =>
    match fingerprintOf? key with
    | none => fingerprints vars
    | some unit => do
      let n ← readFingerprint key value
      return (unit, n) :: (← fingerprints vars)

def striping (vars : Variables) : Except DeviceError Striping := do
  let default : Striping := {}
  let enabled ← vars.valueOr readFlag "DRAM_ADDRESS_MAPPING" default.enabled
  let bankCount ← vars.valueOr readWord "DRAM_NUM_OF_BANK" default.bankCount
  let bankRange ← vars.valueOr readWord "DRAM_BANK_RANGE" default.bankRange
  return { enabled, bankCount, bankRange }

def verbosity (vars : Variables) : Except DeviceError Verbosity := do
  let devices ← vars.valueOr readByte "DEBUG_XRT_DEVICE_HANDLE" 0
  let buffers ← vars.valueOr readByte "DEBUG_BUFFER_OBJECT" 0
  let units ← vars.valueOr readByte "DEBUG_XRT_CU" 0
  let controllers ← vars.valueOr readByte "DEBUG_DPU_CONTROLLER" 0
  return { devices, buffers, units, controllers }

def selection (vars : Variables) : Except DeviceError Selection :=
  match vars.value? "XLNX_ENABLE_DEVICES" with
  | none => .ok .all
  | some value => Selection.read value

end Variables

def Settings.ofVariables (assignments : List (String × String)) (lockDirectory : String) :
    Except DeviceError Settings := do
  let vars : Variables := Table.ofPairs assignments
  let default : Settings := { lockDirectory }
  let fingerprints ← vars.fingerprints
  let striping ← vars.striping
  let verbosity ← vars.verbosity
  let selection ← vars.selection
  let skipImageLoad ← vars.valueOr Variables.readFlag "XLNX_DISABLE_LOAD_XCLBIN" false
  let dryRun ← vars.valueOr Variables.readFlag "XLNX_XRT_CU_DRY_RUN" false
  let timeout ← vars.valueOr Variables.readWord "XLNX_DPU_TIMEOUT" default.timeout
  let controllersDisabled ←
    vars.valueOr Variables.readFlag "DISABLE_DPU_CONTROLLER_XRT" false
  return { default with
    firmware := vars.value? "XLNX_VART_FIRMWARE"
    selection
    skipImageLoad
    kernelOverride := vars.value? "XLNX_DPU_TYPE"
    fingerprints
    dryRun
    timeout
    verbosity
    striping
    controllersDisabled }

def Variables.temporaryDirectory (vars : Variables) : String :=
  (vars.get? "TMPDIR").getD Settings.usualLockDirectory

def Settings.ofEnvironment (assignments : List (String × String)) :
    Except DeviceError Settings :=
  ofVariables assignments (Variables.temporaryDirectory (Table.ofPairs assignments))

end Accelerator
