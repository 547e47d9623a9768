import Accelerator.Image
import Accelerator.Text.Quoted

/-! What can go wrong, by cause, and how each cause is worded. -/

namespace Accelerator

instance decidableEqExcept {ε α : Type} [DecidableEq ε] [DecidableEq α] :
    DecidableEq (Except ε α)
  | .error e, .error e' => decidable_of_iff (e = e') (by simp)
  | .ok a, .ok a' => decidable_of_iff (a = a') (by simp)
  | .error _, .ok _ => isFalse (by simp)
  | .ok _, .error _ => isFalse (by simp)

inductive FileError where
  | notFound
  | notDirectory
  | isDirectory
  | nameTooLong
  | nulInName
  | other (text : String)
deriving DecidableEq

def FileError.message : FileError → String
  | notFound => "No such file or directory (os error 2)"
  | notDirectory => "Not a directory (os error 20)"
  | isDirectory => "Is a directory (os error 21)"
  | nameTooLong => "File name too long (os error 36)"
  | nulInName => "file name contained an unexpected NUL byte"
  | other text => text

inductive DeviceError where
  | noDriver
  | noDevices
  | noDeviceSelected (enableList : String) (available : Nat)
  | imageOpen (path reason : String)
  | uuidMismatch (device : Nat) (loaded expected : Uuid)
  | imageNotResident (device : Nat)
  | noValidBank
  | noComputeUnits
  | unitNotFound (unitName : String) (index : Nat)
  | deviceNotFound (device : Nat) (unitName : String)
  | allocation (size bank device : Nat) (reason : String)
  | nullAddress (device : Nat) (unitName : String)
  | lock (name : String) (cause : FileError)
  | invalidSetting (key value reason : String)
  | driver (reason : String)
  | outOfRange (offset size bufferSize : Nat)
  | payloadOverflow (words capacity : Nat)
deriving DecidableEq

namespace DeviceError

def message : DeviceError → String
  | noDriver => "no device driver installed"
  | noDevices => "no devices can be used"
  | noDeviceSelected list available =>
    s!"no device selected: enable list {quoted list} with {available} device(s) present"
  | imageOpen path reason => s!"cannot open hardware image {path}: {reason}"
  | uuidMismatch device loaded expected =>
    s!"uuid loaded on device {device} ({loaded.text}) mismatches image uuid ({expected.text})"
  | imageNotResident device => s!"no hardware image resident on device {device}"
  | noValidBank => "cannot find any valid memory bank in the hardware image"
  | noComputeUnits => "no compute units can be used"
  | unitNotFound name index => s!"cannot find cu handle with cu_name {name} and cu_index {index}"
  | deviceNotFound device name =>
    s!"cannot find device handle for device id {device} and cu_name {name}"
  | allocation size bank device reason =>
    s!"allocation of {size} bytes in bank {bank} on device {device} failed: {reason}"
  | nullAddress device name =>
    s!"buffer on device {device} for cu {name} has a null physical address"
  | lock name cause => s!"cannot lock {name}: {cause.message}"
  | invalidSetting key value reason => s!"invalid configuration {key}={quoted value}: {reason}"
  | driver reason => s!"driver error: {reason}"
  | outOfRange offset size bufferSize =>
    s!"out of range: offset {offset} + size {size} exceeds buffer size {bufferSize}"
  | payloadOverflow words capacity =>
    s!"payload of {words} words exceeds packet capacity {capacity}"

/-- Whether the surroundings are broken, and not only the request. -/
def isFatal : DeviceError → Bool
  | outOfRange .. => false
  | payloadOverflow .. => false
  | _ => true

end DeviceError

inductive DispatchError where
  | device (cause : DeviceError)
  | busy (unitName : String)
  | noComputeUnits (unitNames : String)
  | unknownKernel (kernelName : String)
  | controllersDisabled
deriving DecidableEq

namespace DispatchError

def message : DispatchError → String
  | device cause => s!"Device error: {cause.message}"
  | busy name => s!"Device busy: no cu available for cu_name {name}"
  | noComputeUnits names => s!"No compute units found for {names}"
  | unknownKernel name => s!"No controller registered for kernel '{name}'"
  | controllersDisabled => "Controller creation disabled (DISABLE_DPU_CONTROLLER_XRT)"

def isFatal : DispatchError → Bool
  | device cause => cause.isFatal
  | busy _ => false
  | _ => true

end DispatchError

/-- Breaches of a function's own terms. A call that ends in one has no result. -/
inductive Fault where
  | refused (cause : DeviceError)
  | addOverflow
  | remainderByZero
  | mulOverflow
  | capacityOverflow
  | beyondEnd (stop length : Nat)
deriving DecidableEq

def Fault.message : Fault → String
  | refused cause => cause.message
  | addOverflow => "attempt to add with overflow"
  | remainderByZero => "attempt to calculate the remainder with a divisor of zero"
  | mulOverflow => "attempt to multiply with overflow"
  | capacityOverflow => "capacity overflow"
  | beyondEnd stop length =>
    s!"range end index {stop} out of range for slice of length {length}"

/-- Why a call ends without a result. -/
inductive Stop (ε : Type) where
  | error (cause : ε)
  | fault (cause : Fault)
deriving DecidableEq

end Accelerator
