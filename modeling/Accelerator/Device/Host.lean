import Accelerator.Device.Basic
import Accelerator.Device.Memory
import Accelerator.Device.Run
import Accelerator.Path

/-! A simulated host with its devices, and what all of them share: the images known by
path, the course that commands take, and the counts of what was done. -/

namespace Accelerator

structure Host where
  devices : List Device
  /-- Images by the parts of their paths. -/
  images : Table (List String) Image := []
  /-- Fingerprints that kernels of these full names are built with. -/
  fingerprints : Table String UInt64 := []
  behavior : Behavior := .completeAfter 1
  failStart : Bool := false
  submissions : Nat := 0
  submissionsByKernel : Table String Nat := []
  syncs : Nat := 0
  lastPacket : Option Packet := none
  /-- Registers written since their kernels were built. -/
  registers : Table (Kernel × UInt32) UInt32 := []
deriving DecidableEq

namespace Host

def driverName : String := "sim"

def fingerprintLow : UInt32 := 0x1f0

def fingerprintHigh : UInt32 := 0x1f4

def ofCount (n : Nat) : Host where
  devices := List.replicate n {}

def deviceCount (h : Host) : Nat :=
  h.devices.length

def addImage (h : Host) (path : String) (image : Image) : Host :=
  { h with images := h.images.put (Path.parts path) image }

def addFingerprint (h : Host) (fullName : String) (n : UInt64) : Host :=
  { h with fingerprints := h.fingerprints.put fullName n }

def openImage (h : Host) (path : String) : Except DeviceError Image :=
  match h.images.get? (Path.parts path) with
  | some image => .ok image
  | none => .error (.imageOpen path "no such image")

def openDevice (h : Host) (index : Nat) : Except DeviceError Device :=
  match h.devices[index]? with
  | some d => .ok d
  | none => .error (.driver s!"device {index} out of range ({h.deviceCount} present)")

def setDevice (h : Host) (index : Nat) (d : Device) : Host :=
  { h with devices := h.devices.set index d }

/-- Changes a device; none is changed where there is none. -/
def modifyDevice (h : Host) (index : Nat) (f : Device → Device) : Host :=
  { h with devices := h.devices.modify index f }

/-- The image's uuid as the device reports it once the image is loaded. -/
def loadImage (h : Host) (index : Nat) (image : Image) : Except DeviceError (Uuid × Host) := do
  let d := (← h.openDevice index).load image
  return (d.reported image.uuid, h.setDevice index d)

def imageUuid? (h : Host) (index : Nat) : Option Uuid :=
  h.devices[index]?.bind Device.imageUuid?

def openKernel (h : Host) (index : Nat) (uuid : Uuid) (request : String) :
    Except DeviceError Kernel := do
  (← h.openDevice index).openKernel index uuid request

def initialRegister (h : Host) (kernel : Kernel) (offset : UInt32) : UInt32 :=
  let fingerprint := (h.fingerprints.get? kernel.name).getD 0
  if offset = fingerprintHigh then (fingerprint >>> 32).toUInt32
  else if offset = fingerprintLow then fingerprint.toUInt32
  else 0

def readRegister (h : Host) (kernel : Kernel) (offset : UInt32) : UInt32 :=
  (h.registers.get? (kernel, offset)).getD (h.initialRegister kernel offset)

def writeRegister (h : Host) (kernel : Kernel) (offset value : UInt32) : Host :=
  { h with registers := h.registers.put (kernel, offset) value }

def readFingerprint (h : Host) (kernel : Kernel) : UInt64 :=
  (h.readRegister kernel fingerprintHigh).toUInt64 <<< 32 |||
    (h.readRegister kernel fingerprintLow).toUInt64

/-- The largest block of memory that can be asked of the host itself. -/
def maxBlock : Nat := 0x8000000000000000

def submissionsOf (h : Host) (fullName : String) : Nat :=
  (h.submissionsByKernel.get? fullName).getD 0

/-- Submits the packet of a run, accepted and started at the given times. -/
def start (h : Host) (r : Run) (accepted running : Nat) : Except DeviceError (Run × Host) :=
  if h.failStart then .error (.driver s!"cannot start command on {r.kernel}")
  else
    let r := r.started h.behavior accepted running
    .ok (r, { h with
      submissions := h.submissions + 1
      submissionsByKernel := h.submissionsByKernel.put r.kernel (h.submissionsOf r.kernel + 1)
      lastPacket := some r.packet })

def sync (h : Host) (m : Memory) (direction : SyncDirection) (size offset : Nat) :
    Except DeviceError (Memory × Host) := do
  let m ← m.sync direction size offset
  return (m, { h with syncs := h.syncs + 1 })

theorem openDevice_eq_ok_iff {h : Host} {index : Nat} {d : Device} :
    h.openDevice index = .ok d ↔ h.devices[index]? = some d := by
  unfold openDevice
  split <;> simp_all

end Host

end Accelerator
