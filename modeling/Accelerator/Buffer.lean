import Accelerator.Registry.Basic

/-! Buffers: a window of `size` bytes inside an allocation that may be larger. Offsets count
from the start of the window. -/

namespace Accelerator

structure Buffer where
  /-- The registry that the buffer keeps open. -/
  registry : Nat
  memory : Memory
  size : Nat
  placement : Placement
  device : Nat
  unitName : String
  /-- Address of the first byte of the window. -/
  address : Nat
deriving DecidableEq

structure Transfer where
  buffer : Buffer
  bytes : Runs UInt8 := []
  /-- How often memory was synchronised. -/
  syncs : Nat := 0
  events : List Event := []

namespace Buffer

def isHostMapped (b : Buffer) : Bool :=
  b.memory.host.isSome

def hostView (b : Buffer) : Option (Runs UInt8) :=
  b.memory.host.map (Runs.slice b.placement.offset b.size)

def deviceView (b : Buffer) : Runs UInt8 :=
  b.memory.device.slice b.placement.offset b.size

def addressAt (b : Buffer) (offset : Nat) : Except Fault Nat :=
  match checkedAdd b.address offset with
  | some a => .ok a
  | none => .error .addOverflow

def checkRange (b : Buffer) (offset size : Nat) : Except DeviceError Unit :=
  match checkedAdd offset size with
  | some stop => if stop ≤ b.size then .ok () else beyond
  | none => beyond
where
  beyond : Except DeviceError Unit := .error (.outOfRange offset size b.size)

/-- Writes to the host's view of the window alone; nothing happens without one. -/
def writeHost (b : Buffer) (src : Runs UInt8) (offset : Nat) : Except Fault (Option Buffer) :=
  match b.memory.host with
  | none => .ok none
  | some host =>
    if offset + src.length ≤ b.size then
      let host := host.overwrite (b.placement.offset + offset) src
      .ok (some { b with memory := { b.memory with host := some host } })
    else .error (.beyondEnd (offset + src.length) b.size)

/-- Writes to the window and makes it visible to the device. -/
def copyFromHost (b : Buffer) (src : Runs UInt8) (offset : Nat) :
    Except DeviceError Transfer := do
  b.checkRange offset src.length
  let start := b.placement.offset + offset
  let events := [.copiedFromHost b.device offset src.length]
  match b.memory.host with
  | some host =>
    let written := { b.memory with host := some (host.overwrite start src) }
    let memory ← written.sync .toDevice src.length start
    return { buffer := { b with memory }, syncs := 1, events }
  | none =>
    let memory ← b.memory.write src start
    return { buffer := { b with memory }, events }

def copyToHost (b : Buffer) (size offset : Nat) : Except DeviceError Transfer := do
  b.checkRange offset size
  let start := b.placement.offset + offset
  let events := [.copiedToHost b.device offset size]
  match b.memory.host with
  | none =>
    let bytes ← b.memory.read size start
    return { buffer := b, bytes, events }
  | some _ =>
    let memory ← b.memory.sync .fromDevice size start
    let bytes := (memory.host.map (Runs.slice start size)).getD []
    return { buffer := { b with memory }, bytes, syncs := 1, events }

/-- Makes one view of a range of the window agree with the other. -/
def sync (b : Buffer) (direction : SyncDirection) (offset size : Nat) :
    Except DeviceError Transfer := do
  b.checkRange offset size
  if b.isHostMapped then
    let memory ← b.memory.sync direction size (b.placement.offset + offset)
    return { buffer := { b with memory }, syncs := 1 }
  else return { buffer := b, events := [.syncSkipped b.device direction] }

def syncForRead (b : Buffer) (offset size : Nat) : Except DeviceError Transfer :=
  b.sync .fromDevice offset size

def syncForWrite (b : Buffer) (offset size : Nat) : Except DeviceError Transfer :=
  b.sync .toDevice offset size

def text (b : Buffer) : String :=
  s!"BufferObject \x7b device_id: {b.device}, cu_name: {quoted b.unitName}, " ++
    s!"size: {b.size}, physical_size: {b.placement.physicalSize}, " ++
    s!"bank_offset: {b.placement.offset}, phy: {shortHexText b.address} \x7d"

end Buffer

end Accelerator
