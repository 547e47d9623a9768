import Accelerator.Event
import Accelerator.Failure
import Accelerator.Runs
import Accelerator.Word

/-! Allocated memory as the device sees it and, where it is mapped, as the host does. The
two views agree only where they were synchronised. -/

namespace Accelerator

structure Memory where
  address : Nat
  device : Runs UInt8
  host : Option (Runs UInt8)
deriving DecidableEq

namespace Memory

/-- What memory holds before anything was written. -/
def filler : UInt8 := 0xa5

def fresh (address size : Nat) (unified : Bool) : Memory where
  address
  device := Runs.replicate size filler
  host := if unified then some (Runs.replicate size filler) else none

def size (m : Memory) : Nat :=
  m.device.length

def checkRange (m : Memory) (offset size : Nat) : Except DeviceError Unit :=
  match checkedAdd offset size with
  | some stop => if stop ≤ m.size then .ok () else beyond
  | none => beyond
where
  beyond : Except DeviceError Unit :=
    .error (.driver s!"access [{offset}, +{size}) beyond allocation of {m.size}")

/-- Copies a range of one view to the other. There is nothing to copy without a host view. -/
def sync (m : Memory) (direction : SyncDirection) (size offset : Nat) :
    Except DeviceError Memory := do
  m.checkRange offset size
  match m.host with
  | none => return m
  | some host =>
    match direction with
    | .toDevice => return { m with device := m.device.overwrite offset (host.slice offset size) }
    | .fromDevice =>
      return { m with host := some (host.overwrite offset (m.device.slice offset size)) }

def write (m : Memory) (src : Runs UInt8) (offset : Nat) : Except DeviceError Memory := do
  m.checkRange offset src.length
  return { m with device := m.device.overwrite offset src }

def read (m : Memory) (size offset : Nat) : Except DeviceError (Runs UInt8) := do
  m.checkRange offset size
  return m.device.slice offset size

/-- Writes to the host's view alone; nothing happens without one. -/
def writeHost (m : Memory) (src : Runs UInt8) (offset : Nat) : Except Fault (Option Memory) :=
  match m.host with
  | none => .ok none
  | some host =>
    if offset + src.length ≤ host.length then
      .ok (some { m with host := some (host.overwrite offset src) })
    else .error (.beyondEnd (offset + src.length) host.length)

end Memory

end Accelerator
