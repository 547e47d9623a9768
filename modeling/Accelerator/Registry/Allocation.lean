import Accelerator.Buffer
import Accelerator.Site.Memory

/-! Buffers made for the units of a registry. -/

namespace Accelerator

namespace Registry

/-- The number of a new buffer among the striped ones, if it is one. -/
def slotFor (r : Registry) (size : Nat) : Nat × Registry :=
  if r.settings.striping.appliesTo size then r.nextStripeSlot else (0, r)

def place (r : Registry) (size device slot : Nat) (unitName : String) :
    Action DeviceError Placement := do
  match r.settings.striping.placement size slot with
  | .error f => Action.fault f
  | .ok (some placement) => return placement
  | .ok none =>
    let e : DeviceError :=
      .allocation size r.bank device "striped size overflows the address space"
    Action.emit (.placementFailed device unitName size e.message)
    Action.fail e

def allocate (r : Registry) (size physicalSize device : Nat) (unitName : String) :
    Action DeviceError Memory :=
  ExceptT.mk do
    match ← (Memory.alloc device physicalSize r.bank).run with
    | .error (.error e) =>
      modify fun s => s.emit (.allocationFailed device unitName size r.bank e.message)
      return .error (.error e)
    | result => return result

/-- A zeroed buffer on a device that was found. `id` is the number of the registry. -/
def fillBuffer (r : Registry) (id size device slot : Nat) (unitName : String) :
    Action DeviceError Buffer := do
  let placement ← r.place size device slot unitName
  let memory ← r.allocate size placement.physicalSize device unitName
  let memory ← memory.clear
  match checkedAdd memory.address placement.offset with
  | none => Action.fault .addOverflow
  | some 0 =>
    Action.emit (.addressNull device unitName)
    Action.fail (.nullAddress device unitName)
  | some address =>
    Action.emit (.bufferCreated device unitName size placement.physicalSize placement.offset
      address memory.host.isSome)
    return { registry := id, memory, size, placement, device, unitName, address }

end Registry

end Accelerator
