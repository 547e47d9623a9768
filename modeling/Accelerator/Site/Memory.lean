import Accelerator.Site.Basic

/-! Memory taken from the devices of a site. -/

namespace Accelerator

namespace Memory

def alloc (device size bank : Nat) : Action DeviceError Memory := do
  let d ← Action.ofExcept ((← Action.host).openDevice device)
  match d.alloc device size bank with
  | .error stop => throw stop
  | .ok (address, d') =>
    modify fun s => { s with host := s.host.setDevice device d' }
    Action.emit (.memoryAllocated device size bank address d.unified)
    if Host.maxBlock ≤ size then Action.fault .capacityOverflow
    return fresh address size d.unified

def clear (m : Memory) : Action DeviceError Memory := do
  let zeros := Runs.replicate m.size 0
  match m.host with
  | some _ =>
    Action.onHost fun h => h.sync { m with host := some zeros } .toDevice m.size 0
  | none => Action.ofExcept (m.write zeros 0)

end Memory

end Accelerator
