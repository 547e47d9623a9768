import Accelerator.World.Basic

/-! Buffers of a world: how they are made on a registry, accessed and dropped. -/

namespace Accelerator

namespace World

def setRegistryOf (w : World) (handle : Nat) (r : Registry) : World :=
  match w.handles.get? handle with
  | none => w
  | some id => { w with registries := w.registries.set id r }

def nextStripeSlot (w : World) (handle : Nat) : Option (Nat × World) :=
  (w.registryOf? handle).map fun r =>
    let (slot, r) := r.nextStripeSlot
    (slot, w.setRegistryOf handle r)

def createBuffer (w : World) (handle size device : Nat) (unitName : String) :
    Option (Except (Stop DeviceError) Nat × World) := do
  let id ← w.handles.get? handle
  let r ← w.registries.get? id
  match w.perform (r.lookUpDevice unitName device) with
  | (.error stop, w) => return (.error stop, w)
  | (.ok device, w) =>
    let (slot, r) := r.slotFor size
    let w := { w with registries := w.registries.set id r }
    match w.perform (r.fillBuffer id size device slot unitName) with
    | (.error stop, w) => return (.error stop, w)
    | (.ok b, w) =>
      let made := w.buffers.insert b
      return (.ok made.1, { w with buffers := made.2 })

def settleTransfer (w : World) (id : Nat) (t : Transfer) : World :=
  let host := w.site.host
  let site := { w.site with host := { host with syncs := host.syncs + t.syncs } }
  { w with buffers := w.buffers.set id t.buffer, site := site.emitAll t.events }

def transfer (w : World) (id : Nat) (access : Buffer → Except DeviceError Transfer) :
    Option (Except DeviceError (Runs UInt8) × World) :=
  (w.buffers.get? id).map fun b =>
    match access b with
    | .error e => (.error e, w)
    | .ok t => (.ok t.bytes, w.settleTransfer id t)

/-- Reads as many bytes as `out` has, in their place. They stay where this fails. -/
def readInto (w : World) (id : Nat) (out : Runs UInt8) (offset : Nat) :
    Option (Except DeviceError Unit × Runs UInt8 × World) :=
  (w.transfer id (·.copyToHost out.length offset)).map fun r =>
    match r.1 with
    | .error e => (.error e, out, r.2)
    | .ok bytes => (.ok (), bytes, r.2)

def setBuffer (w : World) (id : Nat) (b : Buffer) : World :=
  { w with buffers := w.buffers.set id b }

def dropBuffer (w : World) (id : Nat) : World :=
  match w.buffers.get? id with
  | none => w
  | some b =>
    let verbose := (w.registries.get? b.registry).any fun r => 0 < r.settings.verbosity.buffers
    let w := if verbose then w.emit (.bufferReleased b.device b.address) else w
    { w with buffers := w.buffers.erase id }.collect b.registry

end World

end Accelerator
