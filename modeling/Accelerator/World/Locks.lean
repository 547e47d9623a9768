import Accelerator.World.Basic

/-! Locks of devices that are held by themselves, without a registry. -/

namespace Accelerator

namespace World

def tryLock (w : World) (directory : String) (device : Nat) :
    Except (Stop DeviceError) (Option Nat) × World :=
  match w.perform (DeviceLock.tryAcquire directory device) with
  | (.error stop, w) => (.error stop, w)
  | (.ok none, w) => (.ok none, w)
  | (.ok (some lock), w) =>
    let made := w.locks.insert lock
    (.ok (some made.1), { w with locks := made.2 })

/-- Takes a lock, or says that it has to be waited for; `again` when it was tried before. -/
def lock (w : World) (directory : String) (device : Nat) (again : Bool) :
    Except (Stop DeviceError) (Option Nat) × World :=
  match w.perform (DeviceLock.acquire directory device again) with
  | (.error stop, w) => (.error stop, w)
  | (.ok none, w) => (.ok none, w)
  | (.ok (some lock), w) =>
    let made := w.locks.insert lock
    (.ok (some made.1), { w with locks := made.2 })

def unlock (w : World) (id : Nat) : World :=
  match w.locks.get? id with
  | none => w
  | some lock =>
    { w with locks := w.locks.erase id, site := w.site.release [lock.file] }

end World

end Accelerator
