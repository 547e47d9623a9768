import Accelerator.Site.Basic

/-! Locks of devices: one file for each device in a directory, held by one holder at a time. -/

namespace Accelerator

structure DeviceLock where
  name : String
  path : String
  file : Location
deriving DecidableEq

namespace DeviceLock

def nameFor (device : Nat) : String :=
  s!"DPU_{device}"

def fileNameFor (device : Nat) : String :=
  nameFor device ++ ".lock"

/-- The lock of a device, with its file made where it is missing. It is not held yet. -/
def prepare (directory : String) (device : Nat) : Action DeviceError DeviceLock := do
  let path := Path.join directory (fileNameFor device)
  match (← get).files.openFile path with
  | .error e => Action.fail (.lock (nameFor device) e)
  | .ok (file, files) =>
    modify fun s => { s with files }
    return { name := nameFor device, path, file }

def hold (lock : DeviceLock) : Action DeviceError Bool := do
  if (← get).held.contains lock.file then return false
  modify fun s => { s with held := lock.file :: s.held }
  return true

/-- The lock, or nothing when it is held elsewhere. -/
def tryAcquire (directory : String) (device : Nat) : Action DeviceError (Option DeviceLock) := do
  let lock ← prepare directory device
  if ← lock.hold then return some lock else return none

/-- The lock, or nothing while its holder has to be waited for. That one waits is reported
once, by the first attempt. -/
def acquire (directory : String) (device : Nat) (again : Bool) :
    Action DeviceError (Option DeviceLock) := do
  let lock ← prepare directory device
  if ← lock.hold then
    Action.emit (.lockAcquired lock.name lock.path)
    return some lock
  else
    if !again then Action.emit (.lockAwaited lock.name)
    return none

end DeviceLock

end Accelerator
