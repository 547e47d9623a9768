import Accelerator.Settings.Basic
import Accelerator.Site.Lock

/-! The registry of bound devices and of the compute units found on them. Units are looked
up by the start of their key, in the order of the keys. -/

namespace Accelerator

/-- One core of an image on one device. -/
structure ComputeUnit where
  device : Nat
  uuid : Uuid
  fullName : String
  kernelName : String
  instanceName : String
  /-- As found when the registry was opened. -/
  fingerprint : UInt64
  kernel : Kernel
deriving DecidableEq

namespace ComputeUnit

def text (u : ComputeUnit) : String :=
  s!"ComputeUnitInfo \x7b device_id: {u.device}, full_name: {quoted u.fullName}, " ++
    s!"fingerprint: {Event.fingerprintText u.fingerprint}, .. \x7d"

end ComputeUnit

structure BoundDevice where
  index : Nat
  uuid : Uuid
  lock : DeviceLock
deriving DecidableEq

/-- Compute units by key, in increasing order of the keys. -/
abbrev UnitIndex := List (String × ComputeUnit)

namespace UnitIndex

def keyFor (fullName : String) (device : Nat) : String :=
  s!"{fullName}:{device}"

def insert (key : String) (u : ComputeUnit) : UnitIndex → UnitIndex
  | [] => [(key, u)]
  | (k, v) :: rest =>
    if key = k then (k, u) :: rest
    else if key < k then (key, u) :: (k, v) :: rest
    else (k, v) :: insert key u rest

def matching (name : String) (index : UnitIndex) : List ComputeUnit :=
  (index.filter fun e => name.toList.isPrefixOf e.1.toList).map (·.2)

end UnitIndex

structure Registry where
  settings : Settings
  image : Image
  devices : List BoundDevice
  units : UnitIndex
  /-- The bank that all buffers are allocated in. -/
  bank : Nat
  /-- How many striped buffers were placed. -/
  stripeSlot : Nat := 0
deriving DecidableEq

namespace Registry

def matching (r : Registry) (name : String) : List ComputeUnit :=
  r.units.matching name

def unitCount (r : Registry) (name : String) : Nat :=
  (r.matching name).length

def lockFiles (r : Registry) : List Location :=
  r.devices.map (·.lock.file)

def unit (r : Registry) (name : String) (index : Nat) : Except DeviceError ComputeUnit :=
  match (r.matching name)[index]? with
  | some u => .ok u
  | none => .error (.unitNotFound name index)

/-- The device of that number, if it has a unit that matches the name. -/
def findDevice (r : Registry) (name : String) (device : Nat) : Except DeviceError Nat :=
  match (r.matching name).find? fun u => u.device = device with
  | some u => .ok u.device
  | none => .error (.deviceNotFound device name)

/-- The number of the next striped buffer, and the registry that counted it. -/
def nextStripeSlot (r : Registry) : Nat × Registry :=
  (r.stripeSlot, { r with stripeSlot := (r.stripeSlot + 1) % wordLimit })

def lookUp (r : Registry) (name : String) (index : Nat) : Action DeviceError ComputeUnit :=
  Action.reporting (fun _ => .unitMissing name index) (r.unit name index)

/-- What is asked of the unit at a position. -/
def ask {α : Type} (r : Registry) (about : ComputeUnit → α) (name : String) (index : Nat) :
    Action DeviceError α := do
  return about (← r.lookUp name index)

def lookUpDevice (r : Registry) (name : String) (device : Nat) : Action DeviceError Nat :=
  Action.reporting (fun _ => .deviceMissing device name) (r.findDevice name device)

def readRegister (r : Registry) (name : String) (index : Nat) (offset : UInt32) :
    Action DeviceError UInt32 := do
  let u ← r.lookUp name index
  return (← Action.host).readRegister u.kernel offset

def writeRegister (r : Registry) (name : String) (index : Nat) (offset value : UInt32) :
    Action DeviceError Unit := do
  let u ← r.lookUp name index
  modify fun s => { s with host := s.host.writeRegister u.kernel offset value }

def text (r : Registry) : String :=
  let bytes := bracketed (r.image.uuid.bytes.toList.map fun b => toString b.toNat)
  s!"DeviceRegistry \x7b driver: {quoted Host.driverName}, image: ImageUuid({bytes}), " ++
    s!"devices: {r.devices.length}, cus: {quotedList (r.units.map (·.1))}, " ++
    s!"bank: {r.bank} \x7d"

theorem findDevice_eq_ok_iff {r : Registry} {name : String} {device n : Nat} :
    r.findDevice name device = .ok n ↔ n = device ∧ ∃ u ∈ r.matching name, u.device = device := by
  unfold findDevice
  split
  · next u hu =>
    have hd : u.device = device := by simpa using List.find?_some hu
    have hm := List.mem_of_find?_eq_some hu
    simp only [hd, Except.ok.injEq]
    exact ⟨fun h => ⟨h.symm, u, hm, hd⟩, fun h => h.1.symm⟩
  · next hn =>
    simp only [List.find?_eq_none, decide_eq_true_eq] at hn
    simp only [reduceCtorEq, false_iff]
    rintro ⟨-, u, hu, hd⟩
    exact hn u hu hd

end Registry

end Accelerator
