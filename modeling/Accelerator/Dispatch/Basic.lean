import Accelerator.Registry.Basic

/-! Dispatchers: one slot for commands on every compute unit that matches a name. -/

namespace Accelerator

structure Instance where
  unit : ComputeUnit
  run : Run
deriving DecidableEq

structure Dispatcher where
  registry : Nat
  unitName : String
  instances : List Instance
deriving DecidableEq

namespace Dispatcher

/-- A dispatcher over the units of a registry that match a name; there may be none. `id` is
the number of the registry. -/
def create {ε : Type} (r : Registry) (id : Nat) (unitName : String) : Action ε Dispatcher := do
  let units := r.matching unitName
  modify fun s => s.emitAll (units.map fun u =>
    .contextCreated unitName u.device u.fullName u.fingerprint)
  Action.emit (.dispatcherReady unitName units.length)
  return {
    registry := id
    unitName
    instances := units.map fun unit => { unit, run := { kernel := unit.kernel.name } } }

def size (d : Dispatcher) : Nat :=
  d.instances.length

def unit (d : Dispatcher) (index : Nat) : Except DispatchError ComputeUnit :=
  match d.instances[index]? with
  | some i => .ok i.unit
  | none => .error (.device (.unitNotFound d.unitName index))

def deviceId (d : Dispatcher) (index : Nat) : Except DispatchError Nat :=
  (d.unit index).map (·.device)

def fullName (d : Dispatcher) (index : Nat) : Except DispatchError String :=
  (d.unit index).map (·.fullName)

def kernelName (d : Dispatcher) (index : Nat) : Except DispatchError String :=
  (d.unit index).map (·.kernelName)

def instanceName (d : Dispatcher) (index : Nat) : Except DispatchError String :=
  (d.unit index).map (·.instanceName)

def fingerprint (d : Dispatcher) (index : Nat) : Except DispatchError UInt64 :=
  (d.unit index).map (·.fingerprint)

def readRegister (d : Dispatcher) (h : Host) (index : Nat) (offset : UInt32) :
    Except DispatchError UInt32 :=
  (d.unit index).map fun u => h.readRegister u.kernel offset

def writeRegister (d : Dispatcher) (h : Host) (index : Nat) (offset value : UInt32) :
    Except DispatchError Host :=
  (d.unit index).map fun u => h.writeRegister u.kernel offset value

def text (d : Dispatcher) : String :=
  s!"ComputeUnitDispatcher \x7b cu_name: {quoted d.unitName}, " ++
    s!"instances: {bracketed (d.instances.map (·.unit.text))} \x7d"

end Dispatcher

end Accelerator
