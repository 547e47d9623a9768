import Accelerator.World.Basic

/-! Dispatchers and controllers of a world, and the commands run on them. -/

namespace Accelerator

namespace World

def createDispatcher (w : World) (handle : Nat) (unitName : String) :
    Option (Except (Stop DispatchError) Nat × World) := do
  let id ← w.handles.get? handle
  let r ← w.registries.get? id
  match w.perform (Dispatcher.create r id unitName) with
  | (.error stop, w) => return (.error stop, w)
  | (.ok d, w) =>
    let made := w.dispatchers.insert d
    return (.ok made.1, { w with dispatchers := made.2 })

def dropDispatcher (w : World) (id : Nat) : World :=
  match w.dispatchers.get? id with
  | none => w
  | some d => { w with dispatchers := w.dispatchers.erase id }.collect d.registry

/-- Nanoseconds from one reading of the simulated clock to the next. -/
def tick : Nat := 50

/-- The clock that a command meets: a poll takes its interval where the command hangs, and
two readings otherwise. -/
def clockFor (w : World) (settings : Settings) : Clock settings.timeout :=
  match w.site.host.behavior with
  | .hang => Clock.steady w.site.now (nanos settings.pollInterval / 2 + tick) _
  | _ => Clock.steady w.site.now tick _

def runOnDispatcher (w : World) (d : Dispatcher) (core : Nat) (populate : Populate) :
    Option (RunReport × Dispatcher × World) :=
  (w.registries.get? d.registry).map fun r =>
    let (report, d, site) := d.run r.settings (w.clockFor r.settings) core populate w.site
    (report, d, { w with site })

def runDispatcher (w : World) (id core : Nat) (populate : Populate) :
    Option (RunReport × World) := do
  let d ← w.dispatchers.get? id
  let (report, d, w) ← w.runOnDispatcher d core populate
  return (report, { w with dispatchers := w.dispatchers.set id d })

def registerFactory (w : World) (kernelPrefix : String) (factory : ControllerFactory) : World :=
  { w with factories := w.factories.register kernelPrefix factory }.emit
    (.factoryRegistered kernelPrefix)

def createController (w : World) (handle : Nat) :
    Option (Except (Stop DispatchError) Nat × World) := do
  let id ← w.handles.get? handle
  let r ← w.registries.get? id
  match w.perform (w.factories.create r id) with
  | (.error stop, w) => return (.error stop, w)
  | (.ok c, w) =>
    let made := w.controllers.insert c
    return (.ok made.1, { w with controllers := made.2 })

def runController (w : World) (id core : Nat) (populate : Populate) :
    Option (RunReport × World) := do
  let c ← w.controllers.get? id
  let (report, dispatcher, w) ← w.runOnDispatcher c.dispatcher core populate
  return (report, { w with controllers := w.controllers.set id { c with dispatcher } })

def dropController (w : World) (id : Nat) : World :=
  match w.controllers.get? id with
  | none => w
  | some c => { w with controllers := w.controllers.erase id }.collect c.dispatcher.registry

end World

end Accelerator
