import Accelerator.Dispatch.Controller
import Accelerator.Dispatch.Run
import Accelerator.Registry.Allocation
import Accelerator.Registry.Opening
import Accelerator.SharedInstance

/-! Everything that is alive at one time: the site, the registries, and the things that keep
registries open. A registry lives as long as something refers to it. -/

namespace Accelerator

structure DefaultDriver where
  name : String
  /-- Why it cannot be had, if so. -/
  failure : Option String := none
deriving DecidableEq

structure World where
  site : Site
  registries : Store Registry := {}
  handles : Store Nat := {}
  buffers : Store Buffer := {}
  dispatchers : Store Dispatcher := {}
  controllers : Store Controller := {}
  locks : Store DeviceLock := {}
  openings : Store Opening := {}
  factories : ControllerFactories := []
  /-- The registry that is shared where none is given. -/
  shared : WeakSlot := {}
  defaultDriver : Option DefaultDriver := none

namespace World

/-- The registries that something refers to, once for each such thing. -/
def references (w : World) : List Nat :=
  w.handles.values ++ w.buffers.values.map (·.registry) ++
    w.dispatchers.values.map (·.registry) ++ w.controllers.values.map (·.dispatcher.registry)

def emit (w : World) (e : Event) : World :=
  { w with site := w.site.emit e }

def perform {ε α : Type} (w : World) (x : Action ε α) : Except (Stop ε) α × World :=
  let r := x.run w.site
  (r.1, { w with site := r.2 })

/-- Closes a registry that nothing refers to any more, and gives its locks back. -/
def collect (w : World) (registry : Nat) : World :=
  if w.references.contains registry then w
  else
    match w.registries.get? registry with
    | none => w
    | some r =>
      { w with
        registries := w.registries.erase registry
        site := (w.site.emit (.registryReleased r.devices.length)).release r.lockFiles }

def addHandle (w : World) (registry : Nat) : Nat × World :=
  let r := w.handles.insert registry
  (r.1, { w with handles := r.2 })

def dropHandle (w : World) (handle : Nat) : World :=
  match w.handles.get? handle with
  | none => w
  | some registry => { w with handles := w.handles.erase handle }.collect registry

def registryOf? (w : World) (handle : Nat) : Option Registry :=
  (w.handles.get? handle).bind w.registries.get?

end World

end Accelerator
