import Accelerator.Proofs.Buffer.Windows
import Accelerator.Proofs.Site.Frames
import Accelerator.Proofs.World.Creation
import Accelerator.World.Locks
import Accelerator.World.Opening
import Mathlib.Data.Set.Insert
import Mathlib.Tactic.MkIffOfInductiveProp

/-! Histories of all that may be done in a world: with registries and what is made on them, with
locks, and with the devices themselves. Histories in which less is done are made of some of these
deeds. -/

namespace Accelerator

inductive Deed where
  | openRegistry (settings : Settings)
  /-- As `openRegistry`, with other things done meanwhile. -/
  | beginOpening (settings : Settings)
  | continueOpening (id n : Nat)
  | openShared (environment : List (String × String))
  /-- One more handle on a registry, from whatever refers to it. -/
  | shareRegistry (registry : Nat)
  | dropHandle (handle : Nat)
  | nextStripeSlot (handle : Nat)
  | writeUnit (handle : Nat) (unitName : String) (index : Nat) (offset value : UInt32)
  | createBuffer (handle size device : Nat) (unitName : String)
  | access (id : Nat) (a : Access)
  | dropBuffer (id : Nat)
  | createDispatcher (handle : Nat) (unitName : String)
  | writeInstance (id index : Nat) (offset value : UInt32)
  | runDispatcher (id core : Nat) (populate : Populate)
  | dropDispatcher (id : Nat)
  | registerFactory (kernelPrefix : String) (factory : ControllerFactory)
  | createController (handle : Nat)
  | runController (id core : Nat) (populate : Populate)
  | dropController (id : Nat)
  | lock (directory : String) (device : Nat) (again : Bool)
  | tryLock (directory : String) (device : Nat)
  | unlock (id : Nat)
  | installDriver (d : DefaultDriver)
  /-- On a kernel that was opened by hand. -/
  | writeKernel (kernel : Kernel) (offset value : UInt32)
  | loadImage (device : Nat) (image : Image)
  /-- Whatever else is done to a device. -/
  | changeDevice (device : Nat) (change : Device → Device)
  /-- Whatever is done to the rest of the site. -/
  | elsewhere (change : Site → Site)

/-- A register that was written, and through which registry if it was through one. -/
structure RegisterWrite where
  registry : Option Nat
  fullName : String
  kernel : Kernel
  offset : UInt32
  value : UInt32

namespace Deed

/-- The directory whose locks the deed asks for, if it asks for any itself. -/
def directory? : Deed → Option String
  | .openRegistry settings => some settings.lockDirectory
  | .beginOpening settings => some settings.lockDirectory
  | .openShared environment =>
    (Settings.ofEnvironment environment).toOption.map (·.lockDirectory)
  | .lock directory _ _ => some directory
  | .tryLock directory _ => some directory
  | _ => none

/-- No lock is taken or given back behind the world's back, and no directory made or removed. -/
def LeavesLocks : Deed → Prop
  | .elsewhere change => ∀ s : Site, s.Steady (change s)
  | _ => True

/-- A device is changed whether its lock is held or not. -/
def meddles : Deed → Bool
  | .loadImage _ _ => true
  | .changeDevice _ _ => true
  | _ => false

def Faithful : Deed → Prop
  | .registerFactory _ factory => ControllerFactories.Faithful factory
  | _ => True

/-- Locks are taken under these names alone, and given back by those who have them. -/
@[mk_iff]
structure Calls (names : Set String) (deed : Deed) : Prop where
  named : ∀ directory ∈ deed.directory?, directory ∈ names
  leavesLocks : deed.LeavesLocks
  faithful : deed.Faithful

/-- All locks are in one directory, and devices are used through registries alone. -/
@[mk_iff]
structure Uses (directory : String) (deed : Deed) : Prop extends deed.Calls {directory} where
  meddles : deed.meddles = false

end Deed

namespace World

def setHost (w : World) (host : Host) : World :=
  { w with site := { w.site with host } }

def shareRegistry (w : World) (registry : Nat) : World :=
  match w.registries.get? registry with
  | none => w
  | some _ => (w.addHandle registry).2

def access (w : World) (id : Nat) : Access → World
  | .copyFromHost src offset => ((w.transfer id (·.copyFromHost src offset)).map (·.2)).getD w
  | .copyToHost size offset => ((w.transfer id (·.copyToHost size offset)).map (·.2)).getD w
  | .syncForRead offset size => ((w.transfer id (·.syncForRead offset size)).map (·.2)).getD w
  | .syncForWrite offset size => ((w.transfer id (·.syncForWrite offset size)).map (·.2)).getD w
  | .writeHost src offset =>
    ((w.buffers.get? id).map fun b => w.setBuffer id (b.access (.writeHost src offset)).2).getD w

def act (w : World) : Deed → World
  | .openRegistry settings => (w.openRegistry settings).2
  | .beginOpening settings => (w.beginOpening settings).2
  | .continueOpening id n => ((w.continueOpening id n).map (·.2)).getD w
  | .openShared environment => (w.openShared environment).2
  | .shareRegistry registry => w.shareRegistry registry
  | .dropHandle handle => w.dropHandle handle
  | .nextStripeSlot handle => ((w.nextStripeSlot handle).map (·.2)).getD w
  | .writeUnit handle unitName index offset value =>
    ((w.registryOf? handle).map fun r =>
      (w.perform (r.writeRegister unitName index offset value)).2).getD w
  | .createBuffer handle size device unitName =>
    ((w.createBuffer handle size device unitName).map (·.2)).getD w
  | .access id a => w.access id a
  | .dropBuffer id => w.dropBuffer id
  | .createDispatcher handle unitName => ((w.createDispatcher handle unitName).map (·.2)).getD w
  | .writeInstance id index offset value =>
    ((w.dispatchers.get? id).map fun d =>
      match d.writeRegister w.site.host index offset value with
      | .ok host => w.setHost host
      | .error _ => w).getD w
  | .runDispatcher id core populate => ((w.runDispatcher id core populate).map (·.2)).getD w
  | .dropDispatcher id => w.dropDispatcher id
  | .registerFactory kernelPrefix factory => w.registerFactory kernelPrefix factory
  | .createController handle => ((w.createController handle).map (·.2)).getD w
  | .runController id core populate => ((w.runController id core populate).map (·.2)).getD w
  | .dropController id => w.dropController id
  | .lock directory device again => (w.lock directory device again).2
  | .tryLock directory device => (w.tryLock directory device).2
  | .unlock id => w.unlock id
  | .installDriver d => w.installDriver d
  | .writeKernel kernel offset value =>
    if w.site.host.Knows kernel then w.setHost (w.site.host.writeRegister kernel offset value)
    else w
  | .loadImage device image =>
    match w.site.host.loadImage device image with
    | .ok (_, host) => w.setHost host
    | .error _ => w
  | .changeDevice device change =>
    w.setHost (w.site.host.modifyDevice device fun d => { change d with loads := d.loads })
  | .elsewhere change =>
    let host := w.site.host
    let site := change w.site
    { w with site := { site with host := { site.host with
      devices := host.devices
      fingerprints := host.fingerprints
      registers := host.registers } } }

/-- The number of the opening that the deed goes on with; one that is not given yet for a deed that
does not. -/
def resumed (w : World) : Deed → Nat
  | .continueOpening id _ => id
  | _ => w.openings.next

/-- The deed takes a number for a striped buffer from this registry: it asks for one, or for such
a buffer on a device that is found. -/
def takesSlot (w : World) (id : Nat) : Deed → Bool
  | .nextStripeSlot handle => w.handles.get? handle = some id ∧ (w.registries.get? id).isSome
  | .createBuffer handle size device unitName =>
    w.handles.get? handle = some id ∧ ∃ r ∈ w.registries.get? id,
      r.settings.striping.appliesTo size = true ∧ ∃ u ∈ r.matching unitName, u.device = device
  | _ => false

/-- The register that the deed writes, if it writes one. -/
def write? (w : World) : Deed → Option RegisterWrite
  | .writeUnit handle unitName index offset value => do
    let id ← w.handles.get? handle
    let r ← w.registries.get? id
    let u ← (r.matching unitName)[index]?
    return ⟨some id, u.fullName, u.kernel, offset, value⟩
  | .writeInstance id index offset value => do
    let d ← w.dispatchers.get? id
    let i ← d.instances[index]?
    return ⟨some d.registry, i.unit.fullName, i.unit.kernel, offset, value⟩
  | .writeKernel kernel offset value =>
    if w.site.host.Knows kernel then some ⟨none, kernel.name, kernel, offset, value⟩ else none
  | _ => none

/-- Nothing is asked for that is counted, and no register is written. -/
structure Quiet (w : World) (deed : Deed) : Prop where
  slots : ∀ id, w.takesSlot id deed = false
  writes : w.write? deed = none

variable {w : World}

/-- What every deed of a history keeps is kept by the history. -/
theorem acts_keep_of {P : World → Prop} {history : List Deed}
    (hstep : ∀ w, ∀ deed ∈ history, P w → P (w.act deed)) (h : P w) : P (history.foldl act w) := by
  induction history generalizing w with
  | nil => exact h
  | cons deed history ih =>
    refine ih (fun w' deed' hm => hstep w' deed' (List.mem_cons_of_mem deed hm)) ?_
    exact hstep w deed List.mem_cons_self h

theorem acts_keep {P : World → Prop} (hstep : ∀ w deed, P w → P (w.act deed)) (h : P w)
    (history : List Deed) : P (history.foldl act w) :=
  acts_keep_of (fun w deed _ => hstep w deed) h

end World

end Accelerator
