import Accelerator.Settings.Variables
import Accelerator.World.Basic

/-! Registries opened step by step, so that several may be in the making at once. -/

namespace Accelerator

/-- What an attempt to open a registry has come to. -/
inductive Opened where
  | ready (handle : Nat)
  | waiting (opening : Nat)
  | refused (stop : Stop DeviceError)
deriving DecidableEq

namespace World

def addRegistry (w : World) (r : Registry) : Nat × World :=
  let made := w.registries.insert r
  { w with registries := made.2 }.addHandle made.1

def beginOpening (w : World) (settings : Settings) : Except (Stop DeviceError) Nat × World :=
  match w.perform (Opening.start settings) with
  | (.error stop, w) => (.error stop, w)
  | (.ok o, w) =>
    let r := w.openings.insert o
    (.ok r.1, { w with openings := r.2 })

def settleOpening (w : World) (id : Nat) (o : Opening) : Opened × World :=
  if o.pending.isEmpty then
    match w.perform o.finish with
    | (.error stop, w) => (.refused stop, { w with openings := w.openings.erase id })
    | (.ok r, w) =>
      let made := { w with openings := w.openings.erase id }.addRegistry r
      (.ready made.1, made.2)
  else (.waiting id, { w with openings := w.openings.set id o })

/-- Goes on with an opening by up to `n` devices. -/
def continueOpening (w : World) (id n : Nat) : Option (Opened × World) :=
  (w.openings.get? id).map fun o =>
    match w.perform (o.bindUpTo n) with
    | (.error stop, w) => (.refused stop, { w with openings := w.openings.erase id })
    | (.ok o, w) => w.settleOpening id o

/-- Goes on with an opening until it is ready or has to wait. -/
def resumeOpening (w : World) (id : Nat) : Option (Opened × World) :=
  (w.openings.get? id).bind fun o => w.continueOpening id o.pending.length

/-- Opens a registry, as far as this can be done without waiting. -/
def openRegistry (w : World) (settings : Settings) : Opened × World :=
  match w.beginOpening settings with
  | (.error stop, w) => (.refused stop, w)
  | (.ok id, w) => (w.resumeOpening id).getD (.waiting id, w)

def useDefaultDriver (w : World) : Except DeviceError Unit :=
  match w.defaultDriver with
  | none => .error .noDriver
  | some d =>
    match d.failure with
    | some reason => .error (.driver reason)
    | none => .ok ()

def installDriver (w : World) (d : DefaultDriver) : World :=
  { w with defaultDriver := some d }.emit (.driverInstalled d.name)

/-- A handle to the shared registry. It is opened with the settings of the environment when
nobody holds it. -/
def openShared (w : World) (environment : List (String × String)) : Opened × World :=
  match w.shared.upgrade? fun id => (w.registries.get? id).isSome with
  | some registry =>
    let r := w.addHandle registry
    (.ready r.1, r.2)
  | none =>
    match w.useDefaultDriver with
    | .error e => (.refused (.error e), w)
    | .ok () =>
      match Settings.ofEnvironment environment with
      | .error e => (.refused (.error e), w)
      | .ok settings =>
        match w.openRegistry settings with
        | (.ready handle, w) => (.ready handle, { w with shared := ⟨w.handles.get? handle⟩ })
        | r => r

end World

end Accelerator
