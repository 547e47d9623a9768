import Accelerator.Registry.Basic
import Accelerator.Settings.Firmware

/-! Opening a registry: choose the devices, then lock each one and make sure of its image,
then find the compute units. Where this stops, the locks taken on the way are given back. -/

namespace Accelerator

structure Opening where
  settings : Settings
  image : Image
  pending : List Nat
  bound : List BoundDevice := []
  /-- The lock of the first pending device is held elsewhere. -/
  waits : Bool := false
deriving DecidableEq

/-- Parts of the names of cores that are compute units. -/
def unitMarks : List String := ["DPU", "dpu", "sfm"]

def hasInfix (mark : List Char) : List Char → Bool
  | [] => mark.isEmpty
  | c :: cs => mark.isPrefixOf (c :: cs) || hasInfix mark cs

def isUnitName (fullName : String) : Bool :=
  unitMarks.any fun mark => hasInfix mark.toList fullName.toList

/-- Kernel and instance: what stands before and after the first colon. -/
def splitName (fullName : String) : String × String :=
  match cutAt? (· = ':') fullName.toList with
  | some (kernel, inst) => (String.ofList kernel, String.ofList inst)
  | none => (fullName, "")

/-- The form in which a device is asked for a kernel. -/
def kernelRequest (fullName : String) : String :=
  let (kernelName, instanceName) := splitName fullName
  kernelName ++ ":\x7b" ++ instanceName ++ "\x7d"

namespace Opening

def lockFiles (o : Opening) : List Location :=
  o.bound.map (·.lock.file)

def findImage (settings : Settings) : Action DeviceError Image := do
  let (path, source) := settings.resolveFirmware (← get).files
  match source with
  | .unreadable => Action.emit (.settingsFileUnreadable settings.settingsFile)
  | .unnamed => Action.emit (.firmwareUnnamed settings.settingsFile)
  | _ => pure ()
  let image ← Action.reporting (fun e => .imageUnreadable e.message)
    ((← Action.host).openImage path)
  Action.emit (.imageOpened path image.uuid image.cores.length)
  return image

def selectDevices (settings : Settings) : Action DeviceError (List Nat) := do
  let available := (← Action.host).deviceCount
  if available = 0 then Action.fail .noDevices
  match settings.selection.resolve available with
  | [] =>
    let text := settings.selection.text
    Action.emit (.noDeviceSelected text available)
    Action.fail (.noDeviceSelected text available)
  | selected => return selected

/-- Everything that comes before the first lock. -/
def start (settings : Settings) : Action DeviceError Opening := do
  Action.reporting (fun e => .settingsInvalid e.message) settings.validate
  let image ← findImage settings
  let pending ← selectDevices settings
  return { settings, image, pending }

def loadImage (settings : Settings) (image : Image) (index : Nat) : Action DeviceError Unit := do
  if settings.skipImageLoad then Action.emit (.imageTrusted index)
  else
    let loaded ← Action.onHost fun h => h.loadImage index image
    if loaded ≠ image.uuid then
      Action.emit (.uuidMismatched index loaded image.uuid)
      Action.fail (.uuidMismatch index loaded image.uuid)

/-- A device whose lock is held, with the image that it has by now. -/
def identify (settings : Settings) (image : Image) (index : Nat) (lock : DeviceLock) :
    Action DeviceError BoundDevice := do
  match (← Action.host).imageUuid? index with
  | none => Action.fail (.imageNotResident index)
  | some uuid =>
    if settings.skipImageLoad ∧ uuid ≠ image.uuid then
      Action.emit (.residentDiffers index uuid image.uuid)
    if 0 < settings.verbosity.devices then Action.emit (.deviceBound index uuid lock.path)
    return { index, uuid, lock }

def bindLocked (settings : Settings) (image : Image) (index : Nat) (lock : DeviceLock) :
    Action DeviceError BoundDevice := do
  let _ ← Action.ofExcept ((← Action.host).openDevice index)
  loadImage settings image index
  identify settings image index lock

/-- Binds the next pending device, or waits for its lock. -/
def bindNext (o : Opening) : Action DeviceError Opening := do
  match o.pending with
  | [] => return o
  | index :: rest =>
    match ← DeviceLock.acquire o.settings.lockDirectory index o.waits with
    | none => return { o with waits := true }
    | some lock =>
      let device ← Action.releasing [lock.file] (bindLocked o.settings o.image index lock)
      return { o with pending := rest, bound := o.bound ++ [device], waits := false }

def bindUpTo : Nat → Opening → Action DeviceError Opening
  | 0, o => return o
  | n + 1, o => do
    let o ← Action.releasing o.lockFiles o.bindNext
    if o.waits then return o else bindUpTo n o

def findBank (image : Image) : Action DeviceError Nat := do
  match image.firstUsedBank with
  | none => Action.fail .noValidBank
  | some bank =>
    Action.emit (.bankSelected bank ((image.banks[bank]?.map (·.tag)).getD ""))
    return bank

def bindUnit (settings : Settings) (device : BoundDevice) (fullName : String) :
    Action DeviceError ComputeUnit := do
  let host ← Action.host
  let (kernelName, instanceName) := splitName fullName
  let kernel ← Action.ofExcept
    (host.openKernel device.index device.uuid (kernelRequest fullName))
  let fingerprint := (settings.fingerprints.get? fullName).getD (host.readFingerprint kernel)
  if 0 < settings.verbosity.devices then
    Action.emit (.unitDescribed device.index fullName kernelName instanceName fingerprint)
  else Action.emit (.unitDiscovered device.index fullName)
  return {
    device := device.index
    uuid := device.uuid
    fullName, kernelName, instanceName, fingerprint, kernel }

def findUnits (o : Opening) : Action DeviceError UnitIndex := do
  let names := o.image.cores.filter isUnitName
  let requests := o.bound.flatMap fun device => names.map fun name => (device, name)
  requests.foldlM (fun index (device, name) => do
    let u ← bindUnit o.settings device name
    return index.insert (UnitIndex.keyFor name device.index) u) []

def indexUnits (o : Opening) : Action DeviceError UnitIndex := do
  if o.image.cores.isEmpty then
    Action.emit (.imageWithoutCores o.image.uuid)
    Action.fail .noComputeUnits
  let units ← o.findUnits
  if units.isEmpty then
    Action.emit (.imageWithoutUnits o.image.cores)
    Action.fail .noComputeUnits
  return units

def register (o : Opening) : Action DeviceError Registry := do
  let bank ← findBank o.image
  let units ← o.indexUnits
  Action.emit (.registryReady o.bound.length units.length)
  return { settings := o.settings, image := o.image, devices := o.bound, units, bank }

/-- The registry, once every device is bound. -/
def finish (o : Opening) : Action DeviceError Registry :=
  Action.releasing o.lockFiles o.register

end Opening

end Accelerator
