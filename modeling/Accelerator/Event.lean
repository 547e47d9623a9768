import Accelerator.Image
import Accelerator.Packet.State
import Accelerator.Text.Quoted

/-! What the library reports while it works, by level. -/

namespace Accelerator

inductive Level where
  | error
  | warn
  | info
  | debug
  | trace
deriving DecidableEq, Repr

namespace Level

/-- Less is more severe. -/
def rank : Level → Nat
  | error => 0
  | warn => 1
  | info => 2
  | debug => 3
  | trace => 4

def all : List Level :=
  [error, warn, info, debug, trace]

def name : Level → String
  | error => "ERROR"
  | warn => "WARN"
  | info => "INFO"
  | debug => "DEBUG"
  | trace => "TRACE"

def ofName? (s : String) : Option Level :=
  all.find? fun l => l.name = s.toUpper

end Level

inductive SyncDirection where
  | toDevice
  | fromDevice
deriving DecidableEq, Repr

def SyncDirection.name : SyncDirection → String
  | toDevice => "ToDevice"
  | fromDevice => "FromDevice"

inductive Event where
  | settingsFileUnreadable (path : String)
  | firmwareUnnamed (path : String)
  | driverInstalled (name : String)
  | lockAwaited (name : String)
  | lockAcquired (name path : String)
  | settingsInvalid (error : String)
  | imageUnreadable (error : String)
  | imageOpened (path : String) (uuid : Uuid) (cores : Nat)
  | noDeviceSelected (selection : String) (available : Nat)
  | imageTrusted (device : Nat)
  | uuidMismatched (device : Nat) (loaded expected : Uuid)
  | residentDiffers (device : Nat) (resident configured : Uuid)
  | deviceBound (device : Nat) (uuid : Uuid) (lockPath : String)
  | bankSelected (bank : Nat) (tag : String)
  | imageWithoutCores (uuid : Uuid)
  | unitDiscovered (device : Nat) (fullName : String)
  | unitDescribed (device : Nat) (fullName kernelName instanceName : String)
      (fingerprint : UInt64)
  | imageWithoutUnits (cores : List String)
  | registryReady (devices units : Nat)
  | registryReleased (devices : Nat)
  | unitMissing (unitName : String) (index : Nat)
  | deviceMissing (device : Nat) (unitName : String)
  | memoryAllocated (device size bank address : Nat) (unified : Bool)
  | placementFailed (device : Nat) (unitName : String) (size : Nat) (error : String)
  | allocationFailed (device : Nat) (unitName : String) (size bank : Nat) (error : String)
  | addressNull (device : Nat) (unitName : String)
  | bufferCreated (device : Nat) (unitName : String) (size physicalSize offset address : Nat)
      (hostMapped : Bool)
  | copiedFromHost (device offset size : Nat)
  | copiedToHost (device offset size : Nat)
  | syncSkipped (device : Nat) (direction : SyncDirection)
  | bufferReleased (device address : Nat)
  | contextCreated (unitName : String) (device : Nat) (fullName : String) (fingerprint : UInt64)
  | dispatcherReady (unitName : String) (instances : Nat)
  | packetDumped (fullName : String) (count : Nat) (dump : String)
  | dryRun (fullName : String)
  | startFailed (fullName : String) (core : Nat) (error : String)
  | polled (fullName : String) (state : CommandState)
  | unitTimedOut (fullName : String) (core timeout : Nat) (state : CommandState)
  | endedAbnormally (fullName : String) (core : Nat) (state : CommandState)
  | commandDone (fullName : String) (core : Nat)
  | factoryRegistered (kernelPrefix : String)
  | controllersDisabled
  | noControllerUnits (unitNames : List String)
  | kernelOverridden (kernelName : String)
  | noController (kernelName : String) (registered : List String)
  | controllerChosen (kernelName kernelPrefix : String) (units : Nat)

structure LogEntry where
  level : Level
  message : String
  fields : List (String × String)
deriving DecidableEq

namespace Event

def fingerprintText (n : UInt64) : String :=
  "0x" ++ hexText 16 n.toNat

def entry : Event → LogEntry
  | settingsFileUnreadable path =>
    ⟨.debug, "config file not readable, using default firmware", [("config_file", path)]⟩
  | firmwareUnnamed path =>
    ⟨.debug, "no firmware entry, using default firmware", [("config_file", path)]⟩
  | driverInstalled name => ⟨.debug, "default driver installed", [("driver", name)]⟩
  | lockAwaited name =>
    ⟨.info, s!"waiting for process to release the resource: {name}", [("lock", name)]⟩
  | lockAcquired name path => ⟨.debug, "device lock acquired", [("lock", name), ("path", path)]⟩
  | settingsInvalid error => ⟨.error, "invalid runtime configuration", [("error", error)]⟩
  | imageUnreadable error => ⟨.error, "cannot open hardware image", [("error", error)]⟩
  | imageOpened path uuid cores =>
    ⟨.debug, "hardware image opened",
      [("firmware", path), ("uuid", uuid.text), ("ips", toString cores)]⟩
  | noDeviceSelected selection available =>
    ⟨.error, "no device selected",
      [("enable_devices", selection), ("available", toString available)]⟩
  | imageTrusted device =>
    ⟨.debug, "image load disabled, trusting resident image", [("device_id", toString device)]⟩
  | uuidMismatched device loaded expected =>
    ⟨.error, "uuid mismatch after image load",
      [("device_id", toString device), ("loaded", loaded.text), ("expected", expected.text)]⟩
  | residentDiffers device resident configured =>
    ⟨.warn, "resident image differs from configured one",
      [("device_id", toString device), ("resident", resident.text),
        ("configured", configured.text)]⟩
  | deviceBound device uuid lockPath =>
    ⟨.info, "device bound",
      [("device_id", toString device), ("uuid", uuid.text), ("lock", lockPath)]⟩
  | bankSelected bank tag =>
    ⟨.debug, "memory bank selected", [("bank", toString bank), ("tag", tag)]⟩
  | imageWithoutCores uuid => ⟨.error, "hardware image has no ip cores", [("uuid", uuid.text)]⟩
  | unitDiscovered device fullName =>
    ⟨.trace, "compute unit discovered",
      [("device_id", toString device), ("full_name", fullName)]⟩
  | unitDescribed device fullName kernelName instanceName fingerprint =>
    ⟨.info, "compute unit discovered",
      [("device_id", toString device), ("full_name", fullName), ("kernel_name", kernelName),
        ("instance_name", instanceName), ("fingerprint", fingerprintText fingerprint)]⟩
  | imageWithoutUnits cores =>
    ⟨.error, "no compute units found in hardware image", [("ips", quotedList cores)]⟩
  | registryReady devices units =>
    ⟨.info, "device registry ready", [("devices", toString devices), ("cus", toString units)]⟩
  | registryReleased devices =>
    ⟨.debug, "device registry released", [("devices", toString devices)]⟩
  | unitMissing unitName index =>
    ⟨.error, "cannot find cu handle", [("cu_name", unitName), ("cu_index", toString index)]⟩
  | deviceMissing device unitName =>
    ⟨.error, "cannot find device handle",
      [("device_id", toString device), ("cu_name", unitName)]⟩
  | memoryAllocated device size bank address unified =>
    ⟨.trace, "sim alloc",
      [("device_id", toString device), ("size", toString size), ("bank", toString bank),
        ("address", shortHexText address), ("unified", toString unified)]⟩
  | placementFailed device unitName size error =>
    ⟨.error, "buffer placement failed",
      [("device_id", toString device), ("cu_name", unitName), ("size", toString size),
        ("error", error)]⟩
  | allocationFailed device unitName size bank error =>
    ⟨.error, "buffer allocation failed",
      [("device_id", toString device), ("cu_name", unitName), ("size", toString size),
        ("bank", toString bank), ("error", error)]⟩
  | addressNull device unitName =>
    ⟨.error, "buffer physical address is null",
      [("device_id", toString device), ("cu_name", unitName)]⟩
  | bufferCreated device unitName size physicalSize offset address hostMapped =>
    ⟨.debug, "buffer object created",
      [("device_id", toString device), ("cu_name", unitName), ("size", toString size),
        ("physical_size", toString physicalSize), ("bank_offset", toString offset),
        ("phy", shortHexText address), ("host_mapped", toString hostMapped)]⟩
  | copiedFromHost device offset size =>
    ⟨.trace, "copy from host",
      [("device_id", toString device), ("offset", toString offset), ("size", toString size)]⟩
  | copiedToHost device offset size =>
    ⟨.trace, "copy to host",
      [("device_id", toString device), ("offset", toString offset), ("size", toString size)]⟩
  | syncSkipped device direction =>
    ⟨.debug, "device-only memory, sync skipped",
      [("device_id", toString device), ("direction", direction.name)]⟩
  | bufferReleased device address =>
    ⟨.debug, "buffer object released",
      [("device_id", toString device), ("phy", shortHexText address)]⟩
  | contextCreated unitName device fullName fingerprint =>
    ⟨.debug, "cu execution context created",
      [("cu_name", unitName), ("device_id", toString device), ("full_name", fullName),
        ("fingerprint", fingerprintText fingerprint)]⟩
  | dispatcherReady unitName instances =>
    ⟨.debug, "dispatcher ready", [("cu_name", unitName), ("instances", toString instances)]⟩
  | packetDumped fullName count dump =>
    ⟨.debug, s!"packet:\n{dump}", [("full_name", fullName), ("count", toString count)]⟩
  | dryRun fullName => ⟨.debug, "dry run, command not submitted", [("full_name", fullName)]⟩
  | startFailed fullName core error =>
    ⟨.error, "cannot start command",
      [("full_name", fullName), ("core_index", toString core), ("error", error)]⟩
  | polled fullName state =>
    ⟨.trace, "poll", [("full_name", fullName), ("state", state.name)]⟩
  | unitTimedOut fullName core timeout state =>
    ⟨.warn, "cu timeout",
      [("full_name", fullName), ("core_index", toString core),
        ("timeout_ms", toString timeout), ("state", state.name)]⟩
  | endedAbnormally fullName core state =>
    ⟨.warn, "command finished abnormally",
      [("full_name", fullName), ("core_index", toString core), ("state", state.name)]⟩
  | commandDone fullName core =>
    ⟨.debug, "command done", [("full_name", fullName), ("core_index", toString core)]⟩
  | factoryRegistered kernelPrefix =>
    ⟨.debug, "controller factory registered", [("kernel_prefix", kernelPrefix)]⟩
  | controllersDisabled => ⟨.error, "controller creation disabled", []⟩
  | noControllerUnits unitNames =>
    ⟨.error, "no controller compute units", [("cu_names", quotedList unitNames)]⟩
  | kernelOverridden kernelName =>
    ⟨.warn, "kernel name overridden by XLNX_DPU_TYPE", [("dpu_type", kernelName)]⟩
  | noController kernelName registered =>
    ⟨.error, "no controller registered",
      [("kernel_name", kernelName), ("registered", quotedList registered)]⟩
  | controllerChosen kernelName kernelPrefix units =>
    ⟨.info, "creating controller",
      [("kernel_name", kernelName), ("prefix", kernelPrefix), ("cus", toString units)]⟩

end Event

end Accelerator
