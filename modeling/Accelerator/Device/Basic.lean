import Accelerator.Failure
import Accelerator.Table
import Accelerator.Word

/-! One device: the image on it, its kernels and its memory allocator. -/

namespace Accelerator

/-- A kernel of the image that was loaded as number `load` onto a device. Its registers are
its own. -/
structure Kernel where
  device : Nat
  load : Nat
  name : String
deriving DecidableEq

structure Device where
  /-- New allocations are mapped into the host. -/
  unified : Bool := true
  /-- The device reports a uuid that its image does not have. -/
  corrupted : Bool := false
  resident : Option Image := none
  loads : Nat := 0
  /-- Where the next allocation in each bank may begin. -/
  nextOffset : Table Nat Nat := []
deriving DecidableEq

namespace Device

def pageSize : Nat := 4096

def reported (d : Device) (u : Uuid) : Uuid :=
  if d.corrupted then u.corrupted else u

def imageUuid? (d : Device) : Option Uuid :=
  d.resident.map fun image => d.reported image.uuid

/-- Replaces the image. The kernels and allocations of the old one are forgotten. -/
def load (d : Device) (image : Image) : Device :=
  { d with resident := some image, loads := d.loads + 1, nextOffset := [] }

/-- Puts an image in place and leaves all else as it is. -/
def preload (d : Device) (image : Image) : Device :=
  { d with resident := some image }

def isBrace (c : Char) : Bool :=
  c = '\x7b' || c = '\x7d'

def withoutColon (cs : List Char) : List Char :=
  if cs.getLast? = some ':' then cs.dropLast else cs

/-- The core that a request of the form `kernel:{instance}` asks for. -/
def coreName (request : String) : String :=
  String.ofList (withoutColon (request.toList.filter fun c => !isBrace c))

def openKernel (index : Nat) (d : Device) (uuid : Uuid) (request : String) :
    Except DeviceError Kernel :=
  match d.resident with
  | none => .error (.imageNotResident index)
  | some image =>
    if d.reported image.uuid = uuid then
      let name := coreName request
      if name ∈ image.cores then .ok ⟨index, d.loads, name⟩
      else .error (.driver s!"no kernel {name} in image on device {index}")
    else .error (.driver s!"uuid {uuid.text} is not resident on device {index}")

def offsetIn (d : Device) (bank : Nat) : Nat :=
  (d.nextOffset.get? bank).getD 0

def bank? (d : Device) (bank : Nat) : Option Bank :=
  d.resident.bind fun image => image.banks[bank]?

def alloc (index : Nat) (d : Device) (size bank : Nat) :
    Except (Stop DeviceError) (Nat × Device) :=
  let refuse := fun reason => .error (.error (.allocation size bank index reason))
  match d.bank? bank with
  | none => refuse "no such bank"
  | some info =>
    if size = 0 then refuse "empty allocation"
    else
      match checkedAdd (d.offsetIn bank) size with
      | none => .error (.fault .addOverflow)
      | some stop =>
        if info.size < stop then refuse s!"bank {info.tag} exhausted"
        else
          match checkedAdd info.base (d.offsetIn bank) with
          | none => .error (.fault .addOverflow)
          | some address =>
            if wordLimit ≤ roundUp stop pageSize then .error (.fault .addOverflow)
            else
              .ok (address, { d with nextOffset := d.nextOffset.put bank (roundUp stop pageSize) })

end Device

end Accelerator
