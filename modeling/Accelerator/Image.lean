import Accelerator.Text.Number

/-! Hardware images: what is loaded onto a device, as far as the host needs to know it. -/

namespace Accelerator

structure Uuid where
  bytes : Vector UInt8 16 := Vector.replicate 16 0
deriving DecidableEq

namespace Uuid

/-- The first sixteen bytes; missing ones are zero. -/
def ofBytes (bs : List UInt8) : Uuid :=
  ⟨Vector.ofFn fun i => bs.getD i.val 0⟩

/-- Two digits a byte, with hyphens after the fourth, sixth, eighth and tenth. -/
def text (u : Uuid) : String :=
  let digits := u.bytes.toList.map fun b => hexText 2 b.toNat
  let group := fun i n => String.join ((digits.drop i).take n)
  "-".intercalate [group 0 4, group 4 2, group 6 2, group 8 2, group 10 6]

/-- What a device with a corrupted identity reports in place of `u`. -/
def corrupted (u : Uuid) : Uuid :=
  ⟨u.bytes.set 0 (u.bytes[0] ^^^ 0xff)⟩

end Uuid

structure Bank where
  tag : String
  used : Bool
  base : Nat
  size : Nat
deriving DecidableEq

/-- `cores` holds the full names, `kernel:instance`, of the cores that the image builds. -/
structure Image where
  uuid : Uuid
  cores : List String
  banks : List Bank
deriving DecidableEq

namespace Image

/-- The uuid and the memory of an image that is good enough to try things out with. -/
def sampleUuid : Uuid :=
  Uuid.ofBytes [0x64, 0x70, 0x75, 0x72, 0x74, 0x2d, 0x73, 0x69, 0x6d, 0x2d, 0x69, 0x6d, 0x61,
    0x67, 0x65, 0x21]

def sampleBanks : List Bank :=
  [{ tag := "HBM[0]", used := false, base := 0x40000000, size := 0x10000000 },
    { tag := "DDR[0]", used := true, base := 0x60000000, size := 0x40000000 }]

def firstUsedBank (image : Image) : Option Nat :=
  image.banks.findIdx? (·.used)

end Image

end Accelerator
