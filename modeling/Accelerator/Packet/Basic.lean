import Accelerator.Failure
import Accelerator.Packet.State

/-! Command packets: a header and up to `Packet.capacity` payload words in a block of
fixed size. -/

namespace Accelerator

inductive PacketKind where
  | control
  | softKernel
deriving DecidableEq, Repr

/-- Payload words of a packet of 4 KiB. -/
def Packet.capacity : Nat := 1020

structure Packet where
  state : CommandState := .new
  opcode : UInt8 := 0
  kind : PacketKind := .control
  statistics : Bool := false
  unitMask : UInt32 := 0
  extraMasks : UInt8 := 0
  /-- Words of the block in use. -/
  count : Nat := 0
  block : Vector UInt32 Packet.capacity := Vector.replicate Packet.capacity 0
deriving DecidableEq

namespace Packet

def empty : Packet := {}

def payload (p : Packet) : List UInt32 :=
  p.block.toList.take p.count

/-- The block with zeros in place of the words in use. -/
def clearedBlock (p : Packet) : Vector UInt32 capacity :=
  p.block.mapIdx fun i w => if i < p.count then 0 else w

def reset (p : Packet) : Packet :=
  { p with
    state := .new
    opcode := 0
    kind := .control
    statistics := true
    extraMasks := 0
    count := 0
    block := p.clearedBlock }

def trySet (words : List UInt32) (p : Packet) : Except DeviceError Packet :=
  if words.length ≤ capacity then
    .ok { p with
      count := words.length
      block := p.clearedBlock.mapIdx fun i w => words.getD i w }
  else .error (.payloadOverflow words.length capacity)

def tryPush (word : UInt32) (p : Packet) : Except DeviceError Packet :=
  if h : p.count < capacity then
    .ok { p with count := p.count + 1, block := p.block.set p.count word }
  else .error (.payloadOverflow (p.count + 1) capacity)

/-- As `trySet`, for a caller that knows that the words fit. -/
def set (words : List UInt32) (p : Packet) : Except Fault Packet :=
  (p.trySet words).mapError .refused

/-- As `tryPush`, for a caller that knows that there is room. -/
def push (word : UInt32) (p : Packet) : Except Fault Packet :=
  (p.tryPush word).mapError .refused

@[simp] theorem payload_empty : empty.payload = [] := by
  simp [empty, payload]

@[simp] theorem payload_reset (p : Packet) : p.reset.payload = [] := by
  simp [reset, payload]

theorem payload_of_trySet {words : List UInt32} {p p' : Packet} (h : p.trySet words = .ok p') :
    p'.payload = words := by
  unfold trySet at h
  split at h
  · next hw =>
    obtain rfl := Except.ok.inj h
    refine List.ext_getElem (by simp [payload, hw]) fun i hi hi' => ?_
    simp [payload, List.getElem?_eq_getElem hi']
  · cases h

theorem payload_of_tryPush {word : UInt32} {p p' : Packet} (h : p.tryPush word = .ok p') :
    p'.payload = p.payload ++ [word] := by
  unfold tryPush at h
  split at h
  · next hc =>
    obtain rfl := Except.ok.inj h
    have hl : p.count < (p.block.set p.count word).toList.length := by simpa using hc
    rw [payload, payload, List.take_succ_eq_append_getElem hl]
    simp [Vector.toList_set, List.take_set_of_le]
  · cases h

end Packet

end Accelerator
