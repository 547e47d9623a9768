import Accelerator.Proofs.Buffer.Creation
import Accelerator.Proofs.Except

/-! A buffer as two plain windows of bytes, one that the device sees and one that the host
sees where it is mapped. Whatever a client does with the buffer, it answers as the windows
do, and the bytes of its allocation around them stay zero. -/

namespace Accelerator

/-- What a client does with a buffer that it holds. -/
inductive Access where
  | copyFromHost (src : Runs UInt8) (offset : Nat)
  | copyToHost (size offset : Nat)
  | syncForRead (offset size : Nat)
  | syncForWrite (offset size : Nat)
  /-- Through the host's view itself. -/
  | writeHost (src : Runs UInt8) (offset : Nat)

/-- The bytes read, if any were asked for. -/
abbrev Answer := Except (Stop DeviceError) (List UInt8)

/-- Accesses one after the other, each with its answer. -/
def Access.play {σ : Type} (step : σ → Access → Answer × σ) : List Access → σ → List Answer × σ
  | [], s => ([], s)
  | a :: as, s =>
    let r := step s a
    let rest := play step as r.2
    (r.1 :: rest.1, rest.2)

theorem Access.play_simulates {σ τ : Type} {f : σ → Access → Answer × σ}
    {g : τ → Access → Answer × τ} {rel : σ → τ → Prop} {as : List Access}
    (hstep : ∀ a ∈ as, ∀ s t, rel s t → (f s a).1 = (g t a).1 ∧ rel (f s a).2 (g t a).2)
    {s : σ} {t : τ} (h : rel s t) :
    (play f as s).1 = (play g as t).1 ∧ rel (play f as s).2 (play g as t).2 := by
  induction as generalizing s t with
  | nil => exact ⟨rfl, h⟩
  | cons a as ih =>
    have ha := hstep a List.mem_cons_self s t h
    have hr := ih (fun a' h' => hstep a' (List.mem_cons_of_mem a h')) ha.2
    simp only [play, ha.1, hr.1, true_and]
    exact hr.2

namespace Buffer

def settle (b : Buffer) : Except DeviceError Transfer → Answer × Buffer
  | .ok t => (.ok t.bytes.toList, t.buffer)
  | .error e => (.error (.error e), b)

def access (b : Buffer) : Access → Answer × Buffer
  | .copyFromHost src offset => b.settle (b.copyFromHost src offset)
  | .copyToHost size offset => b.settle (b.copyToHost size offset)
  | .syncForRead offset size => b.settle (b.syncForRead offset size)
  | .syncForWrite offset size => b.settle (b.syncForWrite offset size)
  | .writeHost src offset =>
    match b.writeHost src offset with
    | .ok written => (.ok [], written.getD b)
    | .error f => (.error (.fault f), b)

end Buffer

theorem Memory.address_of_sync {m m' : Memory} {direction : SyncDirection} {size offset : Nat}
    (h : m.sync direction size offset = .ok m') : m'.address = m.address := by
  obtain ⟨_, -, h⟩ := ok_of_bind h
  rcases hm : m.host with _ | host <;> rw [hm] at h
  · cases h
    rfl
  · cases direction <;> cases h <;> rfl

theorem Memory.address_of_write {m m' : Memory} {src : Runs UInt8} {offset : Nat}
    (h : m.write src offset = .ok m') : m'.address = m.address := by
  obtain ⟨_, -, h⟩ := ok_of_bind h
  cases h
  rfl

namespace Buffer

/-- Nothing of the buffer is other than it was but the bytes of its allocation. -/
def Keeps (b b' : Buffer) : Prop :=
  ∃ memory : Memory, memory.address = b.memory.address ∧ b' = { b with memory }

variable {b : Buffer} {t : Transfer}

theorem keeps_refl (b : Buffer) : b.Keeps b := ⟨b.memory, rfl, rfl⟩

theorem keeps_settle {f : Except DeviceError Transfer} (h : ∀ t, f = .ok t → b.Keeps t.buffer) :
    b.Keeps (b.settle f).2 := by
  rcases f with e | t
  · exact keeps_refl b
  · exact h t rfl

theorem keeps_copyFromHost {src : Runs UInt8} {offset : Nat}
    (h : b.copyFromHost src offset = .ok t) : b.Keeps t.buffer := by
  obtain ⟨_, -, h⟩ := ok_of_bind h
  rcases hm : b.memory.host with _ | host <;> simp only [hm] at h
  · obtain ⟨memory, hw, h⟩ := ok_of_bind h
    cases h
    exact ⟨memory, Memory.address_of_write hw, rfl⟩
  · obtain ⟨memory, hs, h⟩ := ok_of_bind h
    cases h
    exact ⟨memory, (Memory.address_of_sync hs).trans rfl, rfl⟩

theorem keeps_copyToHost {size offset : Nat} (h : b.copyToHost size offset = .ok t) :
    b.Keeps t.buffer := by
  obtain ⟨_, -, h⟩ := ok_of_bind h
  rcases hm : b.memory.host with _ | host <;> simp only [hm] at h
  · obtain ⟨bytes, -, h⟩ := ok_of_bind h
    cases h
    exact keeps_refl b
  · obtain ⟨memory, hs, h⟩ := ok_of_bind h
    cases h
    exact ⟨memory, Memory.address_of_sync hs, rfl⟩

theorem keeps_sync {direction : SyncDirection} {offset size : Nat}
    (h : b.sync direction offset size = .ok t) : b.Keeps t.buffer := by
  obtain ⟨_, -, h⟩ := ok_of_bind h
  rcases hm : b.isHostMapped with _ | _ <;> simp only [hm, if_true] at h
  · cases h
    exact keeps_refl b
  · obtain ⟨memory, hs, h⟩ := ok_of_bind h
    cases h
    exact ⟨memory, Memory.address_of_sync hs, rfl⟩

theorem keeps_access (b : Buffer) (a : Access) : b.Keeps (b.access a).2 := by
  cases a with
  | copyFromHost src offset => exact keeps_settle fun _ => keeps_copyFromHost
  | copyToHost size offset => exact keeps_settle fun _ => keeps_copyToHost
  | syncForRead offset size => exact keeps_settle fun _ => keeps_sync
  | syncForWrite offset size => exact keeps_settle fun _ => keeps_sync
  | writeHost src offset =>
    simp only [access, writeHost]
    rcases b.memory.host with _ | host
    · exact keeps_refl b
    · by_cases hfit : offset + src.length ≤ b.size
      · simp only [if_pos hfit]
        exact ⟨{ b.memory with host := some _ }, rfl, rfl⟩
      · simp only [if_neg hfit]
        exact keeps_refl b

end Buffer

def patch (bytes : List UInt8) (offset : Nat) (src : List UInt8) : List UInt8 :=
  bytes.take offset ++ src ++ bytes.drop (offset + src.length)

def cut (bytes : List UInt8) (offset size : Nat) : List UInt8 :=
  (bytes.drop offset).take size

structure Windows where
  device : List UInt8
  host : Option (List UInt8)

namespace Windows

def blank (size : Nat) (mapped : Bool) : Windows where
  device := List.replicate size 0
  host := if mapped then some (List.replicate size 0) else none

/-- The outcome of an access to a range, unless that reaches beyond the end. -/
def within (m : Windows) (offset size : Nat) (outcome : Answer × Windows) : Answer × Windows :=
  if offset + size ≤ m.device.length then outcome
  else (.error (.error (.outOfRange offset size m.device.length)), m)

def access (m : Windows) : Access → Answer × Windows
  | .copyFromHost src offset => m.within offset src.length
      (.ok [], {
        device := patch m.device offset src.toList
        host := m.host.map fun h => patch h offset src.toList })
  | .copyToHost size offset => m.within offset size
      (.ok (cut m.device offset size), { m with
        host := m.host.map fun h => patch h offset (cut m.device offset size) })
  | .syncForRead offset size => m.within offset size
      (.ok [], { m with
        host := m.host.map fun h => patch h offset (cut m.device offset size) })
  | .syncForWrite offset size => m.within offset size
      (.ok [], { m with
        device := (m.host.map fun h => patch m.device offset (cut h offset size)).getD m.device })
  | .writeHost src offset =>
    match m.host with
    | none => (.ok [], m)
    | some h =>
      if offset + src.length ≤ h.length then
        (.ok [], { m with host := some (patch h offset src.toList) })
      else (.error (.fault (.beyondEnd (offset + src.length) h.length)), m)

end Windows

theorem length_patch {bytes src : List UInt8} {offset : Nat}
    (h : offset + src.length ≤ bytes.length) : (patch bytes offset src).length = bytes.length := by
  simp only [patch, List.length_append, List.length_take, List.length_drop]
  omega

theorem length_cut {bytes : List UInt8} {offset size : Nat} (h : offset + size ≤ bytes.length) :
    (cut bytes offset size).length = size := by
  simp only [cut, List.length_take, List.length_drop]
  omega

theorem cut_patch {bytes src : List UInt8} {offset : Nat}
    (h : offset + src.length ≤ bytes.length) :
    cut (patch bytes offset src) offset src.length = src := by
  have hl : (bytes.take offset).length = offset := List.length_take_of_le (by omega)
  rw [cut, patch, List.append_assoc, List.drop_left' hl, List.take_left]

theorem patch_append (pre post : List UInt8) {bytes src : List UInt8} {offset : Nat}
    (h : offset + src.length ≤ bytes.length) :
    patch (pre ++ bytes ++ post) (pre.length + offset) src =
      pre ++ patch bytes offset src ++ post := by
  have hpost : offset - bytes.length = 0 := by omega
  have hdrop : offset + src.length - bytes.length = 0 := by omega
  simp only [patch, List.append_assoc, Nat.add_assoc, List.take_length_add_append,
    List.drop_length_add_append]
  rw [List.take_append, List.drop_append, hpost, hdrop, List.take_zero, List.drop_zero,
    List.append_nil]

theorem cut_append (pre post : List UInt8) {bytes : List UInt8} {offset size : Nat}
    (h : offset + size ≤ bytes.length) :
    cut (pre ++ bytes ++ post) (pre.length + offset) size = cut bytes offset size := by
  have hpost : offset - bytes.length = 0 := by omega
  have hl : size ≤ (bytes.drop offset).length := by
    rw [List.length_drop]
    omega
  rw [cut, List.append_assoc, List.drop_length_add_append, List.drop_append, hpost,
    List.drop_zero, List.take_append_of_le_length hl, cut]

/-- A window with the zeros around it in its allocation. -/
def Placement.framed (p : Placement) (bytes : List UInt8) : List UInt8 :=
  List.replicate p.offset 0 ++ bytes ++
    List.replicate (p.physicalSize - (p.offset + bytes.length)) 0

namespace Placement

variable {p : Placement} {bytes src : List UInt8} {offset n : Nat}

theorem length_framed (h : p.offset + bytes.length ≤ p.physicalSize) :
    (p.framed bytes).length = p.physicalSize := by
  simp only [framed, List.length_append, List.length_replicate]
  omega

theorem framed_replicate {size : Nat} (h : p.offset + size ≤ p.physicalSize) :
    p.framed (List.replicate size 0) = List.replicate p.physicalSize 0 := by
  simp only [framed, List.replicate_append_replicate, List.length_replicate]
  congr 1
  omega

theorem patch_framed (h : offset + src.length ≤ bytes.length) :
    patch (p.framed bytes) (p.offset + offset) src = p.framed (patch bytes offset src) := by
  have hp := patch_append (List.replicate p.offset 0)
    (List.replicate (p.physicalSize - (p.offset + bytes.length)) 0) h
  rw [List.length_replicate] at hp
  rw [framed, framed, hp, length_patch h]

theorem cut_framed (h : offset + n ≤ bytes.length) :
    cut (p.framed bytes) (p.offset + offset) n = cut bytes offset n := by
  have hc := cut_append (List.replicate p.offset 0)
    (List.replicate (p.physicalSize - (p.offset + bytes.length)) 0) h
  rwa [List.length_replicate] at hc

theorem cut_framed_self : cut (p.framed bytes) p.offset bytes.length = bytes := by
  have hc : cut (p.framed bytes) (p.offset + 0) bytes.length = cut bytes 0 bytes.length :=
    cut_framed (by omega)
  rw [Nat.add_zero] at hc
  rw [hc, cut, List.drop_zero, List.take_length]

end Placement

namespace Runs

theorem toList_overwrite_eq (r : Runs UInt8) (offset : Nat) (src : Runs UInt8) :
    (r.overwrite offset src).toList = patch r.toList offset src.toList := by
  simp [patch]

theorem toList_slice_eq (r : Runs UInt8) (offset size : Nat) :
    (r.slice offset size).toList = cut r.toList offset size := by
  simp [cut]

end Runs

end Accelerator
