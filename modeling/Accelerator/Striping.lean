import Accelerator.Failure
import Accelerator.Word

/-! Placement of large buffers across memory banks: each is padded to span all banks, and
starts at an offset that moves on by one bank from buffer to buffer. -/

namespace Accelerator

structure Striping where
  enabled : Bool := true
  bankCount : Nat := 8
  /-- Bytes in one bank before the next one takes over. -/
  bankRange : Nat := 16384
deriving DecidableEq

structure Placement where
  physicalSize : Nat
  offset : Nat
deriving DecidableEq

namespace Striping

def appliesTo (s : Striping) (size : Nat) : Bool :=
  s.enabled && s.bankRange < size

def padding (s : Striping) : Option Nat :=
  checkedMul s.bankRange s.bankCount

/-- Where a buffer of `size` bytes goes that is number `slot` among the striped ones; nowhere
when the padded size needs more than 64 bits. -/
def placement (s : Striping) (size slot : Nat) : Except Fault (Option Placement) :=
  if s.appliesTo size then
    match s.padding.bind (checkedAdd size) with
    | none => .ok none
    | some physicalSize =>
      if s.bankCount = 0 then .error .remainderByZero
      else
        match checkedMul (slot % s.bankCount) s.bankRange with
        | none => .error .mulOverflow
        | some offset => .ok (some { physicalSize, offset })
  else .ok (some { physicalSize := size, offset := 0 })

theorem le_physicalSize_of_placement {s : Striping} {size slot : Nat} {p : Placement}
    (h : s.placement size slot = .ok (some p)) : p.offset + size ≤ p.physicalSize := by
  unfold placement at h
  split at h
  · split at h
    · cases h
    · next physicalSize hp =>
      obtain ⟨padding, hm, ha⟩ := Option.bind_eq_some_iff.mp hp
      have hm := (checkedMul_eq_some_iff.mp hm).1
      have ha := (checkedAdd_eq_some_iff.mp ha).1
      split at h
      · cases h
      · next hz =>
        split at h
        · cases h
        · next offset ho =>
          have ho := (checkedMul_eq_some_iff.mp ho).1
          have hlt := Nat.mod_lt slot (Nat.pos_of_ne_zero hz)
          have hle := Nat.mul_le_mul_right s.bankRange (Nat.le_of_lt hlt)
          rw [Nat.mul_comm s.bankCount] at hle
          simp only [Except.ok.injEq, Option.some.injEq] at h
          subst h
          simp only
          omega
  · simp only [Except.ok.injEq, Option.some.injEq] at h
    subst h
    simp

end Striping

end Accelerator
