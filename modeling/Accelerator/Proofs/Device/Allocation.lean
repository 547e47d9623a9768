import Accelerator.Proofs.Site.Action
import Accelerator.Site.Memory

/-! The allocator of a device, which only moves forward, and memory taken from it. -/

namespace Accelerator

namespace Device

theorem alloc_eq_ok_iff {d d' : Device} {index size bank address : Nat} :
    d.alloc index size bank = .ok (address, d') ↔
      ∃ info, d.bank? bank = some info ∧ 0 < size ∧ d.offsetIn bank + size ≤ info.size ∧
        info.base + d.offsetIn bank = address ∧ address < wordLimit ∧
        roundUp (d.offsetIn bank + size) pageSize < wordLimit ∧
        d' = { d with
          nextOffset := d.nextOffset.put bank (roundUp (d.offsetIn bank + size) pageSize) } := by
  have hr : d.offsetIn bank + size ≤ roundUp (d.offsetIn bank + size) pageSize :=
    le_roundUp (by decide) _
  constructor
  · intro h
    unfold alloc at h
    split at h
    · cases h
    · next info hi =>
      split at h
      · cases h
      · split at h
        · cases h
        · next stop hs =>
          obtain ⟨rfl, -⟩ := checkedAdd_eq_some_iff.mp hs
          split at h
          · cases h
          · split at h
            · cases h
            · next a ha =>
              split at h
              · cases h
              · obtain ⟨rfl, hlt⟩ := checkedAdd_eq_some_iff.mp ha
                simp only [Except.ok.injEq, Prod.mk.injEq] at h
                obtain ⟨rfl, rfl⟩ := h
                exact ⟨info, hi, by omega, by omega, rfl, hlt, by omega, rfl⟩
  · rintro ⟨info, hi, hs, hb, rfl, ha, hw, rfl⟩
    have h1 := checkedAdd_of_lt (a := d.offsetIn bank) (b := size) (by omega)
    have h2 := checkedAdd_of_lt ha
    have h0 : size ≠ 0 := by omega
    simp [alloc, hi, h0, h1, h2, Nat.not_lt.mpr hb, Nat.not_le.mpr hw]

theorem lt_wordLimit_of_alloc {d d' : Device} {index size bank address : Nat}
    (h : d.alloc index size bank = .ok (address, d')) : size < wordLimit := by
  obtain ⟨_, _, _, _, _, _, hw, _⟩ := alloc_eq_ok_iff.mp h
  have hr : d.offsetIn bank + size ≤ roundUp (d.offsetIn bank + size) pageSize :=
    le_roundUp (by decide) _
  omega

theorem resident_of_alloc {d d' : Device} {index size bank address : Nat}
    (h : d.alloc index size bank = .ok (address, d')) : d'.resident = d.resident := by
  obtain ⟨_, _, _, _, _, _, _, rfl⟩ := alloc_eq_ok_iff.mp h
  rfl

theorem offsetIn_of_alloc {d d' : Device} {index size bank address : Nat}
    (h : d.alloc index size bank = .ok (address, d')) :
    d.offsetIn bank + size ≤ d'.offsetIn bank := by
  obtain ⟨_, _, _, _, _, _, _, rfl⟩ := alloc_eq_ok_iff.mp h
  simp only [offsetIn, Table.get?_put, if_true, Option.getD_some]
  exact le_roundUp (by decide) _

theorem offsetIn_le_of_alloc {d d' : Device} {index size bank address : Nat}
    (h : d.alloc index size bank = .ok (address, d')) (other : Nat) :
    d.offsetIn other ≤ d'.offsetIn other := by
  have ho := offsetIn_of_alloc h
  obtain ⟨_, _, _, _, _, _, _, rfl⟩ := alloc_eq_ok_iff.mp h
  by_cases hb : bank = other
  · subst hb
    omega
  · simp [offsetIn, Table.get?_put, hb]

end Device

namespace Memory

theorem run_alloc (device size bank : Nat) (s : Site) :
    (alloc device size bank).run s =
      match s.host.openDevice device with
      | .error e => (.error (.error e), s)
      | .ok d =>
        match d.alloc device size bank with
        | .error stop => (.error stop, s)
        | .ok (address, d') =>
          let t := { s with host := s.host.setDevice device d' }.emit
            (.memoryAllocated device size bank address d.unified)
          if Host.maxBlock ≤ size then (.error (.fault .capacityOverflow), t)
          else (.ok (fresh address size d.unified), t) := by
  unfold alloc
  simp only [Action.run_bind, Action.run_host, Action.run_ofExcept]
  rcases ho : s.host.openDevice device with e | d
  · rfl
  · simp only
    rcases ha : d.alloc device size bank with stop | ⟨address, d'⟩
    · rfl
    · simp only [Action.run_bind, Action.run_modify, Action.run_emit]
      split
      · simp only [Action.run_bind, Action.run_fault]
      · rfl

theorem size_fresh (address size : Nat) (unified : Bool) :
    (fresh address size unified).size = size := by
  simp [fresh, Memory.size]

theorem checkRange_of_le {m : Memory} {offset size : Nat} (hm : m.size < wordLimit)
    (h : offset + size ≤ m.size) : m.checkRange offset size = .ok () := by
  have hc := checkedAdd_of_lt (a := offset) (b := size) (by omega)
  simp [checkRange, hc, h]

theorem write_of_le {m : Memory} {src : Runs UInt8} {offset : Nat} (hm : m.size < wordLimit)
    (h : offset + src.length ≤ m.size) :
    m.write src offset = .ok { m with device := m.device.overwrite offset src } := by
  simp only [write, checkRange_of_le hm h]
  rfl

theorem read_of_le {m : Memory} {offset size : Nat} (hm : m.size < wordLimit)
    (h : offset + size ≤ m.size) : m.read size offset = .ok (m.device.slice offset size) := by
  simp only [read, checkRange_of_le hm h]
  rfl

theorem sync_of_le {m : Memory} {host : Runs UInt8} {offset size : Nat} (hh : m.host = some host)
    (hm : m.size < wordLimit) (h : offset + size ≤ m.size) (direction : SyncDirection) :
    m.sync direction size offset = .ok (match direction with
      | .toDevice => { m with device := m.device.overwrite offset (host.slice offset size) }
      | .fromDevice =>
        { m with host := some (host.overwrite offset (m.device.slice offset size)) }) := by
  simp only [sync, checkRange_of_le hm h, hh]
  cases direction <;> rfl

/-- Cleared memory holds zeros, in both views where there are two. -/
theorem run_clear {m : Memory} (hm : m.size < wordLimit) (s : Site) :
    ∃ m' syncs, m.clear.run s = (.ok m', { s with host := { s.host with syncs } }) ∧
      m'.address = m.address ∧ m'.device.toList = List.replicate m.size 0 ∧
      m'.host.map Runs.toList = m.host.map fun _ => List.replicate m.size 0 := by
  obtain ⟨address, device, host⟩ := m
  let zeros := Runs.replicate device.length (0 : UInt8)
  have hz : 0 + zeros.length ≤ device.length := by simp [zeros]
  cases host with
  | none =>
    refine ⟨⟨address, device.overwrite 0 zeros, none⟩, s.host.syncs, ?_, rfl, ?_, rfl⟩
    · have hw := write_of_le (m := ⟨address, device, none⟩) hm hz
      simp only [clear, size, Action.run_ofExcept]
      rw [hw]
    · simp [zeros, size]
  | some host =>
    refine ⟨⟨address, device.overwrite 0 (zeros.slice 0 device.length), some zeros⟩,
      s.host.syncs + 1, ?_, rfl, ?_, ?_⟩
    · have hs := sync_of_le (m := ⟨address, device, some zeros⟩) rfl hm
        (show 0 + device.length ≤ device.length by simp) .toDevice
      simp only [clear, size, Action.run_onHost, Host.sync]
      rw [hs]
      rfl
    · simp [zeros, size]
    · simp [zeros, size]

end Memory

end Accelerator
