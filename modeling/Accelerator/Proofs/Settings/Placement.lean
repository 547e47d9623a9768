import Accelerator.Proofs.Except
import Accelerator.Settings.Basic
import Mathlib.Order.Interval.Finset.Nat

/-! Placement under settings that were validated. A striped buffer has room for all banks, and as
many of them in a row as there are banks begin in one bank each. -/

namespace Accelerator

namespace Striping

/-- What validation makes sure of where striping is on. -/
def Sound (s : Striping) : Prop :=
  s.enabled = true → 0 < s.bankCount ∧ 0 < s.bankRange ∧ s.bankCount * s.bankRange < wordLimit

variable {s : Striping} {size slot : Nat}

theorem appliesTo_iff : s.appliesTo size = true ↔ s.enabled = true ∧ s.bankRange < size := by
  simp [appliesTo]

theorem Sound.padding (h : s.Sound) (ha : s.appliesTo size = true) :
    s.padding = some (s.bankCount * s.bankRange) := by
  have hlt := (h (appliesTo_iff.mp ha).1).2.2
  rw [Striping.padding, checkedMul_eq_some_iff]
  exact ⟨Nat.mul_comm _ _, hlt⟩

/-- The slot stays below the number of banks, so one more bank still fits in the padding. -/
theorem Sound.offset_add_le (h : s.Sound) (ha : s.appliesTo size = true) (slot : Nat) :
    slot % s.bankCount * s.bankRange + s.bankRange ≤ s.bankCount * s.bankRange := by
  have hpos := (h (appliesTo_iff.mp ha).1).1
  have hlt : slot % s.bankCount + 1 ≤ s.bankCount := Nat.mod_lt slot hpos
  have hle := Nat.mul_le_mul_right s.bankRange hlt
  rwa [Nat.add_mul, Nat.one_mul] at hle

theorem placement_of_not_appliesTo (ha : s.appliesTo size = false) (slot : Nat) :
    s.placement size slot = .ok (some { physicalSize := size, offset := 0 }) := by
  simp [placement, ha]

theorem Sound.placement_none (h : s.Sound) (ha : s.appliesTo size = true)
    (hover : wordLimit ≤ size + s.bankCount * s.bankRange) (slot : Nat) :
    s.placement size slot = .ok none := by
  have hadd := checkedAdd_eq_none_iff.mpr hover
  simp [placement, ha, h.padding ha, hadd]

theorem Sound.placement_some (h : s.Sound) (ha : s.appliesTo size = true)
    (hfit : size + s.bankCount * s.bankRange < wordLimit) (slot : Nat) :
    s.placement size slot = .ok (some {
      physicalSize := size + s.bankCount * s.bankRange
      offset := slot % s.bankCount * s.bankRange }) := by
  have hadd := checkedAdd_of_lt hfit
  have hpos := (h (appliesTo_iff.mp ha).1).1
  have hle := h.offset_add_le ha slot
  have hmul : checkedMul (slot % s.bankCount) s.bankRange =
      some (slot % s.bankCount * s.bankRange) :=
    checkedMul_eq_some_iff.mpr ⟨rfl, by omega⟩
  simp [placement, ha, h.padding ha, hadd, Nat.ne_of_gt hpos, hmul]

/-- Placing a buffer comes to one of three things, and to no fault. -/
theorem Sound.placement_cases (h : s.Sound) (size slot : Nat) :
    (s.appliesTo size = false ∧
      s.placement size slot = .ok (some { physicalSize := size, offset := 0 })) ∨
    (s.appliesTo size = true ∧ wordLimit ≤ size + s.bankCount * s.bankRange ∧
      s.placement size slot = .ok none) ∨
    (s.appliesTo size = true ∧ size + s.bankCount * s.bankRange < wordLimit ∧
      s.placement size slot = .ok (some {
        physicalSize := size + s.bankCount * s.bankRange
        offset := slot % s.bankCount * s.bankRange })) := by
  cases ha : s.appliesTo size with
  | false => exact Or.inl ⟨rfl, placement_of_not_appliesTo ha slot⟩
  | true =>
    by_cases hfit : size + s.bankCount * s.bankRange < wordLimit
    · exact Or.inr (Or.inr ⟨rfl, hfit, h.placement_some ha hfit slot⟩)
    · have hover := Nat.le_of_not_lt hfit
      exact Or.inr (Or.inl ⟨rfl, hover, h.placement_none ha hover slot⟩)

/-- Of `n` numbers in a row each remainder by `n` occurs once. -/
theorem range'_map_mod_perm (first n : Nat) :
    ((List.range' first n).map (· % n)).Perm (List.range n) := by
  have h := Nat.multiset_Ico_map_mod first n
  have hIco : Multiset.Ico first (first + n) = ↑(List.range' first n) := by
    have hlength : first + n - first = n := by omega
    change ↑(List.range' first (first + n - first)) = (↑(List.range' first n) : Multiset Nat)
    rw [hlength]
  rw [hIco, Multiset.map_coe] at h
  exact Multiset.coe_eq_coe.mp h

theorem Sound.offsets_perm (h : s.Sound) {first : Nat} {sizes : Nat → Nat}
    {placed : Nat → Placement}
    (hp : ∀ slot ∈ List.range' first s.bankCount, s.appliesTo (sizes slot) = true ∧
      s.placement (sizes slot) slot = .ok (some (placed slot))) :
    ((List.range' first s.bankCount).map fun slot => (placed slot).offset).Perm
      ((List.range s.bankCount).map (· * s.bankRange)) := by
  have hoffset : ∀ slot ∈ List.range' first s.bankCount,
      (placed slot).offset = slot % s.bankCount * s.bankRange := by
    intro slot hm
    obtain ⟨ha, hplace⟩ := hp slot hm
    rcases h.placement_cases (sizes slot) slot with ⟨hn, -⟩ | ⟨-, -, hn⟩ | ⟨-, -, hs⟩
    · rw [ha] at hn
      cases hn
    · rw [hplace] at hn
      cases hn
    · have heq := Option.some.inj (Except.ok.inj (hplace.symm.trans hs))
      rw [heq]
  have hrotate := (range'_map_mod_perm first s.bankCount).map (· * s.bankRange)
  rw [List.map_map] at hrotate
  rwa [List.map_congr_left hoffset]

end Striping

namespace Settings

theorem of_ensure {ok : Bool} {key value reason : String}
    (h : ensure ok key value reason = .ok ()) : ok = true := by
  unfold ensure at h
  split at h
  · assumption
  · cases h

theorem sound_of_validate {settings : Settings} (h : settings.validate = .ok ()) :
    settings.striping.Sound := by
  intro he
  obtain ⟨_, hs, _⟩ := ok_of_bind h
  unfold validateStriping at hs
  rw [if_pos he] at hs
  obtain ⟨_, hcount, hs⟩ := ok_of_bind hs
  obtain ⟨_, hrange, hpad⟩ := ok_of_bind hs
  obtain ⟨padding, hpad⟩ := Option.isSome_iff_exists.mp (of_ensure hpad)
  obtain ⟨hmul, hlt⟩ := checkedMul_eq_some_iff.mp hpad
  refine ⟨of_decide_eq_true (of_ensure hcount), of_decide_eq_true (of_ensure hrange), ?_⟩
  rwa [Nat.mul_comm, hmul]

/-- Under validated settings placing a buffer never faults. It has no result just when the padded
size needs more than 64 bits, and otherwise the window lies in the allocation, with a whole bank
behind it where it is striped. Striped buffers in a row start once in each bank. -/
theorem placement_spreads {settings : Settings} (h : settings.validate = .ok ()) :
    let s := settings.striping
    (∀ size slot, ∃ result, s.placement size slot = .ok result ∧
      (result = none ↔
        s.appliesTo size = true ∧ wordLimit - 1 < size + s.bankCount * s.bankRange) ∧
      ∀ p, result = some p →
        p.offset + size ≤ p.physicalSize ∧
        (s.appliesTo size = false → p.offset = 0) ∧
        (s.appliesTo size = true → s.bankRange ∣ p.offset ∧
          p.offset < s.bankCount * s.bankRange ∧
          p.offset + size + s.bankRange ≤ p.physicalSize)) ∧
    ∀ (first : Nat) (sizes : Nat → Nat) (placed : Nat → Placement),
      (∀ slot ∈ List.range' first s.bankCount, s.appliesTo (sizes slot) = true ∧
        s.placement (sizes slot) slot = .ok (some (placed slot))) →
      ((List.range' first s.bankCount).map fun slot => (placed slot).offset).Perm
        ((List.range s.bankCount).map (· * s.bankRange)) := by
  intro s
  have hs : s.Sound := sound_of_validate h
  have hword : 0 < wordLimit := by decide
  refine ⟨fun size slot => ?_, fun first sizes placed => hs.offsets_perm⟩
  rcases hs.placement_cases size slot with ⟨ha, hp⟩ | ⟨ha, hover, hp⟩ | ⟨ha, hfit, hp⟩
  · refine ⟨_, hp, by simp [ha], ?_⟩
    rintro p ⟨⟩
    simp [ha]
  · refine ⟨_, hp, ?_, nofun⟩
    simp only [ha, true_and, true_iff]
    omega
  · refine ⟨_, hp, ?_, ?_⟩
    · simp only [ha, reduceCtorEq, true_and, false_iff]
      omega
    · have hle := hs.offset_add_le ha slot
      have hrange := (hs (Striping.appliesTo_iff.mp ha).1).2.1
      rintro p ⟨⟩
      simp only [ha, reduceCtorEq, forall_const, IsEmpty.forall_iff, true_and]
      exact ⟨by omega, Nat.dvd_mul_left _ _, by omega, by omega⟩

/-- Nothing set but the directory, and eight buffers that each are one byte too long for a bank. -/
theorem placement_spreads_byDefault :
    let settings : Settings := { lockDirectory := "/" }
    let offsetOf := fun slot => slot % 8 * 16384
    settings.validate = .ok () ∧
      settings.striping.placement (wordLimit - 1) 3 = .ok none ∧
      (∀ slot ∈ List.range' 5 8, settings.striping.placement 16385 slot =
        .ok (some { physicalSize := 147457, offset := offsetOf slot })) ∧
      ((List.range' 5 8).map offsetOf).Perm ((List.range 8).map (· * 16384)) := by
  intro settings offsetOf
  have hvalid : settings.validate = .ok () := by decide +kernel
  obtain ⟨hplace, hspread⟩ := placement_spreads hvalid
  obtain ⟨result, hresult, hnone, -⟩ := hplace (wordLimit - 1) 3
  have hover : settings.striping.placement (wordLimit - 1) 3 = .ok none := by
    rw [hresult, hnone.mpr (by decide +kernel)]
  have hslots : ∀ slot ∈ List.range' 5 8, settings.striping.appliesTo 16385 = true ∧
      settings.striping.placement 16385 slot =
        .ok (some { physicalSize := 147457, offset := offsetOf slot }) := by
    decide
  have hperm := hspread 5 (fun _ => 16385)
    (fun slot => { physicalSize := 147457, offset := offsetOf slot }) hslots
  exact ⟨hvalid, hover, fun slot hm => (hslots slot hm).2, hperm⟩

end Settings

end Accelerator
