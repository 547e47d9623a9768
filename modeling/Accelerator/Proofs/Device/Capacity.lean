import Accelerator.Proofs.Device.Allocation

/-! Which allocations fit their bank, and what becomes of the others. On a device whose banks end
early enough the allocator adds beyond 64 bits for one reason only, and then it has not moved. -/

namespace Accelerator

/-- Behind every bank one more page can be addressed. -/
def Image.Bounded (image : Image) : Prop :=
  ∀ bank ∈ image.banks, bank.base + bank.size + Device.pageSize ≤ wordLimit

instance (image : Image) : Decidable image.Bounded :=
  inferInstanceAs (Decidable (∀ bank ∈ image.banks,
    bank.base + bank.size + Device.pageSize ≤ wordLimit))

namespace Device

def Bounded (d : Device) : Prop :=
  ∀ image ∈ d.resident, image.Bounded

instance (d : Device) : Decidable d.Bounded :=
  inferInstanceAs (Decidable (∀ image ∈ d.resident, image.Bounded))

/-- There is something to take, and the bank has that much left. -/
def Fits (d : Device) (bank size : Nat) : Prop :=
  0 < size ∧ ∃ info ∈ d.bank? bank, d.offsetIn bank + size ≤ info.size

/-- The end of the allocation has no 64 bits, though its size has. -/
def Overruns (d : Device) (bank size : Nat) : Prop :=
  (d.bank? bank).isSome ∧ 0 < size ∧ size < wordLimit ∧ wordLimit ≤ d.offsetIn bank + size

instance (d : Device) (bank size : Nat) : Decidable (d.Overruns bank size) :=
  inferInstanceAs (Decidable (_ ∧ _ ∧ _ ∧ _))

instance (d : Device) (bank size : Nat) : Decidable (d.Fits bank size) :=
  inferInstanceAs (Decidable (_ ∧ ∃ info ∈ d.bank? bank, _))

/-- Why an allocation that does not fit is refused. -/
def refusal (d : Device) (bank size : Nat) : String :=
  match d.bank? bank with
  | none => "no such bank"
  | some info => if size = 0 then "empty allocation" else s!"bank {info.tag} exhausted"

/-- The device once an allocation was made in a bank. -/
def taking (d : Device) (bank size : Nat) : Device :=
  { d with nextOffset := d.nextOffset.put bank (roundUp (d.offsetIn bank + size) pageSize) }

variable {d : Device} {size bank : Nat} {info : Bank}

theorem Bounded.of_bank? (h : d.Bounded) (hi : d.bank? bank = some info) :
    info.base + info.size + pageSize ≤ wordLimit := by
  obtain ⟨image, hr, hi⟩ := Option.bind_eq_some_iff.mp hi
  exact h image hr info (List.mem_of_getElem? hi)

theorem roundUp_lt_add (n : Nat) : roundUp n pageSize < n + pageSize := by
  have hle : (n + pageSize - 1) / pageSize * pageSize ≤ n + pageSize - 1 :=
    Nat.div_mul_le_self _ _
  have hpos : 0 < pageSize := by decide
  rw [roundUp]
  omega

theorem alloc_of_fits (index : Nat) (h : d.Bounded) (hf : d.Fits bank size) :
    ∃ info, d.bank? bank = some info ∧ d.offsetIn bank + size ≤ info.size ∧
      d.alloc index size bank = .ok (info.base + d.offsetIn bank, d.taking bank size) := by
  obtain ⟨hpos, info, hi, hle⟩ := hf
  have hbound := h.of_bank? hi
  have hround := roundUp_lt_add (d.offsetIn bank + size)
  have haddress : info.base + d.offsetIn bank < wordLimit := by omega
  have hoffset : roundUp (d.offsetIn bank + size) pageSize < wordLimit := by omega
  exact ⟨info, hi, hle, alloc_eq_ok_iff.mpr ⟨info, hi, hpos, hle, rfl, haddress, hoffset, rfl⟩⟩

theorem alloc_of_overruns (index : Nat) (ho : d.Overruns bank size) :
    d.alloc index size bank = .error (.fault .addOverflow) := by
  obtain ⟨hsome, hpos, -, hover⟩ := ho
  obtain ⟨info, hi⟩ := Option.isSome_iff_exists.mp hsome
  have hadd := checkedAdd_eq_none_iff.mpr hover
  simp [alloc, hi, Nat.ne_of_gt hpos, hadd]

theorem alloc_of_not_fits (index : Nat) (hs : size < wordLimit) (hf : ¬ d.Fits bank size)
    (ho : ¬ d.Overruns bank size) :
    d.alloc index size bank =
      .error (.error (.allocation size bank index (d.refusal bank size))) := by
  cases hi : d.bank? bank with
  | none => simp [alloc, refusal, hi]
  | some info =>
    by_cases hzero : size = 0
    · simp [alloc, refusal, hi, hzero]
    · have hpos : 0 < size := Nat.pos_of_ne_zero hzero
      have hlt : d.offsetIn bank + size < wordLimit :=
        Nat.lt_of_not_le fun hover => ho ⟨by simp [hi], hpos, hs, hover⟩
      have hexhausted : info.size < d.offsetIn bank + size :=
        Nat.lt_of_not_le fun hle => hf ⟨hpos, info, hi, hle⟩
      simp [alloc, refusal, hi, hzero, checkedAdd_of_lt hlt, hexhausted]

theorem Fits.not_overruns (h : d.Bounded) (hf : d.Fits bank size) : ¬ d.Overruns bank size := by
  obtain ⟨-, info, hi, hle⟩ := hf
  have hbound := h.of_bank? hi
  rintro ⟨-, -, -, hover⟩
  have hpos : 0 < pageSize := by decide
  omega

end Device

end Accelerator
