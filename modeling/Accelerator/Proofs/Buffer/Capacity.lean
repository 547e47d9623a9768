import Accelerator.Proofs.Buffer.Creation
import Accelerator.Proofs.Device.Capacity
import Accelerator.Proofs.Settings.Placement
import Accelerator.World.Opening

/-! What a request for memory or for a buffer comes to, by what is left in the bank. -/

namespace Accelerator

namespace Memory

variable {device size bank : Nat} {d : Device} {s : Site}

theorem run_alloc_of_error {stop : Stop DeviceError} (hd : s.host.devices[device]? = some d)
    (ha : d.alloc device size bank = .error stop) :
    (alloc device size bank).run s = (.error stop, s) := by
  have ho := Host.openDevice_eq_ok_iff.mpr hd
  simp only [run_alloc, ho, ha]

/-- The allocator has moved also where the host itself cannot have so large a block. -/
theorem run_alloc_of_ok {address : Nat} {d' : Device} (hd : s.host.devices[device]? = some d)
    (ha : d.alloc device size bank = .ok (address, d')) :
    ∃ t : Site, t.host = s.host.setDevice device d' ∧
      (alloc device size bank).run s =
        if Host.maxBlock ≤ size then (.error (.fault .capacityOverflow), t)
        else (.ok (fresh address size d.unified), t) := by
  have ho := Host.openDevice_eq_ok_iff.mpr hd
  let t := { s with host := s.host.setDevice device d' }.emit
    (.memoryAllocated device size bank address d.unified)
  refine ⟨t, rfl, ?_⟩
  simp only [run_alloc, ho, ha]
  rfl

end Memory

/-- What a buffer takes in all. -/
def Striping.total (s : Striping) (size : Nat) : Nat :=
  if s.appliesTo size then size + s.bankCount * s.bankRange else size

theorem Striping.Sound.placement_of_total {s : Striping} (h : s.Sound) {size : Nat}
    (hs : size < wordLimit) (slot : Nat) :
    (wordLimit ≤ s.total size ∧ s.placement size slot = .ok none) ∨
      s.total size < wordLimit ∧ ∃ p, s.placement size slot = .ok (some p) ∧
        p.physicalSize = s.total size ∧ p.offset + size ≤ p.physicalSize := by
  rcases h.placement_cases size slot with ⟨ha, hp⟩ | ⟨ha, hover, hp⟩ | ⟨ha, hfit, hp⟩
  · have ht : s.total size = size := by simp [total, ha]
    rw [ht]
    exact Or.inr ⟨hs, _, hp, rfl, le_physicalSize_of_placement hp⟩
  · have ht : s.total size = size + s.bankCount * s.bankRange := by simp [total, ha]
    rw [ht]
    exact Or.inl ⟨hover, hp⟩
  · have ht : s.total size = size + s.bankCount * s.bankRange := by simp [total, ha]
    rw [ht]
    exact Or.inr ⟨hfit, _, hp, rfl, le_physicalSize_of_placement hp⟩

namespace Registry

variable {r : Registry} {size device slot : Nat} {s : Site} {d : Device} {p : Placement}

theorem fillBuffer_of_placement_none
    (hp : r.settings.striping.placement size slot = .ok none) (id device : Nat)
    (unitName : String) (s : Site) :
    ∃ t, s.Alike t ∧ (r.fillBuffer id size device slot unitName).run s =
      (.error (.error (.allocation size r.bank device
        "striped size overflows the address space")), t) := by
  let e : DeviceError :=
    .allocation size r.bank device "striped size overflows the address space"
  let t := s.emit (.placementFailed device unitName size e.message)
  refine ⟨t, Site.Alike.emit s _, ?_⟩
  simp only [fillBuffer, Action.run_bind, run_place, hp]
  rfl

theorem fillBuffer_of_alloc_error {stop : Stop DeviceError}
    (hp : r.settings.striping.placement size slot = .ok (some p))
    (hd : s.host.devices[device]? = some d)
    (ha : d.alloc device p.physicalSize r.bank = .error stop) (id : Nat) (unitName : String) :
    ∃ t, s.Alike t ∧ (r.fillBuffer id size device slot unitName).run s = (.error stop, t) := by
  have hrun := Memory.run_alloc_of_error hd ha
  cases stop with
  | error e =>
    let t := s.emit (.allocationFailed device unitName size r.bank e.message)
    refine ⟨t, Site.Alike.emit s _, ?_⟩
    simp only [fillBuffer, Action.run_bind, run_place, run_allocate, hp, hrun]
    rfl
  | fault f =>
    refine ⟨s, Site.Alike.refl s, ?_⟩
    simp only [fillBuffer, Action.run_bind, run_place, run_allocate, hp, hrun]

theorem fillBuffer_of_alloc_ok {address : Nat} {d' : Device}
    (hp : r.settings.striping.placement size slot = .ok (some p))
    (hd : s.host.devices[device]? = some d)
    (ha : d.alloc device p.physicalSize r.bank = .ok (address, d'))
    (hlt : address + p.offset < wordLimit) (id : Nat) (unitName : String) :
    ∃ result t, (r.fillBuffer id size device slot unitName).run s = (result, t) ∧
      t.host.devices = s.host.devices.set device d' ∧
      if Host.maxBlock ≤ p.physicalSize then result = .error (.fault .capacityOverflow)
      else if address + p.offset = 0 then
        result = .error (.error (.nullAddress device unitName))
      else ∃ b, result = .ok b ∧ b.address = address + p.offset ∧ b.placement = p := by
  obtain ⟨u, hu, hrun⟩ := Memory.run_alloc_of_ok hd ha
  have hdevices : u.host.devices = s.host.devices.set device d' := by
    rw [hu]
    rfl
  unfold fillBuffer
  simp only [Action.run_bind, run_place, run_allocate, hp, hrun]
  by_cases hb : Host.maxBlock ≤ p.physicalSize
  · simp only [if_pos hb]
    exact ⟨_, u, rfl, hdevices, rfl⟩
  · have hsize := Memory.size_fresh address p.physicalSize d.unified
    obtain ⟨m, syncs, hclear, haddress, -⟩ := Memory.run_clear
      (hsize ▸ Device.lt_wordLimit_of_alloc ha) u
    have hadd : checkedAdd m.address p.offset = some (address + p.offset) := by
      rw [haddress]
      exact checkedAdd_of_lt hlt
    simp only [if_neg hb, hclear]
    split
    · next hnone => simp [hnone] at hadd
    · next hzero =>
      have hnull : address + p.offset = 0 := Option.some.inj (hadd.symm.trans hzero)
      simp only [if_pos hnull]
      exact ⟨_, _, rfl, hdevices, rfl⟩
    · next a hne hsome =>
      obtain rfl : address + p.offset = a := Option.some.inj (hadd.symm.trans hsome)
      have hnull : ¬ address + p.offset = 0 := fun h => hne (h ▸ rfl)
      simp only [if_neg hnull]
      exact ⟨_, _, rfl, hdevices, _, rfl, rfl, rfl⟩

end Registry

namespace World

variable {w : World} {handle registry size device : Nat} {r : Registry} {unitName : String}
  {d : Device}

theorem createBuffer_of_fillBuffer {result : Except (Stop DeviceError) Buffer} {t : Site}
    (hh : w.handles.get? handle = some registry) (hr : w.registries.get? registry = some r)
    (hf : r.findDevice unitName device = .ok device)
    (hfill : ((r.slotFor size).2.fillBuffer registry size device (r.slotFor size).1
      unitName).run w.site = (result, t)) :
    ∃ w', w.createBuffer handle size device unitName =
        some (result.map fun _ => w.buffers.next, w') ∧ w'.site = t ∧
      ∀ b, result = .ok b → w'.buffers.get? w.buffers.next = some b := by
  obtain ⟨answer, w', hw, hasked⟩ := createBuffer_asked hh hr size device unitName
  cases hasked with
  | missing hu => exact absurd (Registry.findDevice_eq_ok_iff.mp hf).2 hu
  | refused hu hb =>
    obtain ⟨rfl, rfl⟩ := Prod.mk.inj (hfill.symm.trans hb)
    refine ⟨_, hw, rfl, fun b hb => ?_⟩
    cases hb
  | made hu hb =>
    obtain ⟨rfl, rfl⟩ := Prod.mk.inj (hfill.symm.trans hb)
    refine ⟨_, hw, rfl, fun b hb => ?_⟩
    cases hb
    exact (Store.get?_insert _ _ _).trans (if_pos rfl)

section Request

variable (hd : w.site.host.devices[device]? = some d)
  (hh : w.handles.get? handle = some registry) (hr : w.registries.get? registry = some r)
  (hf : r.findDevice unitName device = .ok device) (hs : r.settings.striping.Sound)
  (hsize : size < wordLimit)
include hh hr hf hs hsize

theorem createBuffer_of_total_over (hover : wordLimit ≤ r.settings.striping.total size) :
    ∃ w', w.createBuffer handle size device unitName =
        some (.error (.error (.allocation size r.bank device
          "striped size overflows the address space")), w') ∧
      w'.site.host.devices = w.site.host.devices := by
  have hplace : (r.slotFor size).2.settings.striping.placement size (r.slotFor size).1 =
      .ok none := by
    rw [r.settings_slotFor]
    rcases hs.placement_of_total hsize (r.slotFor size).1 with ⟨-, hp⟩ | ⟨hlt, -⟩
    · exact hp
    · omega
  obtain ⟨t, ht, hfill⟩ :=
    Registry.fillBuffer_of_placement_none hplace registry device unitName w.site
  obtain ⟨w', hw, hsite, -⟩ := createBuffer_of_fillBuffer hh hr hf hfill
  refine ⟨w', ?_, by rw [hsite, ht.host]⟩
  rw [hw, r.bank_slotFor]
  rfl

include hd

theorem createBuffer_of_alloc_error {stop : Stop DeviceError}
    (hlt : r.settings.striping.total size < wordLimit)
    (ha : d.alloc device (r.settings.striping.total size) r.bank = .error stop) :
    ∃ w', w.createBuffer handle size device unitName = some (.error stop, w') ∧
      w'.site.host.devices = w.site.host.devices := by
  rw [← r.bank_slotFor size] at ha
  rcases hs.placement_of_total hsize (r.slotFor size).1 with ⟨hover, -⟩ | ⟨-, p, hp, htotal, -⟩
  · omega
  · rw [← r.settings_slotFor size] at hp
    obtain ⟨t, ht, hfill⟩ :=
      Registry.fillBuffer_of_alloc_error hp hd (htotal ▸ ha) registry unitName
    obtain ⟨w', hw, hsite, -⟩ := createBuffer_of_fillBuffer hh hr hf hfill
    exact ⟨w', hw, by rw [hsite, ht.host]⟩

theorem createBuffer_of_fits (hb : d.Bounded)
    (hfits : d.Fits r.bank (r.settings.striping.total size)) :
    ∃ info p answer w', d.bank? r.bank = some info ∧
      r.settings.striping.placement size (r.slotFor size).1 = .ok (some p) ∧
      w.createBuffer handle size device unitName = some (answer, w') ∧
      w'.site.host.devices =
        w.site.host.devices.set device (d.taking r.bank (r.settings.striping.total size)) ∧
      let address := info.base + d.offsetIn r.bank + p.offset
      if Host.maxBlock ≤ r.settings.striping.total size then
        answer = .error (.fault .capacityOverflow)
      else if address = 0 then answer = .error (.error (.nullAddress device unitName))
      else answer = .ok w.buffers.next ∧
        ∃ b, w'.buffers.get? w.buffers.next = some b ∧ b.address = address := by
  obtain ⟨info, hi, hle, ha⟩ := Device.alloc_of_fits device hb hfits
  have hbound := hb.of_bank? hi
  have hpage : 0 < Device.pageSize := by decide
  rcases hs.placement_of_total hsize (r.slotFor size).1 with ⟨hover, -⟩ | ⟨-, p, hp, htotal, hin⟩
  · omega
  · have hlt : info.base + d.offsetIn r.bank + p.offset < wordLimit := by omega
    rw [← htotal] at ha ⊢
    have hplace : (r.slotFor size).2.settings.striping.placement size (r.slotFor size).1 =
        .ok (some p) := by
      rw [r.settings_slotFor]
      exact hp
    have htaken : d.alloc device p.physicalSize (r.slotFor size).2.bank =
        .ok (info.base + d.offsetIn r.bank, d.taking r.bank p.physicalSize) := by
      rw [r.bank_slotFor]
      exact ha
    obtain ⟨result, t, hfill, hdevices, hresult⟩ :=
      Registry.fillBuffer_of_alloc_ok hplace hd htaken hlt registry unitName
    obtain ⟨w', hw, hsite, hbuffer⟩ := createBuffer_of_fillBuffer hh hr hf hfill
    refine ⟨info, p, _, w', hi, hp, hw, by rw [hsite, hdevices], ?_⟩
    by_cases hhuge : Host.maxBlock ≤ p.physicalSize
    · rw [if_pos hhuge] at hresult ⊢
      rw [hresult]
      rfl
    · rw [if_neg hhuge] at hresult ⊢
      by_cases hnull : info.base + d.offsetIn r.bank + p.offset = 0
      · rw [if_pos hnull] at hresult ⊢
        rw [hresult]
        rfl
      · rw [if_neg hnull] at hresult ⊢
        obtain ⟨b, hok, haddress, -⟩ := hresult
        exact ⟨by rw [hok]; rfl, b, hbuffer b hok, haddress⟩

end Request

/-- Memory and buffers asked of a device whose banks end early enough. Where the end of what is
asked for needs more than 64 bits the call ends in an overflow; otherwise it is answered by what
the bank has left. Only what fits moves the allocator. -/
theorem requests_answered {w : World} {device : Nat} {d : Device}
    (hd : w.site.host.devices[device]? = some d) (hb : d.Bounded) :
    (∀ size bank, size < wordLimit →
      let run := (Memory.alloc device size bank).run w.site
      (d.Overruns bank size → run = (.error (.fault .addOverflow), w.site)) ∧
      (¬ d.Overruns bank size → ¬ d.Fits bank size →
        run = (.error (.error (.allocation size bank device (d.refusal bank size))), w.site)) ∧
      (d.Fits bank size → ∃ info t, d.bank? bank = some info ∧
        t.host = w.site.host.setDevice device (d.taking bank size) ∧
        run = if Host.maxBlock ≤ size then (.error (.fault .capacityOverflow), t)
          else (.ok (Memory.fresh (info.base + d.offsetIn bank) size d.unified), t))) ∧
    ∀ handle registry r unitName size, w.handles.get? handle = some registry →
      w.registries.get? registry = some r → r.settings.validate = .ok () →
      r.findDevice unitName device = .ok device → size < wordLimit →
      let total := r.settings.striping.total size
      ∃ answer w', w.createBuffer handle size device unitName = some (answer, w') ∧
        (d.Overruns r.bank total → answer = .error (.fault .addOverflow) ∧
          w'.site.host.devices = w.site.host.devices) ∧
        (¬ d.Overruns r.bank total → ¬ d.Fits r.bank total →
          (answer = if wordLimit ≤ total then
              .error (.error (.allocation size r.bank device
                "striped size overflows the address space"))
            else .error (.error (.allocation total r.bank device (d.refusal r.bank total)))) ∧
          w'.site.host.devices = w.site.host.devices) ∧
        (d.Fits r.bank total → ∃ info p, d.bank? r.bank = some info ∧
          r.settings.striping.placement size (r.slotFor size).1 = .ok (some p) ∧
          w'.site.host.devices = w.site.host.devices.set device (d.taking r.bank total) ∧
          let address := info.base + d.offsetIn r.bank + p.offset
          if Host.maxBlock ≤ total then answer = .error (.fault .capacityOverflow)
          else if address = 0 then answer = .error (.error (.nullAddress device unitName))
          else answer = .ok w.buffers.next ∧
            ∃ b, w'.buffers.get? w.buffers.next = some b ∧ b.address = address) := by
  refine ⟨fun size bank hsize => ⟨?_, ?_, ?_⟩, ?_⟩
  · intro ho
    exact Memory.run_alloc_of_error hd (Device.alloc_of_overruns device ho)
  · intro ho hf
    exact Memory.run_alloc_of_error hd (Device.alloc_of_not_fits device hsize hf ho)
  · intro hf
    obtain ⟨info, hi, -, ha⟩ := Device.alloc_of_fits device hb hf
    obtain ⟨t, ht, hrun⟩ := Memory.run_alloc_of_ok hd ha
    exact ⟨info, t, hi, ht, hrun⟩
  · intro handle registry r unitName size hh hr hv hf hsize total
    have hs := Settings.sound_of_validate hv
    by_cases hfits : d.Fits r.bank total
    · obtain ⟨info, p, answer, w', hi, hp, hw, hdevices, hanswer⟩ :=
        createBuffer_of_fits hd hh hr hf hs hsize hb hfits
      have hno := hfits.not_overruns hb
      exact ⟨answer, w', hw, fun ho => absurd ho hno, fun _ hn => absurd hfits hn,
        fun _ => ⟨info, p, hi, hp, hdevices, hanswer⟩⟩
    · by_cases hover : wordLimit ≤ total
      · obtain ⟨w', hw, hdevices⟩ := createBuffer_of_total_over hh hr hf hs hsize hover
        have hno : ¬ d.Overruns r.bank total := fun ho => Nat.not_lt.mpr hover ho.2.2.1
        refine ⟨_, w', hw, fun ho => absurd ho hno, fun _ _ => ?_, fun h => absurd h hfits⟩
        rw [if_pos hover]
        exact ⟨rfl, hdevices⟩
      · have hlt := Nat.lt_of_not_le hover
        by_cases ho : d.Overruns r.bank total
        · obtain ⟨w', hw, hdevices⟩ :=
            createBuffer_of_alloc_error hd hh hr hf hs hsize hlt (Device.alloc_of_overruns device ho)
          exact ⟨_, w', hw, fun _ => ⟨rfl, hdevices⟩, fun hn => absurd ho hn,
            fun h => absurd h hfits⟩
        · obtain ⟨w', hw, hdevices⟩ := createBuffer_of_alloc_error hd hh hr hf hs hsize hlt
            (Device.alloc_of_not_fits device hlt hfits ho)
          refine ⟨_, w', hw, fun h => absurd h ho, fun _ _ => ?_, fun h => absurd h hfits⟩
          rw [if_neg hover]
          exact ⟨rfl, hdevices⟩

/-- One byte was taken already; then a buffer is asked for that is longer than its bank, and one
that reaches up to the last address. -/
theorem requests_answered_oneDevice :
    let w := ((oneDevice.createBuffer 0 1 0 "dpu").map (·.2)).getD oneDevice
    ∃ w₁ w₂,
      w.createBuffer 0 70000 0 "dpu" = some (.error (.error
        (.allocation 70008 0 0 "bank DDR exhausted")), w₁) ∧
      w₁.site.host.devices = w.site.host.devices ∧
      w.createBuffer 0 18446744073709551607 0 "dpu" =
        some (.error (.fault .addOverflow), w₂) := by
  intro w
  have hsome : (w.site.host.devices[0]?).isSome ∧ (w.registries.get? 0).isSome := by
    decide +kernel
  obtain ⟨d, hd⟩ := Option.isSome_iff_exists.mp hsome.1
  obtain ⟨r, hr⟩ := Option.isSome_iff_exists.mp hsome.2
  have hdevice : ∀ d ∈ w.site.host.devices[0]?, d.Bounded ∧
      ¬ d.Overruns 0 70008 ∧ ¬ d.Fits 0 70008 ∧ d.refusal 0 70008 = "bank DDR exhausted" ∧
      d.Overruns 0 18446744073709551615 := by
    decide +kernel
  have hregistry : ∀ r ∈ w.registries.get? 0, r.settings.validate = .ok () ∧
      r.findDevice "dpu" 0 = .ok 0 ∧ r.bank = 0 ∧ r.settings.striping.total 70000 = 70008 ∧
      r.settings.striping.total 18446744073709551607 = 18446744073709551615 := by
    decide +kernel
  obtain ⟨hb, hno, hfull, hreason, hover⟩ := hdevice d hd
  obtain ⟨hv, hf, hbank, htotal, htotal'⟩ := hregistry r hr
  have hh : w.handles.get? 0 = some 0 := by decide +kernel
  obtain ⟨-, hbuffer⟩ := requests_answered hd hb
  obtain ⟨answer, w₁, hw₁, -, hrefused, -⟩ :=
    hbuffer 0 0 r "dpu" 70000 hh hr hv hf (by decide +kernel)
  obtain ⟨answer', w₂, hw₂, hfault, -⟩ :=
    hbuffer 0 0 r "dpu" 18446744073709551607 hh hr hv hf (by decide +kernel)
  rw [htotal, hbank, hreason, if_neg (by decide +kernel)] at hrefused
  rw [htotal', hbank] at hfault
  obtain ⟨hanswer, hdevices⟩ := hrefused hno hfull
  exact ⟨w₁, w₂, hanswer ▸ hw₁, hdevices, (hfault hover).1 ▸ hw₂⟩

/-- The allocator can be made to overflow, and so can the making of a buffer under settings that
were validated: first one byte is taken, then all that 64 bits can number. -/
theorem requests_overflow :
    let image : Image := {
      uuid := Image.sampleUuid, cores := ["dpu:one"], banks := Image.sampleBanks }
    let settings : Settings := { firmware := some "/fw", lockDirectory := "/" }
    let start : World := { site := { host := (Host.ofCount 1).addImage "/fw" image } }
    let w := (start.openRegistry settings).2
    let w := ((w.createBuffer 0 1 0 "dpu").map (·.2)).getD w
    let d : Device := { resident := some image, loads := 1, nextOffset := [(1, 4096)] }
    image.Bounded ∧ settings.validate = .ok () ∧ w.site.host.devices = [d] ∧
      ¬ d.Fits 1 18446744073709551615 ∧
      ((Memory.alloc 0 18446744073709551615 1).run w.site).1 = .error (.fault .addOverflow) ∧
      settings.striping.total 18446744073709420543 = 18446744073709551615 ∧
      (w.createBuffer 0 18446744073709420543 0 "dpu").map (·.1) =
        some (.error (.fault .addOverflow)) := by
  decide +kernel

end World

end Accelerator
