import Accelerator.Proofs.World.Accounting

/-! Buffers that are alive do not overlap. The memory of a device starts anew when an image is
loaded, but whoever loads one holds the lock of the device, and a buffer that is alive keeps its
registry from giving that lock away. -/

namespace Accelerator

/-- The allocation of a buffer lies in its bank, below what the next one will get, and its window
within it. -/
structure Buffer.Lodged (b : Buffer) (r : Registry) (d : Device) (bank : Bank) : Prop where
  found : d.bank? r.bank = some bank
  bound : ∃ device ∈ r.devices, device.index = b.device
  base_le : bank.base ≤ b.memory.address
  le_offset : b.memory.address + b.placement.physicalSize ≤ bank.base + d.offsetIn r.bank
  le_end : b.memory.address + b.placement.physicalSize ≤ bank.base + bank.size
  address : checkedAdd b.memory.address b.placement.offset = some b.address
  fits : b.placement.offset + b.size ≤ b.placement.physicalSize

def Buffer.Apart (b b' : Buffer) : Prop :=
  b.memory.address + b.placement.physicalSize ≤ b'.memory.address ∨
    b'.memory.address + b'.placement.physicalSize ≤ b.memory.address

namespace Buffer

variable {b b' : Buffer} {r : Registry} {d d' : Device} {bank : Bank}

theorem Apart.symm (h : b.Apart b') : b'.Apart b := Or.symm h

theorem Lodged.extend (h : b.Lodged r d bank) (hd : d.Extends d') (stripeSlot : Nat) :
    b.Lodged { r with stripeSlot } d' bank := by
  have hle := hd.offsetIn_le r.bank
  refine ⟨?_, h.bound, h.base_le, ?_, h.le_end, h.address, h.fits⟩
  · rw [Device.bank?, hd.resident]
    exact h.found
  · exact h.le_offset.trans (Nat.add_le_add_left hle bank.base)

theorem Lodged.keeps (h : b.Lodged r d bank) (hb : b.Keeps b') : b'.Lodged r d bank := by
  obtain ⟨memory, ha, rfl⟩ := hb
  obtain ⟨hfound, hbound, hbase, hoffset, hend, haddress, hfits⟩ := h
  rw [← ha] at hbase hoffset hend haddress
  exact ⟨hfound, hbound, hbase, hoffset, hend, haddress, hfits⟩

theorem Apart.keeps {c c' : Buffer} (h : b.Apart b') (hb : b.Keeps c) (hb' : b'.Keeps c') :
    c.Apart c' := by
  obtain ⟨memory, ha, rfl⟩ := hb
  obtain ⟨memory', ha', rfl⟩ := hb'
  rwa [Apart, ← ha, ← ha'] at h

end Buffer

theorem Opening.Covers.exists_bound {r : Registry} {name : String} {device : Nat}
    (h : Opening.Covers r.devices r.units) (hu : ∃ u ∈ r.matching name, u.device = device) :
    ∃ bound ∈ r.devices, bound.index = device := by
  obtain ⟨u, hu, rfl⟩ := hu
  obtain ⟨e, he, rfl⟩ := Registry.mem_units_of_matching hu
  exact h e he

/-- A new buffer begins where the memory that was taken before ends. -/
theorem Buffer.Made.lodged {b : Buffer} {r : Registry} {slot : Nat} {d d' : Device}
    (h : b.Made r slot d d') (hb : ∃ bound ∈ r.devices, bound.index = b.device) :
    ∃ bank, d.bank? r.bank = some bank ∧ b.memory.address = bank.base + d.offsetIn r.bank ∧
      b.Lodged r d' bank := by
  obtain ⟨bank, hbank, -, hend, haddress, -⟩ := Device.alloc_eq_ok_iff.mp h.taken
  have hoff := Device.offsetIn_of_alloc h.taken
  have hfound : d'.bank? r.bank = some bank := by
    rw [Device.bank?, Device.resident_of_alloc h.taken]
    exact hbank
  refine ⟨bank, hbank, haddress.symm, hfound, hb, ?_, ?_, ?_, h.address,
    Striping.le_physicalSize_of_placement h.placed⟩
  · omega
  · omega
  · omega

namespace World

/-- The locks are in order, every buffer is lodged with its registry, and no two buffers of one
device overlap. -/
structure Separate (directory : String) (start : Site) (w : World) : Prop where
  accounted : w.Accounted {directory} start
  covers : ∀ id r, w.registries.get? id = some r → Opening.Covers r.devices r.units
  lodged : ∀ id b, w.buffers.get? id = some b → ∃ r d bank,
    w.registries.get? b.registry = some r ∧ w.site.host.devices[b.device]? = some d ∧
      b.Lodged r d bank
  apart : ∀ id id' b b', w.buffers.get? id = some b → w.buffers.get? id' = some b' → id ≠ id' →
    b.device = b'.device → b.Apart b'

variable {directory : String} {start : Site} {w w' : World} {deed : Deed} {b : Buffer}
  {r : Registry} {d : Device} {bank : Bank}

/-- The lock of a device that the registry has bound is one of its own, and is held. -/
theorem Accounted.locks_of_bound (h : w.Accounted {directory} start) {id i : Nat} {r : Registry}
    (hr : w.registries.get? id = some r) (hb : ∃ bound ∈ r.devices, bound.index = i) :
    DeviceLock.place directory i ∈ r.lockFiles ∧ DeviceLock.place directory i ∈ w.site.held := by
  obtain ⟨bound, hm, rfl⟩ := hb
  obtain rfl : r.settings.lockDirectory = directory := (h.registry id r hr).named
  exact h.locks_of_registry hr hm

/-- No device is bound by two registries. -/
theorem Accounted.eq_of_bound (h : w.Accounted {directory} start) {id id' i : Nat}
    {r r' : Registry} (hr : w.registries.get? id = some r) (hr' : w.registries.get? id' = some r')
    (hb : ∃ bound ∈ r.devices, bound.index = i) (hb' : ∃ bound ∈ r'.devices, bound.index = i) :
    id = id' := by
  have hn := (List.nodup_append'.mp (List.nodup_append'.mp h.balanced.nodup).1).2.1
  exact Store.eq_of_mem_flatMap hn hr hr' (h.locks_of_bound hr hb).1 (h.locks_of_bound hr' hb').1

namespace Separate

theorem init (directory : String) (site : Site) : Separate directory site { site } :=
  ⟨Accounted.init _ site, fun _ _ => nofun, fun _ _ => nofun, fun _ _ _ _ => nofun⟩

/-- Buffers that stay are as well lodged as before, if their registries stay and the devices
that are locked only fill up. -/
theorem keep (h : w.Separate directory start) (ha : w'.Accounted {directory} start)
    (hc : ∀ id r, w'.registries.get? id = some r → Opening.Covers r.devices r.units)
    (hb : ∀ id b', w'.buffers.get? id = some b' →
      ∃ b, w.buffers.get? id = some b ∧ b.Keeps b')
    (hr : ∀ id b r, w'.buffers.get? id = some b → w.registries.get? b.registry = some r →
      ∃ stripeSlot, w'.registries.get? b.registry = some { r with stripeSlot })
    (hd : ∀ (i : Nat) (d : Device), DeviceLock.place directory i ∈ w.site.held →
      w.site.host.devices[i]? = some d →
        ∃ d' : Device, w'.site.host.devices[i]? = some d' ∧ d.Extends d') :
    w'.Separate directory start := by
  refine ⟨ha, hc, fun id b' hid => ?_, fun id id' c c' hid hid' hne hdev => ?_⟩
  · obtain ⟨b, hid₀, hkeeps⟩ := hb id b' hid
    obtain ⟨r, d, bank, hreg, hdev, hlod⟩ := h.lodged id b hid₀
    -- the device is bound by the registry of the buffer, which holds its lock
    obtain ⟨-, hheld⟩ := h.accounted.locks_of_bound hreg hlod.bound
    obtain ⟨d', hdev', hext⟩ := hd b.device d hheld hdev
    have hlod' := hlod.keeps hkeeps
    obtain ⟨memory, -, rfl⟩ := hkeeps
    obtain ⟨stripeSlot, hreg'⟩ := hr id _ r hid hreg
    exact ⟨_, d', bank, hreg', hdev', hlod'.extend hext stripeSlot⟩
  · obtain ⟨b, hid₀, hkeeps⟩ := hb id c hid
    obtain ⟨b', hid₀', hkeeps'⟩ := hb id' c' hid'
    refine (h.apart id id' b b' hid₀ hid₀' hne ?_).keeps hkeeps hkeeps'
    obtain ⟨memory, -, rfl⟩ := hkeeps
    obtain ⟨memory', -, rfl⟩ := hkeeps'
    exact hdev

/-- Openings leave the buffers alone, and of what is open there is no less. -/
theorem extend (h : w.Separate directory start) (ha : w'.Accounted {directory} start)
    (hb : w'.buffers = w.buffers)
    (hr : ∀ id r, w.registries.get? id = some r → w'.registries.get? id = some r)
    (hc : ∀ id r, w'.registries.get? id = some r → w.registries.get? id = some r ∨
      Opening.Covers r.devices r.units)
    (hs : w.site.Spares directory w'.site) : w'.Separate directory start := by
  refine h.keep ha (fun i r hr => (hc i r hr).elim (h.covers i r) id) ?_ ?_ ?_
  · exact fun id b hid => ⟨b, hb ▸ hid, b.keeps_refl⟩
  · exact fun id b r _ hid => ⟨r.stripeSlot, hr _ r hid⟩
  · exact fun i d hi hd => ⟨d, (hs i hi).trans hd, Device.Extends.refl d⟩

theorem opens {n : Nat} {d : Option String} (h : w.Separate directory start)
    (hd : ∀ name ∈ d, name ∈ ({directory} : Set String)) (ho : Opens n d w w') :
    w'.Separate directory start := by
  induction ho with
  | reported hs =>
    have ha := h.accounted.opens hd (.reported (n := n) hs)
    exact h.extend ha rfl (fun _ _ => id) (fun _ _ => Or.inl) (.of_host hs.host)
  | begun hdir hs =>
    have ha := h.accounted.opens hd (.begun (n := n) hdir hs)
    exact h.extend ha rfl (fun _ _ => id) (fun _ _ => Or.inl) (.of_host (Opening.start_alike hs).host)
  | @advanced w w' i m o result hn hid hc =>
    have ha := h.accounted.opens hd (.advanced hn hid hc)
    obtain rfl : o.settings.lockDirectory = directory := (h.accounted.opening i o hid).named
    cases hc.continued with
    | waiting hp => exact h.extend ha rfl (fun _ _ => id) (fun _ _ => Or.inl) hp.spares
    | refused hf => exact h.extend ha rfl (fun _ _ => id) (fun _ _ => Or.inl) hf.spares
    | @ready o' r t hr =>
      refine h.extend ha rfl (fun id r' hid' => ?_) (fun id r' hid' => ?_) hr.proceeds.spares
      · have hlt := Store.lt_next_of_get? hid'
        exact (Store.get?_insert _ _ _).trans ((if_neg (Nat.ne_of_gt hlt)).trans hid')
      · have hid' : (w.registries.insert r).2.get? id = some r' := hid'
        rw [Store.get?_insert] at hid'
        split at hid'
        · cases hid'
          exact Or.inr hr.covers
        · exact Or.inl hid'
  | remembered slot =>
    have ha := h.accounted.opens hd (.remembered (n := n) slot)
    exact h.extend ha rfl (fun _ _ => id) (fun _ _ => Or.inl) (.of_host rfl)
  | trans _ _ ih ih' => exact ih' (ih h)

/-- Whatever is done, as long as the buffers are those of before. -/
theorem stay (h : w.Separate directory start) (hu : deed.Uses directory) (ha : w.Acts deed w')
    (hb : ∀ id b', w'.buffers.get? id = some b' →
      ∃ b, w.buffers.get? id = some b ∧ b.Keeps b') : w'.Separate directory start := by
  rcases ha.opens_or_same with hopens | ⟨-, hregistries⟩
  · exact h.opens hu.named hopens
  rcases ha.opens_or_extends hu.leavesLocks hu.meddles with hopens | hextends
  · exact h.opens hu.named hopens
  refine h.keep (h.accounted.step hu.toCalls ha) (fun id r' hr' => ?_) hb
    (fun id b r hid hr => ha.registry_of_reference (mem_references_of_buffer hid) hr)
    fun i d _ hd => hextends i d hd
  obtain ⟨r, stripeSlot, hr, rfl⟩ := hregistries id r' hr'
  exact h.covers id r hr

/-- A new buffer begins where those that are in its bank end. -/
theorem addBuffer (h : w.Separate directory start)
    (ha : Accounted {directory} start { w with buffers := (w.buffers.insert b).2 })
    (hr : w.registries.get? b.registry = some r) (hd : w.site.host.devices[b.device]? = some d)
    (hb : b.Lodged r d bank)
    (hapart : ∀ id b', w.buffers.get? id = some b' → b.device = b'.device → b.Apart b') :
    Separate directory start { w with buffers := (w.buffers.insert b).2 } := by
  refine ⟨ha, h.covers, fun id b' hid => ?_, fun id id' b₁ b₂ hid hid' hne hdev => ?_⟩
  · simp only [Store.get?_insert] at hid
    split at hid
    · cases hid
      exact ⟨r, d, bank, hr, hd, hb⟩
    · exact h.lodged id b' hid
  · simp only [Store.get?_insert] at hid hid'
    split at hid <;> split at hid'
    · next he he' => exact absurd (he.symm.trans he') hne
    · cases hid
      exact hapart id' b₂ hid' hdev
    · cases hid'
      exact (hapart id b₁ hid hdev.symm).symm
    · exact h.apart id id' b₁ b₂ hid hid' hne hdev

theorem step (h : w.Separate directory start) (hu : deed.Uses directory) (ha : w.Acts deed w') :
    w'.Separate directory start := by
  have hacts := ha
  cases ha with
  | changes hq hc =>
    exact h.stay hu hacts fun id b hid => ⟨b, hc.loses.buffers.get? id b hid, b.keeps_refl⟩
  | opens hq ho => exact h.opens hu.named ho
  | @accesses id a b t hb ht =>
    refine h.stay hu hacts fun i b' hid => ?_
    rw [Store.get?_set] at hid
    split at hid
    · next he =>
      obtain ⟨_, -, rfl⟩ := Option.map_eq_some_iff.mp hid
      exact ⟨b, he ▸ hb, b.keeps_access a⟩
    · exact ⟨b', hid, b'.keeps_refl⟩
  | @makes handle size device id unitName r t b d d' hh hr hu' hb ht hid hdevice hd hd' =>
    -- the place is taken first, and then the buffer is put there
    have hplaced := h.stay hu (.places hh hr hu' ht) fun i b' hi => ⟨b', hi, b'.keeps_refl⟩
    subst hid hdevice
    obtain ⟨stripeSlot, hslot⟩ := r.slotFor_eq size
    have hbound := (h.covers _ r hr).exists_bound hu'
    rw [hslot] at hb hplaced hacts ⊢
    obtain ⟨bank, hbank, haddress, hlodged⟩ := hb.lodged hbound
    refine hplaced.addBuffer (h.accounted.step hu.toCalls hacts) ?_ hd' hlodged
      fun i b' hi hdev => ?_
    · simp only [Store.get?_set, if_true, hr, Option.map_some]
    · obtain ⟨r₀, d₀, bank₀, hr₀, hd₀, hl⟩ := h.lodged i b' hi
      rw [← hdev] at hd₀
      obtain rfl : d = d₀ := Option.some.inj (hd.symm.trans hd₀)
      -- both are of one registry, so of one bank, where the other was taken first
      have hsame := h.accounted.eq_of_bound hr hr₀ hbound (hdev ▸ hl.bound)
      rw [← hsame] at hr₀
      obtain rfl : r = r₀ := Option.some.inj (hr.symm.trans hr₀)
      obtain rfl : bank = bank₀ := Option.some.inj (hbank.symm.trans hl.found)
      right
      rw [haddress]
      exact hl.le_offset
  | _ => exact h.stay hu hacts fun id b hid => ⟨b, hid, b.keeps_refl⟩

theorem acts (h : w.Separate directory start) {history : List Deed}
    (hu : ∀ deed ∈ history, deed.Uses directory) :
    (history.foldl World.act w).Separate directory start :=
  acts_keep_of (fun w deed hm h => h.step (hu deed hm) (w.acts deed)) h

end Separate

/-- After any history in which all locks are in one directory and devices are used through
registries alone, buffers of one device that are alive have no byte in common, and each has
its window in its allocation and its allocation in its bank of the image on the device. -/
theorem buffers_separate (directory : String) (site : Site) (history : List Deed)
    (hu : ∀ deed ∈ history, deed.Uses directory) :
    let w := history.foldl act { site }
    (∀ id id' b b', w.buffers.get? id = some b → w.buffers.get? id' = some b' → id ≠ id' →
      b.device = b'.device →
      b.memory.address + b.placement.physicalSize ≤ b'.memory.address ∨
        b'.memory.address + b'.placement.physicalSize ≤ b.memory.address) ∧
    ∀ id b, w.buffers.get? id = some b → ∃ r d bank first,
      w.registries.get? b.registry = some r ∧ w.site.host.devices[b.device]? = some d ∧
      d.bank? r.bank = some bank ∧ b.addressAt 0 = .ok first ∧
      b.memory.address ≤ first ∧
      first + b.size ≤ b.memory.address + b.placement.physicalSize ∧
      bank.base ≤ b.memory.address ∧
      b.memory.address + b.placement.physicalSize ≤ bank.base + bank.size := by
  intro w
  have h : w.Separate directory site := (Separate.init directory site).acts hu
  refine ⟨h.apart, fun id b hid => ?_⟩
  obtain ⟨r, d, bank, hr, hd, hl⟩ := h.lodged id b hid
  obtain ⟨ha, hlt⟩ := checkedAdd_eq_some_iff.mp hl.address
  have hfirst : b.addressAt 0 = .ok b.address := by
    rw [Buffer.addressAt, checkedAdd_of_lt hlt]
    rfl
  have hfits := hl.fits
  exact ⟨r, d, bank, b.address, hr, hd, hl.found, hfirst, by omega, by omega, hl.base_le, hl.le_end⟩

/-- Two buffers whose registry has no handle any more, while another one waits for its lock. -/
theorem buffers_separate_oneDevice :
    let settings : Settings := { firmware := some "a", lockDirectory := "/" }
    let history : List Deed := [.openRegistry settings, .createBuffer 0 9 0 "dpu",
      .openRegistry settings, .createBuffer 0 9 0 "dpu", .dropHandle 0]
    let w := history.foldl act { site := oneDevice.site }
    ∃ b b', w.buffers.get? 0 = some b ∧ w.buffers.get? 1 = some b' ∧ b.device = b'.device ∧
      (b.memory.address + b.placement.physicalSize ≤ b'.memory.address ∨
        b'.memory.address + b'.placement.physicalSize ≤ b.memory.address) := by
  intro settings history w
  have hdevices : (w.buffers.get? 0).map (·.device) = some 0 ∧
      (w.buffers.get? 1).map (·.device) = some 0 := by decide +kernel
  obtain ⟨b, hb, hd⟩ := Option.map_eq_some_iff.mp hdevices.1
  obtain ⟨b', hb', hd'⟩ := Option.map_eq_some_iff.mp hdevices.2
  have hsame : b.device = b'.device := hd.trans hd'.symm
  have huses : ∀ deed ∈ history, deed.Uses "/" := by
    simp [history, settings, Deed.uses_iff, Deed.calls_iff, Deed.directory?, Deed.LeavesLocks,
      Deed.Faithful, Deed.meddles]
  obtain ⟨hapart, -⟩ := buffers_separate "/" oneDevice.site history huses
  exact ⟨b, b', hb, hb', hsame, hapart 0 1 b b' hb hb' (by decide) hsame⟩

end World

end Accelerator
