import Accelerator.Proofs.Registry.Naming
import Accelerator.Proofs.World.Provenance
import Mathlib.Data.List.Find

/-! The registers of compute units. A unit of a registry that has loaded its image is told from the
others by its full name and its device, and holds what was last written to it, whichever way. -/

namespace Accelerator

/-- What was last written to a register of the unit of this name on this device. -/
def lastWritten (xs : List RegisterWrite) (fullName : String) (device : Nat) (offset : UInt32) :
    Option UInt32 :=
  (xs.reverse.find? fun x =>
    x.fullName = fullName ∧ x.kernel.device = device ∧ x.offset = offset).map (·.value)

/-- What a register holds that was never written: a half of the seed of its unit, or zero. -/
def Host.seeded (h : Host) (fullName : String) (offset : UInt32) : UInt32 :=
  let seed := (h.fingerprints.get? fullName).getD 0
  if offset = 0x1f0 then seed.toUInt32
  else if offset = 0x1f4 then (seed >>> 32).toUInt32
  else 0

theorem Host.initialRegister_eq (h : Host) (kernel : Kernel) (offset : UInt32) :
    h.initialRegister kernel offset = h.seeded kernel.name offset := by
  unfold initialRegister seeded
  by_cases hlow : offset = 0x1f0
  · subst hlow
    rfl
  · by_cases hhigh : offset = 0x1f4 <;>
      simp [fingerprintLow, fingerprintHigh, hlow, hhigh]

theorem Host.Ages.readRegister {h h' : Host} (ha : h.Ages h') (kernel : Kernel) (offset : UInt32) :
    h'.readRegister kernel offset = h.readRegister kernel offset := by
  simp only [Host.readRegister, Host.initialRegister, ha.registers, ha.fingerprints]

theorem Host.readRegister_writeRegister (h : Host) (kernel kernel' : Kernel)
    (offset offset' value : UInt32) :
    (h.writeRegister kernel offset value).readRegister kernel' offset' =
      if kernel = kernel' ∧ offset = offset' then value else h.readRegister kernel' offset' := by
  unfold readRegister writeRegister
  simp only [Table.get?_put, Prod.mk.injEq]
  split <;> rfl

namespace World

variable {v w w' : World} {deed : Deed} {id : Nat} {r : Registry}

/-- The registers that are written in the course of a history, in order. -/
def writes : World → List Deed → List RegisterWrite
  | _, [] => []
  | w, deed :: history => (w.write? deed).toList ++ writes (w.act deed) history

theorem Acts.readRegister (h : w.Acts deed w') (kernel : Kernel) (offset : UInt32) :
    w'.site.host.readRegister kernel offset =
      (((w.write? deed).toList.reverse.find? fun x => x.kernel = kernel ∧ x.offset = offset).map
        (·.value)).getD (w.site.host.readRegister kernel offset) := by
  obtain ⟨host, ha, he⟩ := h.host
  rw [he, ← ha.readRegister]
  cases w.write? deed with
  | none => rfl
  | some x =>
    rw [Option.elim, Host.readRegister_writeRegister]
    by_cases hx : x.kernel = kernel ∧ x.offset = offset <;> simp [hx]

/-- A register reads as it did before, but for what was written, where the last word counts. -/
theorem readRegister_acts (w : World) (history : List Deed) (kernel : Kernel) (offset : UInt32) :
    (history.foldl act w).site.host.readRegister kernel offset =
      (((w.writes history).reverse.find? fun x => x.kernel = kernel ∧ x.offset = offset).map
        (·.value)).getD (w.site.host.readRegister kernel offset) := by
  induction history generalizing w with
  | nil => rfl
  | cons deed history ih =>
    rw [List.foldl_cons, ih, (w.acts deed).readRegister, ← Option.getD_or, ← Option.map_or,
      ← List.find?_append, ← List.reverse_append, writes]

theorem fingerprints_acts (w : World) (history : List Deed) :
    (history.foldl act w).site.host.fingerprints = w.site.host.fingerprints := by
  induction history generalizing w with
  | nil => rfl
  | cons deed history ih => exact (ih (w.act deed)).trans (w.acts deed).fingerprints

/-- While it is open the registry `id` has the units of `r`, and dispatchers over it have those
that match. -/
structure Serves (id : Nat) (r : Registry) (w : World) : Prop where
  born : id < w.registries.next
  registry : ∀ r', w.registries.get? id = some r' → r'.units = r.units
  dispatcher : ∀ did d, w.dispatchers.get? did = some d → d.registry = id →
    d.instances.map (·.unit) = r.matching d.unitName

namespace Serves

theorem matching_eq (h : Serves id r w) {r' : Registry} (hr : w.registries.get? id = some r') :
    r'.matching = r.matching := by
  funext name
  rw [Registry.matching, h.registry r' hr, Registry.matching]

theorem act (h : Serves id r w) (deed : Deed) : Serves id r (w.act deed) := by
  have hacts := w.acts deed
  refine ⟨Nat.lt_of_lt_of_le h.born hacts.registries_next_le, fun r' hr' => ?_,
    fun did d hd hid => ?_⟩
  · rcases hacts.opens_or_same with hopens | ⟨-, hsame⟩
    · rcases hopens.registry id r' hr' with hr | ⟨hle, -⟩
      · exact h.registry r' hr
      · exact absurd h.born (Nat.not_lt.mpr hle)
    · obtain ⟨r₀, stripeSlot, hr, rfl⟩ := hsame id r' hr'
      exact h.registry r₀ hr
  · obtain ⟨d₀, hd₀, hid₀, hn, hunits⟩ | ⟨r₀, hr, hunits⟩ := hacts.dispatcher hd
    · rw [hunits, hn]
      exact h.dispatcher did d₀ hd₀ (hid₀ ▸ hid)
    · rw [hunits, h.matching_eq (hid ▸ hr)]

theorem acts (h : Serves id r w) (history : List Deed) :
    Serves id r (history.foldl World.act w) :=
  acts_keep (fun _ deed h => h.act deed) h history

theorem exists_of_write? (h : Serves id r w) {x : RegisterWrite} (hx : w.write? deed = some x)
    (hid : x.registry = some id) :
    ∃ e ∈ r.units, x.fullName = e.2.fullName ∧ x.kernel = e.2.kernel := by
  obtain ⟨id', r', e, hx', hr, hm, hname, hk⟩ | ⟨did, d, u, hx', hd, hm, hname, hk⟩ | ⟨hx', -⟩ :=
    write?_cases hx
  · obtain rfl := Option.some.inj (hx'.symm.trans hid)
    exact ⟨e, h.registry r' hr ▸ hm, hname, hk⟩
  · have hid := Option.some.inj (hx'.symm.trans hid)
    rw [h.dispatcher did d hd hid] at hm
    obtain ⟨e, he, rfl⟩ := Registry.mem_units_of_matching hm
    exact ⟨e, he, hname, hk⟩
  · cases hx'.symm.trans hid

theorem exists_of_writes (h : Serves id r w) {history : List Deed} {x : RegisterWrite}
    (hx : x ∈ w.writes history) (hid : x.registry = some id) :
    ∃ e ∈ r.units, x.fullName = e.2.fullName ∧ x.kernel = e.2.kernel := by
  induction history generalizing w with
  | nil => cases hx
  | cons deed history ih =>
    rcases List.mem_append.mp hx with hx | hx
    · exact h.exists_of_write? (Option.mem_toList.mp hx) hid
    · exact ih (h.act deed) hx

theorem start (h : w.Settled) (hnone : w.registries.get? id = none)
    (hr : (w.act deed).registries.get? id = some r) :
    Opens (w.resumed deed) deed.directory? w (w.act deed) ∧ Serves id r (w.act deed) := by
  have hacts := w.acts deed
  rcases hacts.opens_or_same with hopens | ⟨-, hsame⟩
  · refine ⟨hopens, Store.lt_next_of_get? hr, fun r' hr' => ?_, fun did d hd hid => ?_⟩
    · rw [hr] at hr'
      cases hr'
      rfl
    · have hold : w.registries.next ≤ id := by
        rcases hopens.registry id r hr with hr | ⟨hle, -⟩
        · cases hnone.symm.trans hr
        · exact hle
      rw [hopens.frame.dispatchers] at hd
      have hlt := (h.dispatcher did d hd).1
      omega
  · obtain ⟨r₀, _, hr₀, -⟩ := hsame id r hr
    cases hnone.symm.trans hr₀

end Serves

/-- The deed opens the registry, the image of which is loaded onto its devices since `v`. -/
structure Loads (v w : World) (deed : Deed) (id : Nat) (r : Registry) : Prop where
  closed : w.registries.get? id = none
  opened : (w.act deed).registries.get? id = some r
  begun : ∀ opening n, deed = .continueOpening opening n → v.openings.next ≤ opening
  loads : r.settings.skipImageLoad = false

/-- When the registry is opened a register of one of its units is as it is built, unless it was
written in between. -/
theorem Loads.readRegister {between : List Deed} (hv : v.Settled)
    (h : Loads v (between.foldl act v) deed id r) {e : String × ComputeUnit} (hm : e ∈ r.units)
    {offset : UInt32}
    (hother : ∀ x ∈ v.writes between, ¬ (x.kernel = e.2.kernel ∧ x.offset = offset)) :
    ((between.foldl act v).act deed).site.host.readRegister e.2.kernel offset =
      v.site.host.initialRegister e.2.kernel offset := by
  have hw := hv.acts between
  have hsince := Since.acts v between
  obtain ⟨hopens, -⟩ := Serves.start hw h.closed h.opened
  have hn : v.openings.next ≤ (between.foldl act v).resumed deed := by
    cases deed with
    | continueOpening opening n => exact h.begun opening n rfl
    | _ => exact hsince.next
  have hunknown : ¬ v.site.host.Knows e.2.kernel := by
    rcases (hsince.opens hopens).2 id r h.opened with hr | ⟨-, hfresh⟩
    · cases h.closed.symm.trans hr
    · exact hfresh hn h.loads e hm
  -- what was written by then was written to kernels that were known by then
  have hnone : v.site.host.registers.get? (e.2.kernel, offset) = none := by
    rcases hget : v.site.host.registers.get? (e.2.kernel, offset) with _ | value
    · rfl
    · exact absurd (hv.register e.2.kernel offset value hget) hunknown
  have hfind : ((v.writes between).reverse.find? fun x =>
      x.kernel = e.2.kernel ∧ x.offset = offset) = none := by
    refine List.find?_eq_none.mpr fun x hx hk => ?_
    exact hother x (List.mem_reverse.mp hx) (of_decide_eq_true hk)
  rw [hopens.ages.readRegister, readRegister_acts, hfind, Host.readRegister, hnone]
  rfl

/-- When the registry is opened the registers of its units are as they are built. -/
theorem Loads.unwritten {between : List Deed} (hv : v.Settled)
    (h : Loads v (between.foldl act v) deed id r)
    (hother : ∀ x ∈ v.writes between, x.kernel.device ∉ r.devices.map (·.index)) :
    ∀ e ∈ r.units, ∀ offset,
      ((between.foldl act v).act deed).site.host.readRegister e.2.kernel offset =
        v.site.host.initialRegister e.2.kernel offset := by
  intro e hm offset
  obtain ⟨⟨settings, n, hmade⟩, -⟩ := (((hv.acts between).act deed).registry id r h.opened)
  refine h.readRegister hv hm fun x hx hk => hother x hx ?_
  rw [hk.1, (hmade.kernel_device hm).1]
  exact (hmade.kernel_device hm).2

/-- Where none but the registry writes to its devices, what was last written to the kernel of a unit
is what was last written under its name and device. -/
theorem Serves.find?_eq (h : Serves id r w) {settings : Settings} {n : Nat}
    (hmade : r.Made settings n) (hp : ∀ name ∈ r.unitNames, IsPlainName name) {history : List Deed}
    (honly : ∀ x ∈ w.writes history, x.kernel.device ∈ r.devices.map (·.index) →
      x.registry = some id) {e : String × ComputeUnit} (hm : e ∈ r.units) (offset : UInt32) :
    ((w.writes history).reverse.find? fun x => x.kernel = e.2.kernel ∧ x.offset = offset).map
      (·.value) = lastWritten (w.writes history) e.2.fullName e.2.device offset := by
  obtain ⟨hdevice, hbound⟩ := hmade.kernel_device hm
  have hkernel : ∀ x ∈ w.writes history,
      x.kernel = e.2.kernel ↔ x.fullName = e.2.fullName ∧ x.kernel.device = e.2.device := by
    intro x hx
    -- on its device all is written through the registry, so to a unit with a kernel of its own
    by_cases hd : x.kernel.device = e.2.device
    · obtain ⟨e', hm', hname, hk⟩ := h.exists_of_writes hx (honly x hx (hd ▸ hbound))
      rw [hname, hk]
      exact hmade.kernel_eq_iff hp hm' hm
    · exact ⟨fun hk => absurd (hk ▸ hdevice) hd, fun hk => absurd hk.2 hd⟩
  have hsame : ∀ x ∈ (w.writes history).reverse,
      decide (x.kernel = e.2.kernel ∧ x.offset = offset) =
        decide (x.fullName = e.2.fullName ∧ x.kernel.device = e.2.device ∧ x.offset = offset) := by
    intro x hx
    rw [decide_eq_decide, hkernel x (List.mem_reverse.mp hx), and_assoc]
  rw [List.find?_congr hsame]
  rfl

theorem Serves.act_readRegister (h : Serves id r w) {settings : Settings} {n : Nat}
    (hmade : r.Made settings n) (hp : ∀ name ∈ r.unitNames, IsPlainName name) {x : RegisterWrite}
    (hx : w.write? deed = some x) (hid : x.registry = some id) {e : String × ComputeUnit}
    (hm : e ∈ r.units) (offset : UInt32) :
    (w.act deed).site.host.readRegister e.2.kernel offset =
      if x.fullName = e.2.fullName ∧ x.kernel.device = e.2.device ∧ x.offset = offset then x.value
      else w.site.host.readRegister e.2.kernel offset := by
  obtain ⟨e', hm', hname, hk⟩ := h.exists_of_write? hx hid
  have hkernel := hmade.kernel_eq_iff hp hm' hm
  rw [← hname, ← hk] at hkernel
  rw [(World.acts w deed).readRegister, hx]
  simp only [← and_assoc, ← hkernel]
  by_cases hc : x.kernel = e.2.kernel ∧ x.offset = offset <;> simp [hc]

theorem Serves.perform_readRegister (h : Serves id r w) {r' : Registry}
    (hr : w.registries.get? id = some r') (name : String) (index : Nat) (offset : UInt32) :
    w.perform (r'.readRegister name index offset) = match (r.matching name)[index]? with
      | some c => (.ok (w.site.host.readRegister c.kernel offset), w)
      | none => (.error (.error (.unitNotFound name index)), w.emit (.unitMissing name index)) := by
  rw [perform, r'.run_readRegister, h.matching_eq hr]
  rcases (r.matching name)[index]? with _ | c <;> rfl

theorem Serves.readRegister (h : Serves id r w) {did : Nat} {d : Dispatcher}
    (hd : w.dispatchers.get? did = some d) (hid : d.registry = id) (host : Host) (index : Nat)
    (offset : UInt32) :
    d.readRegister host index offset = match (r.matching d.unitName)[index]? with
      | some c => .ok (host.readRegister c.kernel offset)
      | none => .error (.device (.unitNotFound d.unitName index)) := by
  rw [← h.dispatcher did d hd hid, List.getElem?_map, Dispatcher.readRegister, Dispatcher.unit]
  rcases d.instances[index]? with _ | i <;> rfl

theorem Serves.writeUnit (h : Serves id r w) {handle : Nat} {r' : Registry}
    (hh : w.handles.get? handle = some id) (hr : w.registries.get? id = some r') (name : String)
    (index : Nat) (offset value : UInt32) : match (r.matching name)[index]? with
      | some c => w.write? (.writeUnit handle name index offset value) =
          some ⟨some id, c.fullName, c.kernel, offset, value⟩
      | none => w.act (.writeUnit handle name index offset value) =
          w.emit (.unitMissing name index) := by
  have hm := h.matching_eq hr
  rcases hc : (r.matching name)[index]? with _ | c
  · simp [World.act, registryOf?, hh, hr, perform, r'.run_writeRegister, hm, hc, World.emit]
  · simp [write?, hh, hr, hm, hc]

theorem Serves.writeInstance (h : Serves id r w) {did : Nat} {d : Dispatcher}
    (hd : w.dispatchers.get? did = some d) (hid : d.registry = id) (index : Nat)
    (offset value : UInt32) : match (r.matching d.unitName)[index]? with
      | some c => w.write? (.writeInstance did index offset value) =
          some ⟨some id, c.fullName, c.kernel, offset, value⟩
      | none => w.act (.writeInstance did index offset value) = w := by
  rw [← h.dispatcher did d hd hid, List.getElem?_map]
  rcases hi : d.instances[index]? with _ | i
  · simp [World.act, hd, Dispatcher.writeRegister, Dispatcher.unit, hi, Except.map]
  · simp [write?, hd, hi, hid]

/-- Whatever else was done before, meanwhile and since: once a registry has opened that loads its
image and whose units have plain names, and where none but this registry and its dispatchers write
to its devices, a register is read as it was last written under the name and device of its unit, and
at first holds its part of the seed. A write changes no other register, and nothing where there is
no unit. -/
theorem registers_isolated (site : Site) (hsite : site.host.registers = [])
    (before between later : List Deed) (deed : Deed) :
    let v := before.foldl act { site }
    let u := between.foldl act v
    let w := later.foldl act (u.act deed)
    let written := (u.act deed).writes later
    ∀ id r, Loads v u deed id r → (∀ name ∈ r.unitNames, IsPlainName name) →
      (∀ x ∈ v.writes between, x.kernel.device ∉ r.devices.map (·.index)) →
      (∀ x ∈ written, x.kernel.device ∈ r.devices.map (·.index) → x.registry = some id) →
      let value := fun (c : ComputeUnit) (offset : UInt32) =>
        (lastWritten written c.fullName c.device offset).getD (site.host.seeded c.fullName offset)
      (∀ r', w.registries.get? id = some r' → ∀ name index offset,
        w.perform (r'.readRegister name index offset) = match (r.matching name)[index]? with
          | some c => (.ok (value c offset), w)
          | none => (.error (.error (.unitNotFound name index)),
              w.emit (.unitMissing name index))) ∧
      (∀ did d, w.dispatchers.get? did = some d → d.registry = id → ∀ index offset,
        d.readRegister w.site.host index offset = match (r.matching d.unitName)[index]? with
          | some c => .ok (value c offset)
          | none => .error (.device (.unitNotFound d.unitName index))) ∧
      (∀ next x, w.write? next = some x → x.registry = some id → ∀ e ∈ r.units, ∀ offset,
        (w.act next).site.host.readRegister e.2.kernel offset =
          if x.fullName = e.2.fullName ∧ x.kernel.device = e.2.device ∧ x.offset = offset then
            x.value
          else w.site.host.readRegister e.2.kernel offset) ∧
      (∀ handle, w.handles.get? handle = some id → (w.registries.get? id).isSome →
        ∀ name index offset value, match (r.matching name)[index]? with
          | some c => w.write? (.writeUnit handle name index offset value) =
              some ⟨some id, c.fullName, c.kernel, offset, value⟩
          | none => w.act (.writeUnit handle name index offset value) =
              w.emit (.unitMissing name index)) ∧
      ∀ did d, w.dispatchers.get? did = some d → d.registry = id → ∀ index offset value,
        match (r.matching d.unitName)[index]? with
          | some c => w.write? (.writeInstance did index offset value) =
              some ⟨some id, c.fullName, c.kernel, offset, value⟩
          | none => w.act (.writeInstance did index offset value) = w := by
  intro v u w written id r hloads hp hother honly value
  have hv : v.Settled := (Settled.start hsite).acts before
  have hopened : (u.act deed).Settled := (hv.acts between).act deed
  obtain ⟨⟨settings, n, hmade⟩, -⟩ := hopened.registry id r hloads.opened
  have hserves := (Serves.start (hv.acts between) hloads.closed hloads.opened).2
  have hw : Serves id r w := hserves.acts later
  have hfingerprints : v.site.host.fingerprints = site.host.fingerprints :=
    fingerprints_acts { site } before
  have hread : ∀ e ∈ r.units, ∀ offset,
      w.site.host.readRegister e.2.kernel offset = value e.2 offset := by
    intro e hm offset
    rw [readRegister_acts, hserves.find?_eq hmade hp honly hm, hloads.unwritten hv hother e hm,
      Host.initialRegister_eq, hmade.kernel_name hp hm, Host.seeded, hfingerprints]
    rfl
  have hmatching {name : String} {index : Nat} {c : ComputeUnit}
      (hc : (r.matching name)[index]? = some c) (offset : UInt32) :
      w.site.host.readRegister c.kernel offset = value c offset := by
    obtain ⟨e, hm, rfl⟩ := Registry.mem_units_of_matching (List.mem_of_getElem? hc)
    exact hread e hm offset
  refine ⟨fun r' hr' name index offset => ?_, fun did d hd hid index offset => ?_,
    fun next x hx hid e hm offset => ?_, fun handle hh hr name index offset value => ?_,
    fun did d hd hid => hw.writeInstance hd hid⟩
  · rw [hw.perform_readRegister hr']
    rcases hc : (r.matching name)[index]? with _ | c
    · rfl
    · simp only [hmatching hc]
  · rw [hw.readRegister hd hid]
    rcases hc : (r.matching d.unitName)[index]? with _ | c
    · rfl
    · simp only [hmatching hc]
  · exact hw.act_readRegister hmade hp hx hid hm offset
  · obtain ⟨r', hr'⟩ := Option.isSome_iff_exists.mp hr
    exact hw.writeUnit hh hr' name index offset value

def seededDevices : Site where
  host := Host.addFingerprint (Host.addImage (Host.ofCount 2) "a" {
    uuid := {}, cores := ["dpu:1", "dpu:2"]
    banks := [{ tag := "DDR[0]", used := true, base := 0x60000000, size := 0x40000000 }] })
    "dpu:1" 0x1122334455667788

/-- The devices had another registry before, and a register is written in two ways. -/
theorem registers_isolated_seeded :
    let before : List Deed := [.openRegistry Registry.allDevices,
      .writeUnit 0 "dpu:1:0" 0 0x1f0 5, .dropHandle 0]
    let between : List Deed := [.beginOpening Registry.allDevices]
    let later : List Deed := [.createDispatcher 1 "dpu:1", .writeUnit 1 "dpu" 1 0x10 7,
      .runDispatcher 0 0 fun p => (p, none), .writeInstance 0 1 0x10 9]
    let v := before.foldl act { site := seededDevices }
    let u := (between.foldl act v).act (.continueOpening 1 2)
    let w := later.foldl act u
    ∃ r, w.registries.get? 1 = some r ∧
      w.perform (r.readRegister "dpu:1:1" 0 0x10) = (.ok 9, w) ∧
      w.perform (r.readRegister "dpu:1:0" 0 0x10) = (.ok 0, w) ∧
      w.perform (r.readRegister "dpu:2:1" 0 0x10) = (.ok 0, w) ∧
      w.perform (r.readRegister "dpu:1:0" 0 0x1f0) = (.ok 0x55667788, w) := by
  intro before between later v u w
  have hopened : (u.registries.get? 1).map (fun r =>
      (r.settings.skipImageLoad, r.image.cores, r.devices.map (·.index))) =
        some (false, ["dpu:1", "dpu:2"], [0, 1]) := by
    decide +kernel
  obtain ⟨r, hr, hmap⟩ := Option.map_eq_some_iff.mp hopened
  obtain ⟨hskip, hcores, hdevices⟩ : r.settings.skipImageLoad = false ∧
      r.image.cores = ["dpu:1", "dpu:2"] ∧ r.devices.map (·.index) = [0, 1] := by
    simpa using hmap
  have hplain : ∀ name ∈ r.unitNames, IsPlainName name := by
    have hall : ∀ name ∈ ["dpu:1", "dpu:2"], IsPlainName name := by decide +kernel
    exact fun name hm => hall name (hcores ▸ (Registry.mem_unitNames_iff.mp hm).1)
  have hloads : Loads v (between.foldl act v) (.continueOpening 1 2) 1 r := by
    refine ⟨by decide +kernel, hr, fun opening n he => ?_, hskip⟩
    cases he
    decide +kernel
  have hother : ∀ x ∈ v.writes between, x.kernel.device ∉ r.devices.map (·.index) := by
    have hnone : v.writes between = [] := rfl
    rw [hnone]
    exact fun _ => nofun
  have honly : ∀ x ∈ u.writes later, x.kernel.device ∈ r.devices.map (·.index) →
      x.registry = some 1 := by
    rw [hdevices]
    decide +kernel
  obtain ⟨hread, -⟩ := registers_isolated seededDevices rfl before between later _ 1 r hloads
    hplain hother honly
  have hsome : (w.registries.get? 1).isSome = true := by decide +kernel
  obtain ⟨r', hr'⟩ := Option.isSome_iff_exists.mp hsome
  have hat (name fullName : String) (device : Nat) (offset value : UInt32)
      (hm : ((u.registries.get? 1).bind fun r => (r.matching name)[0]?.map fun c =>
        (c.fullName, c.device)) = some (fullName, device))
      (hv : (lastWritten (u.writes later) fullName device offset).getD
        (seededDevices.host.seeded fullName offset) = value) :
      w.perform (r'.readRegister name 0 offset) = (.ok value, w) := by
    rw [hr, Option.bind_some] at hm
    obtain ⟨c, hc, hpair⟩ := Option.map_eq_some_iff.mp hm
    obtain ⟨hname, hdevice⟩ := Prod.mk.inj hpair
    rw [← hname, ← hdevice] at hv
    have h := hread r' hr' name 0 offset
    rw [hc] at h
    exact h.trans (Prod.ext (congrArg Except.ok hv) rfl)
  refine ⟨r', hr', ?_, ?_, ?_, ?_⟩
  · exact hat _ "dpu:1" 1 0x10 9 (by decide +kernel) (by decide +kernel)
  · exact hat _ "dpu:1" 0 0x10 0 (by decide +kernel) (by decide +kernel)
  · exact hat _ "dpu:2" 1 0x10 0 (by decide +kernel) (by decide +kernel)
  · exact hat _ "dpu:1" 0 0x1f0 0x55667788 (by decide +kernel) (by decide +kernel)

end World

end Accelerator
