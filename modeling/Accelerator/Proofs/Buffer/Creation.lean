import Accelerator.Proofs.Device.Allocation
import Accelerator.Proofs.Site.Frames
import Accelerator.World.Buffers

/-! What making a buffer takes from its device, and what the new buffer holds. -/

namespace Accelerator

theorem Device.extends_of_alloc {d d' : Device} {index size bank address : Nat}
    (h : d.alloc index size bank = .ok (address, d')) : d.Extends d' := by
  refine ⟨resident_of_alloc h, ?_, offsetIn_le_of_alloc h⟩
  obtain ⟨_, _, _, _, _, _, _, rfl⟩ := alloc_eq_ok_iff.mp h
  rfl

namespace Memory

open Accelerator.Action

theorem alloc_grows (device size bank : Nat) : Within Site.Grows (alloc device size bank) := by
  intro s
  rw [run_alloc]
  rcases ho : s.host.openDevice device with e | d <;> simp only
  · exact Site.lasting_grows.refl s
  · rcases ha : d.alloc device size bank with stop | ⟨address, d'⟩ <;> simp only
    · exact Site.lasting_grows.refl s
    · have hset := Site.grows_setDevice (Host.openDevice_eq_ok_iff.mp ho)
        (Device.extends_of_alloc ha)
      -- the allocator has moved by now, whether the block is too large or not
      have hall := Site.lasting_grows.trans hset (.of_alike (Site.Alike.emit _
        (.memoryAllocated device size bank address d.unified)))
      by_cases hb : Host.maxBlock ≤ size
      · rw [if_pos hb]
        exact hall
      · rw [if_neg hb]
        exact hall

theorem clear_grows (m : Memory) : Within Site.Grows m.clear := by
  unfold clear
  simp only
  split
  · refine Site.lasting_grows.onHost fun s a h hs => ?_
    unfold Host.sync at hs
    rcases hm : Memory.sync _ _ _ _ with e | m' <;> rw [hm] at hs <;> cases hs
    exact Site.grows_of_eq rfl (Files.SameDirectories.refl _) rfl rfl rfl
  · exact Site.lasting_grows.inspects (Inspects.ofExcept _)

end Memory

/-- The buffer is what `d` gave for it when it became `d'`. -/
structure Buffer.Made (b : Buffer) (r : Registry) (slot : Nat) (d d' : Device) : Prop where
  placed : r.settings.striping.placement b.size slot = .ok (some b.placement)
  taken : d.alloc b.device b.placement.physicalSize r.bank = .ok (b.memory.address, d')
  address : checkedAdd b.memory.address b.placement.offset = some b.address
  address_ne_zero : b.address ≠ 0
  device_zero : b.memory.device.toList = List.replicate b.placement.physicalSize 0
  host_zero : b.memory.host.map Runs.toList =
    if d.unified then some (List.replicate b.placement.physicalSize 0) else none

namespace Registry

variable {r : Registry} {id size device slot : Nat} {unitName : String} {s t : Site}

theorem slotFor_eq (r : Registry) (size : Nat) :
    ∃ n, (r.slotFor size).2 = { r with stripeSlot := n } := by
  unfold slotFor
  split
  · exact ⟨_, rfl⟩
  · exact ⟨r.stripeSlot, rfl⟩

theorem settings_slotFor (r : Registry) (size : Nat) :
    (r.slotFor size).2.settings = r.settings := by
  obtain ⟨n, hn⟩ := r.slotFor_eq size
  rw [hn]

theorem bank_slotFor (r : Registry) (size : Nat) : (r.slotFor size).2.bank = r.bank := by
  obtain ⟨n, hn⟩ := r.slotFor_eq size
  rw [hn]

theorem run_lookUpDevice (r : Registry) (name : String) (device : Nat) (s : Site) :
    (r.lookUpDevice name device).run s =
      if ∃ u ∈ r.matching name, u.device = device then (.ok device, s)
      else (.error (.error (.deviceNotFound device name)), s.emit (.deviceMissing device name)) := by
  unfold lookUpDevice
  rw [Action.run_reporting]
  by_cases h : ∃ u ∈ r.matching name, u.device = device
  · rw [if_pos h, findDevice_eq_ok_iff.mpr ⟨rfl, h⟩]
  · rw [if_neg h]
    have hnone : (r.matching name).find? (fun u => u.device = device) = none :=
      List.find?_eq_none.mpr fun u hm hd => h ⟨u, hm, of_decide_eq_true hd⟩
    rw [findDevice, hnone]

theorem run_place (r : Registry) (size device slot : Nat) (unitName : String) (s : Site) :
    (r.place size device slot unitName).run s =
      match r.settings.striping.placement size slot with
      | .error f => (.error (.fault f), s)
      | .ok (some p) => (.ok p, s)
      | .ok none =>
        let e : DeviceError :=
          .allocation size r.bank device "striped size overflows the address space"
        (.error (.error e), s.emit (.placementFailed device unitName size e.message)) := by
  unfold place
  rcases r.settings.striping.placement size slot with f | _ | p <;> rfl

theorem run_allocate (r : Registry) (size physicalSize device : Nat) (unitName : String)
    (s : Site) :
    (r.allocate size physicalSize device unitName).run s =
      match (Memory.alloc device physicalSize r.bank).run s with
      | (.error (.error e), t) => (.error (.error e),
          t.emit (.allocationFailed device unitName size r.bank e.message))
      | result => result := by
  rcases h : (Memory.alloc device physicalSize r.bank).run s with ⟨(e | f) | m, t⟩ <;>
    simp only [allocate, ExceptT.run_mk, bind, StateT.bind, h] <;> rfl

theorem allocate_ok {physicalSize : Nat} {m : Memory}
    (h : (r.allocate size physicalSize device unitName).run s = (.ok m, t)) :
    ∃ d d' address, s.host.devices[device]? = some d ∧
      d.alloc device physicalSize r.bank = .ok (address, d') ∧
      m = Memory.fresh address physicalSize d.unified ∧ t.held = s.held ∧
      t.host.devices = s.host.devices.set device d' := by
  rw [run_allocate, Memory.run_alloc] at h
  rcases ho : s.host.openDevice device with e | d
  · simp only [ho] at h
    cases h
  · rcases ha : d.alloc device physicalSize r.bank with (e | f) | ⟨address, d'⟩
    · simp only [ho, ha] at h
      cases h
    · simp only [ho, ha] at h
      cases h
    · by_cases hb : Host.maxBlock ≤ physicalSize
      · simp only [ho, ha, hb, if_true] at h
        cases h
      · simp only [ho, ha, hb, if_false] at h
        cases h
        exact ⟨d, d', address, Host.openDevice_eq_ok_iff.mp ho, ha, rfl, rfl, rfl⟩

theorem fillBuffer_ok {b : Buffer}
    (h : (r.fillBuffer id size device slot unitName).run s = (.ok b, t)) :
    ∃ d d', s.host.devices[device]? = some d ∧ b.Made r slot d d' ∧ t.held = s.held ∧
      t.host.devices = s.host.devices.set device d' ∧ b.registry = id ∧ b.size = size ∧
      b.device = device ∧ b.unitName = unitName := by
  unfold fillBuffer at h
  obtain ⟨p, s₁, hp, h⟩ := Action.bind_ok h
  rw [run_place] at hp
  rcases hq : r.settings.striping.placement size slot with f | _ | q <;> rw [hq] at hp
  · cases hp
  · cases hp
  · cases hp
    obtain ⟨m, s₂, hm, h⟩ := Action.bind_ok h
    obtain ⟨d, d', address, hd, ha, rfl, hl, hs⟩ := allocate_ok hm
    have hsize := Memory.size_fresh address p.physicalSize d.unified
    obtain ⟨m, syncs, hc, hca, hcd, hch⟩ := Memory.run_clear
      (hsize ▸ Device.lt_wordLimit_of_alloc ha) s₂
    rw [hsize] at hcd hch
    rw [Action.run_bind, hc] at h
    simp only at h
    split at h
    · cases h
    · cases h
    · next a hne hadd =>
      cases h
      have hhost : m.host.map Runs.toList =
          if d.unified then some (List.replicate p.physicalSize 0) else none := by
        rw [hch, Memory.fresh]
        split <;> rfl
      have hne : a ≠ 0 := fun he => hne (he ▸ rfl)
      exact ⟨d, d', hd, ⟨hq, hca ▸ ha, hadd, hne, hcd, hhost⟩, hl, hs, rfl, rfl, rfl, rfl⟩

theorem place_grows (r : Registry) (size device slot : Nat) (unitName : String) :
    Action.Within Site.Grows (r.place size device slot unitName) := by
  intro s
  rw [run_place]
  split
  · exact Site.lasting_grows.refl s
  · exact Site.lasting_grows.refl s
  · exact .of_alike (Site.Alike.emit s _)

theorem allocate_grows (r : Registry) (size physicalSize device : Nat) (unitName : String) :
    Action.Within Site.Grows (r.allocate size physicalSize device unitName) := by
  intro s
  have hs := Memory.alloc_grows device physicalSize r.bank s
  rw [run_allocate]
  rcases ha : (Memory.alloc device physicalSize r.bank).run s with ⟨(e | f) | m, t⟩ <;>
    rw [ha] at hs
  · exact Site.lasting_grows.trans hs (.of_alike (Site.Alike.emit t _))
  · exact hs
  · exact hs

theorem fillBuffer_grows (r : Registry) (id size device slot : Nat) (unitName : String) :
    Action.Within Site.Grows (r.fillBuffer id size device slot unitName) := by
  have hrel := Site.lasting_grows
  refine hrel.bind (r.place_grows size device slot unitName) fun placement => ?_
  refine hrel.bind (r.allocate_grows size _ device unitName) fun memory => ?_
  refine hrel.bind memory.clear_grows fun memory => ?_
  rcases checkedAdd memory.address placement.offset with _ | _ | address
  · exact fun s => hrel.refl s
  · exact hrel.inspects (Action.Inspects.bind (.emit _) fun _ => .fail _)
  · exact hrel.inspects (Action.Inspects.bind (.emit _) fun _ => .pure _)

end Registry

namespace World

variable {w w' : World} {handle size device id : Nat} {unitName : String}

/-- What asking this registry for a buffer comes to. -/
inductive Asked (w : World) (id : Nat) (r : Registry) (size device : Nat) (unitName : String) :
    Except (Stop DeviceError) Nat → World → Prop
  | missing (h : ¬ ∃ u ∈ r.matching unitName, u.device = device) :
      Asked w id r size device unitName (.error (.error (.deviceNotFound device unitName)))
        (w.emit (.deviceMissing device unitName))
  | refused {stop : Stop DeviceError} {t : Site} (h : ∃ u ∈ r.matching unitName, u.device = device)
      (hb : ((r.slotFor size).2.fillBuffer id size device (r.slotFor size).1 unitName).run w.site =
        (.error stop, t)) :
      Asked w id r size device unitName (.error stop)
        { w with site := t, registries := w.registries.set id (r.slotFor size).2 }
  | made {b : Buffer} {t : Site} (h : ∃ u ∈ r.matching unitName, u.device = device)
      (hb : ((r.slotFor size).2.fillBuffer id size device (r.slotFor size).1 unitName).run w.site =
        (.ok b, t)) :
      Asked w id r size device unitName (.ok w.buffers.next)
        { w with
          site := t
          registries := w.registries.set id (r.slotFor size).2
          buffers := (w.buffers.insert b).2 }

theorem createBuffer_asked {r : Registry} (hh : w.handles.get? handle = some id)
    (hr : w.registries.get? id = some r) (size device : Nat) (unitName : String) :
    ∃ answer w', w.createBuffer handle size device unitName = some (answer, w') ∧
      w.Asked id r size device unitName answer w' := by
  have hlook := r.run_lookUpDevice unitName device w.site
  by_cases hu : ∃ u ∈ r.matching unitName, u.device = device
  · rw [if_pos hu] at hlook
    rcases hb : ((r.slotFor size).2.fillBuffer id size device (r.slotFor size).1 unitName).run
      w.site with ⟨stop | b, t⟩
    · refine ⟨_, _, ?_, .refused hu hb⟩
      simp only [createBuffer, hh, hr, perform, hlook, hb, Option.bind_eq_bind,
        Option.bind_some, Option.pure_def]
    · refine ⟨_, _, ?_, .made hu hb⟩
      simp only [createBuffer, hh, hr, perform, hlook, hb, Option.bind_eq_bind,
        Option.bind_some, Option.pure_def]
      rfl
  · rw [if_neg hu] at hlook
    refine ⟨_, _, ?_, .missing hu⟩
    simp only [createBuffer, hh, hr, perform, hlook, Option.bind_eq_bind,
      Option.bind_some, Option.pure_def]
    rfl

theorem createBuffer_ok (h : w.createBuffer handle size device unitName = some (.ok id, w')) :
    ∃ r b d d', w.handles.get? handle = some b.registry ∧
      w.registries.get? b.registry = some r ∧ w.site.host.devices[device]? = some d ∧
      b.Made (r.slotFor size).2 (r.slotFor size).1 d d' ∧ b.size = size ∧ b.device = device ∧
      id = w.buffers.next ∧ w' = { w with
        site := w'.site
        registries := w.registries.set b.registry (r.slotFor size).2
        buffers := (w.buffers.insert b).2 } := by
  obtain ⟨registry, hh, hb⟩ := Option.bind_eq_some_iff.mp h
  obtain ⟨r, hr, -⟩ := Option.bind_eq_some_iff.mp hb
  obtain ⟨answer, w'', hw, hasked⟩ := createBuffer_asked hh hr size device unitName
  obtain ⟨rfl, rfl⟩ := Prod.mk.inj (Option.some.inj (hw.symm.trans h))
  cases hasked with
  | made hu hfill =>
    obtain ⟨d, d', hd, hmade, -, -, rfl, hsize, hdevice, -⟩ := Registry.fillBuffer_ok hfill
    exact ⟨r, _, d, d', hh, hr, hd, hmade, hsize, hdevice, rfl, rfl⟩

/-- One device, and a registry with one unit on it that places buffers across two banks. -/
def oneDevice : World :=
  let image : Image := {
    uuid := {}
    cores := ["dpu:one"]
    banks := [{ tag := "DDR", used := true, base := 4096, size := 65536 }] }
  let unit : ComputeUnit := {
    device := 0, uuid := {}, fullName := "dpu:one", kernelName := "dpu", instanceName := "one"
    fingerprint := 0, kernel := { device := 0, load := 0, name := "dpu:one" } }
  let registry : Registry := {
    settings := { striping := { bankCount := 2, bankRange := 4 }, lockDirectory := "/" }
    image, devices := [], units := [("dpu:one:0", unit)], bank := 0 }
  { site := { host := Host.addImage { devices := [{ resident := some image }] } "a" image }
    registries := (Store.insert {} registry).2
    handles := (Store.insert {} 0).2 }

end World

end Accelerator
