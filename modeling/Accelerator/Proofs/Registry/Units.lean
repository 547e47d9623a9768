import Accelerator.Proofs.Registry.Index
import Accelerator.Proofs.Registry.KernelName
import Accelerator.Proofs.Registry.Progress
import Mathlib.Data.List.Dedup
import Mathlib.Data.List.ProdSigma

/-! The compute units of a registry, however the opening came about that it was made from. -/

namespace Accelerator

open Accelerator.Action

/-- The unit is what was found under this name on this device. -/
structure ComputeUnit.Found (bound : BoundDevice) (name : String) (u : ComputeUnit) : Prop where
  device : u.device = bound.index
  uuid : u.uuid = bound.uuid
  fullName : u.fullName = name
  names : (u.kernelName, u.instanceName) = splitName name
  kernelDevice : u.kernel.device = bound.index
  kernelName : u.kernel.name = kernelNameFor name

/-- An opening that was begun where `n` devices were present, and gone on with anywhere. -/
inductive Opening.Arises (settings : Settings) (n : Nat) : Opening → Prop
  | start {o : Opening} {s t : Site} (hn : s.host.deviceCount = n)
      (h : (start settings).run s = (.ok o, t)) : Arises settings n o
  | bind {o o' : Opening} {m : Nat} {s t : Site} (ho : Arises settings n o)
      (h : (bindUpTo m o).run s = (.ok o', t)) : Arises settings n o'

/-- A registry that was made from such an opening, and has placed buffers since. -/
inductive Registry.Made (settings : Settings) (n : Nat) : Registry → Prop
  | finish {o : Opening} {r : Registry} {s t : Site} (ho : o.Arises settings n)
      (hp : o.pending = []) (h : o.finish.run s = (.ok r, t)) : Made settings n r
  | place {r : Registry} (hr : Made settings n r) (stripeSlot : Nat) :
      Made settings n { r with stripeSlot }

theorem Device.openKernel_ok {d : Device} {index : Nat} {uuid : Uuid} {request : String}
    {kernel : Kernel} (h : d.openKernel index uuid request = .ok kernel) :
    kernel = ⟨index, d.loads, coreName request⟩ := by
  unfold openKernel at h
  rcases hr : d.resident with _ | image <;> simp only [hr] at h
  · cases h
  · by_cases hu : d.reported image.uuid = uuid
    · by_cases hn : coreName request ∈ image.cores
      · simp only [hu, hn, if_true, Except.ok.injEq] at h
        exact h.symm
      · simp only [hu, hn, if_true, if_false, reduceCtorEq] at h
    · simp only [hu, if_false, reduceCtorEq] at h

theorem Host.openKernel_ok {h : Host} {index : Nat} {uuid : Uuid} {request : String}
    {kernel : Kernel} (hk : h.openKernel index uuid request = .ok kernel) :
    ∃ d, h.devices[index]? = some d ∧ kernel = ⟨index, d.loads, Device.coreName request⟩ := by
  unfold openKernel at hk
  rcases hd : h.openDevice index with e | d <;> rw [hd] at hk
  · cases hk
  · exact ⟨d, openDevice_eq_ok_iff.mp hd, Device.openKernel_ok hk⟩

namespace Opening

variable {o : Opening} {r : Registry} {settings : Settings} {n : Nat} {s t : Site}

theorem bindUnit_found {bound : BoundDevice} {name : String} {u : ComputeUnit}
    (h : (bindUnit settings bound name).run s = (.ok u, t)) : u.Found bound name := by
  obtain ⟨host, _, -, h⟩ := bind_ok h
  obtain ⟨kernel, _, hk, h⟩ := bind_ok h
  have hopen : host.openKernel bound.index bound.uuid (kernelRequest name) = .ok kernel := by
    rw [run_ofExcept] at hk
    split at hk
    · next ho =>
      cases hk
      exact ho
    · cases hk
  obtain ⟨d, -, rfl⟩ := Host.openKernel_ok hopen
  by_cases hv : 0 < settings.verbosity.devices <;> simp only [hv, if_true, if_false] at h <;>
    cases h <;> exact ⟨rfl, rfl, rfl, rfl, rfl, rfl⟩

/-- What is looked for: every core that may be a unit, on every device. -/
def requests (devices : List BoundDevice) (image : Image) : List (BoundDevice × String) :=
  devices.flatMap fun device => (image.cores.filter isUnitName).map fun name => (device, name)

theorem mem_requests_iff {devices : List BoundDevice} {image : Image} {device : BoundDevice}
    {name : String} : (device, name) ∈ requests devices image ↔
      device ∈ devices ∧ name ∈ image.cores ∧ isUnitName name = true := by
  simp [requests]

/-- The index has what was found for the requests, in order. -/
structure Indexes (requests : List (BoundDevice × String)) (units : UnitIndex) : Prop where
  sorted : units.Sorted
  found : ∀ e ∈ units, ∃ device name, (device, name) ∈ requests ∧
    e.1 = UnitIndex.keyFor name device.index ∧ e.2.Found device name
  keys : ∀ device name, (device, name) ∈ requests →
    UnitIndex.keyFor name device.index ∈ units.map (·.1)

theorem Indexes.insert {requests : List (BoundDevice × String)} {units : UnitIndex}
    {device : BoundDevice} {name : String} {u : ComputeUnit} (h : Indexes requests units)
    (hu : u.Found device name) : Indexes (requests ++ [(device, name)])
      (units.insert (UnitIndex.keyFor name device.index) u) where
  sorted := h.sorted.insert _ u
  found := by
    intro e hm
    rcases UnitIndex.mem_of_mem_insert hm with rfl | hm
    · exact ⟨device, name, by simp, rfl, hu⟩
    · obtain ⟨device', name', hm', hkey, hfound⟩ := h.found e hm
      exact ⟨device', name', List.mem_append_left _ hm', hkey, hfound⟩
  keys := by
    intro device' name' hm
    rw [UnitIndex.mem_keys_insert]
    rcases List.mem_append.mp hm with hm | hm
    · exact Or.inr (h.keys device' name' hm)
    · cases List.mem_singleton.mp hm
      exact Or.inl rfl

theorem findUnits_indexes {units : UnitIndex} (h : o.findUnits.run s = (.ok units, t)) :
    Indexes (requests o.bound o.image) units := by
  have hstart : Indexes [] [] := ⟨List.Pairwise.nil, nofun, nofun⟩
  refine foldlM_ok_append ?_ [] hstart h
  rintro ⟨device, name⟩ - done units units' s t hi hr
  obtain ⟨u, _, hu, hr⟩ := bind_ok hr
  cases hr
  exact hi.insert (bindUnit_found hu)

theorem finish_indexes (h : o.finish.run s = (.ok r, t)) :
    r.devices = o.bound ∧ r.image = o.image ∧ Indexes (requests o.bound o.image) r.units := by
  unfold finish at h
  rw [run_releasing] at h
  rcases hx : o.register.run s with ⟨e | r, t⟩ <;> rw [hx] at h <;> cases h
  obtain ⟨hd, hi, _, _, -, hu⟩ := findUnits_of_register hx
  exact ⟨hd, hi, findUnits_indexes hu⟩

theorem Arises.order (h : o.Arises settings n) : o.order = settings.selection.resolve n := by
  induction h with
  | start hn h =>
    rw [Opening.order, (start_ok h).2, start_pending h, hn]
    rfl
  | bind ho h ih => exact (bindUpTo_ok h).order.trans ih

theorem Indexes.key_eq {requests : List (BoundDevice × String)} {units : UnitIndex}
    {e : String × ComputeUnit} (h : Indexes requests units) (hm : e ∈ units) :
    e.1 = UnitIndex.keyFor e.2.fullName e.2.device := by
  obtain ⟨device, name, -, hkey, hfound⟩ := h.found e hm
  rw [hkey, hfound.fullName, hfound.device]

/-- Each key once means each name once on each device. -/
theorem Indexes.nodup_pairs {requests : List (BoundDevice × String)} {units : UnitIndex}
    (h : Indexes requests units) :
    (units.map fun e => (e.2.fullName, e.2.device)).Nodup := by
  have hkeys : (units.map fun e => (e.2.fullName, e.2.device)).map
      (fun pair => UnitIndex.keyFor pair.1 pair.2) = units.map (·.1) := by
    rw [List.map_map]
    exact List.map_congr_left fun e hm => (h.key_eq hm).symm
  exact List.Nodup.of_map _ (hkeys ▸ h.sorted.nodup_keys)

theorem Indexes.mem_pairs_iff {requests : List (BoundDevice × String)} {units : UnitIndex}
    {name : String} {index : Nat} (h : Indexes requests units) :
    (name, index) ∈ units.map (fun e => (e.2.fullName, e.2.device)) ↔
      ∃ device, (device, name) ∈ requests ∧ device.index = index := by
  rw [List.mem_map]
  constructor
  · rintro ⟨e, hm, he⟩
    obtain ⟨device, name', hr, -, hfound⟩ := h.found e hm
    rw [hfound.fullName, hfound.device] at he
    cases he
    exact ⟨device, hr, rfl⟩
  · rintro ⟨device, hr, rfl⟩
    obtain ⟨e, hm, hkey⟩ := List.mem_map.mp (h.keys device name hr)
    obtain ⟨hname, hindex⟩ := UnitIndex.keyFor_inj ((h.key_eq hm).symm.trans hkey)
    exact ⟨e, hm, by rw [hname, hindex]⟩

end Opening

namespace Registry

open Opening

variable {r : Registry} {settings : Settings} {n : Nat}

theorem Made.indexes (h : r.Made settings n) :
    r.devices.map (·.index) = settings.selection.resolve n ∧
      Indexes (requests r.devices r.image) r.units := by
  induction h with
  | finish ho hp h =>
    obtain ⟨hd, hi, hu⟩ := finish_indexes h
    have horder := ho.order
    rw [order, hp, List.append_nil] at horder
    rw [hd, hi]
    exact ⟨horder, hu⟩
  | place hr stripeSlot ih => exact ih

/-- The names of the units that the image has. -/
def unitNames (r : Registry) : List String :=
  (r.image.cores.filter isUnitName).dedup

theorem nodup_unitNames (r : Registry) : r.unitNames.Nodup :=
  List.nodup_dedup _

theorem mem_unitNames_iff {name : String} :
    name ∈ r.unitNames ↔ name ∈ r.image.cores ∧ isUnitName name = true := by
  rw [unitNames, List.mem_dedup, List.mem_filter]

theorem Made.pairs_perm (h : r.Made settings n) :
    (r.units.map fun e => (e.2.fullName, e.2.device)).Perm
      (r.unitNames ×ˢ settings.selection.resolve n) := by
  obtain ⟨hindices, hunits⟩ := h.indexes
  have hproduct : (r.unitNames ×ˢ settings.selection.resolve n).Nodup :=
    r.nodup_unitNames.product (Selection.nodup_resolve n settings.selection)
  refine (List.perm_ext_iff_of_nodup hunits.nodup_pairs hproduct).mpr ?_
  rintro ⟨name, index⟩
  rw [hunits.mem_pairs_iff, List.mem_product, mem_unitNames_iff, ← hindices, List.mem_map]
  simp only [mem_requests_iff]
  constructor
  · rintro ⟨device, ⟨hm, hname⟩, rfl⟩
    exact ⟨hname, device, hm, rfl⟩
  · rintro ⟨hname, device, hm, rfl⟩
    exact ⟨device, ⟨hm, hname⟩, rfl⟩

end Registry

end Accelerator
