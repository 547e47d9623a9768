import Accelerator.Proofs.Registry.Mapping
import Accelerator.Proofs.Site.Frames

/-! How devices are bound and their units found. A device that is bound may be given an image, and
nothing else of the site is changed by it. -/

namespace Accelerator

theorem Host.touches_of_loadImage {s : Site} {h : Host} {index : Nat} {image : Image} {u : Uuid}
    (hl : s.host.loadImage index image = .ok (u, h)) : s.Touches index { s with host := h } := by
  unfold loadImage at hl
  rcases ho : s.host.openDevice index with e | d <;> rw [ho] at hl <;> cases hl
  exact Site.touches_setDevice (openDevice_eq_ok_iff.mp ho) (Nat.le_succ d.loads)

namespace Opening

open Accelerator.Action

theorem loadImage_touches (settings : Settings) (image : Image) (index : Nat) :
    Within (Site.Touches index) (loadImage settings image index) := by
  have hrel := Site.lasting_touches index
  unfold loadImage
  cases settings.skipImageLoad with
  | true => exact hrel.inspects (Inspects.emit _)
  | false =>
    simp only [Bool.false_eq_true, if_false]
    refine hrel.bind (hrel.onHost fun _ _ _ hl => Host.touches_of_loadImage hl) fun u => ?_
    split
    · exact hrel.inspects (Inspects.bind (Inspects.emit _) fun _ => Inspects.fail _)
    · exact hrel.inspects (Inspects.pure _)

theorem bindLocked_touches (settings : Settings) (image : Image) (index : Nat)
    (lock : DeviceLock) : Within (Site.Touches index) (bindLocked settings image index lock) := by
  have hrel := Site.lasting_touches index
  refine hrel.bind (fun s => hrel.refl s) fun host => ?_
  refine hrel.bind (hrel.inspects (Inspects.ofExcept _)) fun _ => ?_
  refine hrel.bind (loadImage_touches settings image index) fun _ => ?_
  exact hrel.inspects (inspects_identify settings image index lock)

theorem identify_ok {settings : Settings} {image : Image} {index : Nat} {lock : DeviceLock}
    {bound : BoundDevice} {s t : Site}
    (h : (identify settings image index lock).run s = (.ok bound, t)) :
    bound.index = index ∧ bound.lock = lock := by
  unfold identify at h
  rw [run_bind, run_host] at h
  simp only at h
  rcases hu : s.host.imageUuid? index with _ | uuid <;> rw [hu] at h
  · cases h
  · by_cases hd : settings.skipImageLoad ∧ uuid ≠ image.uuid <;>
      by_cases hv : 0 < settings.verbosity.devices <;>
      simp only [hd, hv, ne_eq, not_false_eq_true, and_self, if_true, if_false] at h <;>
      cases h <;> exact ⟨rfl, rfl⟩

theorem bindLocked_ok {settings : Settings} {image : Image} {index : Nat} {lock : DeviceLock}
    {bound : BoundDevice} {s t : Site}
    (h : (bindLocked settings image index lock).run s = (.ok bound, t)) :
    bound.index = index ∧ bound.lock = lock := by
  obtain ⟨_, _, -, h⟩ := bind_ok h
  obtain ⟨_, _, -, h⟩ := bind_ok h
  obtain ⟨_, _, -, h⟩ := bind_ok h
  exact identify_ok h

theorem start_alike {settings : Settings} {s t : Site} {result : Except (Stop DeviceError) Opening}
    (h : (start settings).run s = (result, t)) : s.Alike t := by
  have hi : Inspects 0 (start settings) := inspects_start settings
  have halike := hi.alike s
  rwa [h] at halike

theorem start_ok {settings : Settings} {o : Opening} {s t : Site}
    (h : (start settings).run s = (.ok o, t)) : o.settings = settings ∧ o.bound = [] := by
  obtain ⟨_, _, -, h⟩ := bind_ok h
  obtain ⟨_, _, -, h⟩ := bind_ok h
  obtain ⟨_, _, -, h⟩ := bind_ok h
  cases h
  exact ⟨rfl, rfl⟩

variable {o : Opening} {s t : Site}

theorem bindUnit_ok {settings : Settings} {device : BoundDevice} {fullName : String}
    {u : ComputeUnit} (h : (bindUnit settings device fullName).run s = (.ok u, t)) :
    u.device = device.index := by
  obtain ⟨_, _, -, h⟩ := bind_ok h
  obtain ⟨_, _, -, h⟩ := bind_ok h
  by_cases hv : 0 < settings.verbosity.devices <;> simp only [hv, if_true, if_false] at h <;>
    cases h <;> rfl

/-- All units were found on devices that are bound. -/
def Covers (devices : List BoundDevice) (units : UnitIndex) : Prop :=
  ∀ e ∈ units, ∃ device ∈ devices, device.index = e.2.device

theorem Covers.insert {devices : List BoundDevice} {units : UnitIndex} {key : String}
    {u : ComputeUnit} (h : Covers devices units)
    (hu : ∃ device ∈ devices, device.index = u.device) :
    Covers devices (units.insert key u) := by
  induction units with
  | nil =>
    intro e he
    obtain rfl := List.mem_singleton.mp he
    exact hu
  | cons head rest ih =>
    have hhead := h head List.mem_cons_self
    have hrest : Covers devices rest := fun e he => h e (List.mem_cons_of_mem head he)
    intro e he
    simp only [UnitIndex.insert] at he
    split at he
    · rcases List.mem_cons.mp he with rfl | he
      · exact hu
      · exact hrest e he
    · split at he
      · rcases List.mem_cons.mp he with rfl | he
        · exact hu
        · exact h e he
      · rcases List.mem_cons.mp he with rfl | he
        · exact hhead
        · exact ih hrest e he

theorem findUnits_ok {units : UnitIndex} (h : o.findUnits.run s = (.ok units, t)) :
    Covers o.bound units := by
  refine foldlM_ok (P := Covers o.bound) ?_ (fun e he => by cases he) h
  rintro ⟨device, name⟩ hm index index' s t hc hr
  obtain ⟨d, hd, hm⟩ := List.mem_flatMap.mp hm
  obtain ⟨_, -, he⟩ := List.mem_map.mp hm
  obtain ⟨u, _, hu, hr⟩ := bind_ok hr
  cases hr
  cases he
  exact hc.insert ⟨device, hd, (bindUnit_ok hu).symm⟩

theorem findUnits_of_indexUnits {units : UnitIndex} (h : o.indexUnits.run s = (.ok units, t)) :
    ∃ u, o.findUnits.run s = (.ok units, u) := by
  unfold indexUnits at h
  by_cases hc : o.image.cores.isEmpty = true
  · simp only [hc, if_true] at h
    obtain ⟨_, _, -, h⟩ := bind_ok h
    obtain ⟨_, _, h, -⟩ := bind_ok h
    cases h
  · simp only [hc] at h
    obtain ⟨found, u, hu, h⟩ := bind_ok h
    by_cases he : found.isEmpty = true
    · simp only [he, if_true] at h
      obtain ⟨_, _, -, h⟩ := bind_ok h
      obtain ⟨_, _, h, -⟩ := bind_ok h
      cases h
    · simp only [he] at h
      cases h
      exact ⟨_, hu⟩

theorem findUnits_of_register {r : Registry} (h : o.register.run s = (.ok r, t)) :
    r.devices = o.bound ∧ r.image = o.image ∧
      ∃ u v, s.Alike u ∧ o.findUnits.run u = (.ok r.units, v) := by
  obtain ⟨_, u, hbank, h⟩ := bind_ok h
  obtain ⟨units, _, hu, h⟩ := bind_ok h
  obtain ⟨_, _, -, h⟩ := bind_ok h
  cases h
  have hi : Inspects 0 (findBank o.image) := inspects_findBank o.image
  have halike := hi.alike s
  rw [hbank] at halike
  obtain ⟨v, hv⟩ := findUnits_of_indexUnits hu
  exact ⟨rfl, rfl, u, v, halike, hv⟩

theorem register_ok {r : Registry} (h : o.register.run s = (.ok r, t)) :
    r.devices = o.bound ∧ Covers o.bound r.units := by
  obtain ⟨hd, -, _, _, -, hu⟩ := findUnits_of_register h
  exact ⟨hd, findUnits_ok hu⟩

end Opening

end Accelerator
