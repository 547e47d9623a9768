import Accelerator.Proofs.Site.Mapping
import Accelerator.World.Opening

/-! How registries are opened on devices does not depend on whether these map what they
allocate into the host. -/

namespace Accelerator

open Accelerator.Action

variable {device : Nat} {unified : Bool}

theorem DeviceLock.blind_acquire (directory : String) (index : Nat) (again : Bool) :
    Blind device unified (acquire directory index again) := by
  refine Blind.bind ?_ fun lock => Blind.bind ?_ fun taken => ?_
  · unfold prepare
    refine Blind.get_bind (fun s => by rw [Site.files_withUnified]) fun s => ?_
    rcases s.files.openFile (Path.join directory (fileNameFor index)) with e | ⟨file, files⟩
    · exact Blind.fail _
    · exact Blind.bind (Blind.modify fun _ => rfl) fun _ => Blind.pure _
  · unfold hold
    refine Blind.get_bind (fun _ => rfl) fun s => ?_
    by_cases h : s.held.contains lock.file
    · simpa only [h, if_true] using Blind.pure false
    · simp only [h, Bool.false_eq_true, if_false]
      exact Blind.bind (Blind.modify fun _ => rfl) fun _ => Blind.pure true
  · cases taken with
    | true => exact Blind.bind (Blind.emit _) fun _ => Blind.pure _
    | false =>
      cases again with
      | true => exact Blind.pure _
      | false => exact Blind.bind (Blind.emit _) fun _ => Blind.pure _

namespace Opening

theorem inspects_findImage (settings : Settings) : Inspects device (findImage settings) := by
  refine Inspects.get_bind (fun _ _ => rfl) fun s => ?_
  have himage (path : String) : Inspects device (host >>= fun h => do
      let image ← reporting (fun e => .imageUnreadable e.message) (h.openImage path)
      emit (.imageOpened path image.uuid image.cores.length)
      return image : Action DeviceError Image) := by
    refine Inspects.host_bind (fun _ _ => rfl) fun h => ?_
    refine Inspects.bind (Inspects.reporting _ _) fun _ => ?_
    exact Inspects.bind (Inspects.emit _) fun _ => Inspects.pure _
  rcases settings.resolveFirmware s.files with ⟨path, source⟩
  cases source with
  | settings => exact himage path
  | settingsFile => exact himage path
  | unreadable => exact Inspects.bind (Inspects.emit _) fun _ => himage path
  | unnamed => exact Inspects.bind (Inspects.emit _) fun _ => himage path

theorem inspects_selectDevices (settings : Settings) :
    Inspects device (selectDevices settings) := by
  refine Inspects.host_bind (fun h unified => ?_) fun h => ?_
  · rw [Host.deviceCount_withUnified]
  · by_cases hc : h.deviceCount = 0
    · simp only [hc, if_true]
      refine Inspects.bind (Inspects.fail _) fun _ => ?_
      rcases settings.selection.resolve 0 with _ | ⟨i, is⟩
      · exact Inspects.bind (Inspects.emit _) fun _ => Inspects.fail _
      · exact Inspects.pure _
    · simp only [hc, if_false]
      rcases settings.selection.resolve h.deviceCount with _ | ⟨i, is⟩
      · exact Inspects.bind (Inspects.emit _) fun _ => Inspects.fail _
      · exact Inspects.pure _

theorem inspects_start (settings : Settings) : Inspects device (start settings) := by
  refine Inspects.bind (Inspects.reporting _ _) fun _ => ?_
  refine Inspects.bind (inspects_findImage settings) fun _ => ?_
  exact Inspects.bind (inspects_selectDevices settings) fun _ => Inspects.pure _

theorem blind_loadImage (settings : Settings) (image : Image) (index : Nat) :
    Blind device unified (loadImage settings image index) := by
  unfold loadImage
  cases settings.skipImageLoad with
  | true => exact Blind.emit _
  | false =>
    refine Blind.bind (Blind.onHost fun h => Host.loadImage_withUnified image) fun loaded => ?_
    split
    · exact Blind.bind (Blind.emit _) fun _ => Blind.fail _
    · exact Blind.pure _

theorem inspects_identify (settings : Settings) (image : Image) (index : Nat)
    (lock : DeviceLock) : Inspects device (identify settings image index lock) := by
  refine Inspects.host_bind (fun h unified => ?_) fun h => ?_
  · rw [Host.imageUuid?_withUnified]
  · rcases h.imageUuid? index with _ | uuid
    · exact Inspects.fail _
    · have hbound : Inspects device (do
          if 0 < settings.verbosity.devices then emit (.deviceBound index uuid lock.path)
          return { index, uuid, lock } : Action DeviceError BoundDevice) := by
        by_cases hv : 0 < settings.verbosity.devices
        · simp only [hv, if_true]
          exact Inspects.bind (Inspects.emit _) fun _ => Inspects.pure _
        · simp only [hv, if_false]
          exact Inspects.pure _
      by_cases hd : settings.skipImageLoad ∧ uuid ≠ image.uuid
      · simp only [hd, ne_eq, not_false_eq_true, and_self, if_true]
        exact Inspects.bind (Inspects.emit _) fun _ => hbound
      · simp only [hd, if_false]
        exact hbound

theorem blind_bindLocked (settings : Settings) (image : Image) (index : Nat) (lock : DeviceLock) :
    Blind device unified (bindLocked settings image index lock) := by
  refine Blind.host_bind (fun h => ?_) fun h => ?_
  · rw [Host.openDevice_withUnified]
    rcases h.openDevice index with e | d <;> rfl
  · refine Blind.bind (Blind.ofExcept _) fun _ => ?_
    refine Blind.bind (blind_loadImage settings image index) fun _ => ?_
    exact (inspects_identify settings image index lock).blind

theorem blind_bindNext (o : Opening) : Blind device unified o.bindNext := by
  unfold bindNext
  rcases o.pending with _ | ⟨index, rest⟩
  · exact Blind.pure o
  · refine Blind.bind (DeviceLock.blind_acquire _ _ _) fun taken => ?_
    rcases taken with _ | lock
    · exact Blind.pure _
    · exact Blind.bind (Blind.releasing (blind_bindLocked _ _ _ _)) fun _ => Blind.pure _

theorem blind_bindUpTo (n : Nat) (o : Opening) : Blind device unified (bindUpTo n o) := by
  induction n generalizing o with
  | zero => exact Blind.pure o
  | succ n ih =>
    refine Blind.bind (Blind.releasing (blind_bindNext o)) fun o' => ?_
    cases h : o'.waits with
    | true => simpa only [h, if_true] using Blind.pure o'
    | false => simpa only [h, Bool.false_eq_true, if_false] using ih o'

theorem inspects_bindUnit (settings : Settings) (bound : BoundDevice) (fullName : String) :
    Inspects device (bindUnit settings bound fullName) := by
  refine Inspects.host_bind (fun h unified => ?_) fun h => ?_
  · rw [Host.openKernel_withUnified]
    rfl
  · refine Inspects.bind (Inspects.ofExcept _) fun kernel => ?_
    by_cases hv : 0 < settings.verbosity.devices
    · simp only [hv, if_true]
      exact Inspects.bind (Inspects.emit _) fun _ => Inspects.pure _
    · simp only [hv, if_false]
      exact Inspects.bind (Inspects.emit _) fun _ => Inspects.pure _

theorem inspects_indexUnits (o : Opening) : Inspects device o.indexUnits := by
  have hfound : Inspects device (do
      let units ← o.findUnits
      if units.isEmpty then
        emit (.imageWithoutUnits o.image.cores)
        fail .noComputeUnits
      return units : Action DeviceError UnitIndex) := by
    refine Inspects.bind (Inspects.foldlM (fun index request => ?_) _ _) fun units => ?_
    · exact Inspects.bind (inspects_bindUnit _ _ _) fun _ => Inspects.pure _
    · cases h : units.isEmpty with
      | true =>
        refine Inspects.bind (Inspects.emit _) fun _ => ?_
        exact Inspects.bind (Inspects.fail _) fun _ => Inspects.pure _
      | false => exact Inspects.pure _
  unfold indexUnits
  cases h : o.image.cores.isEmpty with
  | true =>
    refine Inspects.bind (Inspects.emit _) fun _ => ?_
    exact Inspects.bind (Inspects.fail _) fun _ => hfound
  | false => exact hfound

theorem inspects_findBank (image : Image) : Inspects device (findBank image) := by
  unfold findBank
  rcases image.firstUsedBank with _ | bank
  · exact Inspects.fail _
  · exact Inspects.bind (Inspects.emit _) fun _ => Inspects.pure _

theorem inspects_register (o : Opening) : Inspects device o.register := by
  refine Inspects.bind (inspects_findBank o.image) fun bank => ?_
  refine Inspects.bind (inspects_indexUnits o) fun _ => ?_
  exact Inspects.bind (Inspects.emit _) fun _ => Inspects.pure _

theorem blind_finish (o : Opening) : Blind device unified o.finish :=
  Blind.releasing (inspects_register o).blind

end Opening

namespace World

def withUnified (device : Nat) (unified : Bool) (w : World) : World :=
  { w with site := w.site.withUnified device unified }

variable {w : World} {ε α : Type}

theorem perform_withUnified {x : Action ε α} (hx : Blind device unified x) :
    (w.withUnified device unified).perform x =
      ((w.perform x).1, (w.perform x).2.withUnified device unified) := by
  unfold perform withUnified
  rw [hx w.site]

theorem beginOpening_withUnified (settings : Settings) :
    (w.withUnified device unified).beginOpening settings =
      ((w.beginOpening settings).1, (w.beginOpening settings).2.withUnified device unified) := by
  unfold beginOpening
  rw [perform_withUnified (Opening.inspects_start settings).blind]
  rcases w.perform (Opening.start settings) with ⟨e | o, t⟩ <;> rfl

theorem settleOpening_withUnified (id : Nat) (o : Opening) :
    (w.withUnified device unified).settleOpening id o =
      ((w.settleOpening id o).1, (w.settleOpening id o).2.withUnified device unified) := by
  unfold settleOpening
  rw [perform_withUnified (Opening.blind_finish o)]
  split
  · rcases w.perform o.finish with ⟨e | r, t⟩ <;> rfl
  · rfl

theorem resumeOpening_withUnified (id : Nat) :
    (w.withUnified device unified).resumeOpening id =
      (w.resumeOpening id).map fun r => (r.1, r.2.withUnified device unified) := by
  simp only [resumeOpening, continueOpening, withUnified]
  rcases ho : w.openings.get? id with _ | o
  · rfl
  · have hb : Blind device unified (Opening.bindUpTo o.pending.length o) :=
      Opening.blind_bindUpTo o.pending.length o
    have hp := perform_withUnified (w := w) hb
    simp only [withUnified] at hp
    simp only [Option.bind_some, Option.map_some, hp]
    rcases w.perform (Opening.bindUpTo o.pending.length o) with ⟨e | o', t⟩
    · rfl
    · exact congrArg some (settleOpening_withUnified id o')

/-- Opening a registry comes to the same whatever the device maps. -/
theorem openRegistry_withUnified (w : World) (device : Nat) (unified : Bool) (settings : Settings) :
    (w.withUnified device unified).openRegistry settings =
      ((w.openRegistry settings).1, (w.openRegistry settings).2.withUnified device unified) := by
  unfold openRegistry
  rw [beginOpening_withUnified]
  rcases w.beginOpening settings with ⟨e | id, t⟩
  · rfl
  · simp only [resumeOpening_withUnified]
    rcases t.resumeOpening id with _ | r <;> rfl

end World

end Accelerator
