import Accelerator.Proofs.Except
import Accelerator.Proofs.Registry.Progress
import Accelerator.Proofs.Site.Checks

/-! What stands in the way of opening a registry, in the order in which it is met, as long as the
locks of the selected devices can be had. -/

namespace Accelerator

/-- The device once the opening has seen to its image. -/
def Device.settled (settings : Settings) (image : Image) (d : Device) : Device :=
  if settings.skipImageLoad then d else d.load image

/-- What is found on the selected devices, one after the other. -/
def Host.across {ε : Type} (h : Host) (selected : List Nat) (check : Nat → Device → List ε) :
    List ε :=
  selected.flatMap fun index => (h.devices[index]?.map (check index)).getD []

theorem Host.across_cons {ε : Type} {h : Host} {index : Nat} {d : Device} {selected : List Nat}
    {check : Nat → Device → List ε} (hd : h.devices[index]? = some d) :
    h.across (index :: selected) check = check index d ++ h.across selected check := by
  simp only [across, List.flatMap_cons, hd, Option.map_some, Option.getD_some]

theorem Host.across_congr {ε : Type} {h h' : Host} {selected : List Nat}
    {check check' : Nat → Device → List ε}
    (hc : ∀ index ∈ selected, h'.devices[index]?.map (check' index) =
      h.devices[index]?.map (check index)) :
    h'.across selected check' = h.across selected check := by
  refine List.flatMap_congr fun index hm => ?_
  rw [hc index hm]

theorem Host.setDevice_self {h : Host} {index : Nat} {d : Device}
    (hd : h.devices[index]? = some d) : h.setDevice index d = h := by
  obtain ⟨hlt, rfl⟩ := List.getElem?_eq_some_iff.mp hd
  rw [setDevice, List.set_getElem_self]

theorem UnitIndex.insert_ne_nil (key : String) (u : ComputeUnit) (units : UnitIndex) :
    units.insert key u ≠ [] := by
  cases units with
  | nil => exact List.cons_ne_nil _ _
  | cons e units =>
    simp only [insert]
    split
    · exact List.cons_ne_nil _ _
    · split <;> exact List.cons_ne_nil _ _

theorem Image.firstUsedBank_eq_none_iff {image : Image} :
    image.firstUsedBank = none ↔ ¬ ∃ bank ∈ image.banks, bank.used := by
  simp [firstUsedBank]

theorem Settings.ensure_error {ok : Bool} {key value reason : String} {e : DeviceError}
    (h : ensure ok key value reason = .error e) : e = .invalidSetting key value reason := by
  unfold ensure at h
  split at h <;> cases h
  rfl

theorem Settings.validateStriping_error {s : Striping} {e : DeviceError}
    (h : validateStriping s = .error e) :
    ∃ key value reason, e = .invalidSetting key value reason := by
  unfold validateStriping at h
  split at h
  · rcases error_of_bind h with h | ⟨_, -, h⟩
    · exact ⟨_, _, _, ensure_error h⟩
    · rcases error_of_bind h with h | ⟨_, -, h⟩
      · exact ⟨_, _, _, ensure_error h⟩
      · exact ⟨_, _, _, ensure_error h⟩
  · cases h

theorem Settings.validate_error {settings : Settings} {e : DeviceError}
    (h : settings.validate = .error e) :
    ∃ key value reason, e = .invalidSetting key value reason := by
  rcases error_of_bind h with h | ⟨_, -, h⟩
  · exact validateStriping_error h
  · rcases error_of_bind h with h | ⟨_, -, h⟩
    · exact ⟨_, _, _, ensure_error h⟩
    · exact ⟨_, _, _, ensure_error h⟩

namespace Opening

open Accelerator.Action

def imageObstacles (settings : Settings) (image : Image) (index : Nat) (d : Device) :
    List DeviceError :=
  if settings.skipImageLoad then demand d.resident.isSome (.imageNotResident index)
  else demand (d.reported image.uuid = image.uuid)
    (.uuidMismatch index (d.reported image.uuid) image.uuid)

/-- The name under which a device looks for a core, and whether its image has it. -/
def unitObstacles (index : Nat) (d : Device) (fullName : String) : List DeviceError :=
  let core := Device.coreName (kernelRequest fullName)
  demand (∃ resident ∈ d.resident, core ∈ resident.cores)
    (.driver s!"no kernel {core} in image on device {index}")

def bindingObstacles (settings : Settings) (image : Image) (h : Host) (selected : List Nat) :
    List DeviceError :=
  h.across selected (imageObstacles settings image) ++
    (demand (∃ bank ∈ image.banks, bank.used) .noValidBank ++
      (demand (image.cores ≠ []) .noComputeUnits ++
        (h.across selected (fun index d => (image.cores.filter isUnitName).flatMap
          (unitObstacles index (d.settled settings image))) ++
        demand (∃ name ∈ image.cores, isUnitName name) .noComputeUnits)))

/-- What stands in the way of a registry with these settings. -/
def obstacles (settings : Settings) (s : Site) : List DeviceError :=
  let path := (settings.resolveFirmware s.files).1
  let selected := settings.selection.resolve s.host.deviceCount
  errorsOf settings.validate ++
    match s.host.images.get? (Path.parts path) with
    | none => [.imageOpen path "no such image"]
    | some image =>
      demand (0 < s.host.deviceCount) .noDevices ++
      demand (selected ≠ [])
        (.noDeviceSelected settings.selection.text s.host.deviceCount) ++
      bindingObstacles settings image s.host selected

variable {settings : Settings} {image : Image} {index : Nat} {d : Device} {s : Site}

theorem findImage_checks (settings : Settings) (s : Site) :
    (findImage settings).Checks s (errorsOf (s.host.openImage (settings.resolveFirmware s.files).1))
      fun image t => s.host.openImage (settings.resolveFirmware s.files).1 = .ok image ∧
        s.Alike t := by
  have himage (path : String) (t : Site) (ht : s.Alike t) : (host >>= fun h => do
      let image ← reporting (fun e => .imageUnreadable e.message) (h.openImage path)
      emit (.imageOpened path image.uuid image.cores.length)
      return image : Action DeviceError Image).Checks t (errorsOf (s.host.openImage path))
        fun image u => s.host.openImage path = .ok image ∧ s.Alike u := by
    refine Checks.after (run_host t) ?_
    rw [ht.host]
    refine (Checks.reporting _ _ t).bind_nil fun image u h => ?_
    obtain ⟨hi, hu⟩ := h
    exact Checks.pass (t := u.emit _) rfl ⟨hi, hu ▸ ht.trans (Site.Alike.emit t _)⟩
  unfold findImage
  refine Checks.after (run_get s) ?_
  rcases settings.resolveFirmware s.files with ⟨path, source⟩
  cases source with
  | settings => exact himage path s (Site.Alike.refl s)
  | settingsFile => exact himage path s (Site.Alike.refl s)
  | unreadable => exact Checks.after (run_emit _ s) (himage path _ (Site.Alike.emit s _))
  | unnamed => exact Checks.after (run_emit _ s) (himage path _ (Site.Alike.emit s _))

theorem selectDevices_checks (settings : Settings) (s : Site) :
    (selectDevices settings).Checks s
      (demand (0 < s.host.deviceCount) .noDevices ++
        demand (settings.selection.resolve s.host.deviceCount ≠ [])
          (.noDeviceSelected settings.selection.text s.host.deviceCount))
      fun selected t => selected = settings.selection.resolve s.host.deviceCount ∧
        selected ≠ [] ∧ t = s := by
  unfold selectDevices
  refine Checks.after (run_host s) (Checks.demanding (fun hc => ?_) fun hc => ?_)
  · simp only [Nat.eq_zero_of_not_pos hc, if_true]
    exact ⟨s, rfl⟩
  · simp only [Nat.ne_of_gt hc, if_false]
    rcases settings.selection.resolve s.host.deviceCount with _ | ⟨i, is⟩
    · exact Checks.stop (t := s.emit _) rfl
    · exact Checks.pass rfl ⟨rfl, List.cons_ne_nil _ _, rfl⟩

theorem start_checks (settings : Settings) (s : Site) :
    (start settings).Checks s
      (errorsOf settings.validate ++
        (errorsOf (s.host.openImage (settings.resolveFirmware s.files).1) ++
          (demand (0 < s.host.deviceCount) .noDevices ++
            demand (settings.selection.resolve s.host.deviceCount ≠ [])
              (.noDeviceSelected settings.selection.text s.host.deviceCount))))
      fun o t => s.Alike t ∧ o.settings = settings ∧ o.bound = [] ∧
        o.pending = settings.selection.resolve s.host.deviceCount ∧ o.pending ≠ [] ∧
        s.host.openImage (settings.resolveFirmware s.files).1 = .ok o.image := by
  refine (Checks.reporting _ _ s).bind fun _ t h => ?_
  obtain ⟨-, ht⟩ := h
  subst ht
  refine (findImage_checks settings t).bind fun image u h => ?_
  obtain ⟨hi, hu⟩ := h
  rw [← hu.host]
  refine (selectDevices_checks settings u).bind_nil fun selected v h => ?_
  obtain ⟨hs, hne, hv⟩ := h
  exact Checks.pass rfl ⟨hv ▸ hu, rfl, rfl, hs, hne, hu.host ▸ hi⟩

/-- Only this device has changed, and it has been seen to. -/
structure Settles (settings : Settings) (image : Image) (index : Nat) (d : Device) (s t : Site) :
    Prop where
  host : t.host = s.host.setDevice index (d.settled settings image)
  files : t.files = s.files
  held : t.held = s.held

theorem loadImage_checks (hd : s.host.devices[index]? = some d) :
    (loadImage settings image index).Checks s
      (if settings.skipImageLoad then [] else demand (d.reported image.uuid = image.uuid)
        (.uuidMismatch index (d.reported image.uuid) image.uuid))
      fun _ t => Settles settings image index d s t := by
  unfold loadImage
  by_cases hskip : settings.skipImageLoad = true
  · have hsettled : d.settled settings image = d := if_pos hskip
    simp only [hskip, if_true]
    refine Checks.pass (t := s.emit _) rfl ⟨?_, rfl, rfl⟩
    rw [hsettled, Host.setDevice_self hd]
    rfl
  · have hsettled : d.settled settings image = d.load image := if_neg hskip
    have hload : s.host.loadImage index image =
        .ok (d.reported image.uuid, s.host.setDevice index (d.load image)) := by
      rw [Host.loadImage, Host.openDevice_eq_ok_iff.mpr hd]
      rfl
    have hrun := run_onHost (fun h => h.loadImage index image) s
    rw [hload] at hrun
    simp only [hskip]
    rw [if_neg Bool.false_ne_true, ← List.append_nil (demand _ _)]
    refine Checks.after hrun (Checks.demanding (fun hu => ?_) fun hu => ?_)
    · rw [if_pos hu]
      exact ⟨Site.emit _ _, rfl⟩
    · rw [if_neg (not_not.mpr hu)]
      exact Checks.pass rfl ⟨by rw [hsettled], rfl, rfl⟩

theorem identify_checks {lock : DeviceLock} {uuid : Uuid}
    (h : s.host.imageUuid? index = some uuid) :
    (identify settings image index lock).Checks s [] fun bound t =>
      bound = ⟨index, uuid, lock⟩ ∧ s.Alike t := by
  unfold identify
  refine Checks.after (run_host s) ?_
  rw [h]
  by_cases hd : settings.skipImageLoad ∧ uuid ≠ image.uuid <;>
    by_cases hv : 0 < settings.verbosity.devices <;>
    simp only [hd, hv, ne_eq, not_false_eq_true, and_self, if_true, if_false]
  · exact Checks.pass rfl ⟨rfl, (Site.Alike.emit _ _).trans (Site.Alike.emit _ _)⟩
  · exact Checks.pass rfl ⟨rfl, Site.Alike.emit _ _⟩
  · exact Checks.pass rfl ⟨rfl, Site.Alike.emit _ _⟩
  · exact Checks.pass rfl ⟨rfl, Site.Alike.refl _⟩

theorem identify_missing {lock : DeviceLock} (h : s.host.imageUuid? index = none)
    (post : BoundDevice → Site → Prop) :
    (identify settings image index lock).Checks s [.imageNotResident index] post := by
  unfold identify
  refine Checks.after (run_host s) ?_
  rw [h]
  exact Checks.stop rfl

/-- The device is bound with the image that it has after it was seen to. -/
structure Binds (settings : Settings) (image : Image) (index : Nat) (d : Device)
    (bound : BoundDevice) : Prop where
  index : bound.index = index
  uuid : (d.settled settings image).imageUuid? = some bound.uuid

theorem bindLocked_checks {lock : DeviceLock} (hd : s.host.devices[index]? = some d) :
    (bindLocked settings image index lock).Checks s (imageObstacles settings image index d)
      fun bound t => Binds settings image index d bound ∧ bound.lock = lock ∧
        Settles settings image index d s t := by
  unfold bindLocked
  refine Checks.after (run_host s) ?_
  have hopen := run_ofExcept (s.host.openDevice index) s
  rw [Host.openDevice_eq_ok_iff.mpr hd] at hopen ⊢
  refine Checks.after hopen ?_
  have hlt := (List.getElem?_eq_some_iff.mp hd).1
  have huuid {t : Site} (ht : Settles settings image index d s t) :
      t.host.imageUuid? index = (d.settled settings image).imageUuid? := by
    rw [ht.host, Host.imageUuid?, Host.setDevice, List.getElem?_set_self hlt]
    rfl
  have hload := @loadImage_checks settings image index d s hd
  by_cases hskip : settings.skipImageLoad = true
  · have hsettled : d.settled settings image = d := if_pos hskip
    rw [if_pos hskip] at hload
    rw [imageObstacles, if_pos hskip, ← List.nil_append (demand _ _)]
    refine hload.bind fun _ t ht => ?_
    have hu := huuid ht
    rcases hr : d.resident with _ | resident
    · rw [hsettled, Device.imageUuid?, hr] at hu
      exact identify_missing hu _
    · rw [hsettled, Device.imageUuid?, hr] at hu
      refine (identify_checks hu).imp fun bound u h => ?_
      obtain ⟨hb, hau⟩ := h
      rw [hb]
      refine ⟨⟨rfl, ?_⟩, rfl, hau.host.trans ht.host, hau.files.trans ht.files,
        hau.held.trans ht.held⟩
      rw [hsettled, Device.imageUuid?, hr]
      rfl
  · have hsettled : d.settled settings image = d.load image := if_neg hskip
    rw [if_neg hskip] at hload
    rw [imageObstacles, if_neg hskip]
    refine hload.bind_nil fun _ t ht => ?_
    have hu := huuid ht
    rw [hsettled] at hu
    refine (identify_checks hu).imp fun bound u h => ?_
    obtain ⟨hb, hau⟩ := h
    rw [hb]
    exact ⟨⟨rfl, by rw [hsettled]; rfl⟩, rfl, hau.host.trans ht.host, hau.files.trans ht.files,
      hau.held.trans ht.held⟩

/-- The lock of the device can be had at once. -/
structure Free (settings : Settings) (s : Site) (index : Nat) : Prop where
  opens : s.files.Accepts (DeviceLock.forDevice settings.lockDirectory index).path
  free : DeviceLock.place settings.lockDirectory index ∉ s.held

theorem Free.of_alike {t : Site} (h : Free settings s index) (ha : s.Alike t) :
    Free settings t index :=
  ⟨ha.files ▸ h.opens, ha.held ▸ h.free⟩

theorem acquire_checks {again : Bool} (h : Free settings s index) :
    (DeviceLock.acquire settings.lockDirectory index again).Checks s [] fun taken t =>
      taken = some (DeviceLock.forDevice settings.lockDirectory index) ∧ t.host = s.host ∧
        s.files.SameDirectories t.files ∧
        t.held = DeviceLock.place settings.lockDirectory index :: s.held := by
  obtain ⟨r, t, hr, ha⟩ := DeviceLock.acquire_attempts settings.lockDirectory index again s
  rcases r with stop | _ | lock
  · exact absurd rfl (ha.opens.mp h.opens stop)
  · exact absurd (ha.awaited rfl).1 h.free
  · obtain ⟨hlock, -, hheld⟩ := ha.taken lock rfl
    exact Checks.pass hr ⟨congrArg some hlock, ha.host, ha.files, hheld⟩

structure BindsNext (o : Opening) (index : Nat) (rest : List Nat) (d : Device) (s : Site)
    (o' : Opening) (t : Site) : Prop where
  opening : ∃ bound, o' = { o with pending := rest, bound := o.bound ++ [bound], waits := false } ∧
    Binds o.settings o.image index d bound ∧
    bound.lock = DeviceLock.forDevice o.settings.lockDirectory index
  host : t.host = s.host.setDevice index (d.settled o.settings o.image)
  files : s.files.SameDirectories t.files
  held : t.held = DeviceLock.place o.settings.lockDirectory index :: s.held

theorem bindNext_checks {o : Opening} {rest : List Nat} (hp : o.pending = index :: rest)
    (hd : s.host.devices[index]? = some d) (hf : Free o.settings s index) :
    o.bindNext.Checks s (imageObstacles o.settings o.image index d)
      (BindsNext o index rest d s) := by
  unfold bindNext
  simp only [hp]
  rw [← List.nil_append (imageObstacles _ _ _ _)]
  refine (acquire_checks hf).bind fun taken t h => ?_
  obtain ⟨htaken, hhost, hfiles, hheld⟩ := h
  subst htaken
  rw [← hhost] at hd
  refine (bindLocked_checks hd).releasing.bind_nil fun bound u h => ?_
  obtain ⟨hb, hl, hu⟩ := h
  exact Checks.pass rfl ⟨⟨bound, rfl, hb, hl⟩, hu.host.trans (by rw [hhost]),
    hu.files.symm ▸ hfiles, hu.held.trans hheld⟩

structure BindsAll (o : Opening) (s : Site) (o' : Opening) (t : Site) : Prop where
  settings : o'.settings = o.settings
  image : o'.image = o.image
  pending : o'.pending = []
  bound : ∃ new, o'.bound = o.bound ++ new ∧ new.map (·.index) = o.pending ∧
    ∀ bound ∈ new, bound.lock = DeviceLock.forDevice o.settings.lockDirectory bound.index ∧
      ∃ d, s.host.devices[bound.index]? = some d ∧ Binds o.settings o.image bound.index d bound
  devices : ∀ i, t.host.devices[i]? = if i ∈ o.pending then
    s.host.devices[i]?.map (Device.settled o.settings o.image) else s.host.devices[i]?
  held : t.held = (o.pending.map (DeviceLock.place o.settings.lockDirectory)).reverse ++ s.held

namespace BindsNext

variable {o o' o'' : Opening} {rest : List Nat} {t u : Site}

theorem devices (h : BindsNext o index rest d s o' t) (hd : s.host.devices[index]? = some d)
    (i : Nat) : t.host.devices[i]? =
      if i = index then some (d.settled o.settings o.image) else s.host.devices[i]? := by
  rw [h.host, Host.setDevice]
  split
  · next he => rw [he, List.getElem?_set_self (List.getElem?_eq_some_iff.mp hd).1]
  · next he => rw [List.getElem?_set_ne (Ne.symm he)]

theorem count (h : BindsNext o index rest d s o' t) : t.host.deviceCount = s.host.deviceCount := by
  rw [h.host]
  exact List.length_set

theorem free {i : Nat} (h : BindsNext o index rest d s o' t) (hf : Free o.settings s i)
    (hi : i ≠ index) : Free o.settings t i := by
  refine ⟨h.files.accepts hf.opens, fun hm => ?_⟩
  rw [h.held] at hm
  rcases List.mem_cons.mp hm with he | hm
  · exact hi (DeviceLock.place_eq_iff.mp he).2
  · exact hf.free hm

theorem all (h : BindsNext o index rest d s o' t) (hp : o.pending = index :: rest)
    (hn : index ∉ rest) (hd : s.host.devices[index]? = some d) (h' : BindsAll o' t o'' u) :
    BindsAll o s o'' u := by
  have hdevices := h.devices hd
  obtain ⟨bound, rfl, hb, hl⟩ := h.opening
  obtain ⟨new, hbound, hindices, hnew⟩ := h'.bound
  replace hindices : new.map (·.index) = rest := hindices
  refine ⟨h'.settings, h'.image, h'.pending, ⟨bound :: new, ?_, ?_, fun b hm => ?_⟩,
    fun i => ?_, ?_⟩
  · rw [hbound, List.append_assoc]
    rfl
  · rw [List.map_cons, hb.index, hindices, hp]
  · rcases List.mem_cons.mp hm with rfl | hm
    · rw [hb.index]
      exact ⟨hl, d, hd, hb⟩
    · obtain ⟨hlock, d', hd', hb'⟩ := hnew b hm
      have hi : b.index ∈ rest := hindices ▸ List.mem_map_of_mem hm
      rw [hdevices, if_neg fun he : b.index = index => hn (he ▸ hi)] at hd'
      exact ⟨hlock, d', hd', hb'⟩
  · rw [h'.devices, hp, hdevices]
    by_cases he : i = index
    · subst he
      rw [if_neg hn, if_pos rfl, if_pos List.mem_cons_self, hd]
      rfl
    · simp only [List.mem_cons, he, false_or, if_false]
  · rw [h'.held, h.held, hp]
    simp

end BindsNext

theorem bindUpTo_checks {o : Opening} (hn : o.pending.Nodup)
    (hlt : ∀ i ∈ o.pending, i < s.host.deviceCount) (hf : ∀ i ∈ o.pending, Free o.settings s i) :
    (bindUpTo o.pending.length o).Checks s
      (s.host.across o.pending (imageObstacles o.settings o.image)) (BindsAll o s) := by
  generalize hp : o.pending = pending at hn hlt hf
  induction pending generalizing o s with
  | nil =>
    refine Checks.pass rfl ⟨rfl, rfl, hp, ⟨[], ?_, hp.symm, fun _ => nofun⟩, fun i => ?_, ?_⟩
    · rw [List.append_nil]
    · simp only [hp, List.not_mem_nil, if_false]
    · simp only [hp, List.map_nil, List.reverse_nil, List.nil_append]
  | cons index rest ih =>
    obtain ⟨hnot, hrest⟩ := List.nodup_cons.mp hn
    have hd := List.getElem?_eq_getElem (hlt index List.mem_cons_self)
    have hother (i : Nat) (hi : i ∈ rest) : i ≠ index := fun he => hnot (he ▸ hi)
    rw [Host.across_cons hd]
    refine (bindNext_checks hp hd (hf index List.mem_cons_self)).releasing.bind fun o₁ t h => ?_
    have hdevices := h.devices hd
    have hcount := h.count
    obtain ⟨bound, ho₁, -⟩ := h.opening
    -- the devices still to come are as they were before
    have hacross : t.host.across rest (imageObstacles o.settings o.image) =
        s.host.across rest (imageObstacles o.settings o.image) := by
      refine Host.across_congr fun i hi => ?_
      rw [hdevices, if_neg (hother i hi)]
    have hall := ih (o := o₁) (s := t) (by rw [ho₁]) hrest
      (fun i hi => hcount ▸ hlt i (List.mem_cons_of_mem index hi))
      (fun i hi => by
        rw [ho₁]
        exact h.free (hf i (List.mem_cons_of_mem index hi)) (hother i hi))
    subst ho₁
    rw [← hacross]
    exact Checks.imp hall fun o₂ u h' => h.all hp hnot hd h'

theorem bindUnit_checks {device : BoundDevice} {fullName : String}
    (hd : s.host.devices[device.index]? = some d) (hu : d.imageUuid? = some device.uuid) :
    (bindUnit settings device fullName).Checks s (unitObstacles device.index d fullName)
      fun _ t => s.Alike t := by
  have hkernel : errorsOf (s.host.openKernel device.index device.uuid (kernelRequest fullName)) =
      unitObstacles device.index d fullName := by
    obtain ⟨resident, hr, huuid⟩ := Option.map_eq_some_iff.mp hu
    rw [Host.openKernel, Host.openDevice_eq_ok_iff.mpr hd]
    simp only [bind, Except.bind, Device.openKernel, hr, huuid, if_true, unitObstacles, demand,
      Option.mem_def, Option.some.injEq, exists_eq_left']
    split <;> rfl
  unfold bindUnit
  refine Checks.after (run_host s) ?_
  rw [← hkernel]
  refine (Checks.ofExcept _ s).bind_nil fun kernel t h => ?_
  obtain ⟨-, ht⟩ := h
  subst ht
  by_cases hv : 0 < settings.verbosity.devices
  · simp only [hv, if_true]
    exact Checks.pass rfl (Site.Alike.emit t _)
  · simp only [hv, if_false]
    exact Checks.pass rfl (Site.Alike.emit t _)

def Ready (o : Opening) (h : Host) : Prop :=
  ∀ bound ∈ o.bound, ∃ d, h.devices[bound.index]? = some d ∧ d.imageUuid? = some bound.uuid

theorem findUnits_checks {o : Opening} (hr : o.Ready s.host) (hb : o.bound ≠ []) :
    o.findUnits.Checks s
      (s.host.across (o.bound.map (·.index)) fun index d =>
        (o.image.cores.filter isUnitName).flatMap (unitObstacles index d))
      fun units t => s.Alike t ∧ (units = [] ↔ o.image.cores.filter isUnitName = []) := by
  unfold findUnits
  simp only
  generalize hnames : o.image.cores.filter isUnitName = names
  let check (request : BoundDevice × String) : List DeviceError :=
    (s.host.devices[request.1.index]?.map fun d =>
      unitObstacles request.1.index d request.2).getD []
  let requests := o.bound.flatMap fun device => names.map fun name => (device, name)
  have hcheck : requests.flatMap check = s.host.across (o.bound.map (·.index)) fun index d =>
      names.flatMap (unitObstacles index d) := by
    simp only [requests, Host.across, List.flatMap_map, List.flatMap_assoc]
    refine List.flatMap_congr fun device hm => ?_
    obtain ⟨d, hd, -⟩ := hr device hm
    simp only [check, hd, Option.map_some, Option.getD_some]
  have hempty : requests = [] ↔ names = [] := by
    simp only [requests, List.flatMap_eq_nil_iff, List.map_eq_nil_iff]
    obtain ⟨device, hm⟩ := List.exists_mem_of_ne_nil _ hb
    exact ⟨fun h => h device hm, fun h _ _ => h⟩
  rw [← hcheck]
  refine Checks.imp (Checks.foldlM (P := fun units : UnitIndex => units ≠ []) ?_ []) ?_
  · rintro ⟨device, name⟩ hm index t ht
    obtain ⟨device', hm', he⟩ := List.mem_flatMap.mp hm
    obtain ⟨_, -, he⟩ := List.mem_map.mp he
    cases he
    obtain ⟨d, hd, hu⟩ := hr device hm'
    have hc : check (device, name) = unitObstacles device.index d name := by
      simp only [check, hd, Option.map_some, Option.getD_some]
    rw [hc]
    rw [← ht.host] at hd
    refine (bindUnit_checks hd hu).bind_nil fun u v hv => ?_
    exact Checks.pass rfl ⟨hv, UnitIndex.insert_ne_nil _ _ _⟩
  · intro units t ⟨ht, hnil, hcons⟩
    refine ⟨ht, ⟨fun h => ?_, fun h => hnil (hempty.mpr h)⟩⟩
    by_contra hne
    exact hcons (fun he => hne (hempty.mp he)) h

theorem indexUnits_checks {o : Opening} (hr : o.Ready s.host) (hb : o.bound ≠ []) :
    o.indexUnits.Checks s
      (demand (o.image.cores ≠ []) .noComputeUnits ++
        (s.host.across (o.bound.map (·.index)) (fun index d =>
          (o.image.cores.filter isUnitName).flatMap (unitObstacles index d)) ++
        demand (∃ name ∈ o.image.cores, isUnitName name) .noComputeUnits))
      fun _ t => s.Alike t := by
  have hnames : o.image.cores.filter isUnitName = [] ↔
      ¬ ∃ name ∈ o.image.cores, isUnitName name := by
    simp [List.filter_eq_nil_iff]
  unfold indexUnits
  refine Checks.demanding (fun hc => ?_) fun hc => ?_
  · simp only [not_not.mp hc, List.isEmpty_nil, if_true]
    exact ⟨s.emit _, rfl⟩
  · have hcores : o.image.cores.isEmpty = false := by simpa using hc
    simp only [hcores, Bool.false_eq_true, if_false]
    refine (findUnits_checks hr hb).bind fun units t h => ?_
    obtain ⟨ht, hunits⟩ := h
    rw [← List.append_nil (demand _ _)]
    refine Checks.demanding (fun hn => ?_) fun hn => ?_
    · have he : units.isEmpty = true := by simpa using hunits.mpr (hnames.mpr hn)
      simp only [he, if_true]
      exact ⟨t.emit _, rfl⟩
    · have hne : units.isEmpty = false := by
        simpa using fun h => hnames.mp (hunits.mp h) hn
      simp only [hne, Bool.false_eq_true, if_false]
      exact Checks.pass rfl ht

theorem findBank_checks (image : Image) (s : Site) :
    (findBank image).Checks s (demand (∃ bank ∈ image.banks, bank.used) .noValidBank)
      fun bank t => image.firstUsedBank = some bank ∧ s.Alike t := by
  unfold findBank
  rw [← List.append_nil (demand _ _)]
  refine Checks.demanding (fun hn => ?_) fun hused => ?_
  · rw [Image.firstUsedBank_eq_none_iff.mpr hn]
    exact ⟨s, rfl⟩
  · rcases hb : image.firstUsedBank with _ | bank
    · exact absurd hused (Image.firstUsedBank_eq_none_iff.mp hb)
    · exact Checks.pass rfl ⟨rfl, Site.Alike.emit s _⟩

structure Registers (o : Opening) (r : Registry) : Prop where
  settings : r.settings = o.settings
  image : r.image = o.image
  devices : r.devices = o.bound
  bank : o.image.firstUsedBank = some r.bank

theorem finish_checks {o : Opening} (hr : o.Ready s.host) (hb : o.bound ≠ []) :
    o.finish.Checks s
      (demand (∃ bank ∈ o.image.banks, bank.used) .noValidBank ++
        (demand (o.image.cores ≠ []) .noComputeUnits ++
          (s.host.across (o.bound.map (·.index)) (fun index d =>
            (o.image.cores.filter isUnitName).flatMap (unitObstacles index d)) ++
          demand (∃ name ∈ o.image.cores, isUnitName name) .noComputeUnits)))
      fun r t => o.Registers r ∧ s.Alike t := by
  refine Checks.releasing ?_
  refine (findBank_checks o.image s).bind fun bank t h => ?_
  obtain ⟨hbank, ht⟩ := h
  rw [← ht.host] at hr ⊢
  refine (indexUnits_checks hr hb).bind_nil fun units u hu => ?_
  exact Checks.pass rfl ⟨⟨rfl, rfl, rfl, hbank⟩, (ht.trans hu).trans (Site.Alike.emit u _)⟩

end Opening

end Accelerator
