import Accelerator.Proofs.Registry.Obstacles
import Accelerator.World.Opening

/-! When a registry can be opened. Where it cannot, the first obstacle is the error. -/

namespace Accelerator

open Accelerator.Action

/-- The parts of an opening in a row, for when no lock has to be waited for. -/
def Opening.outright (settings : Settings) : Action DeviceError Registry := do
  let o ← start settings
  let o ← bindUpTo o.pending.length o
  o.finish

namespace Opening

/-- What a registry is when it could be opened, and what it did to the site. -/
structure Built (settings : Settings) (s : Site) (r : Registry) (t : Site) : Prop where
  image : s.host.images.get? (Path.parts (settings.resolveFirmware s.files).1) = some r.image
  indices : r.devices.map (·.index) = settings.selection.resolve s.host.deviceCount
  bound : ∀ bound ∈ r.devices,
    bound.lock = DeviceLock.forDevice settings.lockDirectory bound.index ∧
      ∃ d, s.host.devices[bound.index]? = some d ∧ Binds settings r.image bound.index d bound
  bank : r.image.firstUsedBank = some r.bank
  devices : ∀ i, t.host.devices[i]? = if i ∈ settings.selection.resolve s.host.deviceCount then
    s.host.devices[i]?.map (Device.settled settings r.image) else s.host.devices[i]?
  held : t.held = ((settings.selection.resolve s.host.deviceCount).map
    (DeviceLock.place settings.lockDirectory)).reverse ++ s.held
  settings : r.settings = settings

theorem Built.of_alike {settings : Settings} {s t u : Site} {r : Registry}
    (h : Built settings t r u) (ha : s.Alike t) : Built settings s r u := by
  obtain ⟨himage, hindices, hbound, hbank, hdevices, hheld, hs⟩ := h
  rw [ha.host] at himage hindices hbound hdevices hheld
  rw [ha.files] at himage
  rw [ha.held] at hheld
  exact ⟨himage, hindices, hbound, hbank, hdevices, hheld, hs⟩

theorem openImage_eq_ok_iff {h : Host} {path : String} {image : Image} :
    h.openImage path = .ok image ↔ h.images.get? (Path.parts path) = some image := by
  unfold Host.openImage
  split <;> simp_all

theorem BindsAll.ready {o o' : Opening} {s t : Site} (h : o.BindsAll s o' t) (hb : o.bound = []) :
    o'.bound.map (·.index) = o.pending ∧ o'.Ready t.host := by
  obtain ⟨new, hbound, hindices, hnew⟩ := h.bound
  rw [hb, List.nil_append] at hbound
  refine ⟨hbound ▸ hindices, fun bound hm => ?_⟩
  rw [hbound] at hm
  obtain ⟨-, d, hd, hu⟩ := hnew bound hm
  refine ⟨d.settled o.settings o.image, ?_, hu.uuid⟩
  rw [h.devices, if_pos (hindices ▸ List.mem_map_of_mem hm), hd]
  rfl

theorem bindUpTo_finish_checks {o : Opening} {s : Site} (hb : o.bound = []) (hp : o.pending ≠ [])
    (hn : o.pending.Nodup) (hlt : ∀ i ∈ o.pending, i < s.host.deviceCount)
    (hf : ∀ i ∈ o.pending, Free o.settings s i) :
    (bindUpTo o.pending.length o >>= finish).Checks s
      (bindingObstacles o.settings o.image s.host o.pending)
      fun r u => ∃ o' t, o.BindsAll s o' t ∧ o'.Registers r ∧ t.Alike u := by
  refine (bindUpTo_checks hn hlt hf).bind fun o' t h => ?_
  obtain ⟨hindices, hready⟩ := h.ready hb
  have hbound : o'.bound ≠ [] := fun he => hp (by rw [← hindices, he]; rfl)
  have hunits : t.host.across o.pending (fun index d =>
        (o.image.cores.filter isUnitName).flatMap (unitObstacles index d)) =
      s.host.across o.pending (fun index d => (o.image.cores.filter isUnitName).flatMap
        (unitObstacles index (d.settled o.settings o.image))) := by
    refine Host.across_congr fun i hi => ?_
    rw [h.devices, if_pos hi, Option.map_map]
    rfl
  have hfinish := finish_checks hready hbound
  rw [hindices, h.image, hunits] at hfinish
  exact hfinish.imp fun r u ⟨hr, hu⟩ => ⟨o', t, h, hr, hu⟩

theorem BindsAll.built {settings : Settings} {o o' : Opening} {r : Registry} {s t u : Site}
    (h : o.BindsAll s o' t) (hr : o'.Registers r) (hu : t.Alike u) (hs : o.settings = settings)
    (hb : o.bound = []) (hp : o.pending = settings.selection.resolve s.host.deviceCount)
    (hi : s.host.images.get? (Path.parts (settings.resolveFirmware s.files).1) = some o.image) :
    Built settings s r u := by
  have hindices := (h.ready hb).1
  obtain ⟨new, hbound, -, hnew⟩ := h.bound
  rw [hb, List.nil_append] at hbound
  have himage : r.image = o.image := hr.image.trans h.image
  refine ⟨himage ▸ hi, ?_, fun bound hm => ?_, ?_, fun i => ?_, ?_,
    hr.settings.trans (h.settings.trans hs)⟩
  · rw [hr.devices, hindices, hp]
  · rw [hr.devices, hbound] at hm
    obtain ⟨hl, d, hd, hbinds⟩ := hnew bound hm
    rw [hs] at hl hbinds
    rw [himage]
    exact ⟨hl, d, hd, hbinds⟩
  · rw [hr.image]
    exact hr.bank
  · rw [hu.host, h.devices, hp, hs, himage]
  · rw [hu.held, h.held, hp, hs]

theorem outright_checks {settings : Settings} {s : Site}
    (hf : ∀ i ∈ settings.selection.resolve s.host.deviceCount, Free settings s i) :
    (outright settings).Checks s (obstacles settings s) (Built settings s) := by
  have hstart := start_checks settings s
  unfold outright obstacles
  simp only
  rcases himage : s.host.images.get? (Path.parts (settings.resolveFirmware s.files).1) with _ | image
  · have hopen : s.host.openImage (settings.resolveFirmware s.files).1 =
        .error (.imageOpen (settings.resolveFirmware s.files).1 "no such image") := by
      rw [Host.openImage, himage]
    rw [hopen] at hstart
    -- nothing further is looked at, as there is no image to go on with
    refine Checks.bind_nil (Checks.congr hstart ?_) fun o t h => ?_
    · simp only [errorsOf, List.head?_append, List.head?_cons, List.singleton_append]
    · obtain ⟨-, -, -, -, -, hi⟩ := h
      cases hi
  · rw [openImage_eq_ok_iff.mpr himage] at hstart
    simp only [errorsOf, List.nil_append] at hstart ⊢
    rw [← List.append_assoc]
    refine hstart.bind fun o t h => ?_
    obtain ⟨ht, hs, hb, hp, hne, hi⟩ := h
    obtain rfl : image = o.image := Except.ok.inj hi
    subst hs
    rw [← hp] at hf ⊢
    have hfree : ∀ i ∈ o.pending, Free o.settings t i := fun i hi => (hf i hi).of_alike ht
    rw [← ht.host] at hp himage ⊢
    rw [← ht.files] at himage
    refine (bindUpTo_finish_checks hb hne (hp ▸ Selection.nodup_resolve _ _)
      (fun i hi => Selection.lt_of_mem_resolve (hp ▸ hi)) hfree).imp ?_
    rintro r u ⟨o', t', hbinds, hr, hu⟩
    exact (hbinds.built hr hu rfl hb hp himage).of_alike ht

theorem Binds.uuid_eq {settings : Settings} {image : Image} {index : Nat} {d : Device}
    {bound : BoundDevice} (h : Binds settings image index d bound)
    (hd : imageObstacles settings image index d = []) (hs : settings.skipImageLoad = false) :
    bound.uuid = image.uuid := by
  have hu := h.uuid
  unfold Device.settled at hu
  simp only [imageObstacles, demand, hs, Bool.false_eq_true, if_false, ite_eq_left_iff,
    List.cons_ne_nil, imp_false, not_not] at hd hu
  exact (Option.some.inj hu).symm.trans hd

theorem across_eq_nil_of_obstacles {settings : Settings} {s : Site} {image : Image}
    (h : obstacles settings s = [])
    (hi : s.host.images.get? (Path.parts (settings.resolveFirmware s.files).1) = some image) :
    s.host.across (settings.selection.resolve s.host.deviceCount)
      (imageObstacles settings image) = [] := by
  simp only [obstacles, bindingObstacles, hi, List.append_eq_nil_iff] at h
  obtain ⟨-, -, hacross, -⟩ := h
  exact hacross

namespace Built

variable {settings : Settings} {s t : Site} {r : Registry} {bound : BoundDevice}

theorem mem_resolve (h : Built settings s r t) (hm : bound ∈ r.devices) :
    bound.index ∈ settings.selection.resolve s.host.deviceCount :=
  h.indices ▸ List.mem_map_of_mem hm

theorem imageUuid? (h : Built settings s r t) (hm : bound ∈ r.devices) :
    t.host.imageUuid? bound.index = some bound.uuid := by
  obtain ⟨-, d, hd, hb⟩ := h.bound bound hm
  rw [Host.imageUuid?, h.devices, if_pos (h.mem_resolve hm), hd]
  exact hb.uuid

theorem uuid_eq (h : Built settings s r t) (ho : obstacles settings s = [])
    (hs : settings.skipImageLoad = false) (hm : bound ∈ r.devices) :
    bound.uuid = r.image.uuid := by
  obtain ⟨-, d, hd, hb⟩ := h.bound bound hm
  refine hb.uuid_eq ?_ hs
  have hnone := List.flatMap_eq_nil_iff.mp (across_eq_nil_of_obstacles ho h.image) bound.index
    (h.mem_resolve hm)
  rwa [hd] at hnone

end Built

/-- Where the locks can be had, no device is left to wait for. -/
theorem bindUpTo_pending {settings : Settings} {o o' : Opening} {s t u : Site}
    (hf : ∀ i ∈ settings.selection.resolve s.host.deviceCount, Free settings s i)
    (ho : (start settings).run s = (.ok o, t))
    (hb : (bindUpTo o.pending.length o).run t = (.ok o', u)) : o'.pending = [] := by
  obtain ⟨-, ht, rfl, -, hp, -⟩ := (start_checks settings s).of_ok ho
  rw [← hp] at hf
  have hfree : ∀ i ∈ o.pending, Free o.settings t i := fun i hi => (hf i hi).of_alike ht
  rw [← ht.host] at hp
  exact ((bindUpTo_checks (hp ▸ Selection.nodup_resolve _ _)
    (fun i hi => Selection.lt_of_mem_resolve (hp ▸ hi)) hfree).of_ok hb).2.pending

end Opening

namespace World

variable {w : World} {settings : Settings}

/-- An opening that does not wait comes to what its parts come to in a row. -/
theorem openRegistry_outright
    (h : ∀ o t o' u, (Opening.start settings).run w.site = (.ok o, t) →
      (Opening.bindUpTo o.pending.length o).run t = (.ok o', u) → o'.pending = []) :
    (∀ stop t, (Opening.outright settings).run w.site = (.error stop, t) →
      (w.openRegistry settings).1 = .refused stop) ∧
    ∀ r t, (Opening.outright settings).run w.site = (.ok r, t) → ∃ openings,
      w.openRegistry settings =
        (.ready w.handles.next, ({ w with site := t, openings }.addRegistry r).2) := by
  unfold Opening.outright openRegistry beginOpening perform
  simp only [run_bind]
  rcases hs : (Opening.start settings).run w.site with ⟨e | o, t⟩
  · refine ⟨fun stop _ he => ?_, fun r _ he => by cases he⟩
    cases he
    rfl
  · have hid : (w.openings.insert o).2.get? w.openings.next = some o := by
      rw [Store.get?_insert, if_pos rfl]
    have hnumber : (w.openings.insert o).1 = w.openings.next := rfl
    simp only [hnumber, resumeOpening, continueOpening, hid, Option.bind_some, Option.map_some,
      Option.getD_some, perform]
    rcases hb : (Opening.bindUpTo o.pending.length o).run t with ⟨e | o', u⟩
    · refine ⟨fun stop _ he => ?_, fun r _ he => by cases he⟩
      cases he
      rfl
    · have hp : o'.pending.isEmpty = true := by rw [h o t o' u hs hb]; rfl
      simp only [settleOpening, perform, hp, if_true]
      rcases o'.finish.run u with ⟨e | r, v⟩
      · refine ⟨fun stop _ he => ?_, fun r _ he => by cases he⟩
        cases he
        rfl
      · refine ⟨fun stop _ he => (by cases he), fun r' v' he => ?_⟩
        cases he
        exact ⟨_, rfl⟩

/-- As long as the locks of the selected devices can be had, a registry is opened just when nothing
stands in its way, and otherwise the first obstacle is the error. What is opened has the selected
devices in order, with their locks and with the image that they report, and the first used bank. -/
theorem openRegistry_meets_obstacles (w : World) (settings : Settings)
    (hf : ∀ i ∈ settings.selection.resolve w.site.host.deviceCount,
      Opening.Free settings w.site i) :
    (∀ e, (w.openRegistry settings).1 = .refused (.error e) ↔
      (Opening.obstacles settings w.site).head? = some e) ∧
    ((∃ handle, (w.openRegistry settings).1 = .ready handle) ↔
      Opening.obstacles settings w.site = []) ∧
    (∀ e, settings.validate = .error e → ∃ key value reason, e = .invalidSetting key value reason) ∧
    ∀ handle w', w.openRegistry settings = (.ready handle, w') →
      ∃ r, w'.registryOf? handle = some r ∧ r.settings = settings ∧
        w.site.host.images.get? (Path.parts (settings.resolveFirmware w.site.files).1) =
          some r.image ∧
        r.devices.map (·.index) = settings.selection.resolve w.site.host.deviceCount ∧
        (∀ bound ∈ r.devices,
          bound.lock = DeviceLock.forDevice settings.lockDirectory bound.index ∧
          w'.site.host.imageUuid? bound.index = some bound.uuid ∧
          (settings.skipImageLoad = false → bound.uuid = r.image.uuid)) ∧
        r.image.firstUsedBank = some r.bank ∧
        (∀ i, w'.site.host.devices[i]? =
          if i ∈ settings.selection.resolve w.site.host.deviceCount then
            w.site.host.devices[i]?.map (Device.settled settings r.image)
          else w.site.host.devices[i]?) ∧
        w'.site.held = ((settings.selection.resolve w.site.host.deviceCount).map
          (DeviceLock.place settings.lockDirectory)).reverse ++ w.site.held := by
  have hchecks := Opening.outright_checks hf
  obtain ⟨hrefused, hready⟩ := openRegistry_outright fun o t o' u ho hb =>
    Opening.bindUpTo_pending hf ho hb
  rcases hobs : Opening.obstacles settings w.site with _ | ⟨first, others⟩
  · obtain ⟨r, t, hr, hbuilt⟩ := hchecks.passes hobs
    obtain ⟨openings, hopen⟩ := hready r t hr
    rw [hopen]
    refine ⟨fun _ => ⟨nofun, nofun⟩, ⟨fun _ => rfl, fun _ => ⟨_, rfl⟩⟩,
      fun _ => Settings.validate_error, fun handle w' he => ?_⟩
    cases he
    refine ⟨r, ?_, hbuilt.settings, hbuilt.image, hbuilt.indices, fun bound hm => ?_, hbuilt.bank,
      hbuilt.devices, hbuilt.held⟩
    · simp only [registryOf?, addRegistry, addHandle, Store.get?_insert, if_pos, Option.bind_some]
      exact if_pos rfl
    · exact ⟨(hbuilt.bound bound hm).1, hbuilt.imageUuid? hm, fun hs => hbuilt.uuid_eq hobs hs hm⟩
  · obtain ⟨t, hr⟩ := hchecks.stops first (by rw [hobs]; rfl)
    have hopen := hrefused _ t hr
    refine ⟨fun e => ?_, ⟨fun ⟨handle, he⟩ => ?_, nofun⟩, fun _ => Settings.validate_error,
      fun handle w' he => ?_⟩
    · rw [hopen, List.head?_cons, Option.some.injEq]
      exact ⟨fun he => by cases he; rfl, fun he => he ▸ rfl⟩
    · cases hopen.symm.trans he
    · rw [he] at hopen
      cases hopen

def oneCorrupted : Site where
  host := Host.addImage { devices := [{}, { corrupted := true }] } "a" {
    uuid := {}, cores := ["dpu:one"]
    banks := [{ tag := "DDR[0]", used := true, base := 0x60000000, size := 0x40000000 }] }

/-- The second device stands in the way of both, but not of the first alone. -/
theorem openRegistry_meets_obstacles_oneCorrupted :
    let w : World := { site := oneCorrupted }
    let settings (selection : Selection) : Settings := {
      firmware := some "a", selection, lockDirectory := "/" }
    (w.openRegistry (settings .all)).1 =
        .refused (.error (.uuidMismatch 1 (Uuid.corrupted {}) {})) ∧
      ∃ handle, (w.openRegistry (settings (.list [0]))).1 = .ready handle := by
  intro w settings
  have hlocate : ∀ i < 2, oneCorrupted.files.locate (DeviceLock.forDevice "/" i).path =
      .ok [DeviceLock.fileNameFor i] := by decide +kernel
  have hvacant : ∀ i < 2, oneCorrupted.files.node? [DeviceLock.fileNameFor i] = none := by
    decide +kernel
  have hfree (selection : Selection) (i : Nat)
      (hi : i ∈ selection.resolve oneCorrupted.host.deviceCount) :
      Opening.Free (settings selection) oneCorrupted i := by
    have hlt : i < 2 := Selection.lt_of_mem_resolve hi
    refine ⟨Files.accepts_iff.mpr ⟨_, hlocate i hlt, ?_⟩, List.not_mem_nil⟩
    rw [hvacant i hlt]
    exact nofun
  obtain ⟨hrefused, -⟩ := openRegistry_meets_obstacles w (settings .all) (hfree .all)
  obtain ⟨-, hready, -⟩ := openRegistry_meets_obstacles w (settings (.list [0])) (hfree (.list [0]))
  exact ⟨(hrefused _).mpr (by decide +kernel), hready.mpr (by decide +kernel)⟩

end World

end Accelerator
