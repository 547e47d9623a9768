import Accelerator.Proofs.Dispatch.Job
import Accelerator.Proofs.World.Deeds
import Accelerator.Proofs.World.Drops

/-! What those deeds can do to a world that neither open a registry nor place a buffer, access one
or write a register. Each of them comes to one of a few changes. -/

namespace Accelerator

namespace World

/-- At most handles and controllers are other than they were, and the devices hold no less. -/
structure Passes (w w' : World) : Prop where
  site : w.site.Grows w'.site
  registries : w'.registries = w.registries
  buffers : w'.buffers = w.buffers
  dispatchers : w'.dispatchers = w.dispatchers
  openings : w'.openings = w.openings
  locks : w'.locks = w.locks
  factories : w'.factories = w.factories

theorem Passes.of_grows {w : World} {t : Site} (h : w.site.Grows t) :
    w.Passes { w with site := t } :=
  ⟨h, rfl, rfl, rfl, rfl, rfl, rfl⟩

/-- One change to a world, by a deed that may ask for locks in its directory. -/
inductive Changes (deed : Deed) (w : World) : World → Prop
  | passes {w' : World} (h : w.Passes w') (hrefs : w'.references = w.references) :
      Changes deed w w'
  /-- Something new refers to a registry. -/
  | refers {w' : World} {id : Nat} {r : Registry} (hr : w.registries.get? id = some r)
      (h : w.Passes w')
      (hrefs : (∀ e ∈ w.factories, ControllerFactories.Faithful e.2) →
        w'.references.Perm (id :: w.references)) : Changes deed w w'
  | drops {w₁ : World} {id : Nat} (h : w.Drops id w₁) : Changes deed w (w₁.collect id)
  | registers {kernelPrefix : String} {factory : ControllerFactory}
      (hd : deed = .registerFactory kernelPrefix factory) :
      Changes deed w (w.registerFactory kernelPrefix factory)
  | locks {directory : String} {device : Nat} {lock : DeviceLock} {t : Site}
      (hd : directory ∈ deed.directory?)
      (ha : DeviceLock.Attempt directory device w.site t (.ok (some lock))) :
      Changes deed w { w with site := t, locks := (w.locks.insert lock).2 }
  | unlocks {id : Nat} {l : DeviceLock} (hl : w.locks.get? id = some l) :
      Changes deed w { w with locks := w.locks.erase id, site := w.site.release [l.file] }
  /-- The site is changed from without. -/
  | affects {t : Site} (ha : w.site.Ages t) (hs : deed.LeavesLocks → w.site.Steady t)
      (he : deed.LeavesLocks → deed.meddles = false → w.site.host.Extends t.host) :
      Changes deed w { w with site := t }

namespace Changes

variable {deed : Deed} {w w' : World}

theorem refl (w : World) : Changes deed w w :=
  passes (.of_grows (Site.lasting_grows.refl w.site)) rfl

theorem of_alike {t : Site} (h : w.site.Alike t) : Changes deed w { w with site := t } :=
  passes (.of_grows (.of_alike h)) rfl

/-- Where no lock is had for it, an attempt does nothing of note. -/
theorem of_attempt {directory : String} {device : Nat} {t : Site}
    {r : Except (Stop DeviceError) (Option DeviceLock)} (hr : ∀ lock, r ≠ .ok (some lock))
    (ha : DeviceLock.Attempt directory device w.site t r) : Changes deed w { w with site := t } := by
  have hheld : t.held = w.site.held := by
    rcases r with stop | _ | lock
    · exact ha.refused stop rfl
    · exact (ha.awaited rfl).2
    · exact absurd rfl (hr lock)
  have hhost := ha.host
  exact passes (.of_grows (Site.grows_of_eq hheld ha.files (by rw [hhost]) (by rw [hhost])
    (by rw [hhost]))) rfl

theorem addHandle {id : Nat} {r : Registry} (hr : w.registries.get? id = some r) :
    Changes deed w (w.addHandle id).2 :=
  refers hr ⟨Site.lasting_grows.refl w.site, rfl, rfl, rfl, rfl, rfl, rfl⟩
    fun _ => references_addHandle w id

theorem shareRegistry (w : World) (registry : Nat) : Changes deed w (w.shareRegistry registry) := by
  unfold World.shareRegistry
  rcases hr : w.registries.get? registry with _ | r
  · exact refl w
  · exact addHandle hr

theorem dropHandle (w : World) (handle : Nat) : Changes deed w (w.dropHandle handle) := by
  rcases hid : w.handles.get? handle with _ | id
  · simp only [World.dropHandle, hid]
    exact refl w
  · obtain ⟨w₁, h, he, -⟩ := dropHandle_drops hid
    exact he ▸ drops h

theorem dropBuffer (w : World) (id : Nat) : Changes deed w (w.dropBuffer id) := by
  rcases hid : w.buffers.get? id with _ | b
  · simp only [World.dropBuffer, hid]
    exact refl w
  · obtain ⟨w₁, h, he, -⟩ := dropBuffer_drops hid
    exact he ▸ drops h

theorem dropDispatcher (w : World) (id : Nat) : Changes deed w (w.dropDispatcher id) := by
  rcases hid : w.dispatchers.get? id with _ | d
  · simp only [World.dropDispatcher, hid]
    exact refl w
  · obtain ⟨w₁, h, he, -⟩ := dropDispatcher_drops hid
    exact he ▸ drops h

theorem dropController (w : World) (id : Nat) : Changes deed w (w.dropController id) := by
  rcases hid : w.controllers.get? id with _ | c
  · simp only [World.dropController, hid]
    exact refl w
  · obtain ⟨w₁, h, he, -⟩ := dropController_drops hid
    exact he ▸ drops h

theorem createController (w : World) (handle : Nat) :
    Changes deed w (((w.createController handle).map (·.2)).getD w) := by
  rcases hc : w.createController handle with _ | ⟨answer, w'⟩
  · exact refl w
  · obtain ⟨id, r, t, -, hr, hcases⟩ := createController_cases hc
    have halike := (ControllerFactories.inspects_create w.factories r id).alike w.site
    obtain ⟨stop, hrun, -, rfl⟩ | ⟨c, hrun, -, rfl⟩ := hcases <;> rw [hrun] at halike
    · exact of_alike halike
    · refine refers hr ⟨.of_alike halike, rfl, rfl, rfl, rfl, rfl, rfl⟩ fun hf => ?_
      rw [← ControllerFactories.registry_of_create hf hrun]
      exact references_addController w c

theorem runController (w : World) (id core : Nat) (populate : Populate) :
    Changes deed w (((w.runController id core populate).map (·.2)).getD w) := by
  unfold World.runController World.runOnDispatcher
  rcases hid : w.controllers.get? id with _ | c
  · exact refl w
  · simp only [Option.bind_eq_bind, Option.bind_some]
    rcases w.registries.get? c.dispatcher.registry with _ | r
    · exact refl w
    · obtain ⟨report, d, t, hrun, ht, hr, -⟩ :=
        c.dispatcher.run_grows r.settings (w.clockFor r.settings) core populate w.site
      simp only [Option.map_some, Option.bind_some, hrun]
      exact passes ⟨ht, rfl, rfl, rfl, rfl, rfl, rfl⟩ (references_setController hid hr)

theorem lock {directory : String} (hd : directory ∈ deed.directory?) (w : World) (device : Nat)
    (again : Bool) : Changes deed w (w.lock directory device again).2 := by
  unfold World.lock World.perform
  obtain ⟨r, t, hr, ha⟩ := DeviceLock.acquire_attempts directory device again w.site
  rw [hr]
  rcases r with stop | _ | lock
  · exact of_attempt (by simp) ha
  · exact of_attempt (by simp) ha
  · exact locks hd ha

theorem tryLock {directory : String} (hd : directory ∈ deed.directory?) (w : World)
    (device : Nat) : Changes deed w (w.tryLock directory device).2 := by
  unfold World.tryLock World.perform
  obtain ⟨r, t, hr, ha⟩ := DeviceLock.tryAcquire_attempts directory device w.site
  rw [hr]
  rcases r with stop | _ | lock
  · exact of_attempt (by simp) ha
  · exact of_attempt (by simp) ha
  · exact locks hd ha

theorem unlock (w : World) (id : Nat) : Changes deed w (w.unlock id) := by
  unfold World.unlock
  rcases hl : w.locks.get? id with _ | l
  · exact refl w
  · exact unlocks hl

theorem installDriver (w : World) (d : DefaultDriver) : Changes deed w (w.installDriver d) :=
  passes ⟨.of_alike (Site.Alike.emit _ _), rfl, rfl, rfl, rfl, rfl, rfl⟩ rfl

theorem loadImage (w : World) (device : Nat) (image : Image) :
    Changes (.loadImage device image) w (w.act (.loadImage device image)) := by
  simp only [act]
  rcases hl : w.site.host.loadImage device image with e | ⟨uuid, host⟩
  · exact refl w
  · have ht := Host.touches_of_loadImage hl
    exact affects ht.ages (fun _ => ht.steady) fun _ => nofun

theorem changeDevice (w : World) (device : Nat) (change : Device → Device) :
    Changes (.changeDevice device change) w (w.act (.changeDevice device change)) := by
  have hages : w.site.host.Ages (w.site.host.modifyDevice device fun d =>
      { change d with loads := d.loads }) := by
    refine ⟨fun i d hd => ?_, List.length_modify _ _ _, rfl, rfl⟩
    have hget := List.getElem?_modify (fun d => { change d with loads := d.loads }) device
      w.site.host.devices i
    rw [hd, Option.map_eq_map, Option.map_some] at hget
    refine ⟨_, hget, ?_⟩
    split <;> exact Nat.le_refl _
  exact affects hages (fun _ => ⟨rfl, Files.SameDirectories.refl _⟩) fun _ => nofun

theorem elsewhere (w : World) (change : Site → Site) :
    Changes (.elsewhere change) w (w.act (.elsewhere change)) :=
  affects ⟨Host.Later.refl _, rfl, rfl, rfl⟩ (fun hl => ⟨(hl w.site).held, (hl w.site).files⟩)
    fun _ _ => .of_eq rfl

end Changes

/-- No registry, buffer or dispatcher is new or other than it was, and no register is written. What
is still referred to is left. -/
structure Loses (w w' : World) : Prop where
  registries : w.registries.Loses w'.registries
  buffers : w.buffers.Loses w'.buffers
  dispatchers : w.dispatchers.Loses w'.dispatchers
  backed : ∀ id ∈ w'.references, ∀ r, w.registries.get? id = some r →
    w'.registries.get? id = some r
  openings : w'.openings = w.openings
  site : w.site.Ages w'.site

variable {deed : Deed} {w w₁ w' : World} {id : Nat}

theorem Loses.of_eq (hr : w'.registries = w.registries) (hb : w'.buffers = w.buffers)
    (hd : w'.dispatchers = w.dispatchers) (ho : w'.openings = w.openings)
    (hs : w.site.Ages w'.site) : w.Loses w' :=
  ⟨.of_eq hr, .of_eq hb, .of_eq hd, fun _ _ _ h => hr ▸ h, ho, hs⟩

theorem Drops.loses (h : w.Drops id w₁) : w.Loses (w₁.collect id) := by
  have hs : w.site.Ages w₁.site := Host.Ages.of_eq h.site.host
  rcases w₁.collect_cases id with ⟨-, hc⟩ | ⟨hlast, r, hr, hc⟩ <;> rw [hc]
  · exact ⟨.of_eq h.registries, h.buffers, h.dispatchers, fun _ _ _ hr => h.registries ▸ hr,
      h.openings, hs⟩
  · rw [h.registries]
    refine ⟨.erase _ _, h.buffers, h.dispatchers, fun i hi r hr => ?_, h.openings, hs⟩
    have hne : id ≠ i := fun he => hlast (he ▸ hi)
    exact (Store.get?_erase _ _ _).trans ((if_neg hne).trans hr)

theorem Changes.loses (h : Changes deed w w') : w.Loses w' := by
  cases h with
  | passes h hrefs => exact .of_eq h.registries h.buffers h.dispatchers h.openings h.site.ages
  | refers hr h hrefs => exact .of_eq h.registries h.buffers h.dispatchers h.openings h.site.ages
  | drops h => exact h.loses
  | registers hd => exact .of_eq rfl rfl rfl rfl (Host.Ages.refl _)
  | locks hd ha => exact .of_eq rfl rfl rfl rfl (Host.Ages.of_eq ha.host)
  | unlocks hl => exact .of_eq rfl rfl rfl rfl (Host.Ages.refl _)
  | affects ha hs he => exact .of_eq rfl rfl rfl rfl ha

theorem Changes.extends (h : Changes deed w w') (hl : deed.LeavesLocks)
    (hm : deed.meddles = false) : w.site.host.Extends w'.site.host := by
  cases h with
  | passes h hrefs => exact h.site.devices
  | refers hr h hrefs => exact h.site.devices
  | @drops w₁ id h =>
    refine .of_eq ?_
    rcases w₁.collect_cases id with ⟨-, hc⟩ | ⟨-, r, -, hc⟩ <;> rw [hc] <;>
      exact congrArg Host.devices h.site.host
  | registers hd => exact .of_eq rfl
  | locks hd ha => exact .of_eq (congrArg Host.devices ha.host)
  | unlocks hl => exact .of_eq rfl
  | affects ha hs he => exact he hl hm

end World

end Accelerator
