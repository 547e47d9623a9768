import Accelerator.Proofs.Registry.Resident
import Accelerator.Proofs.World.Separation

/-! The banks of a world's registries in the images that its devices hold. A registry keeps its
devices locked, so nobody puts another image there while it lives. -/

namespace Accelerator

namespace World

variable {directory : String} {start : Site} {w w' : World} {deed : Deed} {id n : Nat}
  {o : Opening}

/-- Registries and openings have found their images on the devices that they have bound. -/
structure Equipped (w : World) : Prop where
  opening : ∀ id o, w.openings.get? id = some o →
    w.site.host.Provides o.settings o.image o.bound
  registry : ∀ id r, w.registries.get? id = some r → r.Equipped w.site.host

namespace Equipped

theorem init (site : Site) : Equipped { site } := ⟨fun _ _ => nofun, fun _ _ => nofun⟩

/-- Of openings and registries there is nothing new but how many striped buffers were placed, and
the devices that are locked keep their images. -/
theorem keep (h : w.Equipped) (ha : w.Accounted {directory} start)
    (ho : ∀ id o, w'.openings.get? id = some o → w.openings.get? id = some o)
    (hr : ∀ id r', w'.registries.get? id = some r' →
      ∃ r stripeSlot, w.registries.get? id = some r ∧ r' = { r with stripeSlot })
    (hi : ∀ (i : Nat) (d : Device), DeviceLock.place directory i ∈ w.site.held →
      w.site.host.devices[i]? = some d →
        ∃ d' : Device, w'.site.host.devices[i]? = some d' ∧ d'.resident = d.resident) :
    w'.Equipped where
  opening id o hid := by
    have hid := ho id o hid
    obtain rfl : o.settings.lockDirectory = directory := (ha.opening id o hid).named
    exact (h.opening id o hid).keep fun bound hm d hd =>
      hi bound.index d (ha.held_of_opening hid hm) hd
  registry id r' hid := by
    obtain ⟨r, stripeSlot, hr, rfl⟩ := hr id r' hid
    have he := h.registry id r hr
    refine Registry.Equipped.withSlot ⟨he.bank, he.provides.keep fun bound hm d hd => ?_⟩ _
    exact hi bound.index d (ha.locks_of_bound hr ⟨bound, hm, rfl⟩).2 hd

/-- As `keep`, where the devices that are locked stay as they are. -/
theorem spare (h : w.Equipped) (ha : w.Accounted {directory} start)
    (ho : ∀ id o, w'.openings.get? id = some o → w.openings.get? id = some o)
    (hr : w'.registries = w.registries) (hs : w.site.Spares directory w'.site) : w'.Equipped :=
  h.keep ha ho (fun _ r hid => ⟨r, r.stripeSlot, hr ▸ hid, rfl⟩)
    fun i d hi hd => ⟨d, (hs i hi).trans hd, rfl⟩

theorem begin (h : w.Equipped) (hb : o.bound = []) :
    Equipped { w with openings := (w.openings.insert o).2 } where
  opening id' o' hid := by
    rw [Store.get?_insert] at hid
    split at hid
    · cases hid
      rw [hb]
      exact .nil
    · exact h.opening id' o' hid
  registry := h.registry

theorem setOpening (h : w.Equipped) (hp : w.site.host.Provides o.settings o.image o.bound) :
    Equipped { w with openings := w.openings.set id o } where
  opening id' o' hid := by
    rw [Store.get?_set] at hid
    split at hid
    · obtain ⟨_, -, rfl⟩ := Option.map_eq_some_iff.mp hid
      exact hp
    · exact h.opening id' o' hid
  registry := h.registry

theorem addRegistry (h : w.Equipped) {r : Registry} (hr : r.Equipped w.site.host) :
    (w.addRegistry r).2.Equipped where
  opening := h.opening
  registry id' r' hid := by
    have hid : (w.registries.insert r).2.get? id' = some r' := hid
    rw [Store.get?_insert] at hid
    split at hid
    · cases hid
      exact hr
    · exact h.registry id' r' hid

theorem advance {result : Opened} (h : w.Equipped) (ha : w.Accounted {directory} start)
    (hid : w.openings.get? id = some o) (hc : Course w id n o result w') : w'.Equipped := by
  obtain rfl : o.settings.lockDirectory = directory := (ha.opening id o hid).named
  have hspares := hc.continued.spares
  have ho : o.Equipped w.site :=
    ⟨fun bound hm => ha.held_of_opening hid hm, h.opening id o hid⟩
  have herase := (Store.Loses.erase w.openings id).get?
  cases hc with
  | @ready o' r t u hb hp hf =>
    obtain ⟨hr, hhost⟩ := Opening.finish_registers hf
    have hkept : Equipped { w with site := u, openings := w.openings.erase id } :=
      h.spare ha herase rfl hspares
    refine hkept.addRegistry ⟨?_, ?_⟩
    · rw [hr.image]
      exact hr.bank
    · rw [hr.settings, hr.image, hr.devices, hhost]
      exact (ho.bindUpTo hb).provides
  | @waiting o' t hb =>
    have hkept : Equipped { w with site := t } := h.spare ha (fun _ _ hid => hid) rfl hspares
    exact hkept.setOpening (ho.bindUpTo hb).provides
  | unbound => exact h.spare ha herase rfl hspares
  | unfinished => exact h.spare ha herase rfl hspares

theorem opens {d : Option String} (h : w.Equipped) (ha : w.Accounted {directory} start)
    (hd : ∀ name ∈ d, name ∈ ({directory} : Set String)) (ho : Opens n d w w') : w'.Equipped := by
  induction ho with
  | reported hs => exact h.spare ha (fun _ _ hid => hid) rfl (.of_host hs.host)
  | @begun w settings o t hdir hs =>
    have hkept : Equipped { w with site := t } :=
      h.spare ha (fun _ _ hid => hid) rfl (.of_host (Opening.start_alike hs).host)
    exact hkept.begin (Opening.start_ok hs).2
  | advanced hn hid hc => exact h.advance ha hid hc
  | remembered slot => exact h.spare ha (fun _ _ hid => hid) rfl (.of_host rfl)
  | trans ho ho' ih ih' => exact ih' (ih h ha) (ha.opens hd ho)

theorem step (h : w.Equipped) (ha : w.Accounted {directory} start) (hu : deed.Uses directory)
    (hacts : w.Acts deed w') : w'.Equipped := by
  rcases hacts.opens_or_same with hopens | ⟨ho, hr⟩
  · exact h.opens ha hu.named hopens
  rcases hacts.opens_or_extends hu.leavesLocks hu.meddles with hopens | hextends
  · exact h.opens ha hu.named hopens
  refine h.keep ha (fun _ _ hid => ho ▸ hid) hr fun i d _ hd => ?_
  obtain ⟨d', hd', he⟩ := hextends i d hd
  exact ⟨d', hd', he.resident⟩

theorem acts (h : w.Equipped) (ha : w.Accounted {directory} start) {history : List Deed}
    (hu : ∀ deed ∈ history, deed.Uses directory) : (history.foldl World.act w).Equipped := by
  refine (acts_keep_of (P := fun w => w.Accounted {directory} start ∧ w.Equipped)
    (fun w deed hm h => ⟨?_, ?_⟩) ⟨ha, h⟩).2
  · exact h.1.step (hu deed hm).toCalls (w.acts deed)
  · exact h.2.step h.1 (hu deed hm) (w.acts deed)

end Equipped

variable {settings : Settings} {handle : Nat}

theorem equipped_of_openRegistry (h : w.openRegistry settings = (.ready handle, w')) :
    ∃ r, w'.registryOf? handle = some r ∧ r.settings = settings ∧
      w.site.host.openImage (settings.resolveFirmware w.site.files).1 = .ok r.image ∧
      r.Equipped w'.site.host := by
  obtain ⟨stop, t, -, hr, -⟩ | ⟨o, s, hs, hc⟩ := openRegistry_course h
  · cases hr
  · obtain ⟨-, -, hsettings, hbound, -, -, himage⟩ := (Opening.start_checks settings w.site).of_ok hs
    have ho : o.Equipped s := by
      refine ⟨fun bound hm => ?_, ?_⟩
      · rw [hbound] at hm
        cases hm
      · rw [hbound]
        exact .nil
    generalize hresult : Opened.ready handle = result at hc
    cases hc with
    | @ready o' r t u hb hp hf =>
      obtain rfl := Opened.ready.inj hresult
      obtain ⟨hr, hhost⟩ := Opening.finish_registers hf
      have hproceeds := Opening.bindUpTo_ok hb
      refine ⟨r, registryOf?_addRegistry _ r, ?_, ?_, ?_, ?_⟩
      · rw [hr.settings, hproceeds.settings, hsettings]
      · rw [hr.image, hproceeds.image]
        exact himage
      · rw [hr.image]
        exact hr.bank
      · rw [hr.settings, hr.image, hr.devices]
        have hprovides := (ho.bindUpTo hb).provides
        rwa [← hhost] at hprovides
    | waiting => cases hresult
    | unbound => cases hresult
    | unfinished => cases hresult

/-- A new registry has the first used bank of the image that its settings name, and so it has
after any history in which all locks are in one directory and devices are used through registries
alone. The devices that were loaded have this bank in use, and so have those that are
trusted and have the same bank at this place. Buffers that are alive lie in it. -/
theorem buffers_in_used_banks (directory : String) (site : Site) (history : List Deed)
    (hu : ∀ deed ∈ history, deed.Uses directory) :
    (∀ (v v' : World) settings handle, v.openRegistry settings = (.ready handle, v') →
      ∃ r, v'.registryOf? handle = some r ∧ r.settings = settings ∧
        v.site.host.openImage (settings.resolveFirmware v.site.files).1 = .ok r.image ∧
        r.Banked v'.site.host) ∧
    let w := history.foldl act { site }
    (∀ id r, w.registries.get? id = some r → r.Banked w.site.host) ∧
    ∀ id b, w.buffers.get? id = some b → ∃ (r : Registry) (d : Device) (resident : Image)
        (bank : Bank), w.registries.get? b.registry = some r ∧
      w.site.host.devices[b.device]? = some d ∧ d.resident = some resident ∧
      resident.banks[r.bank]? = some bank ∧ bank.base ≤ b.memory.address ∧
      b.memory.address + b.placement.physicalSize ≤ bank.base + bank.size ∧
      (r.settings.skipImageLoad = false ∨ resident.banks[r.bank]? = r.image.banks[r.bank]? →
        bank.used = true) := by
  refine ⟨fun v v' settings handle h => ?_, ?_⟩
  · obtain ⟨r, hr, hsettings, himage, he⟩ := equipped_of_openRegistry h
    exact ⟨r, hr, hsettings, himage, he.banked⟩
  · intro w
    have hseparate : w.Separate directory site := (Separate.init directory site).acts hu
    have he : w.Equipped := (Equipped.init site).acts (Accounted.init {directory} site) hu
    refine ⟨fun id r hr => (he.registry id r hr).banked, fun id b hid => ?_⟩
    obtain ⟨r, d, bank, hr, hd, hl⟩ := hseparate.lodged id b hid
    obtain ⟨resident, hresident, hbank⟩ := Option.bind_eq_some_iff.mp hl.found
    refine ⟨r, d, resident, bank, hr, hd, hresident, hbank, hl.base_le, hl.le_end, fun hcase => ?_⟩
    obtain ⟨bound, hm, hindex⟩ := hl.bound
    obtain ⟨d', resident', hd', hresident', hused⟩ := (he.registry _ r hr).banked.used bound hm
    rw [hindex, hd] at hd'
    cases hd'
    rw [hresident] at hresident'
    cases hresident'
    obtain ⟨bank', hbank', hused⟩ := hused hcase
    rw [hbank] at hbank'
    cases hbank'
    exact hused

/-- One buffer on a device whose image was loaded. -/
theorem buffers_in_used_banks_oneDevice :
    let history : List Deed :=
      [.openRegistry { firmware := some "a", lockDirectory := "/" }, .createBuffer 0 9 0 "dpu"]
    let w := history.foldl act { site := oneDevice.site }
    ∃ (b : Buffer) (r : Registry) (d : Device) (resident : Image) (bank : Bank),
      w.buffers.get? 0 = some b ∧ w.registries.get? b.registry = some r ∧
      w.site.host.devices[b.device]? = some d ∧ d.resident = some resident ∧
      resident.banks[r.bank]? = some bank ∧ bank.used = true := by
  intro history w
  have hsome : (w.buffers.get? 0).isSome := by decide +kernel
  have hloads : ∀ b ∈ w.buffers.get? 0, ∀ r ∈ w.registries.get? b.registry,
      r.settings.skipImageLoad = false := by
    decide +kernel
  have huses : ∀ deed ∈ history, deed.Uses "/" := by
    simp [history, Deed.uses_iff, Deed.calls_iff, Deed.directory?, Deed.LeavesLocks,
      Deed.Faithful, Deed.meddles]
  obtain ⟨-, -, hbuffers⟩ := buffers_in_used_banks "/" oneDevice.site history huses
  have hw : history.foldl act { site := oneDevice.site } = w := rfl
  rw [hw] at hbuffers
  -- from here on the world is only what is known of it
  clear_value w
  obtain ⟨b, hb⟩ := Option.isSome_iff_exists.mp hsome
  obtain ⟨r, d, resident, bank, hr, hd, hresident, hbank, -, -, hused⟩ := hbuffers 0 b hb
  exact ⟨b, r, d, resident, bank, hb, hr, hd, hresident, hbank,
    hused (Or.inl (hloads b hb r hr))⟩

/-- A device that is trusted may hold an image in which other banks are used than in the one that
the settings name. Then buffers go into a bank that is not. -/
theorem trusted_image_unused_bank :
    let configured : Image := {
      uuid := Image.sampleUuid, cores := ["dpu:one"], banks := Image.sampleBanks }
    let resident : Image := { configured with
      uuid := {}
      banks := [{ tag := "HBM[0]", used := true, base := 0x40000000, size := 0x10000000 },
        { tag := "DDR[0]", used := false, base := 0x60000000, size := 0x40000000 }] }
    let start : World := { site := {
      host := Host.addImage { devices := [{ resident := some resident }] } "/fw" configured } }
    let opened := start.openRegistry
      { firmware := some "/fw", skipImageLoad := true, lockDirectory := "/" }
    let made := (opened.2.createBuffer 0 64 0 "dpu").getD (.ok 0, opened.2)
    opened.1 = .ready 0 ∧ (opened.2.registryOf? 0).map (·.bank) = some 1 ∧
      made.1 = .ok 0 ∧ (made.2.site.host.devices[0]?).bind (·.resident) = some resident ∧
      (made.2.buffers.get? 0).map (·.memory.address) = some 0x60000000 ∧
      (resident.banks[1]?).map (·.used) = some false := by
  decide +kernel

end World

end Accelerator
