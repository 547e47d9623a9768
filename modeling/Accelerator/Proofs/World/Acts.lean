import Accelerator.Proofs.Buffer.Refinement
import Accelerator.Proofs.World.Effects
import Accelerator.Proofs.World.Lookup

/-! What a deed can do to a world. This is said once, for each kind of deed, and what holds after
any history of deeds is told from it. -/

namespace Accelerator

namespace World

/-- All that a deed can do to a world. -/
inductive Acts (w : World) : Deed → World → Prop
  | changes {deed : Deed} {w' : World} (hq : w.Quiet deed) (h : Changes deed w w') : Acts w deed w'
  | opens {deed : Deed} {w' : World} (hq : w.Quiet deed)
      (h : Opens (w.resumed deed) deed.directory? w w') : Acts w deed w'
  | gives {handle id : Nat} {r : Registry} (hh : w.handles.get? handle = some id)
      (hr : w.registries.get? id = some r) :
      Acts w (.nextStripeSlot handle)
        { w with registries := w.registries.set id r.nextStripeSlot.2 }
  | places {handle size device id : Nat} {unitName : String} {r : Registry} {t : Site}
      (hh : w.handles.get? handle = some id) (hr : w.registries.get? id = some r)
      (hu : ∃ u ∈ r.matching unitName, u.device = device) (ht : w.site.Grows t) :
      Acts w (.createBuffer handle size device unitName)
        { w with site := t, registries := w.registries.set id (r.slotFor size).2 }
  | makes {handle size device id : Nat} {unitName : String} {r : Registry} {t : Site}
      {b : Buffer} {d d' : Device} (hh : w.handles.get? handle = some id)
      (hr : w.registries.get? id = some r) (hu : ∃ u ∈ r.matching unitName, u.device = device)
      (hb : b.Made (r.slotFor size).2 (r.slotFor size).1 d d') (ht : w.site.Grows t)
      (hid : b.registry = id) (hdevice : b.device = device)
      (hd : w.site.host.devices[device]? = some d) (hd' : t.host.devices[device]? = some d') :
      Acts w (.createBuffer handle size device unitName)
        { w with
          site := t
          registries := w.registries.set id (r.slotFor size).2
          buffers := (w.buffers.insert b).2 }
  | accesses {id : Nat} {a : Access} {b : Buffer} {t : Site} (hb : w.buffers.get? id = some b)
      (ht : w.site.Grows t) :
      Acts w (.access id a) { w with site := t, buffers := w.buffers.set id (b.access a).2 }
  | writes {deed : Deed} {x : RegisterWrite} (hs : ∀ id, w.takesSlot id deed = false)
      (hx : w.write? deed = some x) :
      Acts w deed (w.setHost (w.site.host.writeRegister x.kernel x.offset x.value))
  | equips {handle id : Nat} {unitName : String} {r : Registry} {t : Site} {d : Dispatcher}
      (hh : w.handles.get? handle = some id) (hr : w.registries.get? id = some r)
      (hid : d.registry = id) (hn : d.unitName = unitName)
      (hu : d.instances.map (·.unit) = r.matching unitName) (ht : w.site.Grows t) :
      Acts w (.createDispatcher handle unitName)
        { w with site := t, dispatchers := (w.dispatchers.insert d).2 }
  | runs {id core : Nat} {populate : Populate} {d d' : Dispatcher} {t : Site}
      (hd : w.dispatchers.get? id = some d) (hr : d'.registry = d.registry)
      (hn : d'.unitName = d.unitName)
      (hu : d'.instances.map (·.unit) = d.instances.map (·.unit)) (ht : w.site.Grows t) :
      Acts w (.runDispatcher id core populate)
        { w with site := t, dispatchers := w.dispatchers.set id d' }

/-- A command is run by the settings of the registry of its dispatcher. -/
theorem runDispatcher_ok {w w' : World} {id core : Nat} {populate : Populate} {report : RunReport}
    (h : w.runDispatcher id core populate = some (report, w')) :
    ∃ d r d' t, w.dispatchers.get? id = some d ∧ w.registries.get? d.registry = some r ∧
      d.run r.settings (w.clockFor r.settings) core populate w.site = (report, d', t) ∧
      w' = { w with site := t, dispatchers := w.dispatchers.set id d' } := by
  unfold World.runDispatcher runOnDispatcher at h
  obtain ⟨d, hd, h⟩ := Option.bind_eq_some_iff.mp h
  obtain ⟨⟨report', d', v⟩, hrun, h⟩ := Option.bind_eq_some_iff.mp h
  obtain ⟨r, hr, hrun⟩ := Option.map_eq_some_iff.mp hrun
  cases h
  cases hrun
  exact ⟨d, r, _, _, hd, hr, rfl, rfl⟩

namespace Acts

variable {w : World}

theorem nextStripeSlot (w : World) (handle : Nat) :
    w.Acts (.nextStripeSlot handle) (w.act (.nextStripeSlot handle)) := by
  rcases hof : w.registryOf? handle with _ | r
  · have hsame : w.act (.nextStripeSlot handle) = w := by
      simp only [act, World.nextStripeSlot, hof, Option.map_none, Option.getD_none]
    rw [hsame]
    refine changes ⟨fun id => ?_, rfl⟩ (.refl w)
    simp only [takesSlot, decide_eq_false_iff_not, not_and]
    intro hh
    rw [registryOf?, hh, Option.bind_some] at hof
    simp [hof]
  · obtain ⟨id, hh, hr⟩ := Option.bind_eq_some_iff.mp hof
    have hact : w.act (.nextStripeSlot handle) =
        { w with registries := w.registries.set id r.nextStripeSlot.2 } := by
      simp only [act, World.nextStripeSlot, hof, Option.map_some, Option.getD_some, setRegistryOf,
        hh]
    rw [hact]
    exact gives hh hr

theorem createBuffer (w : World) (handle size device : Nat) (unitName : String) :
    w.Acts (.createBuffer handle size device unitName)
      (w.act (.createBuffer handle size device unitName)) := by
  have hquiet (h : ∀ id r, w.handles.get? handle = some id → w.registries.get? id = some r →
      ¬ ∃ u ∈ r.matching unitName, u.device = device) :
      w.Quiet (.createBuffer handle size device unitName) := by
    refine ⟨fun id => ?_, rfl⟩
    simp only [takesSlot, decide_eq_false_iff_not, not_and]
    rintro hh ⟨r, hr, -, hu⟩
    exact h id r hh hr hu
  rcases hh : w.handles.get? handle with _ | id
  · have hsame : w.act (.createBuffer handle size device unitName) = w := by
      simp [act, World.createBuffer, hh]
    rw [hsame]
    exact changes (hquiet (by simp [hh])) (.refl w)
  · rcases hr : w.registries.get? id with _ | r
    · have hsame : w.act (.createBuffer handle size device unitName) = w := by
        simp [act, World.createBuffer, hh, hr]
      rw [hsame]
      refine changes (hquiet ?_) (.refl w)
      rintro id' r' hh' hr'
      obtain rfl := Option.some.inj (hh.symm.trans hh')
      cases hr.symm.trans hr'
    · obtain ⟨answer, w', hw, hasked⟩ := createBuffer_asked hh hr size device unitName
      have hgrows := (r.slotFor size).2.fillBuffer_grows id size device (r.slotFor size).1 unitName
        w.site
      simp only [act, hw, Option.map_some, Option.getD_some]
      cases hasked with
      | missing hu =>
        refine changes (hquiet ?_) (.of_alike (Site.Alike.emit _ _))
        rintro id' r' hh' hr'
        obtain rfl := Option.some.inj (hh.symm.trans hh')
        obtain rfl := Option.some.inj (hr.symm.trans hr')
        exact hu
      | refused hu hb =>
        rw [hb] at hgrows
        exact places hh hr hu hgrows
      | made hu hb =>
        rw [hb] at hgrows
        obtain ⟨d, d', hd, hmade, -, hdevices, hid, -, hdevice, -⟩ := Registry.fillBuffer_ok hb
        refine makes hh hr hu hmade hgrows hid hdevice hd ?_
        rw [hdevices, List.getElem?_set_self (List.getElem?_eq_some_iff.mp hd).1]

theorem writeUnit (w : World) (handle : Nat) (unitName : String) (index : Nat)
    (offset value : UInt32) : w.Acts (.writeUnit handle unitName index offset value)
      (w.act (.writeUnit handle unitName index offset value)) := by
  simp only [act, registryOf?]
  rcases hh : w.handles.get? handle with _ | id
  · exact changes ⟨fun _ => rfl, by simp [write?, hh]⟩ (.refl w)
  · simp only [Option.bind_some]
    rcases hr : w.registries.get? id with _ | r
    · exact changes ⟨fun _ => rfl, by simp [write?, hh, hr]⟩ (.refl w)
    · simp only [Option.map_some, Option.getD_some, World.perform, r.run_writeRegister]
      rcases hu : (r.matching unitName)[index]? with _ | u
      · exact changes ⟨fun _ => rfl, by simp [write?, hh, hr, hu]⟩
          (.of_alike (Site.Alike.emit _ _))
      · have hx : w.write? (.writeUnit handle unitName index offset value) =
            some ⟨some id, u.fullName, u.kernel, offset, value⟩ := by
          simp [write?, hh, hr, hu]
        exact writes (fun _ => rfl) hx

theorem writeInstance (w : World) (id index : Nat) (offset value : UInt32) :
    w.Acts (.writeInstance id index offset value)
      (w.act (.writeInstance id index offset value)) := by
  simp only [act]
  rcases hd : w.dispatchers.get? id with _ | d
  · exact changes ⟨fun _ => rfl, by simp [write?, hd]⟩ (.refl w)
  · simp only [Option.map_some, Option.getD_some, Dispatcher.writeRegister, Dispatcher.unit]
    rcases hi : d.instances[index]? with _ | i
    · exact changes ⟨fun _ => rfl, by simp [write?, hd, hi]⟩ (.refl w)
    · have hx : w.write? (.writeInstance id index offset value) =
          some ⟨some d.registry, i.unit.fullName, i.unit.kernel, offset, value⟩ := by
        simp [write?, hd, hi]
      exact writes (fun _ => rfl) hx

theorem writeKernel (w : World) (kernel : Kernel) (offset value : UInt32) :
    w.Acts (.writeKernel kernel offset value) (w.act (.writeKernel kernel offset value)) := by
  by_cases hk : w.site.host.Knows kernel
  · have hx : w.write? (.writeKernel kernel offset value) =
        some ⟨none, kernel.name, kernel, offset, value⟩ := if_pos hk
    simp only [act, if_pos hk]
    exact writes (fun _ => rfl) hx
  · simp only [act, if_neg hk]
    exact changes ⟨fun _ => rfl, if_neg hk⟩ (.refl w)

theorem transfer (w : World) (id : Nat) {a : Access} {f : Buffer → Except DeviceError Transfer}
    (ha : ∀ b : Buffer, b.access a = b.settle (f b)) :
    w.Acts (.access id a) (((w.transfer id f).map (·.2)).getD w) := by
  rcases hb : w.buffers.get? id with _ | b
  · simp only [World.transfer, hb, Option.map_none, Option.getD_none]
    exact changes ⟨fun _ => rfl, rfl⟩ (.refl w)
  · obtain ⟨answer, t, htransfer, -, ht⟩ := transfer_settles hb f
    rw [htransfer, ← ha]
    exact accesses hb ht

theorem access (w : World) (id : Nat) (a : Access) :
    w.Acts (.access id a) (w.act (.access id a)) := by
  cases a with
  | copyFromHost src offset => exact transfer w id fun _ => rfl
  | copyToHost size offset => exact transfer w id fun _ => rfl
  | syncForRead offset size => exact transfer w id fun _ => rfl
  | syncForWrite offset size => exact transfer w id fun _ => rfl
  | writeHost src offset =>
    simp only [act, World.access]
    rcases hb : w.buffers.get? id with _ | b
    · exact changes ⟨fun _ => rfl, rfl⟩ (.refl w)
    · exact accesses hb (Site.lasting_grows.refl w.site)

theorem createDispatcher (w : World) (handle : Nat) (unitName : String) :
    w.Acts (.createDispatcher handle unitName) (w.act (.createDispatcher handle unitName)) := by
  rcases hc : w.createDispatcher handle unitName with _ | ⟨answer, w'⟩
  · simp only [act, hc]
    exact changes ⟨fun _ => rfl, rfl⟩ (.refl w)
  · obtain ⟨id, r, d, t, hh, hr, hd, -, rfl⟩ := createDispatcher_ok hc
    obtain ⟨hn, hu⟩ := Dispatcher.units_of_create hd
    have halike := (Dispatcher.inspects_create (ε := DispatchError) r id unitName).alike w.site
    rw [hd] at halike
    simp only [act, hc]
    exact equips hh hr (Dispatcher.registry_of_create hd) hn hu (.of_alike halike)

theorem runDispatcher (w : World) (id core : Nat) (populate : Populate) :
    w.Acts (.runDispatcher id core populate) (w.act (.runDispatcher id core populate)) := by
  rcases hc : w.runDispatcher id core populate with _ | ⟨report, w'⟩
  · simp only [act, hc]
    exact changes ⟨fun _ => rfl, rfl⟩ (.refl w)
  · obtain ⟨d, r, d', t, hd, -, hrun, rfl⟩ := runDispatcher_ok hc
    obtain ⟨_, _, _, hgrows, ht, hr, hn, hu⟩ :=
      d.run_grows r.settings (w.clockFor r.settings) core populate w.site
    cases hrun.symm.trans hgrows
    simp only [act, hc]
    exact runs hd hr hn hu ht

end Acts

theorem acts (w : World) (deed : Deed) : w.Acts deed (w.act deed) := by
  cases deed with
  | openRegistry settings => exact .opens ⟨fun _ => rfl, rfl⟩ (.openRegistry w settings)
  | beginOpening settings => exact .opens ⟨fun _ => rfl, rfl⟩ (.beginOpening w settings)
  | continueOpening id n => exact .opens ⟨fun _ => rfl, rfl⟩ (.continueOpening w id n)
  | openShared environment =>
    rcases w.openShared_cases environment with ⟨registry, r, hr, he⟩ | h
    · rw [act, he]
      exact .changes ⟨fun _ => rfl, rfl⟩ (.addHandle hr)
    · exact .opens ⟨fun _ => rfl, rfl⟩ h
  | shareRegistry registry => exact .changes ⟨fun _ => rfl, rfl⟩ (.shareRegistry w registry)
  | dropHandle handle => exact .changes ⟨fun _ => rfl, rfl⟩ (.dropHandle w handle)
  | nextStripeSlot handle => exact Acts.nextStripeSlot w handle
  | writeUnit handle unitName index offset value =>
    exact Acts.writeUnit w handle unitName index offset value
  | createBuffer handle size device unitName =>
    exact Acts.createBuffer w handle size device unitName
  | access id a => exact Acts.access w id a
  | dropBuffer id => exact .changes ⟨fun _ => rfl, rfl⟩ (.dropBuffer w id)
  | createDispatcher handle unitName => exact Acts.createDispatcher w handle unitName
  | writeInstance id index offset value => exact Acts.writeInstance w id index offset value
  | runDispatcher id core populate => exact Acts.runDispatcher w id core populate
  | dropDispatcher id => exact .changes ⟨fun _ => rfl, rfl⟩ (.dropDispatcher w id)
  | registerFactory kernelPrefix factory => exact .changes ⟨fun _ => rfl, rfl⟩ (.registers rfl)
  | createController handle => exact .changes ⟨fun _ => rfl, rfl⟩ (.createController w handle)
  | runController id core populate =>
    exact .changes ⟨fun _ => rfl, rfl⟩ (.runController w id core populate)
  | dropController id => exact .changes ⟨fun _ => rfl, rfl⟩ (.dropController w id)
  | lock directory device again => exact .changes ⟨fun _ => rfl, rfl⟩ (.lock rfl w device again)
  | tryLock directory device => exact .changes ⟨fun _ => rfl, rfl⟩ (.tryLock rfl w device)
  | unlock id => exact .changes ⟨fun _ => rfl, rfl⟩ (.unlock w id)
  | installDriver d => exact .changes ⟨fun _ => rfl, rfl⟩ (.installDriver w d)
  | writeKernel kernel offset value => exact Acts.writeKernel w kernel offset value
  | loadImage device image => exact .changes ⟨fun _ => rfl, rfl⟩ (.loadImage w device image)
  | changeDevice device change => exact .changes ⟨fun _ => rfl, rfl⟩ (.changeDevice w device change)
  | elsewhere change => exact .changes ⟨fun _ => rfl, rfl⟩ (.elsewhere w change)

variable {w w' : World} {deed : Deed} {id : Nat}

/-- The host gets older, and then the deed writes its register, if it has one to write. -/
theorem Acts.host (h : w.Acts deed w') : ∃ host, w.site.host.Ages host ∧
    w'.site.host = (w.write? deed).elim host fun x =>
      host.writeRegister x.kernel x.offset x.value := by
  have haged {t : Site} (hq : w.write? deed = none) (ht : w.site.Ages t) :
      ∃ host, w.site.host.Ages host ∧ t.host = (w.write? deed).elim host fun x =>
        host.writeRegister x.kernel x.offset x.value := ⟨t.host, ht, by rw [hq]; rfl⟩
  cases h with
  | changes hq h => exact haged hq.writes h.loses.site
  | opens hq h => exact haged hq.writes h.ages
  | gives hh hr => exact haged rfl (Host.Ages.refl _)
  | places hh hr hu ht => exact haged rfl ht.ages
  | makes hh hr hu hb ht => exact haged rfl ht.ages
  | accesses hb ht => exact haged rfl ht.ages
  | writes hs hx => exact ⟨w.site.host, Host.Ages.refl _, by rw [hx]; rfl⟩
  | equips hh hr hid hn hu ht => exact haged rfl ht.ages
  | runs hd hr hn hu ht => exact haged rfl ht.ages

theorem Acts.later (h : w.Acts deed w') : w.site.host.Later w'.site.host := by
  obtain ⟨host, ha, he⟩ := h.host
  rw [he]
  cases w.write? deed with
  | none => exact ha.later
  | some x => exact ha.later

theorem Acts.fingerprints (h : w.Acts deed w') :
    w'.site.host.fingerprints = w.site.host.fingerprints := by
  obtain ⟨host, ha, he⟩ := h.host
  rw [he]
  cases w.write? deed with
  | none => exact ha.fingerprints
  | some x => exact ha.fingerprints

theorem Acts.deviceCount (h : w.Acts deed w') :
    w'.site.host.deviceCount = w.site.host.deviceCount := by
  obtain ⟨host, ha, he⟩ := h.host
  rw [he]
  cases w.write? deed with
  | none => exact ha.count
  | some x => exact ha.count

theorem exists_of_takesSlot (h : w.takesSlot id deed = true) :
    ∃ r, w.registries.get? id = some r := by
  cases deed with
  | nextStripeSlot handle =>
    simp only [takesSlot, decide_eq_true_eq] at h
    exact Option.isSome_iff_exists.mp h.2
  | createBuffer handle size device unitName =>
    simp only [takesSlot, decide_eq_true_eq] at h
    obtain ⟨-, r, hr, -⟩ := h
    exact ⟨r, hr⟩
  | _ => cases h

theorem takesSlot_nextStripeSlot {handle : Nat} (hh : w.handles.get? handle = some id)
    (hr : w.registries.get? id = some r) (other : Nat) :
    w.takesSlot other (.nextStripeSlot handle) = true ↔ id = other := by
  simp only [takesSlot, decide_eq_true_eq, hh, Option.some.injEq]
  constructor
  · exact fun h => h.1
  · rintro rfl
    simp [hr]

theorem takesSlot_createBuffer {handle size device : Nat} {unitName : String}
    (hh : w.handles.get? handle = some id) (hr : w.registries.get? id = some r)
    (hu : ∃ u ∈ r.matching unitName, u.device = device) (other : Nat) :
    w.takesSlot other (.createBuffer handle size device unitName) = true ↔
      id = other ∧ r.settings.striping.appliesTo size = true := by
  simp only [takesSlot, decide_eq_true_eq, hh, Option.some.injEq]
  constructor
  · rintro ⟨rfl, r', hr', ha, -⟩
    obtain rfl := Option.some.inj (hr.symm.trans hr')
    exact ⟨rfl, ha⟩
  · rintro ⟨rfl, ha⟩
    exact ⟨rfl, r, hr, ha, hu⟩

theorem slotFor_of_createBuffer {handle size device : Nat} {unitName : String}
    (hh : w.handles.get? handle = some id) (hr : w.registries.get? id = some r)
    (hu : ∃ u ∈ r.matching unitName, u.device = device) :
    (r.slotFor size).2 = if w.takesSlot id (.createBuffer handle size device unitName) = true then
      r.nextStripeSlot.2 else r := by
  rw [Registry.slotFor]
  by_cases ha : r.settings.striping.appliesTo size = true
  · rw [if_pos ha, if_pos ((takesSlot_createBuffer hh hr hu id).mpr ⟨rfl, ha⟩)]
  · rw [if_neg ha, if_neg fun h => ha ((takesSlot_createBuffer hh hr hu id).mp h).2]

/-- Registries are opened, or they are as they were, but for the numbers that the deed takes. -/
theorem Acts.registries (h : w.Acts deed w') :
    (∀ id, w.takesSlot id deed = false) ∧ Opens (w.resumed deed) deed.directory? w w' ∨
      w'.openings = w.openings ∧ w'.registries.next = w.registries.next ∧
        ∀ id r', w'.registries.get? id = some r' → ∃ r, w.registries.get? id = some r ∧
          r' = if w.takesSlot id deed = true then r.nextStripeSlot.2 else r := by
  have hsame (hq : ∀ id, w.takesSlot id deed = false) {s : Store Registry}
      (h : w.registries.Loses s) : s.next = w.registries.next ∧
        ∀ id r', s.get? id = some r' → ∃ r, w.registries.get? id = some r ∧
          r' = if w.takesSlot id deed = true then r.nextStripeSlot.2 else r := by
    refine ⟨h.next, fun id r hr => ⟨r, h.get? id r hr, ?_⟩⟩
    rw [hq, if_neg Bool.false_ne_true]
  -- where one registry is set, it is the one that the number is taken from, if one is taken
  have hset {id : Nat} {r r' : Registry} (hr : w.registries.get? id = some r)
      (hself : r' = if w.takesSlot id deed = true then r.nextStripeSlot.2 else r)
      (hother : ∀ other, w.takesSlot other deed = true → id = other) :
      (w.registries.set id r').next = w.registries.next ∧
        ∀ i r₁, (w.registries.set id r').get? i = some r₁ →
          ∃ r₀, w.registries.get? i = some r₀ ∧
            r₁ = if w.takesSlot i deed = true then r₀.nextStripeSlot.2 else r₀ := by
    refine ⟨rfl, fun i r₁ hr₁ => ?_⟩
    rw [Store.get?_set] at hr₁
    by_cases he : id = i
    · subst he
      rw [if_pos rfl, hr, Option.map_some] at hr₁
      cases hr₁
      exact ⟨r, hr, hself⟩
    · rw [if_neg he] at hr₁
      refine ⟨r₁, hr₁, ?_⟩
      rw [if_neg fun h => he (hother i h)]
  cases h with
  | changes hq h => exact Or.inr ⟨h.loses.openings, hsame hq.slots h.loses.registries⟩
  | opens hq h => exact Or.inl ⟨hq.slots, h⟩
  | gives hh hr =>
    have ht := takesSlot_nextStripeSlot hh hr
    exact Or.inr ⟨rfl, hset hr (by rw [if_pos ((ht _).mpr rfl)]) fun other => (ht other).mp⟩
  | places hh hr hu ht =>
    exact Or.inr ⟨rfl, hset hr (slotFor_of_createBuffer hh hr hu) fun other h =>
      ((takesSlot_createBuffer hh hr hu other).mp h).1⟩
  | makes hh hr hu hb ht =>
    exact Or.inr ⟨rfl, hset hr (slotFor_of_createBuffer hh hr hu) fun other h =>
      ((takesSlot_createBuffer hh hr hu other).mp h).1⟩
  | accesses hb ht => exact Or.inr ⟨rfl, hsame (fun _ => rfl) (.of_eq rfl)⟩
  | writes hs hx => exact Or.inr ⟨rfl, hsame hs (.of_eq rfl)⟩
  | equips hh hr hid hn hu ht => exact Or.inr ⟨rfl, hsame (fun _ => rfl) (.of_eq rfl)⟩
  | runs hd hr hn hu ht => exact Or.inr ⟨rfl, hsame (fun _ => rfl) (.of_eq rfl)⟩

theorem Acts.opens_or_same (h : w.Acts deed w') : Opens (w.resumed deed) deed.directory? w w' ∨
    w'.openings = w.openings ∧ ∀ id r', w'.registries.get? id = some r' →
      ∃ r stripeSlot, w.registries.get? id = some r ∧ r' = { r with stripeSlot } := by
  rcases h.registries with ⟨-, hopens⟩ | ⟨ho, -, hsame⟩
  · exact Or.inl hopens
  · refine Or.inr ⟨ho, fun id r' hr' => ?_⟩
    obtain ⟨r, hr, rfl⟩ := hsame id r' hr'
    by_cases ht : w.takesSlot id deed = true
    · exact ⟨r, _, hr, if_pos ht⟩
    · exact ⟨r, r.stripeSlot, hr, if_neg ht⟩

/-- Where no registry is opened, and no device is changed behind its lock, devices only fill up. -/
theorem Acts.opens_or_extends (h : w.Acts deed w') (hl : deed.LeavesLocks)
    (hm : deed.meddles = false) :
    Opens (w.resumed deed) deed.directory? w w' ∨ w.site.host.Extends w'.site.host := by
  cases h with
  | changes hq h => exact Or.inr (h.extends hl hm)
  | opens hq h => exact Or.inl h
  | gives hh hr => exact Or.inr (.of_eq rfl)
  | places hh hr hu ht => exact Or.inr ht.devices
  | makes hh hr hu hb ht => exact Or.inr ht.devices
  | accesses hb ht => exact Or.inr ht.devices
  | writes hs hx => exact Or.inr (.of_eq rfl)
  | equips hh hr hid hn hu ht => exact Or.inr ht.devices
  | runs hd hr hn hu ht => exact Or.inr ht.devices

/-- A registry that something still refers to stays open, and at most counts its buffers. -/
theorem Acts.registry_of_reference (h : w.Acts deed w') (hid : id ∈ w'.references) {r : Registry}
    (hr : w.registries.get? id = some r) :
    ∃ stripeSlot, w'.registries.get? id = some { r with stripeSlot } := by
  have hset {i : Nat} {r₀ r₁ : Registry} (hr₀ : w.registries.get? i = some r₀)
      (hself : ∃ stripeSlot, r₁ = { r₀ with stripeSlot }) : ∃ stripeSlot,
        (w.registries.set i r₁).get? id = some { r with stripeSlot } := by
    obtain ⟨stripeSlot, rfl⟩ := hself
    rw [Store.get?_set]
    by_cases he : i = id
    · subst he
      obtain rfl := Option.some.inj (hr₀.symm.trans hr)
      exact ⟨stripeSlot, by rw [if_pos rfl, hr, Option.map_some]⟩
    · exact ⟨r.stripeSlot, by rw [if_neg he, hr]⟩
  cases h with
  | changes hq h => exact ⟨r.stripeSlot, h.loses.backed id hid r hr⟩
  | opens hq h => exact ⟨r.stripeSlot, h.get?_registry hr⟩
  | gives hh hr₀ => exact hset hr₀ ⟨_, rfl⟩
  | places hh hr₀ hu ht => exact hset hr₀ (Registry.slotFor_eq _ _)
  | makes hh hr₀ hu hb ht => exact hset hr₀ (Registry.slotFor_eq _ _)
  | accesses hb ht => exact ⟨r.stripeSlot, hr⟩
  | writes hs hx => exact ⟨r.stripeSlot, hr⟩
  | equips hh hr₀ hid hn hu ht => exact ⟨r.stripeSlot, hr⟩
  | runs hd₀ hr₀ hn hu ht => exact ⟨r.stripeSlot, hr⟩

theorem Acts.registries_next_le (h : w.Acts deed w') :
    w.registries.next ≤ w'.registries.next := by
  rcases h.registries with ⟨-, hopens⟩ | ⟨-, hnext, -⟩
  · exact hopens.frame.registries
  · exact Nat.le_of_eq hnext.symm

theorem Acts.dispatcher {d : Dispatcher} (h : w.Acts deed w')
    (hid : w'.dispatchers.get? id = some d) :
    (∃ d₀, w.dispatchers.get? id = some d₀ ∧ d.registry = d₀.registry ∧ d.unitName = d₀.unitName ∧
        d.instances.map (·.unit) = d₀.instances.map (·.unit)) ∨
      ∃ r, w.registries.get? d.registry = some r ∧
        d.instances.map (·.unit) = r.matching d.unitName := by
  have hkeep (h : w.dispatchers.get? id = some d) :
      (∃ d₀, w.dispatchers.get? id = some d₀ ∧ d.registry = d₀.registry ∧
          d.unitName = d₀.unitName ∧ d.instances.map (·.unit) = d₀.instances.map (·.unit)) ∨
        ∃ r, w.registries.get? d.registry = some r ∧
          d.instances.map (·.unit) = r.matching d.unitName := Or.inl ⟨d, h, rfl, rfl, rfl⟩
  cases h with
  | changes hq h => exact hkeep (h.loses.dispatchers.get? id d hid)
  | opens hq h => exact hkeep (h.frame.dispatchers ▸ hid)
  | gives hh hr => exact hkeep hid
  | places hh hr hu ht => exact hkeep hid
  | makes hh hr hu hb ht => exact hkeep hid
  | accesses hb ht => exact hkeep hid
  | writes hs hx => exact hkeep hid
  | @equips _ _ _ r _ d' hh hr hregistry hn hu ht =>
    rw [Store.get?_insert] at hid
    split at hid
    · cases hid
      exact Or.inr ⟨r, hregistry ▸ hr, hn ▸ hu⟩
    · exact hkeep hid
  | @runs id' _ _ d₀ d' _ hd hr hn hu ht =>
    rw [Store.get?_set] at hid
    split at hid
    · next he =>
      subst he
      rw [hd] at hid
      cases hid
      exact Or.inl ⟨d₀, hd, hr, hn, hu⟩
    · exact hkeep hid

/-- A buffer was there before, has been accessed since, or is as it was made. -/
theorem Acts.buffer {b : Buffer} (h : w.Acts deed w')
    (hid : w'.buffers.get? id = some b) :
    (∃ b₀, w.buffers.get? id = some b₀ ∧ (b = b₀ ∨ ∃ a, b = (b₀.access a).2)) ∨
      ∃ r slot d d', b.Made r slot d d' := by
  have hkeep (h : w.buffers.get? id = some b) :
      (∃ b₀, w.buffers.get? id = some b₀ ∧ (b = b₀ ∨ ∃ a, b = (b₀.access a).2)) ∨
        ∃ r slot d d', b.Made r slot d d' := Or.inl ⟨b, h, Or.inl rfl⟩
  cases h with
  | changes hq h => exact hkeep (h.loses.buffers.get? id b hid)
  | opens hq h => exact hkeep (h.frame.buffers ▸ hid)
  | makes hh hr hu hb ht =>
    rw [Store.get?_insert] at hid
    split at hid
    · cases hid
      exact Or.inr ⟨_, _, _, _, hb⟩
    · exact hkeep hid
  | @accesses id' a b' t hb ht =>
    rw [Store.get?_set] at hid
    split at hid
    · next he =>
      subst he
      obtain ⟨_, -, rfl⟩ := Option.map_eq_some_iff.mp hid
      exact Or.inl ⟨b', hb, Or.inr ⟨a, rfl⟩⟩
    · exact hkeep hid
  | gives hh hr => exact hkeep hid
  | places hh hr hu ht => exact hkeep hid
  | writes hs hx => exact hkeep hid
  | equips hh hr hid' hn hu ht => exact hkeep hid
  | runs hd hr hn hu ht => exact hkeep hid

theorem write?_cases {x : RegisterWrite} (hx : w.write? deed = some x) :
    (∃ id r e, x.registry = some id ∧ w.registries.get? id = some r ∧ e ∈ r.units ∧
        x.fullName = e.2.fullName ∧ x.kernel = e.2.kernel) ∨
      (∃ id d u, x.registry = some d.registry ∧ w.dispatchers.get? id = some d ∧
        u ∈ d.instances.map (·.unit) ∧ x.fullName = u.fullName ∧ x.kernel = u.kernel) ∨
      x.registry = none ∧ w.site.host.Knows x.kernel := by
  cases deed with
  | writeUnit handle unitName index offset value =>
    obtain ⟨id, -, hx⟩ := Option.bind_eq_some_iff.mp hx
    obtain ⟨r, hr, hx⟩ := Option.bind_eq_some_iff.mp hx
    obtain ⟨u, hu, hx⟩ := Option.bind_eq_some_iff.mp hx
    cases hx
    obtain ⟨e, hm, rfl⟩ := Registry.mem_units_of_matching (List.mem_of_getElem? hu)
    exact Or.inl ⟨id, r, e, rfl, hr, hm, rfl, rfl⟩
  | writeInstance id index offset value =>
    obtain ⟨d, hd, hx⟩ := Option.bind_eq_some_iff.mp hx
    obtain ⟨i, hi, hx⟩ := Option.bind_eq_some_iff.mp hx
    cases hx
    have hm := List.mem_map_of_mem (f := (·.unit)) (List.mem_of_getElem? hi)
    exact Or.inr (Or.inl ⟨id, d, i.unit, rfl, hd, hm, rfl, rfl⟩)
  | writeKernel kernel offset value =>
    simp only [write?] at hx
    split at hx
    · next hk =>
      cases hx
      exact Or.inr (Or.inr ⟨rfl, hk⟩)
    · cases hx
  | _ => cases hx

end World

end Accelerator
