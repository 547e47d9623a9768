import Accelerator.Proofs.World.Acts

/-! The books of a world. Every lock that was taken has one holder, which is a lock by itself or a
device that is bound, by a registry or by one in the making, and every registry lives as long as
something refers to it. -/

namespace Accelerator

namespace World

/-- The lock files of all that has locks, once for each lock and for each bound device. -/
def holdings (w : World) : List Location :=
  w.locks.values.map (·.file) ++ w.registries.values.flatMap Registry.lockFiles ++
    w.openings.values.flatMap Opening.lockFiles

theorem mem_holdings_iff {w : World} {f : Location} : f ∈ w.holdings ↔
    (∃ id l, w.locks.get? id = some l ∧ l.file = f) ∨
      (∃ id r, w.registries.get? id = some r ∧ f ∈ r.lockFiles) ∨
        ∃ id o, w.openings.get? id = some o ∧ f ∈ o.lockFiles := by
  simp only [holdings, List.mem_append, List.mem_map, List.mem_flatMap, Store.mem_values_iff,
    or_assoc]
  refine or_congr ?_ (or_congr ?_ ?_) <;>
    exact ⟨fun ⟨a, ⟨id, hid⟩, hf⟩ => ⟨id, a, hid, hf⟩, fun ⟨id, a, hid, hf⟩ => ⟨a, ⟨id, hid⟩, hf⟩⟩

/-- What is held was held before, or is a holding, and none is held twice. -/
structure Balanced (before : List Location) (w : World) : Prop where
  held : w.site.held.Perm (w.holdings ++ before)
  nodup : w.holdings.Nodup
  apart : ∀ f ∈ w.holdings, f ∉ before

namespace Balanced

variable {before : List Location} {w w' : World}

theorem keep (h : w.Balanced before) (hs : w'.site.held = w.site.held)
    (hp : w'.holdings.Perm w.holdings) : w'.Balanced before where
  held := hs ▸ h.held.trans (hp.symm.append_right before)
  nodup := hp.nodup_iff.mpr h.nodup
  apart := fun f hf => h.apart f (hp.mem_iff.mp hf)

theorem mem_held (h : w.Balanced before) {f : Location} (hf : f ∈ w.holdings) : f ∈ w.site.held :=
  h.held.mem_iff.mpr (List.mem_append_left before hf)

/-- What is taken was free, so it is new to the holdings. -/
theorem take (h : w.Balanced before) (files : List Location)
    (hs : w'.site.held.Perm (files ++ w.site.held)) (hp : w'.holdings.Perm (files ++ w.holdings))
    (hn : files.Nodup) (hfree : ∀ f ∈ files, f ∉ w.site.held) : w'.Balanced before where
  held := by
    refine hs.trans ((h.held.append_left files).trans ?_)
    rw [← List.append_assoc]
    exact hp.symm.append_right before
  nodup := by
    rw [hp.nodup_iff, List.nodup_append']
    exact ⟨hn, h.nodup, fun f hf hm => hfree f hf (h.mem_held hm)⟩
  apart := by
    intro f hf hb
    rcases List.mem_append.mp (hp.mem_iff.mp hf) with hf | hf
    · exact hfree f hf (h.held.mem_iff.mpr (List.mem_append_right _ hb))
    · exact h.apart f hf hb

theorem giveBack (h : w.Balanced before) (files : List Location)
    (hs : w'.site.held = w.site.held.diff files) (hp : w.holdings.Perm (files ++ w'.holdings)) :
    w'.Balanced before where
  held := by
    have hall := (h.held.trans (hp.append_right before)).diff_right files
    rw [List.append_assoc, append_diff_self] at hall
    exact hs ▸ hall
  nodup := (List.nodup_append'.mp (hp.nodup_iff.mp h.nodup)).2.1
  apart := fun f hf => h.apart f (hp.mem_iff.mpr (List.mem_append_right files hf))

end Balanced

/-- Each of the devices has its own lock, under the name of one of these directories. -/
structure Bound (names : Set String) (tree : Files) (directory : String)
    (devices : List BoundDevice) : Prop where
  named : directory ∈ names
  lock : ∀ bound ∈ devices, bound.lock = DeviceLock.forDevice directory bound.index ∧
    tree.Accepts bound.lock.path

theorem Bound.file_eq {names : Set String} {tree : Files} {directory : String}
    {devices : List BoundDevice} {bound : BoundDevice} (h : Bound names tree directory devices)
    (hm : bound ∈ devices) : bound.lock.file = DeviceLock.place directory bound.index := by
  rw [(h.lock bound hm).1]
  rfl

/-- All that is taken is held by what lives or is in the making, under the names of these
directories, and what lives is what is referred to. -/
structure Accounted (names : Set String) (start : Site) (w : World) : Prop where
  balanced : w.Balanced start.held
  files : start.files.SameDirectories w.site.files
  lock : ∀ id l, w.locks.get? id = some l → ∃ directory ∈ names, ∃ device,
    l = DeviceLock.forDevice directory device ∧ start.files.Accepts l.path
  registry : ∀ id r, w.registries.get? id = some r →
    Bound names start.files r.settings.lockDirectory r.devices
  opening : ∀ id o, w.openings.get? id = some o →
    Bound names start.files o.settings.lockDirectory o.bound
  referred : ∀ id, id ∈ w.references ↔ ∃ r, w.registries.get? id = some r
  faithful : ∀ e ∈ w.factories, ControllerFactories.Faithful e.2

namespace Accounted

variable {names : Set String} {start : Site} {w w₁ w' : World} {deed : Deed} {id : Nat}
  {r r' : Registry} {o o' : Opening} {t : Site}

theorem init (names : Set String) (site : Site) : Accounted names site { site } where
  balanced := ⟨List.Perm.refl _, List.nodup_nil, fun _ => nofun⟩
  files := Files.SameDirectories.refl _
  lock := fun _ _ => nofun
  registry := fun _ _ => nofun
  opening := fun _ _ => nofun
  referred := fun _ => ⟨nofun, nofun⟩
  faithful := fun _ => nofun

theorem keep (h : w.Accounted names start) (hs : w.site.Steady w'.site)
    (hl : w'.locks = w.locks) (hr : w'.registries = w.registries) (ho : w'.openings = w.openings)
    (hrefs : ∀ id, id ∈ w'.references ↔ id ∈ w.references)
    (hf : ∀ e ∈ w'.factories, ControllerFactories.Faithful e.2) : w'.Accounted names start where
  balanced := h.balanced.keep hs.held (by rw [holdings, hl, hr, ho, holdings])
  files := h.files.trans hs.files
  lock := hl ▸ h.lock
  registry := hr ▸ h.registry
  opening := ho ▸ h.opening
  referred := fun id => by rw [hrefs, hr, h.referred]
  faithful := hf

/-- One reference more, to a registry that is open. -/
theorem refer (h : w.Accounted names start) (hs : w.site.Steady w'.site)
    (hl : w'.locks = w.locks) (hr : w'.registries = w.registries) (ho : w'.openings = w.openings)
    (hid : ∃ r, w.registries.get? id = some r) (hrefs : w'.references.Perm (id :: w.references))
    (hf : w'.factories = w.factories) : w'.Accounted names start := by
  refine h.keep hs hl hr ho (fun i => ?_) (hf ▸ h.faithful)
  rw [hrefs.mem_iff, List.mem_cons]
  exact or_iff_right_of_imp fun he => he ▸ (h.referred id).mpr hid

/-- A registry may count its striped buffers. -/
theorem setRegistry (h : w.Accounted names start) (hr : w.registries.get? id = some r)
    (hself : ∃ stripeSlot, r' = { r with stripeSlot }) :
    Accounted names start { w with registries := w.registries.set id r' } := by
  obtain ⟨stripeSlot, rfl⟩ := hself
  have hget (i : Nat) : (w.registries.set id { r with stripeSlot }).get? i =
      if id = i then some { r with stripeSlot } else w.registries.get? i := by
    rw [Store.get?_set]
    split
    · next he => rw [← he, hr, Option.map_some]
    · rfl
  exact {
    balanced := by
      refine h.balanced.keep rfl ?_
      have hmap : (w.registries.set id { r with stripeSlot }).values.map Registry.lockFiles =
          w.registries.values.map Registry.lockFiles := Store.map_values_set hr rfl
      simp only [holdings, List.flatMap_def, hmap]
      exact List.Perm.refl _
    files := h.files
    lock := h.lock
    registry := fun i r₁ hi => by
      rw [hget] at hi
      split at hi
      · cases hi
        exact h.registry id r hr
      · exact h.registry i r₁ hi
    opening := h.opening
    referred := fun i => by
      rw [hget]
      split
      · next he => exact iff_of_true ((h.referred i).mpr ⟨r, he ▸ hr⟩) ⟨_, rfl⟩
      · exact h.referred i
    faithful := h.faithful }

/-- One reference less, after which the registry goes if it was the last one. -/
theorem drop (h : w.Accounted names start) (hd : w.Drops id w₁) :
    (w₁.collect id).Accounted names start := by
  have hs := Site.Steady.of_alike hd.site
  obtain ⟨r, hr⟩ := (h.referred id).mp (hd.references.mem_iff.mpr List.mem_cons_self)
  rcases w₁.collect_cases id with ⟨hkept, hc⟩ | ⟨hlast, r', hr', hc⟩ <;> rw [hc]
  · have hmem : id ∈ w₁.references := by
      refine hkept.resolve_right fun hnone => ?_
      rw [hd.registries, hr] at hnone
      cases hnone
    refine h.keep hs hd.locks hd.registries hd.openings (fun i => ?_) (hd.factories ▸ h.faithful)
    rw [hd.references.mem_iff, List.mem_cons]
    exact (or_iff_right_of_imp fun he => he ▸ hmem).symm
  · rw [hd.registries] at hr' ⊢
    obtain rfl := Option.some.inj (hr.symm.trans hr')
    have hother : ∀ i r', (w.registries.erase id).get? i = some r' →
        w.registries.get? i = some r' := (Store.Loses.erase w.registries id).get?
    exact {
      balanced := by
        refine h.balanced.giveBack r.lockFiles ?_ ?_
        · rw [Site.release_held_eq]
          exact congrArg (List.diff · r.lockFiles) hs.held
        · have hvalues := (Store.values_perm hr).flatMap_right Registry.lockFiles
          rw [List.flatMap_cons] at hvalues
          simp only [holdings, hd.locks, hd.openings]
          refine ((hvalues.append_left _).append_right _).trans ?_
          rw [← List.append_assoc r.lockFiles]
          exact (List.perm_append_comm_assoc _ _ _).append_right _
      files := h.files.trans hs.files
      lock := hd.locks ▸ h.lock
      registry := fun i r' hi => h.registry i r' (hother i r' hi)
      opening := hd.openings ▸ h.opening
      referred := fun i => by
        have hi := h.referred i
        rw [hd.references.mem_iff, List.mem_cons] at hi
        rw [Store.get?_erase]
        split
        · next he => exact iff_of_false (he ▸ hlast) nofun
        · next hne => rwa [or_iff_right (Ne.symm hne)] at hi
      faithful := hd.factories ▸ h.faithful }

/-- A lock by itself, taken where it was free. -/
theorem take {directory : String} {device : Nat} {lock : DeviceLock}
    (h : w.Accounted names start) (hd : directory ∈ names)
    (ha : DeviceLock.Attempt directory device w.site t (.ok (some lock))) :
    Accounted names start { w with site := t, locks := (w.locks.insert lock).2 } := by
  obtain ⟨hlock, hfree, hheld⟩ := ha.taken lock rfl
  have hopens := h.files.symm.accepts (ha.opens.mpr fun _ => nofun)
  have hfile : lock.file = DeviceLock.place directory device := by rw [hlock]; rfl
  rw [← hfile] at hfree hheld
  exact {
    balanced := by
      refine h.balanced.take [lock.file] (by rw [hheld]; rfl) ?_
        (List.nodup_singleton _) fun f hf => List.mem_singleton.mp hf ▸ hfree
      simp only [holdings, Store.values_insert, List.map_append, List.map_cons, List.map_nil,
        List.append_assoc]
      exact List.perm_append_comm_assoc _ _ _
    files := h.files.trans ha.files
    lock := fun id l hl => by
      rw [Store.get?_insert] at hl
      split at hl
      · cases hl
        exact ⟨directory, hd, device, hlock, hlock ▸ hopens⟩
      · exact h.lock id l hl
    registry := h.registry
    opening := h.opening
    referred := h.referred
    faithful := h.faithful }

theorem unlock {l : DeviceLock} (h : w.Accounted names start) (hl : w.locks.get? id = some l) :
    Accounted names start
      { w with locks := w.locks.erase id, site := w.site.release [l.file] } where
  balanced := by
    refine h.balanced.giveBack [l.file] (Site.release_held_eq _ _) ?_
    exact (((Store.values_perm hl).map (·.file)).append_right _).append_right _
  files := h.files
  lock := fun i l' hi => h.lock i l' ((Store.Loses.erase w.locks id).get? i l' hi)
  registry := h.registry
  opening := h.opening
  referred := h.referred
  faithful := h.faithful

theorem begin (h : w.Accounted names start) (hs : w.site.Steady t)
    (hd : o.settings.lockDirectory ∈ names) (hb : o.bound = []) :
    Accounted names start { w with site := t, openings := (w.openings.insert o).2 } where
  balanced := by
    refine h.balanced.keep hs.held ?_
    have hnone : o.lockFiles = [] := by rw [Opening.lockFiles, hb]; rfl
    simp only [holdings, Store.values_insert, List.flatMap_append, List.flatMap_cons,
      List.flatMap_nil, hnone, List.append_nil]
    exact List.Perm.refl _
  files := h.files.trans hs.files
  lock := h.lock
  registry := h.registry
  opening := fun id o' ho => by
    rw [Store.get?_insert] at ho
    split at ho
    · cases ho
      exact ⟨hd, fun bound hm => by rw [hb] at hm; cases hm⟩
    · exact h.opening id o' ho
  referred := h.referred
  faithful := h.faithful

/-- What an opening has locked, and what it is in the books for, once it has got further. -/
theorem bound_of_proceeds (h : w.Accounted names start) (ho : w.openings.get? id = some o)
    (hp : o.Proceeds o' w.site t) : Bound names start.files o.settings.lockDirectory o'.bound ∧
      ∃ files, o'.lockFiles.Perm (files ++ o.lockFiles) ∧ t.held.Perm (files ++ w.site.held) ∧
        files.Nodup ∧ ∀ f ∈ files, f ∉ w.site.held := by
  obtain ⟨hnamed, hlock⟩ := h.opening id o ho
  obtain ⟨new, hb, hheld, hn, hnew⟩ := hp.bound
  refine ⟨⟨hnamed, fun bound hm => ?_⟩, new.map (·.lock.file), ?_, ?_, hn, fun f hf => ?_⟩
  · rw [hb] at hm
    rcases List.mem_append.mp hm with hm | hm
    · exact hlock bound hm
    · obtain ⟨hl, ha, -⟩ := hnew bound hm
      exact ⟨hl, h.files.symm.accepts ha⟩
  · rw [Opening.lockFiles, hb, List.map_append]
    exact List.perm_append_comm
  · rw [hheld]
    exact (List.reverse_perm _).append_right _
  · obtain ⟨bound, hm, rfl⟩ := List.mem_map.mp hf
    exact (hnew bound hm).2.2

theorem advance (h : w.Accounted names start) (ho : w.openings.get? id = some o)
    (hp : o.Proceeds o' w.site t) :
    Accounted names start { w with site := t, openings := w.openings.set id o' } := by
  obtain ⟨hbound, files, hfiles, hheld, hn, hfree⟩ := h.bound_of_proceeds ho hp
  exact {
    balanced := by
      refine h.balanced.take files hheld ?_ hn hfree
      have hbefore := (Store.values_perm ho).flatMap_right Opening.lockFiles
      have hafter := (Store.values_set_perm ho o').flatMap_right Opening.lockFiles
      rw [List.flatMap_cons] at hbefore hafter
      have hall := (hafter.trans (hfiles.append_right _)).trans
        (List.append_assoc files _ _ ▸ hbefore.symm.append_left files)
      exact (hall.append_left _).trans (List.perm_append_comm_assoc _ _ _)
    files := h.files.trans hp.files
    lock := h.lock
    registry := h.registry
    opening := fun i o'' hi => by
      rw [Store.get?_set] at hi
      split at hi
      · next he =>
        rw [← he, ho] at hi
        cases hi
        exact hp.settings ▸ hbound
      · exact h.opening i o'' hi
    referred := h.referred
    faithful := h.faithful }

/-- The locks of the opening are the registry's now. -/
theorem register (h : w.Accounted names start) (ho : w.openings.get? id = some o)
    (hr : Registered o o' r w.site t) :
    ({ w with site := t, openings := w.openings.erase id }.addRegistry r).2.Accounted
      names start := by
  obtain ⟨hbound, files, hfiles, hheld, hn, hfree⟩ := h.bound_of_proceeds ho hr.proceeds
  rw [← hr.settings, ← hr.devices] at hbound
  have hlockFiles : r.lockFiles = o'.lockFiles := by rw [Registry.lockFiles, hr.devices]; rfl
  exact {
    balanced := by
      refine h.balanced.take files hheld ?_ hn hfree
      have hbefore := (Store.values_perm ho).flatMap_right Opening.lockFiles
      rw [List.flatMap_cons] at hbefore
      simp only [holdings, addRegistry, addHandle, Store.values_insert, List.flatMap_append,
        List.flatMap_cons, List.flatMap_nil, List.append_nil, hlockFiles]
      refine List.perm_iff_count.mpr fun f => ?_
      have hopening := hbefore.count_eq f
      have hlocked := hfiles.count_eq f
      simp only [List.count_append] at hopening hlocked ⊢
      omega
    files := h.files.trans hr.proceeds.files
    lock := h.lock
    registry := fun i r' hi => by
      have hi : (w.registries.insert r).2.get? i = some r' := hi
      rw [Store.get?_insert] at hi
      split at hi
      · cases hi
        exact hbound
      · exact h.registry i r' hi
    opening := fun i o'' hi => h.opening i o'' ((Store.Loses.erase w.openings id).get? i o'' hi)
    referred := fun i => by
      simp only [addRegistry]
      rw [(references_addHandle _ _).mem_iff, List.mem_cons]
      simp only [addHandle, Store.get?_insert]
      split
      · next he => exact iff_of_true (Or.inl he.symm) ⟨r, rfl⟩
      · next hne => exact (or_iff_right (Ne.symm hne)).trans (h.referred i)
    faithful := h.faithful }

theorem abandon (h : w.Accounted names start) (ho : w.openings.get? id = some o)
    (hf : o.Fails w.site t) :
    Accounted names start { w with site := t, openings := w.openings.erase id } where
  balanced := by
    refine h.balanced.giveBack o.lockFiles (hf.held.trans (Site.release_held_eq _ _)) ?_
    have hbefore := (Store.values_perm ho).flatMap_right Opening.lockFiles
    rw [List.flatMap_cons] at hbefore
    exact (hbefore.append_left _).trans (List.perm_append_comm_assoc _ _ _)
  files := h.files.trans hf.files
  lock := h.lock
  registry := h.registry
  opening := fun i o' hi => h.opening i o' ((Store.Loses.erase w.openings id).get? i o' hi)
  referred := h.referred
  faithful := h.faithful

theorem locks_of_registry (h : w.Accounted names start) {bound : BoundDevice}
    (hr : w.registries.get? id = some r) (hm : bound ∈ r.devices) :
    DeviceLock.place r.settings.lockDirectory bound.index ∈ r.lockFiles ∧
      DeviceLock.place r.settings.lockDirectory bound.index ∈ w.site.held := by
  have hfile : DeviceLock.place r.settings.lockDirectory bound.index ∈ r.lockFiles :=
    List.mem_map.mpr ⟨bound, hm, (h.registry id r hr).file_eq hm⟩
  exact ⟨hfile, h.balanced.mem_held (mem_holdings_iff.mpr (Or.inr (Or.inl ⟨id, r, hr, hfile⟩)))⟩

theorem held_of_opening (h : w.Accounted names start) {bound : BoundDevice}
    (ho : w.openings.get? id = some o) (hm : bound ∈ o.bound) :
    DeviceLock.place o.settings.lockDirectory bound.index ∈ w.site.held := by
  have hfile : DeviceLock.place o.settings.lockDirectory bound.index ∈ o.lockFiles :=
    List.mem_map.mpr ⟨bound, hm, (h.opening id o ho).file_eq hm⟩
  exact h.balanced.mem_held (mem_holdings_iff.mpr (Or.inr (Or.inr ⟨id, o, ho, hfile⟩)))

theorem opens {n : Nat} {directory : Option String} (h : w.Accounted names start)
    (hd : ∀ d ∈ directory, d ∈ names) (ho : Opens n directory w w') :
    w'.Accounted names start := by
  induction ho with
  | reported hs =>
    exact h.keep (.of_alike hs) rfl rfl rfl (fun _ => Iff.rfl) h.faithful
  | begun hdir hs =>
    obtain ⟨rfl, hb⟩ := Opening.start_ok hs
    exact h.begin (.of_alike (Opening.start_alike hs)) (hd _ hdir) hb
  | advanced hn hid hc =>
    cases hc.continued with
    | ready hr => exact h.register hid hr
    | waiting hp => exact h.advance hid hp
    | refused hf => exact h.abandon hid hf
  | @remembered w slot =>
    exact h.keep (.of_alike (Site.Alike.refl _)) rfl rfl rfl (fun _ => Iff.rfl) h.faithful
  | trans _ _ ih ih' => exact ih' (ih h)

theorem changes (h : w.Accounted names start) (hd : deed.Calls names) (hc : Changes deed w w') :
    w'.Accounted names start := by
  cases hc with
  | passes hp hrefs =>
    exact h.keep hp.site.steady hp.locks hp.registries hp.openings (fun _ => by rw [hrefs])
      (hp.factories ▸ h.faithful)
  | refers hr hp hrefs =>
    exact h.refer hp.site.steady hp.locks hp.registries hp.openings ⟨_, hr⟩ (hrefs h.faithful)
      hp.factories
  | drops hdrops => exact h.drop hdrops
  | registers he =>
    subst he
    refine h.keep (.of_alike (Site.Alike.emit _ _)) rfl rfl rfl (fun _ => Iff.rfl) fun e hm => ?_
    rcases Table.mem_put hm with rfl | hm
    · exact hd.faithful
    · exact h.faithful e hm
  | locks hdir ha => exact h.take (hd.named _ hdir) ha
  | unlocks hl => exact h.unlock hl
  | affects ha hs he => exact h.keep (hs hd.leavesLocks) rfl rfl rfl (fun _ => Iff.rfl) h.faithful

theorem step (h : w.Accounted names start) (hd : deed.Calls names) (ha : w.Acts deed w') :
    w'.Accounted names start := by
  cases ha with
  | changes hq hc => exact h.changes hd hc
  | opens hq ho => exact h.opens hd.named ho
  | gives hh hr => exact h.setRegistry hr ⟨_, rfl⟩
  | places hh hr hu ht =>
    exact (h.setRegistry hr (Registry.slotFor_eq _ _)).keep ht.steady rfl rfl rfl
      (fun _ => Iff.rfl) h.faithful
  | @makes _ size _ _ _ r _ _ _ _ hh hr hu hb ht hid =>
    have hset := h.setRegistry hr (r.slotFor_eq size)
    have hmem := (hset.referred _).mp ((h.referred _).mpr ⟨_, hr⟩)
    exact hset.refer ht.steady rfl rfl rfl hmem (hid ▸ references_addBuffer _ _) rfl
  | @accesses id a b t hb ht =>
    obtain ⟨memory, -, he⟩ := b.keeps_access a
    have hrefs := references_setBuffer (w := { w with site := t }) hb (congrArg (·.registry) he)
    exact h.keep ht.steady rfl rfl rfl (fun _ => by rw [hrefs]; rfl) h.faithful
  | writes hs hx =>
    exact h.keep ⟨rfl, Files.SameDirectories.refl _⟩ rfl rfl rfl (fun _ => Iff.rfl) h.faithful
  | equips hh hr hid hn hu ht =>
    exact h.refer ht.steady rfl rfl rfl ⟨_, hr⟩ (hid ▸ references_addDispatcher _ _) rfl
  | @runs _ _ _ d d' t hdispatcher hr hn hu ht =>
    have hrefs := references_setDispatcher (w := { w with site := t }) hdispatcher hr
    exact h.keep ht.steady rfl rfl rfl (fun _ => by rw [hrefs]; rfl) h.faithful

theorem acts (h : w.Accounted names start) {history : List Deed}
    (hd : ∀ deed ∈ history, deed.Calls names) : (history.foldl World.act w).Accounted names start :=
  acts_keep_of (fun w deed hm h => h.step (hd deed hm) (w.acts deed)) h

end Accounted

end World

end Accelerator
