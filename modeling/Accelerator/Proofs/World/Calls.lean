import Accelerator.Proofs.World.Accounting
import Mathlib.Data.Set.Function

/-! Histories of calls that take locks and give them back. What is held after them is what their
results, as far as they are still alive, stand for. -/

namespace Accelerator

inductive Call where
  | deed (deed : Deed)
  /-- Whatever else is done to the devices. -/
  | changeHost (change : Host → Host)

/-- Locks are asked for under these names alone. -/
def Call.Asks (names : Set String) : Call → Prop
  | .deed d => d.Calls names
  | .changeHost _ => True

namespace World

/-- A call that would have to wait, with a registry in the making, is not made. -/
def call (w : World) : Call → World
  | .deed deed => if (w.act deed).openings.values.isEmpty then w.act deed else w
  | .changeHost change => { w with site := { w.site with host := change w.site.host } }

variable {names : Set String} {tree : Files} {start : Site} {w : World} {directory : String}
  {device : Nat}

/-- Directories that have names of their own have lock files of their own. -/
theorem Bound.of_file {other : String} {devices : List BoundDevice} {bound : BoundDevice}
    (h : Bound names tree other devices) (hn : names.InjOn DeviceLock.directoryPlace)
    (hd : directory ∈ names) (hm : bound ∈ devices)
    (hf : bound.lock.file = DeviceLock.place directory device) :
    other = directory ∧ bound.index = device ∧
      tree.Accepts (DeviceLock.forDevice directory device).path := by
  obtain ⟨hl, ha⟩ := h.lock bound hm
  rw [hl] at hf ha
  obtain ⟨hplace, hindex⟩ := DeviceLock.place_eq_iff.mp hf
  obtain rfl := hn h.named hd hplace
  exact ⟨rfl, hindex, hindex ▸ ha⟩

/-- All that is held is accounted for, and no registry is in the making. -/
structure Settles (names : Set String) (start : Site) (w : World) : Prop
    extends w.Accounted names start where
  idle : w.openings.values = []

namespace Settles

theorem call (h : w.Settles names start) {c : Call} (hc : c.Asks names) :
    (w.call c).Settles names start := by
  cases c with
  | deed deed =>
    rw [World.call]
    split
    · next hidle => exact ⟨h.step hc (w.acts deed), List.isEmpty_iff.mp hidle⟩
    · exact h
  | changeHost change =>
    refine ⟨h.keep ⟨rfl, Files.SameDirectories.refl _⟩ rfl rfl rfl (fun _ => Iff.rfl) h.faithful, ?_⟩
    exact h.idle

theorem calls (h : w.Settles names start) {history : List Call}
    (hc : ∀ c ∈ history, c.Asks names) : (history.foldl World.call w).Settles names start := by
  induction history generalizing w with
  | nil => exact h
  | cons c history ih =>
    exact ih (h.call (hc c List.mem_cons_self)) fun c' hm => hc c' (List.mem_cons_of_mem c hm)

theorem mem_held_iff (h : w.Settles names start) (hs : start.held = []) (f : Location) :
    f ∈ w.site.held ↔ (∃ id l, w.locks.get? id = some l ∧ l.file = f) ∨
      ∃ id r, w.registries.get? id = some r ∧ f ∈ r.lockFiles := by
  rw [h.balanced.held.mem_iff, hs, List.append_nil, mem_holdings_iff, ← or_assoc]
  refine or_iff_left ?_
  rintro ⟨id, o, ho, -⟩
  have hm := Store.mem_values_iff.mpr ⟨id, ho⟩
  rw [h.idle] at hm
  cases hm

theorem lock_of_file {id : Nat} {l : DeviceLock} (h : w.Settles names start)
    (hn : names.InjOn DeviceLock.directoryPlace) (hd : directory ∈ names)
    (hl : w.locks.get? id = some l) (hf : l.file = DeviceLock.place directory device) :
    l = DeviceLock.forDevice directory device ∧ start.files.Accepts l.path := by
  obtain ⟨directory', hd', device', rfl, ha⟩ := h.lock id l hl
  obtain ⟨hplace, rfl⟩ := DeviceLock.place_eq_iff.mp hf
  rw [hn hd' hd hplace] at ha ⊢
  exact ⟨rfl, ha⟩

theorem held_iff (h : w.Settles names start) (hs : start.held = [])
    (hn : names.InjOn DeviceLock.directoryPlace) (hd : directory ∈ names) :
    DeviceLock.place directory device ∈ w.site.held ↔
      (∃ id, w.locks.get? id = some (DeviceLock.forDevice directory device)) ∨
        ∃ id ∈ w.references, ∃ r, w.registries.get? id = some r ∧
          r.settings.lockDirectory = directory ∧ ∃ bound ∈ r.devices, bound.index = device := by
  rw [h.mem_held_iff hs]
  constructor
  · rintro (⟨id, l, hl, hf⟩ | ⟨id, r, hr, hf⟩)
    · obtain ⟨rfl, -⟩ := h.lock_of_file hn hd hl hf
      exact Or.inl ⟨id, hl⟩
    · obtain ⟨bound, hb, hf⟩ := List.mem_map.mp hf
      obtain ⟨hdir, hindex, -⟩ := (h.registry id r hr).of_file hn hd hb hf
      exact Or.inr ⟨id, (h.referred id).mpr ⟨r, hr⟩, r, hr, hdir, bound, hb, hindex⟩
  · rintro (⟨id, hl⟩ | ⟨id, -, r, hr, rfl, bound, hb, rfl⟩)
    · exact Or.inl ⟨id, _, hl, rfl⟩
    · exact Or.inr ⟨id, r, hr, List.mem_map.mpr ⟨bound, hb, (h.registry id r hr).file_eq hb⟩⟩

theorem accepts_of_held (h : w.Settles names start) (hs : start.held = [])
    (hn : names.InjOn DeviceLock.directoryPlace) (hd : directory ∈ names)
    (hm : DeviceLock.place directory device ∈ w.site.held) :
    w.site.files.Accepts (DeviceLock.forDevice directory device).path := by
  refine h.files.accepts ?_
  rcases (h.mem_held_iff hs _).mp hm with ⟨id, l, hl, hf⟩ | ⟨id, r, hr, hf⟩
  · obtain ⟨rfl, ha⟩ := h.lock_of_file hn hd hl hf
    exact ha
  · obtain ⟨bound, hb, hf⟩ := List.mem_map.mp hf
    exact ((h.registry id r hr).of_file hn hd hb hf).2.2

theorem tryLock_eq_none_iff (h : w.Settles names start) (hs : start.held = [])
    (hn : names.InjOn DeviceLock.directoryPlace) (hd : directory ∈ names) :
    (w.tryLock directory device).1 = .ok none ↔
      DeviceLock.place directory device ∈ w.site.held := by
  unfold World.tryLock perform
  obtain ⟨r, t, hr, ha⟩ := DeviceLock.tryAcquire_attempts directory device w.site
  rw [hr]
  rcases r with stop | _ | lock
  · have hclosed : ¬ w.site.files.Accepts (DeviceLock.forDevice directory device).path :=
      fun hopen => ha.opens.mp hopen stop rfl
    exact iff_of_false nofun fun hm => hclosed (h.accepts_of_held hs hn hd hm)
  · exact iff_of_true rfl (ha.awaited rfl).1
  · exact iff_of_false nofun (ha.taken lock rfl).2.1

end Settles

/-- What is made is alive, and keeps the registry it is made on open: it refers to that one too. -/
structure Acquires (w : World) : Prop where
  openRegistry : ∀ settings handle w', w.openRegistry settings = (.ready handle, w') →
    ∃ id, w.registries.get? id = none ∧ w'.handles.get? handle = some id ∧
      w'.references.Perm (id :: w.references)
  createBuffer : ∀ handle size device unitName id w',
    w.createBuffer handle size device unitName = some (.ok id, w') →
      ∃ b, w'.buffers.get? id = some b ∧ w.handles.get? handle = some b.registry ∧
        w'.references.Perm (b.registry :: w.references)
  createDispatcher : ∀ handle unitName id w',
    w.createDispatcher handle unitName = some (.ok id, w') →
      ∃ d, w'.dispatchers.get? id = some d ∧ w.handles.get? handle = some d.registry ∧
        w'.references.Perm (d.registry :: w.references)
  createController : ∀ handle id w', w.createController handle = some (.ok id, w') →
    ∃ c, w'.controllers.get? id = some c ∧ w.handles.get? handle = some c.dispatcher.registry ∧
      w'.references.Perm (c.dispatcher.registry :: w.references)
  tryLock : ∀ directory device id w', w.tryLock directory device = (.ok (some id), w') →
    w'.locks.get? id = some (DeviceLock.forDevice directory device) ∧
      w'.site.held = DeviceLock.place directory device :: w.site.held
  lock : ∀ directory device again id w', w.lock directory device again = (.ok (some id), w') →
    w'.locks.get? id = some (DeviceLock.forDevice directory device) ∧
      w'.site.held = DeviceLock.place directory device :: w.site.held

/-- What is dropped is gone. A lock that is dropped is free, and a registry goes, with its locks,
when the last thing that refers to it is dropped. -/
structure Releases (w : World) : Prop where
  unlock : ∀ id l, w.locks.get? id = some l → (w.unlock id).locks = w.locks.erase id ∧
    (w.unlock id).registries = w.registries ∧ (w.unlock id).references = w.references ∧
      ∀ f, f ∈ (w.unlock id).site.held ↔ f ∈ w.site.held ∧ f ≠ l.file
  dropHandle : ∀ handle id, w.handles.get? handle = some id →
    (w.dropHandle handle).handles = w.handles.erase handle ∧ w.LetsGo id (w.dropHandle handle)
  dropBuffer : ∀ id b, w.buffers.get? id = some b →
    (w.dropBuffer id).buffers = w.buffers.erase id ∧ w.LetsGo b.registry (w.dropBuffer id)
  dropDispatcher : ∀ id d, w.dispatchers.get? id = some d →
    (w.dropDispatcher id).dispatchers = w.dispatchers.erase id ∧
      w.LetsGo d.registry (w.dropDispatcher id)
  dropController : ∀ id c, w.controllers.get? id = some c →
    (w.dropController id).controllers = w.controllers.erase id ∧
      w.LetsGo c.dispatcher.registry (w.dropController id)

theorem acquires (hf : ∀ e ∈ w.factories, ControllerFactories.Faithful e.2) : w.Acquires where
  openRegistry := by
    intro settings handle w' ho
    obtain ⟨_, _, he, -⟩ | ⟨o, t, -, -, -, -, hc⟩ := openRegistry_continued ho
    · cases he
    · cases hc with
      | ready hr =>
        refine ⟨w.registries.next, Store.get?_next _, ?_, references_addHandle _ _⟩
        exact (Store.get?_insert _ _ _).trans (if_pos rfl)
  createBuffer := by
    intro handle size device unitName id w' hc
    obtain ⟨r, b, d, d', hh, hr, -, -, -, -, rfl, he⟩ := createBuffer_ok hc
    rw [he]
    refine ⟨b, (Store.get?_insert _ _ _).trans (if_pos rfl), hh, references_addBuffer _ b⟩
  createDispatcher := by
    intro handle unitName id w' hc
    obtain ⟨_, r, d, t, hh, hr, hd, he, rfl⟩ := createDispatcher_ok hc
    obtain rfl := Dispatcher.registry_of_create hd
    cases he
    exact ⟨d, (Store.get?_insert _ _ _).trans (if_pos rfl), hh, references_addDispatcher _ d⟩
  createController := by
    intro handle id w' hc
    obtain ⟨_, r, t, hh, hr, ⟨stop, -, he, -⟩ | ⟨c, hrun, he, rfl⟩⟩ := createController_cases hc
    · cases he
    · obtain rfl := ControllerFactories.registry_of_create hf hrun
      cases he
      exact ⟨c, (Store.get?_insert _ _ _).trans (if_pos rfl), hh, references_addController _ c⟩
  tryLock := by
    intro directory device id w' hl
    unfold World.tryLock perform at hl
    obtain ⟨r, t, hr, ha⟩ := DeviceLock.tryAcquire_attempts directory device w.site
    rw [hr] at hl
    rcases r with stop | _ | lock <;> cases hl
    obtain ⟨rfl, -, hheld⟩ := ha.taken lock rfl
    exact ⟨(Store.get?_insert _ _ _).trans (if_pos rfl), hheld⟩
  lock := by
    intro directory device again id w' hl
    unfold World.lock perform at hl
    obtain ⟨r, t, hr, ha⟩ := DeviceLock.acquire_attempts directory device again w.site
    rw [hr] at hl
    rcases r with stop | _ | lock <;> cases hl
    obtain ⟨rfl, -, hheld⟩ := ha.taken lock rfl
    exact ⟨(Store.get?_insert _ _ _).trans (if_pos rfl), hheld⟩

theorem releases (hn : w.site.held.Nodup) : w.Releases where
  unlock := by
    intro id l hl
    have hw : w.unlock id =
        { w with locks := w.locks.erase id, site := w.site.release [l.file] } := by
      simp only [World.unlock, hl]
    rw [hw]
    refine ⟨rfl, rfl, rfl, fun f => ?_⟩
    exact (hn.mem_erase_iff).trans And.comm
  dropHandle := by
    intro handle id hid
    obtain ⟨w₁, h, hw, he⟩ := dropHandle_drops hid
    rw [hw, collect_handles]
    exact ⟨he, h.letsGo hn⟩
  dropBuffer := by
    intro id b hid
    obtain ⟨w₁, h, hw, he⟩ := dropBuffer_drops hid
    rw [hw, collect_buffers]
    exact ⟨he, h.letsGo hn⟩
  dropDispatcher := by
    intro id d hid
    obtain ⟨w₁, h, hw, he⟩ := dropDispatcher_drops hid
    rw [hw, collect_dispatchers]
    exact ⟨he, h.letsGo hn⟩
  dropController := by
    intro id c hid
    obtain ⟨w₁, h, hw, he⟩ := dropController_drops hid
    rw [hw, collect_controllers]
    exact ⟨he, h.letsGo hn⟩

/-- After any history of calls, as far as none has to wait, the lock of a device is held just when
a lock of it is alive or a registry has bound the device that something still refers to. Nothing is
held twice, a lock is refused just when it is held, and an attempt to open a registry that fails
leaves no lock behind. What is made then is alive, and what is dropped is gone, with the locks that
it alone kept. -/
theorem locks_accounted (names : Set String) (hn : names.InjOn DeviceLock.directoryPlace)
    (host : Host) (files : Files) (history : List Call)
    (hc : ∀ c ∈ history, c.Asks names) :
    let w := history.foldl World.call { site := { host, files } }
    (∀ directory ∈ names, ∀ device,
      (DeviceLock.place directory device ∈ w.site.held ↔
        (∃ id, w.locks.get? id = some (DeviceLock.forDevice directory device)) ∨
          ∃ id ∈ w.references, ∃ r, w.registries.get? id = some r ∧
            r.settings.lockDirectory = directory ∧ ∃ bound ∈ r.devices, bound.index = device) ∧
      ((w.tryLock directory device).1 = .ok none ↔
        DeviceLock.place directory device ∈ w.site.held)) ∧
    w.holdings.Nodup ∧
    (∀ id, id ∈ w.references ↔ ∃ r, w.registries.get? id = some r) ∧
    (∀ settings stop w', w.openRegistry settings = (.refused stop, w') →
      w'.site.held = w.site.held) ∧
    w.Acquires ∧ w.Releases := by
  intro w
  have hstart : Settles names { host, files } { site := { host, files } } :=
    ⟨Accounted.init names _, rfl⟩
  have h : w.Settles names { host, files } := hstart.calls hc
  have hnodup : w.site.held.Nodup := by
    rw [h.balanced.held.nodup_iff, List.append_nil]
    exact h.balanced.nodup
  refine ⟨fun directory hd device => ⟨h.held_iff rfl hn hd, h.tryLock_eq_none_iff rfl hn hd⟩,
    h.balanced.nodup, h.referred, fun settings stop w' ho => ?_, acquires h.faithful,
    releases hnodup⟩
  obtain ⟨t, openings, rfl, hs⟩ := openRegistry_refused ho
  exact hs.held

/-- A registry without a handle, which is kept alive by a buffer, so that the lock of its device
cannot be had, and a lock that is held by itself. Each lock is free when the last thing that keeps
it is dropped. -/
theorem locks_accounted_lastDropped :
    let settings : Settings := { firmware := some "a", lockDirectory := "/" }
    let history : List Call := [.deed (.openRegistry settings), .deed (.createBuffer 0 9 0 "dpu"),
      .deed (.dropHandle 0), .deed (.openRegistry settings), .deed (.tryLock "/" 1)]
    let w := history.foldl World.call { site := { host := oneDevice.site.host } }
    w.handles.values = [] ∧ (w.tryLock "/" 0).1 = .ok none ∧ (w.tryLock "/" 1).1 = .ok none ∧
      (w.dropBuffer 0).registries.get? 0 = none ∧
      DeviceLock.place "/" 0 ∉ (w.dropBuffer 0).site.held ∧
      DeviceLock.place "/" 1 ∈ (w.dropBuffer 0).site.held ∧
      DeviceLock.place "/" 1 ∉ (w.unlock 0).site.held := by
  intro settings history w
  have hasks : ∀ c ∈ history, c.Asks {"/"} := by
    simp [history, settings, Call.Asks, Deed.calls_iff, Deed.directory?, Deed.LeavesLocks,
      Deed.Faithful]
  obtain ⟨hall, -, -, -, -, hreleases⟩ := locks_accounted {"/"} (Set.injOn_singleton _ _)
    oneDevice.site.host {} history hasks
  have hw : w = history.foldl World.call { site := { host := oneDevice.site.host } } := rfl
  rw [← hw] at hall hreleases
  have hregistry : (w.registries.get? 0).map (fun r => (r.settings.lockDirectory,
      r.devices.map (·.index), r.lockFiles)) = some ("/", [0], [DeviceLock.place "/" 0]) := by
    decide +kernel
  obtain ⟨r, hr, he⟩ := Option.map_eq_some_iff.mp hregistry
  obtain ⟨hdir, he⟩ := Prod.mk.inj he
  obtain ⟨hindices, hfiles⟩ := Prod.mk.inj he
  obtain ⟨bound, hm, hindex⟩ := List.mem_map.mp (hindices ▸ List.mem_singleton_self 0)
  have hreferred : 0 ∈ w.references := by decide +kernel
  have hlock : w.locks.get? 0 = some (DeviceLock.forDevice "/" 1) := by decide +kernel
  have hfirst := (hall "/" rfl 0).1.mpr (Or.inr ⟨0, hreferred, r, hr, hdir, bound, hm, hindex⟩)
  have hsecond := (hall "/" rfl 1).1.mpr (Or.inl ⟨0, hlock⟩)
  have hbuffer : (w.buffers.get? 0).map (·.registry) = some 0 := by decide +kernel
  obtain ⟨b, hb, hof⟩ := Option.map_eq_some_iff.mp hbuffer
  obtain ⟨-, hgo⟩ := hreleases.dropBuffer 0 b hb
  rw [hof] at hgo
  have hlast : (w.dropBuffer 0).references = [] := by decide +kernel
  obtain ⟨hgone, hfree⟩ := hgo.goes (hlast ▸ List.not_mem_nil)
  obtain ⟨-, -, -, hunlocked⟩ := hreleases.unlock 0 _ hlock
  have hkept : ∀ r', w.registries.get? 0 = some r' → DeviceLock.place "/" 1 ∉ r'.lockFiles := by
    intro r' hr'
    obtain rfl := Option.some.inj (hr.symm.trans hr')
    rw [hfiles]
    decide +kernel
  have hkeeps : DeviceLock.place "/" 0 ∈ r.lockFiles := by
    rw [hfiles]
    exact List.mem_singleton_self _
  refine ⟨by decide +kernel, (hall "/" rfl 0).2.mpr hfirst, (hall "/" rfl 1).2.mpr hsecond,
    (hgone 0).trans (if_pos rfl), fun h => ((hfree _).mp h).2 r hr hkeeps,
    (hfree _).mpr ⟨hsecond, hkept⟩, fun h => ((hunlocked _).mp h).2 rfl⟩

end World

end Accelerator
