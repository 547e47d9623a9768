import Accelerator.Proofs.Registry.Binding
import Mathlib.Data.List.Nodup
import Mathlib.Data.List.Perm.Basic

/-! What a registry in the making has locked so far, to the last file. Where the making fails,
the locks are what they were before it began. A device whose lock was held by somebody is left as it
is, whether the devices are bound in the end or not. -/

namespace Accelerator

theorem Site.release_held_eq (s : Site) (files : List Location) :
    (s.release files).held = s.held.diff files := (List.diff_eq_foldl ..).symm

theorem append_diff_self {α : Type} [BEq α] [LawfulBEq α] (l l' : List α) :
    (l ++ l').diff l = l' := by
  induction l with
  | nil => rfl
  | cons a l ih => rw [List.cons_append, List.diff_cons, List.erase_cons_head, ih]

theorem Site.Touches.spares {directory : String} {index : Nat} {s t u : Site}
    (h : Touches index t u) (hs : t.host = s.host) (hfree : DeviceLock.place directory index ∉ s.held) :
    s.Spares directory u := by
  intro i hi
  have hne : i ≠ index := fun he => hfree (he ▸ hi)
  rw [h.devices i hne, hs]

theorem Site.ages_releasing {ε α : Type} {files : List Location} {x : Action ε α}
    (hx : Action.Within Ages x) : Action.Within Ages (Action.releasing files x) := by
  intro s
  have hs := hx s
  rw [Action.run_releasing]
  rcases hr : x.run s with ⟨e | a, t⟩ <;> rw [hr] at hs
  · exact hs
  · exact hs

theorem DeviceLock.acquire_ages (directory : String) (device : Nat) (again : Bool) :
    Action.Within Site.Ages (acquire directory device again) := by
  intro s
  obtain ⟨r, t, hr, hattempt⟩ := acquire_attempts directory device again s
  rw [hr]
  exact Host.Ages.of_eq hattempt.host

namespace Opening

open Accelerator.Action

theorem bindNext_ages (o : Opening) : Within Site.Ages o.bindNext := by
  have hrel := Site.lasting_ages
  unfold bindNext
  rcases o.pending with _ | ⟨index, rest⟩
  · exact hrel.inspects (Inspects.pure o)
  · refine hrel.bind (DeviceLock.acquire_ages _ _ _) fun taken => ?_
    rcases taken with _ | lock
    · exact hrel.inspects (Inspects.pure _)
    · have hbind : Within Site.Ages (bindLocked o.settings o.image index lock) :=
        fun s => (bindLocked_touches o.settings o.image index lock s).ages
      refine hrel.bind (Site.ages_releasing hbind) fun device => ?_
      exact hrel.inspects (Inspects.pure _)

theorem bindUpTo_ages (n : Nat) (o : Opening) : Within Site.Ages (bindUpTo n o) := by
  have hrel := Site.lasting_ages
  induction n generalizing o with
  | zero => exact hrel.inspects (Inspects.pure o)
  | succ n ih =>
    refine hrel.bind (Site.ages_releasing (bindNext_ages o)) fun o' => ?_
    split
    · exact hrel.inspects (Inspects.pure o')
    · exact ih o'

theorem finish_ages (o : Opening) : Within Site.Ages o.finish :=
  Site.ages_releasing (Site.lasting_ages.inspects (inspects_register o))

/-- The devices to bind, those that are bound already among them, in order. -/
def order (o : Opening) : List Nat :=
  o.bound.map (·.index) ++ o.pending

/-- From one opening to a later one: the locks of the devices bound since are held on top of
those before, where nobody held them. -/
structure Proceeds (o o' : Opening) (s t : Site) : Prop where
  settings : o'.settings = o.settings
  image : o'.image = o.image
  order : o'.order = o.order
  files : s.files.SameDirectories t.files
  bound : ∃ new, o'.bound = o.bound ++ new ∧
    t.held = (new.map (·.lock.file)).reverse ++ s.held ∧ (new.map (·.lock.file)).Nodup ∧
      ∀ device ∈ new, device.lock = DeviceLock.forDevice o.settings.lockDirectory device.index ∧
        s.files.Accepts device.lock.path ∧ device.lock.file ∉ s.held
  spares : s.Spares o.settings.lockDirectory t

namespace Proceeds

variable {o o' o'' : Opening} {s t u : Site}

theorem of_steady (h : s.Steady t) (hh : t.host = s.host) (hs : o'.settings = o.settings)
    (hi : o'.image = o.image) (hp : o'.pending = o.pending) (hb : o'.bound = o.bound) :
    o.Proceeds o' s t where
  settings := hs
  image := hi
  order := by rw [Opening.order, hb, hp, Opening.order]
  files := h.files
  bound := ⟨[], by rw [hb, List.append_nil], h.held, List.nodup_nil, fun _ => nofun⟩
  spares := fun i _ => by rw [hh]

theorem of_alike (h : s.Alike t) (o : Opening) : o.Proceeds o s t :=
  of_steady (Site.Steady.of_alike h) h.host rfl rfl rfl rfl

theorem mem_held (h : o.Proceeds o' s t) {f : Location} (hf : f ∈ s.held) : f ∈ t.held := by
  obtain ⟨new, -, hheld, -⟩ := h.bound
  rw [hheld]
  exact List.mem_append_right _ hf

theorem held_of_mem (h : o.Proceeds o' s t) {bound : BoundDevice} (hm : bound ∈ o'.bound) :
    bound ∈ o.bound ∨ DeviceLock.place o.settings.lockDirectory bound.index ∈ t.held := by
  obtain ⟨new, hb, hheld, -, hnew⟩ := h.bound
  rw [hb, List.mem_append] at hm
  refine hm.imp_right fun hm => ?_
  have hfile := List.mem_reverse.mpr (List.mem_map_of_mem (f := (·.lock.file)) hm)
  rw [(hnew bound hm).1] at hfile
  rw [hheld]
  exact List.mem_append_left _ hfile

theorem trans (h : o.Proceeds o' s t) (h' : o'.Proceeds o'' t u) : o.Proceeds o'' s u := by
  obtain ⟨new, hb, hheld, hn, hnew⟩ := h.bound
  obtain ⟨new', hb', hheld', hn', hnew'⟩ := h'.bound
  refine ⟨h'.settings.trans h.settings, h'.image.trans h.image, h'.order.trans h.order,
    h.files.trans h'.files, ⟨new ++ new', ?_, ?_, ?_, fun device hm => ?_⟩, fun i hi => ?_⟩
  · rw [hb', hb, List.append_assoc]
  · rw [hheld', hheld, List.map_append, List.reverse_append, List.append_assoc]
  · -- what is taken later was free even then
    rw [List.map_append, List.nodup_append']
    refine ⟨hn, hn', fun f hf hf' => ?_⟩
    obtain ⟨device, hm, rfl⟩ := List.mem_map.mp hf'
    refine (hnew' device hm).2.2 ?_
    rw [hheld]
    exact List.mem_append_left _ (List.mem_reverse.mpr hf)
  · rcases List.mem_append.mp hm with hm | hm
    · exact hnew device hm
    · obtain ⟨hl, ha, hfree⟩ := hnew' device hm
      rw [h.settings] at hl
      exact ⟨hl, h.files.symm.accepts ha, fun hf => hfree (h.mem_held hf)⟩
  · have hspares := h'.spares i
    rw [h.settings] at hspares
    exact (hspares (h.mem_held hi)).trans (h.spares i hi)

/-- Giving back all locks leaves what giving back the earlier ones would have left: those taken
since lie on top, and go first. -/
theorem held_release (h : o.Proceeds o' s t) :
    (t.release o'.lockFiles).held = (s.release o.lockFiles).held := by
  obtain ⟨new, hb, ht, -⟩ := h.bound
  have hperm : o'.lockFiles.Perm ((new.map (·.lock.file)).reverse ++ o.lockFiles) := by
    rw [lockFiles, hb, List.map_append]
    exact List.perm_append_comm.trans ((List.reverse_perm _).symm.append_right _)
  rw [Site.release_held_eq, Site.release_held_eq, ht, hperm.diff_left, List.diff_append,
    append_diff_self]

end Proceeds

variable {o o' : Opening} {s t : Site} {stop : Stop DeviceError}

/-- What binding the next device comes to, where it does not fail. -/
inductive Turn (o : Opening) (s : Site) : Opening → Site → Prop
  | complete (hp : o.pending = []) : Turn o s o s
  | waits {index : Nat} {rest : List Nat} {t : Site} (hp : o.pending = index :: rest)
      (ha : DeviceLock.Attempt o.settings.lockDirectory index s t (.ok none)) :
      Turn o s { o with waits := true } t
  | binds {index : Nat} {rest : List Nat} {lock : DeviceLock} {bound : BoundDevice} {t u : Site}
      (hp : o.pending = index :: rest)
      (ha : DeviceLock.Attempt o.settings.lockDirectory index s u (.ok (some lock)))
      (hb : (bindLocked o.settings o.image index lock).run u = (.ok bound, t)) :
      Turn o s { o with pending := rest, bound := o.bound ++ [bound], waits := false } t

theorem bindNext_turn (h : o.bindNext.run s = (.ok o', t)) : Turn o s o' t := by
  unfold bindNext at h
  rcases hp : o.pending with _ | ⟨index, rest⟩ <;> simp only [hp] at h
  · cases h
    exact .complete hp
  · obtain ⟨taken, u, ha, h⟩ := bind_ok h
    obtain ⟨r, v, hr, hattempt⟩ :=
      DeviceLock.acquire_attempts o.settings.lockDirectory index o.waits s
    obtain ⟨rfl, rfl⟩ := Prod.mk.inj (hr.symm.trans ha)
    rcases taken with _ | lock
    · rw [← hp] at h
      cases h
      exact .waits hp hattempt
    · obtain ⟨bound, w, hb, h⟩ := bind_ok h
      cases h
      rw [run_releasing] at hb
      rcases hx : (bindLocked o.settings o.image index lock).run v with ⟨e | bound', w⟩ <;>
        rw [hx] at hb <;> cases hb
      exact .binds hp hattempt hx

theorem Turn.proceeds (h : Turn o s o' t) : o.Proceeds o' s t := by
  cases h with
  | complete hp => exact Proceeds.of_alike (Site.Alike.refl s) o
  | waits hp ha =>
    have hs : s.Steady t := ⟨(ha.awaited rfl).2, ha.files⟩
    exact Proceeds.of_steady hs ha.host rfl rfl rfl rfl
  | @binds index rest lock bound t u hp ha hb =>
    obtain ⟨hlock, hfree, hheld⟩ := ha.taken lock rfl
    obtain ⟨hindex, hl⟩ := bindLocked_ok hb
    have htouch := bindLocked_touches o.settings o.image index lock u
    rw [hb] at htouch
    have hs := htouch.steady
    have hfile : bound.lock.file = DeviceLock.place o.settings.lockDirectory index := by
      rw [hl, hlock]
      rfl
    have hall : t.held = [bound.lock.file] ++ s.held := by
      rw [hs.held, hheld, hfile]
      rfl
    refine ⟨rfl, rfl, ?_, ha.files.trans hs.files,
      ⟨[bound], rfl, hall, List.nodup_singleton _, fun d hm => ?_⟩, htouch.spares ha.host hfree⟩
    · simp only [order, hp, List.map_append, List.map_cons, List.map_nil, hindex,
        List.append_assoc, List.singleton_append]
    · obtain rfl := List.mem_singleton.mp hm
      rw [hfile, hl, hlock, hindex]
      exact ⟨rfl, ha.opens.mpr fun _ => nofun, hfree⟩

theorem bindNext_ok (h : o.bindNext.run s = (.ok o', t)) : o.Proceeds o' s t :=
  (bindNext_turn h).proceeds

theorem bindNext_error (h : o.bindNext.run s = (.error stop, t)) :
    s.Steady t ∧ s.Spares o.settings.lockDirectory t := by
  unfold bindNext at h
  rcases hp : o.pending with _ | ⟨index, rest⟩ <;> simp only [hp] at h
  · cases h
  · obtain ⟨r, u, hr, hattempt⟩ :=
      DeviceLock.acquire_attempts o.settings.lockDirectory index o.waits s
    rw [run_bind, hr] at h
    rcases r with e | _ | lock
    · cases h
      exact ⟨⟨hattempt.refused stop rfl, hattempt.files⟩, fun i _ => by rw [hattempt.host]⟩
    · cases h
    · obtain ⟨hlock, hfree, hheld⟩ := hattempt.taken lock rfl
      simp only [run_bind, run_releasing] at h
      rcases hx : (bindLocked o.settings o.image index lock).run u with ⟨e | bound, v⟩ <;>
        rw [hx] at h <;> cases h
      have htouch := bindLocked_touches o.settings o.image index lock u
      rw [hx] at htouch
      have hs := htouch.steady
      have hv := hs.held.trans hheld
      refine ⟨⟨?_, hattempt.files.trans hs.files⟩, htouch.spares hattempt.host hfree⟩
      have hfile : lock.file = DeviceLock.place o.settings.lockDirectory index := by
        rw [hlock]
        rfl
      rw [Site.release, List.foldl_cons, List.foldl_nil, hfile, hv, List.erase_cons_head]

/-- The binding of several devices is over with the first that is waited for. -/
theorem bindUpTo_succ_ok {n : Nat} (h : (bindUpTo (n + 1) o).run s = (.ok o', t)) :
    ∃ o₁ u, o.bindNext.run s = (.ok o₁, u) ∧
      (o₁.waits = true ∧ o' = o₁ ∧ t = u ∨
        o₁.waits = false ∧ (bindUpTo n o₁).run u = (.ok o', t)) := by
  obtain ⟨o₁, u, hn, h⟩ := bind_ok h
  rw [run_releasing] at hn
  rcases hx : o.bindNext.run s with ⟨e | o₂, v⟩ <;> rw [hx] at hn <;> cases hn
  refine ⟨o₁, u, rfl, ?_⟩
  cases hw : o₁.waits with
  | true =>
    rw [hw] at h
    cases h
    exact Or.inl ⟨rfl, rfl, rfl⟩
  | false =>
    rw [hw] at h
    exact Or.inr ⟨rfl, h⟩

/-- What every binding of one device keeps is kept by the binding of several. -/
theorem bindUpTo_keeps {P : Opening → Site → Prop}
    (hstep : ∀ o o' s t, P o s → o.bindNext.run s = (.ok o', t) → P o' t) {n : Nat} (hp : P o s)
    (h : (bindUpTo n o).run s = (.ok o', t)) : P o' t := by
  induction n generalizing o s with
  | zero =>
    cases h
    exact hp
  | succ n ih =>
    obtain ⟨o₁, u, hx, ⟨-, rfl, rfl⟩ | ⟨-, h⟩⟩ := bindUpTo_succ_ok h
    · exact hstep o _ s _ hp hx
    · exact ih (hstep o o₁ s u hp hx) h

theorem bindUpTo_ok {n : Nat} (h : (bindUpTo n o).run s = (.ok o', t)) : o.Proceeds o' s t :=
  bindUpTo_keeps (P := fun o' t => o.Proceeds o' s t)
    (fun _ _ _ _ hp hn => hp.trans (bindNext_ok hn)) (.of_alike (Site.Alike.refl s) o) h

/-- The opening has failed, and has given back what it held by then. -/
structure Fails (o : Opening) (s t : Site) : Prop where
  held : t.held = (s.release o.lockFiles).held
  files : s.files.SameDirectories t.files
  spares : s.Spares o.settings.lockDirectory t

theorem Proceeds.fails {u : Site} (h : o.Proceeds o' s t) (hf : o'.Fails t u) : o.Fails s u where
  held := hf.held.trans h.held_release
  files := h.files.trans hf.files
  spares := by
    intro i hi
    have hspares := hf.spares i
    rw [h.settings] at hspares
    exact (hspares (h.mem_held hi)).trans (h.spares i hi)

theorem bindUpTo_error {n : Nat} (h : (bindUpTo n o).run s = (.error stop, t)) : o.Fails s t := by
  induction n generalizing o s with
  | zero => cases h
  | succ n ih =>
    simp only [bindUpTo, run_bind, run_releasing] at h
    rcases hx : o.bindNext.run s with ⟨e | o₁, u⟩ <;> rw [hx] at h
    · cases h
      obtain ⟨hs, hspares⟩ := bindNext_error hx
      refine ⟨?_, hs.files, hspares⟩
      rw [Site.release, hs.held]
      rfl
    · have hnext := bindNext_ok hx
      cases hw : o₁.waits with
      | true =>
        simp only [hw, if_true] at h
        cases h
      | false =>
        simp only [hw] at h
        exact hnext.fails (ih h)

theorem finish_ok {r : Registry} (h : o.finish.run s = (.ok r, t)) :
    s.Alike t ∧ r.settings = o.settings ∧ r.devices = o.bound ∧ Covers o.bound r.units := by
  have hi : Inspects 0 o.register := inspects_register o
  have halike := hi.alike s
  unfold finish at h
  rw [run_releasing] at h
  rcases hx : o.register.run s with ⟨e | r, t⟩ <;> rw [hx] at h halike <;> cases h
  refine ⟨halike, ?_, register_ok hx⟩
  obtain ⟨_, _, -, hx⟩ := bind_ok hx
  obtain ⟨_, _, -, hx⟩ := bind_ok hx
  obtain ⟨_, _, -, hx⟩ := bind_ok hx
  cases hx
  rfl

theorem finish_error (h : o.finish.run s = (.error stop, t)) : o.Fails s t := by
  have hi : Inspects 0 o.register := inspects_register o
  have halike := hi.alike s
  unfold finish at h
  rw [run_releasing] at h
  rcases hx : o.register.run s with ⟨e | r, u⟩ <;> rw [hx] at h halike <;> cases h
  have hs := Site.Steady.of_alike halike
  refine ⟨?_, hs.files, fun i _ => congrArg (fun host => host.devices[i]?) halike.host⟩
  rw [Site.release, halike.held]
  rfl

theorem selectDevices_ok {settings : Settings} {selected : List Nat}
    (h : (selectDevices settings).run s = (.ok selected, t)) :
    selected = settings.selection.resolve s.host.deviceCount := by
  unfold selectDevices at h
  rw [run_bind, run_host] at h
  simp only at h
  by_cases hc : s.host.deviceCount = 0
  · simp only [hc, if_true] at h
    cases h
  · simp only [hc, if_false] at h
    rcases hr : settings.selection.resolve s.host.deviceCount with _ | ⟨i, is⟩ <;>
      simp only [hr] at h <;> cases h
    rfl

theorem start_pending {settings : Settings} (h : (start settings).run s = (.ok o, t)) :
    o.pending = settings.selection.resolve s.host.deviceCount := by
  obtain ⟨_, u, hv, h⟩ := bind_ok h
  have hvalid : Inspects 0 (reporting (fun e => .settingsInvalid e.message) settings.validate :
      Action DeviceError Unit) := Inspects.reporting _ _
  have hu := hvalid.alike s
  rw [hv] at hu
  obtain ⟨image, v, hi, h⟩ := bind_ok h
  have hfind : Inspects 0 (findImage settings) := inspects_findImage settings
  have hw := hfind.alike u
  rw [hi] at hw
  obtain ⟨pending, _, hp, h⟩ := bind_ok h
  cases h
  rw [selectDevices_ok hp, hw.host, hu.host]

end Opening

end Accelerator
