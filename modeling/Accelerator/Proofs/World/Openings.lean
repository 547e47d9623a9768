import Accelerator.Proofs.Registry.Progress
import Accelerator.Proofs.Store

/-! How openings of a world begin, go on and end, with what each outcome leaves behind. What opening
registries comes to, at once or among other things, is told by its steps. -/

namespace Accelerator

namespace World

open Opening

variable {w w' : World} {settings : Settings} {id n : Nat} {stop : Stop DeviceError}

theorem beginOpening_started (h : w.beginOpening settings = (.ok id, w')) :
    id = w.openings.next ∧ ∃ o t, (start settings).run w.site = (.ok o, t) ∧
      w' = { w with site := t, openings := (w.openings.insert o).2 } := by
  unfold beginOpening perform at h
  rcases hr : (start settings).run w.site with ⟨e | o, t⟩ <;> simp only [hr] at h <;> cases h
  exact ⟨rfl, o, t, rfl, rfl⟩

/-- The opening has got as far as `o'`, and is registered as `r`, in what was the site `s`. -/
structure Registered (o o' : Opening) (r : Registry) (s t : Site) : Prop where
  proceeds : o.Proceeds o' s t
  settings : r.settings = o.settings
  devices : r.devices = o'.bound
  covers : Covers r.devices r.units

/-- What going on with the opening `o` comes to. -/
inductive Continued (w : World) (id : Nat) (o : Opening) : Opened → World → Prop
  | ready {o' : Opening} {r : Registry} {t : Site} (h : Registered o o' r w.site t) :
      Continued w id o (.ready w.handles.next)
        ({ w with site := t, openings := w.openings.erase id }.addRegistry r).2
  | waiting {o' : Opening} {t : Site} (h : o.Proceeds o' w.site t) :
      Continued w id o (.waiting id) { w with site := t, openings := w.openings.set id o' }
  | refused {stop : Stop DeviceError} {t : Site} (h : o.Fails w.site t) :
      Continued w id o (.refused stop) { w with site := t, openings := w.openings.erase id }

/-- The ways that going on with an opening can take, with the runs that each is made of. -/
inductive Course (w : World) (id n : Nat) (o : Opening) : Opened → World → Prop
  | ready {o' : Opening} {r : Registry} {t u : Site} (hb : (bindUpTo n o).run w.site = (.ok o', t))
      (hp : o'.pending = []) (hf : o'.finish.run t = (.ok r, u)) :
      Course w id n o (.ready w.handles.next)
        ({ w with site := u, openings := w.openings.erase id }.addRegistry r).2
  | waiting {o' : Opening} {t : Site} (hb : (bindUpTo n o).run w.site = (.ok o', t)) :
      Course w id n o (.waiting id) { w with site := t, openings := w.openings.set id o' }
  | unbound {stop : Stop DeviceError} {t : Site}
      (hb : (bindUpTo n o).run w.site = (.error stop, t)) :
      Course w id n o (.refused stop) { w with site := t, openings := w.openings.erase id }
  | unfinished {o' : Opening} {stop : Stop DeviceError} {t u : Site}
      (hb : (bindUpTo n o).run w.site = (.ok o', t)) (hf : o'.finish.run t = (.error stop, u)) :
      Course w id n o (.refused stop) { w with site := u, openings := w.openings.erase id }

theorem continueOpening_course {result : Opened}
    (h : w.continueOpening id n = some (result, w')) :
    ∃ o, w.openings.get? id = some o ∧ Course w id n o result w' := by
  obtain ⟨o, hid, h⟩ := Option.map_eq_some_iff.mp h
  refine ⟨o, hid, ?_⟩
  unfold perform at h
  rcases hb : (bindUpTo n o).run w.site with ⟨e | o', t⟩ <;> simp only [hb] at h
  · cases h
    exact Course.unbound hb
  · unfold settleOpening perform at h
    by_cases he : o'.pending.isEmpty = true
    · rw [if_pos he] at h
      rcases hf : o'.finish.run t with ⟨e | r, u⟩ <;> simp only [hf] at h <;> cases h
      · exact Course.unfinished hb hf
      · exact Course.ready hb (List.isEmpty_iff.mp he) hf
    · rw [if_neg he] at h
      cases h
      exact Course.waiting hb

/-- An opening that has to wait has gone on without an error, and has a device left to bind. -/
theorem pending_of_waiting {i : Nat} (h : w.continueOpening id n = some (.waiting i, w')) :
    ∃ o o' t, w.openings.get? id = some o ∧ (bindUpTo n o).run w.site = (.ok o', t) ∧
      o'.pending ≠ [] := by
  obtain ⟨o, hid, h⟩ := Option.map_eq_some_iff.mp h
  unfold perform at h
  rcases hb : (bindUpTo n o).run w.site with ⟨e | o', t⟩ <;> simp only [hb] at h
  · cases h
  · refine ⟨o, o', t, hid, hb, fun hp => ?_⟩
    unfold settleOpening perform at h
    rw [hp] at h
    rcases hf : o'.finish.run t with ⟨e | r, u⟩ <;> simp only [hf] at h <;> cases h

theorem openRegistry_course {result : Opened} (h : w.openRegistry settings = (result, w')) :
    (∃ stop t, (start settings).run w.site = (.error stop, t) ∧ result = .refused stop ∧
      w' = { w with site := t }) ∨
    ∃ o t, (start settings).run w.site = (.ok o, t) ∧
      Course { w with site := t, openings := (w.openings.insert o).2 } w.openings.next
        o.pending.length o result w' := by
  unfold openRegistry beginOpening perform at h
  rcases hs : (start settings).run w.site with ⟨stop | o, t⟩ <;> simp only [hs] at h
  · cases h
    exact Or.inl ⟨stop, t, rfl, rfl, rfl⟩
  · have hid : (w.openings.insert o).2.get? w.openings.next = some o := by
      rw [Store.get?_insert, if_pos rfl]
    refine Or.inr ⟨o, t, rfl, ?_⟩
    have hgo : continueOpening { w with site := t, openings := (w.openings.insert o).2 }
        w.openings.next o.pending.length = some (result, w') := by
      have hnext : (w.openings.insert o).1 = w.openings.next := rfl
      rw [hnext, resumeOpening] at h
      simp only [hid, Option.bind_some, continueOpening, Option.map_some, Option.getD_some] at h
      simp only [continueOpening, hid, Option.map_some, h]
    obtain ⟨o', hid', hc⟩ := continueOpening_course hgo
    obtain rfl : o = o' := Option.some.inj (hid.symm.trans hid')
    exact hc

theorem Course.continued {o : Opening} {result : Opened} (h : Course w id n o result w') :
    Continued w id o result w' := by
  cases h with
  | @ready o' r t u hb hp hf =>
    obtain ⟨halike, hs, hd, hc⟩ := finish_ok hf
    have hproceeds := bindUpTo_ok hb
    exact .ready ⟨hproceeds.trans (.of_alike halike o'), hs.trans hproceeds.settings, hd, hd ▸ hc⟩
  | waiting hb => exact .waiting (bindUpTo_ok hb)
  | unbound hb => exact .refused (bindUpTo_error hb)
  | unfinished hb hf => exact .refused ((bindUpTo_ok hb).fails (finish_error hf))

/-- Going on with an opening leaves alone what is locked. -/
theorem Continued.spares {o : Opening} {result : Opened} (h : Continued w id o result w') :
    w.site.Spares o.settings.lockDirectory w'.site := by
  cases h with
  | ready h => exact h.proceeds.spares
  | waiting h => exact h.spares
  | refused h => exact h.spares

theorem openRegistry_continued {result : Opened} (h : w.openRegistry settings = (result, w')) :
    (∃ stop t, result = .refused stop ∧ w' = { w with site := t } ∧ w.site.Alike t) ∨
    ∃ o t, w.site.Alike t ∧ o.settings = settings ∧ o.bound = [] ∧
      o.pending = settings.selection.resolve w.site.host.deviceCount ∧
      Continued { w with site := t, openings := (w.openings.insert o).2 } w.openings.next o
        result w' := by
  obtain ⟨stop, t, hs, rfl, rfl⟩ | ⟨o, t, hs, hc⟩ := openRegistry_course h
  · exact Or.inl ⟨stop, t, rfl, rfl, start_alike hs⟩
  · obtain ⟨hset, hb⟩ := start_ok hs
    exact Or.inr ⟨o, t, start_alike hs, hset, hb, start_pending hs, hc.continued⟩

/-- An opening that is refused takes nothing, whatever it had locked on the way. -/
theorem openRegistry_refused (h : w.openRegistry settings = (.refused stop, w')) :
    ∃ t openings, w' = { w with site := t, openings } ∧ w.site.Steady t := by
  obtain ⟨_, t, -, rfl, halike⟩ | ⟨o, t, halike, -, hbound, -, hc⟩ := openRegistry_continued h
  · exact ⟨t, w.openings, rfl, Site.Steady.of_alike halike⟩
  · cases hc with
    | @refused _ u hfails =>
      have hheld : u.held = t.held := by
        rw [hfails.held, lockFiles, hbound]
        rfl
      have hs : t.Steady u := ⟨hheld, hfails.files⟩
      exact ⟨_, _, rfl, Site.lasting_steady.trans (Site.Steady.of_alike halike) hs⟩

end World

theorem Opening.stripeSlot_of_finish {o : Opening} {r : Registry} {s t : Site}
    (h : o.finish.run s = (.ok r, t)) : r.stripeSlot = 0 := by
  unfold finish at h
  rw [Action.run_releasing] at h
  rcases hx : o.register.run s with ⟨e | r', t⟩ <;> rw [hx] at h <;> cases h
  obtain ⟨_, _, -, hx⟩ := Action.bind_ok hx
  obtain ⟨_, _, -, hx⟩ := Action.bind_ok hx
  obtain ⟨_, _, -, hx⟩ := Action.bind_ok hx
  cases hx
  rfl

namespace World

/-- What opening registries comes to, step by step, where none is begun but with its locks in this
directory, and no opening with a number below `n` is gone on with. -/
inductive Opens (n : Nat) (directory : Option String) : World → World → Prop
  | reported {w : World} {t : Site} (h : w.site.Alike t) : Opens n directory w { w with site := t }
  | begun {w : World} {settings : Settings} {o : Opening} {t : Site}
      (hd : settings.lockDirectory ∈ directory)
      (h : (Opening.start settings).run w.site = (.ok o, t)) :
      Opens n directory w { w with site := t, openings := (w.openings.insert o).2 }
  | advanced {w w' : World} {id m : Nat} {o : Opening} {result : Opened} (hn : n ≤ id)
      (hid : w.openings.get? id = some o) (hc : Course w id m o result w') : Opens n directory w w'
  | remembered {w : World} (slot : WeakSlot) : Opens n directory w { w with shared := slot }
  | trans {w w' w'' : World} (h : Opens n directory w w') (h' : Opens n directory w' w'') :
      Opens n directory w w''

/-- Buffers and dispatchers are the same, no number is given twice, and the host has aged. -/
structure Frame (w w' : World) : Prop where
  buffers : w'.buffers = w.buffers
  dispatchers : w'.dispatchers = w.dispatchers
  openings : w.openings.next ≤ w'.openings.next
  registries : w.registries.next ≤ w'.registries.next
  site : w.site.Ages w'.site

theorem Frame.trans {w w' w'' : World} (h : w.Frame w') (h' : w'.Frame w'') : w.Frame w'' where
  buffers := h'.buffers.trans h.buffers
  dispatchers := h'.dispatchers.trans h.dispatchers
  openings := Nat.le_trans h.openings h'.openings
  registries := Nat.le_trans h.registries h'.registries
  site := h.site.trans h'.site

theorem Course.frame {w w' : World} {id m : Nat} {o : Opening} {result : Opened}
    (hc : Course w id m o result w') : w.Frame w' := by
  have hbind := Opening.bindUpTo_ages m o w.site
  cases hc with
  | @ready o' r t u hb hp hf =>
    have hfinish := o'.finish_ages t
    rw [hb] at hbind
    rw [hf] at hfinish
    exact ⟨rfl, rfl, Nat.le_refl _, Nat.le_succ _, hbind.trans hfinish⟩
  | waiting hb =>
    rw [hb] at hbind
    exact ⟨rfl, rfl, Nat.le_refl _, Nat.le_refl _, hbind⟩
  | unbound hb =>
    rw [hb] at hbind
    exact ⟨rfl, rfl, Nat.le_refl _, Nat.le_refl _, hbind⟩
  | @unfinished o' stop t u hb hf =>
    have hfinish := o'.finish_ages t
    rw [hb] at hbind
    rw [hf] at hfinish
    exact ⟨rfl, rfl, Nat.le_refl _, Nat.le_refl _, hbind.trans hfinish⟩

/-- What binding devices keeps, and what else is done does not disturb, is kept by going on with
an opening. A registry was there before, or comes from the opening that has gone on. -/
theorem Course.keeps {w w' : World} {id m k : Nat} {o : Opening} {result : Opened}
    {P : Opening → Site → Prop} (hc : Course w id m o result w') (hid : w.openings.get? id = some o)
    (hages : ∀ o s t, s.Ages t → P o s → P o t)
    (hbind : ∀ o' t, (Opening.bindUpTo m o).run w.site = (.ok o', t) → P o w.site → P o' t)
    (hw : ∀ i o, k ≤ i → w.openings.get? i = some o → P o w.site) :
    (∀ i o', k ≤ i → w'.openings.get? i = some o' → P o' w'.site) ∧
      ∀ i r, w'.registries.get? i = some r → w.registries.get? i = some r ∨
        w.registries.next ≤ i ∧ ∃ o' t, o'.pending = [] ∧ o'.finish.run t = (.ok r, w'.site) ∧
          (k ≤ id → P o' t) := by
  have haged := hc.frame.site
  have hother : ∀ i o', k ≤ i → w.openings.get? i = some o' → P o' w'.site :=
    fun i o' hk hi => hages o' _ _ haged (hw i o' hk hi)
  have herase : ∀ i o', k ≤ i → (w.openings.erase id).get? i = some o' → P o' w'.site :=
    fun i o' hk hi => hother i o' hk ((Store.Loses.erase w.openings id).get? i o' hi)
  cases hc with
  | @ready o' r t u hb hp hf =>
    refine ⟨herase, fun i r' hr' => ?_⟩
    have hr' : (w.registries.insert r).2.get? i = some r' := hr'
    rw [Store.get?_insert] at hr'
    split at hr'
    · next he =>
      cases hr'
      exact Or.inr ⟨Nat.le_of_eq he, o', t, hp, hf, fun hk => hbind o' t hb (hw id o hk hid)⟩
    · exact Or.inl hr'
  | @waiting o' t hb =>
    refine ⟨fun i o'' hk hi => ?_, fun i r hr => Or.inl hr⟩
    have hi : (w.openings.set id o').get? i = some o'' := hi
    rw [Store.get?_set] at hi
    split at hi
    · next he =>
      subst he
      rw [hid] at hi
      cases hi
      exact hbind o' t hb (hw id o hk hid)
    · exact hother i o'' hk hi
  | unbound hb => exact ⟨herase, fun i r hr => Or.inl hr⟩
  | unfinished hb hf => exact ⟨herase, fun i r hr => Or.inl hr⟩

namespace Opens

variable {n : Nat} {directory : Option String} {w w' : World}

theorem refl (w : World) : Opens n directory w w := reported (Site.Alike.refl w.site)

theorem frame (h : Opens n directory w w') : w.Frame w' := by
  induction h with
  | reported h => exact ⟨rfl, rfl, Nat.le_refl _, Nat.le_refl _, Host.Ages.of_eq h.host⟩
  | begun hd h =>
    have halike := Opening.start_alike h
    exact ⟨rfl, rfl, Nat.le_succ _, Nat.le_refl _, Host.Ages.of_eq halike.host⟩
  | advanced hn hid hc => exact hc.frame
  | remembered slot => exact ⟨rfl, rfl, Nat.le_refl _, Nat.le_refl _, Host.Ages.refl _⟩
  | trans h h' ih ih' => exact ih.trans ih'

theorem ages (h : Opens n directory w w') : w.site.Ages w'.site := h.frame.site

/-- What holds of an opening when it is begun, is kept by binding devices, and is not disturbed by
what else is done, holds of all openings from number `k` on if it held before. A registry was there
before, or comes from such an opening. -/
theorem keeps {k : Nat} {P : Opening → Site → Prop} (h : Opens n directory w w')
    (hages : ∀ o s t, s.Ages t → P o s → P o t)
    (hstart : ∀ settings o s t, w.site.Ages s → (Opening.start settings).run s = (.ok o, t) →
      P o t)
    (hbind : ∀ m o o' s t, (Opening.bindUpTo m o).run s = (.ok o', t) → P o s → P o' t)
    (hw : ∀ id o, k ≤ id → w.openings.get? id = some o → P o w.site) :
    (∀ id o, k ≤ id → w'.openings.get? id = some o → P o w'.site) ∧
      ∀ id r, w'.registries.get? id = some r → w.registries.get? id = some r ∨
        w.registries.next ≤ id ∧ ∃ o s t, o.pending = [] ∧ o.finish.run s = (.ok r, t) ∧
          t.Ages w'.site ∧ (k ≤ n → P o s) := by
  induction h with
  | @reported w t h =>
    refine ⟨fun id o hk hid => ?_, fun id r hr => Or.inl hr⟩
    exact hages o w.site t (Host.Ages.of_eq h.host) (hw id o hk hid)
  | @begun w settings o t hd h =>
    refine ⟨fun id o' hk hid => ?_, fun id r hr => Or.inl hr⟩
    have hbegun := hstart settings o w.site t (Host.Ages.refl _) h
    have haged := (begun (n := n) hd h).ages
    rw [Store.get?_insert] at hid
    split at hid
    · cases hid
      exact hbegun
    · exact hages o' w.site t haged (hw id o' hk hid)
  | @advanced w w' i m o result hn hid hc =>
    obtain ⟨hkept, hmade⟩ := hc.keeps hid hages (fun o' t => hbind m o o' w.site t) hw
    refine ⟨hkept, fun id r hr => (hmade id r hr).imp_right ?_⟩
    rintro ⟨hle, o', t, hp, hf, hP⟩
    exact ⟨hle, o', t, w'.site, hp, hf, Host.Ages.refl _, fun hk => hP (Nat.le_trans hk hn)⟩
  | remembered slot => exact ⟨hw, fun id r hr => Or.inl hr⟩
  | @trans w w' w'' h h' ih ih' =>
    -- what is begun in the second part is begun where the host is still older
    obtain ⟨hkept, hmade⟩ := ih hstart hw
    have hstart' : ∀ settings o s t, w'.site.Ages s →
        (Opening.start settings).run s = (.ok o, t) → P o t :=
      fun settings o s t ha => hstart settings o s t (h.ages.trans ha)
    obtain ⟨hkept', hmade'⟩ := ih' hstart' hkept
    refine ⟨hkept', fun id r hr => ?_⟩
    rcases hmade' id r hr with hr | ⟨hid, hnew⟩
    · rcases hmade id r hr with hr | ⟨hid, o, s, t, hp, hf, ha, hP⟩
      · exact Or.inl hr
      · exact Or.inr ⟨hid, o, s, t, hp, hf, ha.trans h'.ages, hP⟩
    · exact Or.inr ⟨Nat.le_trans h.frame.registries hid, hnew⟩

/-- A registry was there before, or is new and has placed no buffer yet. -/
theorem registry (h : Opens n directory w w') (id : Nat) (r : Registry)
    (hr : w'.registries.get? id = some r) : w.registries.get? id = some r ∨
      w.registries.next ≤ id ∧ r.stripeSlot = 0 := by
  obtain ⟨-, hmade⟩ := h.keeps (k := 0) (P := fun _ _ => True) (fun _ _ _ _ _ => trivial)
    (fun _ _ _ _ _ _ => trivial) (fun _ _ _ _ _ _ _ => trivial) (fun _ _ _ _ => trivial)
  rcases hmade id r hr with hr | ⟨hid, _, _, _, -, hf, -⟩
  · exact Or.inl hr
  · exact Or.inr ⟨hid, Opening.stripeSlot_of_finish hf⟩

/-- A registry that is open stays open. -/
theorem get?_registry (h : Opens n directory w w') {id : Nat} {r : Registry}
    (hr : w.registries.get? id = some r) : w'.registries.get? id = some r := by
  induction h with
  | reported h => exact hr
  | begun hd h => exact hr
  | @advanced w w' i m o result hn hid hc =>
    cases hc with
    | ready hb hp hf =>
      have hlt := Store.lt_next_of_get? hr
      exact (Store.get?_insert _ _ _).trans ((if_neg (Nat.ne_of_gt hlt)).trans hr)
    | waiting hb => exact hr
    | unbound hb => exact hr
    | unfinished hb hf => exact hr
  | remembered slot => exact hr
  | trans h h' ih ih' => exact ih' (ih hr)

theorem beginOpening (w : World) (settings : Settings) :
    Opens n settings.lockDirectory w (w.beginOpening settings).2 := by
  unfold World.beginOpening World.perform
  rcases hr : (Opening.start settings).run w.site with ⟨e | o, t⟩
  · exact reported (Opening.start_alike hr)
  · exact begun rfl hr

theorem continueOpening (w : World) (id m : Nat) :
    Opens id directory w (((w.continueOpening id m).map (·.2)).getD w) := by
  rcases hc : w.continueOpening id m with _ | ⟨result, w'⟩
  · exact refl w
  · obtain ⟨o, hid, hcourse⟩ := continueOpening_course hc
    exact advanced (Nat.le_refl id) hid hcourse

theorem openRegistry (w : World) (settings : Settings) :
    Opens w.openings.next settings.lockDirectory w (w.openRegistry settings).2 := by
  rcases hr : w.openRegistry settings with ⟨result, w'⟩
  obtain ⟨stop, t, hs, -, rfl⟩ | ⟨o, t, hs, hc⟩ := openRegistry_course hr
  · exact reported (Opening.start_alike hs)
  · refine trans (begun rfl hs) (advanced (Nat.le_refl _) ?_ hc)
    exact (Store.get?_insert _ _ _).trans (if_pos rfl)

end Opens

/-- The shared registry gets one more handle if there is one, and else may be opened. -/
theorem openShared_cases (w : World) (environment : List (String × String)) :
    (∃ registry r, w.registries.get? registry = some r ∧
      (w.openShared environment).2 = (w.addHandle registry).2) ∨
    Opens w.openings.next ((Settings.ofEnvironment environment).toOption.map (·.lockDirectory)) w
      (w.openShared environment).2 := by
  unfold World.openShared
  split
  · next registry hslot =>
    obtain ⟨r, hr⟩ := Option.isSome_iff_exists.mp (Option.filter_eq_some_iff.mp hslot).2
    exact Or.inl ⟨registry, r, hr, rfl⟩
  · split
    · exact Or.inr (.refl w)
    · split
      · exact Or.inr (.refl w)
      · next settings hsettings =>
        have hopen := Opens.openRegistry w settings
        rw [hsettings]
        split
        · next handle w' hr =>
          rw [hr] at hopen
          exact Or.inr (hopen.trans (.remembered _))
        · exact Or.inr hopen

end World

end Accelerator
