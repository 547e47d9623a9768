import Accelerator.Proofs.Dispatch.Submissions
import Accelerator.Proofs.World.Fingerprints
import Accelerator.Proofs.World.Submissions

/-! A dispatcher and its registry. The dispatcher keeps the units that were found when it was made,
and the registry looks them up each time. Both give the same answers as long as the dispatcher
lives, which keeps the registry open. -/

namespace Accelerator

/-- The two answers are the same, or both say that there is no unit at this position. -/
inductive SameAnswer {α : Type} (name : String) (index : Nat) :
    Except (Stop DeviceError) α → Except DispatchError α → Prop
  | found (a : α) : SameAnswer name index (.ok a) (.ok a)
  | missing : SameAnswer name index (.error (.error (.unitNotFound name index)))
      (.error (.device (.unitNotFound name index)))

namespace Dispatcher

variable {d : Dispatcher} {r : Registry}

theorem unit_eq (hd : d.instances.map (·.unit) = r.matching d.unitName) (index : Nat) :
    d.unit index = match (r.matching d.unitName)[index]? with
      | some c => .ok c
      | none => .error (.device (.unitNotFound d.unitName index)) := by
  rw [← hd, List.getElem?_map, unit]
  rcases d.instances[index]? with _ | i <;> rfl

/-- A command that is started is counted under the name of the kernel that it is started on. -/
theorem Made.submissionsOf_run (h : d.Made) {settings : Settings} (clock : Clock settings.timeout)
    {core : Nat} {populate : Populate} {s : Site} {i : Instance} (hdry : settings.dryRun = false)
    (hfail : s.host.failStart = false) (hi : d.instances[core % d.size]? = some i)
    (hp : (populate i.fresh).2 = none) (name : String) :
    (d.run settings clock core populate s).2.2.host.submissionsOf name =
      s.host.submissionsOf name + if i.unit.kernel.name = name then 1 else 0 := by
  let j : Job := ⟨0, settings, clock, core, populate⟩
  have hfilled : j.populate i.fresh = ((populate i.fresh).1, none) := Prod.ext rfl hp
  have hn : ¬ s.host.failStart = true := Bool.eq_false_iff.mp hfail
  obtain ⟨run, host, hstart⟩ : ∃ run host, s.host.start (i.withPacket (populate i.fresh).1).run
      (clock.reading 1) (clock.reading 2) = .ok (run, host) := ⟨_, _, if_neg hn⟩
  obtain ⟨report, run', t, hrun, ⟨ht, -, -⟩, -⟩ := j.runOn_started hfilled hdry hstart
  have hkernel : (i.withPacket (populate i.fresh).1).run.kernel = i.unit.kernel.name :=
    (h.onKernel i (List.mem_of_getElem? hi)).kernel
  have hcount := Host.submissionsOf_start hstart name
  rw [hkernel] at hcount
  simp only [Dispatcher.run, hi]
  simp only [j] at hrun
  rw [hrun, ht, hcount]

end Dispatcher

namespace World

variable {w w' : World} {deed : Deed} {did : Nat} {d : Dispatcher} {r : Registry}

/-- Every dispatcher has its registry open, and has the units that match its name. -/
def Matched (w : World) : Prop :=
  ∀ did d, w.dispatchers.get? did = some d → ∃ r, w.registries.get? d.registry = some r ∧
    d.instances.map (·.unit) = r.matching d.unitName

theorem Matched.start (site : Site) : Matched { site } :=
  fun _ _ => nofun

theorem Matched.act (h : w.Matched) (deed : Deed) : (w.act deed).Matched := by
  intro did d hd
  have hacts := w.acts deed
  obtain ⟨r, hr, hunits⟩ : ∃ r, w.registries.get? d.registry = some r ∧
      d.instances.map (·.unit) = r.matching d.unitName := by
    obtain ⟨d₀, hd₀, hid, hn, hunits⟩ | hnew := hacts.dispatcher hd
    · rw [hid, hn, hunits]
      exact h did d₀ hd₀
    · exact hnew
  obtain ⟨stripeSlot, hr'⟩ := hacts.registry_of_reference (mem_references_of_dispatcher hd) hr
  exact ⟨_, hr', hunits⟩

theorem Matched.acts (h : w.Matched) (history : List Deed) : (history.foldl World.act w).Matched :=
  acts_keep (fun _ deed h => h.act deed) h history

/-- Dispatchers come only of being created, and change only by being run. -/
theorem Acts.loses_dispatchers (h : w.Acts deed w')
    (hcreate : ∀ handle unitName, deed ≠ .createDispatcher handle unitName)
    (hrun : ∀ id core populate, deed ≠ .runDispatcher id core populate) :
    w.dispatchers.Loses w'.dispatchers := by
  cases h with
  | changes hq h => exact h.loses.dispatchers
  | opens hq h => exact .of_eq h.frame.dispatchers
  | gives hh hr => exact .of_eq rfl
  | places hh hr hu ht => exact .of_eq rfl
  | makes hh hr hu hb ht => exact .of_eq rfl
  | accesses hb ht => exact .of_eq rfl
  | writes hs hx => exact .of_eq rfl
  | equips hh hr hid hn hu ht => exact absurd rfl (hcreate _ _)
  | runs hd hr hn hu ht => exact absurd rfl (hrun _ _ _)

/-- The dispatchers were made over registries that came about as they should. -/
def Fitted (w : World) : Prop :=
  ∀ did d, w.dispatchers.get? did = some d → d.Made

theorem Fitted.start (site : Site) : Fitted { site } :=
  fun _ _ => nofun

theorem Fitted.createDispatcher (h : w.Fitted) (hw : w.Settled) (handle : Nat)
    (unitName : String) : (w.act (.createDispatcher handle unitName)).Fitted := by
  simp only [World.act]
  rcases hc : w.createDispatcher handle unitName with _ | ⟨answer, w'⟩
  · exact h
  · obtain ⟨id, r, d, t, -, hr, hd, -, rfl⟩ := createDispatcher_ok hc
    obtain ⟨⟨settings, n, hmade⟩, -⟩ := hw.registry id r hr
    intro did d' hd'
    have hd' : (w.dispatchers.insert d).2.get? did = some d' := hd'
    rw [Store.get?_insert] at hd'
    split at hd'
    · cases hd'
      exact .create hmade hd
    · exact h did d' hd'

theorem Fitted.runDispatcher (h : w.Fitted) (id core : Nat) (populate : Populate) :
    (w.act (.runDispatcher id core populate)).Fitted := by
  simp only [World.act]
  rcases hc : w.runDispatcher id core populate with _ | ⟨report, w'⟩
  · exact h
  · obtain ⟨d, r, d₁, t, hd, -, hrun, rfl⟩ := runDispatcher_ok hc
    intro did d' hd'
    have hd' : (w.dispatchers.set id d₁).get? did = some d' := hd'
    rw [Store.get?_set] at hd'
    split at hd'
    · next he =>
      subst he
      rw [hd] at hd'
      cases hd'
      have hmade := Dispatcher.Made.run (h id d hd) r.settings (w.clockFor r.settings) core populate
        w.site
      rwa [hrun] at hmade
    · exact h did d' hd'

theorem Fitted.act (h : w.Fitted) (hw : w.Settled) (deed : Deed) : (w.act deed).Fitted := by
  have hacts := w.acts deed
  cases deed with
  | createDispatcher handle unitName => exact h.createDispatcher hw handle unitName
  | runDispatcher id core populate => exact h.runDispatcher id core populate
  | _ =>
    have hloses := hacts.loses_dispatchers (by simp) (by simp)
    exact fun did d hd => h did d (hloses.get? did d hd)

theorem Fitted.acts (h : w.Fitted) (hw : w.Settled) (history : List Deed) :
    (history.foldl World.act w).Fitted :=
  (acts_keep (P := fun w => w.Settled ∧ w.Fitted)
    (fun _ deed h => ⟨h.1.act deed, h.2.act h.1 deed⟩) ⟨hw, h⟩ history).2

theorem Acts.dispatchers_next_le (h : w.Acts deed w') :
    w.dispatchers.next ≤ w'.dispatchers.next := by
  cases h with
  | changes hq h => exact Nat.le_of_eq h.loses.dispatchers.next.symm
  | opens hq h => exact Nat.le_of_eq (congrArg Store.next h.frame.dispatchers).symm
  | equips hh hr hid hn hu ht => exact Nat.le_succ _
  | _ => exact Nat.le_refl _

/-- A dispatcher whose number was given is the one that it was given to. -/
theorem Acts.dispatcher_of_lt (h : w.Acts deed w') (hlt : did < w.dispatchers.next)
    (hd : w'.dispatchers.get? did = some d) : ∃ d₀, w.dispatchers.get? did = some d₀ ∧
      d.registry = d₀.registry ∧ d.unitName = d₀.unitName := by
  have hkeep (h : w.dispatchers.get? did = some d) : ∃ d₀, w.dispatchers.get? did = some d₀ ∧
      d.registry = d₀.registry ∧ d.unitName = d₀.unitName := ⟨d, h, rfl, rfl⟩
  cases h with
  | changes hq h => exact hkeep (h.loses.dispatchers.get? did d hd)
  | opens hq h => exact hkeep (h.frame.dispatchers ▸ hd)
  | equips hh hr hid hn hu ht =>
    rw [Store.get?_insert, if_neg (Nat.ne_of_gt hlt)] at hd
    exact hkeep hd
  | @runs id _ _ d₀ d' _ hd₀ hr hn hu ht =>
    rw [Store.get?_set] at hd
    split at hd
    · next he =>
      subst he
      rw [hd₀] at hd
      cases hd
      exact ⟨d₀, hd₀, hr, hn⟩
    · exact hkeep hd
  | _ => exact hkeep hd

/-- The number stands for a dispatcher of this name over this registry, as long as it is alive. -/
structure Stands (did id : Nat) (unitName : String) (w : World) : Prop where
  given : did < w.dispatchers.next
  same : ∀ d, w.dispatchers.get? did = some d → d.registry = id ∧ d.unitName = unitName

theorem Stands.act {id : Nat} {unitName : String} (h : Stands did id unitName w) (deed : Deed) :
    Stands did id unitName (w.act deed) := by
  have hacts := w.acts deed
  refine ⟨Nat.lt_of_lt_of_le h.given hacts.dispatchers_next_le, fun d hd => ?_⟩
  obtain ⟨d₀, hd₀, hid, hn⟩ := hacts.dispatcher_of_lt h.given hd
  rw [hid, hn]
  exact h.same d₀ hd₀

theorem Stands.acts {id : Nat} {unitName : String} (h : Stands did id unitName w)
    (history : List Deed) : Stands did id unitName (history.foldl World.act w) :=
  acts_keep (fun _ deed h => h.act deed) h history

theorem stands_of_createDispatcher {handle : Nat} {unitName : String}
    (h : w.createDispatcher handle unitName = some (.ok did, w')) :
    ∃ id, w.handles.get? handle = some id ∧ Stands did id unitName w' := by
  obtain ⟨id, r, d, t, hh, -, hd, hdid, rfl⟩ := createDispatcher_ok h
  obtain rfl := Except.ok.inj hdid
  refine ⟨id, hh, Nat.lt_succ_self _, fun d' hd' => ?_⟩
  rw [Store.get?_insert, if_pos rfl] at hd'
  cases hd'
  exact ⟨Dispatcher.registry_of_create hd, (Dispatcher.units_of_create hd).1⟩

theorem sameAnswer_ask {α : Type} (hd : d.instances.map (·.unit) = r.matching d.unitName)
    (w : World) (about : ComputeUnit → α) (index : Nat) :
    SameAnswer d.unitName index (w.perform (r.ask about d.unitName index)).1
      ((d.unit index).map about) := by
  rw [perform_ask, d.unit_eq hd]
  rcases (r.matching d.unitName)[index]? with _ | c
  · exact .missing
  · exact .found (about c)

theorem sameAnswer_readRegister (hd : d.instances.map (·.unit) = r.matching d.unitName)
    (w : World) (index : Nat) (offset : UInt32) :
    SameAnswer d.unitName index (w.perform (r.readRegister d.unitName index offset)).1
      (d.readRegister w.site.host index offset) := by
  rw [perform, r.run_readRegister, Dispatcher.readRegister, d.unit_eq hd]
  rcases (r.matching d.unitName)[index]? with _ | c
  · exact .missing
  · exact .found (w.site.host.readRegister c.kernel offset)

/-- The registry has as many units that match the name of the dispatcher, and gives the same answers
about them. -/
structure Agrees (d : Dispatcher) (r : Registry) (w : World) : Prop where
  size : d.size = r.unitCount d.unitName
  deviceId (index : Nat) : SameAnswer d.unitName index
    (w.perform (r.ask (·.device) d.unitName index)).1 (d.deviceId index)
  fullName (index : Nat) : SameAnswer d.unitName index
    (w.perform (r.ask (·.fullName) d.unitName index)).1 (d.fullName index)
  kernelName (index : Nat) : SameAnswer d.unitName index
    (w.perform (r.ask (·.kernelName) d.unitName index)).1 (d.kernelName index)
  instanceName (index : Nat) : SameAnswer d.unitName index
    (w.perform (r.ask (·.instanceName) d.unitName index)).1 (d.instanceName index)
  fingerprint (index : Nat) : SameAnswer d.unitName index
    (w.perform (r.ask (·.fingerprint) d.unitName index)).1 (d.fingerprint index)
  readRegister (index : Nat) (offset : UInt32) : SameAnswer d.unitName index
    (w.perform (r.readRegister d.unitName index offset)).1
    (d.readRegister w.site.host index offset)

theorem agrees_of_units (hd : d.instances.map (·.unit) = r.matching d.unitName) (w : World) :
    Agrees d r w where
  size := by rw [Registry.unitCount, ← hd, List.length_map, Dispatcher.size]
  deviceId := sameAnswer_ask hd w _
  fullName := sameAnswer_ask hd w _
  kernelName := sameAnswer_ask hd w _
  instanceName := sameAnswer_ask hd w _
  fingerprint := sameAnswer_ask hd w _
  readRegister := sameAnswer_readRegister hd w

/-- Whatever was done before a dispatcher was made and is done later, as long as it lives its
registry is open and agrees with it. A command that is started is counted for just one unit, which
the registry has at the position that the core comes to: under the name of its kernel, which is its
full name where this is plain. -/
theorem dispatcher_agrees (site : Site) (hsite : site.host.registers = [])
    (before later : List Deed) (handle : Nat) (unitName : String) (did : Nat) (u : World) :
    let v := before.foldl act { site }
    let w := later.foldl act u
    v.createDispatcher handle unitName = some (.ok did, u) →
    ∀ d, w.dispatchers.get? did = some d →
      ∃ id r, v.handles.get? handle = some id ∧ d.registry = id ∧ d.unitName = unitName ∧
        w.registries.get? id = some r ∧ Agrees d r w ∧
        ∀ (clock : Clock r.settings.timeout) (core : Nat) (populate : Populate) (s : Site)
          (i : Instance), r.settings.dryRun = false → s.host.failStart = false →
          d.instances[core % d.size]? = some i → (populate i.fresh).2 = none →
          ∃ c, (r.matching unitName)[core % r.unitCount unitName]? = some c ∧
            (IsPlainName c.fullName → c.kernel.name = c.fullName) ∧
            ∀ name, (d.run r.settings clock core populate s).2.2.host.submissionsOf name =
              s.host.submissionsOf name + if c.kernel.name = name then 1 else 0 := by
  intro v w hc d hd
  obtain ⟨id, hh, hstands⟩ := stands_of_createDispatcher hc
  obtain ⟨hid, rfl⟩ := (hstands.acts later).same d hd
  let history := before ++ .createDispatcher handle d.unitName :: later
  have hstart : Settled { site } := Settled.start hsite
  have hw : w = history.foldl act { site } := by
    simp only [history, List.foldl_append, List.foldl_cons, act, w, v, hc, Option.map_some,
      Option.getD_some]
  have hsettled : w.Settled := hw ▸ hstart.acts history
  have hmade : d.Made := (hw ▸ (Fitted.start site).acts hstart history : w.Fitted) did d hd
  have hmatched : w.Matched := hw ▸ (Matched.start site).acts history
  obtain ⟨r, hr, hunits⟩ := hmatched did d hd
  have hagrees := agrees_of_units hunits w
  refine ⟨d.registry, r, hid ▸ hh, rfl, rfl, hr, hagrees,
    fun clock core populate s i hdry hfail hi hp => ?_⟩
  have hunit : (r.matching d.unitName)[core % d.size]? = some i.unit := by
    rw [← hunits, List.getElem?_map, hi, Option.map_some]
  refine ⟨i.unit, hagrees.size ▸ hunit, fun hplain => ?_,
    hmade.submissionsOf_run clock hdry hfail hi hp⟩
  obtain ⟨e, he, heq⟩ := Registry.mem_units_of_matching (List.mem_of_getElem? hunit)
  obtain ⟨⟨settings, n, hregistry⟩, -⟩ := hsettled.registry d.registry r hr
  rw [← heq] at hplain ⊢
  exact hregistry.kernel_name_of_plain he hplain

def unfilled : Populate :=
  fun p => (p, none)

/-- The handle on the registry is dropped, and with the dispatcher it goes on. -/
theorem dispatcher_agrees_alone :
    let v : World := [Deed.openRegistry Registry.allDevices].foldl act { site := seededDevices }
    let later : List Deed := [.writeUnit 0 "dpu:1:0" 0 0x10 7, .runDispatcher 0 0 unfilled,
      .dropHandle 0]
    let w := later.foldl act (v.act (.createDispatcher 0 "dpu:1"))
    w.registryOf? 0 = none ∧
    ∃ d r, w.dispatchers.get? 0 = some d ∧ w.registries.get? d.registry = some r ∧
      r.unitCount "dpu:1" = 2 ∧
      SameAnswer "dpu:1" 0 (w.perform (r.readRegister "dpu:1" 0 0x10)).1
        (d.readRegister w.site.host 0 0x10) ∧
      SameAnswer "dpu:1" 2 (w.perform (r.ask (·.device) "dpu:1" 2)).1 (d.deviceId 2) ∧
      ∀ clock : Clock r.settings.timeout,
        (d.run r.settings clock 3 unfilled w.site).2.2.host.submissionsOf "dpu:1" = 2 := by
  intro v later w
  have hsome : (v.createDispatcher 0 "dpu:1").isSome = true := by decide +kernel
  obtain ⟨⟨answer, u⟩, hc⟩ := Option.isSome_iff_exists.mp hsome
  have hu : v.act (.createDispatcher 0 "dpu:1") = u := by
    simp only [act, hc, Option.map_some, Option.getD_some]
  have hnext : v.dispatchers.next = 0 := by decide +kernel
  obtain ⟨-, -, -, -, -, -, -, hanswer, -⟩ := createDispatcher_ok hc
  rw [hanswer, hnext, ← hu] at hc
  have hmade : (w.dispatchers.get? 0).map (·.size) = some 2 := by decide +kernel
  obtain ⟨d, hd, hsize⟩ := Option.map_eq_some_iff.mp hmade
  obtain ⟨id, r, hh, hid, hof, hr, hagrees, hruns⟩ := dispatcher_agrees seededDevices rfl
    [Deed.openRegistry Registry.allDevices] later 0 "dpu:1" 0 _ hc d hd
  obtain rfl : 0 = id := by
    have hzero : v.handles.get? 0 = some 0 := by decide +kernel
    exact Option.some.inj (hzero.symm.trans hh)
  have hcount := hof ▸ hagrees.size
  have hread := hof ▸ hagrees.readRegister 0 0x10
  have hdevice := hof ▸ hagrees.deviceId 2
  have hr' : w.registries.get? d.registry = some r := by rw [hid, hr]
  refine ⟨by decide +kernel, d, r, hd, hr', hcount.symm.trans hsize,
    by simpa only [w] using hread, hdevice, fun clock => ?_⟩
  have hfacts : (w.registries.get? 0).map (fun r => (r.settings.dryRun,
      (r.matching "dpu:1")[1]?.map (·.fullName))) = some (false, some "dpu:1") := by
    decide +kernel
  rw [hr, Option.map_some, Option.some.injEq, Prod.mk.injEq] at hfacts
  have hlt : 3 % d.size < d.instances.length := Nat.mod_lt 3 (hsize ▸ by decide)
  obtain ⟨c, hunit, hplain, hrun⟩ := hruns clock 3 unfilled w.site _ hfacts.1 (by decide +kernel)
    (List.getElem?_eq_getElem hlt) rfl
  rw [← hcount, hsize] at hunit
  have hname : c.fullName = "dpu:1" := by
    have h := hfacts.2
    rw [hunit] at h
    exact Option.some.inj h
  have hkernel := hplain (hname ▸ by decide +kernel)
  rw [hrun, hkernel, hname]
  decide +kernel

/-- A command on a unit with braces in its name is counted under the name of its kernel, which is
without them. -/
theorem run_not_counted_by_fullName :
    let cores := ["dpu:\x7ba\x7d", "dpu:a"]
    let v := World.act { site := Traffic.siteWith cores } (.openRegistry Traffic.plain)
    let u := v.act (.createDispatcher 0 "dpu")
    ∃ d r c, u.dispatchers.get? 0 = some d ∧ u.registries.get? d.registry = some r ∧
      r.settings.dryRun = false ∧ u.site.host.failStart = false ∧
      (r.matching "dpu")[1 % r.unitCount "dpu"]? = some c ∧
      ¬ ∀ name, (d.run r.settings (Clock.steady 0 50 _) 1 unfilled u.site).2.2.host.submissionsOf
        name = u.site.host.submissionsOf name + if c.fullName = name then 1 else 0 := by
  intro cores v u
  have hfacts : (u.dispatchers.get? 0).bind (fun d => (u.registries.get? d.registry).map fun r =>
      (r.settings.dryRun, (r.matching "dpu")[1 % r.unitCount "dpu"]?.map (·.fullName),
        (d.run r.settings (Clock.steady 0 50 _) 1 unfilled u.site).2.2.host.submissionsOf
          "dpu:\x7ba\x7d")) = some (false, some "dpu:\x7ba\x7d", 0) := by
    decide +kernel
  obtain ⟨d, hd, hfacts⟩ := Option.bind_eq_some_iff.mp hfacts
  obtain ⟨r, hr, hfacts⟩ := Option.map_eq_some_iff.mp hfacts
  simp only [Prod.mk.injEq] at hfacts
  obtain ⟨hdry, hunit, hzero⟩ := hfacts
  obtain ⟨c, hc, hname⟩ := Option.map_eq_some_iff.mp hunit
  refine ⟨d, r, c, hd, hr, hdry, by decide +kernel, hc, fun h => ?_⟩
  have hone := h "dpu:\x7ba\x7d"
  rw [hzero, if_pos hname] at hone
  cases hone

end World

end Accelerator
