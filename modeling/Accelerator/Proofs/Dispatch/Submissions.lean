import Accelerator.Proofs.Dispatch.Serial
import Accelerator.Proofs.Registry.Units
import Mathlib.Algebra.BigOperators.Group.Finset.Piecewise

/-! What a host counts while calls overlap. Every command that is started is counted once, under
the name of the kernel that it was started on, and the last one started has the last packet. -/

namespace Accelerator

open Accelerator.Action

/-- The run is on the kernel of the unit, which is the one asked for with the full name. -/
structure Instance.OnKernel (i : Instance) : Prop where
  kernel : i.run.kernel = i.unit.kernel.name
  named : i.unit.kernel.name = kernelNameFor i.unit.fullName

/-- A dispatcher over the units of an open registry, with whatever it has run since. -/
inductive Dispatcher.Made : Dispatcher → Prop
  | create {settings : Settings} {count id : Nat} {r : Registry} {unitName : String} {ε : Type}
      {d : Dispatcher} {s t : Site} (hr : r.Made settings count)
      (h : (create r id unitName : Action ε Dispatcher).run s = (.ok d, t)) : Made d
  | run {d : Dispatcher} (hd : Made d) (settings : Settings) (clock : Clock settings.timeout)
      (core : Nat) (populate : Populate) (s : Site) :
      Made (d.run settings clock core populate s).2.1

theorem Run.kernel_wait (r : Run) (now : Nat) : (r.wait now).kernel = r.kernel := by
  obtain ⟨polls, hw | ⟨state, hw⟩⟩ := r.wait_cases now <;> rw [hw]
  rfl

namespace Instance.OnKernel

variable {i : Instance}

theorem withPacket (h : i.OnKernel) (p : Packet) : (i.withPacket p).OnKernel :=
  ⟨h.kernel, h.named⟩

theorem withRun (h : i.OnKernel) {r : Run} (hr : r.kernel = i.run.kernel) :
    OnKernel { i with run := r } :=
  ⟨hr.trans h.kernel, h.named⟩

end Instance.OnKernel

theorem Job.Lands.kernel {j : Job} {seen : Packet} {k : Nat} {r r' : Run} {report : RunReport}
    (h : j.Lands seen k r report r') : r'.kernel = r.kernel := by
  induction h with
  | last h => exact Run.kernel_wait _ _
  | next h hl ih => exact ih.trans (Run.kernel_wait _ _)

theorem Job.onKernel_runOn {j : Job} {i : Instance} (h : i.OnKernel) (s : Site) :
    (Dispatcher.runOn j.settings j.clock j.core j.populate i s).2.1.OnKernel := by
  rcases hp : j.populate i.fresh with ⟨p, _ | f⟩
  · cases hdry : j.settings.dryRun with
    | true =>
      obtain ⟨t, hr, -⟩ := runOn_dry (s := s) hp hdry
      rw [hr]
      exact h.withPacket p
    | false =>
      rcases hs : s.host.start (i.withPacket p).run (j.clock.reading 1) (j.clock.reading 2) with
        e | ⟨r, host⟩
      · obtain ⟨t, hr, -⟩ := runOn_refused hp hdry hs
        rw [hr]
        exact h.withPacket p
      · obtain ⟨report, r', t, hr, -, hl⟩ := runOn_started hp hdry hs
        obtain ⟨-, rfl, -⟩ := Host.start_ok hs
        rw [hr]
        exact h.withRun hl.kernel
  · rw [runOn_fault hp]
    exact h.withPacket p

theorem Dispatcher.Made.onKernel {d : Dispatcher} (h : d.Made) : ∀ i ∈ d.instances, i.OnKernel := by
  induction h with
  | create hr h =>
    cases h
    intro i hm
    obtain ⟨u, hu, rfl⟩ := List.mem_map.mp hm
    obtain ⟨e, he, rfl⟩ := List.mem_map.mp hu
    obtain ⟨device, name, -, -, hfound⟩ := hr.indexes.2.found e (List.mem_of_mem_filter he)
    refine ⟨rfl, ?_⟩
    rw [hfound.kernelName, hfound.fullName]
  | @run d hd settings clock core populate s ih =>
    intro i hm
    rcases hi : d.instances[core % d.size]? with _ | i₀ <;> simp only [Dispatcher.run, hi] at hm
    · exact ih i hm
    · let j : Job := ⟨0, settings, clock, core, populate⟩
      rcases List.mem_or_eq_of_mem_set hm with hm | rfl
      · exact ih i hm
      · exact j.onKernel_runOn (ih i₀ (List.mem_of_getElem? hi)) s

/-- The counts by kernel add up to the count of all submissions. -/
def Host.Tallied (h : Host) : Prop :=
  ∀ names : Finset String, (∀ name, h.submissionsOf name ≠ 0 → name ∈ names) →
    ∑ name ∈ names, h.submissionsOf name = h.submissions

namespace Host

variable {h h' : Host} {r r' : Run} {accepted running : Nat}

theorem submissionsOf_start (hs : h.start r accepted running = .ok (r', h')) (name : String) :
    h'.submissionsOf name = h.submissionsOf name + if r.kernel = name then 1 else 0 := by
  obtain ⟨-, -, rfl⟩ := start_ok hs
  simp only [submissionsOf, Table.get?_put]
  split
  · next he => rw [← he, Option.getD_some]
  · rw [Nat.add_zero]

theorem tallied_of_untouched (hs : h.submissions = 0) (hk : h.submissionsByKernel = []) :
    h.Tallied := by
  intro names _
  rw [hs]
  refine Finset.sum_eq_zero fun name _ => ?_
  rw [submissionsOf, hk]
  rfl

theorem Tallied.start (ht : h.Tallied) (hs : h.start r accepted running = .ok (r', h')) :
    h'.Tallied := by
  intro names hn
  have hcount := submissionsOf_start hs
  have hbefore : ∀ name, h.submissionsOf name ≠ 0 → name ∈ names := fun name hne => by
    refine hn name ?_
    rw [hcount]
    omega
  have hkernel : r.kernel ∈ names := by
    refine hn _ ?_
    rw [hcount, if_pos rfl]
    omega
  obtain ⟨-, -, hh⟩ := start_ok hs
  rw [Finset.sum_congr rfl fun name _ => hcount name, Finset.sum_add_distrib, ht names hbefore,
    Finset.sum_ite_eq, if_pos hkernel, hh]

end Host

namespace Traffic

variable {n : Nat} {jobs : Fin n → Job} {x x' : Traffic n} {k : Fin n} {h : Host}

/-- What the host has counted since it was like `h`. -/
structure Counted (h : Host) (x : Traffic n) : Prop where
  submissions : x.host.submissions = h.submissions + x.starts.length
  byKernel : ∀ name, x.host.submissionsOf name =
    h.submissionsOf name + x.starts.countP fun e => e.unit.kernel.name = name
  tallied : h.Tallied → x.host.Tallied
  last : x.host.lastPacket = (x.starts.getLast?.map (·.packet)).or h.lastPacket
  running : ∀ e ∈ x.starts, e.packet.state = .running
  named : ∀ e ∈ x.starts, e.unit.kernel.name = kernelNameFor e.unit.fullName
  fleet : ∀ slot i, x.fleet.get? slot = some i → i.OnKernel

namespace Counted

theorem start (fleet : Fleet) (host : Host)
    (hf : ∀ slot i, fleet.get? slot = some i → i.OnKernel) :
    Counted host ({ fleet, host } : Traffic n) where
  submissions := rfl
  byKernel := fun _ => rfl
  tallied := id
  last := rfl
  running := fun _ hm => by cases hm
  named := fun _ hm => by cases hm
  fleet := hf

theorem fleet_put (h' : x.Counted h) {i i' : Instance} (hi : x.find? (jobs k) = some i)
    (hk : i.OnKernel → i'.OnKernel) : ∀ slot i'', (x.put (jobs k) i').fleet.get? slot = some i'' →
      i''.OnKernel := by
  intro slot i'' hget
  rw [put, Fleet.get?_put] at hget
  split at hget
  · next hslot =>
    obtain ⟨_, -, rfl⟩ := Option.map_eq_some_iff.mp hget
    exact hk (h'.fleet _ i hi)
  · exact h'.fleet slot i'' hget

theorem keep (h' : x.Counted h) (hhost : x'.host = x.host) (hstarts : x'.starts = x.starts)
    (hf : ∀ slot i, x'.fleet.get? slot = some i → i.OnKernel) : x'.Counted h := by
  obtain ⟨hs, hb, ht, hl, hr, hn, -⟩ := h'
  rw [← hhost, ← hstarts] at hs hl
  rw [← hhost] at ht
  refine ⟨hs, fun name => ?_, ht, hl, ?_, ?_, hf⟩
  · rw [hhost, hstarts, hb]
  · rwa [hstarts]
  · rwa [hstarts]

theorem moves (h' : x.Counted h) (hm : x.Moves jobs k x') : x'.Counted h := by
  cases hm with
  | busy hs hi => exact h'.keep rfl rfl h'.fleet
  | fault hs hi hfree hp => exact h'.keep rfl rfl (h'.fleet_put hi fun h => h.withPacket _)
  | fill hs hi hfree hp => exact h'.keep rfl rfl (h'.fleet_put hi fun h => h.withPacket _)
  | dry hs hdry => exact h'.keep rfl rfl h'.fleet
  | refuse hs hi hdry he => exact h'.keep rfl rfl h'.fleet
  | @start seen i run host hs hi hdry hr =>
    have hon := h'.fleet _ i hi
    obtain ⟨-, hrun, hhost⟩ := Host.start_ok hr
    refine ⟨?_, fun name => ?_, fun ht => (h'.tallied ht).start hr, ?_, fun e hm => ?_,
      fun e hm => ?_, h'.fleet_put hi fun h => h.withRun (by rw [hrun]; rfl)⟩
    · have hs := h'.submissions
      simp only [goTo, started, put, hhost, List.length_append, List.length_singleton]
      omega
    · simp only [goTo, started, put, List.countP_append, List.countP_singleton, decide_eq_true_eq,
        Host.submissionsOf_start hr, h'.byKernel name, hon.kernel]
      omega
    · simp only [goTo, started, hhost, List.getLast?_concat]
      rfl
    · rcases List.mem_append.mp hm with hm | hm
      · exact h'.running e hm
      · obtain rfl := List.mem_singleton.mp hm
        rw [hrun]
        rfl
    · rcases List.mem_append.mp hm with hm | hm
      · exact h'.named e hm
      · obtain rfl := List.mem_singleton.mp hm
        exact hon.named
  | poll hs hi hend =>
    exact h'.keep rfl rfl (h'.fleet_put hi fun h => h.withRun (Run.kernel_wait _ _))
  | land hs hi hend =>
    exact h'.keep rfl rfl (h'.fleet_put hi fun h => h.withRun (Run.kernel_wait _ _))

theorem play (h' : x.Counted h) (schedule : List (Fin n)) : (x.play jobs schedule).Counted h :=
  play_keeps (fun _ _ _ h' hm => h'.moves hm) h' schedule

end Counted

/-- Nothing is counted, or a command is started and counted. -/
theorem starts_attempt (jobs : Fin n → Job) (x : Traffic n) (k : Fin n) :
    ((x.attempt jobs k).host = x.host ∧ (x.attempt jobs k).starts = x.starts) ∨
      ∃ e, e.call = k ∧ (x.attempt jobs k).starts = x.starts ++ [e] := by
  unfold attempt
  rcases ha : x.advance jobs k with _ | x'
  · exact Or.inl ⟨rfl, rfl⟩
  · cases moves_of_advance ha with
    | start hs hi hdry hr => exact Or.inr ⟨_, rfl, rfl⟩
    | busy hs hi => exact Or.inl ⟨rfl, rfl⟩
    | fault hs hi hfree hp => exact Or.inl ⟨rfl, rfl⟩
    | fill hs hi hfree hp => exact Or.inl ⟨rfl, rfl⟩
    | dry hs hdry => exact Or.inl ⟨rfl, rfl⟩
    | refuse hs hi hdry he => exact Or.inl ⟨rfl, rfl⟩
    | poll hs hi hend => exact Or.inl ⟨rfl, rfl⟩
    | land hs hi hend => exact Or.inl ⟨rfl, rfl⟩

/-- A call that submitted a command was no dry run and got the state of the command; one that
submitted none was a dry run or got an error. -/
def Told (j : Job) : Stage → Prop
  | .polling _ _ _ => j.settings.dryRun = false
  | .ended report none => j.settings.dryRun = true ∨ ∃ stop, report.result = .error stop
  | .ended report (some _) => j.settings.dryRun = false ∧ ∃ state, report.result = .ok state
  | _ => True

theorem Told.sent_eq_none_iff {j : Job} {report : RunReport} {sent : Option Packet}
    (h : Told j (.ended report sent)) : sent = none ↔
      j.settings.dryRun = true ∨ ∃ stop, report.result = .error stop := by
  cases sent with
  | none => exact iff_of_true rfl h
  | some packet =>
    obtain ⟨hdry, state, hr⟩ := h
    refine iff_of_false nofun ?_
    rintro (hd | ⟨stop, he⟩)
    · cases hdry.symm.trans hd
    · cases hr.symm.trans he

theorem told_moves (h : ∀ k, Told (jobs k) (x.stage k)) (hm : x.Moves jobs k x') :
    ∀ k, Told (jobs k) (x'.stage k) := by
  have hstep {stage : Stage} (hstage : x'.stage = Function.update x.stage k stage)
      (htold : Told (jobs k) stage) : ∀ k, Told (jobs k) (x'.stage k) := by
    rw [hstage]
    exact (Function.forall_update_iff x.stage fun k stage => Told (jobs k) stage).mpr
      ⟨htold, fun k' _ => h k'⟩
  have hself := h k
  cases hm with
  | busy hs hi => exact hstep rfl (Or.inr ⟨_, rfl⟩)
  | fault hs hi hfree hp => exact hstep rfl (Or.inr ⟨_, rfl⟩)
  | fill hs hi hfree hp => exact hstep rfl trivial
  | dry hs hdry => exact hstep rfl (Or.inl hdry)
  | refuse hs hi hdry he => exact hstep rfl (Or.inr ⟨_, rfl⟩)
  | start hs hi hdry hr => exact hstep rfl hdry
  | poll hs hi hend =>
    rw [hs] at hself
    exact hstep rfl hself
  | land hs hi hend =>
    rw [hs] at hself
    exact hstep rfl ⟨hself, _, rfl⟩

theorem told_play (h : ∀ k, Told (jobs k) (x.stage k)) (schedule : List (Fin n)) :
    ∀ k, Told (jobs k) ((x.play jobs schedule).stage k) :=
  play_keeps (P := fun x => ∀ k, Told (jobs k) (x.stage k)) (fun _ _ _ h hm => told_moves h hm)
    h schedule

theorem Mirrors.nodup_starts {y : Serial n} (h : x.Mirrors jobs y) :
    (x.starts.map (·.call)).Nodup := by
  have hcalls (served : List (Served n)) :
      (served.filterMap fun e => e.sent.map (e.call, ·)).map (·.1) =
        (served.filter (·.sent.isSome)).map (·.call) := by
    induction served with
    | nil => rfl
    | cons e served ih =>
      rcases hs : e.sent with _ | packet <;> simp [hs, ih]
  have hmap : x.starts.map (·.call) = (x.starts.map fun e => (e.call, e.packet)).map (·.1) := by
    rw [List.map_map]
    rfl
  rw [hmap, ← h.starts, hcalls]
  exact h.nodup.sublist (List.filter_sublist.map _)

end Traffic

end Accelerator
