import Accelerator.Proofs.Dispatch.Polling
import Mathlib.Logic.ExistsUnique

/-! A command ends in one of four ways, and which one it is shows in what the caller gets, in
the callbacks and in what was submitted. -/

namespace Accelerator

inductive Exit where
  | noInstance
  | dryRun
  | refused
  /-- Submitted, and polled up to the poll of this number. -/
  | polled (last : Nat)

namespace Dispatcher

/-- What is there once `populate` has filled the packet of an instance. -/
def filled (populate : Populate) (i : Instance) : Instance :=
  i.withPacket (populate i.fresh).1

/-- The command stands at the last poll, or the time is up then. -/
def StopsAt {timeout : Nat} (clock : Clock timeout) (behavior : Behavior) (k : Nat) : Prop :=
  (behavior.stateAfter (k + 1)).isDone = true ∨ clock.timeIsUp k = true

/-- The conditions of a way to end, and all that comes of it. -/
def Ends (settings : Settings) (clock : Clock settings.timeout) (core : Nat)
    (populate : Populate) (d : Dispatcher) (s : Site) (report : RunReport) (d' : Dispatcher)
    (s' : Site) : Exit → Prop
  | .noInstance =>
    d.instances = [] ∧ report.result = .error (.error (.busy d.unitName)) ∧
      report.calls = [] ∧ report.seen = none ∧ d' = d ∧ s' = s
  | .dryRun => ∃ i, d.instances[core % d.size]? = some i ∧ settings.dryRun = true ∧
      report.result = .ok .completed ∧ report.calls = [.success] ∧ report.seen = some i.fresh ∧
      d' = d.setInstance (core % d.size) (filled populate i) ∧ s'.host = s.host
  | .refused => ∃ i, d.instances[core % d.size]? = some i ∧ settings.dryRun = false ∧
      s.host.failStart = true ∧
      report.result =
        .error (.error (.device (.driver s!"cannot start command on {i.run.kernel}"))) ∧
      report.calls = [.failure] ∧ report.seen = some i.fresh ∧
      d' = d.setInstance (core % d.size) (filled populate i) ∧ s'.host = s.host
  | .polled last => ∃ i, d.instances[core % d.size]? = some i ∧ settings.dryRun = false ∧
      s.host.failStart = false ∧
      s'.host = { s.host with
        submissions := s.host.submissions + 1
        submissionsByKernel :=
          s.host.submissionsByKernel.put i.run.kernel (s.host.submissionsOf i.run.kernel + 1)
        lastPacket := some { (populate i.fresh).1 with state := .running } } ∧
      StopsAt clock s.host.behavior last ∧ (∀ k < last, ¬ StopsAt clock s.host.behavior k) ∧
      let state := s.host.behavior.stateAfter (last + 1)
      report.result = .ok state ∧
      report.calls = [if state.isDone then .success else .failure] ∧
      report.seen = some i.fresh ∧
      let run := ((filled populate i).run.started s.host.behavior (clock.reading 1)
        (clock.reading 2)).polled clock.pollTime (last + 1)
      d' = d.setInstance (core % d.size) { i with run } ∧ run.state = state

section

variable {settings : Settings} {clock : Clock settings.timeout} {core : Nat}
  {populate : Populate} {d : Dispatcher} {s : Site}

theorem reportPacket_alike (settings : Settings) (i : Instance) (s : Site) :
    s.Alike (reportPacket settings i s) := by
  unfold reportPacket
  split
  · exact Site.Alike.emit s _
  · exact Site.Alike.refl s

theorem await_ends (clock : Clock settings.timeout) (core : Nat) (seen : Packet) (i : Instance)
    (s : Site) :
    let p : Polling := { settings, clock, fullName := i.unit.fullName }
    let out := await settings clock core seen i s
    ∃ last, p.Stops i.run last ∧ (∀ j, j < last → ¬ p.Stops i.run j) ∧
      let run := i.run.polled clock.pollTime (last + 1)
      out.1.result = .ok run.state ∧
      out.1.calls = [if run.state.isDone then .success else .failure] ∧
      out.1.seen = some seen ∧ out.2.1 = { i with run } ∧ out.2.2.host = s.host := by
  intro p out
  obtain ⟨last, t, hpoll, ht, hl, hfirst⟩ := p.poll_limit i.run s
  refine ⟨last, hl, hfirst, ?_⟩
  have hout : out = await settings clock core seen i s := rfl
  simp only [await] at hout
  rw [hpoll p.limit (Nat.le_refl _)] at hout
  simp only [p] at hout
  by_cases hd : (i.run.polled clock.pollTime (last + 1)).state.isDone = true
  · simp only [hd, if_true] at hout ⊢
    rw [hout]
    refine ⟨rfl, rfl, rfl, rfl, ?_⟩
    split <;> split <;> exact ht.host
  · simp only [hd] at hout ⊢
    rw [hout]
    exact ⟨rfl, rfl, rfl, rfl, ht.host⟩

theorem stops_started_iff {p : Polling} (r : Run) (behavior : Behavior)
    (accepted running k : Nat) :
    p.Stops (r.started behavior accepted running) k ↔ StopsAt p.clock behavior k := by
  rw [Polling.Stops, StopsAt,
    (Run.onCourse_polled r behavior accepted running p.clock.pollTime (k + 1)).state_eq]

theorem runOn_ends {i : Instance} (hi : d.instances[core % d.size]? = some i)
    (hp : (populate i.fresh).2 = none) :
    let out := runOn settings clock core populate i s
    ∃ e : Exit, Ends settings clock core populate d s out.1
      (d.setInstance (core % d.size) out.2.1) out.2.2 e := by
  intro out
  have hout : out = runOn settings clock core populate i s := rfl
  rcases hq : populate i.fresh with ⟨packet, fault⟩
  rw [hq] at hp
  obtain rfl : fault = none := hp
  have hfilled : filled populate i = i.withPacket packet := by rw [filled, hq]
  have halike := reportPacket_alike settings (i.withPacket packet) s
  simp only [runOn, hq] at hout
  by_cases hdry : settings.dryRun = true
  · simp only [hdry, if_true] at hout
    rw [hout]
    exact ⟨.dryRun, i, hi, hdry, rfl, rfl, rfl, by rw [hfilled], halike.host⟩
  · have hdry : settings.dryRun = false := by simpa using hdry
    have hhost := halike.host
    simp only [hdry, Bool.false_eq_true, if_false, hhost] at hout
    by_cases hfail : s.host.failStart = true
    · rw [Host.start, if_pos hfail] at hout
      rw [hout]
      exact ⟨.refused, i, hi, hdry, hfail, rfl, rfl, rfl, by rw [hfilled], hhost⟩
    · rw [Host.start, if_neg hfail] at hout
      let run := (i.withPacket packet).run.started s.host.behavior (clock.reading 1)
        (clock.reading 2)
      obtain ⟨last, hstop, hfirst, hresult, hcalls, hseen, hinst, hhost'⟩ :=
        await_ends clock core i.fresh { i.withPacket packet with run } { reportPacket settings
          (i.withPacket packet) s with
          host := { s.host with
            submissions := s.host.submissions + 1
            submissionsByKernel :=
              s.host.submissionsByKernel.put run.kernel (s.host.submissionsOf run.kernel + 1)
            lastPacket := some run.packet } }
      have hfail : s.host.failStart = false := by simpa using hfail
      have hstate : (run.polled clock.pollTime (last + 1)).state =
          s.host.behavior.stateAfter (last + 1) :=
        (Run.onCourse_polled _ _ _ _ _ _).state_eq
      let p : Polling := { settings, clock, fullName := i.unit.fullName }
      -- what the run did before its start has no part in when it stops
      have hiff (k : Nat) : p.Stops run k ↔ StopsAt clock s.host.behavior k :=
        stops_started_iff (i.withPacket packet).run s.host.behavior (clock.reading 1)
          (clock.reading 2) k
      rw [hstate] at hresult hcalls
      rw [hout]
      refine ⟨.polled last, i, hi, hdry, hfail, ?_,
        (hiff last).mp hstop, fun k hk h => hfirst k hk ((hiff k).mpr h),
        hresult, hcalls, hseen, ?_, ?_⟩
      · rw [hq]
        exact hhost'
      · rw [hfilled]
        exact congrArg _ hinst
      · rw [hfilled]
        exact hstate

theorem instances_ne_nil {i : Instance} {n : Nat} (h : d.instances[n]? = some i) :
    d.instances ≠ [] := by
  intro he
  rw [he] at h
  cases h

theorem ends_unique {report : RunReport} {d' : Dispatcher} {s' : Site} {e e' : Exit}
    (h : Ends settings clock core populate d s report d' s' e)
    (h' : Ends settings clock core populate d s report d' s' e') : e = e' := by
  cases e with
  | noInstance =>
    have hn := h.1
    cases e' with
    | noInstance => rfl
    | dryRun => exact absurd hn (instances_ne_nil h'.choose_spec.1)
    | refused => exact absurd hn (instances_ne_nil h'.choose_spec.1)
    | polled last => exact absurd hn (instances_ne_nil h'.choose_spec.1)
  | dryRun =>
    obtain ⟨i, hi, hdry, -⟩ := h
    cases e' with
    | noInstance => exact absurd h'.1 (instances_ne_nil hi)
    | dryRun => rfl
    | refused =>
      obtain ⟨-, -, hdry', -⟩ := h'
      cases hdry.symm.trans hdry'
    | polled last =>
      obtain ⟨-, -, hdry', -⟩ := h'
      cases hdry.symm.trans hdry'
  | refused =>
    obtain ⟨i, hi, hdry, hfail, -⟩ := h
    cases e' with
    | noInstance => exact absurd h'.1 (instances_ne_nil hi)
    | dryRun =>
      obtain ⟨-, -, hdry', -⟩ := h'
      cases hdry.symm.trans hdry'
    | refused => rfl
    | polled last =>
      obtain ⟨-, -, -, hfail', -⟩ := h'
      cases hfail.symm.trans hfail'
  | polled last =>
    obtain ⟨i, hi, hdry, hfail, -, hstop, hfirst, -⟩ := h
    cases e' with
    | noInstance => exact absurd h'.1 (instances_ne_nil hi)
    | dryRun =>
      obtain ⟨-, -, hdry', -⟩ := h'
      cases hdry.symm.trans hdry'
    | refused =>
      obtain ⟨-, -, -, hfail', -⟩ := h'
      cases hfail.symm.trans hfail'
    | polled last' =>
      obtain ⟨-, -, -, -, -, hstop', hfirst', -⟩ := h'
      rcases Nat.lt_trichotomy last last' with hlt | rfl | hlt
      · exact absurd hstop (hfirst' last hlt)
      · rfl
      · exact absurd hstop' (hfirst last' hlt)

end

/-- Every call comes to an end, in exactly one of the four ways, whatever the instance ran
before. -/
theorem run_ends (settings : Settings) (clock : Clock settings.timeout) (core : Nat)
    (populate : Populate) (d : Dispatcher) (s : Site)
    (hp : ∀ i, d.instances[core % d.size]? = some i → (populate i.fresh).2 = none) :
    let out := d.run settings clock core populate s
    ∃! e : Exit, Ends settings clock core populate d s out.1 out.2.1 out.2.2 e := by
  intro out
  have hex : ∃ e : Exit, Ends settings clock core populate d s out.1 out.2.1 out.2.2 e := by
    rcases hi : d.instances[core % d.size]? with _ | i
    · have hrun : out = ({ result := .error (.error (.busy d.unitName)) }, d, s) := by
        simp only [out, run, hi]
      have hnil : d.instances = [] := by
        rw [List.getElem?_eq_none_iff] at hi
        refine List.length_eq_zero_iff.mp (Nat.eq_zero_of_not_pos fun hpos => ?_)
        exact absurd (Nat.mod_lt core hpos) (Nat.not_lt.mpr hi)
      rw [hrun]
      exact ⟨.noInstance, hnil, rfl, rfl, rfl, rfl, rfl⟩
    · have hrun : out = ((runOn settings clock core populate i s).1,
          d.setInstance (core % d.size) (runOn settings clock core populate i s).2.1,
          (runOn settings clock core populate i s).2.2) := by
        simp only [out, run, hi]
      rw [hrun]
      exact runOn_ends hi (hp i hi)
  obtain ⟨e, he⟩ := hex
  exact ⟨e, he, fun e' he' => ends_unique he' he⟩

theorem run_ends_completed :
    let unit : ComputeUnit := {
      device := 0, uuid := {}, fullName := "dpu:one", kernelName := "dpu", instanceName := "one"
      fingerprint := 0, kernel := { device := 0, load := 0, name := "dpu:one" } }
    let d : Dispatcher := {
      registry := 0, unitName := "dpu", instances := [{ unit, run := { kernel := "dpu:one" } }] }
    let settings : Settings := { timeout := 1, lockDirectory := "/" }
    let clock := Clock.steady 0 50 1
    let populate : Populate := fun p => ({ p with unitMask := 1 }, none)
    let s : Site := { host := { devices := [], behavior := .completeAfter 3 } }
    let out := d.run settings clock 7 populate s
    out.1.result = .ok .completed ∧ out.1.calls = [.success] ∧
      ∃! e : Exit, Ends settings clock 7 populate d s out.1 out.2.1 out.2.2 e := by
  intro unit d settings clock populate s out
  refine ⟨by decide +kernel, by decide +kernel, ?_⟩
  exact run_ends settings clock 7 populate d s (fun _ _ => rfl)

end Dispatcher

end Accelerator
