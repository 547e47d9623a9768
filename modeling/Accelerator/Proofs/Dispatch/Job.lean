import Accelerator.Proofs.Dispatch.Exits
import Accelerator.Proofs.Site.Frames

/-! One call taken step by step: the packet is filled, the command is submitted, and it is polled
until it is over. Where the call goes on alone, this is what running it comes to. -/

namespace Accelerator

/-- A call that is to be made on the dispatcher of this number. -/
structure Job where
  target : Nat
  settings : Settings
  clock : Clock settings.timeout
  core : Nat
  populate : Populate

theorem Host.start_ok {h h' : Host} {r r' : Run} {accepted running : Nat}
    (hs : h.start r accepted running = .ok (r', h')) :
    h.failStart = false ∧ r' = r.started h.behavior accepted running ∧
      h' = { h with
        submissions := h.submissions + 1
        submissionsByKernel := h.submissionsByKernel.put r.kernel (h.submissionsOf r.kernel + 1)
        lastPacket := some r'.packet } := by
  unfold start at hs
  by_cases hf : h.failStart = true
  · rw [if_pos hf] at hs
    cases hs
  · rw [if_neg hf] at hs
    cases hs
    exact ⟨Bool.eq_false_iff.mpr hf, rfl, rfl⟩

theorem Host.grows_of_start {s : Site} {h : Host} {r r' : Run} {accepted running : Nat}
    (hs : s.host.start r accepted running = .ok (r', h)) : s.Grows { s with host := h } := by
  obtain ⟨-, -, rfl⟩ := start_ok hs
  exact Site.grows_of_eq rfl (Files.SameDirectories.refl _) rfl rfl rfl

namespace RunReport

def busy (unitName : String) : RunReport where
  result := .error (.error (.busy unitName))

def faulted (seen : Packet) (f : Fault) : RunReport where
  result := .error (.fault f)
  seen := some seen

def dry (seen : Packet) : RunReport where
  result := .ok .completed
  calls := [.success]
  seen := some seen

def refused (seen : Packet) (e : DeviceError) : RunReport where
  result := .error (.error (.device e))
  calls := [.failure]
  seen := some seen

end RunReport

namespace Job

/-- Polling ends with the poll that left the run like this. -/
def endsAt (j : Job) (k : Nat) (r : Run) : Bool :=
  r.state.isDone || j.clock.timeIsUp k

/-- What a call is told that polled so often. -/
def reportAt (j : Job) (seen : Packet) (polls : Nat) (r : Run) : RunReport where
  result := .ok r.state
  calls := [if r.state.isDone then .success else .failure]
  seen := some seen
  latency := some (Latency.ofStamps (j.clock.reading 0) r.stamps (j.clock.pollTime polls))

/-- What polling from poll number `k` on comes to, and the run that it leaves. -/
inductive Lands (j : Job) (seen : Packet) : Nat → Run → RunReport → Run → Prop
  | last {k : Nat} {r : Run} (h : j.endsAt k (r.wait (j.clock.pollTime k)) = true) :
      Lands j seen k r (j.reportAt seen (k + 1) (r.wait (j.clock.pollTime k)))
        (r.wait (j.clock.pollTime k))
  | next {k : Nat} {r r' : Run} {report : RunReport}
      (h : j.endsAt k (r.wait (j.clock.pollTime k)) = false)
      (hl : Lands j seen (k + 1) (r.wait (j.clock.pollTime k)) report r') :
      Lands j seen k r report r'

variable {j : Job} {seen : Packet} {i : Instance} {s : Site}

theorem lt_horizon_of_endsAt {k : Nat} {r : Run} (h : j.endsAt k r = false) :
    k < j.clock.horizon := by
  refine Nat.lt_of_not_le fun hle => ?_
  rw [endsAt, Clock.timeIsUp_of_le hle, Bool.or_true] at h
  cases h

theorem poll_lands (j : Job) (seen : Packet) (fullName : String) {n k : Nat}
    (hk : k ≤ j.clock.horizon) (hn : j.clock.horizon < k + n) (r : Run) (s : Site) :
    ∃ k' r' t, Polling.poll ⟨j.settings, j.clock, fullName⟩ n k r s = (k', r', t) ∧
      s.Alike t ∧ j.Lands seen k r (j.reportAt seen k' r') r' := by
  induction n generalizing k r s with
  | zero => omega
  | succ n ih =>
    let p : Polling := ⟨j.settings, j.clock, fullName⟩
    let next := r.wait (j.clock.pollTime k)
    have hs := p.report_alike next s
    cases hend : j.endsAt k next with
    | true => exact ⟨k + 1, next, p.report next s, if_pos hend, hs, .last hend⟩
    | false =>
      have hlt := lt_horizon_of_endsAt hend
      have hcond : ¬ (next.state.isDone || j.clock.timeIsUp k) = true :=
        fun h => by cases hend.symm.trans h
      obtain ⟨k', r', t, hpoll, ht, hl⟩ := ih hlt (by omega) next (p.report next s)
      exact ⟨k', r', t, (if_neg hcond).trans hpoll, hs.trans ht, .next hend hl⟩

theorem await_lands (j : Job) (seen : Packet) (i : Instance) (s : Site) :
    ∃ report r t, Dispatcher.await j.settings j.clock j.core seen i s =
        (report, { i with run := r }, t) ∧ s.Alike t ∧ j.Lands seen 0 i.run report r := by
  let p : Polling := ⟨j.settings, j.clock, i.unit.fullName⟩
  have hlimit : j.clock.horizon < 0 + p.limit := by
    simp only [p, Polling.limit]
    omega
  obtain ⟨k, r, t, hpoll, ht, hl⟩ :=
    poll_lands j seen i.unit.fullName (Nat.zero_le _) hlimit i.run s
  simp only [Dispatcher.await]
  rw [hpoll]
  unfold reportAt at hl
  by_cases hd : r.state.isDone = true
  · simp only [hd, if_true] at hl ⊢
    refine ⟨_, r, _, rfl, ?_, hl⟩
    split <;> split <;> exact ⟨ht.host, ht.files, ht.held⟩
  · simp only [hd] at hl ⊢
    exact ⟨_, r, _, rfl, ⟨ht.host, ht.files, ht.held⟩, hl⟩

theorem runOn_fault {p : Packet} {f : Fault} (h : j.populate i.fresh = (p, some f)) :
    Dispatcher.runOn j.settings j.clock j.core j.populate i s =
      (.faulted i.fresh f, i.withPacket p, s) := by
  simp only [Dispatcher.runOn, h]
  rfl

theorem runOn_dry {p : Packet} (h : j.populate i.fresh = (p, none))
    (hdry : j.settings.dryRun = true) :
    ∃ t, Dispatcher.runOn j.settings j.clock j.core j.populate i s =
        (.dry i.fresh, i.withPacket p, t) ∧ s.Alike t := by
  have hs := Dispatcher.reportPacket_alike j.settings (i.withPacket p) s
  simp only [Dispatcher.runOn, h, hdry, if_true]
  exact ⟨_, rfl, ⟨hs.host, hs.files, hs.held⟩⟩

theorem runOn_refused {p : Packet} {e : DeviceError} (h : j.populate i.fresh = (p, none))
    (hdry : j.settings.dryRun = false) (he : s.host.start (i.withPacket p).run
      (j.clock.reading 1) (j.clock.reading 2) = .error e) :
    ∃ t, Dispatcher.runOn j.settings j.clock j.core j.populate i s =
        (.refused i.fresh e, i.withPacket p, t) ∧ s.Alike t := by
  have hs := Dispatcher.reportPacket_alike j.settings (i.withPacket p) s
  simp only [Dispatcher.runOn, h, hdry, Bool.false_eq_true, if_false, hs.host, he]
  exact ⟨_, rfl, ⟨hs.host, hs.files, hs.held⟩⟩

theorem runOn_started {p : Packet} {r : Run} {host : Host} (h : j.populate i.fresh = (p, none))
    (hdry : j.settings.dryRun = false) (hstart : s.host.start (i.withPacket p).run
      (j.clock.reading 1) (j.clock.reading 2) = .ok (r, host)) :
    ∃ report r' t, Dispatcher.runOn j.settings j.clock j.core j.populate i s =
        (report, { i with run := r' }, t) ∧ Site.Alike { s with host } t ∧
      j.Lands i.fresh 0 r report r' := by
  have hs := Dispatcher.reportPacket_alike j.settings (i.withPacket p) s
  simp only [Dispatcher.runOn, h, hdry, Bool.false_eq_true, if_false, hs.host, hstart]
  obtain ⟨report, r', t, hrun, ht, hl⟩ := await_lands j i.fresh
    { i.withPacket p with run := r } { Dispatcher.reportPacket j.settings (i.withPacket p) s with host }
  exact ⟨report, r', t, hrun, ⟨ht.host, ht.files.trans hs.files, ht.held.trans hs.held⟩, hl⟩

/-- However a call ends, it submits at most, and what is submitted is kept elsewhere. -/
theorem runOn_grows (j : Job) (i : Instance) (s : Site) :
    ∃ report r t, Dispatcher.runOn j.settings j.clock j.core j.populate i s =
      (report, { i with run := r }, t) ∧ s.Grows t := by
  rcases hp : j.populate i.fresh with ⟨p, _ | f⟩
  · cases hdry : j.settings.dryRun with
    | true =>
      obtain ⟨t, hrun, ht⟩ := runOn_dry (s := s) hp hdry
      exact ⟨_, _, t, hrun, .of_alike ht⟩
    | false =>
      rcases hstart : s.host.start (i.withPacket p).run (j.clock.reading 1) (j.clock.reading 2)
        with e | ⟨r, host⟩
      · obtain ⟨t, hrun, ht⟩ := runOn_refused hp hdry hstart
        exact ⟨_, _, t, hrun, .of_alike ht⟩
      · obtain ⟨report, r', t, hrun, ht, -⟩ := runOn_started hp hdry hstart
        have hsubmitted := Host.grows_of_start hstart
        exact ⟨report, r', t, hrun, Site.lasting_grows.trans hsubmitted (.of_alike ht)⟩
  · exact ⟨_, _, s, runOn_fault hp, Site.lasting_grows.refl s⟩

end Job

/-- A run changes at most the run of the instance that it is made on. -/
theorem Dispatcher.run_grows (d : Dispatcher) (settings : Settings)
    (clock : Clock settings.timeout) (core : Nat) (populate : Populate) (s : Site) :
    ∃ report d' t, d.run settings clock core populate s = (report, d', t) ∧ s.Grows t ∧
      d'.registry = d.registry ∧ d'.unitName = d.unitName ∧
      d'.instances.map (·.unit) = d.instances.map (·.unit) := by
  unfold run
  rcases hi : d.instances[core % d.size]? with _ | i <;> simp only
  · exact ⟨_, d, s, rfl, Site.lasting_grows.refl s, rfl, rfl, rfl⟩
  · obtain ⟨report, r, t, hrun, ht⟩ := Job.runOn_grows ⟨0, settings, clock, core, populate⟩ i s
    simp only at hrun
    rw [hrun]
    refine ⟨_, _, t, rfl, ht, rfl, rfl, ?_⟩
    obtain ⟨hlt, rfl⟩ := List.getElem?_eq_some_iff.mp hi
    have hlt' : core % d.size < (d.instances.map (·.unit)).length := by rwa [List.length_map]
    have hself := List.set_getElem_self hlt'
    rw [List.getElem_map] at hself
    simp only [setInstance, List.map_set]
    exact hself

end Accelerator
