import Accelerator.Proofs.Dispatch.Submissions
import Accelerator.Proofs.World.Lookup
import Accelerator.World.Commands

/-! Calls on the dispatchers of open registries that overlap in any way. -/

namespace Accelerator

theorem World.made_of_createDispatcher {w : World} {handle count : Nat} {r : Registry}
    {settings : Settings} (hr : w.registryOf? handle = some r) (hm : r.Made settings count)
    (unitName : String) : ∃ d w', w.createDispatcher handle unitName =
      some (.ok w.dispatchers.next, w') ∧
        w'.dispatchers.get? w.dispatchers.next = some d ∧ d.Made := by
  obtain ⟨id, hid, hr⟩ := Option.bind_eq_some_iff.mp hr
  obtain ⟨d, t, hd⟩ : ∃ d t, (Dispatcher.create r id unitName : Action DispatchError Dispatcher).run
      w.site = (.ok d, t) := ⟨_, _, rfl⟩
  refine ⟨d, { w with site := t, dispatchers := (w.dispatchers.insert d).2 }, ?_, ?_, .create hm hd⟩
  · simp only [createDispatcher, hid, hr, perform, hd, Option.bind_eq_bind, Option.bind_some]
    rfl
  · rw [Store.get?_insert, if_pos rfl]

namespace Traffic

variable {n : Nat}

/-- Whatever order the steps of the calls come in, the calls end as if they were made one after the
other, and each command that is started is counted once, under the name of its kernel. That is the
full name of the unit, unless this has a brace or a colon at its end. A call that starts nothing
leaves the counts and the last packet as they are. -/
theorem submissions_accounted (jobs : Fin n → Job) (fleet : Fleet) (site : Site)
    (hfleet : ∀ t, (fleet t).Made) (hhost : site.host.Tallied) (schedule : List (Fin n)) :
    let begun : Traffic n := { fleet, host := site.host }
    let x := begun.play jobs schedule
    (∃ more, (begun.play jobs (schedule ++ more)).Finished) ∧
    x.host.submissions = site.host.submissions + x.starts.length ∧
    (∀ name, x.host.submissionsOf name =
      site.host.submissionsOf name + x.starts.countP fun e => e.unit.kernel.name = name) ∧
    (∀ e ∈ x.starts, (∀ c ∈ e.unit.fullName.toList, Device.isBrace c = false) →
      e.unit.fullName.toList.getLast? ≠ some ':' → e.unit.kernel.name = e.unit.fullName) ∧
    (∀ names : Finset String, (∀ name, x.host.submissionsOf name ≠ 0 → name ∈ names) →
      ∑ name ∈ names, x.host.submissionsOf name = x.host.submissions) ∧
    x.host.lastPacket = (x.starts.getLast?.map (·.packet)).or site.host.lastPacket ∧
    (∀ e ∈ x.starts, e.packet.state = .running) ∧
    (x.starts.map (·.call)).Nodup ∧
    (∀ k, let x' := begun.play jobs (schedule ++ [k])
      (x'.host = x.host ∧ x'.starts = x.starts) ∨
        ∃ e, e.call = k ∧ x'.starts = x.starts ++ [e]) ∧
    (x.Finished → ∃ order : List (Fin n), order.Perm (List.finRange n) ∧
      let y := order.foldl (Serial.serve jobs) { fleet, site }
      y.calls = order ∧ y.fleet = x.fleet ∧ y.site.host = x.host ∧
      (∀ e ∈ y.served, x.stage e.call = .ended e.report e.sent ∧
        (e.sent = none ↔ (jobs e.call).settings.dryRun = true ∨
          ∃ stop, e.report.result = .error stop)) ∧
      y.served.filterMap (fun e => e.sent.map (e.call, ·)) =
        x.starts.map fun e => (e.call, e.packet)) := by
  intro begun x
  have horderly : begun.Orderly jobs := Orderly.start jobs fleet site.host
  have hon : ∀ slot i, fleet.get? slot = some i → i.OnKernel := fun slot i hi =>
    (hfleet slot.1).onKernel i (List.mem_of_getElem? hi)
  have hcount : x.Counted site.host := (Counted.start fleet site.host hon).play schedule
  have hbegun : ∀ k, Told (jobs k) (begun.stage k) := fun _ => trivial
  have htold := told_play hbegun schedule
  obtain ⟨order, hmirrors⟩ := (Mirrors.start jobs fleet site).play horderly schedule
  have hplay (more : List (Fin n)) : begun.play jobs (schedule ++ more) = x.play jobs more :=
    List.foldl_append
  refine ⟨?_, hcount.submissions, hcount.byKernel, fun e hm hb hc => ?_, hcount.tallied hhost,
    hcount.last, hcount.running, hmirrors.nodup_starts, fun k => ?_, fun hf => ?_⟩
  · obtain ⟨more, hmore⟩ := exists_finished (horderly.play schedule)
    exact ⟨more, by rwa [hplay]⟩
  · rw [hcount.named e hm, kernelNameFor_eq_self hb hc]
  · have hstep : begun.play jobs (schedule ++ [k]) = x.attempt jobs k := hplay [k]
    simp only [hstep]
    exact starts_attempt jobs x k
  · obtain ⟨hsame, hperm, hover⟩ := hmirrors.finished hf
    have hcalls : (order.foldl (Serial.serve jobs) { fleet, site }).calls = order :=
      Serial.calls_foldl_serve order { fleet, site }
    refine ⟨order, hcalls ▸ hperm, hcalls, hsame, hmirrors.host, fun e he => ?_, hmirrors.starts⟩
    have hstage := hover e he
    have ht := htold e.call
    rw [hstage] at ht
    exact ⟨hstage, ht.sent_eq_none_iff⟩

/-- One device with an image that has these cores. -/
def siteWith (cores : List String) : Site where
  host := Host.addImage { devices := [{}], behavior := .completeAfter 2 } "a" {
    uuid := {}, cores
    banks := [{ tag := "DDR[0]", used := true, base := 0x60000000, size := 0x40000000 }] }

def plain : Settings where
  firmware := some "a"
  timeout := 1
  lockDirectory := "/"

def dispatcherIn (w : World) : Dispatcher :=
  let opened := (w.openRegistry plain).2
  (((opened.createDispatcher 0 "dpu").map (·.2.dispatchers)).bind
    (·.get? opened.dispatchers.next)).getD ⟨0, "dpu", []⟩

theorem made_dispatcherIn {w : World} (h : (w.openRegistry plain).1 = .ready 0) :
    (dispatcherIn w).Made := by
  obtain ⟨r, hr, hm⟩ := World.made_of_openRegistry (Prod.ext h rfl)
  obtain ⟨d, w', hw, hd, hmade⟩ := World.made_of_createDispatcher hr hm "dpu"
  simp only [dispatcherIn, hw, Option.map_some, Option.bind_some, hd, Option.getD_some]
  exact hmade

def jobOn (core : Nat) (word : UInt32) : Job where
  target := 0
  settings := plain
  clock := Clock.steady 0 50 plain.timeout
  core
  populate := fun p => (((p.tryPush word).toOption).getD p, none)

def threeJobs (k : Fin 3) : Job :=
  [jobOn 0 1, jobOn 2 2, jobOn 1 3].get k

/-- Two calls for one instance and one for the other, of which the second has to wait. -/
theorem submissions_accounted_waiting :
    let cores := ["dpu:a", "dpu:b"]
    let fleet : Fleet := fun _ => dispatcherIn { site := siteWith cores }
    let x := play threeJobs { fleet, host := (siteWith cores).host }
      [0, 1, 2, 0, 2, 1, 0, 2, 0, 1, 2, 1, 1, 1]
    x.Finished ∧ x.host.submissions = 3 ∧ x.host.submissionsOf "dpu:a" = 2 ∧
      ∃ order : List (Fin 3), order.Perm (List.finRange 3) ∧
        (order.foldl (Serial.serve threeJobs) { fleet, site := siteWith cores }).fleet =
          x.fleet := by
  intro cores fleet x
  have hmade : (dispatcherIn { site := siteWith cores }).Made :=
    made_dispatcherIn (by decide +kernel)
  have hfinished : x.Finished := by decide +kernel
  obtain ⟨-, hcount, hkernel, -, -, -, -, -, -, hserial⟩ := submissions_accounted threeJobs fleet
    (siteWith cores) (fun _ => hmade) (Host.tallied_of_untouched rfl rfl)
    [0, 1, 2, 0, 2, 1, 0, 2, 0, 1, 2, 1, 1, 1]
  obtain ⟨order, hperm, -, hsame, -⟩ := hserial hfinished
  refine ⟨hfinished, ?_, ?_, order, hperm, hsame⟩
  · rw [hcount]
    decide +kernel
  · rw [hkernel]
    decide +kernel

/-- The kernel of a unit with braces in its full name has a name without them, and the command is
counted under that one. -/
theorem submissionsOf_not_by_fullName :
    let cores := ["dpu:\x7ba\x7d", "dpu:a"]
    let fleet : Fleet := fun _ => dispatcherIn { site := siteWith cores }
    let x := play (fun _ : Fin 1 => jobOn 1 1) { fleet, host := (siteWith cores).host }
      [0, 0, 0, 0]
    (∀ t, (fleet t).Made) ∧ (siteWith cores).host.Tallied ∧ x.Finished ∧
      ¬ ∀ name, x.host.submissionsOf name = (siteWith cores).host.submissionsOf name +
        x.starts.countP fun e => e.unit.fullName = name := by
  intro cores fleet x
  have hmade : (dispatcherIn { site := siteWith cores }).Made :=
    made_dispatcherIn (by decide +kernel)
  refine ⟨fun _ => hmade, Host.tallied_of_untouched rfl rfl, by decide +kernel, fun h => ?_⟩
  have hnone : x.host.submissionsOf "dpu:\x7ba\x7d" = 0 := by decide +kernel
  have hone : (x.starts.countP fun e => e.unit.fullName = "dpu:\x7ba\x7d") = 1 := by
    decide +kernel
  have hname := h "dpu:\x7ba\x7d"
  omega

end Traffic

end Accelerator
