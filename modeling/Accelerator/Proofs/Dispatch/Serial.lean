import Accelerator.Proofs.Dispatch.Interleaving
import Mathlib.Data.List.FinRange

/-! Calls made one after the other. Calls that overlap come to the same as in the order in which
they submit their commands, where a call that submits nothing counts as of its end. -/

namespace Accelerator

structure Served (n : Nat) where
  call : Fin n
  report : RunReport
  sent : Option Packet

structure Serial (n : Nat) where
  fleet : Fleet
  site : Site
  served : List (Served n) := []

namespace Serial

variable {n : Nat}

def serve (jobs : Fin n → Job) (y : Serial n) (k : Fin n) : Serial n :=
  let j := jobs k
  let out := (y.fleet j.target).run j.settings j.clock j.core j.populate y.site
  let sent := if out.2.2.host.submissions = y.site.host.submissions then none
    else out.2.2.host.lastPacket
  { fleet := Function.update y.fleet j.target out.2.1
    site := out.2.2
    served := y.served ++ [⟨k, out.1, sent⟩] }

def calls (y : Serial n) : List (Fin n) :=
  y.served.map (·.call)

variable {jobs : Fin n → Job} {y : Serial n} {k : Fin n}

theorem calls_serve (jobs : Fin n → Job) (y : Serial n) (k : Fin n) :
    (y.serve jobs k).calls = y.calls ++ [k] :=
  List.map_append

theorem calls_foldl_serve (order : List (Fin n)) (y : Serial n) :
    (order.foldl (serve jobs) y).calls = y.calls ++ order := by
  induction order generalizing y with
  | nil => exact (List.append_nil _).symm
  | cons k order ih => rw [List.foldl_cons, ih, calls_serve, List.append_assoc]; rfl

theorem nodup_calls_serve (h : y.calls.Nodup) (hk : k ∉ y.calls) :
    (y.serve jobs k).calls.Nodup := by
  rw [calls_serve]
  exact List.nodup_append.mpr ⟨h, List.nodup_singleton k, fun a ha b hb he =>
    hk (List.mem_singleton.mp hb ▸ he ▸ ha)⟩

theorem serve_of_none (h : y.fleet.get? (y.fleet.slotOf (jobs k)) = none) :
    y.serve jobs k = { y with
      served := y.served ++ [⟨k, .busy (y.fleet (jobs k).target).unitName, none⟩] } := by
  have hi : (y.fleet (jobs k).target).instances[
      (jobs k).core % (y.fleet (jobs k).target).size]? = none := h
  simp only [serve, Dispatcher.run, hi, Function.update_eq_self, if_true]
  rfl

theorem serve_of_some {i i' : Instance} {report : RunReport} {t : Site}
    (h : y.fleet.get? (y.fleet.slotOf (jobs k)) = some i)
    (hr : Dispatcher.runOn (jobs k).settings (jobs k).clock (jobs k).core (jobs k).populate i
      y.site = (report, i', t)) :
    y.serve jobs k = {
      fleet := y.fleet.put (y.fleet.slotOf (jobs k)) i'
      site := t
      served := y.served ++ [⟨k, report,
        if t.host.submissions = y.site.host.submissions then none else t.host.lastPacket⟩] } := by
  have hi : (y.fleet (jobs k).target).instances[
      (jobs k).core % (y.fleet (jobs k).target).size]? = some i := h
  simp only [serve, Dispatcher.run, hi, hr]
  rfl

/-- What was served before stays, and at most the instance of this call is changed. -/
structure Extends (jobs : Fin n → Job) (y : Serial n) (k : Fin n) (y' : Serial n) : Prop where
  shape : y.fleet.SameShape y'.fleet
  other : ∀ slot, y.fleet.slotOf (jobs k) ≠ slot → y'.fleet.get? slot = y.fleet.get? slot
  served : ∀ e ∈ y.served, e ∈ y'.served
  calls : ∀ k' ∈ y'.calls, k' = k ∨ k' ∈ y.calls

theorem extends_refl (jobs : Fin n → Job) (y : Serial n) (k : Fin n) : y.Extends jobs k y :=
  ⟨Fleet.SameShape.refl _, fun _ _ => rfl, fun _ he => he, fun _ hk => Or.inr hk⟩

theorem extends_serve (jobs : Fin n → Job) (y : Serial n) (k : Fin n) :
    y.Extends jobs k (y.serve jobs k) := by
  have hserved : ∀ e ∈ y.served, e ∈ (y.serve jobs k).served := fun e he =>
    List.mem_append_left _ he
  have hcalls : ∀ k' ∈ (y.serve jobs k).calls, k' = k ∨ k' ∈ y.calls := by
    intro k' hk
    rw [calls_serve, List.mem_append, List.mem_singleton] at hk
    exact hk.symm
  rcases hi : y.fleet.get? (y.fleet.slotOf (jobs k)) with _ | i
  · have hy := serve_of_none hi
    refine ⟨?_, ?_, hserved, hcalls⟩ <;> rw [hy]
    · exact Fleet.SameShape.refl _
    · exact fun _ _ => rfl
  · have hy := serve_of_some hi rfl
    refine ⟨?_, ?_, hserved, hcalls⟩ <;> rw [hy]
    · exact Fleet.sameShape_put _ _ _
    · exact fun _ hne => Fleet.get?_put_of_ne hne _

end Serial

namespace Stage

/-- What the calls made one by one have to do with a call that has come so far. Where the call has
submitted its command, they are ahead of it by the polls that are to come. -/
inductive Accords {n : Nat} (j : Job) (k : Fin n) (y : Serial n) (i? : Option Instance) :
    Stage → Prop
  | waiting (hk : k ∉ y.calls) : Accords j k y i? .waiting
  | filled {i : Instance} {p : Packet} (hk : k ∉ y.calls)
      (hi : y.fleet.get? (y.fleet.slotOf j) = some i) (hp : j.populate i.fresh = (p, none))
      (he : i? = some (i.withPacket p)) : Accords j k y i? (.filled i.fresh)
  | polling {seen sent : Packet} {polls : Nat} {i : Instance} {report : RunReport} {run : Run}
      (hk : ⟨k, report, some sent⟩ ∈ y.served) (hl : j.Lands seen polls i.run report run)
      (he : i? = some i) (hi : y.fleet.get? (y.fleet.slotOf j) = some { i with run }) :
      Accords j k y i? (.polling seen sent polls)
  | ended {report : RunReport} {sent : Option Packet} (hk : ⟨k, report, sent⟩ ∈ y.served) :
      Accords j k y i? (.ended report sent)

theorem Accords.other {n : Nat} {jobs : Fin n → Job} {k k' : Fin n} {y y' : Serial n}
    {i? i'? : Option Instance} {stage : Stage} (h : stage.Accords (jobs k') k' y i?)
    (hy : y.Extends jobs k y') (hne : k' ≠ k)
    (halone : stage.holds = true → y.fleet.slotOf (jobs k) ≠ y.fleet.slotOf (jobs k'))
    (hi : stage.holds = true → i'? = i?) : stage.Accords (jobs k') k' y' i'? := by
  have hcalls (hk : k' ∉ y.calls) : k' ∉ y'.calls := fun hm =>
    (hy.calls k' hm).elim hne hk
  cases h with
  | waiting hk => exact .waiting (hcalls hk)
  | filled hk hget hp he =>
    refine .filled (hcalls hk) ?_ hp ((hi rfl).trans he)
    rw [hy.shape.slotOf, hy.other _ (halone rfl), hget]
  | polling hk hl he hget =>
    refine .polling (hy.served _ hk) hl ((hi rfl).trans he) ?_
    rw [hy.shape.slotOf, hy.other _ (halone rfl), hget]
  | ended hk => exact .ended (hy.served _ hk)

end Stage

namespace Traffic

variable {n : Nat} {jobs : Fin n → Job} {x x' : Traffic n} {y y' : Serial n} {k : Fin n}

/-- The calls that have submitted their commands, or have ended, were made one by one. -/
structure Mirrors (jobs : Fin n → Job) (x : Traffic n) (y : Serial n) : Prop where
  host : y.site.host = x.host
  shape : x.fleet.SameShape y.fleet
  free : ∀ slot, (∀ k, (x.stage k).holds = true → x.fleet.slotOf (jobs k) ≠ slot) →
    y.fleet.get? slot = x.fleet.get? slot
  accords : ∀ k, (x.stage k).Accords (jobs k) k y (x.find? (jobs k))
  nodup : y.calls.Nodup
  starts : y.served.filterMap (fun e => e.sent.map (e.call, ·)) =
    x.starts.map fun e => (e.call, e.packet)

theorem find?_put_self {i : Instance} (h : x.find? (jobs k) = some i) (i' : Instance) :
    (x.put (jobs k) i').find? (jobs k) = some i' := by
  rw [find?, put, Fleet.slotOf_put]
  exact Fleet.get?_put_self h i'

namespace Mirrors

theorem slotOf (h : x.Mirrors jobs y) (j : Job) : y.fleet.slotOf j = x.fleet.slotOf j :=
  h.shape.slotOf j

/-- An instance that no call holds is as the calls made one by one have left it. -/
theorem get?_of_not_held {j : Job} (h : x.Mirrors jobs y) (hfree : ¬ x.Held jobs j) :
    y.fleet.get? (y.fleet.slotOf j) = x.find? j := by
  rw [h.slotOf, h.free _ fun k' hk' he => hfree ⟨k', hk', he⟩, find?]

/-- What the step of one call has to come to, so that the others are not touched by it. -/
theorem step {stage : Stage} (h : x.Mirrors jobs y) (hl : Local jobs x k x' stage)
    (hy : y.Extends jobs k y') (halone : x.Alone jobs k) (hhost : y'.site.host = x'.host)
    (hown : stage.Accords (jobs k) k y' (x'.find? (jobs k)))
    (hfree : stage.holds = false → y'.fleet.get? (x.fleet.slotOf (jobs k)) =
      x'.fleet.get? (x.fleet.slotOf (jobs k)))
    (hnodup : y'.calls.Nodup)
    (hstarts : y'.served.filterMap (fun e => e.sent.map (e.call, ·)) =
      x'.starts.map fun e => (e.call, e.packet)) : x'.Mirrors jobs y' := by
  have hself : x'.stage k = stage := by rw [hl.stage, Function.update_self]
  have hother {k' : Fin n} (hne : k' ≠ k) : x'.stage k' = x.stage k' := by
    rw [hl.stage, Function.update_of_ne hne]
  refine ⟨hhost, ?_, fun slot hn => ?_, fun k' => ?_, hnodup, hstarts⟩
  · exact (hl.shape.symm.trans h.shape).trans hy.shape
  · by_cases hslot : x.fleet.slotOf (jobs k) = slot
    · subst hslot
      refine hfree (Bool.eq_false_iff.mpr fun hk => ?_)
      exact hn k (by rw [hself, hk]) (hl.shape.slotOf (jobs k))
    · rw [hy.other slot (h.slotOf (jobs k) ▸ hslot), hl.other slot hslot]
      refine h.free slot fun k' hk' => ?_
      by_cases hne : k' = k
      · rwa [hne]
      · rw [← hl.shape.slotOf]
        exact hn k' (by rw [hother hne, hk'])
  · by_cases hne : k' = k
    · rw [hne, hself]
      exact hown
    · rw [hother hne]
      refine (h.accords k').other hy hne (fun hk' => ?_) fun hk' => ?_
      · rw [h.slotOf, h.slotOf]
        exact (halone k' hne hk').symm
      · rw [find?, hl.shape.slotOf, hl.other _ (halone k' hne hk').symm]
        rfl

/-- The step with which a call joins those that were made one by one. -/
theorem serve {i i' : Instance} {report : RunReport} {sent : Option Packet} {t : Site}
    {stage : Stage} (h : x.Mirrors jobs y) (hl : Local jobs x k x' stage)
    (halone : x.Alone jobs k) (hk : k ∉ y.calls) (hi : y.fleet.get? (y.fleet.slotOf (jobs k)) = some i)
    (hr : Dispatcher.runOn (jobs k).settings (jobs k).clock (jobs k).core (jobs k).populate i
      y.site = (report, i', t))
    (hhost : t.host = x'.host)
    (hsent : (if t.host.submissions = y.site.host.submissions then none
      else t.host.lastPacket) = sent)
    (hown : ∀ y' : Serial n, ⟨k, report, sent⟩ ∈ y'.served →
      y'.fleet.get? (y'.fleet.slotOf (jobs k)) = some i' →
        stage.Accords (jobs k) k y' (x'.find? (jobs k)))
    (hfree : stage.holds = false → x'.find? (jobs k) = some i')
    (hstarts : x'.starts.map (fun e => (e.call, e.packet)) =
      x.starts.map (fun e => (e.call, e.packet)) ++ (sent.map (k, ·)).toList) :
    x'.Mirrors jobs (y.serve jobs k) := by
  have hserve := Serial.serve_of_some hi hr
  rw [hsent] at hserve
  have hget : (y.serve jobs k).fleet.get? ((y.serve jobs k).fleet.slotOf (jobs k)) = some i' := by
    rw [hserve, Fleet.slotOf_put]
    exact Fleet.get?_put_self hi i'
  have hslot := (y.extends_serve jobs k).shape.slotOf (jobs k)
  refine h.step hl (y.extends_serve jobs k) halone ?_ (hown _ ?_ hget) (fun hn => ?_)
    (Serial.nodup_calls_serve h.nodup hk) ?_
  · rw [hserve]
    exact hhost
  · rw [hserve]
    exact List.mem_append_right _ (List.mem_singleton_self _)
  · rw [← h.slotOf, ← hslot, hget, hslot, h.slotOf, ← hl.shape.slotOf]
    exact (hfree hn).symm
  · rw [hstarts, ← h.starts, hserve, List.filterMap_append]
    cases sent <;> rfl

/-- The calls made one by one fall in with a step, either as they are or with one more. -/
theorem moves (h : x.Mirrors jobs y) (ho : x.Orderly jobs) (hm : x.Moves jobs k x') :
    x'.Mirrors jobs y ∨ x'.Mirrors jobs (y.serve jobs k) := by
  have hown := h.accords k
  cases hm with
  | busy hs hi =>
    rw [hs] at hown
    obtain ⟨hk⟩ := hown
    have hfree := ho.not_held_of_none hi
    have hy := (h.get?_of_not_held hfree).trans hi
    have hserve := Serial.serve_of_none hy
    refine Or.inr (h.step (local_goTo x k _) (y.extends_serve jobs k) (alone_of_not_held hfree) ?_
      ?_ (fun _ => ?_) (Serial.nodup_calls_serve h.nodup hk) ?_)
    · rw [hserve]
      exact h.host
    · refine .ended ?_
      rw [hserve, h.shape.unitName]
      exact List.mem_append_right _ (List.mem_singleton_self _)
    · rw [hserve, ← h.slotOf, hy, h.slotOf]
      exact hi.symm
    · rw [hserve, List.filterMap_append, h.starts]
      exact List.append_nil _
  | @fault i p f hs hi hfree hp =>
    rw [hs] at hown
    obtain ⟨hk⟩ := hown
    have hy := (h.get?_of_not_held hfree).trans hi
    exact Or.inr (h.serve (local_put_goTo x k _ _) (alone_of_not_held hfree) hk hy
      (Job.runOn_fault hp) h.host (if_pos rfl) (fun _ hm _ => .ended hm)
      (fun _ => find?_put_self hi _) (List.append_nil _).symm)
  | @fill i p hs hi hfree hp =>
    rw [hs] at hown
    obtain ⟨hk⟩ := hown
    have hy := (h.get?_of_not_held hfree).trans hi
    -- Nothing is served yet: until the command is submitted, another call may still come first.
    exact Or.inl (h.step (local_put_goTo x k _ _) (y.extends_refl jobs k)
      (alone_of_not_held hfree) h.host (.filled hk hy hp (find?_put_self hi _))
      (fun hn => by cases hn) h.nodup h.starts)
  | dry hs hdry =>
    have halone : x.Alone jobs k := ho.alone (hs ▸ rfl)
    rw [hs] at hown
    obtain ⟨⟩ | ⟨hk, hy, hp, he⟩ := hown
    obtain ⟨t, hr, ⟨ht, -, -⟩⟩ := Job.runOn_dry (s := y.site) hp hdry
    exact Or.inr (h.serve (local_goTo x k _) halone hk hy hr (ht.trans h.host)
      (if_pos (by rw [ht])) (fun _ hm _ => .ended hm) (fun _ => he) (List.append_nil _).symm)
  | refuse hs hi hdry herr =>
    have halone : x.Alone jobs k := ho.alone (hs ▸ rfl)
    rw [hs] at hown
    obtain ⟨⟩ | ⟨hk, hy, hp, he⟩ := hown
    obtain rfl := Option.some.inj (hi.symm.trans he)
    rw [← h.host] at herr
    obtain ⟨t, hr, ⟨ht, -, -⟩⟩ := Job.runOn_refused hp hdry herr
    exact Or.inr (h.serve (local_goTo x k _) halone hk hy hr (ht.trans h.host)
      (if_pos (by rw [ht])) (fun _ hm _ => .ended hm) (fun _ => he) (List.append_nil _).symm)
  | start hs hi hdry hstart =>
    have halone : x.Alone jobs k := ho.alone (hs ▸ rfl)
    rw [hs] at hown
    obtain ⟨⟩ | ⟨hk, hy, hp, he⟩ := hown
    obtain rfl := Option.some.inj (hi.symm.trans he)
    rw [← h.host] at hstart
    obtain ⟨report, r, t, hr, ⟨ht, -, -⟩, hlands⟩ := Job.runOn_started hp hdry hstart
    obtain ⟨-, -, hhost⟩ := Host.start_ok hstart
    have hcount : t.host.submissions ≠ y.site.host.submissions := by
      rw [ht, hhost]
      exact Nat.succ_ne_self _
    refine Or.inr (h.serve (local_put_started x k _ _ _ _ _) halone hk hy hr ht
      ((if_neg hcount).trans (by rw [ht, hhost])) (fun y' hm hget => ?_) (fun hn => by cases hn) ?_)
    · exact .polling hm hlands (find?_put_self hi _) hget
    · exact List.map_append
  -- The polls of this call were already made when it was served.
  | poll hs hi hend =>
    have halone : x.Alone jobs k := ho.alone (hs ▸ rfl)
    rw [hs] at hown
    obtain ⟨⟩ | ⟨⟩ | ⟨hk, hlands, he, hy⟩ := hown
    obtain rfl := Option.some.inj (hi.symm.trans he)
    rcases hlands with hlast | ⟨-, hlands⟩
    · cases hend.symm.trans hlast
    · exact Or.inl (h.step (local_put_goTo x k _ _) (y.extends_refl jobs k) halone h.host
        (.polling hk hlands (find?_put_self hi _) hy) (fun hn => by cases hn) h.nodup h.starts)
  | land hs hi hend =>
    have halone : x.Alone jobs k := ho.alone (hs ▸ rfl)
    rw [hs] at hown
    obtain ⟨⟩ | ⟨⟩ | ⟨hk, hlands, he, hy⟩ := hown
    obtain rfl := Option.some.inj (hi.symm.trans he)
    rcases hlands with hlast | ⟨hnext, -⟩
    · refine Or.inl (h.step (local_put_goTo x k _ _) (y.extends_refl jobs k) halone h.host
        (.ended hk) (fun _ => ?_) h.nodup h.starts)
      rw [← h.slotOf, hy, h.slotOf]
      exact (Fleet.get?_put_self hi _).symm
    · cases hend.symm.trans hnext

theorem start (jobs : Fin n → Job) (fleet : Fleet) (site : Site) :
    Mirrors jobs { fleet, host := site.host } { fleet, site } where
  host := rfl
  shape := Fleet.SameShape.refl fleet
  free := fun _ _ => rfl
  accords := fun _ => .waiting List.not_mem_nil
  nodup := List.nodup_nil
  starts := rfl

/-- After any steps, the calls that have submitted their commands were made in some order. -/
theorem play (h : x.Mirrors jobs y) (ho : x.Orderly jobs) (schedule : List (Fin n)) :
    ∃ order : List (Fin n), (x.play jobs schedule).Mirrors jobs
      (order.foldl (Serial.serve jobs) y) := by
  suffices hall : (x.play jobs schedule).Orderly jobs ∧ ∃ order : List (Fin n),
      (x.play jobs schedule).Mirrors jobs (order.foldl (Serial.serve jobs) y) from hall.2
  refine play_keeps (P := fun x => x.Orderly jobs ∧
    ∃ order : List (Fin n), x.Mirrors jobs (order.foldl (Serial.serve jobs) y)) ?_
    ⟨ho, [], h⟩ schedule
  rintro x k x' ⟨ho, order, h⟩ hm
  refine ⟨ho.moves hm, ?_⟩
  rcases h.moves ho hm with h' | h'
  · exact ⟨order, h'⟩
  · refine ⟨order ++ [k], ?_⟩
    rwa [List.foldl_append]

theorem finished (h : x.Mirrors jobs y) (hf : x.Finished) :
    y.fleet = x.fleet ∧ y.calls.Perm (List.finRange n) ∧
      ∀ e ∈ y.served, x.stage e.call = .ended e.report e.sent := by
  have hended (k : Fin n) : ∃ report sent, x.stage k = .ended report sent ∧
      ⟨k, report, sent⟩ ∈ y.served := by
    have hk := hf k
    have ha := h.accords k
    cases hs : x.stage k with
    | ended report sent =>
      rw [hs] at ha
      cases ha with
      | ended hm => exact ⟨report, sent, rfl, hm⟩
    | waiting => rw [hs] at hk; cases hk
    | filled seen => rw [hs] at hk; cases hk
    | polling seen sent polls => rw [hs] at hk; cases hk
  refine ⟨?_, ?_, fun e he => ?_⟩
  · refine h.shape.eq_of_get? fun slot => h.free slot fun k hk => ?_
    obtain ⟨report, sent, hs, -⟩ := hended k
    rw [hs] at hk
    cases hk
  · refine (List.perm_ext_iff_of_nodup h.nodup (List.nodup_finRange n)).mpr fun k => ?_
    obtain ⟨report, sent, -, hm⟩ := hended k
    exact iff_of_true (List.mem_map_of_mem hm) (List.mem_finRange k)
  · obtain ⟨report, sent, hs, hm⟩ := hended e.call
    have hsame := List.inj_on_of_nodup_map h.nodup hm he rfl
    rw [hs, ← hsame]

end Mirrors

end Traffic

end Accelerator
