import Accelerator.Proofs.Dispatch.Job
import Mathlib.Algebra.BigOperators.Group.Finset.Basic
import Mathlib.Algebra.Order.BigOperators.Group.Finset
import Mathlib.Data.Fintype.Basic
import Mathlib.Logic.Function.Basic

/-! Calls that are made at the same time on the dispatchers of one host. Each holds its instance
from the filling of the packet to the last poll, and the steps of the others may come in between
in any order. -/

namespace Accelerator

abbrev Fleet := Nat → Dispatcher

namespace Fleet

/-- The dispatcher and the instance that a call is for. -/
def slotOf (f : Fleet) (j : Job) : Nat × Nat :=
  (j.target, j.core % (f j.target).size)

def get? (f : Fleet) (slot : Nat × Nat) : Option Instance :=
  (f slot.1).instances[slot.2]?

def put (f : Fleet) (slot : Nat × Nat) (i : Instance) : Fleet :=
  Function.update f slot.1 ((f slot.1).setInstance slot.2 i)

/-- The same dispatchers, whatever has become of their instances. -/
structure SameShape (f f' : Fleet) : Prop where
  registry : ∀ t, (f' t).registry = (f t).registry
  unitName : ∀ t, (f' t).unitName = (f t).unitName
  size : ∀ t, (f' t).size = (f t).size

variable {f f' f'' : Fleet}

theorem SameShape.refl (f : Fleet) : f.SameShape f :=
  ⟨fun _ => rfl, fun _ => rfl, fun _ => rfl⟩

theorem SameShape.trans (h : f.SameShape f') (h' : f'.SameShape f'') : f.SameShape f'' :=
  ⟨fun t => (h'.registry t).trans (h.registry t), fun t => (h'.unitName t).trans (h.unitName t),
    fun t => (h'.size t).trans (h.size t)⟩

theorem SameShape.symm (h : f.SameShape f') : f'.SameShape f :=
  ⟨fun t => (h.registry t).symm, fun t => (h.unitName t).symm, fun t => (h.size t).symm⟩

theorem SameShape.slotOf (h : f.SameShape f') (j : Job) : f'.slotOf j = f.slotOf j := by
  rw [Fleet.slotOf, h.size, Fleet.slotOf]

theorem sameShape_put (f : Fleet) (slot : Nat × Nat) (i : Instance) :
    f.SameShape (f.put slot i) := by
  have hupdate (t : Nat) : f.put slot i t = f t ∨
      (t = slot.1 ∧ f.put slot i t = (f slot.1).setInstance slot.2 i) := by
    by_cases ht : t = slot.1
    · subst ht
      exact Or.inr ⟨rfl, Function.update_self ..⟩
    · exact Or.inl (Function.update_of_ne ht ..)
  refine ⟨fun t => ?_, fun t => ?_, fun t => ?_⟩ <;> rcases hupdate t with h | ⟨rfl, h⟩ <;> rw [h]
  · rfl
  · rfl
  · exact List.length_set

@[simp] theorem slotOf_put (f : Fleet) (slot : Nat × Nat) (i : Instance) (j : Job) :
    (f.put slot i).slotOf j = f.slotOf j :=
  (f.sameShape_put slot i).slotOf j

theorem get?_put (f : Fleet) (slot slot' : Nat × Nat) (i : Instance) :
    (f.put slot i).get? slot' = if slot = slot' then (f.get? slot').map fun _ => i
      else f.get? slot' := by
  obtain ⟨t, n⟩ := slot
  obtain ⟨t', n'⟩ := slot'
  simp only [get?, put, Prod.mk.injEq]
  by_cases ht : t' = t
  · subst ht
    rw [Function.update_self, Dispatcher.setInstance, List.getElem?_set']
    simp only [true_and]
    rfl
  · rw [Function.update_of_ne ht, if_neg fun h => ht h.1.symm]

theorem get?_put_self {slot : Nat × Nat} {i : Instance} (h : f.get? slot = some i)
    (i' : Instance) : (f.put slot i').get? slot = some i' := by
  rw [get?_put, if_pos rfl, h]
  rfl

theorem get?_put_of_ne {slot slot' : Nat × Nat} (h : slot ≠ slot') (i : Instance) :
    (f.put slot i).get? slot' = f.get? slot' := by
  rw [get?_put, if_neg h]

theorem SameShape.eq_of_get? (h : f.SameShape f') (hi : ∀ slot, f'.get? slot = f.get? slot) :
    f' = f := by
  funext t
  have hinstances : (f' t).instances = (f t).instances :=
    List.ext_getElem? fun n => hi (t, n)
  have hr := h.registry t
  have hn := h.unitName t
  revert hinstances hr hn
  rcases f t with ⟨r, name, is⟩
  rcases f' t with ⟨r', name', is'⟩
  rintro rfl rfl rfl
  rfl

end Fleet

inductive Stage where
  | waiting
  | filled (seen : Packet)
  /-- Submitted as the second packet, and polled so often. -/
  | polling (seen sent : Packet) (polls : Nat)
  | ended (report : RunReport) (sent : Option Packet)

namespace Stage

def holds : Stage → Bool
  | filled _ => true
  | polling _ _ _ => true
  | _ => false

def isEnded : Stage → Bool
  | ended _ _ => true
  | _ => false

end Stage

structure Start (n : Nat) where
  call : Fin n
  unit : ComputeUnit
  packet : Packet

/-- Some calls in the making. The commands started so far are in the order of their starts. -/
structure Traffic (n : Nat) where
  fleet : Fleet
  host : Host
  stage : Fin n → Stage := fun _ => .waiting
  starts : List (Start n) := []

namespace Traffic

variable {n : Nat}

def goTo (x : Traffic n) (k : Fin n) (stage : Stage) : Traffic n :=
  { x with stage := Function.update x.stage k stage }

def find? (x : Traffic n) (j : Job) : Option Instance :=
  x.fleet.get? (x.fleet.slotOf j)

def put (x : Traffic n) (j : Job) (i : Instance) : Traffic n :=
  { x with fleet := x.fleet.put (x.fleet.slotOf j) i }

def started (x : Traffic n) (k : Fin n) (unit : ComputeUnit) (packet : Packet) (host : Host) :
    Traffic n :=
  { x with host, starts := x.starts ++ [⟨k, unit, packet⟩] }

def Finished (x : Traffic n) : Prop :=
  ∀ k, (x.stage k).isEnded = true

instance (x : Traffic n) : Decidable x.Finished :=
  inferInstanceAs (Decidable (∀ k, (x.stage k).isEnded = true))

section

variable (jobs : Fin n → Job)

/-- Some call holds the instance that this one is for. -/
def Held (x : Traffic n) (j : Job) : Prop :=
  ∃ k, (x.stage k).holds = true ∧ x.fleet.slotOf (jobs k) = x.fleet.slotOf j

instance (x : Traffic n) (j : Job) : Decidable (x.Held jobs j) :=
  inferInstanceAs (Decidable (∃ k, (x.stage k).holds = true ∧ _))

/-- Waits for the instance, and fills its packet. -/
def fill (x : Traffic n) (k : Fin n) : Option (Traffic n) :=
  let j := jobs k
  match x.find? j with
  | none => some (x.goTo k (.ended (.busy (x.fleet j.target).unitName) none))
  | some i =>
    if x.Held jobs j then none
    else
      match j.populate i.fresh with
      | (p, some f) =>
        some ((x.put j (i.withPacket p)).goTo k (.ended (.faulted i.fresh f) none))
      | (p, none) => some ((x.put j (i.withPacket p)).goTo k (.filled i.fresh))

def submit (x : Traffic n) (k : Fin n) (seen : Packet) : Option (Traffic n) :=
  let j := jobs k
  (x.find? j).map fun i =>
    if j.settings.dryRun then x.goTo k (.ended (.dry seen) none)
    else
      match x.host.start i.run (j.clock.reading 1) (j.clock.reading 2) with
      | .error e => x.goTo k (.ended (.refused seen e) none)
      | .ok (run, host) =>
        ((x.put j { i with run }).started k i.unit run.packet host).goTo k
          (.polling seen run.packet 0)

def poll (x : Traffic n) (k : Fin n) (seen sent : Packet) (polls : Nat) : Option (Traffic n) :=
  let j := jobs k
  (x.find? j).map fun i =>
    let run := i.run.wait (j.clock.pollTime polls)
    (x.put j { i with run }).goTo k <|
      if j.endsAt polls run then .ended (j.reportAt seen (polls + 1) run) (some sent)
      else .polling seen sent (polls + 1)

/-- The next step of a call, unless it is over or has to wait. -/
def advance (x : Traffic n) (k : Fin n) : Option (Traffic n) :=
  match x.stage k with
  | .waiting => x.fill jobs k
  | .filled seen => x.submit jobs k seen
  | .polling seen sent polls => x.poll jobs k seen sent polls
  | .ended _ _ => none

def attempt (x : Traffic n) (k : Fin n) : Traffic n :=
  (x.advance jobs k).getD x

def play (x : Traffic n) (schedule : List (Fin n)) : Traffic n :=
  schedule.foldl (attempt jobs) x

inductive Moves (x : Traffic n) (k : Fin n) : Traffic n → Prop
  | busy (hs : x.stage k = .waiting) (hi : x.find? (jobs k) = none) :
      Moves x k (x.goTo k (.ended (.busy (x.fleet (jobs k).target).unitName) none))
  | fault {i : Instance} {p : Packet} {f : Fault} (hs : x.stage k = .waiting)
      (hi : x.find? (jobs k) = some i) (hfree : ¬ x.Held jobs (jobs k))
      (hp : (jobs k).populate i.fresh = (p, some f)) :
      Moves x k ((x.put (jobs k) (i.withPacket p)).goTo k (.ended (.faulted i.fresh f) none))
  | fill {i : Instance} {p : Packet} (hs : x.stage k = .waiting)
      (hi : x.find? (jobs k) = some i) (hfree : ¬ x.Held jobs (jobs k))
      (hp : (jobs k).populate i.fresh = (p, none)) :
      Moves x k ((x.put (jobs k) (i.withPacket p)).goTo k (.filled i.fresh))
  | dry {seen : Packet} (hs : x.stage k = .filled seen) (hdry : (jobs k).settings.dryRun = true) :
      Moves x k (x.goTo k (.ended (.dry seen) none))
  | refuse {seen : Packet} {i : Instance} {e : DeviceError} (hs : x.stage k = .filled seen)
      (hi : x.find? (jobs k) = some i) (hdry : (jobs k).settings.dryRun = false)
      (he : x.host.start i.run ((jobs k).clock.reading 1) ((jobs k).clock.reading 2) = .error e) :
      Moves x k (x.goTo k (.ended (.refused seen e) none))
  | start {seen : Packet} {i : Instance} {run : Run} {host : Host}
      (hs : x.stage k = .filled seen) (hi : x.find? (jobs k) = some i)
      (hdry : (jobs k).settings.dryRun = false)
      (hr : x.host.start i.run ((jobs k).clock.reading 1) ((jobs k).clock.reading 2) =
        .ok (run, host)) :
      Moves x k (((x.put (jobs k) { i with run }).started k i.unit run.packet host).goTo k
        (.polling seen run.packet 0))
  | poll {seen sent : Packet} {polls : Nat} {i : Instance}
      (hs : x.stage k = .polling seen sent polls) (hi : x.find? (jobs k) = some i)
      (hend : (jobs k).endsAt polls (i.run.wait ((jobs k).clock.pollTime polls)) = false) :
      Moves x k ((x.put (jobs k) { i with
        run := i.run.wait ((jobs k).clock.pollTime polls) }).goTo k (.polling seen sent (polls + 1)))
  | land {seen sent : Packet} {polls : Nat} {i : Instance}
      (hs : x.stage k = .polling seen sent polls) (hi : x.find? (jobs k) = some i)
      (hend : (jobs k).endsAt polls (i.run.wait ((jobs k).clock.pollTime polls)) = true) :
      Moves x k ((x.put (jobs k) { i with
        run := i.run.wait ((jobs k).clock.pollTime polls) }).goTo k (.ended ((jobs k).reportAt seen
          (polls + 1) (i.run.wait ((jobs k).clock.pollTime polls))) (some sent)))

end

variable {jobs : Fin n → Job} {x x' : Traffic n} {k : Fin n}

theorem moves_of_advance (h : x.advance jobs k = some x') : x.Moves jobs k x' := by
  unfold advance at h
  rcases hs : x.stage k with _ | seen | ⟨seen, sent, polls⟩ | ⟨report, sent⟩ <;>
    simp only [hs] at h
  · unfold fill at h
    rcases hi : x.find? (jobs k) with _ | i <;> simp only [hi] at h
    · cases h
      exact .busy hs hi
    · by_cases hfree : x.Held jobs (jobs k)
      · rw [if_pos hfree] at h
        cases h
      · rw [if_neg hfree] at h
        rcases hp : (jobs k).populate i.fresh with ⟨p, _ | f⟩ <;> simp only [hp] at h <;> cases h
        · exact .fill hs hi hfree hp
        · exact .fault hs hi hfree hp
  · obtain ⟨i, hi, h⟩ := Option.map_eq_some_iff.mp h
    cases hdry : (jobs k).settings.dryRun with
    | true =>
      simp only [hdry, if_true] at h
      subst h
      exact .dry hs hdry
    | false =>
      simp only [hdry, Bool.false_eq_true, if_false] at h
      rcases hr : x.host.start i.run ((jobs k).clock.reading 1) ((jobs k).clock.reading 2) with
        e | ⟨run, host⟩ <;> simp only [hr] at h <;> subst h
      · exact .refuse hs hi hdry hr
      · exact .start hs hi hdry hr
  · obtain ⟨i, hi, h⟩ := Option.map_eq_some_iff.mp h
    cases hend : (jobs k).endsAt polls (i.run.wait ((jobs k).clock.pollTime polls)) with
    | true =>
      simp only [hend, if_true] at h
      subst h
      exact .land hs hi hend
    | false =>
      simp only [hend, Bool.false_eq_true, if_false] at h
      subst h
      exact .poll hs hi hend
  · cases h

theorem play_keeps {P : Traffic n → Prop} (hP : ∀ x k x', P x → x.Moves jobs k x' → P x')
    (h : P x) (schedule : List (Fin n)) : P (x.play jobs schedule) := by
  induction schedule generalizing x with
  | nil => exact h
  | cons k schedule ih =>
    refine ih (x := x.attempt jobs k) ?_
    unfold attempt
    rcases ha : x.advance jobs k with _ | x'
    · exact h
    · exact hP x k x' h (moves_of_advance ha)

/-- A step changes the stage of its call and the instance that this is for, and nothing else of
them. -/
structure Local (jobs : Fin n → Job) (x : Traffic n) (k : Fin n) (x' : Traffic n) (stage : Stage) :
    Prop where
  stage : x'.stage = Function.update x.stage k stage
  shape : x.fleet.SameShape x'.fleet
  other : ∀ slot, x.fleet.slotOf (jobs k) ≠ slot → x'.fleet.get? slot = x.fleet.get? slot
  isSome : ∀ slot, (x'.fleet.get? slot).isSome = (x.fleet.get? slot).isSome

theorem local_goTo (x : Traffic n) (k : Fin n) (stage : Stage) :
    Local jobs x k (x.goTo k stage) stage :=
  ⟨rfl, Fleet.SameShape.refl _, fun _ _ => rfl, fun _ => rfl⟩

theorem local_put_goTo (x : Traffic n) (k : Fin n) (i : Instance) (stage : Stage) :
    Local jobs x k ((x.put (jobs k) i).goTo k stage) stage := by
  refine ⟨rfl, Fleet.sameShape_put _ _ _, fun _ hne => Fleet.get?_put_of_ne hne i, fun slot => ?_⟩
  simp only [goTo, put, Fleet.get?_put]
  split
  · rw [Option.isSome_map]
  · rfl

theorem local_put_started (x : Traffic n) (k : Fin n) (i : Instance) (unit : ComputeUnit)
    (packet : Packet) (host : Host) (stage : Stage) :
    Local jobs x k (((x.put (jobs k) i).started k unit packet host).goTo k stage) stage := by
  have h : Local jobs x k ((x.put (jobs k) i).goTo k stage) stage := local_put_goTo x k i stage
  exact ⟨h.stage, h.shape, h.other, h.isSome⟩

/-- No other call holds the instance that this one is for. -/
def Alone (jobs : Fin n → Job) (x : Traffic n) (k : Fin n) : Prop :=
  ∀ k', k' ≠ k → (x.stage k').holds = true → x.fleet.slotOf (jobs k') ≠ x.fleet.slotOf (jobs k)

theorem alone_of_not_held (h : ¬ x.Held jobs (jobs k)) : x.Alone jobs k :=
  fun k' _ hk' he => h ⟨k', hk', he⟩

/-- No instance is held twice, what is held is there, and no polling goes on for ever. -/
structure Orderly (jobs : Fin n → Job) (x : Traffic n) : Prop where
  exclusive : ∀ k k', (x.stage k).holds = true → (x.stage k').holds = true →
    x.fleet.slotOf (jobs k) = x.fleet.slotOf (jobs k') → k = k'
  placed : ∀ k, (x.stage k).holds = true → (x.find? (jobs k)).isSome = true
  bounded : ∀ k seen sent polls, x.stage k = .polling seen sent polls →
    polls ≤ (jobs k).clock.horizon

namespace Orderly

theorem start (jobs : Fin n → Job) (fleet : Fleet) (host : Host) :
    Orderly jobs { fleet, host } where
  exclusive := fun _ _ h => by cases h
  placed := fun _ h => by cases h
  bounded := fun _ _ _ _ h => by cases h

theorem alone (h : x.Orderly jobs) (hk : (x.stage k).holds = true) : x.Alone jobs k :=
  fun k' hne hk' he => hne (h.exclusive k' k hk' hk he)

theorem not_held_of_none {j : Job} (h : x.Orderly jobs) (hi : x.find? j = none) :
    ¬ x.Held jobs j := by
  rintro ⟨k', hk', he⟩
  have hsome := h.placed k' hk'
  rw [find?, he, ← find?, hi] at hsome
  cases hsome

theorem step {stage : Stage} (h : x.Orderly jobs) (hl : Local jobs x k x' stage)
    (halone : stage.holds = true → x.Alone jobs k)
    (hplaced : stage.holds = true → (x.find? (jobs k)).isSome = true)
    (hbounded : ∀ seen sent polls, stage = .polling seen sent polls →
      polls ≤ (jobs k).clock.horizon) : x'.Orderly jobs := by
  have hself : x'.stage k = stage := by rw [hl.stage, Function.update_self]
  have hother {k' : Fin n} (hne : k' ≠ k) : x'.stage k' = x.stage k' := by
    rw [hl.stage, Function.update_of_ne hne]
  have hfind (j : Job) : (x'.find? j).isSome = (x.find? j).isSome := by
    rw [find?, hl.shape.slotOf, hl.isSome, find?]
  refine ⟨fun k₁ k₂ h₁ h₂ he => ?_, ?_, ?_⟩
  · rw [hl.shape.slotOf, hl.shape.slotOf] at he
    by_contra hne
    by_cases hk₁ : k₁ = k
    · subst hk₁
      rw [hself] at h₁
      rw [hother (Ne.symm hne)] at h₂
      exact halone h₁ k₂ (Ne.symm hne) h₂ he.symm
    · rw [hother hk₁] at h₁
      by_cases hk₂ : k₂ = k
      · subst hk₂
        rw [hself] at h₂
        exact halone h₂ k₁ hne h₁ he
      · rw [hother hk₂] at h₂
        exact hne (h.exclusive k₁ k₂ h₁ h₂ he)
  · simp only [hfind, hl.stage]
    exact (Function.forall_update_iff x.stage fun k stage =>
      stage.holds = true → (x.find? (jobs k)).isSome = true).mpr ⟨hplaced, fun k' _ => h.placed k'⟩
  · rw [hl.stage]
    exact (Function.forall_update_iff x.stage fun k stage => ∀ seen sent polls,
      stage = .polling seen sent polls → polls ≤ (jobs k).clock.horizon).mpr
        ⟨hbounded, fun k' _ => h.bounded k'⟩

theorem settle {report : RunReport} {sent : Option Packet} (h : x.Orderly jobs)
    (hl : Local jobs x k x' (.ended report sent)) : x'.Orderly jobs :=
  h.step hl (fun h => by cases h) (fun h => by cases h) fun _ _ _ h => by cases h

theorem moves (h : x.Orderly jobs) (hm : x.Moves jobs k x') : x'.Orderly jobs := by
  cases hm with
  | busy hs hi => exact h.settle (local_goTo x k _)
  | fault hs hi hfree hp => exact h.settle (local_put_goTo x k _ _)
  | fill hs hi hfree hp =>
    refine h.step (local_put_goTo x k _ _) (fun _ => alone_of_not_held hfree) (fun _ => hi ▸ rfl)
      fun _ _ _ he => ?_
    cases he
  | dry hs hdry => exact h.settle (local_goTo x k _)
  | refuse hs hi hdry he => exact h.settle (local_goTo x k _)
  | start hs hi hdry hr =>
    refine h.step (local_put_started x k _ _ _ _ _) (fun _ => h.alone (hs ▸ rfl))
      (fun _ => hi ▸ rfl) fun _ _ _ he => ?_
    cases he
    exact Nat.zero_le _
  | poll hs hi hend =>
    refine h.step (local_put_goTo x k _ _) (fun _ => h.alone (hs ▸ rfl)) (fun _ => hi ▸ rfl)
      fun _ _ _ he => ?_
    cases he
    exact Job.lt_horizon_of_endsAt hend
  | land hs hi hend => exact h.settle (local_put_goTo x k _ _)

theorem play (h : x.Orderly jobs) (schedule : List (Fin n)) : (x.play jobs schedule).Orderly jobs :=
  play_keeps (fun _ _ _ h hm => h.moves hm) h schedule

end Orderly

theorem isSome_advance_of_holds (h : x.Orderly jobs) (hk : (x.stage k).holds = true) :
    (x.advance jobs k).isSome = true := by
  have hi := h.placed k hk
  unfold advance
  rcases hs : x.stage k with _ | seen | ⟨seen, sent, polls⟩ | ⟨report, sent⟩ <;> rw [hs] at hk
  · cases hk
  · simp only [submit, Option.isSome_map, hi]
  · simp only [poll, Option.isSome_map, hi]
  · cases hk

theorem isSome_fill_of_not_held (hk : ¬ x.Held jobs (jobs k)) :
    (x.fill jobs k).isSome = true := by
  unfold fill
  rcases hi : x.find? (jobs k) with _ | i <;> simp only [hi]
  · rfl
  · rw [if_neg hk]
    rcases (jobs k).populate i.fresh with ⟨p, _ | f⟩ <;> rfl

theorem exists_isSome_advance (h : x.Orderly jobs) (hn : ¬ x.Finished) :
    ∃ k, (x.advance jobs k).isSome = true := by
  obtain ⟨k, hk⟩ := not_forall.mp hn
  rcases hs : x.stage k with _ | seen | ⟨seen, sent, polls⟩ | ⟨report, sent⟩
  · by_cases hheld : x.Held jobs (jobs k)
    -- The holder itself never waits.
    · obtain ⟨k', hk', -⟩ := hheld
      exact ⟨k', isSome_advance_of_holds h hk'⟩
    · refine ⟨k, ?_⟩
      simp only [advance, hs]
      exact isSome_fill_of_not_held hheld
  · exact ⟨k, isSome_advance_of_holds h (by rw [hs]; rfl)⟩
  · exact ⟨k, isSome_advance_of_holds h (by rw [hs]; rfl)⟩
  · exact absurd (by rw [hs]; rfl) hk

/-- A bound on the steps that a call has before it. -/
def stepsLeft (j : Job) : Stage → Nat
  | .waiting => j.clock.horizon + 3
  | .filled _ => j.clock.horizon + 2
  | .polling _ _ polls => j.clock.horizon + 1 - polls
  | .ended _ _ => 0

theorem Moves.exists_stepsLeft_lt (h : x.Orderly jobs) (hm : x.Moves jobs k x') :
    ∃ stage, x'.stage = Function.update x.stage k stage ∧
      stepsLeft (jobs k) stage < stepsLeft (jobs k) (x.stage k) := by
  cases hm with
  | busy hs hi => exact ⟨_, rfl, by rw [hs]; simp only [stepsLeft]; omega⟩
  | fault hs hi hfree hp => exact ⟨_, rfl, by rw [hs]; simp only [stepsLeft]; omega⟩
  | fill hs hi hfree hp => exact ⟨_, rfl, by rw [hs]; simp only [stepsLeft]; omega⟩
  | dry hs hdry => exact ⟨_, rfl, by rw [hs]; simp only [stepsLeft]; omega⟩
  | refuse hs hi hdry he => exact ⟨_, rfl, by rw [hs]; simp only [stepsLeft]; omega⟩
  | start hs hi hdry hr => exact ⟨_, rfl, by rw [hs]; simp only [stepsLeft]; omega⟩
  | poll hs hi hend =>
    have hb := h.bounded k _ _ _ hs
    exact ⟨_, rfl, by rw [hs]; simp only [stepsLeft]; omega⟩
  | land hs hi hend =>
    have hb := h.bounded k _ _ _ hs
    exact ⟨_, rfl, by rw [hs]; simp only [stepsLeft]; omega⟩

theorem sum_stepsLeft_lt (h : x.Orderly jobs) (hm : x.Moves jobs k x') :
    ∑ k, stepsLeft (jobs k) (x'.stage k) < ∑ k, stepsLeft (jobs k) (x.stage k) := by
  obtain ⟨stage, hstage, hlt⟩ := hm.exists_stepsLeft_lt h
  rw [hstage]
  refine Finset.sum_lt_sum (fun k' _ => ?_) ⟨k, Finset.mem_univ k, ?_⟩
  · by_cases hk : k' = k
    · subst hk
      rw [Function.update_self]
      exact Nat.le_of_lt hlt
    · rw [Function.update_of_ne hk]
  · rwa [Function.update_self]

/-- However far the calls have come, there is a way on which all of them end. -/
theorem exists_finished (h : x.Orderly jobs) : ∃ schedule, (x.play jobs schedule).Finished := by
  induction hn : ∑ k, stepsLeft (jobs k) (x.stage k) using Nat.strongRecOn generalizing x with
  | ind m ih =>
    by_cases hf : x.Finished
    · exact ⟨[], hf⟩
    · obtain ⟨k, hk⟩ := exists_isSome_advance h hf
      obtain ⟨x', hx'⟩ := Option.isSome_iff_exists.mp hk
      have hm := moves_of_advance hx'
      obtain ⟨schedule, hs⟩ := ih _ (hn ▸ sum_stepsLeft_lt h hm) (h.moves hm) rfl
      refine ⟨k :: schedule, ?_⟩
      have hattempt : x.attempt jobs k = x' := by rw [attempt, hx', Option.getD_some]
      rwa [play, List.foldl_cons, hattempt]

end Traffic

end Accelerator
