import Accelerator.Proofs.Dispatch.Exits

/-! The packet that a call is given to fill shows nothing of the calls before it, except for the
mask of units, which is the one that the last call on the same instance left behind. -/

namespace Accelerator

namespace Packet

/-- The packets are the same but for words of the block that are not in use. -/
def ShowsAs (p q : Packet) : Prop :=
  { p with block := q.block } = q ∧ p.payload = q.payload

theorem reset_showsAs (p q : Packet) :
    { p.reset with unitMask := q.unitMask }.ShowsAs q.reset := by
  refine ⟨rfl, ?_⟩
  rw [payload_reset]
  exact payload_reset p

end Packet

namespace Run

theorem unitMask_wait (r : Run) (now : Nat) :
    (r.wait now).packet.unitMask = r.packet.unitMask := by
  obtain ⟨polls, hw | ⟨state, hw⟩⟩ := r.wait_cases now <;> rw [hw]
  rfl

theorem unitMask_polled (r : Run) (times : Nat → Nat) (n : Nat) :
    (r.polled times n).packet.unitMask = r.packet.unitMask := by
  induction n with
  | zero => rfl
  | succ n ih => exact (unitMask_wait _ _).trans ih

end Run

/-- A call on a dispatcher, with the clock and the site that it meets. -/
structure Command where
  settings : Settings
  clock : Clock settings.timeout
  core : Nat
  populate : Populate
  site : Site

namespace Dispatcher

/-- The packet that a call is given to fill, if there is an instance for it. -/
def seenBy (d : Dispatcher) (c : Command) : Option Packet :=
  (d.run c.settings c.clock c.core c.populate c.site).1.seen

def after (d : Dispatcher) (c : Command) : Dispatcher :=
  (d.run c.settings c.clock c.core c.populate c.site).2.1

def maskOf (d : Dispatcher) (index : Nat) : Option UInt32 :=
  d.instances[index]?.map fun i => i.run.packet.unitMask

theorem runOn_seen (settings : Settings) (clock : Clock settings.timeout) (core : Nat)
    (populate : Populate) (i : Instance) (s : Site) :
    let out := runOn settings clock core populate i s
    out.1.seen = some i.fresh ∧
      out.2.1.run.packet.unitMask = (populate i.fresh).1.unitMask := by
  intro out
  have hout : out = runOn settings clock core populate i s := rfl
  rcases hq : populate i.fresh with ⟨p, _ | f⟩ <;> simp only [runOn, hq] at hout
  · by_cases hdry : settings.dryRun = true
    · simp only [hdry, if_true] at hout
      rw [hout]
      exact ⟨rfl, rfl⟩
    · simp only [hdry, Bool.false_eq_true, if_false] at hout
      rcases hs : (reportPacket settings (i.withPacket p) s).host.start (i.withPacket p).run
          (clock.reading 1) (clock.reading 2) with e | ⟨run, host⟩ <;> simp only [hs] at hout
      · rw [hout]
        exact ⟨rfl, rfl⟩
      · obtain ⟨last, -, -, -, -, hseen, hinst, -⟩ := await_ends clock core i.fresh
          { i.withPacket p with run } { reportPacket settings (i.withPacket p) s with host }
        have hrun : run.packet.unitMask = p.unitMask := by
          unfold Host.start at hs
          split at hs
          · cases hs
          · cases hs
            rfl
        have hmask := congrArg (fun i : Instance => i.run.packet.unitMask) hinst
        rw [hout]
        exact ⟨hseen, hmask.trans ((Run.unitMask_polled _ _ _).trans hrun)⟩
  · rw [hout]
    exact ⟨rfl, rfl⟩

variable {d : Dispatcher} {c : Command}

theorem seenBy_eq (d : Dispatcher) (c : Command) :
    d.seenBy c = d.instances[c.core % d.size]?.map Instance.fresh := by
  unfold seenBy run
  split
  · next h => rw [h]; rfl
  · next i h =>
    rw [h]
    exact (runOn_seen c.settings c.clock c.core c.populate i c.site).1

theorem size_after (d : Dispatcher) (c : Command) : (d.after c).size = d.size := by
  unfold after run
  split
  · rfl
  · exact List.length_set

/-- A call leaves the mask of its own instance as its packet was filled, and the masks of all
others as they were. -/
theorem maskOf_after (d : Dispatcher) (c : Command) (index : Nat) :
    (d.after c).maskOf index =
      if c.core % d.size = index then (d.seenBy c).map fun p => (c.populate p).1.unitMask
      else d.maskOf index := by
  rw [seenBy_eq]
  unfold after run maskOf
  rcases hi : d.instances[c.core % d.size]? with _ | i
  · simp only [Option.map_none]
    split
    · next he => rw [← he, hi]; rfl
    · rfl
  · have hlt := (List.getElem?_eq_some_iff.mp hi).1
    simp only [setInstance, List.getElem?_set]
    split
    · next he =>
      rw [Option.map_some]
      exact congrArg some (runOn_seen c.settings c.clock c.core c.populate i c.site).2
    · rfl

theorem size_foldl_after (d : Dispatcher) (history : List Command) :
    (history.foldl after d).size = d.size := by
  induction history generalizing d with
  | nil => rfl
  | cons c history ih => exact (ih (d.after c)).trans (d.size_after c)

theorem maskOf_foldl_after {index : Nat} {history : List Command}
    (h : ∀ c ∈ history, c.core % d.size ≠ index) :
    (history.foldl after d).maskOf index = d.maskOf index := by
  induction history generalizing d with
  | nil => rfl
  | cons c history ih =>
    have hc := h c List.mem_cons_self
    have hrest : ∀ c' ∈ history, c'.core % (d.after c).size ≠ index := by
      intro c' hm
      rw [size_after]
      exact h c' (List.mem_cons_of_mem c hm)
    rw [List.foldl_cons, ih hrest, maskOf_after, if_neg hc]

theorem seenBy_eq_none_iff : d.seenBy c = none ↔ d.size = 0 := by
  rw [seenBy_eq, Option.map_eq_none_iff, List.getElem?_eq_none_iff]
  constructor
  · intro h
    refine Nat.eq_zero_of_not_pos fun hpos => ?_
    exact absurd (Nat.mod_lt c.core hpos) (Nat.not_lt.mpr h)
  · intro h
    rw [show d.instances.length = 0 from h]
    exact Nat.zero_le _

theorem maskOf_eq_of_seenBy {p : Packet} (h : d.seenBy c = some p) :
    d.maskOf (c.core % d.size) = some p.unitMask := by
  rw [seenBy_eq] at h
  obtain ⟨i, hi, rfl⟩ := Option.map_eq_some_iff.mp h
  rw [maskOf, hi]
  rfl

theorem showsAs_of_seenBy {d' : Dispatcher} {c' : Command} {p p' : Packet}
    (h : d.seenBy c = some p) (h' : d'.seenBy c' = some p') :
    { p with unitMask := p'.unitMask }.ShowsAs p' := by
  rw [seenBy_eq] at h h'
  obtain ⟨i, -, rfl⟩ := Option.map_eq_some_iff.mp h
  obtain ⟨i', -, rfl⟩ := Option.map_eq_some_iff.mp h'
  exact Packet.reset_showsAs i.run.packet i'.run.packet

/-- After any two histories a call is given packets that show the same but for the mask, and the
mask is as the last call on the instance left it, or as it was when there was none. -/
theorem seen_but_mask (d : Dispatcher) (history history' : List Command) (c : Command) :
    (d.size = 0 ∧ (history.foldl after d).seenBy c = none ∧
      (history'.foldl after d).seenBy c = none) ∨
    ∃ p p', (history.foldl after d).seenBy c = some p ∧
      (history'.foldl after d).seenBy c = some p' ∧
      { p with unitMask := p'.unitMask }.ShowsAs p' ∧
      ((∀ c' ∈ history, c'.core % d.size ≠ c.core % d.size) →
        d.maskOf (c.core % d.size) = some p.unitMask) ∧
      ∀ earlier last later, history = earlier ++ last :: later →
        last.core % d.size = c.core % d.size →
        (∀ c' ∈ later, c'.core % d.size ≠ c.core % d.size) →
        ∃ q, (earlier.foldl after d).seenBy last = some q ∧
          p.unitMask = (last.populate q).1.unitMask := by
  have hsize := d.size_foldl_after history
  have hsize' := d.size_foldl_after history'
  rcases hp : (history.foldl after d).seenBy c with _ | p
  · have hz := seenBy_eq_none_iff.mp hp
    refine Or.inl ⟨hsize ▸ hz, rfl, ?_⟩
    rw [seenBy_eq_none_iff, hsize', ← hsize, hz]
  · rcases hp' : (history'.foldl after d).seenBy c with _ | p'
    · have hz := seenBy_eq_none_iff.mp hp'
      have hn : (history.foldl after d).seenBy c = none := by
        rw [seenBy_eq_none_iff, hsize, ← hsize', hz]
      cases hn.symm.trans hp
    · have hmask := maskOf_eq_of_seenBy hp
      rw [hsize] at hmask
      refine Or.inr ⟨p, p', rfl, rfl, showsAs_of_seenBy hp hp', fun hother => ?_, ?_⟩
      · rw [← maskOf_foldl_after hother]
        exact hmask
      · rintro earlier last later rfl hsame hother
        have hsize₁ := d.size_foldl_after earlier
        have hsize₂ := (earlier.foldl after d).size_after last
        have hlater : ∀ c' ∈ later,
            c'.core % ((earlier.foldl after d).after last).size ≠ c.core % d.size := by
          intro c' hm
          rw [hsize₂, hsize₁]
          exact hother c' hm
        rw [List.foldl_append, List.foldl_cons, maskOf_foldl_after hlater, maskOf_after, hsize₁,
          if_pos hsame, Option.map_eq_some_iff] at hmask
        obtain ⟨q, hq, he⟩ := hmask
        exact ⟨q, hq, he.symm⟩

/-- The mask that one call sets is still there when the next one gets the packet. -/
theorem mask_outlives_call :
    ¬ ∀ (d : Dispatcher) (history history' : List Command) (c : Command) (p p' : Packet),
      (history.foldl after d).seenBy c = some p → (history'.foldl after d).seenBy c = some p' →
        p.ShowsAs p' := by
  intro h
  let unit : ComputeUnit := {
    device := 0, uuid := {}, fullName := "dpu:one", kernelName := "dpu", instanceName := "one"
    fingerprint := 0, kernel := { device := 0, load := 0, name := "dpu:one" } }
  let d : Dispatcher := {
    registry := 0, unitName := "dpu", instances := [{ unit, run := { kernel := "dpu:one" } }] }
  let setMask : Command := {
    settings := { dryRun := true, timeout := 1, lockDirectory := "/" }
    clock := Clock.steady 0 50 1
    core := 0
    populate := fun p => ({ p with unitMask := 7 }, none)
    site := { host := { devices := [] } } }
  have hs := h d [] [setMask] setMask _ _ rfl rfl
  have hmask := congrArg Packet.unitMask hs.1
  exact absurd hmask (by decide +kernel)

end Dispatcher

end Accelerator
