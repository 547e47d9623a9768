import Accelerator.Proofs.Registry.Progress
import Accelerator.Proofs.Site.Place

/-! The locks that a registry in the making asks for. It asks for that of each device once, in the
order of the devices, and waits for none that is free when its turn comes. -/

namespace Accelerator

namespace Opening

open Accelerator.Action

/-- The device whose lock is asked for next. A lock that is waited for has been asked for. -/
def asks (o : Opening) : List Nat :=
  if o.waits then [] else o.pending.take 1

/-- The devices whose locks have been asked for. -/
def asked (o : Opening) : List Nat :=
  o.bound.map (·.index) ++ if o.waits then o.pending.take 1 else []

/-- The devices whose locks are asked for while up to `n` of them are bound. -/
def lockRequests : Nat → Opening → Site → List Nat
  | 0, _, _ => []
  | n + 1, o, s =>
    o.asks ++
      match o.bindNext.run s with
      | (.error _, _) => []
      | (.ok o', t) => if o'.waits then [] else lockRequests n o' t

variable {o o' : Opening} {s t : Site}

theorem waits_of_start {settings : Settings} (h : (start settings).run s = (.ok o, t)) :
    o.waits = false := by
  obtain ⟨_, _, -, h⟩ := bind_ok h
  obtain ⟨_, _, -, h⟩ := bind_ok h
  obtain ⟨_, _, -, h⟩ := bind_ok h
  cases h
  rfl

theorem Turn.asked (h : Turn o s o' t) : o'.asked = o.asked ++ o.asks := by
  cases h with
  | complete hp => simp [Opening.asked, asks, hp]
  | waits hp ha => cases hw : o.waits <;> simp [Opening.asked, asks, hp, hw]
  | binds hp ha hb =>
    obtain ⟨hindex, -⟩ := bindLocked_ok hb
    cases hw : o.waits <;> simp [Opening.asked, asks, hp, hw, hindex]

theorem asked_lockRequests {n : Nat} (h : (bindUpTo n o).run s = (.ok o', t)) :
    o'.asked = o.asked ++ lockRequests n o s := by
  induction n generalizing o s with
  | zero =>
    cases h
    rw [lockRequests, List.append_nil]
  | succ n ih =>
    obtain ⟨o₁, u, hx, hends⟩ := bindUpTo_succ_ok h
    have hasked := (bindNext_turn hx).asked
    simp only [lockRequests, hx]
    rcases hends with ⟨hw, rfl, rfl⟩ | ⟨hw, h⟩
    · rw [hasked, if_pos hw, List.append_nil]
    · rw [ih h, hasked, hw, if_neg Bool.false_ne_true, List.append_assoc]

/-- Whatever comes of it, the locks are asked for in the order of the devices. -/
theorem asked_append_lockRequests (n : Nat) (o : Opening) (s : Site) :
    o.asked ++ lockRequests n o s <+: o.order := by
  -- one more request takes the opening no further than the first pending device
  have hnext (o : Opening) : o.asked ++ o.asks <+: o.order := by
    have hfirst : o.asked ++ o.asks = o.bound.map (·.index) ++ o.pending.take 1 := by
      cases hw : o.waits <;> simp [Opening.asked, asks, hw]
    rw [hfirst, order]
    exact (List.prefix_append_right_inj _).mpr (List.take_prefix 1 _)
  induction n generalizing o s with
  | zero =>
    rw [lockRequests, List.append_nil]
    exact (List.prefix_append _ _).trans (hnext o)
  | succ n ih =>
    rcases hx : o.bindNext.run s with ⟨e | o', t⟩ <;> simp only [lockRequests, hx]
    · rw [List.append_nil]
      exact hnext o
    · split
      · rw [List.append_nil]
        exact hnext o
      · rw [← List.append_assoc, ← (bindNext_turn hx).asked, ← (bindNext_ok hx).order]
        exact ih o' t

/-- Nobody holds a lock that is still to be taken. -/
structure Clear (o : Opening) (s : Site) : Prop where
  waits : o.waits = false
  nodup : o.pending.Nodup
  free : ∀ i ∈ o.pending, DeviceLock.place o.settings.lockDirectory i ∉ s.held

namespace Clear

theorem turn (hc : o.Clear s) (h : Turn o s o' t) :
    o'.Clear t ∧ o'.pending = o.pending.drop 1 := by
  cases h with
  | complete hp => exact ⟨hc, by rw [hp]; rfl⟩
  | @waits index rest _ hp ha =>
    exact absurd (ha.awaited rfl).1 (hc.free index (hp ▸ List.mem_cons_self))
  | @binds index rest lock bound _ u hp ha hb =>
    obtain ⟨-, -, hheld⟩ := ha.taken lock rfl
    have htouch := bindLocked_touches o.settings o.image index lock u
    rw [hb] at htouch
    obtain ⟨hnot, hrest⟩ := List.nodup_cons.mp (hp ▸ hc.nodup)
    refine ⟨⟨rfl, hrest, fun i hm => ?_⟩, by rw [hp]; rfl⟩
    rw [htouch.steady.held, hheld, List.mem_cons]
    rintro (he | hi)
    -- the lock that was taken is that of another device
    · exact hnot ((DeviceLock.place_eq_iff.mp he).2 ▸ hm)
    · exact hc.free i (hp ▸ List.mem_cons_of_mem index hm) hi

theorem bindUpTo {n : Nat} (hc : o.Clear s) (h : (bindUpTo n o).run s = (.ok o', t)) :
    o'.Clear t ∧ o'.pending = o.pending.drop n := by
  induction n generalizing o s with
  | zero =>
    cases h
    exact ⟨hc, rfl⟩
  | succ n ih =>
    obtain ⟨o₁, u, hx, hends⟩ := bindUpTo_succ_ok h
    obtain ⟨hnext, hpending⟩ := hc.turn (bindNext_turn hx)
    rcases hends with ⟨hw, -⟩ | ⟨-, h⟩
    · exact absurd (hw.symm.trans hnext.waits) nofun
    · obtain ⟨hlast, hdrop⟩ := ih hnext h
      refine ⟨hlast, ?_⟩
      rw [hdrop, hpending, List.drop_drop, Nat.add_comm]

end Clear

end Opening

end Accelerator
