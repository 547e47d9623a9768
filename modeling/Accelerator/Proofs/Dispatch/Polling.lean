import Accelerator.Dispatch.Run
import Accelerator.Proofs.Device.Run
import Accelerator.Proofs.Site.Action

/-! Polling stops with the first poll that finds the command done or the time up, and there is
such a poll. -/

namespace Accelerator

theorem Clock.timeIsUp_of_le {timeout k : Nat} {c : Clock timeout} (h : c.horizon ≤ k) :
    c.timeIsUp k = true := by
  have hm := c.reading_mono c.horizon (firstReading + 2 * k + 1) (by omega)
  have hl := c.lt_reading_horizon
  refine decide_eq_true ?_
  rw [checkTime]
  omega

namespace Polling

variable {p : Polling}

theorem report_alike (p : Polling) (r : Run) (s : Site) : s.Alike (p.report r s) := by
  unfold report
  split
  · exact Site.Alike.emit s _
  · exact Site.Alike.refl s

/-- Polling of `r` ends with poll number `k`, if not before. -/
def Stops (p : Polling) (r : Run) (k : Nat) : Prop :=
  (r.polled p.clock.pollTime (k + 1)).state.isDone = true ∨ p.clock.timeIsUp k = true

theorem poll_stops {r : Run} {n k : Nat} (h : ∃ last, k ≤ last ∧ last < k + n ∧ p.Stops r last)
    (s : Site) :
    ∃ last t, (∀ limit, n ≤ limit → p.poll limit k (r.polled p.clock.pollTime k) s =
        (last + 1, r.polled p.clock.pollTime (last + 1), t)) ∧
      s.Alike t ∧ p.Stops r last ∧ ∀ j, k ≤ j → j < last → ¬ p.Stops r j := by
  induction n generalizing k s with
  | zero =>
    obtain ⟨last, hk, hlast, -⟩ := h
    omega
  | succ n ih =>
    let next := r.polled p.clock.pollTime (k + 1)
    have hs := report_alike p next s
    by_cases hstop : p.Stops r k
    · have hcond : (next.state.isDone || p.clock.timeIsUp k) = true := by
        rw [Bool.or_eq_true]
        exact hstop
      refine ⟨k, p.report next s, fun limit hlimit => ?_, hs, hstop, fun j hj hlt => by omega⟩
      cases limit with
      | zero => omega
      | succ limit => exact if_pos hcond
    · have hcond : ¬ (next.state.isDone || p.clock.timeIsUp k) = true := by
        rw [Bool.or_eq_true]
        exact hstop
      -- the last poll is not this one, so it is still to come
      have hlater : ∃ last, k + 1 ≤ last ∧ last < k + 1 + n ∧ p.Stops r last := by
        obtain ⟨last, hk, hlast, hl⟩ := h
        have hne : k ≠ last := fun he => hstop (he ▸ hl)
        exact ⟨last, by omega, by omega, hl⟩
      obtain ⟨last, t, hpoll, ht, hl, hfirst⟩ := ih hlater (p.report next s)
      refine ⟨last, t, fun limit hlimit => ?_, hs.trans ht, hl, ?_⟩
      · cases limit with
        | zero => omega
        | succ limit => exact (if_neg hcond).trans (hpoll limit (Nat.le_of_succ_le_succ hlimit))
      · intro j hj hlt
        rcases Nat.eq_or_lt_of_le hj with rfl | hj
        · exact hstop
        · exact hfirst j hj hlt

theorem poll_limit (p : Polling) (r : Run) (s : Site) :
    ∃ last t, (∀ limit, p.limit ≤ limit → p.poll limit 0 r s =
        (last + 1, r.polled p.clock.pollTime (last + 1), t)) ∧
      s.Alike t ∧ p.Stops r last ∧ ∀ j, j < last → ¬ p.Stops r j := by
  have hex : ∃ last, 0 ≤ last ∧ last < 0 + p.limit ∧ p.Stops r last := by
    refine ⟨p.clock.horizon, Nat.zero_le _, ?_, Or.inr (Clock.timeIsUp_of_le (Nat.le_refl _))⟩
    rw [limit]
    omega
  obtain ⟨last, t, hpoll, ht, hl, hfirst⟩ := poll_stops hex s
  exact ⟨last, t, hpoll, ht, hl, fun j => hfirst j (Nat.zero_le j)⟩

/-- The limit does not cut polling short: any higher one comes to the same. -/
theorem poll_of_limit_le {n : Nat} (h : p.limit ≤ n) (r : Run) (s : Site) :
    p.poll n 0 r s = p.poll p.limit 0 r s := by
  obtain ⟨last, t, hpoll, -⟩ := p.poll_limit r s
  rw [hpoll n h, hpoll p.limit (Nat.le_refl _)]

end Polling

end Accelerator
