import Accelerator.Device.Run

/-! The state that each poll of a started command reports. It depends on nothing but the
behaviour in force at the start. -/

namespace Accelerator

/-- The state of a started command after that many polls. -/
def Behavior.stateAfter : Behavior → Nat → CommandState
  | _, 0 => .running
  | completeAfter n, polls + 1 => if n ≤ polls + 1 then .completed else .running
  | hang, _ + 1 => .running
  | finish state, _ + 1 => state

theorem Behavior.stateAfter_succ {b : Behavior} {polls : Nat}
    (h : b.stateAfter polls ≠ .running) : b.stateAfter (polls + 1) = b.stateAfter polls := by
  cases polls with
  | zero => exact absurd (by cases b <;> rfl) h
  | succ polls =>
    cases b with
    | completeAfter n =>
      have hn : n ≤ polls + 1 := Decidable.byContradiction fun hn => h (if_neg hn)
      simp only [stateAfter, if_pos hn, if_pos (Nat.le_succ_of_le hn)]
    | hang => rfl
    | finish state => rfl

namespace Run

def polled (r : Run) (times : Nat → Nat) : Nat → Run
  | 0 => r
  | n + 1 => (r.polled times n).wait (times n)

/-- A poll is counted at most, or it ends the command. -/
theorem wait_cases (r : Run) (now : Nat) : ∃ polls, r.wait now = { r with polls } ∨
    ∃ state, r.wait now = { r with polls }.finish state now := by
  unfold wait
  split
  · refine ⟨r.polls + 1, ?_⟩
    cases r.behavior with
    | completeAfter n =>
      simp only
      split
      · exact Or.inr ⟨_, rfl⟩
      · exact Or.inl rfl
    | hang => exact Or.inl rfl
    | finish state => exact Or.inr ⟨state, rfl⟩
  · exact ⟨r.polls, Or.inl rfl⟩

/-- The run has come as far as `polls` polls take it. -/
structure OnCourse (behavior : Behavior) (polls : Nat) (r : Run) : Prop where
  behavior_eq : r.behavior = behavior
  state_eq : r.state = behavior.stateAfter polls
  polls_eq : r.state = .running → r.polls = polls

variable {behavior : Behavior} {polls : Nat} {r : Run}

theorem onCourse_started (r : Run) (behavior : Behavior) (accepted running : Nat) :
    (r.started behavior accepted running).OnCourse behavior 0 :=
  ⟨rfl, by cases behavior <;> rfl, fun _ => rfl⟩

theorem OnCourse.wait (h : r.OnCourse behavior polls) (now : Nat) :
    (r.wait now).OnCourse behavior (polls + 1) := by
  obtain ⟨rfl, hs, hp⟩ := h
  -- polls are counted only as long as the command runs
  by_cases hr : r.state = .running
  · have hp := hp hr
    rcases r with ⟨kernel, packet, state, _ | _ | last, polls', stamps⟩ <;>
      obtain rfl := hr <;> obtain rfl := hp
    · next n =>
      by_cases hn : n ≤ polls' + 1
      · simp only [Run.wait, if_true, if_pos hn]
        exact ⟨rfl, (if_pos hn).symm, fun h => by cases h⟩
      · simp only [Run.wait, if_true, if_neg hn]
        exact ⟨rfl, (if_neg hn).symm, fun _ => rfl⟩
    · exact ⟨rfl, rfl, fun _ => rfl⟩
    · exact ⟨rfl, rfl, fun _ => rfl⟩
  · rw [Run.wait, if_neg hr]
    refine ⟨rfl, ?_, fun h => absurd h hr⟩
    rw [hs] at hr
    rw [hs, Behavior.stateAfter_succ hr]

theorem onCourse_polled (r : Run) (behavior : Behavior) (accepted running : Nat)
    (times : Nat → Nat) (polls : Nat) :
    ((r.started behavior accepted running).polled times polls).OnCourse behavior polls := by
  induction polls with
  | zero => exact onCourse_started r behavior accepted running
  | succ polls ih => exact ih.wait (times polls)

end Run

end Accelerator
