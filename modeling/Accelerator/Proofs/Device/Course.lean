import Accelerator.Device.Host
import Accelerator.Proofs.Device.Run

/-! All that may be done to a run and to the host that it is on. A start that is refused changes
nothing, and an accepted one settles what the waits after it report and when the command is
stamped as completed. -/

namespace Accelerator

/-- What the poll of that number, counted from one, reports of a started command. -/
def Behavior.report : Behavior → Nat → CommandState
  | completeAfter n, poll => if poll < max n 1 then .running else .completed
  | hang, _ => .running
  | finish state, _ => state

def Behavior.final? : Behavior → Option CommandState
  | completeAfter _ => some .completed
  | hang => none
  | finish state => some state

/-- The command is stamped as completed by the poll of that number or an earlier one. -/
def Behavior.EndsBy : Behavior → Nat → Prop
  | completeAfter n, polls => max n 1 ≤ polls
  | hang, _ => False
  | finish _, polls => 1 ≤ polls

namespace Behavior

variable {b : Behavior} {polls : Nat}

theorem stateAfter_eq_report (b : Behavior) (polls : Nat) :
    b.stateAfter (polls + 1) = b.report (polls + 1) := by
  cases b with
  | completeAfter n =>
    rw [stateAfter, report]
    split <;> split <;> first | rfl | omega
  | hang => rfl
  | finish state => rfl

theorem not_endsBy_zero (b : Behavior) : ¬ b.EndsBy 0 := by
  cases b with
  | completeAfter n =>
    rw [EndsBy]
    omega
  | hang => exact id
  | finish state => exact Nat.not_succ_le_zero 0

theorem EndsBy.mono {polls' : Nat} (h : b.EndsBy polls) (hle : polls ≤ polls') :
    b.EndsBy polls' := by
  cases b with
  | completeAfter n => exact Nat.le_trans h hle
  | hang => exact h
  | finish state => exact Nat.le_trans h hle

theorem endsBy_of_stateAfter (h : b.stateAfter polls ≠ .running) : b.EndsBy polls := by
  cases polls with
  | zero => exact absurd (by cases b <;> rfl) h
  | succ polls =>
    rw [stateAfter_eq_report] at h
    cases b with
    | completeAfter n => exact Nat.le_of_not_lt fun hlt => h (if_pos hlt)
    | hang => exact absurd rfl h
    | finish state => exact Nat.succ_pos polls

/-- A poll reports the final state just when the command has ended by then. -/
theorem report_final {state : CommandState} (h : b.final? = some state) :
    b.report (polls + 1) = state ↔ b.EndsBy (polls + 1) := by
  cases b with
  | completeAfter n =>
    obtain rfl := Option.some.inj h
    rw [report, EndsBy]
    split
    · next hlt => exact iff_of_false nofun (Nat.not_le_of_lt hlt)
    · next hge => exact iff_of_true rfl (Nat.le_of_not_lt hge)
  | hang => cases h
  | finish s =>
    obtain rfl := Option.some.inj h
    exact iff_of_true rfl (Nat.succ_pos polls)

theorem EndsBy.final (h : b.EndsBy polls) : ∃ state, b.final? = some state := by
  cases b with
  | completeAfter n => exact ⟨_, rfl⟩
  | hang => exact h.elim
  | finish state => exact ⟨_, rfl⟩

end Behavior

namespace Run

theorem stamps_wait (r : Run) (now : Nat) :
    (r.wait now).stamps = r.stamps ∨ (r.wait now).stamps = { r.stamps with completed := now } := by
  obtain ⟨polls, hw | ⟨state, hw⟩⟩ := r.wait_cases now <;> rw [hw]
  · exact Or.inl rfl
  · exact Or.inr rfl

/-- The poll stamps the command as completed, or the command has ended earlier, or it is not to end
by this poll. -/
theorem OnCourse.stamps_wait {r : Run} {b : Behavior} {polls : Nat} (h : r.OnCourse b polls)
    (now : Nat) :
    (b.EndsBy (polls + 1) ∧ (r.wait now).stamps = { r.stamps with completed := now }) ∨
      ((b.EndsBy (polls + 1) → b.EndsBy polls) ∧ (r.wait now).stamps = r.stamps) := by
  obtain ⟨rfl, hstate, hpolls⟩ := h
  by_cases hr : r.state = .running
  · simp only [Run.wait, if_pos hr]
    cases hb : r.behavior with
    | completeAfter n =>
      simp only [hpolls hr, Behavior.EndsBy]
      split
      · exact Or.inl ⟨by omega, rfl⟩
      · exact Or.inr ⟨by omega, rfl⟩
    | hang => exact Or.inr ⟨False.elim, rfl⟩
    | finish state => exact Or.inl ⟨Nat.succ_pos polls, rfl⟩
  · rw [Run.wait, if_neg hr]
    rw [hstate] at hr
    exact Or.inr ⟨fun _ => Behavior.endsBy_of_stateAfter hr, rfl⟩

end Run

/-- A run and the host that it is on, with the number of readings of the clock that are past. One is
set aside for each wait, whether it is taken or not. -/
structure RunHandle where
  run : Run
  host : Host
  readings : Nat

inductive RunDeed where
  | edit (change : Packet → Packet)
  | start
  | wait
  | setBehavior (behavior : Behavior)
  | setFailStart (on : Bool)
  /-- Whatever else the host is asked for, which may read the clock. -/
  | elsewhere (change : Host → Host) (readings : Nat)

namespace RunHandle

/-- A run that nothing was done to. -/
def created (kernel : String) (host : Host) : RunHandle :=
  { run := { kernel }, host, readings := 0 }

variable (clock : Nat → Nat)

def act (x : RunHandle) : RunDeed → RunHandle
  | .edit change => { x with run := { x.run with packet := change x.run.packet } }
  | .start =>
    match x.host.start x.run (clock x.readings) (clock (x.readings + 1)) with
    | .ok (run, host) => { run, host, readings := x.readings + 2 }
    | .error _ => x
  | .wait => { x with run := x.run.wait (clock x.readings), readings := x.readings + 1 }
  | .setBehavior behavior => { x with host := { x.host with behavior } }
  | .setFailStart on => { x with host := { x.host with failStart := on } }
  | .elsewhere change readings =>
    { x with host := change x.host, readings := x.readings + readings }

def acts (x : RunHandle) (deeds : List RunDeed) : RunHandle :=
  deeds.foldl (act clock) x

/-- What a deed reports of the command. -/
def report? (x : RunHandle) : RunDeed → Option CommandState
  | .wait => some (x.act clock .wait).run.state
  | _ => none

def reports (x : RunHandle) : List RunDeed → List CommandState
  | [] => []
  | deed :: deeds => (x.report? clock deed).toList ++ (x.act clock deed).reports deeds

/-- No start among the deeds is accepted. -/
def Refuses (x : RunHandle) : List RunDeed → Prop
  | [] => True
  | deed :: deeds => (deed = .start → x.host.failStart = true) ∧ (x.act clock deed).Refuses deeds

variable {clock : Nat → Nat} {x : RunHandle} {deed : RunDeed} {b : Behavior} {polls : Nat}

theorem act_start_of_failStart (hf : x.host.failStart = true) : x.act clock .start = x := by
  simp only [act, Host.start, if_pos hf]

theorem act_start_accepted (clock : Nat → Nat) (hf : x.host.failStart = false) :
    (x.act clock .start).run =
        x.run.started x.host.behavior (clock x.readings) (clock (x.readings + 1)) ∧
      (x.act clock .start).readings = x.readings + 2 := by
  have hn : ¬ x.host.failStart = true := Bool.eq_false_iff.mp hf
  simp only [act, Host.start, if_neg hn, and_self]

/-- The run is stamped in order, with times that are past. -/
structure Stamped (clock : Nat → Nat) (x : RunHandle) : Prop where
  new_le : x.run.stamps.new ≤ x.run.stamps.running
  running_le : x.run.stamps.running ≤ clock x.readings
  completed : x.run.stamps.completed = 0 ∨ x.run.stamps.running ≤ x.run.stamps.completed

theorem stamped_created (clock : Nat → Nat) (kernel : String) (host : Host) :
    (created kernel host).Stamped clock :=
  ⟨Nat.le_refl 0, Nat.zero_le _, Or.inl rfl⟩

theorem Stamped.ordered (h : x.Stamped clock) : x.run.stamps.ordered = true := by
  have hnew := h.new_le
  have hcompleted := h.completed
  simp only [Stamps.ordered, decide_eq_true_eq, List.pairwise_filter, List.pairwise_cons,
    List.mem_cons, List.not_mem_nil, or_false, forall_eq_or_imp, forall_eq]
  refine ⟨⟨fun _ _ => hnew, ?_⟩, ?_, nofun, .nil⟩ <;> omega

theorem Stamped.act (h : x.Stamped clock) (hclock : ∀ m n, m ≤ n → clock m ≤ clock n)
    (deed : RunDeed) : (x.act clock deed).Stamped clock := by
  have hle (n : Nat) : x.run.stamps.running ≤ clock (x.readings + n) :=
    Nat.le_trans h.running_le (hclock _ _ (Nat.le_add_right _ n))
  cases deed with
  | edit change => exact ⟨h.new_le, h.running_le, h.completed⟩
  | start =>
    cases hf : x.host.failStart with
    | true => rwa [act_start_of_failStart hf]
    | false =>
      obtain ⟨hrun, hreadings⟩ := act_start_accepted clock hf
      refine ⟨?_, ?_, ?_⟩ <;> simp only [hrun, hreadings, Run.started]
      · exact hclock _ _ (Nat.le_succ _)
      · exact hclock _ _ (Nat.le_succ _)
      · exact Or.inl trivial
  | wait =>
    obtain hs | hs := x.run.stamps_wait (clock x.readings)
    · refine ⟨?_, ?_, ?_⟩ <;> simp only [RunHandle.act, hs]
      · exact h.new_le
      · exact hle 1
      · exact h.completed
    · refine ⟨?_, ?_, ?_⟩ <;> simp only [RunHandle.act, hs]
      · exact h.new_le
      · exact hle 1
      · exact Or.inr h.running_le
  | setBehavior behavior => exact ⟨h.new_le, h.running_le, h.completed⟩
  | setFailStart on => exact ⟨h.new_le, h.running_le, h.completed⟩
  | elsewhere change readings => exact ⟨h.new_le, hle readings, h.completed⟩

theorem Stamped.acts (h : x.Stamped clock) (hclock : ∀ m n, m ≤ n → clock m ≤ clock n)
    (deeds : List RunDeed) : (x.acts clock deeds).Stamped clock := by
  induction deeds generalizing x with
  | nil => exact h
  | cons deed deeds ih => exact ih (h.act hclock deed)

/-- The command was accepted, and `polls` waits after that it is stamped as its behaviour at the
start has it. -/
structure Course (b : Behavior) (polls : Nat) (x : RunHandle) : Prop where
  run : x.run.OnCourse b polls
  new_ne : x.run.stamps.new ≠ 0
  completed_iff : x.run.stamps.completed ≠ 0 ↔ b.EndsBy polls

theorem course_started (hpos : ∀ n, 0 < clock n) (hf : x.host.failStart = false) :
    (x.act clock .start).Course x.host.behavior 0 := by
  obtain ⟨hrun, -⟩ := act_start_accepted clock hf
  refine ⟨?_, ?_, ?_⟩ <;> rw [hrun]
  · exact Run.onCourse_started x.run x.host.behavior _ _
  · exact Nat.pos_iff_ne_zero.mp (hpos _)
  · exact iff_of_false (fun h => h rfl) (Behavior.not_endsBy_zero _)

theorem Course.act_wait (h : x.Course b polls) (hpos : ∀ n, 0 < clock n) :
    (x.act clock .wait).Course b (polls + 1) := by
  have hnow : clock x.readings ≠ 0 := Nat.pos_iff_ne_zero.mp (hpos _)
  refine ⟨h.run.wait _, ?_, ?_⟩
  · rcases x.run.stamps_wait (clock x.readings) with hs | hs <;> simp only [act, hs]
    · exact h.new_ne
    · exact h.new_ne
  · rcases h.run.stamps_wait (clock x.readings) with ⟨he, hs⟩ | ⟨he, hs⟩ <;> simp only [act, hs]
    · exact iff_of_true hnow he
    · exact h.completed_iff.trans ⟨fun he' => he'.mono (Nat.le_succ polls), he⟩

theorem Course.act_other (h : x.Course b polls) (hw : deed ≠ .wait)
    (hs : deed = .start → x.host.failStart = true) : (x.act clock deed).Course b polls := by
  cases deed with
  | start => rwa [act_start_of_failStart (hs rfl)]
  | wait => exact absurd rfl hw
  | edit change =>
    exact ⟨⟨h.run.behavior_eq, h.run.state_eq, h.run.polls_eq⟩, h.new_ne, h.completed_iff⟩
  | setBehavior behavior => exact ⟨h.run, h.new_ne, h.completed_iff⟩
  | setFailStart on => exact ⟨h.run, h.new_ne, h.completed_iff⟩
  | elsewhere change readings => exact ⟨h.run, h.new_ne, h.completed_iff⟩

theorem report?_of_ne_wait (hw : deed ≠ .wait) : x.report? clock deed = none := by
  cases deed <;> first | rfl | exact absurd rfl hw

theorem reports_cons_wait (deeds : List RunDeed) :
    x.reports clock (.wait :: deeds) =
      (x.act clock .wait).run.state :: (x.act clock .wait).reports clock deeds :=
  rfl

theorem reports_cons_of_ne_wait (hw : deed ≠ .wait) (deeds : List RunDeed) :
    x.reports clock (deed :: deeds) = (x.act clock deed).reports clock deeds := by
  rw [reports, report?_of_ne_wait hw, Option.toList_none, List.nil_append]

/-- Up to the next accepted start every wait is one more poll, and nothing else counts. -/
theorem Course.acts (h : x.Course b polls) (hpos : ∀ n, 0 < clock n) {deeds : List RunDeed}
    (hd : x.Refuses clock deeds) :
    (x.acts clock deeds).Course b (polls + (x.reports clock deeds).length) ∧
      ∀ k state, (x.reports clock deeds)[k]? = some state → state = b.report (polls + k + 1) := by
  induction deeds generalizing x polls with
  | nil => exact ⟨h, nofun⟩
  | cons deed deeds ih =>
    obtain ⟨hs, hd⟩ := hd
    by_cases hw : deed = .wait
    · subst hw
      have h' := h.act_wait hpos
      obtain ⟨hcourse, hreports⟩ := ih h' hd
      rw [reports_cons_wait]
      refine ⟨?_, fun k state hk => ?_⟩
      · rw [List.length_cons, ← Nat.add_assoc, Nat.add_right_comm]
        exact hcourse
      · cases k with
        | zero =>
          obtain rfl := Option.some.inj hk
          rw [h'.run.state_eq, Behavior.stateAfter_eq_report, Nat.add_zero]
        | succ k => rw [hreports k state hk, Nat.add_right_comm polls 1 k, Nat.add_assoc polls k 1]
    · rw [reports_cons_of_ne_wait hw]
      exact ih (h.act_other hw hs) hd

/-- The command is stamped as completed as soon as a wait has reported its final state. -/
theorem Course.completed_eq_zero_iff {reported : List CommandState}
    (h : x.Course b reported.length)
    (hr : ∀ k state, reported[k]? = some state → state = b.report (k + 1)) :
    x.run.stamps.completed = 0 ↔ ∀ state, b.final? = some state → state ∉ reported := by
  refine ⟨fun hz state hf hm => ?_, fun hn => ?_⟩
  · obtain ⟨k, hk⟩ := List.getElem?_of_mem hm
    obtain ⟨hlt, -⟩ := List.getElem?_eq_some_iff.mp hk
    have hends : b.EndsBy (k + 1) := (Behavior.report_final hf).mp (hr k state hk).symm
    exact h.completed_iff.mpr (hends.mono hlt) hz
  · refine Decidable.byContradiction fun hz => ?_
    have hends := h.completed_iff.mp hz
    obtain ⟨state, hf⟩ := hends.final
    cases hl : reported.length with
    | zero => exact Behavior.not_endsBy_zero b (hl ▸ hends)
    | succ m =>
      have hm : m < reported.length := hl ▸ Nat.lt_succ_self m
      have hlast := List.getElem?_eq_getElem hm
      refine hn state hf (List.mem_of_getElem? (i := m) ?_)
      rw [hlast, hr m _ hlast, (Behavior.report_final hf).mpr (hl ▸ hends)]

/-- A start that is refused leaves everything as it was. After one that is accepted, the waits
report what the behaviour at the start says, whatever was done before and is done in between, and
the command is stamped as completed by the first wait that reports its final state. The stamps are
in order all along. -/
theorem waits_follow_start (clock : Nat → Nat) (hclock : ∀ m n, m ≤ n → clock m ≤ clock n)
    (hpos : ∀ n, 0 < clock n) (kernel : String) (host : Host) (before : List RunDeed) :
    let x := (created kernel host).acts clock before
    let y := x.act clock .start
    x.run.stamps.ordered = true ∧
    (x.host.failStart = true →
      (∃ cause, x.host.start x.run (clock x.readings) (clock (x.readings + 1)) = .error cause) ∧
      y = x) ∧
    (x.host.failStart = false →
      x.host.start x.run (clock x.readings) (clock (x.readings + 1)) = .ok (y.run, y.host) ∧
      ∀ after, y.Refuses clock after →
        let reported := y.reports clock after
        let stamps := (y.acts clock after).run.stamps
        (∀ k state, reported[k]? = some state → state = x.host.behavior.report (k + 1)) ∧
        (stamps.completed = 0 ↔ ∀ state, x.host.behavior.final? = some state → state ∉ reported) ∧
        0 < stamps.new ∧ stamps.new ≤ stamps.running ∧
        (stamps.completed = 0 ∨ stamps.running ≤ stamps.completed)) := by
  intro x y
  have hx : x.Stamped clock := (stamped_created clock kernel host).acts hclock before
  refine ⟨hx.ordered, fun hf => ⟨⟨_, if_pos hf⟩, act_start_of_failStart hf⟩, fun hf => ?_⟩
  have hn : ¬ x.host.failStart = true := Bool.eq_false_iff.mp hf
  refine ⟨?_, fun after hd => ?_⟩
  · simp only [y, act, Host.start, if_neg hn]
  · have hs := (hx.act hclock .start).acts hclock after
    obtain ⟨hcourse, hreports⟩ := (course_started hpos hf).acts hpos hd
    simp only [Nat.zero_add] at hcourse hreports
    exact ⟨hreports, hcourse.completed_eq_zero_iff hreports, Nat.pos_of_ne_zero hcourse.new_ne,
      hs.new_le, hs.completed⟩

/-- A clock that goes on by one from reading to reading. -/
def ticking (n : Nat) : Nat :=
  n + 1

/-- A command that hangs, whose packet is set to another state, and another behaviour for the next
one. -/
def hung : List RunDeed :=
  [.start, .wait, .edit ({ · with state := .error }), .setBehavior (.completeAfter 2)]

/-- Three waits, with a change of behaviour, a refused start and an edit of the packet among
them. -/
def disturbed : List RunDeed :=
  [.setBehavior (.finish .abort), .wait, .setFailStart true, .start, .wait, .edit Packet.reset,
    .wait]

def hanging : Host :=
  { Host.ofCount 1 with behavior := .hang }

theorem waits_follow_restart :
    let x := (created "dpu:a" hanging).acts ticking hung
    let y := x.act ticking .start
    let z := y.acts ticking disturbed
    x.run.state = .running ∧ y.reports ticking disturbed = [.running, .completed, .completed] ∧
    (∀ k state, (y.reports ticking disturbed)[k]? = some state →
      state = (Behavior.completeAfter 2).report (k + 1)) ∧
    z.run.stamps = { new := 4, running := 5, completed := 7 } ∧ z.run.stamps.completed ≠ 0 ∧
    z.act ticking .start = z := by
  intro x y z
  have hstart (before : List RunDeed) := waits_follow_start ticking
    (fun _ _ => Nat.succ_le_succ) Nat.succ_pos "dpu:a" hanging before
  have hd : y.Refuses ticking disturbed :=
    ⟨nofun, nofun, nofun, fun _ => rfl, nofun, nofun, nofun, trivial⟩
  obtain ⟨hreports, hcompleted, -⟩ := ((hstart hung).2.2 rfl).2 disturbed hd
  refine ⟨rfl, rfl, hreports, rfl, fun hz => ?_, ?_⟩
  · exact hcompleted.mp hz .completed rfl (List.mem_of_getElem? (i := 1) rfl)
  · exact ((hstart (hung ++ .start :: disturbed)).2.1 rfl).2

end RunHandle

end Accelerator
