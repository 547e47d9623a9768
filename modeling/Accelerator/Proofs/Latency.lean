import Accelerator.Latency
import Accelerator.Word

/-! How the phases of a command make up its whole time. Each of them is cut off to microseconds on
its own, so together they may fall short of the whole by less than there are phases, and they never
go beyond it. -/

namespace Accelerator

/-- Whole microseconds from one time to another, without a difference of the two. There are none
where a time was not reached or the two go back. -/
def Elapsed (start stop micros : Nat) : Prop :=
  if start ≠ 0 ∧ stop ≠ 0 ∧ start ≤ stop then
    start + 1000 * micros ≤ stop ∧ stop < start + 1000 * (micros + 1)
  else micros = 0

variable {start middle stop later : Nat}

theorem spanMicros_eq_zero (h : start = 0 ∨ stop = 0) : spanMicros start stop = 0 :=
  if_pos h

theorem spanMicros_of_ne_zero (hstart : start ≠ 0) (hstop : stop ≠ 0) :
    spanMicros start stop = (stop - start) / 1000 :=
  if_neg (not_or.mpr ⟨hstart, hstop⟩)

theorem elapsed_spanMicros (start stop : Nat) : Elapsed start stop (spanMicros start stop) := by
  unfold Elapsed
  split
  · next h =>
    rw [spanMicros_of_ne_zero h.1 h.2.1]
    omega
  · next h =>
    by_cases hzero : start = 0 ∨ stop = 0
    · exact spanMicros_eq_zero hzero
    · obtain ⟨hstart, hstop⟩ := not_or.mp hzero
      have hback : ¬ start ≤ stop := fun hle => h ⟨hstart, hstop, hle⟩
      rw [spanMicros_of_ne_zero hstart hstop]
      omega

theorem spanMicros_le_spanMicros (start : Nat) (h : stop ≤ later) :
    spanMicros start stop ≤ spanMicros start later := by
  by_cases hzero : start = 0 ∨ stop = 0
  · rw [spanMicros_eq_zero hzero]
    exact Nat.zero_le _
  · obtain ⟨hstart, hstop⟩ := not_or.mp hzero
    have hlater : later ≠ 0 := by omega
    rw [spanMicros_of_ne_zero hstart hstop, spanMicros_of_ne_zero hstart hlater]
    exact Nat.div_le_div_right (Nat.sub_le_sub_right h start)

theorem spanMicros_le (start stop : Nat) : spanMicros start stop ≤ stop := by
  unfold spanMicros
  split <;> omega

/-- Two spans in a row come to no more than the whole, and to less by at most one microsecond. -/
theorem spanMicros_add (hstart : start ≠ 0) (hm : start ≤ middle) (hs : middle ≤ stop) :
    spanMicros start middle + spanMicros middle stop ≤ spanMicros start stop ∧
      spanMicros start stop ≤ spanMicros start middle + spanMicros middle stop + 1 := by
  have hmiddle : middle ≠ 0 := by omega
  have hstop : stop ≠ 0 := by omega
  rw [spanMicros_of_ne_zero hstart hmiddle, spanMicros_of_ne_zero hmiddle hstop,
    spanMicros_of_ne_zero hstart hstop]
  omega

/-- A command is observed after it was submitted and in between went through states one after the
other, as far as it got. -/
structure Stamps.Orderly (submitted : Nat) (s : Stamps) (observed : Nat) : Prop where
  submitted_pos : 0 < submitted
  submitted_le : submitted ≤ observed
  ordered : s.ordered = true
  within : ∀ time ∈ [s.new, s.running, s.completed], time ≠ 0 →
    submitted ≤ time ∧ time ≤ observed
  unreached_of_new : s.new = 0 → s.running = 0 ∧ s.completed = 0
  unreached_of_running : s.running = 0 → s.completed = 0

namespace Latency

/-- The phases together. -/
def phases (l : Latency) : Nat :=
  l.toDriver + l.toUnit + l.complete + l.done

variable {submitted observed : Nat} {s : Stamps}

theorem total_ofStamps : (ofStamps submitted s observed).total = spanMicros submitted observed :=
  rfl

theorem phases_ofStamps : (ofStamps submitted s observed).phases =
    spanMicros submitted s.new + spanMicros s.new s.running + spanMicros s.running s.completed +
      spanMicros s.completed observed :=
  rfl

theorem new_le_running (h : s.ordered = true) (hnew : s.new ≠ 0) (hrunning : s.running ≠ 0) :
    s.new ≤ s.running := by
  simp only [Stamps.ordered, decide_eq_true_eq, List.pairwise_filter, List.pairwise_cons,
    List.mem_cons, forall_eq_or_imp] at h
  exact h.1.1 hnew hrunning

theorem running_le_completed (h : s.ordered = true) (hrunning : s.running ≠ 0)
    (hcompleted : s.completed ≠ 0) : s.running ≤ s.completed := by
  simp only [Stamps.ordered, decide_eq_true_eq, List.pairwise_filter, List.pairwise_cons,
    List.mem_cons, forall_eq_or_imp] at h
  exact h.2.1.1 hrunning hcompleted

/-- What a phase is cut short by is less than a microsecond, and there are four. -/
theorem phases_of_completed (h : s.Orderly submitted observed)
    (hnew : s.new ≠ 0) (hrunning : s.running ≠ 0) (hcompleted : s.completed ≠ 0) :
    let l := ofStamps submitted s observed
    l.phases ≤ l.total ∧ l.total ≤ l.phases + 3 := by
  intro l
  have hsubmitted : submitted ≠ 0 := Nat.ne_of_gt h.submitted_pos
  have hfirst : submitted ≤ s.new := (h.within s.new (by simp) hnew).1
  have hsecond := new_le_running h.ordered hnew hrunning
  have hthird := running_le_completed h.ordered hrunning hcompleted
  have hlast : s.completed ≤ observed := (h.within s.completed (by simp) hcompleted).2
  have huptoRunning := spanMicros_add hsubmitted hfirst hsecond
  have huptoCompleted := spanMicros_add hsubmitted (Nat.le_trans hfirst hsecond) hthird
  have hwhole :=
    spanMicros_add hsubmitted (Nat.le_trans (Nat.le_trans hfirst hsecond) hthird) hlast
  rw [total_ofStamps, phases_ofStamps]
  omega

theorem phases_le_total (h : s.Orderly submitted observed) :
    (ofStamps submitted s observed).phases ≤ (ofStamps submitted s observed).total := by
  have hsubmitted : submitted ≠ 0 := Nat.ne_of_gt h.submitted_pos
  -- how far the command got
  by_cases hnew : s.new = 0
  · obtain ⟨hrunning, hcompleted⟩ := h.unreached_of_new hnew
    simp [phases_ofStamps, hnew, hrunning, hcompleted, spanMicros]
  obtain ⟨hfirst, hobserved⟩ := h.within s.new (by simp) hnew
  by_cases hrunning : s.running = 0
  · have hcompleted := h.unreached_of_running hrunning
    have hle := spanMicros_le_spanMicros submitted hobserved
    simpa [phases_ofStamps, total_ofStamps, hrunning, hcompleted, spanMicros_eq_zero] using hle
  obtain ⟨-, hobserved⟩ := h.within s.running (by simp) hrunning
  by_cases hcompleted : s.completed = 0
  · have hsecond := new_le_running h.ordered hnew hrunning
    have hsum := (spanMicros_add hsubmitted hfirst hsecond).1
    have hle := Nat.le_trans hsum (spanMicros_le_spanMicros submitted hobserved)
    simpa [phases_ofStamps, total_ofStamps, hcompleted, spanMicros_eq_zero] using hle
  · exact (phases_of_completed h hnew hrunning hcompleted).1

/-- The phases of an orderly command fit in its whole time and in a word, and where it went through
all states they fall short of it by at most three microseconds. Whatever the times are, a phase
between two of them is the whole microseconds from the one to the other, none where one of them was
not reached, and a command that is observed later has no field that is less. -/
theorem phases_add_up (submitted : Nat) (s : Stamps) (observed : Nat) :
    let l := ofStamps submitted s observed
    (observed < wordLimit → s.Orderly submitted observed →
      l.phases < wordLimit ∧ l.phases ≤ l.total ∧
      (0 ∉ [s.new, s.running, s.completed] → l.total ≤ l.phases + 3)) ∧
    (s.new = 0 → l.toDriver = 0 ∧ l.toUnit = 0) ∧
    (s.running = 0 → l.toUnit = 0 ∧ l.complete = 0) ∧
    (s.completed = 0 → l.complete = 0 ∧ l.done = 0) ∧
    Elapsed submitted observed l.total ∧
    Elapsed submitted s.new l.toDriver ∧ Elapsed s.new s.running l.toUnit ∧
    Elapsed s.running s.completed l.complete ∧ Elapsed s.completed observed l.done ∧
    ∀ later, observed ≤ later →
      let l' := ofStamps submitted s later
      l.total ≤ l'.total ∧ l.toDriver ≤ l'.toDriver ∧ l.toUnit ≤ l'.toUnit ∧
      l.complete ≤ l'.complete ∧ l.done ≤ l'.done := by
  intro l
  refine ⟨fun hword h => ?_, fun hnew => ?_, fun hrunning => ?_, fun hcompleted => ?_,
    elapsed_spanMicros _ _, elapsed_spanMicros _ _, elapsed_spanMicros _ _, elapsed_spanMicros _ _,
    elapsed_spanMicros _ _, fun later hlater => ?_⟩
  · have hle : l.phases ≤ l.total := phases_le_total h
    have htotal : l.total ≤ observed := spanMicros_le submitted observed
    refine ⟨by omega, hle, fun hreached => ?_⟩
    simp only [List.mem_cons, List.not_mem_nil, or_false, not_or] at hreached
    obtain ⟨hnew, hrunning, hcompleted⟩ := hreached
    exact (phases_of_completed h (Ne.symm hnew) (Ne.symm hrunning) (Ne.symm hcompleted)).2
  · exact ⟨spanMicros_eq_zero (Or.inr hnew), spanMicros_eq_zero (Or.inl hnew)⟩
  · exact ⟨spanMicros_eq_zero (Or.inr hrunning), spanMicros_eq_zero (Or.inl hrunning)⟩
  · exact ⟨spanMicros_eq_zero (Or.inr hcompleted), spanMicros_eq_zero (Or.inl hcompleted)⟩
  · exact ⟨spanMicros_le_spanMicros submitted hlater, Nat.le_refl _, Nat.le_refl _,
      Nat.le_refl _, spanMicros_le_spanMicros s.completed hlater⟩

/-- Every phase loses 999 nanoseconds, which add up to three microseconds of the whole. The command
is observed at the last time that there is, and its times are all reached. -/
theorem phases_add_up_roundedOff :
    let submitted := wordLimit - 3997
    let s : Stamps := {
      new := submitted + 999
      running := submitted + 1998
      completed := submitted + 2997 }
    let l := ofStamps submitted s (wordLimit - 1)
    s.Orderly submitted (wordLimit - 1) ∧ l.phases = 0 ∧ l.total = 3 ∧
      l.phases < wordLimit ∧ l.phases ≤ l.total ∧ l.total ≤ l.phases + 3 := by
  intro submitted s l
  have horderly : s.Orderly submitted (wordLimit - 1) :=
    ⟨by decide, by decide, by decide, by decide, by decide, by decide⟩
  obtain ⟨hfits, -⟩ := phases_add_up submitted s (wordLimit - 1)
  obtain ⟨hword, hle, hgap⟩ := hfits (by decide) horderly
  exact ⟨horderly, by decide, by decide, hword, hle, hgap (by decide)⟩

end Latency

end Accelerator
