import Accelerator.Proofs.Table
import Accelerator.Selection
import Mathlib.Data.List.Intervals

/-! The devices that a selection comes to. They stand in the order in which they are named first,
and how many others are present plays no part in it. -/

namespace Accelerator

variable {α : Type} [DecidableEq α]

theorem filter_eraseDups (chosen : α → Bool) (l : List α) :
    (l.filter chosen).eraseDups = l.eraseDups.filter chosen := by
  induction l using List.reverseRecOn with
  | nil => rfl
  | append_singleton l a ih =>
    rw [List.filter_append, eraseDups_concat]
    by_cases ha : chosen a = true
    · rw [List.filter_cons_of_pos ha, List.filter_nil, eraseDups_concat, ih]
      by_cases hm : a ∈ l
      · rw [if_pos hm, if_pos (List.mem_filter.mpr ⟨hm, ha⟩)]
      · rw [if_neg hm, if_neg fun h => hm (List.mem_filter.mp h).1, List.filter_append,
          List.filter_cons_of_pos ha, List.filter_nil]
    · rw [List.filter_cons_of_neg ha, List.filter_nil, List.append_nil, ih]
      split
      · rfl
      · rw [List.filter_append, List.filter_cons_of_neg ha, List.filter_nil, List.append_nil]

theorem eraseDups_of_nodup {l : List α} (h : l.Nodup) : l.eraseDups = l := by
  induction l using List.reverseRecOn with
  | nil => rfl
  | append_singleton l a ih =>
    rw [← List.concat_eq_append, List.nodup_concat] at h
    rw [eraseDups_concat, if_neg h.1, ih h.2]

theorem pairwise_idxOf_eraseDups (l : List α) :
    l.eraseDups.Pairwise (l.idxOf · < l.idxOf ·) := by
  induction l using List.reverseRecOn with
  | nil => exact List.Pairwise.nil
  | append_singleton l a ih =>
    have hbefore : l.eraseDups.Pairwise ((l ++ [a]).idxOf · < (l ++ [a]).idxOf ·) := by
      refine ih.imp_of_mem fun hb hc hlt => ?_
      rwa [List.idxOf_append_of_mem (List.mem_eraseDups.mp hb),
        List.idxOf_append_of_mem (List.mem_eraseDups.mp hc)]
    rw [eraseDups_concat]
    split
    · exact hbefore
    · next ha =>
      refine List.pairwise_append.mpr ⟨hbefore, List.pairwise_singleton _ _, fun b hb c hc => ?_⟩
      obtain rfl := List.mem_singleton.mp hc
      have hb := List.mem_eraseDups.mp hb
      rw [List.idxOf_append_of_mem hb, List.idxOf_append_of_notMem ha]
      exact Nat.lt_add_right _ (List.idxOf_lt_length_of_mem hb)

namespace Selection

/-- The device is selected, if it is present. -/
def Names : Selection → Nat → Prop
  | all, _ => True
  | list indices, i => i ∈ indices

/-- Where a selection names a device for the first time. -/
def position : Selection → Nat → Nat
  | all, i => i
  | list indices, i => indices.idxOf i

theorem mem_resolve_iff {s : Selection} {n i : Nat} : i ∈ s.resolve n ↔ s.Names i ∧ i < n := by
  cases s with
  | all => simp [resolve, Names]
  | list indices => simp [resolve, Names, List.mem_eraseDups]

/-- With fewer devices present, those that are not are left out, and nothing else changes. -/
theorem filter_resolve (s : Selection) {m n : Nat} (h : m ≤ n) :
    (s.resolve n).filter (· < m) = s.resolve m := by
  cases s with
  | all =>
    have hrange := List.Ico.filter_lt 0 n m
    rwa [List.Ico.zero_bot, Nat.min_eq_right h, List.Ico.zero_bot] at hrange
  | list indices =>
    have hboth : ∀ i ∈ indices, decide (i < m ∧ i < n) = decide (i < m) := fun i _ =>
      decide_eq_decide.mpr ⟨fun hi => hi.1, fun hi => ⟨hi, Nat.lt_of_lt_of_le hi h⟩⟩
    simp only [resolve, ← filter_eraseDups, List.filter_filter, ← Bool.decide_and,
      List.filter_congr hboth]

theorem pairwise_position_resolve (s : Selection) (n : Nat) :
    (s.resolve n).Pairwise (s.position · < s.position ·) := by
  cases s with
  | all => exact List.pairwise_lt_range
  | list indices =>
    rw [resolve, filter_eraseDups]
    exact (pairwise_idxOf_eraseDups indices).filter _

theorem resolve_list_resolve (s : Selection) (n : Nat) :
    (list (s.resolve n)).resolve n = s.resolve n := by
  have hpresent : (s.resolve n).filter (· < n) = s.resolve n := s.filter_resolve (Nat.le_refl n)
  rw [resolve, hpresent, eraseDups_of_nodup (nodup_resolve n s)]

end Selection

end Accelerator
