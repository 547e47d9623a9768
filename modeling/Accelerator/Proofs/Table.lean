import Accelerator.Table
import Mathlib.Data.List.Induction
import Mathlib.Data.List.Nodup
import Mathlib.Data.List.Perm.Subperm

/-! Tables from the pairs that were put in, and tables that hold the same. -/

namespace Accelerator

theorem eraseDups_concat {α : Type} [DecidableEq α] (l : List α) (a : α) :
    (l ++ [a]).eraseDups = if a ∈ l then l.eraseDups else l.eraseDups ++ [a] := by
  rw [List.eraseDups_append]
  by_cases hm : a ∈ l
  · have hnone : [a].removeAll l = [] := by simp [List.removeAll, hm]
    rw [hnone, if_pos hm]
    exact List.append_nil _
  · have hone : [a].removeAll l = [a] := by simp [List.removeAll, hm]
    rw [hone, if_neg hm]
    rfl

theorem find?_eraseDups {α : Type} [DecidableEq α] (chosen : α → Bool) (l : List α) :
    l.eraseDups.find? chosen = l.find? chosen := by
  induction l using List.reverseRecOn with
  | nil => rfl
  | append_singleton l a ih =>
    rw [eraseDups_concat, List.find?_append]
    by_cases hm : a ∈ l
    · rw [if_pos hm, ih]
      cases hl : l.find? chosen with
      | none =>
        have ha : ¬ chosen a = true := List.find?_eq_none.mp hl a hm
        simp [ha]
      | some b => rfl
    · rw [if_neg hm, List.find?_append, ih]

namespace Table

variable {α β : Type} [DecidableEq α]

/-- The first pair whose key will do stands under the first such key. -/
theorem find?_eq (chosen : α → Bool) (t : Table α β) :
    List.find? (fun e => chosen e.1) t =
      ((keys t).find? chosen).bind fun k => (get? k t).map fun v => (k, v) := by
  induction t with
  | nil => rfl
  | cons e t ih =>
    by_cases he : chosen e.1 = true
    · simp [keys, get?, he]
    · have hkeys : (keys (e :: t)).find? chosen = (keys t).find? chosen :=
        List.find?_cons_of_neg he
      rw [hkeys, List.find?_cons_of_neg (by simpa using he), ih]
      cases hk : (keys t).find? chosen with
      | none => rfl
      | some k =>
        have hne : ¬ e.1 = k := fun h => he (h ▸ List.find?_some hk)
        simp [get?, hne]

theorem ofPairs_concat (ps : List (α × β)) (p : α × β) :
    ofPairs (ps ++ [p]) = (ofPairs ps).put p.1 p.2 :=
  List.foldl_concat _ _ _ _

/-- Keys stand where they were first put. -/
theorem keys_ofPairs (ps : List (α × β)) : (ofPairs ps).keys = (ps.map (·.1)).eraseDups := by
  induction ps using List.reverseRecOn with
  | nil => rfl
  | append_singleton ps p ih =>
    have hmem : p.1 ∈ (ofPairs ps).keys ↔ p.1 ∈ ps.map (·.1) := by rw [ih, List.mem_eraseDups]
    rw [ofPairs_concat, List.map_append, List.map_singleton, eraseDups_concat, ← ih]
    by_cases hm : p.1 ∈ (ofPairs ps).keys
    · rw [keys_put_of_mem hm, if_pos (hmem.mp hm)]
    · rw [put_of_notMem hm, if_neg (mt hmem.mpr hm)]
      simp [keys]

/-- A key has the value that it was put with last. -/
theorem get?_ofPairs (ps : List (α × β)) (k : α) :
    (ofPairs ps).get? k = (ps.reverse.find? fun p => p.1 = k).map (·.2) := by
  induction ps using List.reverseRecOn with
  | nil => rfl
  | append_singleton ps p ih =>
    rw [ofPairs_concat, get?_put, ih, List.reverse_concat, List.find?_cons]
    by_cases hk : p.1 = k <;> simp [hk]

theorem perm_erase {t : Table α β} {k : α} {v : β}
    (hn : t.keys.Nodup) (h : t.get? k = some v) : t.Perm ((k, v) :: t.erase k) := by
  induction t with
  | nil => cases h
  | cons e t ih =>
    simp only [keys, List.map_cons, List.nodup_cons] at hn
    by_cases he : e.1 = k
    · simp only [get?, he, if_true, Option.some.injEq] at h
      have hrest : t.filter (fun e => e.1 ≠ k) = t := by
        refine List.filter_eq_self.mpr fun e' hm => ?_
        have hne : e'.1 ≠ e.1 := fun heq => hn.1 (heq ▸ List.mem_map_of_mem hm)
        simpa [he] using hne
      simp only [erase, List.filter_cons, he, ne_eq, not_true_eq_false, decide_false]
      rw [hrest, ← he, ← h]
      exact List.Perm.refl _
    · simp only [get?, if_neg he] at h
      simp only [erase, List.filter_cons, he, ne_eq, not_false_eq_true, decide_true, if_true]
      exact ((ih hn.2 h).cons e).trans (List.Perm.swap _ _ _)

theorem mem_put {t : Table α β} {k : α} {v : β} {e : α × β}
    (h : e ∈ t.put k v) : e = (k, v) ∨ e ∈ t := by
  induction t with
  | nil => exact Or.inl (List.mem_singleton.mp h)
  | cons e' t ih =>
    simp only [put] at h
    split at h
    · next he =>
      rcases List.mem_cons.mp h with rfl | h
      · exact Or.inl (by rw [he])
      · exact Or.inr (List.mem_cons_of_mem _ h)
    · rcases List.mem_cons.mp h with rfl | h
      · exact Or.inr List.mem_cons_self
      · exact (ih h).imp_right (List.mem_cons_of_mem _)

theorem mem_of_mem_ofPairs {ps : List (α × β)} {e : α × β} (h : e ∈ ofPairs ps) : e ∈ ps := by
  induction ps using List.reverseRecOn with
  | nil => exact h
  | append_singleton ps p ih =>
    rw [ofPairs_concat] at h
    rcases mem_put h with rfl | h
    · exact List.mem_append_right _ (List.mem_singleton_self p)
    · exact List.mem_append_left _ (ih h)

theorem nodup_keys_ofPairs (ps : List (α × β)) : (keys (ofPairs ps)).Nodup := by
  induction ps using List.reverseRecOn with
  | nil => exact List.nodup_nil
  | append_singleton ps p ih =>
    rw [ofPairs_concat]
    exact nodup_keys_put ih

/-- What is put in later goes before what was there. -/
theorem get?_ofPairs_append (ps qs : List (α × β)) (k : α) :
    (ofPairs (ps ++ qs)).get? k = ((ofPairs qs).get? k).or ((ofPairs ps).get? k) := by
  simp only [get?_ofPairs, List.reverse_append, List.find?_append]
  cases qs.reverse.find? fun p => p.1 = k <;> rfl

theorem ofPairs_of_nodup {ps : List (α × β)} (h : (keys ps).Nodup) : ofPairs ps = ps := by
  induction ps using List.reverseRecOn with
  | nil => rfl
  | append_singleton ps p ih =>
    rw [keys, List.map_append, List.nodup_append] at h
    obtain ⟨hps, -, hne⟩ := h
    have hnew : p.1 ∉ keys ps := fun hm => hne p.1 hm p.1 (by simp) rfl
    rw [ofPairs_concat, ih hps, put_of_notMem hnew]

variable {s t : Table α β}

omit [DecidableEq α] in
theorem nodup_of_nodup_keys (h : (keys t).Nodup) : t.Nodup :=
  List.Nodup.of_map _ h

theorem get?_eq_of_perm (h : s.Perm t) (hs : (keys s).Nodup) (k : α) : s.get? k = t.get? k := by
  have ht : (keys t).Nodup := (h.map Prod.fst).nodup_iff.mp hs
  refine Option.ext fun v => ?_
  rw [get?_eq_some_iff hs, get?_eq_some_iff ht, h.mem_iff]

theorem perm_of_get?_eq (hs : (keys s).Nodup) (ht : (keys t).Nodup)
    (h : ∀ k, s.get? k = t.get? k) : s.Perm t := by
  refine (List.perm_ext_iff_of_nodup (nodup_of_nodup_keys hs) (nodup_of_nodup_keys ht)).mpr ?_
  rintro ⟨k, v⟩
  rw [← get?_eq_some_iff hs, ← get?_eq_some_iff ht, h k]

/-- Two tables agree when either is the other in another order. -/
theorem agrees_iff_perm [DecidableEq β] (hs : (keys s).Nodup) (ht : (keys t).Nodup) :
    s.agrees t = true ↔ s.Perm t := by
  simp only [agrees, Bool.and_eq_true, beq_iff_eq, List.all_eq_true]
  constructor
  · rintro ⟨hlength, hall⟩
    have hsub : s ⊆ t := fun e hm => (get?_eq_some_iff ht).mp (hall e hm)
    have hsubperm := List.subperm_of_subset (nodup_of_nodup_keys hs) hsub
    exact hsubperm.perm_of_length_le (Nat.le_of_eq hlength.symm)
  · intro h
    refine ⟨h.length_eq, fun e hm => ?_⟩
    exact (get?_eq_some_iff ht).mpr (h.mem_iff.mp hm)

end Table

end Accelerator
