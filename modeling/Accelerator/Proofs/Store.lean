import Accelerator.Proofs.Table
import Accelerator.Store

/-! Collections as lists of what they hold, and what is left of a collection when things are taken
out of it. -/

namespace Accelerator

theorem Table.update_self {α β : Type} [DecidableEq α] {t : Table α β} {k : α} {v : β}
    (hn : t.keys.Nodup) (h : t.get? k = some v) : t.update k v = t := by
  refine (List.map_congr_left fun e hm => ?_).trans (List.map_id t)
  have he := (get?_eq_some_iff hn).mpr hm
  split
  · next hk =>
    rw [hk, h] at he
    exact Prod.ext rfl (Option.some.inj he)
  · rfl

namespace Store

variable {α β : Type} {s s' s'' : Store α} {id id' : Nat} {a a' : α}

theorem set_self (h : s.get? id = some a) : s.set id a = s := by
  have hitems : (s.set id a).items = s.items := Table.update_self s.nodup_keys h
  cases s
  simpa [set] using hitems

theorem values_perm (h : s.get? id = some a) : s.values.Perm (a :: (s.erase id).values) :=
  (Table.perm_erase s.nodup_keys h).map _

theorem map_values_set {f : α → β} (h : s.get? id = some a) (hf : f a' = f a) :
    (s.set id a').values.map f = s.values.map f := by
  simp only [values, set, Table.update, List.map_map]
  refine List.map_congr_left fun e hm => ?_
  by_cases he : e.1 = id
  · have hget : s.get? e.1 = some e.2 := (Table.get?_eq_some_iff s.nodup_keys).mpr hm
    rw [he, h] at hget
    simp only [Function.comp_apply, if_pos he, hf, Option.some.inj hget]
  · simp only [Function.comp_apply, if_neg he]

theorem erase_set (s : Store α) (id : Nat) (a : α) :
    ((s.set id a).erase id).items = (s.erase id).items := by
  have hkey (e : Nat × α) : (if e.1 = id then (e.1, a) else e).1 = e.1 := by split <;> rfl
  simp only [set, erase, Table.update, Table.erase, List.filter_map, Function.comp_def, hkey]
  refine (List.map_congr_left fun e hm => ?_).trans (List.map_id' _)
  exact if_neg (of_decide_eq_true (List.mem_filter.mp hm).2)

/-- To put one thing in the place of another is to take that one out and it in. -/
theorem values_set_perm (h : s.get? id = some a) (a' : α) :
    (s.set id a').values.Perm (a' :: (s.erase id).values) := by
  have hset : (s.set id a').get? id = some a' := by rw [get?_set, if_pos rfl, h, Option.map_some]
  have hperm := values_perm hset
  rwa [values, values, erase_set] at hperm

/-- What is found in two things of a collection is found twice in all of them. -/
theorem eq_of_mem_flatMap {f : α → List β} {b : β} (hn : (s.values.flatMap f).Nodup)
    (h : s.get? id = some a) (h' : s.get? id' = some a') (hb : b ∈ f a) (hb' : b ∈ f a') :
    id = id' := by
  by_contra hne
  have hrest : (s.erase id).get? id' = some a' := by rw [get?_erase, if_neg hne, h']
  have hm := List.mem_flatMap.mpr ⟨a', mem_values_iff.mpr ⟨id', hrest⟩, hb'⟩
  rw [((values_perm h).flatMap_right f).nodup_iff, List.flatMap_cons, List.nodup_append'] at hn
  exact hn.2.2 hb hm

/-- At most some of the things are gone. -/
structure Loses (s s' : Store α) : Prop where
  next : s'.next = s.next
  get? : ∀ id a, s'.get? id = some a → s.get? id = some a

namespace Loses

theorem of_eq (h : s' = s) : s.Loses s' := h ▸ ⟨rfl, fun _ _ hid => hid⟩

theorem erase (s : Store α) (id : Nat) : s.Loses (s.erase id) := by
  refine ⟨rfl, fun id' a hid => ?_⟩
  rw [Store.get?_erase] at hid
  split at hid
  · cases hid
  · exact hid

end Loses

end Store

end Accelerator
