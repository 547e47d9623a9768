/-! Finite maps as lists of pairs. A key keeps the place where it was first put, and
putting it again replaces its value there. -/

namespace Accelerator

abbrev Table (α β : Type) := List (α × β)

namespace Table

variable {α β : Type} [DecidableEq α]

def get? (k : α) : Table α β → Option β
  | [] => none
  | (k', v) :: t => if k' = k then some v else get? k t

def put (k : α) (v : β) : Table α β → Table α β
  | [] => [(k, v)]
  | (k', v') :: t => if k' = k then (k', v) :: t else (k', v') :: put k v t

def update (k : α) (v : β) (t : Table α β) : Table α β :=
  t.map fun e => if e.1 = k then (e.1, v) else e

def erase (k : α) (t : Table α β) : Table α β :=
  t.filter fun e => e.1 ≠ k

def keys {α β : Type} (t : Table α β) : List α :=
  t.map (·.1)

/-- Later pairs win. -/
def ofPairs (ps : List (α × β)) : Table α β :=
  ps.foldl (fun t p => t.put p.1 p.2) []

/-- The same keys with the same values, in any order. -/
def agrees [DecidableEq β] (s t : Table α β) : Bool :=
  s.length == t.length && s.all fun e => get? e.1 t == some e.2

theorem get?_put (k k' : α) (v : β) (t : Table α β) :
    get? k' (put k v t) = if k = k' then some v else get? k' t := by
  induction t with
  | nil => simp [put, get?]
  | cons e t ih =>
    by_cases h : e.1 = k
    · by_cases h' : k = k' <;> simp_all [put, get?]
    · by_cases h' : k = k'
      · subst h'
        simp_all [put, get?]
      · simp_all [put, get?]

theorem get?_update (k k' : α) (v : β) (t : Table α β) :
    get? k' (update k v t) = if k = k' then (get? k' t).map fun _ => v else get? k' t := by
  induction t with
  | nil => simp [update, get?]
  | cons e t ih =>
    by_cases h : k = k'
    · subst h
      by_cases he : e.1 = k <;> simp_all [update, get?]
    · by_cases he : e.1 = k <;> by_cases he' : e.1 = k' <;> simp_all [update, get?]

theorem get?_erase (k k' : α) (t : Table α β) :
    get? k' (erase k t) = if k = k' then none else get? k' t := by
  induction t with
  | nil => simp [erase, get?]
  | cons e t ih =>
    by_cases h : e.1 = k
    · by_cases h' : k = k' <;> simp_all [erase, get?]
    · by_cases h' : k = k' <;> by_cases h'' : e.1 = k' <;> simp_all [erase, get?]

theorem mem_keys_iff {k : α} {t : Table α β} : k ∈ keys t ↔ (get? k t).isSome := by
  induction t with
  | nil => simp [keys, get?]
  | cons e t ih =>
    by_cases h : e.1 = k
    · simp [keys, get?, h]
    · simp only [keys, List.map_cons, List.mem_cons, get?, if_neg h] at ih ⊢
      rw [← ih]
      exact ⟨fun h' => h'.resolve_left fun e => h e.symm, Or.inr⟩

theorem put_of_notMem {k : α} {v : β} {t : Table α β} (h : k ∉ keys t) :
    put k v t = t ++ [(k, v)] := by
  induction t with
  | nil => rfl
  | cons e t ih =>
    simp only [keys, List.map_cons, List.mem_cons, not_or] at h
    simp [put, Ne.symm h.1, ih h.2]

theorem keys_put_of_mem {k : α} {v : β} {t : Table α β} (h : k ∈ keys t) :
    keys (put k v t) = keys t := by
  induction t with
  | nil => simp [keys] at h
  | cons e t ih =>
    by_cases he : e.1 = k
    · simp [put, keys, he]
    · have hk : k ∈ keys t := by
        simpa [keys, Ne.symm he] using h
      have := ih hk
      simp only [keys] at this
      simp [put, keys, he, this]

theorem mem_keys_put {k k' : α} {v : β} {t : Table α β} :
    k' ∈ keys (put k v t) ↔ k' = k ∨ k' ∈ keys t := by
  by_cases h : k ∈ keys t
  · rw [keys_put_of_mem h]
    exact ⟨Or.inr, fun h' => h'.elim (fun e => e ▸ h) id⟩
  · rw [put_of_notMem h]
    simp [keys, or_comm]

theorem nodup_keys_put {k : α} {v : β} {t : Table α β} (h : (keys t).Nodup) :
    (keys (put k v t)).Nodup := by
  by_cases hk : k ∈ keys t
  · rwa [keys_put_of_mem hk]
  · rw [put_of_notMem hk, keys, List.map_append, List.nodup_append]
    refine ⟨h, by simp, ?_⟩
    rintro a ha b hb rfl
    obtain rfl : a = k := by simpa using hb
    exact hk ha

@[simp] theorem keys_update (k : α) (v : β) (t : Table α β) : keys (update k v t) = keys t := by
  simp only [keys, update, List.map_map]
  refine List.map_congr_left fun e _ => ?_
  by_cases h : e.1 = k <;> simp [h]

theorem mem_keys_erase {k k' : α} {t : Table α β} :
    k' ∈ keys (erase k t) ↔ k' ≠ k ∧ k' ∈ keys t := by
  simp only [keys, erase, List.mem_map, List.mem_filter, decide_eq_true_eq]
  constructor
  · rintro ⟨e, ⟨he, hk⟩, rfl⟩
    exact ⟨hk, e, he, rfl⟩
  · rintro ⟨hk, e, he, rfl⟩
    exact ⟨e, ⟨he, hk⟩, rfl⟩

theorem nodup_keys_erase {k : α} {t : Table α β} (h : (keys t).Nodup) :
    (keys (erase k t)).Nodup :=
  h.sublist (List.filter_sublist.map _)

theorem get?_eq_some_iff {k : α} {v : β} {t : Table α β} (h : (keys t).Nodup) :
    get? k t = some v ↔ (k, v) ∈ t := by
  induction t with
  | nil => simp [get?]
  | cons e t ih =>
    simp only [keys, List.map_cons, List.nodup_cons] at h
    by_cases he : e.1 = k
    · subst he
      simp only [get?, if_pos, Option.some.injEq, List.mem_cons]
      constructor
      · rintro rfl
        exact Or.inl rfl
      · rintro (h' | h')
        · rw [← h']
        · exact absurd (List.mem_map_of_mem (f := Prod.fst) h') h.1
    · simp only [get?, if_neg he, List.mem_cons]
      rw [ih h.2]
      refine ⟨Or.inr, fun h' => h'.resolve_left ?_⟩
      rintro rfl
      exact he rfl

end Table

end Accelerator
