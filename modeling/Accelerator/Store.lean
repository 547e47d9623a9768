import Accelerator.Table

/-! Collections that number what is put into them. No number is given twice. -/

namespace Accelerator

structure Store (α : Type) where
  next : Nat := 0
  items : Table Nat α := []
  nodup_keys : items.keys.Nodup := by exact List.nodup_nil
  lt_next : ∀ id ∈ items.keys, id < next := by exact fun _ h => absurd h List.not_mem_nil

namespace Store

variable {α : Type}

def get? (s : Store α) (id : Nat) : Option α :=
  s.items.get? id

def values (s : Store α) : List α :=
  s.items.map (·.2)

theorem next_notMem (s : Store α) : s.next ∉ s.items.keys := fun h =>
  Nat.lt_irrefl _ (s.lt_next _ h)

/-- The number given to `a`, and the collection with it. -/
def insert (s : Store α) (a : α) : Nat × Store α :=
  (s.next, {
    next := s.next + 1
    items := s.items.put s.next a
    nodup_keys := Table.nodup_keys_put s.nodup_keys
    lt_next := by
      intro id h
      rcases Table.mem_keys_put.mp h with rfl | h
      · exact Nat.lt_succ_self _
      · exact Nat.lt_succ_of_lt (s.lt_next id h) })

def set (s : Store α) (id : Nat) (a : α) : Store α where
  next := s.next
  items := s.items.update id a
  nodup_keys := by simpa using s.nodup_keys
  lt_next := by simpa using s.lt_next

def erase (s : Store α) (id : Nat) : Store α where
  next := s.next
  items := s.items.erase id
  nodup_keys := Table.nodup_keys_erase s.nodup_keys
  lt_next := fun id' h => s.lt_next id' (Table.mem_keys_erase.mp h).2

theorem get?_next (s : Store α) : s.get? s.next = none := by
  have h := s.next_notMem
  rw [Table.mem_keys_iff] at h
  simpa [get?] using h

theorem lt_next_of_get? {s : Store α} {id : Nat} {a : α} (h : s.get? id = some a) :
    id < s.next := by
  refine s.lt_next id (Decidable.byContradiction fun hn => ?_)
  rw [Table.mem_keys_iff, ← get?, h] at hn
  exact hn rfl

theorem get?_insert (s : Store α) (a : α) (id : Nat) :
    (s.insert a).2.get? id = if s.next = id then some a else s.get? id :=
  Table.get?_put _ _ _ _

theorem get?_set (s : Store α) (id id' : Nat) (a : α) :
    (s.set id a).get? id' = if id = id' then (s.get? id').map fun _ => a else s.get? id' :=
  Table.get?_update _ _ _ _

theorem get?_erase (s : Store α) (id id' : Nat) :
    (s.erase id).get? id' = if id = id' then none else s.get? id' :=
  Table.get?_erase _ _ _

theorem values_insert (s : Store α) (a : α) : (s.insert a).2.values = s.values ++ [a] := by
  simp [insert, values, Table.put_of_notMem s.next_notMem]

theorem mem_values_iff {s : Store α} {a : α} : a ∈ s.values ↔ ∃ id, s.get? id = some a := by
  simp only [values, get?, List.mem_map, Prod.exists, exists_eq_right,
    Table.get?_eq_some_iff s.nodup_keys]

end Store

end Accelerator
