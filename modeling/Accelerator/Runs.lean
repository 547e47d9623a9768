/-! Long sequences as runs of equal elements. `toList` is the sequence that is meant;
two lists of runs may stand for the same one. -/

namespace Accelerator

/-- An element and how often it is repeated, in order. -/
abbrev Runs (α : Type) := List (α × Nat)

namespace Runs

variable {α : Type}

def toList (r : Runs α) : List α :=
  r.flatMap fun e => List.replicate e.2 e.1

def length : Runs α → Nat
  | [] => 0
  | (_, n) :: r => n + length r

def replicate (n : Nat) (a : α) : Runs α :=
  [(a, n)]

def take : Nat → Runs α → Runs α
  | _, [] => []
  | n, (a, k) :: r => if n ≤ k then [(a, n)] else (a, k) :: take (n - k) r

def drop : Nat → Runs α → Runs α
  | _, [] => []
  | n, (a, k) :: r => if n < k then (a, k - n) :: r else drop (n - k) r

def slice (offset size : Nat) (r : Runs α) : Runs α :=
  (r.drop offset).take size

/-- `src` written over the elements from `offset` on. -/
def overwrite (r : Runs α) (offset : Nat) (src : Runs α) : Runs α :=
  r.take offset ++ src ++ r.drop (offset + src.length)

/-- `n` copies of `a` in front, joined to a first run of the same element. -/
def prepend [DecidableEq α] (a : α) (n : Nat) : Runs α → Runs α
  | [] => if n = 0 then [] else [(a, n)]
  | (b, k) :: r =>
    if n = 0 then (b, k) :: r else if a = b then (b, n + k) :: r else (a, n) :: (b, k) :: r

/-- Empty runs left out and equal neighbours merged. -/
def merged [DecidableEq α] (r : Runs α) : Runs α :=
  r.foldr (fun e acc => prepend e.1 e.2 acc) []

def ofList [DecidableEq α] (l : List α) : Runs α :=
  merged (l.map fun a => (a, 1))

@[simp] theorem toList_nil : toList ([] : Runs α) = [] := rfl

@[simp] theorem toList_cons (e : α × Nat) (r : Runs α) :
    toList (e :: r) = List.replicate e.2 e.1 ++ toList r := rfl

@[simp] theorem toList_append (r s : Runs α) : toList (r ++ s) = toList r ++ toList s := by
  simp [toList]

@[simp] theorem toList_replicate (n : Nat) (a : α) :
    toList (replicate n a) = List.replicate n a := by
  simp [replicate]

@[simp] theorem length_replicate (n : Nat) (a : α) : (replicate n a).length = n := by
  simp [replicate, length]

@[simp] theorem length_toList (r : Runs α) : r.toList.length = r.length := by
  induction r with
  | nil => rfl
  | cons e r ih => simp_all [length]

@[simp] theorem toList_take (n : Nat) (r : Runs α) : (r.take n).toList = r.toList.take n := by
  induction r generalizing n with
  | nil => simp [take]
  | cons e r ih =>
    by_cases h : n ≤ e.2
    · simp [take, h, List.take_append_of_le_length]
    · have h' : e.2 ≤ n := Nat.le_of_not_le h
      simp [take, h, ih, List.take_append, Nat.min_eq_right h']

@[simp] theorem toList_drop (n : Nat) (r : Runs α) : (r.drop n).toList = r.toList.drop n := by
  induction r generalizing n with
  | nil => simp [drop]
  | cons e r ih =>
    by_cases h : n < e.2
    · simp [drop, h, List.drop_append, Nat.sub_eq_zero_of_le (Nat.le_of_lt h)]
    · simp [drop, h, ih, List.drop_append, Nat.sub_eq_zero_of_le (Nat.le_of_not_lt h)]

@[simp] theorem toList_slice (offset size : Nat) (r : Runs α) :
    (r.slice offset size).toList = (r.toList.drop offset).take size := by
  simp [slice]

@[simp] theorem length_slice (offset size : Nat) (r : Runs α) :
    (r.slice offset size).length = min size (r.length - offset) := by
  rw [← length_toList]
  simp

@[simp] theorem toList_overwrite (r : Runs α) (offset : Nat) (src : Runs α) :
    (r.overwrite offset src).toList =
      r.toList.take offset ++ src.toList ++ r.toList.drop (offset + src.length) := by
  simp [overwrite]

@[simp] theorem toList_prepend [DecidableEq α] (a : α) (n : Nat) (r : Runs α) :
    (prepend a n r).toList = List.replicate n a ++ r.toList := by
  unfold prepend
  split
  · split <;> simp_all
  · split
    · simp_all
    · split
      · simp_all [← List.replicate_append_replicate]
      · simp

@[simp] theorem toList_merged [DecidableEq α] (r : Runs α) : (merged r).toList = r.toList := by
  induction r with
  | nil => rfl
  | cons e r ih =>
    rw [toList_cons, ← ih]
    exact toList_prepend e.1 e.2 (merged r)

@[simp] theorem toList_ofList [DecidableEq α] (l : List α) : (ofList l).toList = l := by
  rw [ofList, toList_merged]
  induction l with
  | nil => rfl
  | cons a l ih => simp_all

end Runs

end Accelerator
