/-! Sizes and addresses are naturals below `wordLimit`. A checked operation has no
result when the exact one needs more than 64 bits. -/

namespace Accelerator

def wordLimit : Nat := 0x10000000000000000

def checkedAdd (a b : Nat) : Option Nat :=
  if a + b < wordLimit then some (a + b) else none

def checkedMul (a b : Nat) : Option Nat :=
  if a * b < wordLimit then some (a * b) else none

/-- The least multiple of `step` that is at least `n`. -/
def roundUp (n step : Nat) : Nat :=
  (n + step - 1) / step * step

theorem checkedAdd_eq_some_iff {a b n : Nat} :
    checkedAdd a b = some n ↔ a + b = n ∧ n < wordLimit := by
  unfold checkedAdd
  split
  · simp only [Option.some.injEq]
    omega
  · simp only [reduceCtorEq, false_iff]
    omega

theorem checkedAdd_eq_none_iff {a b : Nat} :
    checkedAdd a b = none ↔ wordLimit ≤ a + b := by
  unfold checkedAdd
  split <;> simp only [reduceCtorEq, false_iff, true_iff] <;> omega

theorem checkedAdd_of_lt {a b : Nat} (h : a + b < wordLimit) : checkedAdd a b = some (a + b) :=
  checkedAdd_eq_some_iff.mpr ⟨rfl, h⟩

theorem checkedMul_eq_some_iff {a b n : Nat} :
    checkedMul a b = some n ↔ a * b = n ∧ n < wordLimit := by
  unfold checkedMul
  split
  · simp only [Option.some.injEq]
    omega
  · simp only [reduceCtorEq, false_iff]
    omega

theorem le_roundUp {step : Nat} (h : 0 < step) (n : Nat) : n ≤ roundUp n step := by
  have hm := Nat.mod_lt (n + step - 1) h
  have hd := Nat.div_add_mod' (n + step - 1) step
  simp only [roundUp]
  omega

end Accelerator
