import Accelerator.Failure
import Accelerator.Text.Blank
import Accelerator.Word

/-! Which of the devices present are used. -/

namespace Accelerator

inductive Selection where
  | all
  | list (indices : List Nat)
deriving DecidableEq

namespace Selection

/-- The devices to bind when `n` are present: absent ones are left out, and one that is
named more than once counts where it stands first. -/
def resolve (n : Nat) : Selection → List Nat
  | all => List.range n
  | list indices => (indices.filter (· < n)).eraseDups

def text : Selection → String
  | all => "ALL"
  | list indices => ",".intercalate (indices.map toString)

def items (cs : List Char) : List (List Char) :=
  ((pieces ',' cs).map trim).filter (· ≠ [])

def read (text : String) : Except DeviceError Selection :=
  let cs := trim text.toList
  if cs.map Char.toLower = ['a', 'l', 'l'] then .ok .all
  else
    match (items cs).mapM (readNat (wordLimit - 1)) with
    | .ok indices => .ok (.list indices)
    | .error e => .error (.invalidSetting "XLNX_ENABLE_DEVICES" (String.ofList cs) e.message)

theorem nodup_eraseDups (l : List Nat) : l.eraseDups.Nodup := by
  -- on the length, as the rest loses all that equals the head
  induction hn : l.length using Nat.strongRecOn generalizing l with
  | ind n ih =>
    cases l with
    | nil => exact List.nodup_nil
    | cons a l =>
      have hlt : (l.filter fun b => !b == a).length < n := by
        have hle := List.length_filter_le (fun b => !b == a) l
        simp only [List.length_cons] at hn
        omega
      rw [List.eraseDups_cons, List.nodup_cons]
      refine ⟨fun h => ?_, ih _ hlt _ rfl⟩
      rw [List.mem_eraseDups, List.mem_filter] at h
      simp at h

theorem nodup_resolve (n : Nat) (selection : Selection) :
    (selection.resolve n).Nodup := by
  cases selection with
  | all => exact List.nodup_range
  | list indices => exact nodup_eraseDups _

theorem lt_of_mem_resolve {n i : Nat} {selection : Selection}
    (h : i ∈ selection.resolve n) : i < n := by
  cases selection with
  | all => exact List.mem_range.mp h
  | list indices =>
    rw [resolve, List.mem_eraseDups, List.mem_filter] at h
    exact of_decide_eq_true h.2

end Selection

end Accelerator
