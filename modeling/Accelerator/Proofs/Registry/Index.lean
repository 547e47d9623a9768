import Accelerator.Proofs.Text.Order
import Accelerator.Registry.Opening
import Mathlib.Data.List.Nodup

/-! The keys of compute units. A key tells the name and the device apart, whatever the name is,
and inserting units one by one keeps them in order. -/

namespace Accelerator

theorem append_cons_inj_of_notMem {α : Type} {a : α} {l l' r r' : List α} (hr : a ∉ r)
    (hr' : a ∉ r') (h : l ++ a :: r = l' ++ a :: r') : l = l' ∧ r = r' := by
  have hnil (x s s' : List α) (hs : a ∉ s) (h : a :: s = x ++ a :: s') : x = [] := by
    rcases x with _ | ⟨b, x⟩
    · rfl
    · rw [List.cons_append, List.cons.injEq] at h
      exact absurd (h.2 ▸ by simp) hs
  rcases List.append_eq_append_iff.mp h with ⟨x, rfl, hx⟩ | ⟨x, rfl, hx⟩
  · obtain rfl := hnil x r r' hr hx
    exact ⟨(List.append_nil l).symm, (List.cons.inj hx).2⟩
  · obtain rfl := hnil x r' r hr' hx
    exact ⟨List.append_nil l', (List.cons.inj hx).2.symm⟩

theorem hasInfix_iff {mark cs : List Char} : hasInfix mark cs = true ↔ mark <:+: cs := by
  induction cs with
  | nil => simp [hasInfix]
  | cons c cs ih =>
    simp only [hasInfix, Bool.or_eq_true, List.isPrefixOf_iff_prefix, ih, List.infix_cons_iff]

theorem isUnitName_iff {fullName : String} :
    isUnitName fullName = true ↔ ∃ mark ∈ unitMarks, mark.toList <:+: fullName.toList := by
  simp only [isUnitName, List.any_eq_true, hasInfix_iff]

namespace UnitIndex

theorem toList_keyFor (fullName : String) (device : Nat) :
    (keyFor fullName device).toList = fullName.toList ++ ':' :: device.repr.toList := by
  have h : keyFor fullName device = fullName ++ ":" ++ device.repr := rfl
  simp only [h, String.toList_append, List.append_assoc]
  rfl

theorem colon_notMem_repr (n : Nat) : ':' ∉ n.repr.toList := by
  intro h
  rw [Nat.toList_repr] at h
  have hd := Nat.isDigit_of_mem_toDigits (by decide) (by decide) h
  exact absurd hd (by decide)

/-- The last colon ends the name, as there are only digits after it. -/
theorem keyFor_inj {fullName fullName' : String} {device device' : Nat}
    (h : keyFor fullName device = keyFor fullName' device') :
    fullName = fullName' ∧ device = device' := by
  have hl := congrArg String.toList h
  rw [toList_keyFor, toList_keyFor] at hl
  obtain ⟨hname, hdigits⟩ :=
    append_cons_inj_of_notMem (colon_notMem_repr device) (colon_notMem_repr device') hl
  rw [Nat.toList_repr, Nat.toList_repr] at hdigits
  have hd := congrArg (Nat.ofDigitChars 10 · 0) hdigits
  exact ⟨String.toList_inj.mp hname, by simpa only [Nat.ofDigitChars_ten_toDigits] using hd⟩

/-- In strictly increasing order of the keys. -/
def Sorted (index : UnitIndex) : Prop :=
  index.Pairwise fun e e' => e.1 < e'.1

variable {index : UnitIndex} {key : String} {u : ComputeUnit} {e : String × ComputeUnit}

theorem mem_of_mem_insert (h : e ∈ insert key u index) : e = (key, u) ∨ e ∈ index := by
  induction index with
  | nil => exact Or.inl (List.mem_singleton.mp h)
  | cons head rest ih =>
    simp only [insert] at h
    split at h
    · next he =>
      rcases List.mem_cons.mp h with rfl | h
      · exact Or.inl (by rw [he])
      · exact Or.inr (List.mem_cons_of_mem _ h)
    · split at h
      · exact List.mem_cons.mp h
      · rcases List.mem_cons.mp h with rfl | h
        · exact Or.inr List.mem_cons_self
        · exact (ih h).imp_right (List.mem_cons_of_mem _)

theorem mem_keys_insert {k : String} :
    k ∈ (insert key u index).map (·.1) ↔ k = key ∨ k ∈ index.map (·.1) := by
  induction index with
  | nil => exact List.mem_singleton.trans (or_iff_left List.not_mem_nil).symm
  | cons head rest ih =>
    simp only [insert]
    split
    · next he => simp [he]
    · split
      · simp
      · simp only [List.map_cons, List.mem_cons, ih, or_left_comm]

theorem Sorted.insert (h : Sorted index) (key : String) (u : ComputeUnit) :
    Sorted (index.insert key u) := by
  induction index with
  | nil => exact List.pairwise_singleton _ _
  | cons head rest ih =>
    obtain ⟨hhead, hrest⟩ := List.pairwise_cons.mp h
    simp only [UnitIndex.insert]
    split
    · exact List.pairwise_cons.mpr ⟨hhead, hrest⟩
    · next hne =>
      split
      · next hlt =>
        refine List.pairwise_cons.mpr ⟨fun e hm => ?_, h⟩
        rcases List.mem_cons.mp hm with rfl | hm
        · exact hlt
        · exact String.lt_trans hlt (hhead e hm)
      · next hnlt =>
        refine List.pairwise_cons.mpr ⟨fun e hm => ?_, ih hrest⟩
        rcases mem_of_mem_insert hm with rfl | hm
        · exact Std.lt_of_le_of_ne hnlt fun he => hne he.symm
        · exact hhead e hm

theorem Sorted.nodup_keys (h : Sorted index) : (index.map (·.1)).Nodup := by
  refine List.pairwise_map.mpr (List.Pairwise.imp ?_ h)
  intro e e' hlt he
  exact String.lt_irrefl e.1 (he ▸ hlt)

/-- The units that match a name are next to each other. -/
theorem Sorted.block (h : Sorted index) (name : String) :
    ∃ front block back, index = front ++ block ++ back ∧ index.matching name = block.map (·.2) ∧
      (∀ e ∈ block, name.toList <+: e.1.toList) ∧
      ∀ e ∈ front ++ back, ¬ name.toList <+: e.1.toList := by
  obtain ⟨front, back, hparts, hout⟩ := filter_block
    (fun e : String × ComputeUnit => name.toList.isPrefixOf e.1.toList) h
    fun a b c hab hbc ha hc => by
      simp only [List.isPrefixOf_iff_prefix] at ha hc ⊢
      exact prefix_of_between ha hc (String.lt_iff.mp hab) (String.lt_iff.mp hbc)
  simp only [List.isPrefixOf_iff_prefix] at hout
  refine ⟨front, _, back, hparts, rfl, fun e hm => ?_, hout⟩
  simpa only [List.isPrefixOf_iff_prefix] using (List.mem_filter.mp hm).2

end UnitIndex

theorem Registry.mem_units_of_matching {r : Registry} {name : String} {u : ComputeUnit}
    (hm : u ∈ r.matching name) : ∃ e ∈ r.units, e.2 = u := by
  obtain ⟨e, he, rfl⟩ := List.mem_map.mp hm
  exact ⟨e, (List.mem_filter.mp he).1, rfl⟩

end Accelerator
