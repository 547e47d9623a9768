import Accelerator.Text.Blank
import Mathlib.Data.List.TakeWhile

/-! What trimming leaves of a text, and what it does not see. -/

namespace Accelerator

/-- Nothing but white space. -/
def AllBlank (cs : List Char) : Prop :=
  ∀ c ∈ cs, isBlank c = true

instance : DecidablePred AllBlank := fun cs =>
  List.decidableBAll (fun c => isBlank c = true) cs

variable {cs w w' : List Char}

theorem allBlank_nil : AllBlank [] :=
  fun _ hm => absurd hm List.not_mem_nil

theorem allBlank_append : AllBlank (w ++ w') ↔ AllBlank w ∧ AllBlank w' :=
  List.forall_mem_append

theorem trimStart_append (h : AllBlank w) (cs : List Char) :
    trimStart (w ++ cs) = trimStart cs :=
  List.dropWhile_append_of_pos h

theorem trimEnd_append (h : AllBlank w) (cs : List Char) : trimEnd (cs ++ w) = trimEnd cs := by
  have hreverse : ∀ c ∈ w.reverse, isBlank c = true := fun c hm => h c (List.mem_reverse.mp hm)
  rw [trimEnd, List.reverse_append, List.dropWhile_append_of_pos hreverse, trimEnd]

theorem exists_trimStart (cs : List Char) : ∃ w, AllBlank w ∧ cs = w ++ trimStart cs :=
  ⟨cs.takeWhile isBlank, fun _ hm => List.mem_takeWhile_imp hm,
    List.takeWhile_append_dropWhile.symm⟩

theorem exists_trimEnd (cs : List Char) : ∃ w, AllBlank w ∧ cs = trimEnd cs ++ w := by
  obtain ⟨w, hw, hcs⟩ := exists_trimStart cs.reverse
  refine ⟨w.reverse, fun c hm => hw c (List.mem_reverse.mp hm), ?_⟩
  have hreverse := congrArg List.reverse hcs
  rwa [List.reverse_reverse, List.reverse_append] at hreverse

/-- A text is what trimming leaves of it with white space around. -/
theorem exists_trim (cs : List Char) :
    ∃ w w', AllBlank w ∧ AllBlank w' ∧ cs = w ++ trim cs ++ w' := by
  obtain ⟨w, hw, hstart⟩ := exists_trimStart cs
  obtain ⟨w', hw', hend⟩ := exists_trimEnd (trimStart cs)
  exact ⟨w, w', hw, hw', by rw [trim, List.append_assoc, ← hend, ← hstart]⟩

theorem trim_eq_nil_iff : trim cs = [] ↔ AllBlank cs := by
  rw [trim, trimEnd, List.reverse_eq_nil_iff, List.dropWhile_eq_nil_iff]
  obtain ⟨w, hw, hcs⟩ := exists_trimStart cs
  constructor
  · intro h
    rw [hcs, allBlank_append]
    exact ⟨hw, fun c hm => h c (List.mem_reverse.mpr hm)⟩
  · intro h c hm
    rw [hcs, allBlank_append] at h
    exact h.2 c (List.mem_reverse.mp hm)

/-- White space around a text makes no difference to it. -/
theorem trim_append (h : AllBlank w) (h' : AllBlank w') (cs : List Char) :
    trim (w ++ cs ++ w') = trim cs := by
  by_cases hcs : AllBlank cs
  · have hall : AllBlank (w ++ cs ++ w') :=
      allBlank_append.mpr ⟨allBlank_append.mpr ⟨h, hcs⟩, h'⟩
    rw [trim_eq_nil_iff.mpr hall, trim_eq_nil_iff.mpr hcs]
  · have hne : ¬ (trimStart cs).isEmpty = true := by
      rw [List.isEmpty_iff, trimStart, List.dropWhile_eq_nil_iff]
      exact hcs
    have hstart : trimStart (cs ++ w') = trimStart cs ++ w' := by
      rw [trimStart, List.dropWhile_append, ← trimStart, if_neg hne]
    rw [List.append_assoc, trim, trimStart_append h, hstart, trimEnd_append h', trim]

theorem trim_blank_append (h : AllBlank w) (cs : List Char) : trim (w ++ cs) = trim cs := by
  simpa using trim_append h allBlank_nil cs

theorem trim_append_blank (h : AllBlank w) (cs : List Char) : trim (cs ++ w) = trim cs :=
  trim_append allBlank_nil h cs

theorem trim_trim (cs : List Char) : trim (trim cs) = trim cs := by
  obtain ⟨w, w', hw, hw', hcs⟩ := exists_trim cs
  calc
    trim (trim cs) = trim (w ++ trim cs ++ w') := (trim_append hw hw' (trim cs)).symm
    _ = trim cs := congrArg trim hcs.symm

theorem mem_of_mem_trim {c : Char} (h : c ∈ trim cs) : c ∈ cs := by
  obtain ⟨w, w', -, -, hcs⟩ := exists_trim cs
  rw [hcs]
  simp [h]

theorem trim_eq_self (h : ∀ c ∈ cs, isBlank c = false) : trim cs = cs := by
  have hblank {w : List Char} (hw : AllBlank w) (hsub : ∀ c ∈ w, c ∈ cs) : w = [] :=
    List.eq_nil_iff_forall_not_mem.mpr fun c hm => by
      have hc := hw c hm
      rw [h c (hsub c hm)] at hc
      cases hc
  obtain ⟨w, w', hw, hw', hcs⟩ := exists_trim cs
  have hnil := hblank hw fun c hm => by rw [hcs]; simp [hm]
  have hnil' := hblank hw' fun c hm => by rw [hcs]; simp [hm]
  rw [hnil, hnil', List.nil_append, List.append_nil] at hcs
  exact hcs.symm

@[simp] theorem toList_trimText (s : String) : (trimText s).toList = trim s.toList :=
  String.toList_ofList

end Accelerator
