import Accelerator.Registry.Opening

/-! The kernel that a unit is bound to. It has the full name of the unit, except where braces and
a colon at the end are taken for a part of the form in which it is asked for. -/

namespace Accelerator

/-- The name of the kernel that is asked for with a full name. -/
def kernelNameFor (fullName : String) : String :=
  Device.coreName (kernelRequest fullName)

/-- Without braces, and without a colon at the end. -/
def IsPlainName (fullName : String) : Prop :=
  '\x7b' ∉ fullName.toList ∧ '\x7d' ∉ fullName.toList ∧ fullName.toList.getLast? ≠ some ':'

instance (fullName : String) : Decidable (IsPlainName fullName) :=
  inferInstanceAs (Decidable (_ ∧ _))

/-- Kernel and instance put together again, with a colon where there is an instance. -/
def joinName (kernelName instanceName : String) : String :=
  if instanceName = "" then kernelName else kernelName ++ ":" ++ instanceName

theorem toList_kernelNameFor (fullName : String) :
    (kernelNameFor fullName).toList =
      let cs := fullName.toList.filter fun c => !Device.isBrace c
      if ':' ∈ fullName.toList then Device.withoutColon cs else cs := by
  have hcolon : Device.isBrace ':' = false := rfl
  have hopen : Device.isBrace '\x7b' = true := rfl
  have hclose : Device.isBrace '\x7d' = true := rfl
  have hopening : (":\x7b" : String).toList = [':', '\x7b'] := rfl
  have hclosing : ("\x7d" : String).toList = ['\x7d'] := rfl
  unfold kernelNameFor Device.coreName kernelRequest splitName
  rcases hcut : cutAt? (· = ':') fullName.toList with _ | ⟨kernel, inst⟩
  · have hnone : ':' ∉ fullName.toList := fun hm => by
      simpa using cutAt?_eq_none_iff.mp hcut ':' hm
    have hlast (cs : List Char) : Device.withoutColon (cs ++ [':']) = cs := by
      simp [Device.withoutColon]
    simp only [String.toList_ofList, String.toList_append, hopening, hclosing, if_neg hnone]
    simp [hcolon, hopen, hclose, hlast]
  · obtain ⟨-, c, hc, hparts⟩ := eq_append_of_cutAt? hcut
    obtain rfl : c = ':' := by simpa using hc
    have hsome : ':' ∈ fullName.toList := by simp [hparts]
    simp only [String.toList_ofList, String.toList_append, hopening, hclosing, hparts]
    simp [hcolon, hopen, hclose]

theorem kernelNameFor_eq_self {fullName : String}
    (hb : ∀ c ∈ fullName.toList, Device.isBrace c = false)
    (hc : fullName.toList.getLast? ≠ some ':') : kernelNameFor fullName = fullName := by
  refine String.toList_inj.mp ?_
  have hfilter : (fullName.toList.filter fun c => !Device.isBrace c) = fullName.toList :=
    List.filter_eq_self.mpr fun c hm => by rw [hb c hm]; rfl
  rw [toList_kernelNameFor, hfilter]
  simp only [Device.withoutColon, if_neg hc, ite_self]

theorem isBrace_eq_false_iff {cs : List Char} :
    (∀ c ∈ cs, Device.isBrace c = false) ↔ '\x7b' ∉ cs ∧ '\x7d' ∉ cs := by
  simp only [Device.isBrace, Bool.or_eq_false_iff, decide_eq_false_iff_not]
  constructor
  · exact fun h => ⟨fun hm => (h _ hm).1 rfl, fun hm => (h _ hm).2 rfl⟩
  · rintro ⟨hopen, hclose⟩ c hm
    exact ⟨fun hc => hopen (hc ▸ hm), fun hc => hclose (hc ▸ hm)⟩

theorem isPlainName_of_kernelNameFor {fullName : String} (h : kernelNameFor fullName = fullName) :
    IsPlainName fullName := by
  have hlist := congrArg String.toList h
  rw [toList_kernelNameFor] at hlist
  have hsub (cs : List Char) : Device.withoutColon cs <+: cs := by
    unfold Device.withoutColon
    split
    · exact List.dropLast_prefix cs
    · exact List.prefix_refl cs
  -- what is left of the name was filtered
  have hbraces : ∀ c ∈ fullName.toList, Device.isBrace c = false := by
    intro c hm
    have hf : c ∈ fullName.toList.filter fun c => !Device.isBrace c := by
      rw [← hlist] at hm
      simp only at hm
      split at hm
      · exact (hsub _).subset hm
      · exact hm
    simpa using (List.mem_filter.mp hf).2
  have hfilter : (fullName.toList.filter fun c => !Device.isBrace c) = fullName.toList :=
    List.filter_eq_self.mpr fun c hm => by rw [hbraces c hm]; rfl
  obtain ⟨hopen, hclose⟩ := isBrace_eq_false_iff.mp hbraces
  refine ⟨hopen, hclose, fun hlast => ?_⟩
  have hcolon : ':' ∈ fullName.toList := List.mem_of_getLast? hlast
  simp only [hfilter, if_pos hcolon, Device.withoutColon, if_pos hlast] at hlist
  have hlength := congrArg List.length hlist
  have hpos := List.length_pos_of_mem hcolon
  rw [List.length_dropLast] at hlength
  omega

theorem kernelNameFor_eq_self_iff {fullName : String} :
    kernelNameFor fullName = fullName ↔ IsPlainName fullName := by
  refine ⟨isPlainName_of_kernelNameFor, fun h => ?_⟩
  obtain ⟨hopen, hclose, hlast⟩ := h
  exact kernelNameFor_eq_self (isBrace_eq_false_iff.mpr ⟨hopen, hclose⟩) hlast

theorem joinName_splitName {fullName : String} (h : IsPlainName fullName) :
    joinName (splitName fullName).1 (splitName fullName).2 = fullName := by
  obtain ⟨-, -, hlast⟩ := h
  unfold splitName
  rcases hcut : cutAt? (· = ':') fullName.toList with _ | ⟨kernel, inst⟩
  · simp only [joinName, if_true]
  · obtain ⟨-, c, hc, hparts⟩ := eq_append_of_cutAt? hcut
    obtain rfl : c = ':' := by simpa using hc
    -- without an instance the colon would be the last character
    have hinst : String.ofList inst ≠ "" := by
      intro he
      obtain rfl : inst = [] := by simpa using congrArg String.toList he
      exact hlast (by rw [hparts, List.getLast?_concat])
    refine String.toList_inj.mp ?_
    simp only [joinName, if_neg hinst, String.toList_append, String.toList_ofList, hparts]
    simp

end Accelerator
