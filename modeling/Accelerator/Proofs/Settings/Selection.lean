import Accelerator.Proofs.Text.Numeral
import Accelerator.Proofs.Text.Pieces
import Accelerator.Proofs.Text.Trim
import Accelerator.Selection

/-! The texts that select devices. A text is read if it is `ALL` or a list of numbers, and it is
read as what it says; what a selection is written as says just that selection. -/

namespace Accelerator

theorem toLower_eq_iff {c upper lower : Char} (h65 : 65 ≤ upper.toNat) (h90 : upper.toNat ≤ 90)
    (hlower : upper.toNat + 32 = lower.toNat) : c.toLower = lower ↔ c ∈ [upper, lower] := by
  have hcase : (c.val ≥ 'A'.val ∧ c.val ≤ 'Z'.val) ↔ 65 ≤ c.toNat ∧ c.toNat ≤ 90 :=
    and_congr UInt32.le_iff_toNat_le UInt32.le_iff_toNat_le
  simp only [List.mem_cons, List.not_mem_nil, or_false, ← Char.toNat_inj]
  by_cases h : c.val ≥ 'A'.val ∧ c.val ≤ 'Z'.val
  · have hval : c.toLower.val = c.val + ('a'.val - 'A'.val) := congrArg Char.val (dif_pos h)
    have hle := (hcase.mp h).2
    have hsum : c.toLower.toNat = c.toNat + 32 := by
      rw [Char.toNat, hval, UInt32.toNat_add]
      exact Nat.mod_eq_of_lt (Nat.lt_of_le_of_lt (Nat.add_le_add_right hle 32) (by decide))
    rw [hsum]
    omega
  · have hsame : c.toLower = c := dif_neg h
    rw [hsame]
    rw [hcase] at h
    omega

theorem isBlank_of_isDigit {c : Char} (h : c.isDigit = true) : isBlank c = false := by
  have h48 : 48 ≤ c.toNat := UInt32.le_iff_toNat_le.mp (isDigit_iff.mp h).1
  have h57 : c.toNat ≤ 57 := UInt32.le_iff_toNat_le.mp (isDigit_iff.mp h).2
  simp only [isBlank, Bool.or_eq_false_iff, Bool.and_eq_false_iff, decide_eq_false_iff_not,
    beq_eq_false_iff_ne]
  omega

namespace Selection

/-- `ALL`, in letters of either case. -/
def IsAll (cs : List Char) : Prop :=
  ∃ a ∈ ['A', 'a'], ∃ l ∈ ['L', 'l'], ∃ l' ∈ ['L', 'l'], cs = [a, l, l']

/-- Parts with commas between them, which are the numbers in turn where they are not blank. -/
def IsList (indices : List Nat) (cs : List Char) : Prop :=
  ∃ parts : List (List Char), parts ≠ [] ∧ (∀ part ∈ parts, ',' ∉ part) ∧
    cs = [','].intercalate parts ∧
    List.Forall₂ (fun item i => Numeral (wordLimit - 1) i item)
      ((parts.map trim).filter (· ≠ [])) indices

/-- What a text says that has no white space around it. -/
def Denotes : Selection → List Char → Prop
  | all, cs => IsAll cs
  | list indices, cs => IsList indices cs

/-- The numbers of devices are words. -/
def Fits : Selection → Prop
  | all => True
  | list indices => ∀ i ∈ indices, i < wordLimit

instance : DecidablePred Fits
  | all => isTrue trivial
  | list indices => List.decidableBAll (· < wordLimit) indices

variable {cs : List Char} {indices : List Nat}

theorem map_toLower_eq_iff : cs.map Char.toLower = ['a', 'l', 'l'] ↔ IsAll cs := by
  have ha {c : Char} : c.toLower = 'a' ↔ c ∈ ['A', 'a'] :=
    toLower_eq_iff (by decide) (by decide) rfl
  have hl {c : Char} : c.toLower = 'l' ↔ c ∈ ['L', 'l'] :=
    toLower_eq_iff (by decide) (by decide) rfl
  constructor
  · intro h
    obtain ⟨a, cs, rfl, h1, h⟩ := List.map_eq_cons_iff.mp h
    obtain ⟨l, cs, rfl, h2, h⟩ := List.map_eq_cons_iff.mp h
    obtain ⟨l', cs, rfl, h3, h⟩ := List.map_eq_cons_iff.mp h
    obtain rfl := List.map_eq_nil_iff.mp h
    exact ⟨a, ha.mp h1, l, hl.mp h2, l', hl.mp h3, rfl⟩
  · rintro ⟨a, h1, l, h2, l', h3, rfl⟩
    simp only [List.map_cons, List.map_nil, ha.mpr h1, hl.mpr h2, hl.mpr h3]

theorem isList_iff : IsList indices cs ↔
    List.Forall₂ (fun item i => Numeral (wordLimit - 1) i item) (items cs) indices := by
  constructor
  · rintro ⟨parts, hne, hcomma, rfl, h⟩
    rwa [items, pieces_intercalate hne hcomma]
  · intro h
    obtain ⟨p, ps, hp⟩ := pieces_eq_cons ',' cs
    exact ⟨pieces ',' cs, by rw [hp]; exact List.cons_ne_nil p ps, fun _ => notMem_of_mem_pieces,
      (intercalate_pieces ',' cs).symm, h⟩

theorem isList_iff_mapM :
    IsList indices cs ↔ (items cs).mapM (readNat (wordLimit - 1)) = .ok indices := by
  simp only [isList_iff, mapM_eq_ok_iff, readNat_eq_ok_iff]

theorem not_isAll_of_isList (h : IsList indices cs) : ¬ IsAll cs := by
  rintro ⟨a, ha, l, hl, l', hl', rfl⟩
  have hletters : ∀ c ∈ [a, l, l'], c ∈ ['A', 'a', 'L', 'l'] := by
    simp only [List.mem_cons, List.not_mem_nil, or_false, forall_eq_or_imp, forall_eq] at *
    tauto
  have hcomma : ',' ∉ [a, l, l'] := fun hm => absurd (hletters _ hm) (by decide)
  have hnone : ∀ c ∈ ['A', 'a', 'L', 'l'], isBlank c = false := by simp [isBlank]
  have hblank : ∀ c ∈ [a, l, l'], isBlank c = false := fun c hm => hnone c (hletters c hm)
  -- the one item starts with a letter
  have hitems : items [a, l, l'] = [[a, l, l']] := by
    rw [items, pieces_of_notMem hcomma, List.map_singleton, trim_eq_self hblank]
    rfl
  rw [isList_iff, hitems, List.forall₂_cons_left_iff] at h
  obtain ⟨n, -, hn, -⟩ := h
  rcases hn.written with hd | ⟨digits, hcs, -⟩
  · have hdigit := hd.isDigit a List.mem_cons_self
    have hletter : ∀ c ∈ ['A', 'a'], c.isDigit = false := by simp
    rw [hletter a ha] at hdigit
    cases hdigit
  · rw [(List.cons.inj hcs).1] at ha
    exact absurd ha (by decide)

theorem read_of_isAll {text : String} (h : IsAll (trim text.toList)) : read text = .ok .all := by
  rw [read, if_pos (map_toLower_eq_iff.mpr h)]

theorem read_of_items_ok {text : String} (hall : ¬ IsAll (trim text.toList))
    (h : (items (trim text.toList)).mapM (readNat (wordLimit - 1)) = .ok indices) :
    read text = .ok (.list indices) := by
  simp only [read, mt map_toLower_eq_iff.mp hall, if_false, h]

theorem read_of_items_error {text : String} {cause : NumberError}
    (hall : ¬ IsAll (trim text.toList))
    (h : (items (trim text.toList)).mapM (readNat (wordLimit - 1)) = .error cause) :
    read text =
      .error (.invalidSetting "XLNX_ENABLE_DEVICES" (trimText text) cause.message) := by
  simp only [read, mt map_toLower_eq_iff.mp hall, if_false, h, trimText]

/-- Reading comes to what the text says, or to an error that shows all of it. -/
theorem read_cases (text : String) :
    (∃ s, read text = .ok s ∧ s.Denotes (trim text.toList)) ∨
      ∃ cause : NumberError, read text =
          .error (.invalidSetting "XLNX_ENABLE_DEVICES" (trimText text) cause.message) ∧
        ∀ s : Selection, ¬ s.Denotes (trim text.toList) := by
  by_cases hall : IsAll (trim text.toList)
  · exact Or.inl ⟨all, read_of_isAll hall, hall⟩
  · cases h : (items (trim text.toList)).mapM (readNat (wordLimit - 1)) with
    | ok indices =>
      exact Or.inl ⟨list indices, read_of_items_ok hall h, isList_iff_mapM.mpr h⟩
    | error cause =>
      refine Or.inr ⟨cause, read_of_items_error hall h, fun s hs => ?_⟩
      cases s with
      | all => exact hall hs
      | list indices =>
        rw [Denotes, isList_iff_mapM, h] at hs
        cases hs

theorem Denotes.unique {s t : Selection} (h : s.Denotes cs) (h' : t.Denotes cs) : s = t := by
  cases s with
  | all =>
    cases t with
    | all => rfl
    | list indices => exact absurd h (not_isAll_of_isList h')
  | list indices =>
    cases t with
    | all => exact absurd h' (not_isAll_of_isList h)
    | list indices' =>
      rw [Denotes, isList_iff_mapM] at h h'
      exact congrArg list (Except.ok.inj (h.symm.trans h'))

theorem read_eq_ok_iff {text : String} {s : Selection} :
    read text = .ok s ↔ s.Denotes (trim text.toList) := by
  rcases read_cases text with ⟨t, ht, hd⟩ | ⟨cause, he, hnone⟩
  · rw [ht, Except.ok.injEq]
    exact ⟨fun h => h ▸ hd, fun h => hd.unique h⟩
  · rw [he]
    exact ⟨nofun, fun h => absurd h (hnone s)⟩

theorem toList_text_list (indices : List Nat) :
    (list indices).text.toList = [','].intercalate (indices.map (Nat.toDigits 10)) := by
  rw [text, String.toList_intercalate, List.map_map]
  refine congrArg _ (List.map_congr_left fun n _ => ?_)
  rw [Function.comp_apply, Nat.toString_eq_ofList_toDigits, String.toList_ofList]

theorem isBlank_of_mem_toDigits {n : Nat} {c : Char} (h : c ∈ Nat.toDigits 10 n) :
    isBlank c = false :=
  isBlank_of_isDigit ((decimal_toDigits n).isDigit c h)

theorem comma_notMem_toDigits (n : Nat) : ',' ∉ Nat.toDigits 10 n := fun h =>
  absurd ((decimal_toDigits n).isDigit ',' h) (by decide)

theorem trim_text (s : Selection) : trim s.text.toList = s.text.toList := by
  cases s with
  | all => rfl
  | list indices =>
    refine trim_eq_self fun c hm => ?_
    rw [toList_text_list] at hm
    rcases mem_of_mem_intercalate hm with rfl | ⟨digits, hdigits, hc⟩
    · rfl
    · obtain ⟨n, -, rfl⟩ := List.mem_map.mp hdigits
      exact isBlank_of_mem_toDigits hc

theorem items_toDigits (indices : List Nat) :
    items ([','].intercalate (indices.map (Nat.toDigits 10))) =
      indices.map (Nat.toDigits 10) := by
  by_cases hne : indices = []
  · subst hne
    rfl
  · have hcomma : ∀ part ∈ indices.map (Nat.toDigits 10), ',' ∉ part := by
      rintro part hm
      obtain ⟨n, -, rfl⟩ := List.mem_map.mp hm
      exact comma_notMem_toDigits n
    have htrim : (indices.map (Nat.toDigits 10)).map trim = indices.map (Nat.toDigits 10) := by
      rw [List.map_map]
      exact List.map_congr_left fun n _ => trim_eq_self fun _ => isBlank_of_mem_toDigits
    rw [items, pieces_intercalate (mt List.map_eq_nil_iff.mp hne) hcomma, htrim,
      List.filter_eq_self]
    intro part hm
    obtain ⟨n, -, rfl⟩ := List.mem_map.mp hm
    exact decide_eq_true Nat.toDigits_ne_nil

theorem Fits.denotes_text {s : Selection} (h : s.Fits) : s.Denotes s.text.toList := by
  cases s with
  | all => exact ⟨'A', by simp, 'L', by simp, 'L', by simp, rfl⟩
  | list indices =>
    rw [Denotes, isList_iff, toList_text_list, items_toDigits, List.forall₂_map_left_iff,
      List.forall₂_same]
    intro n hm
    have hlt : n < wordLimit := h n hm
    exact ⟨Or.inl (decimal_toDigits n), by omega⟩

/-- A selection is read back from what it is written as. A text is read just where it says,
without the white space around it, `ALL` or a list of numbers, it is read as what it says, and
where it says neither the error shows all of it. -/
theorem read_what_is_said :
    (∀ s : Selection, s.Fits → read s.text = .ok s) ∧
    ∀ text : String,
      (∀ s : Selection, read text = .ok s ↔ s.Denotes (trim text.toList)) ∧
      ((∀ s : Selection, ¬ s.Denotes (trim text.toList)) → ∃ cause : NumberError,
        read text =
          .error (.invalidSetting "XLNX_ENABLE_DEVICES" (trimText text) cause.message)) := by
  refine ⟨fun s hs => ?_, fun text => ⟨fun s => read_eq_ok_iff, fun hnone => ?_⟩⟩
  · rw [read_eq_ok_iff, trim_text]
    exact hs.denotes_text
  · rcases read_cases text with ⟨s, -, hs⟩ | ⟨cause, he, -⟩
    · exact absurd hs (hnone s)
    · exact ⟨cause, he⟩

/-- The greatest index, signs, zeros in front, blank items and a repeated one; then a text that
has a letter in it, which no selection is. -/
theorem read_what_is_said_mixed :
    read (list [wordLimit - 1, 0]).text = .ok (list [wordLimit - 1, 0]) ∧
      (list [3, 7, 3]).Denotes "3,, +007 ,3,".toList ∧
      read "\t3,, +007 ,3,\n" = .ok (list [3, 7, 3]) ∧
      (∀ s : Selection, ¬ s.Denotes (trim " 0,x ".toList)) ∧
      ∃ cause : NumberError,
        read " 0,x " = .error (.invalidSetting "XLNX_ENABLE_DEVICES" "0,x" cause.message) := by
  obtain ⟨hwritten, hread⟩ := read_what_is_said
  have hfits : (list [wordLimit - 1, 0]).Fits := by decide
  have hlist : read "\t3,, +007 ,3,\n" = .ok (list [3, 7, 3]) := by decide +kernel
  have hdenotes := ((hread "\t3,, +007 ,3,\n").1 (list [3, 7, 3])).mp hlist
  have hnone : ∀ s : Selection, ¬ s.Denotes (trim " 0,x ".toList) := fun s hs => by
    have hok := ((hread " 0,x ").1 s).mpr hs
    have hletter : read " 0,x " = .error (.invalidSetting "XLNX_ENABLE_DEVICES" "0,x"
        NumberError.invalidDigit.message) := by decide +kernel
    rw [hletter] at hok
    cases hok
  exact ⟨hwritten _ hfits, hdenotes, hlist, hnone, (hread " 0,x ").2 hnone⟩

end Selection

end Accelerator
