import Accelerator.Proofs.Settings.Selection
import Accelerator.Proofs.Table
import Accelerator.Settings.Variables

/-! What variables may say. A text that is not blank has to be a value of its setting, and that of a
fingerprint has to be a number in any case. An error is about one that is not. -/

namespace Accelerator

namespace Variables

/-- One of the words for on and off, or a whole number of 64 bits, which is off at zero. -/
def IsFlag (on : Bool) (cs : List Char) : Prop :=
  (on = true ∧ String.ofList cs ∈ ["on", "ON", "true", "TRUE", "yes", "YES"]) ∨
  (on = false ∧ String.ofList cs ∈ ["off", "OFF", "false", "FALSE", "no", "NO"]) ∨
    ∃ i, IntNumeral 0x7fffffffffffffff i cs ∧ on = decide (i ≠ 0)

/-- Any text, which is kept as it is. -/
def IsText (kept : Option String) (cs : List Char) : Prop :=
  kept = some (String.ofList cs)

/-- A number of 64 bits. -/
def IsFingerprint (cs : List Char) (f : UInt64) : Prop :=
  Numeral (wordLimit - 1) f.toNat cs

def Readable {α : Type} (Reads : α → List Char → Prop) (cs : List Char) : Prop :=
  ∃ a, Reads a cs

/-- The variables that are read, apart from fingerprints, and what their texts may be. -/
def grammars : List (String × (List Char → Prop)) :=
  [("XLNX_VART_FIRMWARE", Readable IsText),
    ("XLNX_DPU_TYPE", Readable IsText),
    ("XLNX_ENABLE_DEVICES", Readable Selection.Denotes),
    ("XLNX_DISABLE_LOAD_XCLBIN", Readable IsFlag),
    ("XLNX_XRT_CU_DRY_RUN", Readable IsFlag),
    ("DISABLE_DPU_CONTROLLER_XRT", Readable IsFlag),
    ("DRAM_ADDRESS_MAPPING", Readable IsFlag),
    ("DRAM_NUM_OF_BANK", Readable (Numeral (wordLimit - 1))),
    ("DRAM_BANK_RANGE", Readable (Numeral (wordLimit - 1))),
    ("XLNX_DPU_TIMEOUT", Readable (Numeral (wordLimit - 1))),
    ("DEBUG_XRT_DEVICE_HANDLE", Readable (Numeral 255)),
    ("DEBUG_BUFFER_OBJECT", Readable (Numeral 255)),
    ("DEBUG_XRT_CU", Readable (Numeral 255)),
    ("DEBUG_DPU_CONTROLLER", Readable (Numeral 255))]

/-- The variables that make a difference. -/
def IsRead (key : String) : Prop :=
  key ∈ grammars.map (·.1) ∨ ∃ unit, key = unit ++ ".fingerprint"

/-- What the text of `key` may be, without the white space around it. -/
structure Accepted (key : String) (cs : List Char) : Prop where
  fingerprint : ∀ unit, key = unit ++ ".fingerprint" → Readable (Numeral (wordLimit - 1)) cs
  setting : cs ≠ [] → ∀ Grammar, (key, Grammar) ∈ grammars → Grammar cs

/-- How an error shows a value: that of a fingerprint as it was given. -/
def shown (key value : String) : String :=
  if (fingerprintOf? key).isSome then value else trimText value

/-- An error about a value that its variable may not have. -/
def Blames (vars : Variables) (e : DeviceError) : Prop :=
  ∃ (key value : String) (cause : NumberError), vars.get? key = some value ∧
    ¬ Accepted key (trim value.toList) ∧
    e = .invalidSetting key (shown key value) cause.message

/-- What a variable says. -/
def text? (vars : Variables) (key : String) : Option (List Char) :=
  (vars.get? key).map fun value => trim value.toList

/-- A setting has the usual value unless there is a text that says another. -/
inductive Sets {α : Type} (Reads : α → List Char → Prop) (usual : α) :
    Option (List Char) → α → Prop
  | missing : Sets Reads usual none usual
  | blank : Sets Reads usual (some []) usual
  | said {cs : List Char} {a : α} (hne : cs ≠ []) (h : Reads a cs) :
      Sets Reads usual (some cs) a

variable {α : Type} {Reads : α → List Char → Prop} {read : List Char → Except NumberError α}
  {vars : Variables} {key value unit : String} {cs : List Char} {usual a : α} {e : DeviceError}

theorem Sets.readable (h : Sets Reads usual (some cs) a) (hne : cs ≠ []) : Readable Reads cs := by
  cases h with
  | blank => exact absurd rfl hne
  | said _ h => exact ⟨a, h⟩

theorem Sets.unique {b : α} {text text' : Option (List Char)}
    (h : Sets Reads usual text a) (h' : Sets Reads usual text' b) (htext : text = text')
    (hunique : ∀ {cs a b}, Reads a cs → Reads b cs → a = b) : a = b := by
  subst htext
  cases h with
  | missing =>
    cases h'
    rfl
  | blank =>
    cases h' with
    | blank => rfl
    | said hne _ => exact absurd rfl hne
  | said hne h =>
    cases h' with
    | blank => exact absurd rfl hne
    | said _ h' => exact hunique h h'

theorem readFlag_eq_ok_iff {on : Bool} : readFlag cs = .ok on ↔ IsFlag on cs := by
  have hon : ∀ w ∈ ["on", "ON", "true", "TRUE", "yes", "YES"],
      w ∉ ["off", "OFF", "false", "FALSE", "no", "NO"] ∧
        readInt 0x7fffffffffffffff w.toList = .error .invalidDigit := by decide
  have hoff : ∀ w ∈ ["off", "OFF", "false", "FALSE", "no", "NO"],
      readInt 0x7fffffffffffffff w.toList = .error .invalidDigit := by decide
  unfold readFlag IsFlag
  simp only [List.contains_iff_mem, ← readInt_eq_ok_iff]
  by_cases h : String.ofList cs ∈ ["on", "ON", "true", "TRUE", "yes", "YES"]
  · obtain ⟨hnot, hint⟩ := hon _ h
    rw [String.toList_ofList] at hint
    simp only [h, hnot, hint, if_true, and_true, and_false, Except.ok.injEq, reduceCtorEq,
      false_and, exists_false, or_false]
    exact eq_comm
  · rw [if_neg h]
    by_cases h' : String.ofList cs ∈ ["off", "OFF", "false", "FALSE", "no", "NO"]
    · have hint := hoff _ h'
      rw [String.toList_ofList] at hint
      simp only [h, h', hint, if_true, and_true, and_false, Except.ok.injEq, reduceCtorEq,
        false_and, exists_false, or_false, false_or]
      exact eq_comm
    · simp only [h, h', if_false, and_false, false_or, map_eq_ok_iff]
      exact exists_congr fun i => and_congr_right fun _ => eq_comm

theorem IsFlag.unique {on on' : Bool} (h : IsFlag on cs) (h' : IsFlag on' cs) : on = on' :=
  Except.ok.inj ((readFlag_eq_ok_iff.mpr h).symm.trans (readFlag_eq_ok_iff.mpr h'))

theorem IsText.unique {kept kept' : Option String} (h : IsText kept cs) (h' : IsText kept' cs) :
    kept = kept' :=
  h.trans h'.symm

theorem value?_eq_some_iff :
    vars.value? key = some value ↔
      ∃ given, vars.get? key = some given ∧ trimText given = value ∧ value ≠ "" := by
  simp only [value?, Option.filter_eq_some_iff, Option.map_eq_some_iff, decide_eq_true_eq,
    ← exists_and_right, and_assoc]

theorem text?_of_value?_eq_some (h : vars.value? key = some value) :
    vars.text? key = some value.toList ∧ value.toList ≠ [] := by
  obtain ⟨given, hgiven, rfl, hne⟩ := value?_eq_some_iff.mp h
  rw [text?, hgiven, Option.map_some, toList_trimText]
  refine ⟨rfl, fun hnil => hne ?_⟩
  rw [trimText, hnil]

theorem text?_of_value?_eq_none (h : vars.value? key = none) :
    vars.text? key = none ∨ vars.text? key = some [] := by
  cases hgiven : vars.get? key with
  | none => exact Or.inl (by rw [text?, hgiven, Option.map_none])
  | some given =>
    right
    rw [text?, hgiven, Option.map_some]
    by_contra hne
    have hvalue : vars.value? key = some (trimText given) := by
      refine value?_eq_some_iff.mpr ⟨given, hgiven, rfl, fun hempty => hne ?_⟩
      rw [← toList_trimText, hempty]
      rfl
    rw [h] at hvalue
    cases hvalue

theorem sets_usual (h : vars.value? key = none) : Sets Reads usual (vars.text? key) usual := by
  rcases text?_of_value?_eq_none h with ht | ht <;> rw [ht]
  · exact .missing
  · exact .blank

theorem sets_said (h : vars.value? key = some value) (ha : Reads a value.toList) :
    Sets Reads usual (vars.text? key) a := by
  obtain ⟨ht, hne⟩ := text?_of_value?_eq_some h
  rw [ht]
  exact .said hne ha

/-- The value of a checked variable is shown as it was read. -/
theorem blames_of_value? {Grammar : List Char → Prop} {cause : NumberError}
    (hkey : (key, Grammar) ∈ grammars) (h : vars.value? key = some value)
    (hnot : ¬ Grammar value.toList) :
    vars.Blames (.invalidSetting key value cause.message) := by
  have hplain : ∀ key ∈ grammars.map (·.1), fingerprintOf? key = none := by decide
  obtain ⟨given, hgiven, rfl, -⟩ := value?_eq_some_iff.mp h
  obtain ⟨-, hne⟩ := text?_of_value?_eq_some h
  rw [toList_trimText] at hnot hne
  refine ⟨key, given, cause, hgiven, fun haccepted => ?_, ?_⟩
  · exact hnot (haccepted.setting hne _ hkey)
  · rw [shown, hplain key (List.mem_map_of_mem hkey)]
    rfl

theorem sets_of_valueOr (hread : ∀ {cs a}, read cs = .ok a ↔ Reads a cs)
    (h : vars.valueOr read key usual = .ok a) : Sets Reads usual (vars.text? key) a := by
  unfold valueOr at h
  split at h
  · next hvalue =>
    cases h
    exact sets_usual hvalue
  · next value hvalue =>
    unfold readSetting at h
    split at h
    · next ha =>
      cases h
      exact sets_said hvalue (hread.mp ha)
    · cases h

theorem blames_of_valueOr (hread : ∀ {cs a}, read cs = .ok a ↔ Reads a cs)
    (hkey : (key, Readable Reads) ∈ grammars)
    (h : vars.valueOr read key usual = .error e) : vars.Blames e := by
  unfold valueOr at h
  split at h
  · cases h
  · next value hvalue =>
    unfold readSetting at h
    split at h
    · cases h
    · next cause hcause =>
      cases h
      refine blames_of_value? hkey hvalue ?_
      rintro ⟨a, ha⟩
      rw [hread.mpr ha] at hcause
      cases hcause

theorem sets_value? : Sets IsText none (vars.text? key) (vars.value? key) := by
  cases h : vars.value? key with
  | none => exact sets_usual h
  | some value =>
    refine sets_said h ?_
    rw [IsText, String.ofList_toList]

theorem trim_toList_of_value? (h : vars.value? key = some value) :
    trim value.toList = value.toList := by
  obtain ⟨given, -, rfl, -⟩ := value?_eq_some_iff.mp h
  rw [toList_trimText, trim_trim]

theorem sets_of_selection {s : Selection} (h : vars.selection = .ok s) :
    Sets Selection.Denotes .all (vars.text? "XLNX_ENABLE_DEVICES") s := by
  unfold selection at h
  split at h
  · next hvalue =>
    cases h
    exact sets_usual hvalue
  · next value hvalue =>
    rw [Selection.read_eq_ok_iff, trim_toList_of_value? hvalue] at h
    exact sets_said hvalue h

theorem blames_of_selection (h : vars.selection = .error e) : vars.Blames e := by
  unfold selection at h
  split at h
  · cases h
  · next value hvalue =>
    have htrim := trim_toList_of_value? hvalue
    rcases Selection.read_cases value with ⟨s, hs, -⟩ | ⟨cause, he, hnone⟩
    · rw [hs] at h
      cases h
    · rw [he, trimText, htrim, String.ofList_toList] at h
      cases h
      have hkey : ("XLNX_ENABLE_DEVICES", Readable Selection.Denotes) ∈ grammars := by
        simp [grammars]
      refine blames_of_value? hkey hvalue ?_
      rintro ⟨s, hs⟩
      exact hnone s (by rwa [htrim])

theorem fingerprintOf?_eq_some_iff :
    fingerprintOf? key = some unit ↔ key = unit ++ ".fingerprint" := by
  have hkey : key = unit ++ ".fingerprint" ↔ unit.toList ++ ".fingerprint".toList = key.toList := by
    rw [eq_comm, ← String.toList_inj, String.toList_append]
  rw [hkey]
  unfold fingerprintOf?
  simp only [List.isSuffixOf_iff_suffix]
  split
  · next h =>
    obtain ⟨front, hfront⟩ := h
    rw [← hfront, List.length_append, Nat.add_sub_cancel, List.take_left, Option.some.injEq,
      List.append_cancel_right_eq, ← String.toList_inj, String.toList_ofList, eq_comm]
  · next h => exact ⟨nofun, fun hfront => absurd ⟨unit.toList, hfront⟩ h⟩

instance : DecidablePred IsRead := fun key =>
  decidable_of_iff (key ∈ grammars.map (·.1) ∨ (fingerprintOf? key).isSome = true) <| by
    simp only [IsRead, Option.isSome_iff_exists, fingerprintOf?_eq_some_iff]

theorem readFingerprint_eq_ok_iff {f : UInt64} :
    readFingerprint key value = .ok f ↔ IsFingerprint (trim value.toList) f := by
  rw [IsFingerprint, ← readNat_eq_ok_iff]
  unfold readFingerprint readWord
  cases h : readNat (wordLimit - 1) (trim value.toList) with
  | error cause => exact ⟨nofun, nofun⟩
  | ok n =>
    have hle : n ≤ wordLimit - 1 := (readNat_eq_ok_iff.mp h).le_limit
    have hlt : n < 2 ^ 64 := Nat.lt_of_le_of_lt hle (by decide)
    have hn : (UInt64.ofNat n).toNat = n := UInt64.toNat_ofNat_of_lt' hlt
    rw [Except.ok.injEq, Except.ok.injEq, ← UInt64.toNat_inj, hn]

theorem readFingerprint_error (h : readFingerprint key value = .error e) :
    (∀ n, ¬ Numeral (wordLimit - 1) n (trim value.toList)) ∧
      ∃ cause : NumberError, e = .invalidSetting key value cause.message := by
  unfold readFingerprint readWord at h
  split at h
  · cases h
  · next cause hcause =>
    cases h
    refine ⟨fun n hn => ?_, cause, rfl⟩
    rw [readNat_eq_ok_iff.mpr hn] at hcause
    cases hcause

theorem text?_cons_of_ne (h : fingerprintOf? key ≠ some unit) :
    text? ((key, value) :: vars) (unit ++ ".fingerprint") =
      text? vars (unit ++ ".fingerprint") := by
  rw [ne_eq, fingerprintOf?_eq_some_iff] at h
  simp only [text?, Table.get?, if_neg h]

/-- A unit has the number that its own variable says. -/
theorem get?_of_fingerprints {fs : Table String UInt64} (h : fingerprints vars = .ok fs)
    (unit : String) :
    Option.Rel IsFingerprint (vars.text? (unit ++ ".fingerprint")) (fs.get? unit) := by
  induction vars generalizing fs with
  | nil =>
    cases h
    exact .none
  | cons entry vars ih =>
    obtain ⟨key, value⟩ := entry
    unfold fingerprints at h
    cases hunit : fingerprintOf? key with
    | none =>
      rw [hunit] at h
      have hne : fingerprintOf? key ≠ some unit := by
        rw [hunit]
        exact nofun
      rw [text?_cons_of_ne hne]
      exact ih h
    | some unit' =>
      rw [hunit] at h
      obtain ⟨f, hf, h⟩ := ok_of_bind h
      obtain ⟨fs, hfs, h⟩ := ok_of_bind h
      cases h
      have hkey := fingerprintOf?_eq_some_iff.mp hunit
      by_cases hsame : unit' = unit
      · subst hsame
        simp only [text?, Table.get?, hkey, if_true, Option.map_some]
        exact .some (readFingerprint_eq_ok_iff.mp hf)
      · have hne : fingerprintOf? key ≠ some unit := by
          rw [hunit, ne_eq, Option.some.injEq]
          exact hsame
        rw [text?_cons_of_ne hne, Table.get?, if_neg hsame]
        exact ih hfs

theorem keys_of_fingerprints {fs : Table String UInt64} (h : fingerprints vars = .ok fs) :
    fs.keys = vars.keys.filterMap fingerprintOf? := by
  induction vars generalizing fs with
  | nil =>
    cases h
    rfl
  | cons entry vars ih =>
    obtain ⟨key, value⟩ := entry
    unfold fingerprints at h
    cases hunit : fingerprintOf? key with
    | none =>
      rw [hunit] at h
      rw [ih h, Table.keys, Table.keys, List.map_cons, List.filterMap_cons_none hunit]
    | some unit =>
      rw [hunit] at h
      obtain ⟨f, -, h⟩ := ok_of_bind h
      obtain ⟨fs, hfs, h⟩ := ok_of_bind h
      cases h
      have hrest := ih hfs
      rw [Table.keys, Table.keys] at hrest ⊢
      rw [List.map_cons, List.map_cons, List.filterMap_cons_some hunit, hrest]

theorem nodup_keys_of_fingerprints {fs : Table String UInt64} (hn : vars.keys.Nodup)
    (h : fingerprints vars = .ok fs) : fs.keys.Nodup := by
  rw [keys_of_fingerprints h]
  refine hn.filterMap fun key key' unit hkey hkey' => ?_
  rw [fingerprintOf?_eq_some_iff.mp hkey, fingerprintOf?_eq_some_iff.mp hkey']

theorem mem_of_fingerprints_error (h : fingerprints vars = .error e) :
    ∃ key value unit, (key, value) ∈ vars ∧ fingerprintOf? key = some unit ∧
      readFingerprint key value = .error e := by
  induction vars with
  | nil => cases h
  | cons entry vars ih =>
    obtain ⟨key, value⟩ := entry
    have hrest (h : fingerprints vars = .error e) :
        ∃ key' value' unit, (key', value') ∈ (key, value) :: vars ∧
          fingerprintOf? key' = some unit ∧ readFingerprint key' value' = .error e := by
      obtain ⟨key', value', unit, hm, hunit, he⟩ := ih h
      exact ⟨key', value', unit, List.mem_cons_of_mem _ hm, hunit, he⟩
    unfold fingerprints at h
    cases hunit : fingerprintOf? key with
    | none =>
      rw [hunit] at h
      exact hrest h
    | some unit =>
      rw [hunit] at h
      rcases error_of_bind h with he | ⟨f, -, h⟩
      · exact ⟨key, value, unit, List.mem_cons_self, hunit, he⟩
      · rcases error_of_bind h with h | ⟨fs, -, h⟩
        · exact hrest h
        · cases h

theorem blames_of_fingerprints (hn : vars.keys.Nodup) (h : fingerprints vars = .error e) :
    vars.Blames e := by
  obtain ⟨key, value, unit, hm, hunit, he⟩ := mem_of_fingerprints_error h
  obtain ⟨hnone, cause, rfl⟩ := readFingerprint_error he
  refine ⟨key, value, cause, (Table.get?_eq_some_iff hn).mpr hm, fun haccepted => ?_, ?_⟩
  · obtain ⟨n, hnumeral⟩ := haccepted.fingerprint unit (fingerprintOf?_eq_some_iff.mp hunit)
    exact hnone n hnumeral
  · rw [shown, hunit]
    rfl

end Variables

end Accelerator
