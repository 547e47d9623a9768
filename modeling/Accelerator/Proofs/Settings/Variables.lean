import Accelerator.Proofs.Settings.Grammar
import Mathlib.Logic.Relation

/-! What settings come of variables. Only the last value of each variable counts, and of it only
what it says; so settings stay the same under changes that keep this for the variables that are
read. -/

namespace Accelerator

open Variables (Sets IsFlag IsText IsFingerprint Blames Accepted IsRead shown grammars text?
  readFlag_eq_ok_iff sets_of_valueOr blames_of_valueOr)

/-- Striping as the texts have it. -/
structure Striping.Follows (texts : String → Option (List Char)) (s : Striping) : Prop where
  enabled : Sets IsFlag true (texts "DRAM_ADDRESS_MAPPING") s.enabled
  bankCount : Sets (Numeral (wordLimit - 1)) 8 (texts "DRAM_NUM_OF_BANK") s.bankCount
  bankRange : Sets (Numeral (wordLimit - 1)) 16384 (texts "DRAM_BANK_RANGE") s.bankRange

/-- Verbosity as the texts have it. -/
structure Verbosity.Follows (texts : String → Option (List Char)) (v : Verbosity) : Prop where
  devices : Sets (Numeral 255) 0 (texts "DEBUG_XRT_DEVICE_HANDLE") v.devices
  buffers : Sets (Numeral 255) 0 (texts "DEBUG_BUFFER_OBJECT") v.buffers
  units : Sets (Numeral 255) 0 (texts "DEBUG_XRT_CU") v.units
  controllers : Sets (Numeral 255) 0 (texts "DEBUG_DPU_CONTROLLER") v.controllers

namespace Settings

/-- Settings as the texts have them. No text says anything about the settings file, the usual
image, the pause between polls and the directory of locks. -/
structure Follows (texts : String → Option (List Char)) (lockDirectory : String)
    (s : Settings) : Prop where
  firmware : Sets IsText none (texts "XLNX_VART_FIRMWARE") s.firmware
  settingsFile : s.settingsFile = "/etc/vart.conf"
  defaultFirmware : s.defaultFirmware = "/usr/lib/dpu.xclbin"
  selection : Sets Selection.Denotes .all (texts "XLNX_ENABLE_DEVICES") s.selection
  skipImageLoad : Sets IsFlag false (texts "XLNX_DISABLE_LOAD_XCLBIN") s.skipImageLoad
  kernelOverride : Sets IsText none (texts "XLNX_DPU_TYPE") s.kernelOverride
  fingerprints : ∀ unit,
    Option.Rel IsFingerprint (texts (unit ++ ".fingerprint")) (s.fingerprints.get? unit)
  nodup_fingerprints : s.fingerprints.keys.Nodup
  dryRun : Sets IsFlag false (texts "XLNX_XRT_CU_DRY_RUN") s.dryRun
  timeout : Sets (Numeral (wordLimit - 1)) 10000 (texts "XLNX_DPU_TIMEOUT") s.timeout
  pollInterval : s.pollInterval = 1000
  verbosity : s.verbosity.Follows texts
  striping : s.striping.Follows texts
  controllersDisabled :
    Sets IsFlag false (texts "DISABLE_DPU_CONTROLLER_XRT") s.controllersDisabled
  lockDirectory : s.lockDirectory = lockDirectory

/-- The same settings, with the fingerprints in any order. -/
def Same (s t : Settings) : Prop :=
  { s with fingerprints := t.fingerprints } = t ∧ s.fingerprints.agrees t.fingerprints = true

instance : DecidableRel Same := fun s t =>
  inferInstanceAs (Decidable ({ s with fingerprints := t.fingerprints } = t ∧
    s.fingerprints.agrees t.fingerprints = true))

/-- The value that a variable is given last. -/
def lastValue? (assignments : List (String × String)) (key : String) : Option String :=
  (assignments.reverse.find? fun a => a.1 = key).map (·.2)

/-- What a variable says in the end. -/
def said? (assignments : List (String × String)) (key : String) : Option (List Char) :=
  (lastValue? assignments key).map fun value => trim value.toList

/-- What may be done to variables: others are added that are not read, white space is added around
a value, and they are put in another order where each keeps its last value. -/
inductive Change : List (String × String) → List (String × String) → Prop
  | unread (before after : List (String × String)) {key : String} (value : String)
      (h : ¬ IsRead key) : Change (before ++ after) (before ++ (key, value) :: after)
  | spaced (before after : List (String × String)) (key value : String) {w w' : List Char}
      (hw : AllBlank w) (hw' : AllBlank w') :
      Change (before ++ (key, value) :: after)
        (before ++ (key, String.ofList (w ++ value.toList ++ w')) :: after)
  | reordered {given given' : List (String × String)} (hperm : given.Perm given')
      (hlast : ∀ key, lastValue? given key = lastValue? given' key) : Change given given'

variable {texts texts' : String → Option (List Char)} {vars : Variables}
  {assignments given given' : List (String × String)} {lockDirectory : String} {s t : Settings}
  {e : DeviceError}

theorem follows_of_striping {striping : Striping} (h : vars.striping = .ok striping) :
    striping.Follows vars.text? := by
  obtain ⟨enabled, henabled, h⟩ := ok_of_bind h
  obtain ⟨bankCount, hcount, h⟩ := ok_of_bind h
  obtain ⟨bankRange, hrange, h⟩ := ok_of_bind h
  cases h
  exact ⟨sets_of_valueOr readFlag_eq_ok_iff henabled,
    sets_of_valueOr readNat_eq_ok_iff hcount,
    sets_of_valueOr readNat_eq_ok_iff hrange⟩

theorem follows_of_verbosity {verbosity : Verbosity} (h : vars.verbosity = .ok verbosity) :
    verbosity.Follows vars.text? := by
  obtain ⟨devices, hdevices, h⟩ := ok_of_bind h
  obtain ⟨buffers, hbuffers, h⟩ := ok_of_bind h
  obtain ⟨units, hunits, h⟩ := ok_of_bind h
  obtain ⟨controllers, hcontrollers, h⟩ := ok_of_bind h
  cases h
  exact ⟨sets_of_valueOr readNat_eq_ok_iff hdevices,
    sets_of_valueOr readNat_eq_ok_iff hbuffers,
    sets_of_valueOr readNat_eq_ok_iff hunits,
    sets_of_valueOr readNat_eq_ok_iff hcontrollers⟩

theorem follows_of_ofVariables (h : ofVariables assignments lockDirectory = .ok s) :
    s.Follows (Variables.text? (Table.ofPairs assignments)) lockDirectory := by
  obtain ⟨fingerprints, hfingerprints, h⟩ := ok_of_bind h
  obtain ⟨striping, hstriping, h⟩ := ok_of_bind h
  obtain ⟨verbosity, hverbosity, h⟩ := ok_of_bind h
  obtain ⟨selection, hselection, h⟩ := ok_of_bind h
  obtain ⟨skipImageLoad, hskip, h⟩ := ok_of_bind h
  obtain ⟨dryRun, hdry, h⟩ := ok_of_bind h
  obtain ⟨timeout, htimeout, h⟩ := ok_of_bind h
  obtain ⟨controllersDisabled, hdisabled, h⟩ := ok_of_bind h
  cases h
  exact
    { firmware := Variables.sets_value?
      settingsFile := rfl
      defaultFirmware := rfl
      selection := Variables.sets_of_selection hselection
      skipImageLoad := sets_of_valueOr readFlag_eq_ok_iff hskip
      kernelOverride := Variables.sets_value?
      fingerprints := Variables.get?_of_fingerprints hfingerprints
      nodup_fingerprints := Variables.nodup_keys_of_fingerprints
        (Table.nodup_keys_ofPairs assignments) hfingerprints
      dryRun := sets_of_valueOr readFlag_eq_ok_iff hdry
      timeout := sets_of_valueOr readNat_eq_ok_iff htimeout
      pollInterval := rfl
      verbosity := follows_of_verbosity hverbosity
      striping := follows_of_striping hstriping
      controllersDisabled := sets_of_valueOr readFlag_eq_ok_iff hdisabled
      lockDirectory := rfl }

theorem blames_of_striping (h : vars.striping = .error e) : vars.Blames e := by
  rcases error_of_bind h with h | ⟨_, -, h⟩
  · exact blames_of_valueOr readFlag_eq_ok_iff (by simp [grammars]) h
  rcases error_of_bind h with h | ⟨_, -, h⟩
  · exact blames_of_valueOr readNat_eq_ok_iff (by simp [grammars]) h
  rcases error_of_bind h with h | ⟨_, -, h⟩
  · exact blames_of_valueOr readNat_eq_ok_iff (by simp [grammars]) h
  cases h

theorem blames_of_verbosity (h : vars.verbosity = .error e) : vars.Blames e := by
  rcases error_of_bind h with h | ⟨_, -, h⟩
  · exact blames_of_valueOr readNat_eq_ok_iff (by simp [grammars]) h
  rcases error_of_bind h with h | ⟨_, -, h⟩
  · exact blames_of_valueOr readNat_eq_ok_iff (by simp [grammars]) h
  rcases error_of_bind h with h | ⟨_, -, h⟩
  · exact blames_of_valueOr readNat_eq_ok_iff (by simp [grammars]) h
  rcases error_of_bind h with h | ⟨_, -, h⟩
  · exact blames_of_valueOr readNat_eq_ok_iff (by simp [grammars]) h
  cases h

theorem blames_of_ofVariables (h : ofVariables assignments lockDirectory = .error e) :
    Blames (Table.ofPairs assignments) e := by
  rcases error_of_bind h with h | ⟨_, -, h⟩
  · exact Variables.blames_of_fingerprints (Table.nodup_keys_ofPairs assignments) h
  rcases error_of_bind h with h | ⟨_, -, h⟩
  · exact blames_of_striping h
  rcases error_of_bind h with h | ⟨_, -, h⟩
  · exact blames_of_verbosity h
  rcases error_of_bind h with h | ⟨_, -, h⟩
  · exact Variables.blames_of_selection h
  rcases error_of_bind h with h | ⟨_, -, h⟩
  · exact blames_of_valueOr readFlag_eq_ok_iff (by simp [grammars]) h
  rcases error_of_bind h with h | ⟨_, -, h⟩
  · exact blames_of_valueOr readFlag_eq_ok_iff (by simp [grammars]) h
  rcases error_of_bind h with h | ⟨_, -, h⟩
  · exact blames_of_valueOr readNat_eq_ok_iff (by simp [grammars]) h
  rcases error_of_bind h with h | ⟨_, -, h⟩
  · exact blames_of_valueOr readFlag_eq_ok_iff (by simp [grammars]) h
  cases h

/-- Texts that settings can follow are accepted. -/
theorem Follows.accepted (h : s.Follows texts lockDirectory) {key : String} {cs : List Char}
    (htext : texts key = some cs) : Accepted key cs := by
  constructor
  · rintro unit rfl
    have hunit := h.fingerprints unit
    generalize s.fingerprints.get? unit = f at hunit
    rw [htext] at hunit
    cases hunit with
    | some hn => exact ⟨_, hn⟩
  · intro hne Grammar hkey
    have hreadable {α : Type} {Reads : α → List Char → Prop} {usual a : α}
        (h : Sets Reads usual (texts key) a) : Variables.Readable Reads cs :=
      Sets.readable (htext ▸ h) hne
    simp only [grammars, List.mem_cons, List.not_mem_nil, or_false, Prod.mk.injEq] at hkey
    -- one case for each variable, in the order of the grammars
    rcases hkey with ⟨rfl, rfl⟩ | ⟨rfl, rfl⟩ | ⟨rfl, rfl⟩ | ⟨rfl, rfl⟩ | ⟨rfl, rfl⟩ | ⟨rfl, rfl⟩ |
      ⟨rfl, rfl⟩ | ⟨rfl, rfl⟩ | ⟨rfl, rfl⟩ | ⟨rfl, rfl⟩ | ⟨rfl, rfl⟩ | ⟨rfl, rfl⟩ | ⟨rfl, rfl⟩ |
      ⟨rfl, rfl⟩
    · exact hreadable h.firmware
    · exact hreadable h.kernelOverride
    · exact hreadable h.selection
    · exact hreadable h.skipImageLoad
    · exact hreadable h.dryRun
    · exact hreadable h.controllersDisabled
    · exact hreadable h.striping.enabled
    · exact hreadable h.striping.bankCount
    · exact hreadable h.striping.bankRange
    · exact hreadable h.timeout
    · exact hreadable h.verbosity.devices
    · exact hreadable h.verbosity.buffers
    · exact hreadable h.verbosity.units
    · exact hreadable h.verbosity.controllers

theorem striping_unique {striping striping' : Striping}
    (htexts : ∀ key ∈ grammars.map (·.1), texts key = texts' key)
    (h : striping.Follows texts) (h' : striping'.Follows texts') : striping = striping' := by
  obtain ⟨enabled, bankCount, bankRange⟩ := striping
  rw [Striping.mk.injEq]
  exact ⟨h.enabled.unique h'.enabled (htexts _ (by decide)) IsFlag.unique,
    h.bankCount.unique h'.bankCount (htexts _ (by decide)) Numeral.unique,
    h.bankRange.unique h'.bankRange (htexts _ (by decide)) Numeral.unique⟩

theorem verbosity_unique {verbosity verbosity' : Verbosity}
    (htexts : ∀ key ∈ grammars.map (·.1), texts key = texts' key)
    (h : verbosity.Follows texts) (h' : verbosity'.Follows texts') : verbosity = verbosity' := by
  obtain ⟨devices, buffers, units, controllers⟩ := verbosity
  rw [Verbosity.mk.injEq]
  exact ⟨h.devices.unique h'.devices (htexts _ (by decide)) Numeral.unique,
    h.buffers.unique h'.buffers (htexts _ (by decide)) Numeral.unique,
    h.units.unique h'.units (htexts _ (by decide)) Numeral.unique,
    h.controllers.unique h'.controllers (htexts _ (by decide)) Numeral.unique⟩

theorem get?_fingerprints_unique {f f' : Option UInt64} {text : Option (List Char)}
    (h : Option.Rel IsFingerprint text f) (h' : Option.Rel IsFingerprint text f') : f = f' := by
  cases h with
  | none =>
    cases h'
    rfl
  | some hn =>
    cases h' with
    | some hn' => rw [UInt64.toNat_inj.mp (Numeral.unique hn hn')]

/-- Settings that follow the same texts are the same. Variables that are not read may say
anything. -/
theorem Follows.same (hs : s.Follows texts lockDirectory) (ht : t.Follows texts' lockDirectory)
    (htexts : ∀ key, IsRead key → texts key = texts' key) : s.Same t := by
  have hnames : ∀ key ∈ grammars.map (·.1), texts key = texts' key :=
    fun key hkey => htexts key (Or.inl hkey)
  constructor
  · rw [Settings.mk.injEq]
    exact ⟨hs.firmware.unique ht.firmware (hnames _ (by decide)) IsText.unique,
      hs.settingsFile.trans ht.settingsFile.symm,
      hs.defaultFirmware.trans ht.defaultFirmware.symm,
      hs.selection.unique ht.selection (hnames _ (by decide)) Selection.Denotes.unique,
      hs.skipImageLoad.unique ht.skipImageLoad (hnames _ (by decide)) IsFlag.unique,
      hs.kernelOverride.unique ht.kernelOverride (hnames _ (by decide)) IsText.unique,
      rfl,
      hs.dryRun.unique ht.dryRun (hnames _ (by decide)) IsFlag.unique,
      hs.timeout.unique ht.timeout (hnames _ (by decide)) Numeral.unique,
      hs.pollInterval.trans ht.pollInterval.symm,
      verbosity_unique hnames hs.verbosity ht.verbosity,
      striping_unique hnames hs.striping ht.striping,
      hs.controllersDisabled.unique ht.controllersDisabled (hnames _ (by decide)) IsFlag.unique,
      hs.lockDirectory.trans ht.lockDirectory.symm⟩
  · rw [Table.agrees_iff_perm hs.nodup_fingerprints ht.nodup_fingerprints]
    refine Table.perm_of_get?_eq hs.nodup_fingerprints ht.nodup_fingerprints fun unit => ?_
    have hunit := hs.fingerprints unit
    rw [htexts _ (Or.inr ⟨unit, rfl⟩)] at hunit
    exact get?_fingerprints_unique hunit (ht.fingerprints unit)

theorem said?_of_lastValue? {key value : String} (h : lastValue? assignments key = some value) :
    said? assignments key = some (trim value.toList) := by
  rw [said?, h, Option.map_some]

theorem said?_eq (assignments : List (String × String)) :
    said? assignments = Variables.text? (Table.ofPairs assignments) := by
  funext key
  rw [said?, text?, Table.get?_ofPairs, lastValue?]

theorem said?_append (given given' : List (String × String)) (key : String) :
    said? (given ++ given') key = (said? given' key).or (said? given key) := by
  rw [said?_eq, text?, Table.get?_ofPairs_append, Option.map_or, said?_eq, said?_eq, text?, text?]

theorem said?_singleton (key value key' : String) :
    said? [(key, value)] key' = if key = key' then some (trim value.toList) else none := by
  by_cases h : key = key' <;> simp [said?, lastValue?, h]

theorem Change.said?_eq (h : Change given given') {key : String} (hkey : IsRead key) :
    said? given key = said? given' key := by
  cases h with
  | @unread before after key' value h =>
    have hne : ¬ key' = key := fun heq => h (heq ▸ hkey)
    rw [← List.singleton_append, said?_append, said?_append, said?_append, said?_singleton,
      if_neg hne, Option.or_none]
  | @spaced before after key' value w w' hw hw' =>
    have hvalue : trim (String.ofList (w ++ value.toList ++ w')).toList = trim value.toList := by
      rw [String.toList_ofList, trim_append hw hw']
    rw [← List.singleton_append, ← List.singleton_append (l := after)]
    simp only [said?_append, said?_singleton, hvalue]
  | reordered hperm hlast => rw [said?, said?, hlast key]

theorem said?_eq_of_eqvGen (h : Relation.EqvGen Change given given') {key : String}
    (hkey : IsRead key) : said? given key = said? given' key := by
  induction h with
  | rel _ _ h => exact h.said?_eq hkey
  | refl _ => rfl
  | symm _ _ _ ih => exact ih.symm
  | trans _ _ _ _ _ ih ih' => exact ih.trans ih'

theorem accepted_of_not_isRead {key : String} {cs : List Char} (h : ¬ IsRead key) :
    Accepted key cs where
  fingerprint unit hkey := absurd (Or.inr ⟨unit, hkey⟩) h
  setting _ _ hkey := absurd (Or.inl (List.mem_map_of_mem hkey)) h

theorem exists_ok_iff : (∃ s, ofVariables assignments lockDirectory = .ok s) ↔
    ∀ key value, lastValue? assignments key = some value → Accepted key (trim value.toList) := by
  constructor
  · rintro ⟨s, hs⟩ key value hvalue
    have hfollows := follows_of_ofVariables hs
    rw [← said?_eq] at hfollows
    exact hfollows.accepted (said?_of_lastValue? hvalue)
  · intro haccepted
    cases h : ofVariables assignments lockDirectory with
    | ok s => exact ⟨s, rfl⟩
    | error e =>
      obtain ⟨key, value, cause, hvalue, hnot, -⟩ := blames_of_ofVariables h
      rw [Table.get?_ofPairs] at hvalue
      exact absurd (haccepted key value hvalue) hnot

theorem exists_ok_of_eqvGen (h : Relation.EqvGen Change given given')
    (hok : ∃ s, ofVariables given lockDirectory = .ok s) :
    ∃ t, ofVariables given' lockDirectory = .ok t := by
  rw [exists_ok_iff] at hok ⊢
  intro key value hvalue
  by_cases hkey : IsRead key
  · have hsaid := (said?_eq_of_eqvGen h hkey).trans (said?_of_lastValue? hvalue)
    obtain ⟨value', hvalue', htrim⟩ := Option.map_eq_some_iff.mp hsaid
    exact htrim ▸ hok key value' hvalue'
  · exact accepted_of_not_isRead hkey

/-- Settings can be read just where the last value of each variable is accepted. They follow these
values, and an error shows one that is not accepted. Neither whether they can be read nor the
settings themselves depend on variables that are not read, on the white space around values, or on
the order of the variables where each keeps its last value. -/
theorem last_values_decide (assignments : List (String × String)) (lockDirectory : String) :
    ((∃ s, ofVariables assignments lockDirectory = .ok s) ↔
      ∀ key value, lastValue? assignments key = some value → Accepted key (trim value.toList)) ∧
    (∀ s, ofVariables assignments lockDirectory = .ok s →
      s.Follows (said? assignments) lockDirectory) ∧
    (∀ e, ofVariables assignments lockDirectory = .error e →
      ∃ (key value : String) (cause : NumberError), lastValue? assignments key = some value ∧
        ¬ Accepted key (trim value.toList) ∧
        e = .invalidSetting key (shown key value) cause.message) ∧
    ∀ others : List (String × String), Relation.EqvGen Change assignments others →
      ((∃ s, ofVariables assignments lockDirectory = .ok s) ↔
        ∃ t, ofVariables others lockDirectory = .ok t) ∧
      ∀ s t, ofVariables assignments lockDirectory = .ok s →
        ofVariables others lockDirectory = .ok t → s.Same t := by
  refine ⟨exists_ok_iff, fun s hs => ?_, fun e he => ?_,
    fun others hothers => ⟨⟨exists_ok_of_eqvGen hothers, ?_⟩, fun s t hs ht => ?_⟩⟩
  · rw [said?_eq]
    exact follows_of_ofVariables hs
  · obtain ⟨key, value, cause, hvalue, hblame⟩ := blames_of_ofVariables he
    rw [Table.get?_ofPairs] at hvalue
    exact ⟨key, value, cause, hvalue, hblame⟩
  · exact exists_ok_of_eqvGen (.symm _ _ hothers)
  · have hs := follows_of_ofVariables hs
    have ht := follows_of_ofVariables ht
    rw [← said?_eq] at hs ht
    exact hs.same ht fun key hkey => said?_eq_of_eqvGen hothers hkey

theorem Change.of_perm (hperm : given.Perm given')
    (htable : (Table.ofPairs given).Perm (Table.ofPairs given')) : Change given given' := by
  refine .reordered hperm fun key => ?_
  have hget := Table.get?_eq_of_perm htable (Table.nodup_keys_ofPairs given) key
  rwa [Table.get?_ofPairs, Table.get?_ofPairs] at hget

/-- A value that is given again, a blank one, signs and zeros in front, and a variable that is not
read; the same in another order; and a fingerprint that is blank. -/
theorem last_values_decide_repeated :
    let given := [("DRAM_NUM_OF_BANK", "x"), ("XLNX_DPU_TIMEOUT", " \t"), ("PATH", "x"),
      ("dpu.fingerprint", "+07"), ("DRAM_NUM_OF_BANK", "4\n"), ("DRAM_ADDRESS_MAPPING", "NO")]
    let others := [("DRAM_ADDRESS_MAPPING", "NO"), ("dpu.fingerprint", " +07 "),
      ("DRAM_NUM_OF_BANK", "x"), ("XLNX_DPU_TIMEOUT", " \t"), ("DRAM_NUM_OF_BANK", "4\n")]
    let s : Settings := {
      fingerprints := [("dpu", 7)]
      striping := { enabled := false, bankCount := 4 }
      lockDirectory := "/tmp" }
    ofVariables given "/tmp" = .ok s ∧ s.Follows (said? given) "/tmp" ∧
      Relation.EqvGen Change given others ∧
      (∃ t, ofVariables others "/tmp" = .ok t ∧ s.Same t) ∧
      ofVariables [("dpu.fingerprint", " ")] "/tmp" =
        .error (.invalidSetting "dpu.fingerprint" " " NumberError.empty.message) ∧
      ¬ Accepted "dpu.fingerprint" [] := by
  intro given others s
  have hs : ofVariables given "/tmp" = .ok s := by decide +kernel
  have hunread : Change (given.eraseIdx 2) given :=
    .unread (given.take 2) (given.drop 3) "x" (by decide)
  have hblank : AllBlank [' '] := by decide
  have hspaced : Change (given.eraseIdx 2)
      ((given.eraseIdx 2).set 2 ("dpu.fingerprint", " +07 ")) :=
    .spaced (given.take 2) (given.drop 4) "dpu.fingerprint" "+07" hblank hblank
  have hreordered : Change ((given.eraseIdx 2).set 2 ("dpu.fingerprint", " +07 ")) others :=
    .of_perm (by decide) (by decide)
  have hothers : Relation.EqvGen Change given others :=
    .trans _ _ _ (.symm _ _ (.rel _ _ hunread))
      (.trans _ _ _ (.rel _ _ hspaced) (.rel _ _ hreordered))
  have herror : ofVariables [("dpu.fingerprint", " ")] "/tmp" =
      .error (.invalidSetting "dpu.fingerprint" " " NumberError.empty.message) := by
    decide +kernel
  obtain ⟨-, hfollows, -, hchange⟩ := last_values_decide given "/tmp"
  obtain ⟨hok, hsame⟩ := hchange others hothers
  obtain ⟨t, ht⟩ := hok.mp ⟨s, hs⟩
  obtain ⟨-, -, hblame, -⟩ := last_values_decide [("dpu.fingerprint", " ")] "/tmp"
  obtain ⟨key, value, cause, hvalue, hnot, he⟩ := hblame _ herror
  obtain rfl : "dpu.fingerprint" = key := (DeviceError.invalidSetting.inj he).1
  obtain rfl : " " = value := Option.some.inj hvalue
  exact ⟨hs, hfollows s hs, hothers, ⟨t, ht, hsame s t hs ht⟩, herror, hnot⟩

end Settings

end Accelerator
