import Accelerator.Proofs.World.Registers

/-! The fingerprints of compute units. They are put together from two registers once, when the
units are found, and are not read again. -/

namespace Accelerator

open Accelerator.Action

theorem join_halves (n : UInt64) :
    (n >>> 32).toUInt32.toUInt64 <<< 32 ||| n.toUInt32.toUInt64 = n := by
  have hn : n.toNat < 2 ^ 64 := n.toNat_lt
  have hlow : n.toNat % 2 ^ 32 < 2 ^ 32 := Nat.mod_lt _ (by decide)
  have hhigh : n.toNat / 2 ^ 32 < 2 ^ 32 := by omega
  have hshift : (n.toNat / 2 ^ 32) <<< 32 < 2 ^ 64 := by
    rw [Nat.shiftLeft_eq]
    omega
  have hcount : 32 % 2 ^ 64 % 64 = 32 := by decide
  rw [← UInt64.toNat_inj]
  simp only [UInt64.toNat_or, UInt64.toNat_shiftLeft, UInt64.toNat_shiftRight,
    UInt32.toNat_toUInt64, UInt64.toNat_toUInt32, UInt64.toNat_ofNat, Nat.shiftRight_eq_div_pow,
    hcount]
  rw [Nat.mod_eq_of_lt hhigh, Nat.mod_eq_of_lt hshift, ← Nat.shiftLeft_add_eq_or_of_lt hlow,
    Nat.shiftLeft_eq, Nat.div_add_mod']

/-- Where both halves are as they are built the whole seed is read. -/
theorem Host.readFingerprint_eq {h h₀ : Host} {kernel : Kernel}
    (hr : ∀ offset : UInt32, offset = 0x1f0 ∨ offset = 0x1f4 →
      h.readRegister kernel offset = h₀.initialRegister kernel offset) :
    h.readFingerprint kernel = (h₀.fingerprints.get? kernel.name).getD 0 := by
  have hlow := hr fingerprintLow (Or.inl rfl)
  have hhigh := hr fingerprintHigh (Or.inr rfl)
  rw [readFingerprint, hlow, hhigh]
  exact join_halves _

namespace Opening

variable {o : Opening} {settings : Settings} {bound : BoundDevice} {r : Registry} {s t : Site}

/-- The fingerprint is given by the settings, or else is what is read then. -/
theorem bindUnit_fingerprint {name : String} {u : ComputeUnit}
    (hu : (bindUnit settings bound name).run s = (.ok u, t)) :
    u.fingerprint =
      (settings.fingerprints.get? u.fullName).getD (s.host.readFingerprint u.kernel) := by
  obtain ⟨_, _, hh, hu⟩ := bind_ok hu
  cases hh
  obtain ⟨kernel, v, hk, hu⟩ := bind_ok hu
  by_cases hv : 0 < settings.verbosity.devices <;> simp only [hv, if_true, if_false] at hu <;>
    cases hu <;> rfl

theorem finish_fingerprint (hf : o.finish.run s = (.ok r, t)) :
    ∀ e ∈ r.units, e.2.fingerprint =
      (r.settings.fingerprints.get? e.2.fullName).getD (t.host.readFingerprint e.2.kernel) := by
  obtain ⟨-, hsettings, -, -⟩ := finish_ok hf
  obtain ⟨hhost, hunits⟩ := finish_forall
    (P := fun h u => u.fingerprint =
      (o.settings.fingerprints.get? u.fullName).getD (h.readFingerprint u.kernel))
    (fun _ _ _ _ _ hu => ⟨(bindUnit_offers hu).1, bindUnit_fingerprint hu⟩) hf
  rwa [hsettings, hhost]

end Opening

namespace World

variable {v w w' : World} {deed : Deed} {id : Nat} {r : Registry}

/-- The units of a new registry have the fingerprints that are read on their kernels then, unless
the settings say what they are. -/
theorem Opens.fingerprint {n : Nat} {directory : Option String} (h : Opens n directory w w') (hnone : w.registries.get? id = none)
    (hr : w'.registries.get? id = some r) :
    ∀ e ∈ r.units, e.2.fingerprint =
      (r.settings.fingerprints.get? e.2.fullName).getD
        (w'.site.host.readFingerprint e.2.kernel) := by
  obtain ⟨-, hmade⟩ := h.keeps (k := 0) (P := fun _ _ => True) (fun _ _ _ _ _ => trivial)
    (fun _ _ _ _ _ _ => trivial) (fun _ _ _ _ _ _ _ => trivial) (fun _ _ _ _ => trivial)
  rcases hmade id r hr with hr | ⟨-, o, s, t, -, hf, ha, -⟩
  · cases hnone.symm.trans hr
  · intro e hm
    rw [Opening.finish_fingerprint hf e hm, Host.readFingerprint, Host.readFingerprint,
      ha.readRegister, ha.readRegister]

theorem perform_ask {α : Type} (w : World) (r : Registry) (about : ComputeUnit → α) (name : String)
    (index : Nat) : w.perform (r.ask about name index) = match (r.matching name)[index]? with
      | some c => (.ok (about c), w)
      | none => (.error (.error (.unitNotFound name index)), w.emit (.unitMissing name index)) := by
  rw [perform, r.run_ask_eq]
  rcases (r.matching name)[index]? with _ | c <;> rfl

theorem Serves.unit (h : Serves id r w) {did : Nat} {d : Dispatcher}
    (hd : w.dispatchers.get? did = some d) (hid : d.registry = id) {index : Nat} {c : ComputeUnit}
    (hc : (r.matching d.unitName)[index]? = some c) : d.unit index = .ok c := by
  rw [← h.dispatcher did d hd hid, List.getElem?_map] at hc
  obtain ⟨i, hi, rfl⟩ := Option.map_eq_some_iff.mp hc
  rw [Dispatcher.unit, hi]

/-- Whatever was done before, the fingerprint of a unit of plain name, on each device of a registry
that has loaded its image, is what the settings say it is, or else the whole seed, provided that
the registers that it is read from were not written between the loading and the reading. Whatever
is done later, the registry and its dispatchers answer with it. -/
theorem fingerprints_kept (site : Site) (hsite : site.host.registers = [])
    (before between later : List Deed) (deed : Deed) :
    let v := before.foldl act { site }
    let u := between.foldl act v
    let w := later.foldl act (u.act deed)
    ∀ id r, Loads v u deed id r →
      (∀ x ∈ v.writes between, ∀ e ∈ r.units, x.kernel = e.2.kernel →
        x.offset ≠ 0x1f0 ∧ x.offset ≠ 0x1f4) →
      let value := fun fullName => (r.settings.fingerprints.get? fullName).getD
        ((site.host.fingerprints.get? fullName).getD 0)
      (∀ e ∈ r.units, IsPlainName e.2.fullName → e.2.fingerprint = value e.2.fullName) ∧
      (∀ r', w.registries.get? id = some r' → ∀ name index c,
        (r.matching name)[index]? = some c → IsPlainName c.fullName →
          w.perform (r'.ask (·.fingerprint) name index) = (.ok (value c.fullName), w)) ∧
      ∀ did d, w.dispatchers.get? did = some d → d.registry = id → ∀ index c,
        (r.matching d.unitName)[index]? = some c → IsPlainName c.fullName →
          d.fingerprint index = .ok (value c.fullName) := by
  intro v u w id r hloads hother value
  have hv : v.Settled := (Settled.start hsite).acts before
  have hu : u.Settled := hv.acts between
  obtain ⟨⟨settings, n, hmade⟩, -⟩ := (hu.act deed).registry id r hloads.opened
  obtain ⟨hopens, hserves⟩ := Serves.start hu hloads.closed hloads.opened
  have hw : Serves id r w := hserves.acts later
  have hseeds : v.site.host.fingerprints = site.host.fingerprints :=
    fingerprints_acts { site } before
  have hvalue : ∀ e ∈ r.units, IsPlainName e.2.fullName →
      e.2.fingerprint = value e.2.fullName := by
    intro e hm hp
    have hread : ∀ offset : UInt32, offset = 0x1f0 ∨ offset = 0x1f4 →
        (u.act deed).site.host.readRegister e.2.kernel offset =
          v.site.host.initialRegister e.2.kernel offset := by
      intro offset ho
      refine hloads.readRegister hv hm fun x hx hk => ?_
      obtain ⟨hlow, hhigh⟩ := hother x hx e hm hk.1
      exact ho.elim (fun he => hlow (hk.2.trans he)) fun he => hhigh (hk.2.trans he)
    rw [hopens.fingerprint hloads.closed hloads.opened e hm, Host.readFingerprint_eq hread,
      hmade.kernel_name_of_plain hm hp, hseeds]
  have hmatching {name : String} {index : Nat} {c : ComputeUnit}
      (hc : (r.matching name)[index]? = some c) (hp : IsPlainName c.fullName) :
      c.fingerprint = value c.fullName := by
    obtain ⟨e, hm, rfl⟩ := Registry.mem_units_of_matching (List.mem_of_getElem? hc)
    exact hvalue e hm hp
  refine ⟨hvalue, fun r' hr' name index c hc hp => ?_, fun did d hd hid index c hc hp => ?_⟩
  · rw [perform_ask, hw.matching_eq hr', hc, ← hmatching hc hp]
  · rw [Dispatcher.fingerprint, hw.unit hd hid hc, ← hmatching hc hp]
    rfl

def overridden : Settings :=
  { Registry.allDevices with fingerprints := [("dpu:2", 3)] }

/-- Fingerprint registers are written before the second registry is opened, on an old kernel while
it is, and in two ways between the making of two dispatchers on it. -/
theorem fingerprints_kept_seeded :
    let before : List Deed := [.openRegistry Registry.allDevices,
      .writeUnit 0 "dpu:1:0" 0 0x1f0 5, .dropHandle 0]
    let between : List Deed := [.beginOpening overridden, .writeKernel ⟨0, 1, "dpu:1"⟩ 0x1f4 6]
    let later : List Deed := [.createDispatcher 1 "dpu:1", .writeUnit 1 "dpu:1:0" 0 0x1f0 7,
      .writeInstance 0 1 0x1f4 9, .createDispatcher 1 "dpu:1"]
    let v := before.foldl act { site := seededDevices }
    let u := (between.foldl act v).act (.continueOpening 1 2)
    let w := later.foldl act u
    (∃ r, w.registries.get? 1 = some r ∧
      w.perform (r.ask (·.fingerprint) "dpu:1:0" 0) = (.ok 0x1122334455667788, w) ∧
      w.perform (r.ask (·.fingerprint) "dpu:2:1" 0) = (.ok 3, w)) ∧
    ∀ did < 2, ∃ d, w.dispatchers.get? did = some d ∧ d.fingerprint 1 = .ok 0x1122334455667788 := by
  intro before between later v u w
  have hopened : (u.registries.get? 1).map (fun r =>
      (r.settings, decide (∀ e ∈ r.units, e.2.kernel.load = 2))) = some (overridden, true) := by
    decide +kernel
  obtain ⟨r, hr, hpair⟩ := Option.map_eq_some_iff.mp hopened
  obtain ⟨hsettings, hnew⟩ := Prod.mk.inj hpair
  have hloads : Loads v (between.foldl act v) (.continueOpening 1 2) 1 r := by
    refine ⟨by decide +kernel, hr, fun opening n he => ?_, hsettings ▸ rfl⟩
    cases he
    decide +kernel
  have hother : ∀ x ∈ v.writes between, ∀ e ∈ r.units, x.kernel = e.2.kernel →
      x.offset ≠ 0x1f0 ∧ x.offset ≠ 0x1f4 := by
    have hold : ∀ x ∈ v.writes between, x.kernel.load = 1 := by decide +kernel
    intro x hx e hm hk
    have hload := of_decide_eq_true hnew e hm
    rw [← hk, hold x hx] at hload
    cases hload
  obtain ⟨-, hask, hdispatcher⟩ :=
    fingerprints_kept seededDevices rfl before between later _ 1 r hloads hother
  have hat (name fullName : String) (index : Nat)
      (hm : ((u.registries.get? 1).bind fun r => (r.matching name)[index]?.map (·.fullName)) =
        some fullName) : ∃ c, (r.matching name)[index]? = some c ∧ c.fullName = fullName := by
    rw [hr, Option.bind_some] at hm
    exact Option.map_eq_some_iff.mp hm
  have hsome : (w.registries.get? 1).isSome = true := by decide +kernel
  obtain ⟨r', hr'⟩ := Option.isSome_iff_exists.mp hsome
  refine ⟨⟨r', hr', ?_, ?_⟩, fun did hlt => ?_⟩
  · obtain ⟨c, hc, hname⟩ := hat "dpu:1:0" "dpu:1" 0 (by decide +kernel)
    rw [hask r' hr' _ 0 c hc (hname ▸ by decide +kernel), hname, hsettings]
    rfl
  · obtain ⟨c, hc, hname⟩ := hat "dpu:2:1" "dpu:2" 0 (by decide +kernel)
    rw [hask r' hr' _ 0 c hc (hname ▸ by decide +kernel), hname, hsettings]
    rfl
  · have hmade : ∀ did < 2, (w.dispatchers.get? did).map (fun d => (d.registry, d.unitName)) =
        some (1, "dpu:1") := by
      decide +kernel
    obtain ⟨d, hd, hof⟩ := Option.map_eq_some_iff.mp (hmade did hlt)
    obtain ⟨hid, hunit⟩ := Prod.mk.inj hof
    obtain ⟨c, hc, hname⟩ := hat "dpu:1" "dpu:1" 1 (by decide +kernel)
    refine ⟨d, hd, ?_⟩
    rw [hdispatcher did d hd hid 1 c (hunit ▸ hc) (hname ▸ by decide +kernel), hname, hsettings]
    rfl

end World

end Accelerator
