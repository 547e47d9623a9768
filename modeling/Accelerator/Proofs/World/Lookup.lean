import Accelerator.Proofs.Buffer.Creation
import Accelerator.Proofs.Registry.Units
import Accelerator.Proofs.World.Openings

/-! Compute units as they are looked up in an open registry, by the start of their key and by
their position. -/

namespace Accelerator

open Accelerator.Action

namespace World

variable {w w' : World} {settings : Settings} {id n count handle : Nat} {o : Opening}

theorem registryOf?_addRegistry (w : World) (r : Registry) :
    (w.addRegistry r).2.registryOf? (w.addRegistry r).1 = some r := by
  simp only [addRegistry, addHandle, registryOf?, Store.insert, Store.get?, Table.get?_put,
    if_true, Option.bind_some]

theorem Course.made {result : Opened} (h : Course w id n o result w')
    (ho : o.Arises settings count) (hr : result = .ready handle) :
    ∃ r, w'.registryOf? handle = some r ∧ r.Made settings count := by
  cases h with
  | ready hb hp hf =>
    obtain rfl := Opened.ready.inj hr
    exact ⟨_, registryOf?_addRegistry _ _, .finish (.bind ho hb) hp hf⟩
  | waiting => cases hr
  | unbound => cases hr
  | unfinished => cases hr

theorem made_of_openRegistry (h : w.openRegistry settings = (.ready handle, w')) :
    ∃ r, w'.registryOf? handle = some r ∧ r.Made settings w.site.host.deviceCount := by
  obtain ⟨stop, t, -, hr, -⟩ | ⟨o, t, hs, hc⟩ := openRegistry_course h
  · cases hr
  · exact hc.made (.start rfl hs) rfl

end World

namespace Registry

variable {r : Registry} {settings : Settings} {n : Nat}

theorem run_lookUp_eq (r : Registry) (name : String) (index : Nat) (s : Site) :
    (r.lookUp name index).run s =
      match (r.matching name)[index]? with
      | some u => (.ok u, s)
      | none => (.error (.error (.unitNotFound name index)), s.emit (.unitMissing name index)) := by
  unfold lookUp unit
  rw [run_reporting]
  rcases (r.matching name)[index]? with _ | u <;> rfl

theorem run_ask_eq {α : Type} (r : Registry) (about : ComputeUnit → α) (name : String)
    (index : Nat) (s : Site) : (r.ask about name index).run s =
      match (r.matching name)[index]? with
      | some u => (.ok (about u), s)
      | none => (.error (.error (.unitNotFound name index)), s.emit (.unitMissing name index)) := by
  unfold ask
  rw [run_bind, run_lookUp_eq]
  rcases (r.matching name)[index]? with _ | u <;> rfl

/-- A position has a unit when it is below their number. -/
theorem answer_eq_dite {α : Type} (r : Registry) (name : String) (index : Nat)
    (found : ComputeUnit → α) (missing : α) :
    (match (r.matching name)[index]? with
      | some u => found u
      | none => missing) =
      if h : index < r.unitCount name then found ((r.matching name).get ⟨index, h⟩)
      else missing := by
  by_cases h : index < r.unitCount name
  · have hget : (r.matching name)[index]? = some ((r.matching name).get ⟨index, h⟩) :=
      List.getElem?_eq_getElem h
    rw [dif_pos h, hget]
  · have hget : (r.matching name)[index]? = none := List.getElem?_eq_none (Nat.le_of_not_lt h)
    rw [dif_neg h, hget]

theorem run_lookUp (r : Registry) (name : String) (index : Nat) (s : Site) :
    (r.lookUp name index).run s =
      if h : index < r.unitCount name then (.ok ((r.matching name).get ⟨index, h⟩), s)
      else (.error (.error (.unitNotFound name index)), s.emit (.unitMissing name index)) :=
  (r.run_lookUp_eq name index s).trans (r.answer_eq_dite name index (fun u => (Except.ok u, s)) _)

theorem run_ask {α : Type} (r : Registry) (about : ComputeUnit → α) (name : String) (index : Nat)
    (s : Site) : (r.ask about name index).run s =
      if h : index < r.unitCount name then (.ok (about ((r.matching name).get ⟨index, h⟩)), s)
      else (.error (.error (.unitNotFound name index)), s.emit (.unitMissing name index)) :=
  (r.run_ask_eq about name index s).trans
    (r.answer_eq_dite name index (fun u => (Except.ok (about u), s)) _)

theorem run_readRegister (r : Registry) (name : String) (index : Nat) (offset : UInt32)
    (s : Site) : (r.readRegister name index offset).run s =
      match (r.matching name)[index]? with
      | some u => (.ok (s.host.readRegister u.kernel offset), s)
      | none => (.error (.error (.unitNotFound name index)), s.emit (.unitMissing name index)) := by
  unfold readRegister
  rw [run_bind, run_lookUp_eq]
  rcases (r.matching name)[index]? with _ | u <;> rfl

theorem run_writeRegister (r : Registry) (name : String) (index : Nat) (offset value : UInt32)
    (s : Site) : (r.writeRegister name index offset value).run s =
      match (r.matching name)[index]? with
      | some u => (.ok (), { s with host := s.host.writeRegister u.kernel offset value })
      | none => (.error (.error (.unitNotFound name index)), s.emit (.unitMissing name index)) := by
  unfold writeRegister
  rw [run_bind, run_lookUp_eq]
  rcases (r.matching name)[index]? with _ | u <;> rfl

/-- In an open registry there is one unit for each name and each selected device, in the order of
the bytes of the keys. For each start of a key the units that have it are next to each other, they
are found by their positions, and so are the devices that they are on. -/
theorem units_looked_up (h : r.Made settings n) :
    r.units.Pairwise (fun e e' => utf8 e.1 < utf8 e'.1) ∧
    (∀ e ∈ r.units, e.1 = UnitIndex.keyFor e.2.fullName e.2.device) ∧
    (∀ name name' device device', UnitIndex.keyFor name device = UnitIndex.keyFor name' device' →
      name = name' ∧ device = device') ∧
    (∃ names : List String, names.Nodup ∧ (settings.selection.resolve n).Nodup ∧
      (∀ name, name ∈ names ↔ name ∈ r.image.cores ∧
        ∃ mark ∈ ["DPU", "dpu", "sfm"], mark.toList <:+: name.toList) ∧
      (r.units.map fun e => (e.2.fullName, e.2.device)).Perm
        (names ×ˢ settings.selection.resolve n) ∧
      r.units.length = names.length * (settings.selection.resolve n).length) ∧
    ∀ name,
      (∃ front block back, r.units = front ++ block ++ back ∧
        r.matching name = block.map (·.2) ∧
        (∀ e ∈ block, name.toList <+: e.1.toList) ∧
        ∀ e ∈ front ++ back, ¬ name.toList <+: e.1.toList) ∧
      r.unitCount name = (r.matching name).length ∧
      (∀ index s, (r.lookUp name index).run s =
        if h : index < r.unitCount name then (.ok ((r.matching name).get ⟨index, h⟩), s)
        else (.error (.error (.unitNotFound name index)), s.emit (.unitMissing name index))) ∧
      (∀ (α : Type) (about : ComputeUnit → α) index s, (r.ask about name index).run s =
        if h : index < r.unitCount name then (.ok (about ((r.matching name).get ⟨index, h⟩)), s)
        else (.error (.error (.unitNotFound name index)), s.emit (.unitMissing name index))) ∧
      ∀ device s, (r.lookUpDevice name device).run s =
        if ∃ u ∈ r.matching name, u.device = device then (.ok device, s)
        else (.error (.error (.deviceNotFound device name)),
          s.emit (.deviceMissing device name)) := by
  obtain ⟨-, hunits⟩ := h.indexes
  have hperm := h.pairs_perm
  have hlength := hperm.length_eq
  rw [List.length_map, List.length_product] at hlength
  refine ⟨hunits.sorted.imp utf8_lt, fun e => hunits.key_eq, fun _ _ _ _ => UnitIndex.keyFor_inj,
    ⟨r.unitNames, r.nodup_unitNames, Selection.nodup_resolve n settings.selection, fun name => ?_,
      hperm, hlength⟩, fun name => ⟨hunits.sorted.block name, rfl, r.run_lookUp name, ?_,
      r.run_lookUpDevice name⟩⟩
  · rw [mem_unitNames_iff, isUnitName_iff]
    rfl
  · exact fun _ about => r.run_ask about name

def elevenDevices : Site where
  host := Host.addImage (Host.ofCount 11) "a" {
    uuid := {}, cores := ["dpu:1", "dma", "dpu", "dpu:1"]
    banks := [{ tag := "DDR[0]", used := true, base := 0x60000000, size := 0x40000000 }] }

def twoOfEleven : Settings where
  firmware := some "a"
  selection := .list [2, 10]
  lockDirectory := "/"

/-- A start that reaches from the name into the number of the device, where ten is before two. -/
theorem units_looked_up_twoOfEleven :
    ∃ r : Registry, r.Made twoOfEleven 11 ∧ r.unitCount "dpu:1" = 3 ∧
      (∀ s, (r.ask (fun u => (u.fullName, u.device)) "dpu:1" 0).run s = (.ok ("dpu", 10), s)) ∧
      ∀ s, (r.lookUpDevice "dpu:1" 1).run s =
        (.error (.error (.deviceNotFound 1 "dpu:1")), s.emit (.deviceMissing 1 "dpu:1")) := by
  let w : World := { site := elevenDevices }
  have hready : (w.openRegistry twoOfEleven).1 = .ready 0 := by decide +kernel
  obtain ⟨r, hr, hmade⟩ := World.made_of_openRegistry (Prod.ext hready rfl)
  have hmap : ((w.openRegistry twoOfEleven).2.registryOf? 0).map (fun r =>
      (r.matching "dpu:1").map fun u => (u.fullName, u.device)) =
        some [("dpu", 10), ("dpu:1", 10), ("dpu:1", 2)] := by
    decide +kernel
  rw [hr, Option.map_some, Option.some.injEq] at hmap
  obtain ⟨-, -, -, -, hlooked⟩ := units_looked_up hmade
  obtain ⟨-, hcount, -, hask, hdevice⟩ := hlooked "dpu:1"
  have hthree : r.unitCount "dpu:1" = 3 := by
    rw [hcount, ← List.length_map (fun u => (u.fullName, u.device)), hmap]
    rfl
  refine ⟨r, hmade, hthree, fun s => ?_, fun s => ?_⟩
  · have hlt : 0 < r.unitCount "dpu:1" := by omega
    have hfirst := congrArg (·[0]?) hmap
    simp only [List.getElem?_map] at hfirst
    obtain ⟨u, hu, hpair⟩ := Option.map_eq_some_iff.mp hfirst
    obtain ⟨_, hget⟩ := List.getElem?_eq_some_iff.mp hu
    have hat : (r.matching "dpu:1").get ⟨0, hlt⟩ = u := hget
    rw [hask, dif_pos hlt, hat, hpair]
  · have hnone : ¬ ∃ u ∈ r.matching "dpu:1", u.device = 1 := by
      rintro ⟨u, hm, hu⟩
      have hpair : (u.fullName, 1) ∈ [("dpu", 10), ("dpu:1", 10), ("dpu:1", 2)] :=
        hmap ▸ List.mem_map.mpr ⟨u, hm, by rw [hu]⟩
      simp at hpair
    rw [hdevice, if_neg hnone]

end Registry

end Accelerator
