import Accelerator.Dispatch.Controller
import Accelerator.Proofs.Table
import Accelerator.Proofs.World.Lookup

/-! Which factory a controller is made by. Registering a factory again leaves its place as it was,
so the place tells which start of a name was first and the value which factory was last. -/

namespace Accelerator

open Accelerator.Action

namespace FactoryTable

variable {φ : Type}

/-- The table that a run of registrations leaves. -/
def ofHistory (history : List (String × φ)) : FactoryTable φ :=
  history.foldl (fun f e => f.register e.1 e.2) []

theorem ofHistory_eq (history : List (String × φ)) : ofHistory history = Table.ofPairs history :=
  rfl

theorem prefixes_ofHistory (history : List (String × φ)) :
    (ofHistory history).prefixes = (history.map (·.1)).eraseDups :=
  Table.keys_ofPairs history

/-- Of the starts of names that fit, the one registered first decides, and of the factories
registered for it the last is taken. -/
def chosen (history : List (String × φ)) (kernelName : String) : Option φ :=
  (history.find? fun e => e.1.toList.isPrefixOf kernelName.toList).bind fun first =>
    (history.reverse.find? fun e => e.1 = first.1).map (·.2)

theorem find?_ofHistory (history : List (String × φ)) (kernelName : String) :
    ((ofHistory history).find? kernelName).map (·.2) = chosen history kernelName := by
  have hkeys : (history.map (·.1)).find? (fun p => p.toList.isPrefixOf kernelName.toList) =
      (history.find? fun e => e.1.toList.isPrefixOf kernelName.toList).map (·.1) := by
    rw [List.find?_map]
    rfl
  have hfind : find? (Table.ofPairs history) kernelName = _ :=
    Table.find?_eq (fun p : String => p.toList.isPrefixOf kernelName.toList)
      (Table.ofPairs history)
  -- the keys tell which start it is, and what is under it is looked up afterwards
  rw [ofHistory_eq, hfind, Table.keys_ofPairs, find?_eraseDups, hkeys, chosen]
  cases history.find? fun e => e.1.toList.isPrefixOf kernelName.toList with
  | none => rfl
  | some first =>
    simp only [Option.map_some, Option.bind_some, Option.map_map, Table.get?_ofPairs]
    rfl

end FactoryTable

/-- A dispatcher as it is made, with nothing in its packets yet. -/
def Dispatcher.initial (r : Registry) (id : Nat) (unitName : String) : Dispatcher where
  registry := id
  unitName
  instances := (r.matching unitName).map fun unit =>
    { unit, run := { kernel := unit.kernel.name } }

theorem Dispatcher.run_create (r : Registry) (id : Nat) (unitName : String) (s : Site) :
    ∃ t, s.Alike t ∧ (create r id unitName : Action DispatchError Dispatcher).run s =
      (.ok (initial r id unitName), t) := by
  let units := r.matching unitName
  let t := s.emitAll (units.map fun u => .contextCreated unitName u.device u.fullName u.fingerprint)
  have ht : s.Alike t := Site.Alike.emitAll s _
  exact ⟨_, ht.trans (Site.Alike.emit t (.dispatcherReady unitName units.length)), rfl⟩

theorem Dispatcher.size_initial (r : Registry) (id : Nat) (unitName : String) :
    (initial r id unitName).size = r.unitCount unitName := by
  simp [size, initial, Registry.unitCount]

/-- Of the units whose keys start like this the one with the least key. -/
structure Registry.Leads (r : Registry) (start : String) (e : String × ComputeUnit) : Prop where
  mem : e ∈ r.units
  starts : start.toList <+: e.1.toList
  least : ∀ e' ∈ r.units, start.toList <+: e'.1.toList → e' = e ∨ utf8 e.1 < utf8 e'.1

namespace Registry

variable {r : Registry} {start : String}

theorem unitCount_pos_iff : 0 < r.unitCount start ↔ r.matching start ≠ [] :=
  List.length_pos_iff

theorem matching_eq_nil_iff :
    r.matching start = [] ↔ ∀ e ∈ r.units, ¬ start.toList <+: e.1.toList := by
  simp [matching, UnitIndex.matching, List.filter_eq_nil_iff]

theorem exists_leads (h : r.units.Sorted) (hne : r.matching start ≠ []) :
    ∃ e, r.Leads start e ∧ (r.matching start)[0]? = some e.2 := by
  let fits := fun e : String × ComputeUnit => start.toList.isPrefixOf e.1.toList
  have hfits : ∀ e ∈ r.units, start.toList <+: e.1.toList → e ∈ r.units.filter fits :=
    fun e hm hp => List.mem_filter.mpr ⟨hm, List.isPrefixOf_iff_prefix.mpr hp⟩
  have hsorted : (r.units.filter fits).Pairwise fun e e' => e.1 < e'.1 := h.filter fits
  have hmatching : r.matching start = (r.units.filter fits).map (·.2) := rfl
  rcases hf : r.units.filter fits with _ | ⟨e, rest⟩
  · rw [hmatching, hf] at hne
    exact absurd rfl hne
  · rw [hf] at hfits hsorted
    have hm : e ∈ r.units.filter fits := hf ▸ List.mem_cons_self
    obtain ⟨hunit, hstart⟩ := List.mem_filter.mp hm
    refine ⟨e, ⟨hunit, List.isPrefixOf_iff_prefix.mp hstart, fun e' hm' hp => ?_⟩, ?_⟩
    · rcases List.mem_cons.mp (hfits e' hm' hp) with he | hrest
      · exact Or.inl he
      · exact Or.inr (utf8_lt ((List.pairwise_cons.mp hsorted).1 e' hrest))
    · rw [hmatching, hf]
      rfl

end Registry

namespace FactoryTable

variable {φ : Type} {r : Registry} {id : Nat}

theorem run_findDispatcher (r : Registry) (id : Nat) (names : List String) (s : Site) :
    ∃ t, s.Alike t ∧ (findDispatcher r id names).run s =
      (.ok ((names.find? fun name => 0 < r.unitCount name).map (Dispatcher.initial r id)), t) := by
  induction names generalizing s with
  | nil => exact ⟨s, Site.Alike.refl s, rfl⟩
  | cons name names ih =>
    obtain ⟨t, ht, hrun⟩ := Dispatcher.run_create r id name s
    simp only [findDispatcher, run_bind, hrun, Dispatcher.size_initial]
    by_cases hpos : 0 < r.unitCount name
    · simp only [hpos, if_true, List.find?_cons_of_pos, decide_true, Option.map_some]
      exact ⟨t, ht, rfl⟩
    · obtain ⟨u, hu, hrest⟩ := ih t
      rw [if_neg hpos, List.find?_cons_of_neg (by simpa using hpos)]
      exact ⟨u, ht.trans hu, hrest⟩

theorem run_kernelNameFor {d : Dispatcher} {u : ComputeUnit} (hu : d.unit 0 = .ok u)
    (settings : Settings) (s : Site) :
    ∃ t, s.Alike t ∧ (kernelNameFor settings d).run s =
      (.ok (settings.kernelOverride.getD u.kernelName), t) := by
  unfold kernelNameFor
  cases settings.kernelOverride with
  | some name => exact ⟨_, Site.Alike.emit s (.kernelOverridden name), rfl⟩
  | none =>
    have hname : d.kernelName 0 = .ok u.kernelName := by rw [Dispatcher.kernelName, hu]; rfl
    exact ⟨s, Site.Alike.refl s, by rw [hname]; rfl⟩

theorem start_of_found {start : String}
    (h : controllerUnitNames.find? (fun name => 0 < r.unitCount name) = some start) :
    (start = "DPU" ∨ start = "dpu" ∧ r.matching "DPU" = []) ∧ r.matching start ≠ [] := by
  have hpos : 0 < r.unitCount start := by simpa using List.find?_some h
  refine ⟨?_, Registry.unitCount_pos_iff.mp hpos⟩
  by_cases hupper : 0 < r.unitCount "DPU"
  · left
    simpa [controllerUnitNames, hupper] using h.symm
  · have hnone : r.matching "DPU" = [] := by simpa [Registry.unitCount_pos_iff] using hupper
    rcases List.mem_cons.mp (List.mem_of_find?_eq_some h) with rfl | hlower
    · exact absurd hpos hupper
    · exact Or.inr ⟨List.mem_singleton.mp hlower, hnone⟩

/-- What making a controller comes to, for any table. The site `t` is there before the factory is
called, whichever it is. -/
theorem run_createBy (h : r.units.Sorted) (f : FactoryTable φ) (id : Nat) (s : Site) :
    ∃ t, s.Alike t ∧ ∀ call : φ → Dispatcher → Action DispatchError Controller,
      let result := (f.createBy call r id).run s
      (r.settings.controllersDisabled = true ∧
        result = (.error (.error .controllersDisabled), t)) ∨
      (r.settings.controllersDisabled = false ∧ r.matching "DPU" = [] ∧ r.matching "dpu" = [] ∧
        result = (.error (.error (.noComputeUnits "DPU|dpu")), t)) ∨
      (r.settings.controllersDisabled = false ∧
        ∃ start e, (start = "DPU" ∨ start = "dpu" ∧ r.matching "DPU" = []) ∧ r.Leads start e ∧
          let name := r.settings.kernelOverride.getD e.2.kernelName
          result = match (f.find? name).map (·.2) with
            | none => (.error (.error (.unknownKernel name)), t)
            | some factory => (call factory (Dispatcher.initial r id start)).run t) := by
  cases hdisabled : r.settings.controllersDisabled with
  | true =>
    refine ⟨_, Site.Alike.emit s .controllersDisabled, fun call => Or.inl ⟨rfl, ?_⟩⟩
    simp only [createBy, hdisabled, if_true]
    rfl
  | false =>
    obtain ⟨t, ht, hfind⟩ := run_findDispatcher r id controllerUnitNames s
    rcases hname : controllerUnitNames.find? fun name => 0 < r.unitCount name with _ | start
    · have hnone : r.matching "DPU" = [] ∧ r.matching "dpu" = [] := by
        simpa [controllerUnitNames, Registry.unitCount_pos_iff] using hname
      refine ⟨_, ht.trans (Site.Alike.emit t (.noControllerUnits controllerUnitNames)),
        fun call => Or.inr (Or.inl ⟨rfl, hnone.1, hnone.2, ?_⟩)⟩
      simp only [createBy, hdisabled, Bool.false_eq_true, if_false, run_bind, hfind, hname]
      rfl
    · obtain ⟨hstart, hne⟩ := start_of_found hname
      -- the dispatcher asks its first unit for the name, and this is the one with the least key
      obtain ⟨e, hleads, hfirst⟩ := Registry.exists_leads h hne
      have hunit : (Dispatcher.initial r id start).unit 0 = .ok e.2 := by
        simp [Dispatcher.unit, Dispatcher.initial, hfirst]
      obtain ⟨u, hu, hkernel⟩ := run_kernelNameFor hunit r.settings t
      let name := r.settings.kernelOverride.getD e.2.kernelName
      rcases hf : f.find? name with _ | ⟨p, factory⟩
      · refine ⟨u.emit (.noController name f.prefixes), (ht.trans hu).trans (Site.Alike.emit u _),
          fun call => Or.inr (Or.inr ⟨rfl, start, e, hstart, hleads, ?_⟩)⟩
        simp only [createBy, hdisabled, Bool.false_eq_true, if_false, run_bind, hfind, hname,
          Option.map_some, hkernel, hf, name]
        rfl
      · by_cases hv : 0 < r.settings.verbosity.controllers
        · refine ⟨u.emit (.controllerChosen name p (r.unitCount start)),
            (ht.trans hu).trans (Site.Alike.emit u _),
            fun call => Or.inr (Or.inr ⟨rfl, start, e, hstart, hleads, ?_⟩)⟩
          simp only [createBy, hdisabled, Bool.false_eq_true, if_false, run_bind, hfind, hname,
            Option.map_some, hkernel, hf, hv, if_true, Dispatcher.size_initial, name]
          rfl
        · refine ⟨u, ht.trans hu, fun call => Or.inr (Or.inr ⟨rfl, start, e, hstart, hleads, ?_⟩)⟩
          simp only [createBy, hdisabled, Bool.false_eq_true, if_false, run_bind, hfind, hname,
            Option.map_some, hkernel, hf, hv, if_false, name]

/-- Whatever was registered, in whatever order, the starts of names stand where they were first
registered. A controller is made by one call of the factory that was registered last for the first
of them that fits the kernel, on a dispatcher over the units that controllers are for, or not at
all. -/
theorem controller_chosen {settings : Settings} {n : Nat} (h : r.Made settings n)
    (history : List (String × φ)) (id : Nat) (s : Site) :
    let f := ofHistory history
    f.prefixes = (history.map (·.1)).eraseDups ∧
    ∃ t, s.Alike t ∧ ∀ call : φ → Dispatcher → Action DispatchError Controller,
      let result := (f.createBy call r id).run s
      (r.settings.controllersDisabled = true ∧
        result = (.error (.error .controllersDisabled), t)) ∨
      (r.settings.controllersDisabled = false ∧
        (∀ e ∈ r.units, ¬ "DPU".toList <+: e.1.toList) ∧
        (∀ e ∈ r.units, ¬ "dpu".toList <+: e.1.toList) ∧
        result = (.error (.error (.noComputeUnits "DPU|dpu")), t)) ∨
      (r.settings.controllersDisabled = false ∧
        ∃ start e, (start = "DPU" ∨
            start = "dpu" ∧ ∀ e' ∈ r.units, ¬ "DPU".toList <+: e'.1.toList) ∧
          r.Leads start e ∧
          let name := r.settings.kernelOverride.getD e.2.kernelName
          result = match chosen history name with
            | none => (.error (.error (.unknownKernel name)), t)
            | some factory => (call factory (Dispatcher.initial r id start)).run t) := by
  obtain ⟨-, hunits⟩ := h.indexes
  obtain ⟨t, ht, hrun⟩ := run_createBy hunits.sorted (ofHistory history) id s
  simp only [find?_ofHistory, Registry.matching_eq_nil_iff] at hrun
  exact ⟨prefixes_ofHistory history, t, ht, hrun⟩

/-- The third registration takes the place of the first one and is called, although the second one
fits as well. -/
theorem controller_chosen_replaced :
    ∃ r : Registry, r.Made Registry.twoOfEleven 11 ∧
      (ofHistory [("dp", 1), ("", 2), ("dp", 3)]).prefixes = ["dp", ""] ∧
      ∃ s, ((ofHistory [("dp", 1), ("", 2), ("dp", 3)]).createBy
          (fun factory d => pure { kernelName := toString factory, dispatcher := d }) r 0).run
            Registry.elevenDevices =
        (.ok { kernelName := "3", dispatcher := Dispatcher.initial r 0 "dpu" }, s) := by
  let w : World := { site := Registry.elevenDevices }
  have hready : (w.openRegistry Registry.twoOfEleven).1 = .ready 0 := by decide +kernel
  obtain ⟨r, hr, hmade⟩ := World.made_of_openRegistry (Prod.ext hready rfl)
  have hfacts : ∀ r ∈ (w.openRegistry Registry.twoOfEleven).2.registryOf? 0,
      r.settings.controllersDisabled = false ∧ r.settings.kernelOverride = none ∧
      (∃ e ∈ r.units, "dpu".toList <+: e.1.toList) ∧
      (∀ e ∈ r.units, ¬ "DPU".toList <+: e.1.toList) ∧
      ∀ e ∈ r.units, e.2.kernelName = "dpu" := by
    decide +kernel
  obtain ⟨henabled, hown, ⟨e, hm, hlower⟩, hupper, hkernels⟩ := hfacts r hr
  obtain ⟨hprefixes, t, -, hrun⟩ :=
    controller_chosen hmade [("dp", 1), ("", 2), ("dp", 3)] 0 Registry.elevenDevices
  refine ⟨r, hmade, hprefixes, ?_⟩
  rcases hrun fun factory d => pure { kernelName := toString factory, dispatcher := d } with
    ⟨hdisabled, -⟩ | ⟨-, -, hnone, -⟩ | ⟨-, start, first, hstart, hleads, hresult⟩
  · simp [henabled] at hdisabled
  · exact absurd hlower (hnone e hm)
  · obtain rfl : start = "dpu" := by
      rcases hstart with rfl | ⟨h, -⟩
      · exact absurd hleads.starts (hupper first hleads.mem)
      · exact h
    have hchosen : chosen [("dp", 1), ("", 2), ("dp", 3)] "dpu" = some 3 := by decide +kernel
    simp only [hown, Option.getD_none, hkernels first hleads.mem, hchosen] at hresult
    exact ⟨t, hresult⟩

end FactoryTable

end Accelerator
