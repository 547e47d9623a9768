import Accelerator.Proofs.Site.Mapping
import Accelerator.World.Commands

/-! Dispatchers and controllers that are made on a registry belong to it, and making them does
nothing but report. -/

namespace Accelerator

open Accelerator.Action

theorem Dispatcher.inspects_create {ε : Type} (r : Registry) (id : Nat) (unitName : String) :
    Inspects 0 (create r id unitName : Action ε Dispatcher) := by
  refine Inspects.bind (fun s => ⟨.ok (), _, rfl, fun _ => rfl⟩) fun _ => ?_
  exact Inspects.bind (Inspects.emit _) fun _ => Inspects.pure _

theorem Dispatcher.registry_of_create {ε : Type} {r : Registry} {id : Nat} {unitName : String}
    {d : Dispatcher} {s t : Site}
    (h : (create r id unitName : Action ε Dispatcher).run s = (.ok d, t)) : d.registry = id := by
  cases h
  rfl

theorem Dispatcher.units_of_create {ε : Type} {r : Registry} {id : Nat} {unitName : String}
    {d : Dispatcher} {s t : Site}
    (h : (create r id unitName : Action ε Dispatcher).run s = (.ok d, t)) :
    d.unitName = unitName ∧ d.instances.map (·.unit) = r.matching unitName := by
  cases h
  refine ⟨rfl, ?_⟩
  rw [List.map_map]
  exact List.map_id _

namespace FactoryTable

variable {φ : Type} {call : φ → Dispatcher → Action DispatchError Controller} {f : FactoryTable φ}
  {r : Registry} {id : Nat} {s t : Site}

theorem inspects_findDispatcher (r : Registry) (id : Nat) (names : List String) :
    Inspects 0 (findDispatcher r id names) := by
  induction names with
  | nil => exact Inspects.pure none
  | cons name names ih =>
    refine Inspects.bind (Dispatcher.inspects_create r id name) fun d => ?_
    split
    · exact Inspects.pure _
    · exact ih

theorem registry_of_findDispatcher {names : List String} {d : Dispatcher}
    (h : (findDispatcher r id names).run s = (.ok (some d), t)) : d.registry = id := by
  induction names generalizing s with
  | nil => cases h
  | cons name names ih =>
    obtain ⟨d', u, hd, h⟩ := bind_ok h
    split at h
    · cases h
      exact Dispatcher.registry_of_create hd
    · exact ih h

theorem inspects_kernelNameFor (settings : Settings) (d : Dispatcher) :
    Inspects 0 (kernelNameFor settings d) := by
  unfold kernelNameFor
  split
  · exact Inspects.bind (Inspects.emit _) fun _ => Inspects.pure _
  · exact Inspects.ofExcept _

theorem inspects_createBy (hc : ∀ factory d, Inspects 0 (call factory d)) (f : FactoryTable φ)
    (r : Registry) (id : Nat) : Inspects 0 (f.createBy call r id) := by
  unfold createBy
  cases r.settings.controllersDisabled with
  | true =>
    simp only [if_true]
    exact Inspects.bind (Inspects.emit _) fun _ _ => ⟨.error (.error _), [], rfl, fun _ => rfl⟩
  | false =>
    simp only [Bool.false_eq_true, if_false]
    refine Inspects.bind (inspects_findDispatcher r id _) fun found => ?_
    rcases found with _ | d
    · exact Inspects.bind (Inspects.emit _) fun _ => Inspects.fail _
    · refine Inspects.bind (inspects_kernelNameFor r.settings d) fun kernelName => ?_
      rcases f.find? kernelName with _ | ⟨start, factory⟩
      · exact Inspects.bind (Inspects.emit _) fun _ => Inspects.fail _
      · simp only
        split
        · exact Inspects.bind (Inspects.emit _) fun _ => hc factory d
        · exact hc factory d

/-- A controller comes from a factory of the table, which was given a dispatcher of the registry. -/
theorem createBy_ok {c : Controller} (h : (f.createBy call r id).run s = (.ok c, t)) :
    ∃ e ∈ f, ∃ d u, d.registry = id ∧ (call e.2 d).run u = (.ok c, t) := by
  unfold createBy at h
  cases hdis : r.settings.controllersDisabled with
  | true =>
    simp only [hdis, if_true] at h
    cases h
  | false =>
    simp only [hdis, Bool.false_eq_true, if_false] at h
    obtain ⟨found, u, hd, h⟩ := bind_ok h
    rcases found with _ | d
    · cases h
    · obtain ⟨kernelName, v, -, h⟩ := bind_ok h
      rcases hk : f.find? kernelName with _ | ⟨start, factory⟩ <;> simp only [hk] at h
      · cases h
      · have hmem : (start, factory) ∈ f := List.mem_of_find?_eq_some hk
        refine ⟨(start, factory), hmem, d, ?_⟩
        by_cases hv : 0 < r.settings.verbosity.controllers <;>
          simp only [hv, if_true, if_false] at h
        · exact ⟨_, registry_of_findDispatcher hd, h⟩
        · exact ⟨_, registry_of_findDispatcher hd, h⟩

end FactoryTable

namespace ControllerFactories

variable {f : ControllerFactories} {r : Registry} {id : Nat} {s t : Site}

theorem inspects_create (f : ControllerFactories) (r : Registry) (id : Nat) :
    Inspects 0 (f.create r id) :=
  FactoryTable.inspects_createBy (fun _ _ => Inspects.ofExcept _) f r id

/-- A factory that builds on the dispatcher it is given. -/
def Faithful (factory : ControllerFactory) : Prop :=
  ∀ d c, factory d = .ok c → c.dispatcher = d

theorem registry_of_create {c : Controller} (hf : ∀ e ∈ f, Faithful e.2)
    (h : (f.create r id).run s = (.ok c, t)) : c.dispatcher.registry = id := by
  obtain ⟨e, hm, d, u, hd, hcall⟩ := FactoryTable.createBy_ok h
  have hmade : e.2 d = .ok c := by
    rw [run_ofExcept] at hcall
    rcases hc : e.2 d with stop | c' <;> rw [hc] at hcall <;> cases hcall
    rfl
  rw [hf e hm d c hmade]
  exact hd

end ControllerFactories

namespace World

variable {w w' : World} {handle : Nat} {unitName : String}

/-- Where the handle is on an open registry a dispatcher is made. -/
theorem createDispatcher_ok {answer : Except (Stop DispatchError) Nat}
    (h : w.createDispatcher handle unitName = some (answer, w')) :
    ∃ id r d t, w.handles.get? handle = some id ∧ w.registries.get? id = some r ∧
      (Dispatcher.create r id unitName : Action DispatchError Dispatcher).run w.site = (.ok d, t) ∧
      answer = .ok w.dispatchers.next ∧
      w' = { w with site := t, dispatchers := (w.dispatchers.insert d).2 } := by
  unfold createDispatcher perform at h
  obtain ⟨id, hh, h⟩ := Option.bind_eq_some_iff.mp h
  obtain ⟨r, hr, h⟩ := Option.bind_eq_some_iff.mp h
  obtain ⟨d, t, hd⟩ : ∃ d t, (Dispatcher.create r id unitName :
      Action DispatchError Dispatcher).run w.site = (.ok d, t) := ⟨_, _, rfl⟩
  simp only [hd] at h
  cases h
  exact ⟨id, r, d, t, hh, hr, hd, rfl, rfl⟩

theorem createController_cases {answer : Except (Stop DispatchError) Nat}
    (h : w.createController handle = some (answer, w')) :
    ∃ id r t, w.handles.get? handle = some id ∧ w.registries.get? id = some r ∧
      ((∃ stop, (w.factories.create r id).run w.site = (.error stop, t) ∧
          answer = .error stop ∧ w' = { w with site := t }) ∨
        ∃ c, (w.factories.create r id).run w.site = (.ok c, t) ∧
          answer = .ok w.controllers.next ∧
          w' = { w with site := t, controllers := (w.controllers.insert c).2 }) := by
  unfold createController perform at h
  obtain ⟨id, hh, h⟩ := Option.bind_eq_some_iff.mp h
  obtain ⟨r, hr, h⟩ := Option.bind_eq_some_iff.mp h
  rcases hc : (w.factories.create r id).run w.site with ⟨stop | c, t⟩ <;> simp only [hc] at h <;>
    cases h
  · exact ⟨id, r, t, hh, hr, Or.inl ⟨stop, hc, rfl, rfl⟩⟩
  · exact ⟨id, r, t, hh, hr, Or.inr ⟨c, hc, rfl, rfl⟩⟩

end World

end Accelerator
