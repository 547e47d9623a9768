import Accelerator.Proofs.Registry.Progress
import Accelerator.Proofs.Store
import Accelerator.World.Buffers
import Accelerator.World.Commands
import Accelerator.World.Locks

/-! What refers to the registries of a world. Whatever is made on a registry is one reference more,
and whatever is dropped is one less. The registry goes with the last of them, and gives its locks
back. -/

namespace Accelerator

namespace World

variable {w w₁ w' : World} {id : Nat}

theorem references_addHandle (w : World) (id : Nat) :
    (w.addHandle id).2.references.Perm (id :: w.references) := by
  simp only [references, addHandle, Store.values_insert, List.append_assoc, List.singleton_append]
  exact List.perm_middle

theorem references_addBuffer (w : World) (b : Buffer) :
    (references { w with buffers := (w.buffers.insert b).2 }).Perm
      (b.registry :: w.references) := by
  simp only [references, Store.values_insert, List.map_append, List.map_cons, List.map_nil]
  rw [← List.append_assoc w.handles.values]
  exact ((List.perm_append_singleton _ _).append_right _).append_right _

theorem references_addDispatcher (w : World) (d : Dispatcher) :
    (references { w with dispatchers := (w.dispatchers.insert d).2 }).Perm
      (d.registry :: w.references) := by
  simp only [references, Store.values_insert, List.map_append, List.map_cons, List.map_nil]
  rw [← List.append_assoc (w.handles.values ++ _)]
  exact (List.perm_append_singleton _ _).append_right _

theorem references_addController (w : World) (c : Controller) :
    (references { w with controllers := (w.controllers.insert c).2 }).Perm
      (c.dispatcher.registry :: w.references) := by
  simp only [references, Store.values_insert, List.map_append, List.map_cons, List.map_nil]
  rw [← List.append_assoc (_ ++ _)]
  exact List.perm_append_singleton _ _

theorem references_setBuffer {b b' : Buffer} (h : w.buffers.get? id = some b)
    (hr : b'.registry = b.registry) :
    references { w with buffers := w.buffers.set id b' } = w.references := by
  simp only [references, Store.map_values_set h hr]

theorem references_setDispatcher {d d' : Dispatcher} (h : w.dispatchers.get? id = some d)
    (hr : d'.registry = d.registry) :
    references { w with dispatchers := w.dispatchers.set id d' } = w.references := by
  simp only [references, Store.map_values_set h hr]

theorem references_setController {c c' : Controller} (h : w.controllers.get? id = some c)
    (hr : c'.dispatcher.registry = c.dispatcher.registry) :
    references { w with controllers := w.controllers.set id c' } = w.references := by
  simp only [references, Store.map_values_set (f := (·.dispatcher.registry)) h hr]

theorem mem_references_of_buffer {b : Buffer} (h : w.buffers.get? id = some b) :
    b.registry ∈ w.references := by
  have hm := List.mem_map_of_mem (f := (·.registry)) (Store.mem_values_iff.mpr ⟨id, h⟩)
  simp only [references, List.mem_append]
  exact Or.inl (Or.inl (Or.inr hm))

theorem mem_references_of_dispatcher {d : Dispatcher} (h : w.dispatchers.get? id = some d) :
    d.registry ∈ w.references := by
  have hm := List.mem_map_of_mem (f := (·.registry)) (Store.mem_values_iff.mpr ⟨id, h⟩)
  simp only [references, List.mem_append]
  exact Or.inl (Or.inr hm)

/-- One reference to the registry is gone, and at most buffers and dispatchers with it. -/
structure Drops (w : World) (id : Nat) (w₁ : World) : Prop where
  references : w.references.Perm (id :: w₁.references)
  site : w.site.Alike w₁.site
  registries : w₁.registries = w.registries
  locks : w₁.locks = w.locks
  openings : w₁.openings = w.openings
  factories : w₁.factories = w.factories
  buffers : w.buffers.Loses w₁.buffers
  dispatchers : w.dispatchers.Loses w₁.dispatchers

theorem dropHandle_drops {handle : Nat} (h : w.handles.get? handle = some id) :
    ∃ w₁, w.Drops id w₁ ∧ w.dropHandle handle = w₁.collect id ∧
      w₁.handles = w.handles.erase handle := by
  have hrefs : w.references.Perm (id :: references { w with handles := w.handles.erase handle }) :=
    (((Store.values_perm h).append_right _).append_right _).append_right _
  refine ⟨{ w with handles := w.handles.erase handle },
    ⟨hrefs, .refl _, rfl, rfl, rfl, rfl, .of_eq rfl, .of_eq rfl⟩, ?_, rfl⟩
  simp only [dropHandle, h]

theorem dropBuffer_drops {b : Buffer} (h : w.buffers.get? id = some b) :
    ∃ w₁, w.Drops b.registry w₁ ∧ w.dropBuffer id = w₁.collect b.registry ∧
      w₁.buffers = w.buffers.erase id := by
  have hperm : (w.buffers.values.map (·.registry)).Perm
      (b.registry :: (w.buffers.erase id).values.map (·.registry)) :=
    (Store.values_perm h).map _
  have hrefs := (((hperm.append_left w.handles.values).trans List.perm_middle).append_right
    (w.dispatchers.values.map (·.registry))).append_right
      (w.controllers.values.map (·.dispatcher.registry))
  simp only [dropBuffer, h]
  split
  · refine ⟨_, ?_, rfl, rfl⟩
    exact ⟨hrefs, .emit _ _, rfl, rfl, rfl, rfl, .erase _ _, .of_eq rfl⟩
  · refine ⟨_, ?_, rfl, rfl⟩
    exact ⟨hrefs, .refl _, rfl, rfl, rfl, rfl, .erase _ _, .of_eq rfl⟩

theorem dropDispatcher_drops {d : Dispatcher} (h : w.dispatchers.get? id = some d) :
    ∃ w₁, w.Drops d.registry w₁ ∧ w.dropDispatcher id = w₁.collect d.registry ∧
      w₁.dispatchers = w.dispatchers.erase id := by
  have hperm : (w.dispatchers.values.map (·.registry)).Perm
      (d.registry :: (w.dispatchers.erase id).values.map (·.registry)) :=
    (Store.values_perm h).map _
  have hrefs := ((hperm.append_left
    (w.handles.values ++ w.buffers.values.map (·.registry))).trans List.perm_middle).append_right
      (w.controllers.values.map (·.dispatcher.registry))
  refine ⟨{ w with dispatchers := w.dispatchers.erase id },
    ⟨hrefs, .refl _, rfl, rfl, rfl, rfl, .of_eq rfl, .erase _ _⟩, ?_, rfl⟩
  simp only [dropDispatcher, h]

theorem dropController_drops {c : Controller} (h : w.controllers.get? id = some c) :
    ∃ w₁, w.Drops c.dispatcher.registry w₁ ∧
      w.dropController id = w₁.collect c.dispatcher.registry ∧
      w₁.controllers = w.controllers.erase id := by
  have hperm : (w.controllers.values.map (·.dispatcher.registry)).Perm
      (c.dispatcher.registry :: (w.controllers.erase id).values.map (·.dispatcher.registry)) :=
    (Store.values_perm h).map _
  have hrefs : w.references.Perm
      (c.dispatcher.registry :: references { w with controllers := w.controllers.erase id }) :=
    (hperm.append_left _).trans List.perm_middle
  refine ⟨{ w with controllers := w.controllers.erase id },
    ⟨hrefs, .refl _, rfl, rfl, rfl, rfl, .of_eq rfl, .of_eq rfl⟩, ?_, rfl⟩
  simp only [dropController, h]

/-- Closing a registry takes nothing away but the registry and its locks. -/
theorem collect_cases (w : World) (id : Nat) :
    (id ∈ w.references ∨ w.registries.get? id = none) ∧ w.collect id = w ∨
      id ∉ w.references ∧ ∃ r, w.registries.get? id = some r ∧
        w.collect id = { w with
          registries := w.registries.erase id
          site := (w.site.emit (.registryReleased r.devices.length)).release r.lockFiles } := by
  unfold collect
  by_cases hc : id ∈ w.references
  · exact Or.inl ⟨Or.inl hc, if_pos (List.contains_iff_mem.mpr hc)⟩
  · rw [if_neg fun h => hc (List.contains_iff_mem.mp h)]
    rcases hr : w.registries.get? id with _ | r
    · exact Or.inl ⟨Or.inr rfl, rfl⟩
    · exact Or.inr ⟨hc, r, rfl, rfl⟩

@[simp] theorem collect_handles (w : World) (id : Nat) : (w.collect id).handles = w.handles := by
  rcases w.collect_cases id with ⟨-, hc⟩ | ⟨-, r, -, hc⟩ <;> rw [hc]

@[simp] theorem collect_buffers (w : World) (id : Nat) : (w.collect id).buffers = w.buffers := by
  rcases w.collect_cases id with ⟨-, hc⟩ | ⟨-, r, -, hc⟩ <;> rw [hc]

@[simp] theorem collect_dispatchers (w : World) (id : Nat) :
    (w.collect id).dispatchers = w.dispatchers := by
  rcases w.collect_cases id with ⟨-, hc⟩ | ⟨-, r, -, hc⟩ <;> rw [hc]

@[simp] theorem collect_controllers (w : World) (id : Nat) :
    (w.collect id).controllers = w.controllers := by
  rcases w.collect_cases id with ⟨-, hc⟩ | ⟨-, r, -, hc⟩ <;> rw [hc]

/-- One reference to the registry is gone. As long as there is another one the registry stays, with
its locks; without one it is gone, and its locks are free. -/
structure LetsGo (w : World) (id : Nat) (w' : World) : Prop where
  references : w.references.Perm (id :: w'.references)
  locks : w'.locks = w.locks
  stays : id ∈ w'.references → w'.registries = w.registries ∧ w'.site.held = w.site.held
  goes : id ∉ w'.references →
    (∀ i, w'.registries.get? i = if id = i then none else w.registries.get? i) ∧
      ∀ f, f ∈ w'.site.held ↔
        f ∈ w.site.held ∧ ∀ r, w.registries.get? id = some r → f ∉ r.lockFiles

theorem Drops.letsGo (h : w.Drops id w₁) (hn : w.site.held.Nodup) :
    w.LetsGo id (w₁.collect id) := by
  have hheld := h.site.held
  rcases w₁.collect_cases id with ⟨hkept, hc⟩ | ⟨hlast, r, hr, hc⟩ <;> rw [hc]
  · refine ⟨h.references, h.locks, fun _ => ⟨h.registries, hheld⟩, fun hgone => ?_⟩
    -- nothing was there to be closed
    have hnone := h.registries ▸ hkept.resolve_left hgone
    refine ⟨fun i => ?_, fun f => ?_⟩
    · rw [h.registries]
      split
      · next he => rw [← he, hnone]
      · rfl
    · rw [hheld, hnone]
      exact ⟨fun hf => ⟨hf, fun _ => nofun⟩, And.left⟩
  · rw [h.registries] at hr
    refine ⟨h.references, h.locks, fun hstays => absurd hstays hlast,
      fun _ => ⟨fun i => ?_, fun f => ?_⟩⟩
    · rw [h.registries]
      exact Store.get?_erase _ _ _
    · have hdiff : ((w₁.site.emit (.registryReleased r.devices.length)).release r.lockFiles).held =
          w.site.held.diff r.lockFiles := by
        rw [Site.release_held_eq, ← hheld]
        rfl
      rw [hdiff, hn.mem_sdiff_iff, hr]
      simp only [Option.some.injEq, forall_eq']

end World

end Accelerator
