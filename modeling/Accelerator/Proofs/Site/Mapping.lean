import Accelerator.Proofs.Site.Action

/-! Sites that differ in whether a device maps what it allocates into the host, and actions
that do not see the difference. -/

namespace Accelerator

def Device.withUnified (unified : Bool) (d : Device) : Device :=
  { d with unified }

namespace Host

def withUnified (device : Nat) (unified : Bool) (h : Host) : Host :=
  h.modifyDevice device (Device.withUnified unified)

variable {device index : Nat} {unified : Bool} {h : Host}

theorem devices_withUnified :
    (h.withUnified device unified).devices[index]? =
      h.devices[index]?.map fun d => if device = index then d.withUnified unified else d :=
  List.getElem?_modify ..

theorem deviceCount_withUnified : (h.withUnified device unified).deviceCount = h.deviceCount :=
  List.length_modify ..

theorem openDevice_withUnified :
    (h.withUnified device unified).openDevice index = (h.openDevice index).map fun d =>
      if device = index then d.withUnified unified else d := by
  unfold openDevice
  rw [devices_withUnified, deviceCount_withUnified]
  rcases h.devices[index]? with _ | d <;> rfl

theorem setDevice_withUnified (d : Device) :
    (h.withUnified device unified).setDevice index
        (if device = index then d.withUnified unified else d) =
      (h.setDevice index d).withUnified device unified := by
  unfold withUnified modifyDevice setDevice
  congr 1
  refine List.ext_getElem? fun i => ?_
  simp only [List.getElem?_set, List.getElem?_modify, List.length_modify]
  by_cases hi : index = i
  · subst hi
    by_cases hl : index < h.devices.length <;> by_cases hd : device = index <;> simp [hl, hd]
  · simp [hi]

theorem loadImage_withUnified (image : Image) :
    (h.withUnified device unified).loadImage index image =
      (h.loadImage index image).map fun r => (r.1, r.2.withUnified device unified) := by
  unfold loadImage
  rw [openDevice_withUnified]
  rcases h.openDevice index with e | d
  · rfl
  · have hl : (if device = index then d.withUnified unified else d).load image =
        if device = index then (d.load image).withUnified unified else d.load image := by
      split <;> rfl
    have hr : (if device = index then (d.load image).withUnified unified else d.load image).reported
        image.uuid = (d.load image).reported image.uuid := by
      split <;> rfl
    simp only [Except.map, bind, Except.bind, pure, Except.pure, hl, hr, setDevice_withUnified]

theorem imageUuid?_withUnified :
    (h.withUnified device unified).imageUuid? index = h.imageUuid? index := by
  unfold imageUuid?
  rw [devices_withUnified]
  rcases h.devices[index]? with _ | d
  · rfl
  · by_cases hd : device = index
    · simp only [Option.map_some, Option.bind_some, hd, if_true]
      rfl
    · simp only [Option.map_some, Option.bind_some, hd, if_false]

theorem openKernel_withUnified (uuid : Uuid) (request : String) :
    (h.withUnified device unified).openKernel index uuid request =
      h.openKernel index uuid request := by
  unfold openKernel
  rw [openDevice_withUnified]
  rcases h.openDevice index with e | d
  · rfl
  · by_cases hd : device = index
    · simp only [Except.map, bind, Except.bind, hd, if_true]
      rfl
    · simp only [Except.map, bind, Except.bind, hd, if_false]

end Host

def Site.withUnified (device : Nat) (unified : Bool) (s : Site) : Site :=
  { s with host := s.host.withUnified device unified }

theorem Site.emitAll_append (s : Site) (es es' : List Event) :
    s.emitAll (es ++ es') = (s.emitAll es).emitAll es' :=
  List.foldl_append ..

theorem Site.emitAll_withUnified {device : Nat} {unified : Bool} (s : Site) (es : List Event) :
    (s.withUnified device unified).emitAll es = (s.emitAll es).withUnified device unified := by
  induction es generalizing s with
  | nil => rfl
  | cons e es ih => exact ih (s.emit e)

theorem Site.files_withUnified {device : Nat} {unified : Bool} {s : Site} :
    (s.withUnified device unified).files = s.files := rfl

namespace Action

variable {ε α β : Type} {device : Nat} {unified : Bool}

/-- The action does the same whatever the device maps. -/
def Blind (device : Nat) (unified : Bool) (x : Action ε α) : Prop :=
  ∀ s : Site, x.run (s.withUnified device unified) =
    ((x.run s).1, (x.run s).2.withUnified device unified)

namespace Blind

theorem pure (a : α) : Blind device unified (pure a : Action ε α) := fun _ => rfl

theorem fail (e : ε) : Blind device unified (fail e : Action ε α) := fun _ => rfl

theorem emit (e : Event) : Blind device unified (emit e : Action ε Unit) := fun _ => rfl

theorem modify {f : Site → Site}
    (hf : ∀ s, f (s.withUnified device unified) = (f s).withUnified device unified) :
    Blind device unified (modify f : Action ε PUnit) := fun s => by
  rw [run_modify, run_modify, hf]

theorem ofExcept (r : Except ε α) : Blind device unified (ofExcept r) := fun s => by
  rw [run_ofExcept, run_ofExcept]
  cases r <;> rfl

theorem bind {x : Action ε α} {f : α → Action ε β} (hx : Blind device unified x)
    (hf : ∀ a, Blind device unified (f a)) : Blind device unified (x >>= f) := by
  intro s
  rw [run_bind, run_bind, hx s]
  rcases hr : x.run s with ⟨e | a, t⟩
  · rfl
  · exact hf a t

theorem get_bind {f : Site → Action ε α} (hs : ∀ s, f (s.withUnified device unified) = f s)
    (hf : ∀ s, Blind device unified (f s)) : Blind device unified (get >>= f) := by
  intro s
  rw [run_bind, run_bind, run_get, run_get]
  simp only [hs]
  exact hf s s

theorem host_bind {f : Host → Action ε α} (hs : ∀ h, f (h.withUnified device unified) = f h)
    (hf : ∀ h, Blind device unified (f h)) : Blind device unified (host >>= f) := by
  intro s
  rw [run_bind, run_bind, run_host, run_host]
  have hh := hs s.host
  simp only [Site.withUnified, hh]
  exact hf s.host s

theorem onHost {f : Host → Except ε (α × Host)}
    (hf : ∀ h, f (h.withUnified device unified) =
      (f h).map fun r => (r.1, r.2.withUnified device unified)) :
    Blind device unified (onHost f) := by
  intro s
  have hh := hf s.host
  simp only [run_onHost, Site.withUnified, hh]
  rcases f s.host with e | ⟨a, h⟩ <;> rfl

theorem releasing {files : List Location} {x : Action ε α} (hx : Blind device unified x) :
    Blind device unified (releasing files x) := by
  intro s
  rw [run_releasing, run_releasing, hx s]
  rcases x.run s with ⟨e | a, t⟩ <;> rfl

end Blind

/-- The action reports at most, and what it reports does not depend on what the device maps. -/
def Inspects (device : Nat) (x : Action ε α) : Prop :=
  ∀ s : Site, ∃ r es, x.run s = (r, s.emitAll es) ∧ ∀ unified,
    x.run (s.withUnified device unified) = (r, (s.withUnified device unified).emitAll es)

namespace Inspects

theorem blind {x : Action ε α} (hx : Inspects device x) : Blind device unified x := by
  intro s
  obtain ⟨r, es, hs, hu⟩ := hx s
  rw [hs, hu, Site.emitAll_withUnified]

theorem alike {x : Action ε α} (hx : Inspects device x) (s : Site) : s.Alike (x.run s).2 := by
  obtain ⟨r, es, hs, -⟩ := hx s
  rw [hs]
  exact Site.Alike.emitAll s es

theorem pure (a : α) : Inspects device (pure a : Action ε α) :=
  fun _ => ⟨.ok a, [], rfl, fun _ => rfl⟩

theorem fail (e : ε) : Inspects device (fail e : Action ε α) :=
  fun _ => ⟨.error (.error e), [], rfl, fun _ => rfl⟩

theorem emit (e : Event) : Inspects device (emit e : Action ε Unit) :=
  fun _ => ⟨.ok (), [e], rfl, fun _ => rfl⟩

theorem ofExcept (r : Except ε α) : Inspects device (ofExcept r) := by
  cases r with
  | ok a => exact pure a
  | error e => exact fail e

theorem bind {x : Action ε α} {f : α → Action ε β} (hx : Inspects device x)
    (hf : ∀ a, Inspects device (f a)) : Inspects device (x >>= f) := by
  intro s
  obtain ⟨r, es, hs, hu⟩ := hx s
  rcases r with e | a
  · refine ⟨.error e, es, ?_, fun unified => ?_⟩
    · rw [run_bind, hs]
    · rw [run_bind, hu]
  · obtain ⟨r, es', hs', hu'⟩ := hf a (s.emitAll es)
    refine ⟨r, es ++ es', ?_, fun unified => ?_⟩
    · rw [run_bind, hs, Site.emitAll_append]
      exact hs'
    · rw [run_bind, hu, Site.emitAll_append, Site.emitAll_withUnified]
      exact hu' unified

theorem reporting (report : ε → Event) (r : Except ε α) : Inspects device (reporting report r) := by
  cases r with
  | ok a => exact pure a
  | error e => exact bind (emit (report e)) fun _ => fail e

theorem get_bind {f : Site → Action ε α}
    (hs : ∀ s unified, f (s.withUnified device unified) = f s)
    (hf : ∀ s, Inspects device (f s)) : Inspects device (get >>= f) := by
  intro s
  obtain ⟨r, es, hs', hu⟩ := hf s s
  refine ⟨r, es, hs', fun unified => ?_⟩
  rw [run_bind, run_get]
  simp only [hs]
  exact hu unified

theorem host_bind {f : Host → Action ε α}
    (hs : ∀ h unified, f (h.withUnified device unified) = f h)
    (hf : ∀ h, Inspects device (f h)) : Inspects device (host >>= f) := by
  intro s
  obtain ⟨r, es, hs', hu⟩ := hf s.host s
  refine ⟨r, es, hs', fun unified => ?_⟩
  have hh := hs s.host unified
  rw [run_bind, run_host]
  simp only [Site.withUnified, hh]
  exact hu unified

theorem foldlM {f : β → α → Action ε β} (hf : ∀ b a, Inspects device (f b a)) (l : List α)
    (b : β) : Inspects device (l.foldlM f b) := by
  induction l generalizing b with
  | nil => exact pure b
  | cons a l ih =>
    rw [List.foldlM_cons]
    exact bind (hf b a) fun b' => ih b'

end Inspects

end Action

end Accelerator
