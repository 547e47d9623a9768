import Accelerator.Site.Basic

/-! What an action comes to, part by part, and actions that do nothing but report. -/

namespace Accelerator

namespace Action

variable {ε α β : Type}

theorem run_bind (x : Action ε α) (f : α → Action ε β) (s : Site) :
    (x >>= f).run s =
      match x.run s with
      | (.ok a, t) => (f a).run t
      | (.error e, t) => (.error e, t) := by
  rcases h : x.run s with ⟨e | a, t⟩ <;>
    simp only [ExceptT.run, bind, ExceptT.bind, ExceptT.mk, StateT.bind] at h ⊢ <;>
    rw [h] <;> rfl

theorem run_fault (f : Fault) (s : Site) :
    (fault f : Action ε α).run s = (.error (.fault f), s) := rfl

theorem run_get (s : Site) : (get : Action ε Site).run s = (.ok s, s) := rfl

theorem run_modify (f : Site → Site) (s : Site) :
    (modify f : Action ε PUnit).run s = (.ok ⟨⟩, f s) := rfl

theorem run_emit (e : Event) (s : Site) :
    (emit e : Action ε Unit).run s = (.ok (), s.emit e) := rfl

theorem run_host (s : Site) : (host : Action ε Host).run s = (.ok s.host, s) := rfl

theorem run_ofExcept (r : Except ε α) (s : Site) :
    (ofExcept r).run s =
      match r with
      | .ok a => (.ok a, s)
      | .error e => (.error (.error e), s) := by
  cases r <;> rfl

theorem run_reporting (report : ε → Event) (r : Except ε α) (s : Site) :
    (reporting report r).run s =
      match r with
      | .ok a => (.ok a, s)
      | .error e => (.error (.error e), s.emit (report e)) := by
  cases r <;> rfl

theorem run_onHost (f : Host → Except ε (α × Host)) (s : Site) :
    (onHost f).run s =
      match f s.host with
      | .ok (a, host) => (.ok a, { s with host })
      | .error e => (.error (.error e), s) := by
  unfold onHost
  rw [run_bind]
  rcases h : f s.host with e | ⟨a, host⟩ <;> simp only [run_get, h] <;> rfl

theorem run_releasing (files : List Location) (x : Action ε α) (s : Site) :
    (releasing files x).run s =
      match x.run s with
      | (.ok a, t) => (.ok a, t)
      | (.error e, t) => (.error e, t.release files) := by
  rcases h : x.run s with ⟨e | a, t⟩ <;>
    simp only [releasing, ExceptT.run_mk, bind, StateT.bind, h] <;> rfl

theorem bind_ok {x : Action ε α} {f : α → Action ε β} {b : β} {s t : Site}
    (h : (x >>= f).run s = (.ok b, t)) :
    ∃ a u, x.run s = (.ok a, u) ∧ (f a).run u = (.ok b, t) := by
  rw [run_bind] at h
  rcases hx : x.run s with ⟨e | a, u⟩ <;> rw [hx] at h
  · cases h
  · exact ⟨a, u, rfl, h⟩

/-- What is known of a fold may depend on the part of the list that is done. -/
theorem foldlM_ok_append {f : β → α → Action ε β} {P : List α → β → Prop} {l : List α}
    (hf : ∀ a ∈ l, ∀ done b b' s t, P done b → (f b a).run s = (.ok b', t) → P (done ++ [a]) b')
    (done : List α) {b b' : β} {s t : Site} (h : P done b)
    (hr : (l.foldlM f b).run s = (.ok b', t)) : P (done ++ l) b' := by
  induction l generalizing done b s with
  | nil =>
    cases hr
    rwa [List.append_nil]
  | cons a l ih =>
    rw [List.foldlM_cons] at hr
    obtain ⟨c, u, hc, hr⟩ := bind_ok hr
    have hstep := hf a List.mem_cons_self done b c s u h hc
    have hrest := ih (fun a' hm => hf a' (List.mem_cons_of_mem a hm)) _ hstep hr
    rwa [List.append_assoc, List.singleton_append] at hrest

theorem foldlM_keeps {f : β → α → Action ε β} {P : β → Site → Prop} {l : List α}
    (hf : ∀ a ∈ l, ∀ b b' s t, P b s → (f b a).run s = (.ok b', t) → P b' t) {b b' : β}
    {s t : Site} (h : P b s) (hr : (l.foldlM f b).run s = (.ok b', t)) : P b' t := by
  induction l generalizing b s with
  | nil =>
    cases hr
    exact h
  | cons a l ih =>
    rw [List.foldlM_cons] at hr
    obtain ⟨c, u, hc, hr⟩ := bind_ok hr
    have hstep := hf a List.mem_cons_self b c s u h hc
    exact ih (fun a' hm => hf a' (List.mem_cons_of_mem a hm)) hstep hr

theorem foldlM_ok {f : β → α → Action ε β} {P : β → Prop} {l : List α}
    (hf : ∀ a ∈ l, ∀ b b' s t, P b → (f b a).run s = (.ok b', t) → P b') {b b' : β} {s t : Site}
    (h : P b) (hr : (l.foldlM f b).run s = (.ok b', t)) : P b' :=
  foldlM_keeps (P := fun b _ => P b) hf h hr

end Action

/-- The two sites differ at most in the events reported and in the time. -/
structure Site.Alike (s t : Site) : Prop where
  host : t.host = s.host
  files : t.files = s.files
  held : t.held = s.held

namespace Site.Alike

theorem refl (s : Site) : s.Alike s := ⟨rfl, rfl, rfl⟩

theorem trans {s t u : Site} (h : s.Alike t) (h' : t.Alike u) : s.Alike u :=
  ⟨h'.host.trans h.host, h'.files.trans h.files, h'.held.trans h.held⟩

theorem emit (s : Site) (e : Event) : s.Alike (s.emit e) := ⟨rfl, rfl, rfl⟩

theorem emitAll (s : Site) (es : List Event) : s.Alike (s.emitAll es) := by
  induction es generalizing s with
  | nil => exact refl s
  | cons e es ih => exact (emit s e).trans (ih (s.emit e))

end Site.Alike

namespace Action

/-- However it ends, the action takes the site no further than the relation says. -/
def Within {ε α : Type} (rel : Site → Site → Prop) (x : Action ε α) : Prop :=
  ∀ s : Site, rel s (x.run s).2

end Action

end Accelerator
