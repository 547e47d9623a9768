import Accelerator.Proofs.Site.Action

/-! Actions that meet obstacles in a certain order, and stop at the first. -/

namespace Accelerator

/-- The error, unless the condition is met. -/
def demand {ε : Type} (ok : Prop) [Decidable ok] (e : ε) : List ε :=
  if ok then [] else [e]

def errorsOf {ε α : Type} : Except ε α → List ε
  | .ok _ => []
  | .error e => [e]

namespace Action

variable {ε α β : Type} {s t : Site} {obstacles obstacles' : List ε}

/-- The action stops with the first obstacle. Where there is none it succeeds, as described. -/
structure Checks (x : Action ε α) (s : Site) (obstacles : List ε) (post : α → Site → Prop) :
    Prop where
  stops : ∀ e, obstacles.head? = some e → ∃ t, x.run s = (.error (.error e), t)
  passes : obstacles = [] → ∃ a t, x.run s = (.ok a, t) ∧ post a t

namespace Checks

variable {x : Action ε α} {f : α → Action ε β} {post : α → Site → Prop} {post' : β → Site → Prop}

theorem pass {a : α} (h : x.run s = (.ok a, t)) (hp : post a t) : x.Checks s [] post :=
  ⟨fun _ => nofun, fun _ => ⟨a, t, h, hp⟩⟩

theorem stop {e : ε} (h : x.run s = (.error (.error e), t)) : x.Checks s (e :: obstacles) post :=
  ⟨fun _ he => ⟨t, Option.some.inj he ▸ h⟩, nofun⟩

theorem of_ok {a : α} (h : x.Checks s obstacles post) (hr : x.run s = (.ok a, t)) :
    obstacles = [] ∧ post a t := by
  cases obstacles with
  | nil =>
    obtain ⟨b, u, hb, hp⟩ := h.passes rfl
    cases hb.symm.trans hr
    exact ⟨rfl, hp⟩
  | cons e es =>
    obtain ⟨u, he⟩ := h.stops e rfl
    cases he.symm.trans hr

theorem imp {post₁ : α → Site → Prop} (h : x.Checks s obstacles post₁)
    (hp : ∀ a t, post₁ a t → post a t) : x.Checks s obstacles post := by
  refine ⟨h.stops, fun he => ?_⟩
  obtain ⟨a, t, hr, ha⟩ := h.passes he
  exact ⟨a, t, hr, hp a t ha⟩

/-- Only the first obstacle counts. -/
theorem congr (h : x.Checks s obstacles post) (hh : obstacles.head? = obstacles'.head?) :
    x.Checks s obstacles' post := by
  refine ⟨fun e he => h.stops e (hh.trans he), fun he => h.passes ?_⟩
  rw [he] at hh
  exact List.head?_eq_none_iff.mp hh

theorem bind (h : x.Checks s obstacles post)
    (hf : ∀ a t, post a t → (f a).Checks t obstacles' post') :
    (x >>= f).Checks s (obstacles ++ obstacles') post' := by
  cases obstacles with
  | cons e es =>
    obtain ⟨t, hr⟩ := h.stops e rfl
    exact stop (t := t) (by rw [run_bind, hr])
  | nil =>
    obtain ⟨a, t, hr, ha⟩ := h.passes rfl
    have hrun : (x >>= f).run s = (f a).run t := by rw [run_bind, hr]
    refine ⟨fun e he => ?_, fun he => ?_⟩
    · rw [hrun]
      exact (hf a t ha).stops e he
    · rw [hrun]
      exact (hf a t ha).passes he

/-- Nothing else is in the way. -/
theorem bind_nil (h : x.Checks s obstacles post)
    (hf : ∀ a t, post a t → (f a).Checks t [] post') : (x >>= f).Checks s obstacles post' := by
  rw [← List.append_nil obstacles]
  exact h.bind hf

theorem after {a : α} (hx : x.run s = (.ok a, t)) (h : (f a).Checks t obstacles post') :
    (x >>= f).Checks s obstacles post' := by
  have hpass : x.Checks s [] fun b u => b = a ∧ u = t := pass hx ⟨rfl, rfl⟩
  exact hpass.bind fun _ _ ⟨hb, hu⟩ => hb ▸ hu ▸ h

theorem demanding {ok : Prop} [Decidable ok] {e : ε}
    (hstop : ¬ ok → ∃ t, x.run s = (.error (.error e), t))
    (hpass : ok → x.Checks s obstacles post) : x.Checks s (demand ok e ++ obstacles) post := by
  by_cases h : ok
  · rw [demand, if_pos h]
    exact hpass h
  · obtain ⟨t, hr⟩ := hstop h
    rw [demand, if_neg h]
    exact stop hr

theorem ofExcept (r : Except ε α) (s : Site) :
    (ofExcept r).Checks s (errorsOf r) fun a t => r = .ok a ∧ t = s := by
  cases r with
  | ok a => exact pass rfl ⟨rfl, rfl⟩
  | error e => exact stop rfl

theorem reporting (report : ε → Event) (r : Except ε α) (s : Site) :
    (reporting report r).Checks s (errorsOf r) fun a t => r = .ok a ∧ t = s := by
  cases r with
  | ok a => exact pass rfl ⟨rfl, rfl⟩
  | error e => exact stop rfl

theorem releasing {files : List Location} (h : x.Checks s obstacles post) :
    (releasing files x).Checks s obstacles post := by
  refine ⟨fun e he => ?_, fun he => ?_⟩
  · obtain ⟨t, hr⟩ := h.stops e he
    exact ⟨t.release files, by rw [run_releasing, hr]⟩
  · obtain ⟨a, t, hr, ha⟩ := h.passes he
    exact ⟨a, t, by rw [run_releasing, hr], ha⟩

/-- A loop whose steps report at most: it meets the obstacles of one step after the other, and
what every step brings about holds at the end, if there was any. -/
theorem foldlM {f : β → α → Action ε β} {check : α → List ε} {P : β → Prop} {l : List α}
    (hf : ∀ a ∈ l, ∀ b t, s.Alike t → (f b a).Checks t (check a) fun b' u => t.Alike u ∧ P b')
    (b : β) : (l.foldlM f b).Checks s (l.flatMap check) fun b' t =>
      s.Alike t ∧ (l = [] → b' = b) ∧ (l ≠ [] → P b') := by
  -- each step starts from where the one before it has come to
  suffices h : ∀ t, s.Alike t → (l.foldlM f b).Checks t (l.flatMap check) fun b' u =>
      s.Alike u ∧ (l = [] → b' = b) ∧ (l ≠ [] → P b') from h s (Site.Alike.refl s)
  induction l generalizing b with
  | nil => exact fun t ht => pass rfl ⟨ht, fun _ => rfl, fun h => absurd rfl h⟩
  | cons a l ih =>
    intro t ht
    rw [List.foldlM_cons, List.flatMap_cons]
    refine (hf a List.mem_cons_self b t ht).bind fun b₁ u ⟨hu, hb₁⟩ => ?_
    refine (ih (fun a' hm => hf a' (List.mem_cons_of_mem a hm)) b₁ u (ht.trans hu)).imp ?_
    intro b₂ v ⟨hv, hnil, hcons⟩
    refine ⟨hv, nofun, fun _ => ?_⟩
    by_cases hl : l = []
    · exact hnil hl ▸ hb₁
    · exact hcons hl

end Checks

end Action

end Accelerator
