import Accelerator.Proofs.Registry.Reload
import Accelerator.Proofs.World.Acts

/-! Where the kernels of a world's registries and dispatchers come from, and which of them were
known at an earlier time. -/

namespace Accelerator

namespace World

variable {v w w' : World} {deed : Deed} {id : Nat}

/-- Registries and openings came about as they should, and no kernel is bound or written that was
not built for an image on its device. -/
structure Settled (w : World) : Prop where
  opening : ∀ id o, w.openings.get? id = some o → ∃ settings n, o.Arises settings n
  registry : ∀ id r, w.registries.get? id = some r →
    (∃ settings n, r.Made settings n) ∧ ∀ e ∈ r.units, w.site.host.Knows e.2.kernel
  dispatcher : ∀ id d, w.dispatchers.get? id = some d → d.registry < w.registries.next ∧
    ∀ u ∈ d.instances.map (·.unit), w.site.host.Knows u.kernel
  register : ∀ kernel offset value, w.site.host.registers.get? (kernel, offset) = some value →
    w.site.host.Knows kernel

namespace Settled

theorem start {site : Site} (h : site.host.registers = []) : Settled { site } where
  opening := fun _ _ => nofun
  registry := fun _ _ => nofun
  dispatcher := fun _ _ => nofun
  register := by
    intro kernel offset value hget
    simp only [h] at hget
    cases hget

theorem knows_of_write? (h : w.Settled) {x : RegisterWrite} (hx : w.write? deed = some x) :
    w.site.host.Knows x.kernel := by
  obtain ⟨id, r, e, -, hr, hm, -, hk⟩ | ⟨id, d, u, -, hd, hm, -, hk⟩ | ⟨-, hk⟩ := write?_cases hx
  · exact hk ▸ (h.registry id r hr).2 e hm
  · exact hk ▸ (h.dispatcher id d hd).2 u hm
  · exact hk

theorem opens {n : Nat} {directory : Option String} (h : w.Settled)
    (hopens : Opens n directory w w') :
    (∀ id o, w'.openings.get? id = some o → ∃ settings n, o.Arises settings n) ∧
      ∀ id r, w'.registries.get? id = some r →
        (∃ settings n, r.Made settings n) ∧ ∀ e ∈ r.units, w'.site.host.Knows e.2.kernel := by
  obtain ⟨hkept, hmade⟩ := hopens.keeps (k := 0) (P := fun o _ => ∃ settings n, o.Arises settings n)
    (fun _ _ _ _ ho => ho) (fun settings o s t _ hs => ⟨settings, _, .start rfl hs⟩)
    (fun m o o' s t hb ho => ho.imp fun _ ho => ho.imp fun _ ho => ho.bind hb)
    (fun id o _ hid => h.opening id o hid)
  refine ⟨fun id o hid => hkept id o (Nat.zero_le id) hid, fun id r hr => ?_⟩
  rcases hmade id r hr with hr | ⟨-, o, s, t, hp, hf, ha, hP⟩
  · obtain ⟨hmade, hknown⟩ := h.registry id r hr
    exact ⟨hmade, fun e hm => (hknown e hm).later hopens.ages.later⟩
  · obtain ⟨settings, m, ho⟩ := hP (Nat.zero_le n)
    obtain ⟨hhost, hoffers⟩ := Opening.finish_offers hf
    refine ⟨⟨settings, m, .finish ho hp hf⟩, fun e hm => ?_⟩
    exact (hhost ▸ (hoffers e hm).knows).later ha.later

theorem act (h : w.Settled) (deed : Deed) : (w.act deed).Settled := by
  have hacts := w.acts deed
  have hlater := hacts.later
  obtain ⟨hopening, hregistry⟩ : (∀ id o, (w.act deed).openings.get? id = some o →
      ∃ settings n, o.Arises settings n) ∧ ∀ id r, (w.act deed).registries.get? id = some r →
        (∃ settings n, r.Made settings n) ∧
          ∀ e ∈ r.units, (w.act deed).site.host.Knows e.2.kernel := by
    rcases hacts.opens_or_same with hopens | ⟨ho, hr⟩
    · exact h.opens hopens
    · refine ⟨fun id o hid => h.opening id o (ho ▸ hid), fun id r' hr' => ?_⟩
      obtain ⟨r, stripeSlot, hr, rfl⟩ := hr id r' hr'
      obtain ⟨⟨settings, n, hmade⟩, hknown⟩ := h.registry id r hr
      exact ⟨⟨settings, n, hmade.place stripeSlot⟩, fun e hm => (hknown e hm).later hlater⟩
  refine ⟨hopening, hregistry, fun id d hd => ?_, fun kernel offset value hget => ?_⟩
  · obtain ⟨d₀, hd₀, hid, -, hunits⟩ | ⟨r, hr, hunits⟩ := hacts.dispatcher hd
    · obtain ⟨hlt, hknown⟩ := h.dispatcher id d₀ hd₀
      refine ⟨hid ▸ Nat.lt_of_lt_of_le hlt hacts.registries_next_le, fun u hm => ?_⟩
      exact (hknown u (hunits ▸ hm)).later hlater
    · have hlt := Store.lt_next_of_get? hr
      refine ⟨Nat.lt_of_lt_of_le hlt hacts.registries_next_le, fun u hm => ?_⟩
      obtain ⟨e, he, rfl⟩ := Registry.mem_units_of_matching (hunits ▸ hm)
      exact ((h.registry _ r hr).2 e he).later hlater
  · -- a register is written before or by the deed, and either way its kernel was known
    obtain ⟨host, ha, he⟩ := hacts.host
    rcases hx : w.write? deed with _ | x <;> rw [hx] at he <;> simp only [Option.elim] at he
    · rw [he, ha.registers] at hget
      exact (h.register kernel offset value hget).later hlater
    · rw [he, Host.writeRegister] at hget
      simp only [Table.get?_put] at hget
      split at hget
      · next hkey =>
        cases hkey
        exact (h.knows_of_write? hx).later hlater
      · rw [ha.registers] at hget
        exact (h.register kernel offset value hget).later hlater

theorem acts (h : w.Settled) (history : List Deed) : (history.foldl World.act w).Settled :=
  acts_keep (fun _ deed h => h.act deed) h history

end Settled

/-- Openings that were begun since have loaded their images since. -/
structure Since (v w : World) : Prop where
  later : v.site.host.Later w.site.host
  next : v.openings.next ≤ w.openings.next
  opening : ∀ id o, v.openings.next ≤ id → w.openings.get? id = some o →
    o.Reloads v.site.host w.site

namespace Since

theorem refl (v : World) : Since v v := by
  refine ⟨Host.Later.refl _, Nat.le_refl _, fun id o hle hid => ?_⟩
  have hlt := Store.lt_next_of_get? hid
  omega

/-- The kernels of a registry that has loaded its image since were not known then. -/
theorem opens {n : Nat} {directory : Option String} (h : Since v w)
    (hopens : Opens n directory w w') :
    Since v w' ∧ ∀ id r, w'.registries.get? id = some r → w.registries.get? id = some r ∨
      w.registries.next ≤ id ∧ (v.openings.next ≤ n → r.settings.skipImageLoad = false →
        ∀ e ∈ r.units, ¬ v.site.host.Knows e.2.kernel) := by
  have hstart : ∀ settings (o : Opening) s t, w.site.Ages s →
      (Opening.start settings).run s = (.ok o, t) → o.Reloads v.site.host t := by
    intro settings o s t ha hs
    -- it has bound nothing yet
    have halike := Opening.start_alike hs
    refine ⟨h.later.trans (halike.host ▸ ha.later), fun _ bound hm => ?_⟩
    rw [(Opening.start_ok hs).2] at hm
    cases hm
  obtain ⟨hkept, hmade⟩ := hopens.keeps (fun _ _ _ ha hr => hr.ages ha) hstart
    (fun _ _ _ _ _ hb hr => hr.bindUpTo hb) h.opening
  refine ⟨⟨h.later.trans hopens.ages.later, Nat.le_trans h.next hopens.frame.openings, hkept⟩,
    fun id r hr => ?_⟩
  rcases hmade id r hr with hr | ⟨hid, o, s, t, -, hf, -, hP⟩
  · exact Or.inl hr
  · exact Or.inr ⟨hid, fun hn hskip => (hP hn).finish hf hskip⟩

theorem act (h : Since v w) (deed : Deed) : Since v (w.act deed) := by
  have hacts := w.acts deed
  rcases hacts.opens_or_same with hopens | ⟨ho, -⟩
  · exact (h.opens hopens).1
  · have hlater := hacts.later
    refine ⟨h.later.trans hlater, ho ▸ h.next, fun id o hle hid => ?_⟩
    have hr := h.opening id o hle (ho ▸ hid)
    exact ⟨hr.later.trans hlater, fun hskip bound hm => (hr.bound hskip bound hm).later hlater⟩

theorem acts (v : World) (history : List Deed) : Since v (history.foldl World.act v) :=
  acts_keep (fun _ deed h => h.act deed) (refl v) history

end Since

end World

end Accelerator
