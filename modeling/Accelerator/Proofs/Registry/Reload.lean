import Accelerator.Proofs.Registry.Resident
import Accelerator.Proofs.Registry.Units

/-! Loading an image gives the device new kernels. The units of a registry that has loaded its image
have kernels that nobody can have known before. -/

namespace Accelerator

open Accelerator.Action

/-- The kernel is one of the image that was last loaded onto its device. -/
def Host.Offers (h : Host) (kernel : Kernel) : Prop :=
  ∃ d ∈ h.devices[kernel.device]?, kernel.load = d.loads

/-- An image was loaded onto the device on the way from one host to the other. -/
def Host.Reloaded (h h' : Host) (index : Nat) : Prop :=
  ∃ d' ∈ h'.devices[index]?, ∀ d ∈ h.devices[index]?, d.loads < d'.loads

namespace Host

variable {h h' h'' : Host} {kernel : Kernel} {index : Nat}

theorem Offers.knows (ho : h.Offers kernel) : h.Knows kernel := by
  obtain ⟨d, hd, hload⟩ := ho
  exact ⟨d, hd, Nat.le_of_eq hload⟩

theorem Reloaded.later (hr : h.Reloaded h' index) (hl : h'.Later h'') : h.Reloaded h'' index := by
  obtain ⟨d', hd', hlt⟩ := hr
  obtain ⟨d'', hd'', hle⟩ := hl index d' hd'
  exact ⟨d'', hd'', fun d hd => Nat.lt_of_lt_of_le (hlt d hd) hle⟩

theorem Reloaded.not_knows (hr : h.Reloaded h' kernel.device) (ho : h'.Offers kernel) :
    ¬ h.Knows kernel := by
  rintro ⟨d, hd, hle⟩
  obtain ⟨d', hd', hlt⟩ := hr
  obtain ⟨e, he, hload⟩ := ho
  obtain rfl : d' = e := Option.some.inj (hd'.symm.trans he)
  have hless := hlt d hd
  omega

theorem offers_of_openKernel {uuid : Uuid} {request : String}
    (hk : h.openKernel index uuid request = .ok kernel) : h.Offers kernel := by
  obtain ⟨d, hd, rfl⟩ := openKernel_ok hk
  exact ⟨d, hd, rfl⟩

end Host

namespace Opening

variable {o o' : Opening} {settings : Settings} {image : Image} {index : Nat} {lock : DeviceLock}
  {bound : BoundDevice} {r : Registry} {s t : Site} {h : Host}

theorem bindUnit_offers {name : String} {u : ComputeUnit}
    (hu : (bindUnit settings bound name).run s = (.ok u, t)) :
    t.host = s.host ∧ s.host.Offers u.kernel := by
  have hi : Inspects 0 (bindUnit settings bound name) := inspects_bindUnit settings bound name
  have halike := hi.alike s
  rw [hu] at halike
  refine ⟨halike.host, ?_⟩
  obtain ⟨_, _, hh, hu⟩ := bind_ok hu
  cases hh
  obtain ⟨kernel, v, hk, hu⟩ := bind_ok hu
  rw [run_ofExcept] at hk
  split at hk
  · next ho =>
    cases hk
    have hoffers := Host.offers_of_openKernel ho
    by_cases hv : 0 < settings.verbosity.devices <;> simp only [hv, if_true, if_false] at hu <;>
      cases hu <;> exact hoffers
  · cases hk

/-- What holds of each unit when it is bound holds of all that are found. -/
theorem findUnits_forall {P : Host → ComputeUnit → Prop}
    (hP : ∀ bound name u s t, (bindUnit o.settings bound name).run s = (.ok u, t) →
      t.host = s.host ∧ P s.host u)
    {units : UnitIndex} (hf : o.findUnits.run s = (.ok units, t)) :
    ∀ e ∈ units, P s.host e.2 := by
  have hkept : t.host = s.host ∧ ∀ e ∈ units, P s.host e.2 := by
    refine foldlM_keeps (P := fun (units : UnitIndex) t => t.host = s.host ∧
      ∀ e ∈ units, P s.host e.2) ?_ ⟨rfl, fun _ hm => absurd hm List.not_mem_nil⟩ hf
    rintro ⟨device, name⟩ - units units' t u ⟨hhost, hunits⟩ hr
    obtain ⟨c, v, hc, hr⟩ := bind_ok hr
    cases hr
    obtain ⟨hu, hc⟩ := hP device name c t u hc
    rw [hhost] at hc
    refine ⟨hu.trans hhost, fun e hm => ?_⟩
    rcases UnitIndex.mem_of_mem_insert hm with rfl | hm
    · exact hc
    · exact hunits e hm
  exact hkept.2

theorem finish_forall {P : Host → ComputeUnit → Prop}
    (hP : ∀ bound name u s t, (bindUnit o.settings bound name).run s = (.ok u, t) →
      t.host = s.host ∧ P s.host u)
    (hf : o.finish.run s = (.ok r, t)) : t.host = s.host ∧ ∀ e ∈ r.units, P s.host e.2 := by
  refine ⟨(finish_ok hf).1.host, ?_⟩
  unfold finish at hf
  rw [run_releasing] at hf
  rcases hx : o.register.run s with ⟨e | r', t⟩ <;> rw [hx] at hf <;> cases hf
  obtain ⟨-, -, u, v, halike, hu⟩ := findUnits_of_register hx
  have hunits := findUnits_forall hP hu
  rwa [halike.host] at hunits

theorem finish_offers (hf : o.finish.run s = (.ok r, t)) :
    t.host = s.host ∧ ∀ e ∈ r.units, s.host.Offers e.2.kernel :=
  finish_forall (P := fun h u => h.Offers u.kernel) (fun _ _ _ _ _ => bindUnit_offers) hf

theorem bindLocked_reloads (hl : h.Later s.host) (hskip : settings.skipImageLoad = false)
    (hb : (bindLocked settings image index lock).run s = (.ok bound, t)) :
    h.Reloaded t.host bound.index := by
  obtain ⟨d, hd⟩ := exists_of_bindLocked hb
  obtain ⟨-, hbinds, -, hsettles⟩ := (bindLocked_checks hd).of_ok hb
  have hlt := (List.getElem?_eq_some_iff.mp hd).1
  rw [hsettles.host, hbinds.index]
  refine ⟨d.settled settings image, List.getElem?_set_self hlt, fun d₀ hd₀ => ?_⟩
  -- loading counts one more than the device had, and this is no less than it had at first
  obtain ⟨d', hd', hle⟩ := hl index d₀ hd₀
  obtain rfl : d = d' := Option.some.inj (hd.symm.trans hd')
  have hloads : (d.settled settings image).loads = d.loads + 1 := by
    rw [Device.settled, hskip]
    rfl
  omega

/-- What the opening has bound by now was loaded since. -/
structure Reloads (h : Host) (o : Opening) (s : Site) : Prop where
  later : h.Later s.host
  bound : o.settings.skipImageLoad = false → ∀ bound ∈ o.bound, h.Reloaded s.host bound.index

theorem Reloads.ages (hr : o.Reloads h s) (ha : s.Ages t) : o.Reloads h t :=
  ⟨hr.later.trans ha.later, fun hskip bound hm => (hr.bound hskip bound hm).later ha.later⟩

theorem Reloads.bindNext (hr : o.Reloads h s) (hb : o.bindNext.run s = (.ok o', t)) :
    o'.Reloads h t := by
  have ha := bindNext_ages o s
  rw [hb] at ha
  have haged := hr.ages ha
  obtain ⟨hsettings, -, ⟨hbound, -⟩ | ⟨index, lock, bound, u, hbound, hhost, hlocked⟩⟩ :=
    bindNext_cases hb
  · refine ⟨haged.later, ?_⟩
    rw [hsettings, hbound]
    exact haged.bound
  · refine ⟨haged.later, fun hskip bound' hm => ?_⟩
    rw [hsettings] at hskip
    rw [hbound, List.mem_append, List.mem_singleton] at hm
    rcases hm with hm | rfl
    · exact haged.bound hskip bound' hm
    · exact bindLocked_reloads (hhost ▸ hr.later) hskip hlocked

theorem Reloads.bindUpTo {n : Nat} (hr : o.Reloads h s)
    (hb : (bindUpTo n o).run s = (.ok o', t)) : o'.Reloads h t :=
  bindUpTo_keeps (P := Reloads h) (fun _ _ _ _ hr hn => hr.bindNext hn) hr hb

/-- Of the kernels of a registry that has loaded its image none was known before. -/
theorem Reloads.finish (hr : o.Reloads h s) (hf : o.finish.run s = (.ok r, t))
    (hskip : r.settings.skipImageLoad = false) : ∀ e ∈ r.units, ¬ h.Knows e.2.kernel := by
  intro e hm
  obtain ⟨-, hsettings, hdevices, -⟩ := finish_ok hf
  obtain ⟨-, hoffers⟩ := finish_offers hf
  obtain ⟨-, -, hindexes⟩ := finish_indexes hf
  obtain ⟨device, name, hrequest, -, hfound⟩ := hindexes.found e hm
  have hbound := (mem_requests_iff.mp hrequest).1
  have hreloaded := hr.bound (hsettings ▸ hskip) device hbound
  rw [← hfound.kernelDevice] at hreloaded
  exact hreloaded.not_knows (hoffers e hm)

end Opening

end Accelerator
