import Accelerator.Proofs.Registry.Obstacles

/-! Which image is on a bound device. An opening that loads its image finds it there; one that
trusts the devices finds what they had. -/

namespace Accelerator

/-- Every bound device has an image, and it is this one if the opening has loaded it. -/
def Host.Provides (h : Host) (settings : Settings) (image : Image) (devices : List BoundDevice) :
    Prop :=
  ∀ bound ∈ devices, ∃ (d : Device) (resident : Image),
    h.devices[bound.index]? = some d ∧ d.resident = some resident ∧
      (settings.skipImageLoad = false → resident = image)

namespace Host.Provides

variable {h h' : Host} {settings : Settings} {image : Image} {devices devices' : List BoundDevice}

theorem nil : h.Provides settings image [] := fun _ => nofun

theorem append (hp : h.Provides settings image devices)
    (hp' : h.Provides settings image devices') :
    h.Provides settings image (devices ++ devices') := by
  intro bound hm
  rcases List.mem_append.mp hm with hm | hm
  · exact hp bound hm
  · exact hp' bound hm

/-- Whatever else becomes of the devices, their images stay. -/
theorem keep (hp : h.Provides settings image devices)
    (hk : ∀ bound ∈ devices, ∀ d : Device, h.devices[bound.index]? = some d →
      ∃ d' : Device, h'.devices[bound.index]? = some d' ∧ d'.resident = d.resident) :
    h'.Provides settings image devices := by
  intro bound hm
  obtain ⟨d, resident, hd, hr, hi⟩ := hp bound hm
  obtain ⟨d', hd', hr'⟩ := hk bound hm d hd
  exact ⟨d', resident, hd', hr'.trans hr, hi⟩

end Host.Provides

namespace Opening

open Accelerator.Action

variable {o o' : Opening} {settings : Settings} {image : Image} {index : Nat} {lock : DeviceLock}
  {bound : BoundDevice} {r : Registry} {s t : Site}

theorem exists_of_bindLocked
    (h : (bindLocked settings image index lock).run s = (.ok bound, t)) :
    ∃ d, s.host.devices[index]? = some d := by
  obtain ⟨_, _, hh, h⟩ := bind_ok h
  cases hh
  obtain ⟨d, _, hd, -⟩ := bind_ok h
  rw [run_ofExcept] at hd
  split at hd
  · next d' ho => exact ⟨d', Host.openDevice_eq_ok_iff.mp ho⟩
  · cases hd

theorem bindLocked_provides
    (h : (bindLocked settings image index lock).run s = (.ok bound, t)) :
    t.host.Provides settings image [bound] := by
  obtain ⟨d, hd⟩ := exists_of_bindLocked h
  obtain ⟨-, hbinds, -, hsettles⟩ := (bindLocked_checks hd).of_ok h
  intro bound' hm
  obtain rfl := List.mem_singleton.mp hm
  obtain ⟨resident, hr, -⟩ := Option.map_eq_some_iff.mp hbinds.uuid
  have hlt := (List.getElem?_eq_some_iff.mp hd).1
  refine ⟨d.settled settings image, resident, ?_, hr, fun hload => ?_⟩
  · rw [hsettles.host, hbinds.index]
    exact List.getElem?_set_self hlt
  · rw [Device.settled, hload] at hr
    exact (Option.some.inj hr).symm

/-- Binding adds at most one device, right after its image was seen to. -/
theorem bindNext_cases (h : o.bindNext.run s = (.ok o', t)) :
    o'.settings = o.settings ∧ o'.image = o.image ∧
      (o'.bound = o.bound ∧ t.host = s.host ∨
        ∃ index lock bound u, o'.bound = o.bound ++ [bound] ∧ u.host = s.host ∧
          (bindLocked o.settings o.image index lock).run u = (.ok bound, t)) := by
  cases bindNext_turn h with
  | complete hp => exact ⟨rfl, rfl, Or.inl ⟨rfl, rfl⟩⟩
  | waits hp ha => exact ⟨rfl, rfl, Or.inl ⟨rfl, ha.host⟩⟩
  | binds hp ha hb => exact ⟨rfl, rfl, Or.inr ⟨_, _, _, _, rfl, ha.host, hb⟩⟩

/-- The devices bound so far are locked, and have their images. -/
structure Equipped (o : Opening) (s : Site) : Prop where
  held : ∀ bound ∈ o.bound, DeviceLock.place o.settings.lockDirectory bound.index ∈ s.held
  provides : s.host.Provides o.settings o.image o.bound

theorem Equipped.bindNext (he : o.Equipped s) (h : o.bindNext.run s = (.ok o', t)) :
    o'.Equipped t := by
  have hproceeds := bindNext_ok h
  obtain ⟨hsettings, himage, hbound⟩ := bindNext_cases h
  -- the lock of the next device was free, so none of those before is bound again
  have hkept : t.host.Provides o.settings o.image o.bound := by
    refine he.provides.keep fun bound hm d hd => ⟨d, ?_, rfl⟩
    rw [hproceeds.spares _ (he.held bound hm)]
    exact hd
  refine ⟨fun bound hm => ?_, ?_⟩
  · rw [hsettings]
    rcases hproceeds.held_of_mem hm with hm | hheld
    · exact hproceeds.mem_held (he.held bound hm)
    · exact hheld
  · rw [hsettings, himage]
    rcases hbound with ⟨hb, -⟩ | ⟨_, _, bound, _, hb, -, hlocked⟩
    · rw [hb]
      exact hkept
    · rw [hb]
      exact hkept.append (bindLocked_provides hlocked)

theorem Equipped.bindUpTo {n : Nat} (he : o.Equipped s)
    (h : (bindUpTo n o).run s = (.ok o', t)) : o'.Equipped t :=
  bindUpTo_keeps (P := Equipped) (fun _ _ _ _ he hn => he.bindNext hn) he h

theorem finish_registers (h : o.finish.run s = (.ok r, t)) : o.Registers r ∧ t.host = s.host := by
  obtain ⟨halike, hsettings, hdevices, -⟩ := finish_ok h
  rw [finish, run_releasing] at h
  rcases hx : o.register.run s with ⟨e | r', u⟩ <;> rw [hx] at h <;> cases h
  obtain ⟨bank, v, hbank, hx⟩ := bind_ok hx
  obtain ⟨units, _, -, hx⟩ := bind_ok hx
  obtain ⟨_, _, -, hx⟩ := bind_ok hx
  cases hx
  obtain ⟨-, hused, -⟩ := (findBank_checks o.image s).of_ok hbank
  exact ⟨⟨rfl, rfl, rfl, hused⟩, halike.host⟩

end Opening

theorem Image.used_of_firstUsedBank {image : Image} {n : Nat}
    (h : image.firstUsedBank = some n) : ∃ bank, image.banks[n]? = some bank ∧ bank.used = true := by
  obtain ⟨hlt, hused, -⟩ := List.findIdx?_eq_some_iff_getElem.mp h
  exact ⟨image.banks[n], List.getElem?_eq_getElem hlt, hused⟩

/-- The bank of the registry is the first used one of its image, and its devices have images as
they had when they were bound. -/
structure Registry.Equipped (r : Registry) (h : Host) : Prop where
  bank : r.image.firstUsedBank = some r.bank
  provides : h.Provides r.settings r.image r.devices

namespace Registry.Equipped

variable {r : Registry} {h h' : Host}

theorem withSlot (he : r.Equipped h) (stripeSlot : Nat) :
    Equipped { r with stripeSlot } h :=
  ⟨he.bank, he.provides⟩

end Registry.Equipped

/-- The bank of the registry is in use in the image on each of its devices, where this image was
loaded or has the same bank at this place. -/
structure Registry.Banked (r : Registry) (h : Host) : Prop where
  first : r.image.firstUsedBank = some r.bank
  used : ∀ bound ∈ r.devices, ∃ (d : Device) (resident : Image),
    h.devices[bound.index]? = some d ∧ d.resident = some resident ∧
      (r.settings.skipImageLoad = false ∨
          resident.banks[r.bank]? = r.image.banks[r.bank]? →
        ∃ bank, resident.banks[r.bank]? = some bank ∧ bank.used = true)

theorem Registry.Equipped.banked {r : Registry} {h : Host} (he : r.Equipped h) : r.Banked h := by
  refine ⟨he.bank, fun bound hm => ?_⟩
  obtain ⟨d, resident, hd, hr, hi⟩ := he.provides bound hm
  obtain ⟨bank, hbank, hused⟩ := Image.used_of_firstUsedBank he.bank
  refine ⟨d, resident, hd, hr, fun hcase => ⟨bank, ?_, hused⟩⟩
  rcases hcase with hload | hsame
  · rw [hi hload]
    exact hbank
  · exact hsame.trans hbank

end Accelerator
