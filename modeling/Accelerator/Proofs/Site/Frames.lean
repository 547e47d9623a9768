import Accelerator.Proofs.Site.Attempt
import Accelerator.Proofs.Site.Mapping

/-! What is left of a site by all that goes on in it. Each part of the library is gone through once,
for the closest of these relations that it keeps to. -/

namespace Accelerator

/-- The devices are there, with at least as many loads. -/
def Host.Later (h h' : Host) : Prop :=
  ∀ (i : Nat) (d : Device), h.devices[i]? = some d →
    ∃ d' : Device, h'.devices[i]? = some d' ∧ d.loads ≤ d'.loads

theorem Host.Later.refl (h : Host) : h.Later h := fun _ d hd => ⟨d, hd, Nat.le_refl _⟩

theorem Host.Later.trans {h h' h'' : Host} (hl : h.Later h') (hl' : h'.Later h'') :
    h.Later h'' := by
  intro i d hd
  obtain ⟨d', hd', hle⟩ := hl i d hd
  obtain ⟨d'', hd'', hle'⟩ := hl' i d' hd'
  exact ⟨d'', hd'', Nat.le_trans hle hle'⟩

/-- The kernel was built for an image that was loaded onto its device. -/
def Host.Knows (h : Host) (kernel : Kernel) : Prop :=
  ∃ d ∈ h.devices[kernel.device]?, kernel.load ≤ d.loads

instance (h : Host) (kernel : Kernel) : Decidable (h.Knows kernel) :=
  inferInstanceAs (Decidable (∃ d ∈ h.devices[kernel.device]?, kernel.load ≤ d.loads))

theorem Host.Knows.later {h h' : Host} {kernel : Kernel} (hk : h.Knows kernel)
    (hl : h.Later h') : h'.Knows kernel := by
  obtain ⟨d, hd, hle⟩ := hk
  obtain ⟨d', hd', hle'⟩ := hl kernel.device d hd
  exact ⟨d', hd', Nat.le_trans hle hle'⟩

/-- The host is a later one, with as many devices and the same registers and seeds. -/
structure Host.Ages (h h' : Host) : Prop where
  later : h.Later h'
  count : h'.deviceCount = h.deviceCount
  registers : h'.registers = h.registers
  fingerprints : h'.fingerprints = h.fingerprints

namespace Host.Ages

variable {h h' h'' : Host}

theorem refl (h : Host) : h.Ages h := ⟨Later.refl h, rfl, rfl, rfl⟩

theorem of_eq (he : h' = h) : h.Ages h' := he ▸ refl h

theorem trans (ha : h.Ages h') (ha' : h'.Ages h'') : h.Ages h'' :=
  ⟨ha.later.trans ha'.later, ha'.count.trans ha.count, ha'.registers.trans ha.registers,
    ha'.fingerprints.trans ha.fingerprints⟩

theorem setDevice {index : Nat} {d d' : Device} (hd : h.devices[index]? = some d)
    (hle : d.loads ≤ d'.loads) : h.Ages (h.setDevice index d') := by
  refine ⟨fun i e he => ?_, List.length_set, rfl, rfl⟩
  by_cases hi : index = i
  · subst hi
    obtain rfl : d = e := Option.some.inj (hd.symm.trans he)
    have hlt := (List.getElem?_eq_some_iff.mp hd).1
    exact ⟨d', List.getElem?_set_self hlt, hle⟩
  · exact ⟨e, (List.getElem?_set_ne hi).trans he, Nat.le_refl _⟩

end Host.Ages

/-- The same image, loaded as often, with at most more memory taken. -/
structure Device.Extends (d d' : Device) : Prop where
  resident : d'.resident = d.resident
  loads : d'.loads = d.loads
  offsetIn_le : ∀ bank, d.offsetIn bank ≤ d'.offsetIn bank

theorem Device.Extends.refl (d : Device) : d.Extends d := ⟨rfl, rfl, fun _ => Nat.le_refl _⟩

theorem Device.Extends.trans {d d' d'' : Device} (h : d.Extends d') (h' : d'.Extends d'') :
    d.Extends d'' :=
  ⟨h'.resident.trans h.resident, h'.loads.trans h.loads,
    fun bank => Nat.le_trans (h.offsetIn_le bank) (h'.offsetIn_le bank)⟩

def Host.Extends (h h' : Host) : Prop :=
  ∀ (i : Nat) (d : Device), h.devices[i]? = some d →
    ∃ d' : Device, h'.devices[i]? = some d' ∧ d.Extends d'

theorem Host.Extends.of_eq {h h' : Host} (he : h'.devices = h.devices) : h.Extends h' :=
  fun _ d hd => ⟨d, he ▸ hd, Device.Extends.refl d⟩

namespace Site

/-- Holds where nothing is done but reporting, and from one step to the next. -/
structure Lasting (rel : Site → Site → Prop) : Prop where
  alike : ∀ {s t : Site}, s.Alike t → rel s t
  trans : ∀ {s t u : Site}, rel s t → rel t u → rel s u

/-- The same locks are held, and the same directories stand. -/
structure Steady (s t : Site) : Prop where
  held : t.held = s.held
  files : s.files.SameDirectories t.files

def Ages (s t : Site) : Prop := s.host.Ages t.host

/-- Locks are left alone, and at most this device has changed. -/
structure Touches (index : Nat) (s t : Site) : Prop where
  steady : s.Steady t
  ages : s.Ages t
  devices : ∀ i, i ≠ index → t.host.devices[i]? = s.host.devices[i]?

/-- Locks are left alone, and on the devices at most more memory is taken. -/
structure Grows (s t : Site) : Prop where
  steady : s.Steady t
  ages : s.Ages t
  devices : s.host.Extends t.host

/-- Devices whose locks are held stay as they are. -/
def Spares (directory : String) (s t : Site) : Prop :=
  ∀ i, DeviceLock.place directory i ∈ s.held → t.host.devices[i]? = s.host.devices[i]?

theorem Spares.of_host {directory : String} {s t : Site} (h : t.host = s.host) :
    s.Spares directory t :=
  fun _ _ => by rw [h]

theorem lasting_steady : Lasting Steady where
  alike := fun h => ⟨h.held, h.files ▸ Files.SameDirectories.refl _⟩
  trans := fun h h' => ⟨h'.held.trans h.held, h.files.trans h'.files⟩

theorem lasting_ages : Lasting Ages where
  alike := fun h => Host.Ages.of_eq h.host
  trans := Host.Ages.trans

theorem lasting_touches (index : Nat) : Lasting (Touches index) where
  alike := fun h => ⟨lasting_steady.alike h, lasting_ages.alike h, fun _ _ => by rw [h.host]⟩
  trans := fun h h' => ⟨lasting_steady.trans h.steady h'.steady, lasting_ages.trans h.ages h'.ages,
    fun i hi => (h'.devices i hi).trans (h.devices i hi)⟩

theorem lasting_grows : Lasting Grows where
  alike := fun h => ⟨lasting_steady.alike h, lasting_ages.alike h,
    .of_eq (congrArg Host.devices h.host)⟩
  trans := by
    intro s t u h h'
    refine ⟨lasting_steady.trans h.steady h'.steady, lasting_ages.trans h.ages h'.ages, ?_⟩
    intro i d hd
    obtain ⟨d', hd', he⟩ := h.devices i d hd
    obtain ⟨d'', hd'', he'⟩ := h'.devices i d' hd'
    exact ⟨d'', hd'', he.trans he'⟩

variable {s t : Site} {index : Nat} {d d' : Device}

theorem Lasting.refl {rel : Site → Site → Prop} (hrel : Lasting rel) (s : Site) : rel s s :=
  hrel.alike (Alike.refl s)

theorem Steady.of_alike (h : s.Alike t) : s.Steady t := lasting_steady.alike h

theorem Grows.of_alike (h : s.Alike t) : s.Grows t := lasting_grows.alike h

theorem steady_setDevice (s : Site) (index : Nat) (d : Device) :
    s.Steady { s with host := s.host.setDevice index d } :=
  ⟨rfl, Files.SameDirectories.refl _⟩

theorem touches_setDevice (hd : s.host.devices[index]? = some d) (hle : d.loads ≤ d'.loads) :
    s.Touches index { s with host := s.host.setDevice index d' } :=
  ⟨steady_setDevice s index d', Host.Ages.setDevice hd hle,
    fun _ hi => List.getElem?_set_ne (Ne.symm hi)⟩

theorem grows_setDevice (hd : s.host.devices[index]? = some d) (he : d.Extends d') :
    s.Grows { s with host := s.host.setDevice index d' } := by
  refine ⟨steady_setDevice s index d', Host.Ages.setDevice hd (Nat.le_of_eq he.loads.symm), ?_⟩
  intro i e hi
  by_cases hne : index = i
  · subst hne
    obtain rfl : d = e := Option.some.inj (hd.symm.trans hi)
    exact ⟨d', List.getElem?_set_self (List.getElem?_eq_some_iff.mp hd).1, he⟩
  · exact ⟨e, (List.getElem?_set_ne hne).trans hi, Device.Extends.refl e⟩

/-- Where devices, registers and seeds are the same, whatever else is noted on the host is no
matter. -/
theorem grows_of_eq (hl : t.held = s.held) (hf : s.files.SameDirectories t.files)
    (hd : t.host.devices = s.host.devices) (hr : t.host.registers = s.host.registers)
    (hp : t.host.fingerprints = s.host.fingerprints) : s.Grows t where
  steady := ⟨hl, hf⟩
  ages := ⟨fun _ d h => ⟨d, hd ▸ h, Nat.le_refl _⟩, congrArg List.length hd, hr, hp⟩
  devices := .of_eq hd

end Site

namespace Site.Lasting

open Accelerator.Action

variable {ε α β : Type} {rel : Site → Site → Prop}

theorem inspects (hrel : Lasting rel) {x : Action ε α} (hx : Inspects 0 x) : Within rel x :=
  fun s => hrel.alike (hx.alike s)

theorem bind (hrel : Lasting rel) {x : Action ε α} {f : α → Action ε β} (hx : Within rel x)
    (hf : ∀ a, Within rel (f a)) : Within rel (x >>= f) := by
  intro s
  have hs := hx s
  rw [run_bind]
  rcases h : x.run s with ⟨e | a, t⟩ <;> rw [h] at hs
  · exact hs
  · exact hrel.trans hs (hf a t)

theorem onHost (hrel : Lasting rel) {f : Host → Except ε (α × Host)}
    (hf : ∀ s a h, f s.host = .ok (a, h) → rel s { s with host := h }) : Within rel (onHost f) := by
  intro s
  rw [run_onHost]
  rcases hr : f s.host with e | ⟨a, h⟩
  · exact hrel.refl s
  · exact hf s a h hr

end Site.Lasting

end Accelerator
