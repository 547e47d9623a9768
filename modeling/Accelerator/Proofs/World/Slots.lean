import Accelerator.Proofs.Settings.Placement
import Accelerator.Proofs.World.Acts

/-! How the striped buffers of a registry are numbered. A number is taken as soon as the device is
found, whatever becomes of the buffer then. -/

namespace Accelerator

theorem Striping.placement_of_appliesTo {s : Striping} {size slot : Nat} {p : Placement}
    (ha : s.appliesTo size = true) (h : s.placement size slot = .ok (some p)) :
    p.physicalSize = size + s.bankCount * s.bankRange ∧
      p.offset = slot % s.bankCount * s.bankRange := by
  unfold placement at h
  rw [if_pos ha] at h
  rcases hp : s.padding.bind (checkedAdd size) with _ | physicalSize <;> simp only [hp] at h
  · cases h
  · obtain ⟨padding, hm, hadd⟩ := Option.bind_eq_some_iff.mp hp
    have hm := (checkedMul_eq_some_iff.mp hm).1
    have hadd := (checkedAdd_eq_some_iff.mp hadd).1
    by_cases hz : s.bankCount = 0
    · rw [if_pos hz] at h
      cases h
    · rw [if_neg hz] at h
      rcases ho : checkedMul (slot % s.bankCount) s.bankRange with _ | offset <;>
        simp only [ho] at h <;> cases h
      rw [Nat.mul_comm s.bankCount]
      exact ⟨by rw [← hadd, ← hm], (checkedMul_eq_some_iff.mp ho).1.symm⟩

theorem Device.alloc_error {d : Device} {index size bank : Nat} {e : DeviceError}
    (h : d.alloc index size bank = .error (.error e)) :
    ∃ reason, e = .allocation size bank index reason := by
  unfold alloc at h
  rcases hb : d.bank? bank with _ | info <;> simp only [hb] at h
  · cases h
    exact ⟨_, rfl⟩
  · by_cases hz : size = 0
    · rw [if_pos hz] at h
      cases h
      exact ⟨_, rfl⟩
    · rw [if_neg hz] at h
      rcases hc : checkedAdd (d.offsetIn bank) size with _ | stop <;> simp only [hc] at h
      · cases h
      · by_cases hs : info.size < stop
        · rw [if_pos hs] at h
          cases h
          exact ⟨_, rfl⟩
        · rw [if_neg hs] at h
          rcases hi : checkedAdd info.base (d.offsetIn bank) with _ | address <;>
            simp only [hi] at h
          · cases h
          · split at h <;> cases h

theorem Registry.allocate_error {r : Registry} {size physicalSize device : Nat} {unitName : String}
    {s t : Site} {e : DeviceError}
    (h : (r.allocate size physicalSize device unitName).run s = (.error (.error e), t)) :
    (∃ reason, e = .driver reason) ∨
      ∃ reason, e = .allocation physicalSize r.bank device reason := by
  rw [run_allocate, Memory.run_alloc] at h
  rcases ho : s.host.openDevice device with e' | d <;> simp only [ho] at h
  · cases h
    unfold Host.openDevice at ho
    split at ho <;> cases ho
    exact Or.inl ⟨_, rfl⟩
  · rcases ha : d.alloc device physicalSize r.bank with (e' | f) | ⟨address, d'⟩ <;>
      simp only [ha] at h
    · cases h
      exact Or.inr (Device.alloc_error ha)
    · cases h
    · by_cases hb : Host.maxBlock ≤ physicalSize
      · simp only [hb, if_true] at h
        cases h
      · simp only [hb, if_false] at h
        cases h

/-- A buffer that cannot be filled is not one whose device was not found. -/
theorem Registry.fillBuffer_error {r : Registry} {id size device slot : Nat} {unitName : String}
    {s t : Site} {stop : Stop DeviceError}
    (h : (r.fillBuffer id size device slot unitName).run s = (.error stop, t)) :
    stop ≠ .error (.deviceNotFound device unitName) := by
  rintro rfl
  unfold fillBuffer at h
  rw [Action.run_bind, run_place] at h
  rcases hp : r.settings.striping.placement size slot with f | _ | p <;> simp only [hp] at h
  · cases h
  · cases h
  · rw [Action.run_bind] at h
    rcases hm : (r.allocate size p.physicalSize device unitName).run s with ⟨e | m, u⟩ <;>
      simp only [hm] at h
    · cases h
      obtain ⟨_, he⟩ | ⟨_, he⟩ := allocate_error hm <;> cases he
    · obtain ⟨d, d', address, -, ha, rfl, -, -⟩ := allocate_ok hm
      have hsize := Memory.size_fresh address p.physicalSize d.unified
      obtain ⟨m, syncs, hc, -⟩ := Memory.run_clear (hsize ▸ Device.lt_wordLimit_of_alloc ha) u
      simp only [Action.run_bind, hc] at h
      split at h <;> cases h

namespace World

variable {w w' : World} {deed : Deed} {id : Nat} {r : Registry}

/-- How many numbers the registry gives away in the course of a history. -/
def slotsTaken (id : Nat) : World → List Deed → Nat
  | _, [] => 0
  | w, deed :: history =>
    (if w.takesSlot id deed = true then 1 else 0) + slotsTaken id (w.act deed) history

theorem slotsTaken_le (id : Nat) (w : World) (history : List Deed) :
    slotsTaken id w history ≤ history.length := by
  induction history generalizing w with
  | nil => exact Nat.le_refl 0
  | cons deed history ih =>
    have hle := ih (w.act deed)
    simp only [slotsTaken, List.length_cons]
    split <;> omega

/-- Each registry has given away as many numbers as this says. -/
structure Numbered (w : World) (count : Nat → Nat) : Prop where
  stripeSlot : ∀ id r, w.registries.get? id = some r → r.stripeSlot = count id % wordLimit
  unborn : ∀ id, w.registries.next ≤ id → count id = 0

theorem Numbered.act {count : Nat → Nat} (h : w.Numbered count) (deed : Deed) :
    (w.act deed).Numbered fun id => count id + if w.takesSlot id deed = true then 1 else 0 := by
  have hacts := w.acts deed
  -- nothing is asked of a registry that is not there yet, so a new one starts from zero
  have hunborn : ∀ id, w.registries.next ≤ id →
      count id + (if w.takesSlot id deed = true then 1 else 0) = 0 := by
    intro id hid
    have hnone : w.takesSlot id deed ≠ true := by
      intro ht
      obtain ⟨r, hr⟩ := exists_of_takesSlot ht
      have hlt := Store.lt_next_of_get? hr
      omega
    rw [h.unborn id hid, if_neg hnone]
  refine ⟨fun id r' hr' => ?_, fun id hid => hunborn id ?_⟩
  · rcases hacts.registries with ⟨hq, hopens⟩ | ⟨-, -, hsame⟩
    · rcases hopens.registry id r' hr' with hr | ⟨hid, hz⟩
      · rw [h.stripeSlot id r' hr, hq, if_neg Bool.false_ne_true, Nat.add_zero]
      · rw [hz, hunborn id hid]
        rfl
    · obtain ⟨r, hr, rfl⟩ := hsame id r' hr'
      have hslot := h.stripeSlot id r hr
      by_cases ht : w.takesSlot id deed = true
      · rw [if_pos ht, if_pos ht, Registry.nextStripeSlot, hslot, Nat.mod_add_mod]
      · rw [if_neg ht, if_neg ht, hslot, Nat.add_zero]
  · exact Nat.le_trans hacts.registries_next_le hid

theorem Numbered.acts {count : Nat → Nat} (h : w.Numbered count) (history : List Deed) :
    (history.foldl World.act w).Numbered fun id => count id + slotsTaken id w history := by
  induction history generalizing w count with
  | nil => exact h
  | cons deed history ih =>
    have hstep := ih (h.act deed)
    simp only [Nat.add_assoc] at hstep
    exact hstep

theorem numbered_start (site : Site) : ({ site } : World).Numbered fun _ => 0 :=
  ⟨fun _ _ => nofun, fun _ _ => rfl⟩

theorem createBuffer_numbered {handle : Nat} (hh : w.handles.get? handle = some id)
    (hr : w.registries.get? id = some r) (size device : Nat) (unitName : String) :
    ∃ answer w', w.createBuffer handle size device unitName = some (answer, w') ∧
      (answer = .error (.error (.deviceNotFound device unitName)) ↔
        ¬ ∃ u ∈ r.matching unitName, u.device = device) ∧
      (r.settings.striping.appliesTo size = false ∨
          answer = .error (.error (.deviceNotFound device unitName)) →
        w'.registries.get? id = some r) ∧
      ∀ made, answer = .ok made → r.settings.striping.appliesTo size = true →
        ∃ b, w'.buffers.get? made = some b ∧
          b.placement.offset =
            r.stripeSlot % r.settings.striping.bankCount * r.settings.striping.bankRange ∧
          b.placement.physicalSize =
            size + r.settings.striping.bankCount * r.settings.striping.bankRange := by
  obtain ⟨answer, w', hw, hasked⟩ := createBuffer_asked hh hr size device unitName
  have hplain (ha : r.settings.striping.appliesTo size = false) :
      (w.registries.set id (r.slotFor size).2).get? id = some r := by
    rw [Store.get?_set, if_pos rfl, hr, Registry.slotFor, ha]
    rfl
  refine ⟨answer, w', hw, ?_⟩
  cases hasked with
  | missing hu =>
    refine ⟨⟨fun _ => hu, fun _ => rfl⟩, fun _ => hr, fun made he => ?_⟩
    cases he
  | @refused stop t hu hb =>
    have hne := Registry.fillBuffer_error hb
    have hanswer : (.error stop : Except (Stop DeviceError) Nat) ≠
        .error (.error (.deviceNotFound device unitName)) := fun he => hne (Except.error.inj he)
    refine ⟨⟨fun he => absurd he hanswer, fun hn => absurd hu hn⟩, fun h => ?_, fun made he => ?_⟩
    · exact hplain (h.resolve_right hanswer)
    · cases he
  | @made b t hu hb =>
    -- the number is the one before the call: the registry had counted on when the buffer was filled
    have hanswer : (.ok w.buffers.next : Except (Stop DeviceError) Nat) ≠
        .error (.error (.deviceNotFound device unitName)) := by simp
    refine ⟨⟨fun he => absurd he hanswer, fun hn => absurd hu hn⟩,
      fun h => hplain (h.resolve_right hanswer), fun made he ha => ?_⟩
    cases he
    obtain ⟨d, d', -, hmade, -, -, -, rfl, -⟩ := Registry.fillBuffer_ok hb
    have hslot : r.slotFor b.size = r.nextStripeSlot := if_pos ha
    have hplaced := hmade.placed
    rw [hslot] at hplaced
    obtain ⟨hphysical, hoffset⟩ := Striping.placement_of_appliesTo ha hplaced
    refine ⟨b, ?_, hoffset, hphysical⟩
    exact (Store.get?_insert _ _ _).trans (if_pos rfl)

/-- After any history, the number of the next striped buffer of a registry is how often it was asked
for one, by itself or for a striped buffer whose device was found. Other buffers take none, and a
buffer that gets one is placed by it. -/
theorem slots_counted (site : Site) (history : List Deed) :
    let w := history.foldl act { site }
    ∀ id r, w.registries.get? id = some r →
      r.stripeSlot = slotsTaken id { site } history % wordLimit ∧
      (history.length < wordLimit → r.stripeSlot = slotsTaken id { site } history) ∧
      ∀ handle, w.handles.get? handle = some id →
        (w.nextStripeSlot handle).map (·.1) = some r.stripeSlot ∧
        ∀ size device unitName, ∃ answer w',
          w.createBuffer handle size device unitName = some (answer, w') ∧
          (answer = .error (.error (.deviceNotFound device unitName)) ↔
            ¬ ∃ u ∈ r.matching unitName, u.device = device) ∧
          (r.settings.striping.appliesTo size = false ∨
              answer = .error (.error (.deviceNotFound device unitName)) →
            w'.registries.get? id = some r) ∧
          ∀ made, answer = .ok made → r.settings.striping.appliesTo size = true →
            ∃ b, w'.buffers.get? made = some b ∧
              b.placement.offset =
                r.stripeSlot % r.settings.striping.bankCount * r.settings.striping.bankRange ∧
              b.placement.physicalSize =
                size + r.settings.striping.bankCount * r.settings.striping.bankRange := by
  intro w id r hr
  have hnumbered := (numbered_start site).acts history
  have hslot := hnumbered.stripeSlot id r hr
  rw [Nat.zero_add] at hslot
  refine ⟨hslot, fun hlt => ?_, fun handle hh => ⟨?_, createBuffer_numbered hh hr⟩⟩
  · have hle := slotsTaken_le id { site } history
    rw [hslot, Nat.mod_eq_of_lt (Nat.lt_of_le_of_lt hle hlt)]
  · rw [World.nextStripeSlot, registryOf?, hh, Option.bind_some, hr]
    rfl

/-- Small, large, misdirected and failed buffers, and a number that is asked for by itself. -/
theorem slots_counted_mixed :
    let settings : Settings := {
      firmware := some "a", striping := { bankCount := 2, bankRange := 4 }, lockDirectory := "/" }
    let history : List Deed := [.openRegistry settings, .createBuffer 0 3 0 "dpu",
      .createBuffer 0 9 0 "dpu", .createBuffer 0 9 1 "dpu",
      .createBuffer 0 0x100000000000000 0 "dpu", .nextStripeSlot 0]
    let w := history.foldl act { site := oneDevice.site }
    slotsTaken 0 { site := oneDevice.site } history = 3 ∧
      (w.nextStripeSlot 0).map (·.1) = some 3 ∧
      ∃ made w' b, w.createBuffer 0 9 0 "dpu" = some (.ok made, w') ∧
        w'.buffers.get? made = some b ∧ b.placement.offset = 4 := by
  intro settings history w
  have hslots : slotsTaken 0 { site := oneDevice.site } history = 3 := by decide +kernel
  have hhandle : w.handles.get? 0 = some 0 := by decide +kernel
  have hstriping : (w.registries.get? 0).map (·.settings.striping) =
      some { bankCount := 2, bankRange := 4 } := by
    decide +kernel
  obtain ⟨r, hr, hs⟩ := Option.map_eq_some_iff.mp hstriping
  obtain ⟨-, hcount, hasked⟩ := slots_counted oneDevice.site history 0 r hr
  have hslot := hcount (by decide)
  rw [hslots] at hslot
  obtain ⟨hnext, hcreate⟩ := hasked 0 hhandle
  obtain ⟨answer, w', hw, -, -, hplaced⟩ := hcreate 9 0 "dpu"
  have hmade : (w.createBuffer 0 9 0 "dpu").map (·.1) = some (.ok 2) := by decide +kernel
  rw [hw, Option.map_some, Option.some.injEq] at hmade
  obtain ⟨b, hb, hoffset, -⟩ := hplaced 2 hmade (by rw [hs]; decide)
  rw [hslot, hs] at hoffset
  rw [hslot] at hnext
  exact ⟨hslots, hnext, 2, w', b, hmade ▸ hw, hb, hoffset⟩

end World

end Accelerator
