import Accelerator.Proofs.World.Accounting
import Mathlib.Data.Finset.Max

/-! Registries in the making that wait for each other. They take their locks in the order in which
their devices were selected, so they can wait in a circle, but not where all of these orders agree. -/

namespace Accelerator

namespace Opening

variable {o o' : Opening} {s t : Site}

/-- The devices are bound in the order in which the settings select them. -/
def InOrder (o : Opening) (s : Site) : Prop :=
  o.order = o.settings.selection.resolve s.host.deviceCount

theorem InOrder.ages (h : o.InOrder s) (ha : s.Ages t) : o.InOrder t := by
  rw [InOrder, ha.count]
  exact h

theorem inOrder_of_start {settings : Settings} (h : (start settings).run s = (.ok o, t)) :
    o.InOrder t := by
  obtain ⟨rfl, hbound⟩ := start_ok h
  rw [InOrder, order, hbound, start_pending h, (start_alike h).host]
  rfl

theorem InOrder.bindUpTo {n : Nat} (h : o.InOrder s)
    (hb : (Opening.bindUpTo n o).run s = (.ok o', t)) : o'.InOrder t := by
  have hproceeds := bindUpTo_ok hb
  have hages := o.bindUpTo_ages n s
  rw [hb] at hages
  rw [InOrder, hproceeds.order, hproceeds.settings]
  exact h.ages hages

end Opening

namespace World

variable {names : Set String} {start : Site} {w w' : World} {deed : Deed} {n : Nat}

/-- There are `n` devices, and every opening binds those that its settings select in that order. -/
structure Planned (n : Nat) (w : World) : Prop where
  count : w.site.host.deviceCount = n
  inOrder : ∀ id o, w.openings.get? id = some o → o.InOrder w.site

theorem Planned.opens {k : Nat} {directory : Option String} (h : w.Planned n)
    (ho : Opens k directory w w') : w'.Planned n := by
  obtain ⟨hkept, -⟩ := ho.keeps (k := 0) (P := Opening.InOrder)
    (fun _ _ _ ha h => h.ages ha) (fun _ _ _ _ _ hs => Opening.inOrder_of_start hs)
    (fun _ _ _ _ _ hb h => h.bindUpTo hb) (fun id o _ hid => h.inOrder id o hid)
  exact ⟨ho.ages.count.trans h.count, fun id o hid => hkept id o (Nat.zero_le id) hid⟩

theorem Planned.step (h : w.Planned n) (ha : w.Acts deed w') : w'.Planned n := by
  rcases ha.opens_or_same with hopens | ⟨hopenings, -⟩
  · exact h.opens hopens
  · refine ⟨ha.deviceCount.trans h.count, fun id o hid => ?_⟩
    rw [Opening.InOrder, ha.deviceCount]
    exact h.inOrder id o (hopenings ▸ hid)

theorem Planned.acts (h : w.Planned n) (history : List Deed) :
    (history.foldl act w).Planned n :=
  acts_keep (fun w deed h => h.step (w.acts deed)) h history

/-- The opening `id` is blocked on the lock of a device that the opening `id'` has bound. -/
def WaitsFor (w : World) (id id' : Nat) : Prop :=
  ∃ o ∈ w.openings.get? id, ∃ o' ∈ w.openings.get? id', o.waits = true ∧
    ∃ device ∈ o.pending.head?, DeviceLock.place o.settings.lockDirectory device ∈ o'.lockFiles

instance (w : World) (id id' : Nat) : Decidable (w.WaitsFor id id') :=
  inferInstanceAs (Decidable (∃ o ∈ w.openings.get? id, ∃ o' ∈ w.openings.get? id', o.waits = true ∧
    ∃ device ∈ o.pending.head?, DeviceLock.place o.settings.lockDirectory device ∈ o'.lockFiles))

/-- Each of these openings waits for another one of them. -/
def CircularWait (w : World) (waiting : Finset Nat) : Prop :=
  waiting.Nonempty ∧ ∀ id ∈ waiting, ∃ id' ∈ waiting, id' ≠ id ∧ w.WaitsFor id id'

instance (w : World) (waiting : Finset Nat) : Decidable (w.CircularWait waiting) :=
  inferInstanceAs (Decidable (_ ∧ _))

def nextDevice (w : World) (id : Nat) : Nat :=
  ((w.openings.get? id).bind fun o => o.pending.head?).getD 0

theorem nextDevice_eq {id device : Nat} {o : Opening} (h : w.openings.get? id = some o)
    (hp : o.pending.head? = some device) : w.nextDevice id = device := by
  rw [nextDevice, h, Option.bind_some, hp, Option.getD_some]

/-- Whoever is waited for has bound the device that is waited for, which stands before the one
that it needs next itself. -/
theorem rank_lt_of_waitsFor {rank : Nat → Nat} {id id' id'' : Nat}
    (ha : w.Accounted names start) (hp : w.Planned n) (hw : w.WaitsFor id id')
    (hw' : w.WaitsFor id' id'') (hrank : ∀ o, w.openings.get? id' = some o →
      (o.settings.selection.resolve n).Pairwise (rank · < rank ·)) :
    rank (w.nextDevice id) < rank (w.nextDevice id') := by
  obtain ⟨o, hid, o', hid', -, device, hd, hfile⟩ := hw
  obtain ⟨o₁, hid₁, -, -, -, device', hd', -⟩ := hw'
  obtain rfl : o' = o₁ := Option.some.inj (hid'.symm.trans hid₁)
  rw [nextDevice_eq hid hd, nextDevice_eq hid' hd']
  -- what is bound comes before what is pending, in the order of the selection
  obtain ⟨bound, hm, hplace⟩ := List.mem_map.mp hfile
  rw [(ha.opening id' o' hid').file_eq hm, DeviceLock.place_eq_iff] at hplace
  have hbefore : device ∈ o'.bound.map (·.index) := hplace.2 ▸ List.mem_map_of_mem hm
  have hsorted := hrank o' hid'
  have horder : o'.order = o'.settings.selection.resolve n := hp.count ▸ hp.inOrder id' o' hid'
  rw [← horder, Opening.order, List.pairwise_append] at hsorted
  exact hsorted.2.2 device hbefore device' (List.mem_of_mem_head? hd')

/-- Whatever was done before, and whatever the directories of the locks, openings do not wait in a
circle if there is an order of the devices in which each of them selects its own. -/
theorem no_circular_wait (names : Set String) (site : Site) (history : List Deed)
    (hc : ∀ deed ∈ history, deed.Calls names) (waiting : Finset Nat) (rank : Nat → Nat)
    (hrank : ∀ id ∈ waiting, ∀ o,
      (history.foldl act { site }).openings.get? id = some o →
        (o.settings.selection.resolve site.host.deviceCount).Pairwise (rank · < rank ·)) :
    ¬ (history.foldl act { site }).CircularWait waiting := by
  have ha := (Accounted.init names site).acts hc
  have hstart : Planned site.host.deviceCount { site } := ⟨rfl, fun _ _ => nofun⟩
  have hp : Planned site.host.deviceCount (history.foldl act { site }) := hstart.acts history
  rintro ⟨hne, hcircle⟩
  -- one whose next device comes last in the order
  obtain ⟨id, hid, hmax⟩ := waiting.exists_max_image
    (fun id => rank ((history.foldl act { site }).nextDevice id)) hne
  obtain ⟨id', hid', -, hw⟩ := hcircle id hid
  obtain ⟨id'', -, -, hw'⟩ := hcircle id' hid'
  have hlt := rank_lt_of_waitsFor ha hp hw hw' (hrank id' hid')
  exact absurd (hmax id' hid') (Nat.not_le.mpr hlt)

def twoDevices : Site where
  host := Host.addImage { devices := [{}, {}] } "a" { uuid := {}, cores := ["dpu:one"], banks := [] }

/-- Two openings with these devices to bind, which then go on by a device in turns. -/
def contention (first second turns : List Nat) : List Deed :=
  let opening (selected : List Nat) : Deed := .beginOpening {
    firmware := some "a", selection := .list selected, lockDirectory := "/" }
  opening first :: opening second :: turns.map (Deed.continueOpening · 1)

theorem uses_of_mem_contention {first second turns : List Nat}
    (h : deed ∈ contention first second turns) : deed.Uses "/" := by
  simp only [contention, List.mem_cons, List.mem_map] at h
  rcases h with rfl | rfl | ⟨id, -, rfl⟩ <;>
    simp [Deed.uses_iff, Deed.calls_iff, Deed.directory?, Deed.LeavesLocks, Deed.Faithful,
      Deed.meddles]

/-- The second of two openings waits for the first, which has bound the device of the higher
number and wants the other one, as the second will. -/
theorem no_circular_wait_same_order :
    let w := (contention [1, 0] [1, 0] [0, 1]).foldl act { site := twoDevices }
    w.WaitsFor 1 0 ∧ ¬ w.CircularWait {0, 1} := by
  intro w
  have hselection : ∀ id ∈ ({0, 1} : Finset Nat), ∀ o ∈ w.openings.get? id,
      o.settings.selection.resolve 2 = [1, 0] := by decide +kernel
  refine ⟨by decide +kernel, no_circular_wait {"/"} twoDevices _
    (fun _ hm => (uses_of_mem_contention hm).toCalls) {0, 1} (fun i => 1 - i) ?_⟩
  intro id hid o ho
  rw [show twoDevices.host.deviceCount = 2 from rfl, hselection id hid o ho]
  decide

/-- Each of two openings has bound the device that the other one waits for. -/
theorem opposite_orders_wait :
    ¬ ∀ (directory : String) (site : Site) (history : List Deed) (waiting : Finset Nat),
      (∀ deed ∈ history, deed.Uses directory) →
        ¬ (history.foldl act { site }).CircularWait waiting := by
  intro h
  exact h "/" twoDevices (contention [0, 1] [1, 0] [0, 1, 0, 1]) {0, 1}
    (fun _ => uses_of_mem_contention) (by decide +kernel)

end World

end Accelerator
