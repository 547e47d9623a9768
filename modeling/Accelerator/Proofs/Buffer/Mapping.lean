import Accelerator.Proofs.Buffer.Refinement
import Accelerator.Proofs.Registry.Mapping

/-! A buffer that is mapped into the host answers as one that is not, as long as nobody writes
to the host's view behind its back. -/

namespace Accelerator

theorem Device.alloc_withUnified (d : Device) (unified : Bool) (index size bank : Nat) :
    (d.withUnified unified).alloc index size bank =
      (d.alloc index size bank).map fun r => (r.1, r.2.withUnified unified) := by
  have hb : (d.withUnified unified).bank? bank = d.bank? bank := rfl
  have ho : (d.withUnified unified).offsetIn bank = d.offsetIn bank := rfl
  unfold alloc
  simp only [hb, ho]
  rcases d.bank? bank with _ | info
  · rfl
  · simp only
    split
    · rfl
    · split
      · rfl
      · split
        · rfl
        · split
          · rfl
          · split <;> rfl

/-- What a buffer is apart from the bytes in it. -/
def Buffer.outline (b : Buffer) : Placement × Nat :=
  (b.placement, b.address)

namespace Registry

variable {s : Site} {on : Bool} {mapped : Nat}

theorem allocate_withUnified (r : Registry) (size physicalSize device : Nat) (unitName : String) :
    ((r.allocate size physicalSize device unitName).run (s.withUnified mapped on)).1.map
        Memory.address =
      ((r.allocate size physicalSize device unitName).run s).1.map Memory.address := by
  have hopen : (s.withUnified mapped on).host.openDevice device =
      (s.host.openDevice device).map fun d => if mapped = device then d.withUnified on else d :=
    Host.openDevice_withUnified
  rw [run_allocate, run_allocate, Memory.run_alloc, Memory.run_alloc, hopen]
  rcases s.host.openDevice device with e | d
  · rfl
  · have halloc : ∃ unified : Bool, (if mapped = device then d.withUnified on else d).alloc device
        physicalSize r.bank =
          (d.alloc device physicalSize r.bank).map fun r => (r.1, r.2.withUnified unified) := by
      by_cases hd : mapped = device
      · rw [if_pos hd]
        exact ⟨on, d.alloc_withUnified on device physicalSize r.bank⟩
      · rw [if_neg hd]
        exact ⟨d.unified, d.alloc_withUnified d.unified device physicalSize r.bank⟩
    obtain ⟨unified, halloc⟩ := halloc
    simp only [Except.map, halloc]
    rcases d.alloc device physicalSize r.bank with (e | f) | ⟨address, d'⟩
    · rfl
    · rfl
    · by_cases hm : Host.maxBlock ≤ physicalSize
      · simp only [hm, if_true]
      · simp only [hm, if_false]
        rfl

theorem clear_of_allocate {r : Registry} {size physicalSize device : Nat} {unitName : String}
    {m : Memory} {t : Site}
    (h : (r.allocate size physicalSize device unitName).run s = (.ok m, t)) :
    ∃ m' u, m.clear.run t = (.ok m', u) ∧ m'.address = m.address := by
  obtain ⟨d, d', address, -, ha, rfl, -, -⟩ := allocate_ok h
  have hsize := Memory.size_fresh address physicalSize d.unified
  obtain ⟨m', syncs, hc, ha', -, -⟩ :=
    Memory.run_clear (hsize ▸ Device.lt_wordLimit_of_alloc ha) t
  exact ⟨m', _, hc, ha'⟩

theorem fillBuffer_withUnified (r : Registry) (id size device slot : Nat) (unitName : String) :
    ((r.fillBuffer id size device slot unitName).run (s.withUnified mapped on)).1.map
        Buffer.outline =
      ((r.fillBuffer id size device slot unitName).run s).1.map Buffer.outline := by
  unfold fillBuffer
  simp only [Action.run_bind, run_place]
  rcases r.settings.striping.placement size slot with f | _ | p
  · rfl
  · rfl
  · have ha : ((r.allocate size p.physicalSize device unitName).run
        (s.withUnified mapped on)).1.map Memory.address = _ :=
      r.allocate_withUnified size p.physicalSize device unitName
    simp only
    rcases hm : (r.allocate size p.physicalSize device unitName).run s with ⟨e | m, t⟩ <;>
      rcases hm' : (r.allocate size p.physicalSize device unitName).run
        (s.withUnified mapped on) with ⟨e' | m', t'⟩ <;> rw [hm, hm'] at ha
    · cases ha
      rfl
    · cases ha
    · cases ha
    · obtain ⟨n, u, hn, hna⟩ := clear_of_allocate hm
      obtain ⟨n', u', hn', hna'⟩ := clear_of_allocate hm'
      have hadd : n'.address = n.address :=
        hna'.trans ((Except.ok.inj ha).trans hna.symm)
      simp only [hn, hn', hadd]
      rcases checkedAdd n.address p.offset with _ | _ | a <;> rfl

end Registry

namespace World

variable {w : World} {on : Bool} {mapped : Nat}

theorem createBuffer_withUnified (handle size device : Nat) (unitName : String) :
    ((w.withUnified mapped on).createBuffer handle size device unitName).map (·.1) =
      (w.createBuffer handle size device unitName).map (·.1) := by
  simp only [createBuffer, withUnified]
  rcases w.handles.get? handle with _ | registry
  · rfl
  · rcases hr : w.registries.get? registry with _ | r
    · simp [hr]
    · simp only [hr, Option.bind_eq_bind, Option.bind_some, perform, Registry.lookUpDevice,
        Action.run_reporting]
      rcases r.findDevice unitName device with e | n
      · rfl
      · have hf : (((r.slotFor size).2.fillBuffer registry size n (r.slotFor size).1 unitName).run
            (w.site.withUnified mapped on)).1.map Buffer.outline = _ :=
          Registry.fillBuffer_withUnified _ _ _ _ _ _
        simp only
        rcases h : ((r.slotFor size).2.fillBuffer registry size n (r.slotFor size).1 unitName).run
          w.site with ⟨e | b, t⟩ <;>
          rcases h' : ((r.slotFor size).2.fillBuffer registry size n (r.slotFor size).1
            unitName).run (w.site.withUnified mapped on) with ⟨e' | b', t'⟩ <;>
          rw [h, h'] at hf
        · cases hf
          rfl
        · cases hf
        · cases hf
        · rfl

end World

/-- An access to the host's view alone, which the device does not see. -/
def Access.isHostWrite : Access → Bool
  | .writeHost .. => true
  | _ => false

/-- The answer of a buffer of this size, which can only fail for the range that it is asked. -/
def Answer.Regular (size : Nat) (answer : Answer) : Prop :=
  (∃ bytes, answer = .ok bytes) ∨
    ∃ offset n, answer = .error (.error (.outOfRange offset n size))

theorem Access.play_answers {σ : Type} {step : σ → Access → Answer × σ} {inv : σ → Prop}
    {regular : Answer → Prop} {as : List Access}
    (hstep : ∀ a ∈ as, ∀ s, inv s → regular (step s a).1 ∧ inv (step s a).2) {s : σ} (h : inv s) :
    ∀ answer ∈ (play step as s).1, regular answer := by
  induction as generalizing s with
  | nil =>
    intro answer hm
    cases hm
  | cons a as ih =>
    obtain ⟨hr, hi⟩ := hstep a List.mem_cons_self s h
    intro answer hm
    rcases List.mem_cons.mp hm with rfl | hm
    · exact hr
    · exact ih (fun a' h' => hstep a' (List.mem_cons_of_mem a h')) hi answer hm

theorem patch_cut {bytes : List UInt8} {offset n : Nat} (h : offset + n ≤ bytes.length) :
    patch bytes offset (cut bytes offset n) = bytes := by
  rw [patch, length_cut h, cut, ← List.drop_drop, List.append_assoc, List.take_append_drop,
    List.take_append_drop]

namespace Windows

/-- A mapped buffer with two views of the same bytes, and one that is not mapped with these. -/
def Coherent (m m' : Windows) : Prop :=
  m = { m' with host := some m'.device } ∧ m'.host = none

theorem within_coherent {m m' : Windows} {offset n : Nat} {q q' : Answer × Windows}
    (h : m.Coherent m')
    (hq : offset + n ≤ m'.device.length → q.1 = q'.1 ∧ q.2.Coherent q'.2) :
    (m.within offset n q).1 = (m'.within offset n q').1 ∧
      (m.within offset n q).2.Coherent (m'.within offset n q').2 := by
  obtain ⟨rfl, hn⟩ := h
  simp only [within]
  split
  · next hr => exact hq hr
  · exact ⟨rfl, rfl, hn⟩

theorem access_coherent {m m' : Windows} (h : m.Coherent m') {a : Access}
    (ha : a.isHostWrite = false) :
    (m.access a).1 = (m'.access a).1 ∧ (m.access a).2.Coherent (m'.access a).2 := by
  have hm := h
  obtain ⟨rfl, hn⟩ := h
  obtain ⟨device, _⟩ := m'
  obtain rfl := hn
  cases a with
  | copyFromHost src offset => exact within_coherent hm fun _ => ⟨rfl, rfl, rfl⟩
  | copyToHost n offset =>
    refine within_coherent hm fun hr => ⟨rfl, ?_, rfl⟩
    simp only [Option.map_some, patch_cut hr]
  | syncForRead offset n =>
    refine within_coherent hm fun hr => ⟨rfl, ?_, rfl⟩
    simp only [Option.map_some, patch_cut hr]
  | syncForWrite offset n =>
    refine within_coherent hm fun hr => ⟨rfl, ?_, rfl⟩
    simp only [Option.map_some, Option.map_none, Option.getD_some, Option.getD_none, patch_cut hr]
  | writeHost src offset => cases ha

/-- A window that only the device has. -/
def Lone (size : Nat) (m : Windows) : Prop :=
  m.device.length = size ∧ m.host = none

theorem within_lone {m : Windows} {size offset n : Nat} {q : Answer × Windows} (h : m.Lone size)
    (hq : offset + n ≤ size → Answer.Regular size q.1 ∧ q.2.Lone size) :
    Answer.Regular size (m.within offset n q).1 ∧ (m.within offset n q).2.Lone size := by
  rw [within, h.1]
  split
  · next hr => exact hq hr
  · exact ⟨Or.inr ⟨offset, n, rfl⟩, h⟩

theorem access_lone {m : Windows} {size : Nat} (h : m.Lone size) {a : Access}
    (ha : a.isHostWrite = false) :
    Answer.Regular size (m.access a).1 ∧ (m.access a).2.Lone size := by
  obtain ⟨device, host⟩ := m
  obtain ⟨hl, hn⟩ := h
  obtain rfl : host = none := hn
  have hm : Lone size ⟨device, none⟩ := ⟨hl, rfl⟩
  cases a with
  | copyFromHost src offset =>
    refine within_lone hm fun hr => ⟨Or.inl ⟨_, rfl⟩, ?_, rfl⟩
    have hr : offset + src.toList.length ≤ device.length := by
      rw [Runs.length_toList]
      exact hl.symm ▸ hr
    exact (length_patch hr).trans hl
  | copyToHost n offset => exact within_lone hm fun _ => ⟨Or.inl ⟨_, rfl⟩, hm⟩
  | syncForRead offset n => exact within_lone hm fun _ => ⟨Or.inl ⟨_, rfl⟩, hm⟩
  | syncForWrite offset n => exact within_lone hm fun _ => ⟨Or.inl ⟨_, rfl⟩, hm⟩
  | writeHost src offset => cases ha

theorem blank_coherent (size : Nat) : (blank size true).Coherent (blank size false) := ⟨rfl, rfl⟩

end Windows

namespace Buffer

variable {b₁ b₂ : Buffer} {size : Nat} {p : Placement}

theorem Made.outline_eq {r : Registry} {slot : Nat} {d d₁ d₂ : Device} {on off : Bool}
    (h₁ : b₁.Made r slot (d.withUnified on) d₁) (h₂ : b₂.Made r slot (d.withUnified off) d₂)
    (hs : b₁.size = b₂.size) (hd : b₁.device = b₂.device) :
    b₁.placement = b₂.placement ∧ b₁.address = b₂.address := by
  have hp := h₁.placed
  rw [hs, h₂.placed] at hp
  have hp : b₁.placement = b₂.placement := (Option.some.inj (Except.ok.inj hp)).symm
  have ht₁ := h₁.taken
  have ht₂ := h₂.taken
  rw [Device.alloc_withUnified] at ht₁ ht₂
  rw [hd, hp] at ht₁
  have hm : b₁.memory.address = b₂.memory.address := by
    rcases ha : d.alloc b₂.device b₂.placement.physicalSize r.bank with e | ⟨a, d'⟩ <;>
      rw [ha] at ht₁ ht₂
    · cases ht₁
    · exact (congrArg Prod.fst (Except.ok.inj ht₁)).symm.trans
        (congrArg Prod.fst (Except.ok.inj ht₂))
  have hb := h₁.address
  rw [hm, hp, h₂.address] at hb
  exact ⟨hp, (Option.some.inj hb).symm⟩

theorem Shows.play_coherent {m₁ m₂ : Windows} (h₁ : b₁.Shows size p m₁)
    (h₂ : b₂.Shows size p m₂) (hm : m₁.Coherent m₂)
    (hfit : p.offset + size ≤ p.physicalSize) (hlim : p.physicalSize < wordLimit)
    {accesses : List Access} (ha : ∀ a ∈ accesses, a.isHostWrite = false) :
    (Access.play Buffer.access accesses b₁).1 = (Access.play Buffer.access accesses b₂).1 ∧
      (∀ answer ∈ (Access.play Buffer.access accesses b₂).1, Answer.Regular size answer) ∧
      (Access.play Buffer.access accesses b₁).2.memory.host.map Runs.toList =
        some (Access.play Buffer.access accesses b₁).2.memory.device.toList := by
  -- each buffer goes with its windows, and the windows of the two go together
  have hstep : ∀ a ∈ accesses, ∀ m m' : Windows, m.Coherent m' →
      (m.access a).1 = (m'.access a).1 ∧ (m.access a).2.Coherent (m'.access a).2 :=
    fun a hmem _ _ hc => Windows.access_coherent hc (ha a hmem)
  obtain ⟨hans, hcoh⟩ := Access.play_simulates hstep hm
  obtain ⟨hans₁, hshow₁⟩ := h₁.play hfit hlim accesses
  obtain ⟨hans₂, -⟩ := h₂.play hfit hlim accesses
  refine ⟨hans₁.trans (hans.trans hans₂.symm), ?_, ?_⟩
  · rw [hans₂]
    have hlone : m₂.Lone size := ⟨h₂.device_length, hm.2⟩
    have hstep : ∀ a ∈ accesses, ∀ m : Windows, m.Lone size →
        Answer.Regular size (m.access a).1 ∧ (m.access a).2.Lone size :=
      fun a hmem _ hl => Windows.access_lone hl (ha a hmem)
    exact Access.play_answers hstep hlone
  · rw [hshow₁.host, hshow₁.device, hcoh.1, Option.map_some]

end Buffer

theorem World.createBuffer_coherent {w w₁ w₂ : World} {handle size device id : Nat}
    {unitName : String}
    (h₁ : (w.withUnified device true).createBuffer handle size device unitName =
      some (.ok id, w₁))
    (h₂ : (w.withUnified device false).createBuffer handle size device unitName =
      some (.ok id, w₂)) :
    ∃ b₁ b₂, w₁.buffers.get? id = some b₁ ∧ w₂.buffers.get? id = some b₂ ∧
      b₁.isHostMapped = true ∧ b₂.isHostMapped = false ∧
      b₁.size = b₂.size ∧ b₁.placement = b₂.placement ∧ b₁.address = b₂.address ∧
      ∀ accesses : List Access, (∀ a ∈ accesses, a.isHostWrite = false) →
        (Access.play Buffer.access accesses b₁).1 = (Access.play Buffer.access accesses b₂).1 ∧
        (∀ answer ∈ (Access.play Buffer.access accesses b₂).1, Answer.Regular b₁.size answer) ∧
        (Access.play Buffer.access accesses b₁).2.memory.host.map Runs.toList =
          some (Access.play Buffer.access accesses b₁).2.memory.device.toList := by
  obtain ⟨r, b₁, d₁, d₁', hh₁, hr₁, hd₁, hm₁, rfl, hdev₁, hid₁, hw₁⟩ := createBuffer_ok h₁
  obtain ⟨r', b₂, d₂, d₂', hh₂, hr₂, hd₂, hm₂, hs, hdev₂, hid₂, hw₂⟩ := createBuffer_ok h₂
  have hregistry : b₁.registry = b₂.registry := Option.some.inj (hh₁.symm.trans hh₂)
  obtain rfl : r = r' := Option.some.inj (hr₁.symm.trans (hregistry ▸ hr₂))
  simp only [withUnified, Site.withUnified, Host.devices_withUnified, if_true] at hd₁ hd₂
  obtain ⟨d, hd, rfl⟩ := Option.map_eq_some_iff.mp hd₁
  rw [hd] at hd₂
  obtain rfl := Option.some.inj hd₂
  obtain ⟨hp, haddr⟩ := hm₁.outline_eq hm₂ hs.symm (hdev₁.trans hdev₂.symm)
  have hmap₁ : b₁.isHostMapped = true := hm₁.isHostMapped
  have hmap₂ : b₂.isHostMapped = false := hm₂.isHostMapped
  refine ⟨b₁, b₂, ?_, ?_, hmap₁, hmap₂, hs.symm, hp, haddr, ?_⟩
  · rw [hw₁, Store.get?_insert, if_pos hid₁.symm]
  · rw [hw₂, Store.get?_insert, if_pos hid₂.symm]
  · intro accesses ha
    have hs₁ := hm₁.shows
    have hs₂ := hm₂.shows
    rw [hmap₁] at hs₁
    rw [hmap₂, hs, ← hp] at hs₂
    exact hs₁.play_coherent hs₂ (Windows.blank_coherent _) hm₁.fits
      (Device.lt_wordLimit_of_alloc hm₁.taken) ha

/-- Opening a registry and making a buffer comes to the same on a device that maps its memory
into the host and on one that does not, and so does every access to the two buffers but one to
the host's view alone. The two views of the mapped one agree throughout. -/
theorem World.createBuffer_blind_to_mapping (w : World) (settings : Settings)
    (handle size device : Nat) (unitName : String) :
    let on := (w.withUnified device true).openRegistry settings
    let off := (w.withUnified device false).openRegistry settings
    on.1 = off.1 ∧
    (on.2.createBuffer handle size device unitName).map (·.1) =
      (off.2.createBuffer handle size device unitName).map (·.1) ∧
    ∀ id w₁ w₂, on.2.createBuffer handle size device unitName = some (.ok id, w₁) →
      off.2.createBuffer handle size device unitName = some (.ok id, w₂) →
      ∃ b₁ b₂, w₁.buffers.get? id = some b₁ ∧ w₂.buffers.get? id = some b₂ ∧
        b₁.isHostMapped = true ∧ b₂.isHostMapped = false ∧
        b₁.size = b₂.size ∧ b₁.placement = b₂.placement ∧ b₁.address = b₂.address ∧
        ∀ accesses : List Access, (∀ a ∈ accesses, a.isHostWrite = false) →
          (Access.play Buffer.access accesses b₁).1 = (Access.play Buffer.access accesses b₂).1 ∧
          (∀ answer ∈ (Access.play Buffer.access accesses b₂).1, Answer.Regular b₁.size answer) ∧
          (Access.play Buffer.access accesses b₁).2.memory.host.map Runs.toList =
            some (Access.play Buffer.access accesses b₁).2.memory.device.toList := by
  intro on off
  have hon : on = _ := openRegistry_withUnified w device true settings
  have hoff : off = _ := openRegistry_withUnified w device false settings
  rw [hon, hoff]
  refine ⟨rfl, ?_, ?_⟩
  · rw [createBuffer_withUnified, createBuffer_withUnified]
  · intro id w₁ w₂ h₁ h₂
    exact createBuffer_coherent h₁ h₂

theorem World.oneDevice_blind_to_mapping :
    let settings : Settings := { firmware := some "a", lockDirectory := "/" }
    let accesses : List Access := [.copyFromHost [(7, 2)] 3, .copyToHost 1 9, .copyToHost 4 2]
    ∃ w₁ w₂ b₁ b₂,
      ((World.oneDevice.withUnified 0 true).openRegistry settings).2.createBuffer 1 9 0 "dpu" =
        some (.ok 0, w₁) ∧
      ((World.oneDevice.withUnified 0 false).openRegistry settings).2.createBuffer 1 9 0 "dpu" =
        some (.ok 0, w₂) ∧
      w₁.buffers.get? 0 = some b₁ ∧ w₂.buffers.get? 0 = some b₂ ∧
      (Access.play Buffer.access accesses b₁).1 = (Access.play Buffer.access accesses b₂).1 := by
  intro settings accesses
  have hblind := World.createBuffer_blind_to_mapping World.oneDevice settings 1 9 0 "dpu"
  obtain ⟨-, -, hblind⟩ := hblind
  have hmade : ∀ unified, ∃ w', ((World.oneDevice.withUnified 0 unified).openRegistry
      settings).2.createBuffer 1 9 0 "dpu" = some (.ok 0, w') := by
    intro unified
    have h : (((World.oneDevice.withUnified 0 unified).openRegistry settings).2.createBuffer
        1 9 0 "dpu").map (·.1) = some (.ok 0) := by
      cases unified <;> decide +kernel
    obtain ⟨⟨answer, w'⟩, h, ha⟩ := Option.map_eq_some_iff.mp h
    exact ⟨w', ha ▸ h⟩
  obtain ⟨w₁, h₁⟩ := hmade true
  obtain ⟨w₂, h₂⟩ := hmade false
  obtain ⟨b₁, b₂, hb₁, hb₂, -, -, -, -, -, hall⟩ := hblind 0 w₁ w₂ h₁ h₂
  exact ⟨w₁, w₂, b₁, b₂, h₁, h₂, hb₁, hb₂, (hall accesses (by decide)).1⟩

end Accelerator
