import Accelerator.Proofs.Buffer.Refinement
import Accelerator.Proofs.World.Acts

/-! Accesses to a range of a buffer. They succeed within its window and leave everything as it is
beyond it, also where the allocation goes on. -/

namespace Accelerator

namespace Buffer

/-- The window lies in the allocation, and the rest of this is zero. -/
structure Sound (b : Buffer) : Prop where
  fits : b.placement.offset + b.size ≤ b.placement.physicalSize
  lt_wordLimit : b.placement.physicalSize < wordLimit
  shows : ∃ m, b.Shows b.size b.placement m

variable {b : Buffer} {offset n : Nat}

theorem Made.sound {r : Registry} {slot : Nat} {d d' : Device} (h : b.Made r slot d d') :
    b.Sound :=
  ⟨h.fits, Device.lt_wordLimit_of_alloc h.taken, _, h.shows⟩

namespace Sound

theorem access (h : b.Sound) (a : Access) : (b.access a).2.Sound := by
  obtain ⟨hfit, hlim, m, hm⟩ := h
  obtain ⟨-, hshow⟩ := hm.access hfit hlim a
  have hsize := hshow.size_eq
  have hplace := hshow.placement_eq
  refine ⟨?_, ?_, (m.access a).2, ?_⟩
  · rwa [hsize, hplace]
  · rwa [hplace]
  · rwa [hsize, hplace]

theorem size_lt (h : b.Sound) : b.size < wordLimit := by
  have hfit := h.fits
  have hlim := h.lt_wordLimit
  omega

theorem checkRange_of_lt (h : b.Sound) (hr : b.size < offset + n) :
    b.checkRange offset n = .error (.outOfRange offset n b.size) := by
  rw [checkRange_eq h.size_lt, if_neg (Nat.not_le_of_lt hr)]

/-- Within the window the range is one of the allocation in both views, with an end that needs no
more than 64 bits. -/
theorem within (h : b.Sound) (hr : offset + n ≤ b.size) :
    b.placement.offset + offset + n < wordLimit ∧
      b.placement.offset + offset + n ≤ b.memory.device.length ∧
      (∀ host ∈ b.memory.host, b.placement.offset + offset + n ≤ host.length) ∧
      b.memory.checkRange (b.placement.offset + offset) n = .ok () := by
  obtain ⟨hfit, hlim, m, hm⟩ := h
  have hsize := hm.memory_size hfit
  have hend : b.placement.offset + offset + n ≤ b.placement.physicalSize := by omega
  have hdevice : b.memory.device.length = b.placement.physicalSize := hsize
  refine ⟨by omega, by omega, fun host hhost => ?_, ?_⟩
  · rcases hm.host_cases with ⟨hnone, -⟩ | ⟨host', bytes, hsome, -, hl, hf⟩
    · cases hnone.symm.trans hhost
    · obtain rfl := Option.some.inj (hsome.symm.trans hhost)
      have hlength := congrArg List.length hf
      rw [Runs.length_toList, Placement.length_framed (hl ▸ hfit)] at hlength
      omega
  · exact Memory.checkRange_of_le (hsize ▸ hlim) (hsize ▸ hend)

theorem exists_ok (h : b.Sound) (hr : offset + n ≤ b.size) {a : Access}
    {f : Buffer → Except DeviceError Transfer} (ha : ∀ b : Buffer, b.access a = b.settle (f b))
    (hm : ∀ m : Windows, ∃ bytes m', m.access a = m.within offset n (.ok bytes, m')) :
    ∃ t, f b = .ok t := by
  obtain ⟨hfit, hlim, m, hshow⟩ := h
  obtain ⟨hanswer, -⟩ := hshow.access hfit hlim a
  obtain ⟨bytes, m', hm⟩ := hm m
  have hin : offset + n ≤ m.device.length := hshow.device_length ▸ hr
  rw [ha, hm, Windows.within, if_pos hin] at hanswer
  rcases hf : f b with e | t
  · rw [hf] at hanswer
    cases hanswer
  · exact ⟨t, rfl⟩

theorem length_copyToHost (h : b.Sound) (hr : offset + n ≤ b.size) {t : Transfer}
    (ht : b.copyToHost n offset = .ok t) : t.bytes.length = n := by
  obtain ⟨hfit, hlim, m, hshow⟩ := h
  obtain ⟨hanswer, -⟩ := hshow.copyToHost hfit hlim n offset
  have hin : offset + n ≤ m.device.length := hshow.device_length ▸ hr
  rw [Buffer.access, ht, Windows.access, Windows.within, if_pos hin] at hanswer
  have hbytes : t.bytes.toList = cut m.device offset n := Except.ok.inj hanswer
  rw [← Runs.length_toList, hbytes, length_cut hin]

end Sound

end Buffer

namespace World

/-- An access to `n` bytes from `offset` on succeeds just if the window has them, and changes
nothing otherwise. -/
def Heeds (w : World) (id : Nat) (b : Buffer) (f : Buffer → Except DeviceError Transfer)
    (offset n : Nat) : Prop :=
  if offset + n ≤ b.size then
    ∃ t, f b = .ok t ∧ w.transfer id f = some (.ok t.bytes, w.settleTransfer id t)
  else w.transfer id f = some (.error (.outOfRange offset n b.size), w)

variable {w : World} {id : Nat} {b : Buffer} {offset n : Nat}

theorem heeds {a : Access} {f : Buffer → Except DeviceError Transfer} (hb : b.Sound)
    (hid : w.buffers.get? id = some b) (ha : ∀ b : Buffer, b.access a = b.settle (f b))
    (hm : ∀ m : Windows, ∃ bytes m', m.access a = m.within offset n (.ok bytes, m'))
    (hf : ∃ rest, f b = b.checkRange offset n >>= rest) : w.Heeds id b f offset n := by
  unfold Heeds
  by_cases hr : offset + n ≤ b.size
  · rw [if_pos hr]
    obtain ⟨t, ht⟩ := hb.exists_ok hr ha hm
    exact ⟨t, ht, by rw [transfer, hid, Option.map_some, ht]⟩
  · rw [if_neg hr]
    obtain ⟨rest, hf⟩ := hf
    have herror : f b = .error (.outOfRange offset n b.size) := by
      rw [hf, hb.checkRange_of_lt (Nat.lt_of_not_le hr)]
      rfl
    rw [transfer, hid, Option.map_some, herror]

theorem buffers_sound (site : Site) (history : List Deed) :
    ∀ id b, (history.foldl act { site }).buffers.get? id = some b → b.Sound := by
  have hstart : ∀ id b, ({ site } : World).buffers.get? id = some b → b.Sound := by
    intro id b hid
    cases hid
  refine acts_keep (P := fun w => ∀ id b, w.buffers.get? id = some b → b.Sound)
    (fun w deed hw id b hid => ?_) hstart history
  rcases (w.acts deed).buffer hid with ⟨b₀, h₀, rfl | ⟨a, rfl⟩⟩ | ⟨r, slot, d, d', hmade⟩
  · exact hw id _ h₀
  · exact (hw id b₀ h₀).access a
  · exact hmade.sound

theorem readInto_eq (hb : b.Sound) (hid : w.buffers.get? id = some b) (out : Runs UInt8)
    (offset : Nat) :
    if offset + out.length ≤ b.size then
      ∃ bytes w', w.readInto id out offset = some (.ok (), bytes, w') ∧ bytes.length = out.length
    else w.readInto id out offset = some (.error (.outOfRange offset out.length b.size), out, w) := by
  by_cases hr : offset + out.length ≤ b.size
  · rw [if_pos hr]
    obtain ⟨t, ht⟩ := hb.exists_ok (a := .copyToHost out.length offset) hr (fun _ => rfl)
      fun _ => ⟨_, _, rfl⟩
    refine ⟨t.bytes, w.settleTransfer id t, ?_, hb.length_copyToHost hr ht⟩
    simp only [readInto, transfer, hid, Option.map_some, ht]
  · rw [if_neg hr]
    have hc := hb.checkRange_of_lt (Nat.lt_of_not_le hr)
    simp only [readInto, transfer, hid, Option.map_some, Buffer.copyToHost, hc]
    rfl

/-- After any history, each access to a range of a buffer succeeds just if its window has the range.
Otherwise it names the range and the window, and nothing is changed. No access that succeeds leaves
the allocation. -/
theorem accesses_bounded (site : Site) (history : List Deed) :
    let w := history.foldl act { site }
    ∀ id b, w.buffers.get? id = some b →
      (∀ src offset, w.Heeds id b (·.copyFromHost src offset) offset src.length) ∧
      (∀ size offset, w.Heeds id b (·.copyToHost size offset) offset size) ∧
      (∀ offset size, w.Heeds id b (·.syncForRead offset size) offset size) ∧
      (∀ offset size, w.Heeds id b (·.syncForWrite offset size) offset size) ∧
      (∀ out offset, if offset + out.length ≤ b.size then
          ∃ bytes w', w.readInto id out offset = some (.ok (), bytes, w') ∧
            bytes.length = out.length
        else w.readInto id out offset =
          some (.error (.outOfRange offset out.length b.size), out, w)) ∧
      ∀ offset size, offset + size ≤ b.size →
        b.placement.offset + offset + size < wordLimit ∧
        b.placement.offset + offset + size ≤ b.memory.device.length ∧
        (∀ host ∈ b.memory.host, b.placement.offset + offset + size ≤ host.length) ∧
        b.memory.checkRange (b.placement.offset + offset) size = .ok () := by
  intro w id b hid
  have hb := buffers_sound site history id b hid
  refine ⟨fun src offset => ?_, fun size offset => ?_, fun offset size => ?_, fun offset size => ?_,
    readInto_eq hb hid, fun offset size => hb.within⟩
  · exact heeds (a := .copyFromHost src offset) hb hid (fun _ => rfl) (fun _ => ⟨_, _, rfl⟩)
      ⟨_, rfl⟩
  · exact heeds (a := .copyToHost size offset) hb hid (fun _ => rfl) (fun _ => ⟨_, _, rfl⟩)
      ⟨_, rfl⟩
  · exact heeds (a := .syncForRead offset size) hb hid (fun _ => rfl) (fun _ => ⟨_, _, rfl⟩)
      ⟨_, rfl⟩
  · exact heeds (a := .syncForWrite offset size) hb hid (fun _ => rfl) (fun _ => ⟨_, _, rfl⟩)
      ⟨_, rfl⟩

/-- A range in the padding of a buffer, and one whose end is zero in 64 bits. -/
theorem accesses_bounded_padding :
    let settings : Settings := {
      firmware := some "a", striping := { bankCount := 2, bankRange := 4 }, lockDirectory := "/" }
    let history : List Deed := [.openRegistry settings, .createBuffer 0 9 0 "dpu",
      .access 0 (.copyFromHost [(7, 2)] 3)]
    let w := history.foldl act { site := oneDevice.site }
    ∃ b, w.buffers.get? 0 = some b ∧ b.size = 9 ∧ b.placement.physicalSize = 17 ∧
      w.transfer 0 (·.copyToHost 2 8) = some (.error (.outOfRange 8 2 9), w) ∧
      w.transfer 0 (·.syncForRead (wordLimit - 1) 1) =
        some (.error (.outOfRange (wordLimit - 1) 1 9), w) ∧
      ∃ t, b.copyToHost 1 8 = .ok t ∧
        w.transfer 0 (·.copyToHost 1 8) = some (.ok t.bytes, w.settleTransfer 0 t) := by
  intro settings history w
  have hsizes : (w.buffers.get? 0).map (fun b => (b.size, b.placement.physicalSize)) =
      some (9, 17) := by decide +kernel
  obtain ⟨b, hb, hpair⟩ := Option.map_eq_some_iff.mp hsizes
  obtain ⟨hsize, hphysical⟩ := Prod.mk.inj hpair
  obtain ⟨-, hread, hsync, -⟩ := accesses_bounded oneDevice.site history 0 b hb
  refine ⟨b, hb, hsize, hphysical, ?_, ?_, ?_⟩
  · have h := hread 2 8
    rw [Heeds, hsize, if_neg (by decide)] at h
    exact h
  · have h := hsync (wordLimit - 1) 1
    rw [Heeds, hsize, if_neg (by decide)] at h
    exact h
  · have h := hread 1 8
    rw [Heeds, hsize, if_pos (by decide)] at h
    exact h

end World

end Accelerator
