import Accelerator.Proofs.Buffer.Windows
import Accelerator.Proofs.Store

/-! Whatever a client does with a buffer, the buffer answers as its two windows do. -/

namespace Accelerator

namespace Buffer

/-- The buffer has these windows, and zeros in the rest of its allocation. -/
structure Shows (size : Nat) (p : Placement) (b : Buffer) (m : Windows) : Prop where
  size_eq : b.size = size
  placement_eq : b.placement = p
  device : b.memory.device.toList = p.framed m.device
  host : b.memory.host.map Runs.toList = m.host.map p.framed
  device_length : m.device.length = size
  host_length : ∀ h ∈ m.host, h.length = size

/-- The same answer, from a buffer that has the other's windows also afterwards. -/
def Follows (size : Nat) (p : Placement) (r : Answer × Buffer) (q : Answer × Windows) : Prop :=
  r.1 = q.1 ∧ r.2.Shows size p q.2

variable {b : Buffer} {m : Windows} {size : Nat} {p : Placement}

theorem checkRange_eq (hs : b.size < wordLimit) (offset n : Nat) :
    b.checkRange offset n =
      if offset + n ≤ b.size then .ok () else .error (.outOfRange offset n b.size) := by
  unfold checkRange
  by_cases h : offset + n < wordLimit
  · rw [checkedAdd_of_lt h]
    rfl
  · -- a range whose end needs more than 64 bits reaches beyond every buffer
    have hn : ¬ offset + n ≤ b.size := by omega
    rw [checkedAdd_eq_none_iff.mpr (Nat.le_of_not_lt h), if_neg hn]
    rfl

namespace Shows

theorem memory_size (h : b.Shows size p m) (hfit : p.offset + size ≤ p.physicalSize) :
    b.memory.size = p.physicalSize := by
  rw [Memory.size, ← Runs.length_toList, h.device]
  exact Placement.length_framed (h.device_length ▸ hfit)

theorem overwrite_device (h : b.Shows size p m) {src : Runs UInt8} {offset : Nat}
    (hr : offset + src.length ≤ size) :
    Shows size p
      { b with memory := { b.memory with
          device := b.memory.device.overwrite (p.offset + offset) src } }
      { m with device := patch m.device offset src.toList } := by
  have hb : offset + src.toList.length ≤ m.device.length := by
    rw [Runs.length_toList, h.device_length]
    exact hr
  refine ⟨h.size_eq, h.placement_eq, ?_, h.host, ?_, h.host_length⟩
  · rw [Runs.toList_overwrite_eq, h.device]
    exact Placement.patch_framed hb
  · exact (length_patch hb).trans h.device_length

theorem host_cases (h : b.Shows size p m) :
    b.memory.host = none ∧ m.host = none ∨
      ∃ host bytes, b.memory.host = some host ∧ m.host = some bytes ∧ bytes.length = size ∧
        host.toList = p.framed bytes := by
  have hh := h.host
  rcases hb : b.memory.host with _ | host <;> rw [hb] at hh
  · exact Or.inl ⟨rfl, Option.map_eq_none_iff.mp hh.symm⟩
  · obtain ⟨bytes, hbytes, hframed⟩ := Option.map_eq_some_iff.mp hh.symm
    exact Or.inr ⟨host, bytes, rfl, hbytes, h.host_length bytes hbytes, hframed.symm⟩

theorem overwrite_host (h : b.Shows size p m) {host src : Runs UInt8} {bytes : List UInt8}
    (hl : bytes.length = size) (hf : host.toList = p.framed bytes) {offset : Nat}
    (hr : offset + src.length ≤ size) :
    Shows size p
      { b with memory := { b.memory with host := some (host.overwrite (p.offset + offset) src) } }
      { m with host := some (patch bytes offset src.toList) } := by
  have hb : offset + src.toList.length ≤ bytes.length := by
    rw [Runs.length_toList, hl]
    exact hr
  refine ⟨h.size_eq, h.placement_eq, h.device, ?_, h.device_length, ?_⟩
  · rw [Option.map_some, Option.map_some, Runs.toList_overwrite_eq, hf, Placement.patch_framed hb]
  · rintro _ ⟨⟩
    exact (length_patch hb).trans hl

theorem slice_framed {r : Runs UInt8} {bytes : List UInt8} (hl : bytes.length = size)
    (hf : r.toList = p.framed bytes) {offset n : Nat} (hr : offset + n ≤ size) :
    (r.slice (p.offset + offset) n).toList = cut bytes offset n ∧
      (r.slice (p.offset + offset) n).length = n := by
  have hc : (r.slice (p.offset + offset) n).toList = cut bytes offset n := by
    rw [Runs.toList_slice_eq, hf]
    exact Placement.cut_framed (hl ▸ hr)
  refine ⟨hc, ?_⟩
  rw [← Runs.length_toList, hc]
  exact length_cut (hl ▸ hr)

theorem settle_within (h : b.Shows size p m) (hs : size < wordLimit) {offset n : Nat}
    {rest : Unit → Except DeviceError Transfer} {outcome : Answer × Windows}
    (hin : offset + n ≤ size → Follows size p (b.settle (rest ())) outcome) :
    Follows size p (b.settle (b.checkRange offset n >>= rest)) (m.within offset n outcome) := by
  rw [checkRange_eq (h.size_eq ▸ hs), h.size_eq, Windows.within, h.device_length]
  by_cases hr : offset + n ≤ size
  · rw [if_pos hr, if_pos hr]
    exact hin hr
  · rw [if_neg hr, if_neg hr]
    exact ⟨rfl, h⟩

theorem writeHost (h : b.Shows size p m) (src : Runs UInt8) (offset : Nat) :
    Follows size p (b.access (.writeHost src offset)) (m.access (.writeHost src offset)) := by
  obtain rfl := h.placement_eq
  obtain rfl := h.size_eq
  obtain ⟨device, view⟩ := m
  rcases h.host_cases with ⟨hb, rfl⟩ | ⟨host, bytes, hb, rfl, hl, hf⟩
  · simp only [access, Buffer.writeHost, Windows.access, hb]
    exact ⟨rfl, h⟩
  · simp only [access, Buffer.writeHost, Windows.access, hb, hl]
    by_cases hr : offset + src.length ≤ b.size
    · rw [if_pos hr, if_pos hr]
      exact ⟨rfl, h.overwrite_host hl hf hr⟩
    · rw [if_neg hr, if_neg hr]
      exact ⟨rfl, h⟩

theorem deviceView (h : b.Shows size p m) : b.deviceView.toList = m.device := by
  obtain rfl := h.placement_eq
  rw [Buffer.deviceView, Runs.toList_slice_eq, h.device, h.size_eq, ← h.device_length]
  exact Placement.cut_framed_self

theorem hostView (h : b.Shows size p m) : b.hostView.map Runs.toList = m.host := by
  obtain rfl := h.placement_eq
  rcases h.host_cases with ⟨hb, hm⟩ | ⟨host, bytes, hb, hm, hl, hf⟩
  · rw [Buffer.hostView, hb, hm]
    rfl
  · rw [Buffer.hostView, hb, hm, Option.map_some, Option.map_some, Runs.toList_slice_eq, hf,
      h.size_eq, ← hl, Placement.cut_framed_self]

variable (hfit : p.offset + size ≤ p.physicalSize) (hlim : p.physicalSize < wordLimit)
include hfit hlim

theorem sync_toDevice (h : b.Shows size p m) {host : Runs UInt8} {bytes : List UInt8}
    (hb : b.memory.host = some host) (hl : bytes.length = size)
    (hf : host.toList = p.framed bytes) {offset n : Nat} (hr : offset + n ≤ size) :
    ∃ memory, b.memory.sync .toDevice n (p.offset + offset) = .ok memory ∧
      Shows size p { b with memory } { m with
        device := patch m.device offset (cut bytes offset n) } := by
  have hsize := h.memory_size hfit
  have hs := Memory.sync_of_le hb (hsize ▸ hlim)
    (show p.offset + offset + n ≤ b.memory.size by omega) .toDevice
  obtain ⟨hc, hn⟩ := slice_framed hl hf hr
  have ho := h.overwrite_device (hn.symm ▸ hr)
  rw [hc] at ho
  exact ⟨_, hs, ho⟩

theorem sync_fromDevice (h : b.Shows size p m) {host : Runs UInt8} {bytes : List UInt8}
    (hb : b.memory.host = some host) (hl : bytes.length = size)
    (hf : host.toList = p.framed bytes) {offset n : Nat} (hr : offset + n ≤ size) :
    ∃ memory, b.memory.sync .fromDevice n (p.offset + offset) = .ok memory ∧
      Shows size p { b with memory } { m with
        host := some (patch bytes offset (cut m.device offset n)) } := by
  have hsize := h.memory_size hfit
  have hs := Memory.sync_of_le hb (hsize ▸ hlim)
    (show p.offset + offset + n ≤ b.memory.size by omega) .fromDevice
  obtain ⟨hc, hn⟩ := slice_framed h.device_length h.device hr
  have ho := h.overwrite_host hl hf (hn.symm ▸ hr)
  rw [hc] at ho
  exact ⟨_, hs, ho⟩

theorem copyFromHost (h : b.Shows size p m) (src : Runs UInt8) (offset : Nat) :
    Follows size p (b.access (.copyFromHost src offset)) (m.access (.copyFromHost src offset)) := by
  refine h.settle_within (by omega) fun hr => ?_
  obtain rfl := h.placement_eq
  obtain ⟨device, view⟩ := m
  have hsize := h.memory_size hfit
  rcases h.host_cases with ⟨hb, rfl⟩ | ⟨host, bytes, hb, rfl, hl, hf⟩
  · have hw := Memory.write_of_le (hsize ▸ hlim)
      (show b.placement.offset + offset + src.length ≤ b.memory.size by omega)
    have ho := h.overwrite_device hr
    simp only [hb] at ho
    simp only [hb, hw]
    exact ⟨rfl, ho⟩
  · -- what the host's view got is what the device's view is given
    have ho := h.overwrite_host hl hf hr
    have hr' : offset + src.toList.length ≤ bytes.length := by
      rw [Runs.length_toList, hl]
      exact hr
    have hc : cut (patch bytes offset src.toList) offset src.length = src.toList := by
      have hc := cut_patch hr'
      rwa [Runs.length_toList] at hc
    have hl' := (length_patch hr').trans hl
    have hf' : (host.overwrite (b.placement.offset + offset) src).toList =
        b.placement.framed (patch bytes offset src.toList) := by
      rw [Runs.toList_overwrite_eq, hf, Placement.patch_framed hr']
    obtain ⟨memory, hs, hshow⟩ := ho.sync_toDevice hfit hlim rfl hl' hf' hr
    rw [hc] at hshow
    simp only [hb, hs]
    exact ⟨rfl, hshow⟩

theorem copyToHost (h : b.Shows size p m) (n offset : Nat) :
    Follows size p (b.access (.copyToHost n offset)) (m.access (.copyToHost n offset)) := by
  refine h.settle_within (by omega) fun hr => ?_
  obtain rfl := h.placement_eq
  obtain ⟨device, view⟩ := m
  have hsize := h.memory_size hfit
  have hslice := (slice_framed h.device_length h.device hr).1
  rcases h.host_cases with ⟨hb, rfl⟩ | ⟨host, bytes, hb, rfl, hl, hf⟩
  · have hd := Memory.read_of_le (hsize ▸ hlim)
      (show b.placement.offset + offset + n ≤ b.memory.size by omega)
    simp only [hb, hd]
    exact ⟨congrArg Except.ok hslice, h⟩
  · obtain ⟨memory, hs, hshow⟩ := h.sync_fromDevice hfit hlim hb hl hf hr
    -- the bytes are read from the host's view, which has just got them from the device's
    have hr' : offset + (cut device offset n).length ≤ bytes.length := by
      rw [length_cut (h.device_length ▸ hr), hl]
      exact hr
    have hc := cut_patch hr'
    rw [length_cut (h.device_length ▸ hr)] at hc
    rcases hshow.host_cases with ⟨-, hm'⟩ | ⟨host', bytes', hb', hm', hl', hf'⟩
    · cases hm'
    · obtain rfl := Option.some.inj hm'
      have hread := (slice_framed hl' hf' hr).1
      rw [hc] at hread
      simp only at hb'
      simp only [hb, hs, bind, Except.bind, hb']
      exact ⟨congrArg Except.ok hread, hshow⟩

theorem syncForRead (h : b.Shows size p m) (offset n : Nat) :
    Follows size p (b.access (.syncForRead offset n)) (m.access (.syncForRead offset n)) := by
  refine h.settle_within (by omega) fun hr => ?_
  obtain rfl := h.placement_eq
  obtain ⟨device, view⟩ := m
  rcases h.host_cases with ⟨hb, rfl⟩ | ⟨host, bytes, hb, rfl, hl, hf⟩
  · simp only [isHostMapped, hb]
    exact ⟨rfl, h⟩
  · obtain ⟨memory, hs, hshow⟩ := h.sync_fromDevice hfit hlim hb hl hf hr
    simp only [isHostMapped, hb, hs]
    exact ⟨rfl, hshow⟩

theorem syncForWrite (h : b.Shows size p m) (offset n : Nat) :
    Follows size p (b.access (.syncForWrite offset n)) (m.access (.syncForWrite offset n)) := by
  refine h.settle_within (by omega) fun hr => ?_
  obtain rfl := h.placement_eq
  obtain ⟨device, view⟩ := m
  rcases h.host_cases with ⟨hb, rfl⟩ | ⟨host, bytes, hb, rfl, hl, hf⟩
  · simp only [isHostMapped, hb]
    exact ⟨rfl, h⟩
  · obtain ⟨memory, hs, hshow⟩ := h.sync_toDevice hfit hlim hb hl hf hr
    simp only [isHostMapped, hb, hs]
    exact ⟨rfl, hshow⟩

theorem access (h : b.Shows size p m) (a : Access) :
    Follows size p (b.access a) (m.access a) := by
  cases a with
  | copyFromHost src offset => exact h.copyFromHost hfit hlim src offset
  | copyToHost n offset => exact h.copyToHost hfit hlim n offset
  | syncForRead offset n => exact h.syncForRead hfit hlim offset n
  | syncForWrite offset n => exact h.syncForWrite hfit hlim offset n
  | writeHost src offset => exact h.writeHost src offset

theorem play (h : b.Shows size p m) (accesses : List Access) :
    (Access.play Buffer.access accesses b).1 = (Access.play Windows.access accesses m).1 ∧
      (Access.play Buffer.access accesses b).2.Shows size p
        (Access.play Windows.access accesses m).2 :=
  Access.play_simulates (fun a _ _ _ h' => h'.access hfit hlim a) h

end Shows

namespace Made

variable {r : Registry} {slot : Nat} {d d' : Device}

theorem fits (h : b.Made r slot d d') :
    b.placement.offset + b.size ≤ b.placement.physicalSize :=
  Striping.le_physicalSize_of_placement h.placed

theorem isHostMapped (h : b.Made r slot d d') : b.isHostMapped = d.unified := by
  have hz := h.host_zero
  rcases hb : b.memory.host with _ | host <;> rcases hu : d.unified <;>
    simp_all [Buffer.isHostMapped]

theorem shows (h : b.Made r slot d d') :
    b.Shows b.size b.placement (Windows.blank b.size b.isHostMapped) := by
  have hf := Placement.framed_replicate h.fits
  have hl : (Windows.blank b.size b.isHostMapped).device.length = b.size := List.length_replicate
  refine ⟨rfl, rfl, h.device_zero.trans hf.symm, ?_, hl, ?_⟩
  · rw [h.host_zero, h.isHostMapped, Windows.blank]
    cases d.unified with
    | false => rfl
    | true => exact congrArg some hf.symm
  · intro bytes hb
    rcases hm : b.isHostMapped with _ | _ <;> rw [hm] at hb
    · cases hb
    · cases hb
      exact List.length_replicate

end Made

end Buffer

/-- In a world an access settles the buffer, and leaves the other ones and the devices alone. -/
theorem World.transfer_settles {w : World} {id : Nat} {b : Buffer}
    (hid : w.buffers.get? id = some b) (f : Buffer → Except DeviceError Transfer) :
    ∃ answer t, w.transfer id f = some (answer, { w with
        site := t
        buffers := w.buffers.set id (b.settle (f b)).2 }) ∧
      (b.settle (f b)).1 = (answer.map Runs.toList).mapError Stop.error ∧ w.site.Grows t := by
  simp only [transfer, hid, Option.map_some]
  rcases f b with e | t
  · refine ⟨.error e, w.site, ?_, rfl, Site.lasting_grows.refl w.site⟩
    simp only [Buffer.settle, Store.set_self hid]
  · refine ⟨.ok t.bytes, _, rfl, rfl, ?_⟩
    have hsyncs : w.site.Grows { w.site with
        host := { w.site.host with syncs := w.site.host.syncs + t.syncs } } :=
      Site.grows_of_eq rfl (Files.SameDirectories.refl _) rfl rfl rfl
    exact Site.lasting_grows.trans hsyncs (.of_alike (Site.Alike.emitAll _ _))

/-- Every buffer that is made answers like two windows of zeros, whatever is done with it, and
keeps zeros around them in its allocation. -/
theorem World.createBuffer_refines_windows {w w' : World} {handle size device id : Nat}
    {unitName : String} (h : w.createBuffer handle size device unitName = some (.ok id, w')) :
    ∃ b, w'.buffers.get? id = some b ∧ b.size = size ∧
      b.placement.offset + size ≤ b.placement.physicalSize ∧
      ∀ accesses : List Access,
        let played := Access.play Buffer.access accesses b
        let model := Access.play Windows.access accesses (Windows.blank size b.isHostMapped)
        played.1 = model.1 ∧
        model.2.device.length = size ∧ (∀ bytes ∈ model.2.host, bytes.length = size) ∧
        played.2.deviceView.toList = model.2.device ∧
        played.2.hostView.map Runs.toList = model.2.host ∧
        played.2.memory.device.toList = b.placement.framed model.2.device ∧
        played.2.memory.host.map Runs.toList = model.2.host.map b.placement.framed := by
  obtain ⟨r, b, d, d', -, -, -, hmade, rfl, -, rfl, hw⟩ := createBuffer_ok h
  have hb : w'.buffers.get? w.buffers.next = some b := by
    rw [hw, Store.get?_insert, if_pos rfl]
  refine ⟨b, hb, rfl, hmade.fits, ?_⟩
  intro accesses
  obtain ⟨hanswers, hshow⟩ :=
    hmade.shows.play hmade.fits (Device.lt_wordLimit_of_alloc hmade.taken) accesses
  exact ⟨hanswers, hshow.device_length, hshow.host_length, hshow.deviceView,
    hshow.hostView, hshow.device, hshow.host⟩

theorem World.oneDevice_refines_windows :
    ∃ w', World.oneDevice.createBuffer 0 9 0 "dpu" = some (.ok 0, w') ∧
      ∃ b, w'.buffers.get? 0 = some b ∧
        (Access.play Buffer.access
          [.copyFromHost [(7, 2)] 3, .copyToHost 4 2, .syncForWrite 2 8, .copyToHost 1 8] b).1 =
          [.ok [], .ok [0, 7, 7, 0], .error (.error (.outOfRange 2 8 9)), .ok [0]] := by
  obtain ⟨w', hw⟩ : ∃ w', World.oneDevice.createBuffer 0 9 0 "dpu" = some (.ok 0, w') :=
    ⟨_, rfl⟩
  obtain ⟨b, hb, -, -, hall⟩ := World.createBuffer_refines_windows hw
  refine ⟨w', hw, b, hb, ?_⟩
  rw [(hall _).1]
  cases b.isHostMapped <;> rfl

end Accelerator
