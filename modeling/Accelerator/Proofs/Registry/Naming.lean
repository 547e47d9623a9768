import Accelerator.Proofs.World.Lookup

/-! The kernels of the units of a registry. Where the names are plain each unit has a kernel of its
own, which has its full name. -/

namespace Accelerator

namespace Registry

variable {r : Registry} {settings : Settings} {n : Nat} {e e' : String × ComputeUnit}

theorem Made.name_mem (h : r.Made settings n) (hm : e ∈ r.units) :
    e.2.fullName ∈ r.unitNames := by
  obtain ⟨-, hunits⟩ := h.indexes
  obtain ⟨device, name, hr, -, hfound⟩ := hunits.found e hm
  rw [hfound.fullName, mem_unitNames_iff]
  exact (Opening.mem_requests_iff.mp hr).2

theorem Made.kernel_name_of_plain (h : r.Made settings n) (hm : e ∈ r.units)
    (hp : IsPlainName e.2.fullName) : e.2.kernel.name = e.2.fullName := by
  obtain ⟨-, hunits⟩ := h.indexes
  obtain ⟨device, name, -, -, hfound⟩ := hunits.found e hm
  rw [hfound.kernelName, hfound.fullName]
  exact kernelNameFor_eq_self_iff.mpr (hfound.fullName ▸ hp)

theorem Made.kernel_name (h : r.Made settings n) (hp : ∀ name ∈ r.unitNames, IsPlainName name)
    (hm : e ∈ r.units) : e.2.kernel.name = e.2.fullName :=
  h.kernel_name_of_plain hm (hp e.2.fullName (h.name_mem hm))

theorem Made.joinName (h : r.Made settings n) (hp : ∀ name ∈ r.unitNames, IsPlainName name)
    (hm : e ∈ r.units) :
    Accelerator.joinName e.2.kernelName e.2.instanceName = e.2.fullName := by
  obtain ⟨-, hunits⟩ := h.indexes
  obtain ⟨device, name, -, -, hfound⟩ := hunits.found e hm
  have hplain := hp e.2.fullName (h.name_mem hm)
  rw [hfound.fullName] at hplain ⊢
  have hjoin := joinName_splitName hplain
  rwa [← hfound.names] at hjoin

theorem Made.kernel_device (h : r.Made settings n) (hm : e ∈ r.units) :
    e.2.kernel.device = e.2.device ∧ e.2.device ∈ r.devices.map (·.index) := by
  obtain ⟨-, hunits⟩ := h.indexes
  obtain ⟨device, name, hr, -, hfound⟩ := hunits.found e hm
  have hbound := (Opening.mem_requests_iff.mp hr).1
  rw [hfound.kernelDevice, hfound.device]
  exact ⟨rfl, List.mem_map_of_mem hbound⟩

/-- There is one unit of a name on a device. -/
theorem Made.eq_of_name (h : r.Made settings n) (hm : e ∈ r.units) (hm' : e' ∈ r.units)
    (hname : e.2.fullName = e'.2.fullName) (hdevice : e.2.device = e'.2.device) : e = e' :=
  List.inj_on_of_nodup_map h.indexes.2.nodup_pairs hm hm' (Prod.ext hname hdevice)

theorem Made.kernel_eq_iff (h : r.Made settings n) (hp : ∀ name ∈ r.unitNames, IsPlainName name)
    (hm : e ∈ r.units) (hm' : e' ∈ r.units) : e.2.kernel = e'.2.kernel ↔
      e.2.fullName = e'.2.fullName ∧ e.2.kernel.device = e'.2.device := by
  constructor
  · intro hk
    rw [← h.kernel_name hp hm, ← h.kernel_name hp hm', hk, (h.kernel_device hm').1]
    exact ⟨rfl, rfl⟩
  · rintro ⟨hname, hdevice⟩
    rw [(h.kernel_device hm).1] at hdevice
    rw [h.eq_of_name hm hm' hname hdevice]

theorem Made.eq_of_kernel (h : r.Made settings n) (hp : ∀ name ∈ r.unitNames, IsPlainName name)
    (hm : e ∈ r.units) (hm' : e' ∈ r.units) (hk : e.2.kernel = e'.2.kernel) : e = e' := by
  obtain ⟨hname, hdevice⟩ := (h.kernel_eq_iff hp hm hm').mp hk
  exact h.eq_of_name hm hm' hname ((h.kernel_device hm).1.symm.trans hdevice)

/-- A name is what a device makes of the form in which it is asked for just if the name is plain.
So in a registry whose units have plain names each kernel has the full name of its unit, which is
put together from its two parts, and no two units have the same kernel. -/
theorem kernels_named :
    (∀ fullName, Device.coreName (kernelRequest fullName) = fullName ↔
      '\x7b' ∉ fullName.toList ∧ '\x7d' ∉ fullName.toList ∧
        fullName.toList.getLast? ≠ some ':') ∧
    ∀ (r : Registry) (settings : Settings) (n : Nat), r.Made settings n →
      (∀ name ∈ r.unitNames, IsPlainName name) →
      (∀ e ∈ r.units, e.2.kernel.name = e.2.fullName ∧
        e.2.fullName = if e.2.instanceName = "" then e.2.kernelName
          else e.2.kernelName ++ ":" ++ e.2.instanceName) ∧
      ∀ e ∈ r.units, ∀ e' ∈ r.units, e.2.kernel = e'.2.kernel → e = e' := by
  refine ⟨fun _ => kernelNameFor_eq_self_iff, fun r settings n h hp => ⟨fun e hm => ?_, ?_⟩⟩
  · exact ⟨h.kernel_name hp hm, (h.joinName hp hm).symm⟩
  · exact fun e hm e' hm' => h.eq_of_kernel hp hm hm'

def colonNames : Site where
  host := Host.addImage (Host.ofCount 2) "a" {
    uuid := {}, cores := ["dpu", "dpu:one:two", ":dpu", "dpu::one"]
    banks := [{ tag := "DDR[0]", used := true, base := 0x60000000, size := 0x40000000 }] }

def allDevices : Settings where
  firmware := some "a"
  lockDirectory := "/"

/-- Names without an instance, with more than one colon, and without anything before one. -/
theorem kernels_named_colonNames :
    ∃ r : Registry, r.Made allDevices 2 ∧
      (∀ name ∈ r.unitNames, IsPlainName name) ∧
      r.units.map (·.2.kernel.name) = [":dpu", ":dpu", "dpu", "dpu", "dpu::one", "dpu::one",
        "dpu:one:two", "dpu:one:two"] ∧
      ∀ e ∈ r.units, ∀ e' ∈ r.units, e.2.kernel = e'.2.kernel → e = e' := by
  let w : World := { site := colonNames }
  have hready : (w.openRegistry allDevices).1 = .ready 0 := by decide +kernel
  obtain ⟨r, hr, hmade⟩ := World.made_of_openRegistry (Prod.ext hready rfl)
  have hmap : ((w.openRegistry allDevices).2.registryOf? 0).map (fun r =>
      (r.image.cores, r.units.map (·.2.fullName))) =
        some (["dpu", "dpu:one:two", ":dpu", "dpu::one"], [":dpu", ":dpu", "dpu", "dpu",
          "dpu::one", "dpu::one", "dpu:one:two", "dpu:one:two"]) := by
    decide +kernel
  rw [hr, Option.map_some, Option.some.injEq, Prod.mk.injEq] at hmap
  have hplain : ∀ name ∈ r.unitNames, IsPlainName name := by
    intro name hm
    have hcores : ∀ name ∈ ["dpu", "dpu:one:two", ":dpu", "dpu::one"], IsPlainName name := by
      decide +kernel
    exact hcores name (hmap.1 ▸ (mem_unitNames_iff.mp hm).1)
  obtain ⟨-, hkernels⟩ := kernels_named
  obtain ⟨hnames, hinj⟩ := hkernels r allDevices 2 hmade hplain
  refine ⟨r, hmade, hplain, ?_, hinj⟩
  rw [← hmap.2]
  exact List.map_congr_left fun e hm => (hnames e hm).1

end Registry

end Accelerator
