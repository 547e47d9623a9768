import Accelerator.Proofs.Registry.Requests
import Accelerator.Proofs.Settings.Resolution
import Accelerator.Proofs.World.Acts

/-! Openings of a world that go on step by step among whatever else is done. None asks for a lock
twice, and none has to wait where its locks are free and are left to it. -/

namespace Accelerator

namespace World

variable {v w w' : World} {deed : Deed} {id : Nat} {o : Opening} {settings : Settings}

theorem Course.get?_openings {i n : Nat} {result : Opened} (h : Course w i n o result w')
    (hne : i ≠ id) : w'.openings.get? id = w.openings.get? id := by
  have herase : (w.openings.erase i).get? id = w.openings.get? id :=
    (Store.get?_erase _ _ _).trans (if_neg hne)
  cases h with
  | ready hb hp hf => exact herase
  | waiting hb => exact (Store.get?_set _ _ _ _).trans (if_neg hne)
  | unbound hb => exact herase
  | unfinished hb hf => exact herase

theorem Opens.get?_openings {n : Nat} {directory : Option String} (h : Opens n directory w w') (hn : id < n)
    (hid : id < w.openings.next) : w'.openings.get? id = w.openings.get? id := by
  induction h with
  | reported h => rfl
  | begun hd h => exact (Store.get?_insert _ _ _).trans (if_neg (Nat.ne_of_gt hid))
  | advanced hle hget hc => exact hc.get?_openings (Nat.ne_of_gt (Nat.lt_of_lt_of_le hn hle))
  | remembered slot => rfl
  | trans h h' ih ih' => exact (ih' (Nat.lt_of_lt_of_le hid h.frame.openings)).trans (ih hid)

theorem Acts.openings_next_le (h : w.Acts deed w') : w.openings.next ≤ w'.openings.next := by
  rcases h.opens_or_same with hopens | ⟨hsame, -⟩
  · exact hopens.frame.openings
  · exact Nat.le_of_eq (by rw [hsame])

theorem resumed_cases (w : World) (deed : Deed) :
    (∃ i n, deed = .continueOpening i n) ∨ w.resumed deed = w.openings.next := by
  cases deed with
  | continueOpening i n => exact Or.inl ⟨i, n, rfl⟩
  | _ => exact Or.inr rfl

/-- A deed leaves all openings alone but the one that it goes on with. -/
theorem get?_openings_act (hne : w.resumed deed ≠ id) (hid : id < w.openings.next) :
    (w.act deed).openings.get? id = w.openings.get? id := by
  rcases (w.acts deed).opens_or_same with hopens | ⟨hsame, -⟩
  · rcases w.resumed_cases deed with ⟨i, n, rfl⟩ | hresumed
    · simp only [act]
      rcases hc : w.continueOpening i n with _ | ⟨result, w'⟩
      · rfl
      · obtain ⟨o, -, hcourse⟩ := continueOpening_course hc
        exact hcourse.get?_openings hne
    · exact hopens.get?_openings (hresumed ▸ hid) hid
  · rw [hsame]

/-- Where an opening is still in the making, it is as binding devices has left it. -/
theorem bindUpTo_of_continueOpening {n : Nat}
    (h : (w.act (.continueOpening id n)).openings.get? id = some o) :
    ∃ o₀, w.openings.get? id = some o₀ ∧
      (Opening.bindUpTo n o₀).run w.site = (.ok o, (w.act (.continueOpening id n)).site) := by
  simp only [act] at h ⊢
  rcases hc : w.continueOpening id n with _ | ⟨result, w'⟩
  · rw [hc] at h
    have hnone := Option.map_eq_none_iff.mp hc
    cases hnone.symm.trans h
  · rw [hc] at h
    simp only [Option.map_some, Option.getD_some] at h ⊢
    obtain ⟨o₀, ho₀, hcourse⟩ := continueOpening_course hc
    have hgone : (w.openings.erase id).get? id = none := (Store.get?_erase _ _ _).trans (if_pos rfl)
    cases hcourse with
    | ready hb hp hf => cases hgone.symm.trans h
    | unbound hb => cases hgone.symm.trans h
    | unfinished hb hf => cases hgone.symm.trans h
    | waiting hb =>
      rw [Store.get?_set, if_pos rfl, ho₀] at h
      cases h
      exact ⟨o₀, ho₀, hb⟩

/-- The devices whose locks the opening asks for in the course of a deed. -/
def lockRequests (w : World) (id : Nat) : Deed → List Nat
  | .continueOpening i n =>
    if i = id then ((w.openings.get? id).map fun o => o.lockRequests n w.site).getD [] else []
  | _ => []

/-- The devices whose locks the opening asks for in the course of a history, in order. -/
def lockRequestsIn (id : Nat) : World → List Deed → List Nat
  | _, [] => []
  | w, deed :: history => w.lockRequests id deed ++ lockRequestsIn id (w.act deed) history

theorem lockRequests_of_ne (hne : w.resumed deed ≠ id) : w.lockRequests id deed = [] := by
  cases deed with
  | continueOpening i n => exact if_neg hne
  | _ => rfl

theorem lockRequests_of_none (ho : w.openings.get? id = none) : w.lockRequests id deed = [] := by
  cases deed with
  | continueOpening i n => simp [lockRequests, ho]
  | _ => rfl

theorem lockRequests_of_some (ho : w.openings.get? id = some o) (n : Nat) :
    w.lockRequests id (.continueOpening id n) = o.lockRequests n w.site := by
  simp [lockRequests, ho]

/-- The opening has asked for the first of these locks, in their order. -/
structure Asking (id : Nat) (order asked : List Nat) (w : World) : Prop where
  born : id < w.openings.next
  opening : ∀ o, w.openings.get? id = some o → o.order = order ∧ o.asked = asked
  first : asked <+: order

namespace Asking

variable {order asked : List Nat}

theorem act (h : Asking id order asked w) (deed : Deed) :
    Asking id order (asked ++ w.lockRequests id deed) (w.act deed) := by
  have hborn := Nat.lt_of_lt_of_le h.born (w.acts deed).openings_next_le
  by_cases hid : w.resumed deed = id
  · rcases w.resumed_cases deed with ⟨i, n, rfl⟩ | hresumed
    · obtain rfl : i = id := hid
      refine ⟨hborn, fun o ho => ?_, ?_⟩
      · obtain ⟨o₀, ho₀, hb⟩ := bindUpTo_of_continueOpening ho
        obtain ⟨horder, hasked⟩ := h.opening o₀ ho₀
        rw [lockRequests_of_some ho₀, Opening.asked_lockRequests hb, hasked]
        exact ⟨(Opening.bindUpTo_ok hb).order.trans horder, rfl⟩
      · rcases ho : w.openings.get? i with _ | o
        · rw [lockRequests_of_none ho, List.append_nil]
          exact h.first
        · obtain ⟨horder, hasked⟩ := h.opening o ho
          rw [lockRequests_of_some ho, ← hasked, ← horder]
          exact o.asked_append_lockRequests n w.site
    · exact absurd (hresumed.symm.trans hid) (Nat.ne_of_gt h.born)
  · rw [lockRequests_of_ne hid, List.append_nil]
    refine ⟨hborn, fun o ho => ?_, h.first⟩
    rw [get?_openings_act hid h.born] at ho
    exact h.opening o ho

theorem acts (h : Asking id order asked w) (history : List Deed) :
    Asking id order (asked ++ lockRequestsIn id w history) (history.foldl World.act w) := by
  induction history generalizing w asked with
  | nil =>
    rw [lockRequestsIn, List.append_nil]
    exact h
  | cons deed history ih =>
    rw [lockRequestsIn, ← List.append_assoc]
    exact ih (h.act deed)

end Asking

/-- Whatever is done but going on with the opening takes none of these files. -/
def Untaken (id : Nat) (files : List Location) : World → List Deed → Prop
  | _, [] => True
  | w, deed :: history =>
    (w.resumed deed = id ∨ ∀ f ∈ files, f ∈ (w.act deed).site.held → f ∈ w.site.held) ∧
      Untaken id files (w.act deed) history

/-- Nobody holds a lock that the opening is still to take, and these are the files of all such. -/
structure Unhindered (id : Nat) (files : List Location) (w : World) : Prop where
  born : id < w.openings.next
  clear : ∀ o, w.openings.get? id = some o → o.Clear w.site
  files : ∀ o, w.openings.get? id = some o →
    ∀ i ∈ o.pending, DeviceLock.place o.settings.lockDirectory i ∈ files

namespace Unhindered

variable {files : List Location}

theorem act (h : Unhindered id files w)
    (hu : w.resumed deed = id ∨ ∀ f ∈ files, f ∈ (w.act deed).site.held → f ∈ w.site.held) :
    Unhindered id files (w.act deed) := by
  have hborn := Nat.lt_of_lt_of_le h.born (w.acts deed).openings_next_le
  by_cases hid : w.resumed deed = id
  · rcases w.resumed_cases deed with ⟨i, n, rfl⟩ | hresumed
    · obtain rfl : i = id := hid
      refine ⟨hborn, fun o ho => ?_, fun o ho => ?_⟩
      · obtain ⟨o₀, ho₀, hb⟩ := bindUpTo_of_continueOpening ho
        exact ((h.clear o₀ ho₀).bindUpTo hb).1
      · obtain ⟨o₀, ho₀, hb⟩ := bindUpTo_of_continueOpening ho
        obtain ⟨-, hpending⟩ := (h.clear o₀ ho₀).bindUpTo hb
        rw [hpending, (Opening.bindUpTo_ok hb).settings]
        exact fun i hm => h.files o₀ ho₀ i (List.mem_of_mem_drop hm)
    · exact absurd (hresumed.symm.trans hid) (Nat.ne_of_gt h.born)
  · have hsame := get?_openings_act hid h.born
    refine ⟨hborn, fun o ho => ?_, fun o ho => h.files o (hsame ▸ ho)⟩
    have hclear := h.clear o (hsame ▸ ho)
    refine ⟨hclear.waits, hclear.nodup, fun i hm hheld => hclear.free i hm ?_⟩
    exact hu.resolve_left hid _ (h.files o (hsame ▸ ho) i hm) hheld

theorem acts (h : Unhindered id files w) {history : List Deed}
    (hu : Untaken id files w history) : Unhindered id files (history.foldl World.act w) := by
  induction history generalizing w with
  | nil => exact h
  | cons deed history ih => exact ih (h.act hu.1) hu.2

theorem resumeOpening {result : Opened} (h : Unhindered id files w)
    (hr : w.resumeOpening id = some (result, w')) (i : Nat) : result ≠ .waiting i := by
  rintro rfl
  obtain ⟨o, ho, hr⟩ := Option.bind_eq_some_iff.mp hr
  obtain ⟨o₁, o', t, ho₁, hb, hleft⟩ := pending_of_waiting hr
  obtain rfl : o = o₁ := Option.some.inj (ho.symm.trans ho₁)
  obtain ⟨-, hpending⟩ := (h.clear o ho).bindUpTo hb
  rw [List.drop_length] at hpending
  exact hleft hpending

end Unhindered

theorem asking_of_beginOpening (h : w.beginOpening settings = (.ok id, v)) :
    Asking id (settings.selection.resolve w.site.host.deviceCount) [] v := by
  obtain ⟨rfl, o, t, hr, rfl⟩ := beginOpening_started h
  obtain ⟨-, hbound⟩ := Opening.start_ok hr
  refine ⟨Nat.lt_succ_self _, fun o' ho => ?_, List.nil_prefix⟩
  rw [Store.get?_insert, if_pos rfl] at ho
  cases ho
  simp [Opening.order, Opening.asked, hbound, Opening.start_pending hr, Opening.waits_of_start hr]

theorem unhindered_of_beginOpening (h : w.beginOpening settings = (.ok id, v))
    (hf : ∀ i ∈ settings.selection.resolve w.site.host.deviceCount,
      DeviceLock.place settings.lockDirectory i ∉ w.site.held) :
    Unhindered id ((settings.selection.resolve w.site.host.deviceCount).map
      (DeviceLock.place settings.lockDirectory)) v := by
  obtain ⟨rfl, o, t, hr, rfl⟩ := beginOpening_started h
  obtain ⟨rfl, -⟩ := Opening.start_ok hr
  have hheld : t.held = w.site.held := (Opening.start_alike hr).held
  have hpending := Opening.start_pending hr
  have honly : ∀ o', (w.openings.insert o).2.get? w.openings.next = some o' → o' = o := by
    intro o' ho
    rw [Store.get?_insert, if_pos rfl] at ho
    exact (Option.some.inj ho).symm
  refine ⟨Nat.lt_succ_self _, fun o' ho => ?_, fun o' ho => ?_⟩
  · rw [honly o' ho]
    refine ⟨Opening.waits_of_start hr, ?_, fun i hm => ?_⟩
    · rw [hpending]
      exact Selection.nodup_resolve _ _
    · rw [hpending] at hm
      exact hheld ▸ hf i hm
  · rw [honly o' ho, hpending]
    exact fun i => List.mem_map_of_mem

/-- What is free at the start, and is not taken by others, need not be waited for. -/
theorem openRegistry_of_free
    (hf : ∀ i ∈ settings.selection.resolve w.site.host.deviceCount,
      DeviceLock.place settings.lockDirectory i ∉ w.site.held) (i : Nat) :
    (w.openRegistry settings).1 ≠ .waiting i := by
  unfold openRegistry
  rcases hb : w.beginOpening settings with ⟨stop | id, v⟩
  · exact nofun
  · have hunhindered := unhindered_of_beginOpening hb hf
    rcases hr : v.resumeOpening id with _ | ⟨result, v'⟩
    · obtain ⟨rfl, o, t, -, rfl⟩ := beginOpening_started hb
      have ho : (w.openings.insert o).2.get? w.openings.next = some o :=
        (Store.get?_insert _ _ _).trans (if_pos rfl)
      simp [resumeOpening, continueOpening, ho] at hr
    · simp only [hr, Option.getD_some]
      exact hunhindered.resumeOpening hr i

theorem path_injective (directory : String) :
    Function.Injective fun i => (DeviceLock.forDevice directory i).path := by
  intro i j h
  have hplace : DeviceLock.place directory i = DeviceLock.place directory j :=
    congrArg (fun path => Files.place [] (Path.parts path)) h
  exact (DeviceLock.place_eq_iff.mp hplace).2

/-- Of the devices present a selection comes to those that it names, once each and in the order in
which it names them first. It comes to the same when it is made of these alone, and where fewer are
present the others stay. Devices differ in the paths of their locks, so an opening asks for no lock
twice, whatever is done meanwhile, and it need not wait for a lock as long as all that it needs were
free at its start and nobody else takes one. -/
theorem locks_requested_once :
    (∀ (s : Selection) (n : Nat),
      (s.resolve n).Nodup ∧
      (∀ i, i ∈ s.resolve n ↔ s.Names i ∧ i < n) ∧
      (s.resolve n).Pairwise (s.position · < s.position ·) ∧
      (Selection.list (s.resolve n)).resolve n = s.resolve n ∧
      ∀ m ≤ n, s.resolve m = (s.resolve n).filter (· < m)) ∧
    (∀ directory, Function.Injective fun i => (DeviceLock.forDevice directory i).path) ∧
    ∀ (w : World) (settings : Settings),
      let selected := settings.selection.resolve w.site.host.deviceCount
      let place := DeviceLock.place settings.lockDirectory
      (∀ id w₀ history, w.beginOpening settings = (.ok id, w₀) →
        let w' := history.foldl act w₀
        let requests := lockRequestsIn id w₀ history
        requests <+: selected ∧ (requests.map place).Nodup ∧
        (∀ o, w'.openings.get? id = some o → o.asked = requests) ∧
        ((∀ i ∈ selected, place i ∉ w.site.held) → Untaken id (selected.map place) w₀ history →
          (∀ o, w'.openings.get? id = some o → o.waits = false) ∧
          ∀ result w'', w'.resumeOpening id = some (result, w'') → ∀ i, result ≠ .waiting i)) ∧
      ((∀ i ∈ selected, place i ∉ w.site.held) →
        ∀ i, (w.openRegistry settings).1 ≠ .waiting i) := by
  refine ⟨fun s n => ⟨s.nodup_resolve n, fun i => Selection.mem_resolve_iff,
    s.pairwise_position_resolve n, s.resolve_list_resolve n, fun m h => (s.filter_resolve h).symm⟩,
    path_injective, fun w settings => ⟨fun id w₀ history hb => ?_, openRegistry_of_free⟩⟩
  have hasking := (asking_of_beginOpening hb).acts history
  refine ⟨hasking.first, ?_, fun o ho => (hasking.opening o ho).2, fun hf hu => ?_⟩
  · refine List.Nodup.map (fun i j h => (DeviceLock.place_eq_iff.mp h).2) ?_
    exact hasking.first.sublist.nodup (Selection.nodup_resolve _ _)
  · have hunhindered := (unhindered_of_beginOpening hb hf).acts hu
    exact ⟨fun o ho => (hunhindered.clear o ho).waits,
      fun result w'' hr => hunhindered.resumeOpening hr⟩

/-- A device that is named twice and one that is absent, while others fail to get a lock that the
opening has, and get one that it does not need. -/
theorem locks_requested_once_amongOthers :
    let settings : Settings := {
      firmware := some "a", selection := .list [10, 2, 10, 11], lockDirectory := "/" }
    let w : World := { site := Registry.elevenDevices }
    let w₀ := (w.beginOpening settings).2
    let history : List Deed := [.continueOpening 0 1, .tryLock "/" 10, .lock "/" 3 false]
    settings.selection.resolve 11 = [10, 2] ∧
      settings.selection.resolve 3 = (settings.selection.resolve 11).filter (· < 3) ∧
      w.beginOpening settings = (.ok 0, w₀) ∧
      (history.foldl act w₀).site.held = [DeviceLock.place "/" 3, DeviceLock.place "/" 10] ∧
      lockRequestsIn 0 w₀ history = [10] ∧
      ∃ o result w', (history.foldl act w₀).openings.get? 0 = some o ∧ o.asked = [10] ∧
        o.waits = false ∧ (history.foldl act w₀).resumeOpening 0 = some (result, w') ∧
        ∀ i, result ≠ .waiting i := by
  intro settings w w₀ history
  have hselected : settings.selection.resolve 11 = [10, 2] := by decide +kernel
  have hbegun : (w.beginOpening settings).1 = .ok 0 := by decide +kernel
  have hb : w.beginOpening settings = (.ok 0, w₀) := by rw [← hbegun]
  have hfree : ∀ i ∈ [10, 2], DeviceLock.place "/" i ∉ w.site.held := by decide +kernel
  have hu : Untaken 0 ([10, 2].map (DeviceLock.place "/")) w₀ history :=
    ⟨Or.inl rfl, Or.inr (by decide +kernel), Or.inr (by decide +kernel), trivial⟩
  have hheld : (history.foldl act w₀).site.held =
      [DeviceLock.place "/" 3, DeviceLock.place "/" 10] := by decide +kernel
  have hrequests : lockRequestsIn 0 w₀ history = [10] := by decide +kernel
  have hmaking : ((history.foldl act w₀).openings.get? 0).isSome = true ∧
      ((history.foldl act w₀).resumeOpening 0).isSome = true := by decide +kernel
  obtain ⟨o, ho⟩ := Option.isSome_iff_exists.mp hmaking.1
  obtain ⟨⟨result, w'⟩, hr⟩ := Option.isSome_iff_exists.mp hmaking.2
  obtain ⟨hresolved, -, hopenings⟩ := locks_requested_once
  obtain ⟨-, -, -, -, hfewer⟩ := hresolved settings.selection 11
  obtain ⟨-, -, hasked, hgoes⟩ := (hopenings w settings).1 0 w₀ history hb
  have hresolve : settings.selection.resolve w.site.host.deviceCount = [10, 2] := hselected
  rw [hresolve] at hgoes
  obtain ⟨hwaits, hends⟩ := hgoes hfree hu
  exact ⟨hselected, hfewer 3 (by decide), hb, hheld, hrequests, o, result, w', ho,
    (hasked o ho).trans hrequests, hwaits o ho, hr, hends result w' hr⟩

end World

end Accelerator
