import Accelerator.SharedInstance

/-! A shared instance lives from the call that made it to the drop of its last handle. As long as
it lives it is the only one, and after that it does not come back. -/

namespace Accelerator

namespace SharedInstance

variable {α ε : Type} {s : SharedInstance α} {i j : Nat}

inductive Request (ε α : Type) where
  | getOrInit (init : Except ε α)
  | get
  | drop (handle : Nat)

def perform (s : SharedInstance α) : Request ε α → SharedInstance α
  | .getOrInit init => (s.getOrInit init).2
  | .get => s.get?.2
  | .drop handle => s.drop handle

/-- The handle that the request gives out. -/
def given? (s : SharedInstance α) : Request ε α → Option Nat
  | .getOrInit init =>
    match (s.getOrInit init).1 with
    | .ok handle => some handle
    | .error _ => none
  | .get => s.get?.1
  | .drop _ => none

/-- The handles that are alive after the request, where these were alive before it: one is alive
from the request that gives it out until it is dropped. -/
def aliveAfter (s : SharedInstance α) (handles : List Nat) : Request ε α → List Nat
  | .drop handle => handles.filter (· ≠ handle)
  | r => handles ++ (s.given? r).toList

def aliveIn : SharedInstance α → List Nat → List (Request ε α) → List Nat
  | _, handles, [] => handles
  | s, handles, r :: history => aliveIn (s.perform r) (s.aliveAfter handles r) history

/-- Some handle that is alive refers to the instance. -/
def Held (s : SharedInstance α) (i : Nat) : Prop :=
  ∃ handle, s.handles.get? handle = some i

theorem alive_iff : s.alive i = true ↔ s.Held i := by
  rw [alive, List.contains_iff_mem, Store.mem_values_iff]
  rfl

theorem held_handOut : (s.handOut i).2.Held j ↔ j = i ∨ s.Held j := by
  simp only [Held, handOut, Store.get?_insert]
  constructor
  · rintro ⟨handle, h⟩
    split at h
    · exact Or.inl (Option.some.inj h).symm
    · exact Or.inr ⟨handle, h⟩
  · rintro (rfl | ⟨handle, h⟩)
    · exact ⟨s.handles.next, if_pos rfl⟩
    · refine ⟨handle, ?_⟩
      have hne : s.handles.next ≠ handle := by
        rintro rfl
        rw [Store.get?_next] at h
        cases h
      rw [if_neg hne, h]

theorem get?_drop (s : SharedInstance α) (handle other : Nat) :
    (s.drop handle).handles.get? other = if handle = other then none else s.handles.get? other :=
  Store.get?_erase _ _ _

theorem held_of_drop {handle : Nat} (h : (s.drop handle).Held i) : s.Held i := by
  obtain ⟨other, h⟩ := h
  rw [get?_drop] at h
  split at h
  · cases h
  · exact ⟨other, h⟩

/-- Nothing is held any more once the only handle is dropped. -/
theorem not_held_drop {handle : Nat} (h : ∀ other, other ≠ handle → s.handles.get? other = none)
    (i : Nat) : ¬ (s.drop handle).Held i := by
  rintro ⟨other, ho⟩
  rw [get?_drop] at ho
  split at ho
  · cases ho
  · next hne => cases (h other (Ne.symm hne)).symm.trans ho

/-- A request drops a handle, or gives out a new one, or leaves the handles as they are. -/
theorem handles_cases (s : SharedInstance α) (r : Request ε α) :
    (∃ handle, r = .drop handle) ∨
      (∀ handles, s.aliveAfter handles r = handles ++ (s.given? r).toList) ∧
        ((s.given? r = none ∧ (s.perform r).handles = s.handles) ∨
          ∃ i, s.given? r = some s.handles.next ∧
            (s.perform r).handles = (s.handles.insert i).2) := by
  cases r with
  | drop handle => exact Or.inl ⟨handle, rfl⟩
  | get =>
    refine Or.inr ⟨fun _ => rfl, ?_⟩
    simp only [given?, perform, get?]
    rcases s.live? with _ | i
    · exact Or.inl ⟨rfl, rfl⟩
    · exact Or.inr ⟨i, rfl, rfl⟩
  | getOrInit init =>
    refine Or.inr ⟨fun _ => rfl, ?_⟩
    simp only [given?, perform, getOrInit]
    rcases s.live? with _ | i
    · rcases init with e | a
      · exact Or.inl ⟨rfl, rfl⟩
      · exact Or.inr ⟨s.instances.next, rfl, rfl⟩
    · exact Or.inr ⟨i, rfl, rfl⟩

/-- Just these handles refer to something. -/
def HasHandles (s : SharedInstance α) (handles : List Nat) : Prop :=
  ∀ handle, (∃ i, s.handles.get? handle = some i) ↔ handle ∈ handles

theorem hasHandles_empty : ({} : SharedInstance α).HasHandles [] := by
  intro handle
  refine ⟨?_, nofun⟩
  rintro ⟨i, h⟩
  cases h

theorem HasHandles.perform {handles : List Nat} (h : s.HasHandles handles) (r : Request ε α) :
    (s.perform r).HasHandles (s.aliveAfter handles r) := by
  intro handle
  rcases s.handles_cases r with ⟨dropped, rfl⟩ | ⟨hafter, ⟨hgiven, hsame⟩ | ⟨i, hgiven, hnew⟩⟩
  · rw [SharedInstance.perform, aliveAfter, get?_drop, List.mem_filter, ← h handle]
    by_cases he : dropped = handle
    · simp [he]
    · simp [he, Ne.symm he]
  · rw [hafter, hgiven, hsame, Option.toList_none, List.append_nil]
    exact h handle
  · rw [hafter, hgiven, hnew, Option.toList_some, List.mem_append, List.mem_singleton, ← h handle,
      Store.get?_insert]
    by_cases he : s.handles.next = handle
    · exact iff_of_true ⟨i, if_pos he⟩ (Or.inr he.symm)
    · rw [if_neg he, or_iff_left (Ne.symm he)]

theorem HasHandles.performs {handles : List Nat} (h : s.HasHandles handles)
    (history : List (Request ε α)) :
    (history.foldl SharedInstance.perform s).HasHandles (aliveIn s handles history) := by
  induction history generalizing s handles with
  | nil => exact h
  | cons r history ih => exact ih (h.perform r)

/-- Whatever is held is what the slot remembers, and was made. -/
structure Tracked (s : SharedInstance α) : Prop where
  target : ∀ i, s.Held i → s.slot.target = some i
  made : ∀ i, s.Held i → ∃ a, s.instances.get? i = some a

theorem tracked_empty : Tracked ({} : SharedInstance α) where
  target _ h := by
    obtain ⟨_, h⟩ := h
    cases h
  made _ h := by
    obtain ⟨_, h⟩ := h
    cases h

theorem Tracked.live?_of_held (h : s.Tracked) (hi : s.Held i) : s.live? = some i := by
  have ht := h.target i hi
  rw [live?, WeakSlot.upgrade?, ht]
  exact if_pos (alive_iff.mpr hi)

theorem live?_of_idle (h : ∀ i, ¬ s.Held i) : s.live? = none := by
  rw [live?, WeakSlot.upgrade?, Option.filter_eq_none_iff]
  intro i _ hi
  exact h i (alive_iff.mp hi)

theorem exists_handOut (s : SharedInstance α) (i : Nat) :
    ∃ handle t, s.handOut i = (handle, t) ∧ s.handles.insert i = (handle, t.handles) ∧
      t.handles.get? handle = some i ∧ t = { s with handles := t.handles } :=
  ⟨_, _, rfl, rfl, (Store.get?_insert _ _ _).trans (if_pos rfl), rfl⟩

theorem Tracked.getOrInit_of_held (h : s.Tracked) (hi : s.Held i) (init : Except ε α) :
    s.getOrInit init = (.ok (s.handOut i).1, (s.handOut i).2) := by
  rw [getOrInit, h.live?_of_held hi]

theorem Tracked.get?_of_held (h : s.Tracked) (hi : s.Held i) :
    s.get? = (some (s.handOut i).1, (s.handOut i).2) := by
  rw [get?, h.live?_of_held hi]

theorem get?_of_idle (h : ∀ i, ¬ s.Held i) : s.get? = (none, s) := by
  rw [get?, live?_of_idle h]

theorem getOrInit_error_of_idle (h : ∀ i, ¬ s.Held i) (e : ε) :
    s.getOrInit (.error e) = (.error e, { s with initCalls := s.initCalls + 1 }) := by
  rw [getOrInit, live?_of_idle h]

/-- The state in which the instance that `a` becomes is handed out first. -/
def made (s : SharedInstance α) (a : α) : SharedInstance α :=
  { s with
    slot := ⟨some s.instances.next⟩
    instances := (s.instances.insert a).2
    initCalls := s.initCalls + 1 }

theorem getOrInit_ok_of_idle (h : ∀ i, ¬ s.Held i) (a : α) :
    s.getOrInit (.ok a : Except ε α) =
      (.ok ((s.made a).handOut s.instances.next).1, ((s.made a).handOut s.instances.next).2) := by
  rw [getOrInit, live?_of_idle h]
  rfl

inductive Moves (s : SharedInstance α) : SharedInstance α → Prop
  | share {i : Nat} (hi : s.Held i) : Moves s (s.handOut i).2
  | make (hidle : ∀ i, ¬ s.Held i) (a : α) : Moves s ((s.made a).handOut s.instances.next).2
  | drop (handle : Nat) : Moves s (s.drop handle)
  | keep (initCalls : Nat) : Moves s { s with initCalls }

theorem Tracked.moves (h : s.Tracked) (r : Request ε α) : s.Moves (s.perform r) := by
  by_cases hidle : ∀ i, ¬ s.Held i
  · cases r with
    | getOrInit init =>
      cases init with
      | error e =>
        rw [perform, getOrInit_error_of_idle hidle]
        exact Moves.keep _
      | ok a =>
        rw [perform, getOrInit_ok_of_idle hidle]
        exact Moves.make hidle a
    | get =>
      rw [perform, get?_of_idle hidle]
      exact Moves.keep s.initCalls
    | drop handle => exact Moves.drop handle
  · obtain ⟨i, hi⟩ : ∃ i, s.Held i := by simpa using hidle
    cases r with
    | getOrInit init =>
      rw [perform, h.getOrInit_of_held hi]
      exact Moves.share hi
    | get =>
      rw [perform, h.get?_of_held hi]
      exact Moves.share hi
    | drop handle => exact Moves.drop handle

theorem Moves.tracked {t : SharedInstance α} (hm : s.Moves t) (h : s.Tracked) : t.Tracked := by
  cases hm with
  | @share i hi =>
    have hsame (j : Nat) (hj : (s.handOut i).2.Held j) : s.Held j := by
      rcases held_handOut.mp hj with rfl | hj
      · exact hi
      · exact hj
    exact ⟨fun j hj => h.target j (hsame j hj), fun j hj => h.made j (hsame j hj)⟩
  | make hidle a =>
    have hnew (j : Nat) (hj : ((s.made a).handOut s.instances.next).2.Held j) :
        j = s.instances.next := by
      rcases held_handOut.mp hj with hj | hj
      · exact hj
      · exact absurd hj (hidle j)
    refine ⟨fun j hj => ?_, fun j hj => ?_⟩
    · rw [hnew j hj]
      rfl
    · rw [hnew j hj]
      exact ⟨a, (Store.get?_insert _ _ _).trans (if_pos rfl)⟩
  | drop handle =>
    have hsame (j : Nat) (hj : (s.drop handle).Held j) : s.Held j := held_of_drop hj
    exact ⟨fun j hj => h.target j (hsame j hj), fun j hj => h.made j (hsame j hj)⟩
  | keep n => exact ⟨h.target, h.made⟩

/-- The instance was made, and its last handle was dropped. -/
def Gone (s : SharedInstance α) (i : Nat) : Prop :=
  i < s.instances.next ∧ ¬ s.Held i

/-- A new instance has a number of its own, and a handle is given only to what is held. -/
theorem Moves.gone {t : SharedInstance α} (hm : s.Moves t) (h : s.Gone i) : t.Gone i := by
  obtain ⟨hlt, hi⟩ := h
  cases hm with
  | share hj =>
    refine ⟨hlt, fun hi' => ?_⟩
    rcases held_handOut.mp hi' with rfl | hi'
    · exact hi hj
    · exact hi hi'
  | make hidle a =>
    refine ⟨Nat.lt_succ_of_lt hlt, fun hi' => ?_⟩
    rcases held_handOut.mp hi' with rfl | hi'
    · exact Nat.lt_irrefl _ hlt
    · exact hi hi'
  | drop handle => exact ⟨hlt, fun hi' => hi (held_of_drop hi')⟩
  | keep n => exact ⟨hlt, hi⟩

theorem Tracked.performs (h : s.Tracked) (history : List (Request ε α)) :
    (history.foldl perform s).Tracked := by
  induction history generalizing s with
  | nil => exact h
  | cons r history ih => exact ih ((h.moves r).tracked h)

theorem Gone.performs (hi : s.Gone i) (h : s.Tracked) (history : List (Request ε α)) :
    (history.foldl perform s).Gone i := by
  induction history generalizing s with
  | nil => exact hi
  | cons r history ih =>
    have hm := h.moves r
    exact ih (hm.gone hi) (hm.tracked h)

/-- After any requests those handles refer to an instance that were given out and not dropped, and
all of them to the same. As long as there is one, every request for the instance gives another
handle to it and nothing is made; when there is none, `get` gives nothing, a failure to make one
changes only the count of attempts, and one that is made is handed out for the first time. To drop a
handle leaves the others as they are, and if there are none, nothing is held any more and the next
request makes an attempt. An instance without handles stays without. -/
theorem one_instance_at_a_time (history : List (Request ε α)) :
    let s := history.foldl perform {}
    (∀ handle, (∃ i, s.handles.get? handle = some i) ↔ handle ∈ aliveIn {} [] history) ∧
    (∀ i j, s.Held i → s.Held j → i = j) ∧
    (∀ i, s.Held i → (∃ a, s.instances.get? i = some a) ∧ ∃ handle t,
      s.handles.insert i = (handle, t.handles) ∧ t.handles.get? handle = some i ∧
      t = { s with handles := t.handles } ∧ s.get? = (some handle, t) ∧
      ∀ init : Except ε α, s.getOrInit init = (.ok handle, t)) ∧
    ((∀ i, ¬ s.Held i) → s.get? = (none, s) ∧
      (∀ e : ε, s.getOrInit (.error e) = (.error e, { s with initCalls := s.initCalls + 1 })) ∧
      ∀ a, ∃ handle t, s.getOrInit (.ok a : Except ε α) = (.ok handle, t) ∧
        s.handles.insert s.instances.next = (handle, t.handles) ∧
        t.handles.get? handle = some s.instances.next ∧ t.value? handle = some a ∧
        t.initCalls = s.initCalls + 1) ∧
    (∀ handle, let t := s.drop handle
      t.handles.get? handle = none ∧
      (∀ other, other ≠ handle → t.handles.get? other = s.handles.get? other) ∧
      t = { s with handles := t.handles } ∧
      ((∀ other, other ≠ handle → s.handles.get? other = none) →
        (∀ i, ¬ t.Held i) ∧ t.get? = (none, t) ∧
        ∀ init : Except ε α, (t.getOrInit init).2.initCalls = t.initCalls + 1)) ∧
    ∀ i, i < s.instances.next → ¬ s.Held i →
      ∀ later : List (Request ε α), ¬ (later.foldl perform s).Held i := by
  intro s
  have h : s.Tracked := tracked_empty.performs history
  have halive : s.HasHandles (aliveIn {} [] history) := hasHandles_empty.performs history
  refine ⟨halive, fun i j hi hj => ?_, fun i hi => ⟨h.made i hi, ?_⟩, fun hidle => ?_,
    fun handle => ⟨?_, fun other hne => ?_, rfl, fun hlast => ?_⟩,
    fun i hlt hi later => (Gone.performs ⟨hlt, hi⟩ h later).2⟩
  · exact Option.some.inj ((h.target i hi).symm.trans (h.target j hj))
  · obtain ⟨handle, t, ht, hnew, hget, hsame⟩ := s.exists_handOut i
    have hout := h.get?_of_held hi
    have hinit (init : Except ε α) := h.getOrInit_of_held hi init
    rw [ht] at hout hinit
    exact ⟨handle, t, hnew, hget, hsame, hout, hinit⟩
  · refine ⟨get?_of_idle hidle, getOrInit_error_of_idle hidle, fun a => ?_⟩
    obtain ⟨handle, t, ht, hnew, hget, hsame⟩ := (s.made a).exists_handOut s.instances.next
    have hok : s.getOrInit (.ok a : Except ε α) = _ := getOrInit_ok_of_idle hidle a
    rw [ht] at hok
    have hvalue : t.instances.get? s.instances.next = some a := by
      rw [hsame]
      exact (Store.get?_insert _ _ _).trans (if_pos rfl)
    refine ⟨handle, t, hok, hnew, hget, ?_, ?_⟩
    · rw [value?, hget]
      exact hvalue
    · rw [hsame]
      rfl
  · rw [get?_drop, if_pos rfl]
  · rw [get?_drop, if_neg (Ne.symm hne)]
  · have hidle := not_held_drop hlast
    refine ⟨hidle, get?_of_idle hidle, fun init => ?_⟩
    rcases init with e | a
    · rw [getOrInit_error_of_idle hidle]
    · rw [getOrInit_ok_of_idle hidle]
      rfl

/-- The first of two handles is dropped, and then the second. After that there is nothing to be
had until an instance is made again, which is another one. -/
theorem one_instance_at_a_time_twoDropped :
    let shared : List (Request String Nat) :=
      [.getOrInit (.error "busy"), .getOrInit (.ok 5), .get, .drop 0]
    let s := shared.foldl perform {}
    let t := s.drop 1
    s.handles.get? 0 = none ∧ s.handles.get? 1 = some 0 ∧ s.initCalls = 2 ∧
      s.get?.1 = some 2 ∧ (s.getOrInit (.ok 6 : Except String Nat)).1 = .ok 2 ∧
      t.get? = (none, t) ∧ (t.getOrInit (.ok 7 : Except String Nat)).2.initCalls = 3 ∧
      ∀ later : List (Request String Nat), ¬ (later.foldl perform t).Held 0 := by
  intro shared s t
  obtain ⟨halive, -, hheld, -, hdrop, -⟩ := one_instance_at_a_time shared
  obtain ⟨-, -, -, -, -, hgone⟩ := one_instance_at_a_time (shared ++ [.drop 1])
  have hs : s.handles.get? 1 = some 0 := by decide +kernel
  have honly (other : Nat) (hne : other ≠ 1) : s.handles.get? other = none := by
    rw [Option.eq_none_iff_forall_ne_some]
    intro i hi
    have hm : other ∈ [1] := (halive other).mp ⟨i, hi⟩
    exact hne (List.mem_singleton.mp hm)
  obtain ⟨-, -, -, hlast⟩ := hdrop 1
  obtain ⟨hidle, hnone, hagain⟩ := hlast honly
  obtain ⟨-, handle, t', hnew, -, -, hget, hinit⟩ := hheld 0 ⟨1, hs⟩
  have hnext : handle = 2 := congrArg Prod.fst hnew.symm
  subst hnext
  exact ⟨by decide +kernel, hs, by decide +kernel, congrArg Prod.fst hget,
    congrArg Prod.fst (hinit _), hnone, (hagain _).trans (by decide +kernel),
    hgone 0 (by decide +kernel) (hidle 0)⟩

end SharedInstance

end Accelerator
