import Accelerator.Packet.Edit
import Mathlib.Data.List.Basic

/-! The payload of a packet is a list with a bound on its length. The words of the block behind it
are zero, so none of an earlier payload can come back. -/

namespace Accelerator

namespace Packet

variable {p p' : Packet} {word : UInt32} {words : List UInt32}

/-- The words in use have room in the block, and the others are zero. -/
structure Tidy (p : Packet) : Prop where
  count_le : p.count ≤ capacity
  zero : ∀ i (hi : i < capacity), p.count ≤ i → p.block[i] = 0

theorem Tidy.length_payload (h : p.Tidy) : p.payload.length = p.count := by
  have hc := h.count_le
  rw [payload, List.length_take, Vector.length_toList]
  omega

theorem tidy_empty : empty.Tidy := by
  refine ⟨Nat.zero_le _, fun i hi _ => ?_⟩
  simp [empty]

/-- Clearing the words in use clears the whole block. -/
theorem Tidy.clearedBlock_eq (h : p.Tidy) {i : Nat} (hi : i < capacity) :
    p.clearedBlock[i] = 0 := by
  simp only [clearedBlock, Vector.getElem_mapIdx]
  split
  · rfl
  · next hc => exact h.zero i hi (Nat.le_of_not_lt hc)

theorem Tidy.reset (h : p.Tidy) : p.reset.Tidy :=
  ⟨Nat.zero_le _, fun _ hi _ => h.clearedBlock_eq hi⟩

/-- The packets differ at most in their payloads. -/
def SameHeader (p p' : Packet) : Prop :=
  { p' with count := p.count, block := p.block } = p

theorem tryPush_ok (h : p.Tidy) (hw : p.count < capacity) (word : UInt32) :
    ∃ p', p.tryPush word = .ok p' ∧ p'.Tidy ∧ p.SameHeader p' ∧ p'.payload = p.payload ++ [word] := by
  have hp : p.tryPush word = .ok { p with count := p.count + 1, block := p.block.set p.count word } :=
    dif_pos hw
  refine ⟨_, hp, ⟨hw, fun i hi hle => ?_⟩, rfl, payload_of_tryPush hp⟩
  have hne : p.count ≠ i := by
    intro he
    subst he
    exact Nat.not_succ_le_self _ hle
  rw [Vector.getElem_set_ne _ _ hne]
  exact h.zero i hi (Nat.le_of_succ_le hle)

theorem tryPush_error (hw : ¬ p.count < capacity) (word : UInt32) :
    p.tryPush word = .error (.payloadOverflow (p.count + 1) capacity) :=
  dif_neg hw

theorem trySet_ok (h : p.Tidy) (hw : words.length ≤ capacity) :
    ∃ p', p.trySet words = .ok p' ∧ p'.Tidy ∧ p.SameHeader p' ∧ p'.payload = words := by
  have hp : p.trySet words = .ok { p with
      count := words.length
      block := p.clearedBlock.mapIdx fun i w => words.getD i w } := if_pos hw
  refine ⟨_, hp, ⟨hw, fun i hi hle => ?_⟩, rfl, payload_of_trySet hp⟩
  rw [Vector.getElem_mapIdx, List.getD_eq_getElem?_getD, List.getElem?_eq_none hle]
  exact h.clearedBlock_eq hi

theorem trySet_error (p : Packet) (hw : ¬ words.length ≤ capacity) :
    p.trySet words = .error (.payloadOverflow words.length capacity) :=
  if_neg hw

end Packet

/-- What comes of a refusal that nobody is there to take. -/
def EditResult.unhandled : EditResult → EditResult
  | refused cause => fault (.refused cause)
  | result => result

namespace PacketEdit

open Packet

variable {p : Packet}

/-- What an edit makes of the words of a packet. Of words that are pushed, those that find no room
are left out. -/
def onWords : PacketEdit → List UInt32 → List UInt32
  | reset, _ => []
  | push words, l => (l ++ words).take capacity
  | tryPush words, l => (l ++ words).take capacity
  | set words, l => if words.length ≤ capacity then words else l
  | trySet words, l => if words.length ≤ capacity then words else l
  | _, l => l

theorem pushAll_tryPush (h : p.Tidy) (words : List UInt32) :
    ∃ p', pushAll Packet.tryPush words p =
        (p', if p.count + words.length ≤ capacity then none
          else some (.payloadOverflow (capacity + 1) capacity)) ∧
      p'.Tidy ∧ p'.payload = (p.payload ++ words).take capacity := by
  induction words generalizing p with
  | nil =>
    have hl : p.payload.length ≤ capacity := h.length_payload ▸ h.count_le
    refine ⟨p, ?_, h, ?_⟩
    · rw [pushAll, List.length_nil, Nat.add_zero, if_pos h.count_le]
    · rw [List.append_nil, List.take_of_length_le hl]
  | cons w words ih =>
    by_cases hw : p.count < capacity
    · obtain ⟨p₁, hp, h₁, -, hwords⟩ := tryPush_ok h hw w
      have hcount : p₁.count = p.count + 1 := by
        rw [← h₁.length_payload, hwords, List.length_append, h.length_payload]
        rfl
      obtain ⟨p', hall, h', hpayload⟩ := ih h₁
      refine ⟨p', ?_, h', ?_⟩
      · rw [pushAll, hp]
        simp only [hall, hcount, List.length_cons]
        congr 2
        rw [Nat.add_assoc, Nat.add_comm 1]
      · rw [hpayload, hwords, List.append_assoc, List.singleton_append]
    · have hfull : p.count = capacity := Nat.le_antisymm h.count_le (Nat.le_of_not_lt hw)
      have hlength : p.payload.length = capacity := h.length_payload.trans hfull
      refine ⟨p, ?_, h, ?_⟩
      · have hmore : ¬ capacity + (words.length + 1) ≤ capacity := by omega
        rw [pushAll, tryPush_error hw w]
        simp only [hfull, List.length_cons, if_neg hmore]
      · rw [List.take_append_of_le_length (Nat.le_of_eq hlength.symm),
          List.take_of_length_le (Nat.le_of_eq hlength)]

/-- Pushing without a way out goes as far as pushing with one, and then faults. -/
theorem pushAll_push (p : Packet) (words : List UInt32) :
    pushAll Packet.push words p = ((pushAll Packet.tryPush words p).1,
      (pushAll Packet.tryPush words p).2.map Fault.refused) := by
  induction words generalizing p with
  | nil => rfl
  | cons w words ih =>
    simp only [pushAll, Packet.push]
    rcases p.tryPush w with e | p'
    · rfl
    · exact ih p'

theorem apply_push (p : Packet) (words : List UInt32) :
    (push words).apply p =
      (((tryPush words).apply p).1, ((tryPush words).apply p).2.unhandled) := by
  simp only [apply, pushAll_push]
  rcases pushAll Packet.tryPush words p with ⟨p', _ | e⟩ <;> rfl

theorem apply_set (p : Packet) (words : List UInt32) :
    (set words).apply p = (((trySet words).apply p).1, ((trySet words).apply p).2.unhandled) := by
  simp only [apply, Packet.set]
  rcases p.trySet words with e | p' <;> rfl

theorem apply_tryPush (h : p.Tidy) (word : UInt32) :
    if p.count + 1 ≤ capacity then
      ∃ p', (tryPush [word]).apply p = (p', .done) ∧ p.SameHeader p' ∧
        p'.payload = p.payload ++ [word]
    else (tryPush [word]).apply p = (p, .refused (.payloadOverflow (p.count + 1) capacity)) := by
  split
  · next hw =>
    obtain ⟨p', hp, -, hs, hwords⟩ := tryPush_ok h hw word
    refine ⟨p', ?_, hs, hwords⟩
    simp only [apply, pushAll, hp]
  · next hw => simp only [apply, pushAll, tryPush_error hw word]

theorem apply_trySet (h : p.Tidy) (words : List UInt32) :
    if words.length ≤ capacity then
      ∃ p', (trySet words).apply p = (p', .done) ∧ p.SameHeader p' ∧ p'.payload = words
    else (trySet words).apply p = (p, .refused (.payloadOverflow words.length capacity)) := by
  split
  · next hw =>
    obtain ⟨p', hp, -, hs, hwords⟩ := trySet_ok h hw
    refine ⟨p', ?_, hs, hwords⟩
    simp only [apply, hp]
  · next hw => simp only [apply, trySet_error p hw]

/-- An edit does to the words of a packet what it does to a list. -/
theorem apply_tidy (h : p.Tidy) (e : PacketEdit) :
    (e.apply p).1.Tidy ∧ (e.apply p).1.payload = e.onWords p.payload := by
  have hpush (words : List UInt32) : ((tryPush words).apply p).1.Tidy ∧
      ((tryPush words).apply p).1.payload = (p.payload ++ words).take capacity := by
    obtain ⟨p', hall, h', hwords⟩ := pushAll_tryPush h words
    have he : ((tryPush words).apply p).1 = p' := by
      simp only [apply, hall]
      by_cases hw : p.count + words.length ≤ capacity
      · rw [if_pos hw]
      · rw [if_neg hw]
    rw [he]
    exact ⟨h', hwords⟩
  have hset (words : List UInt32) : ((trySet words).apply p).1.Tidy ∧
      ((trySet words).apply p).1.payload = if words.length ≤ capacity then words else p.payload := by
    by_cases hw : words.length ≤ capacity
    · obtain ⟨p', hp, h', -, hwords⟩ := trySet_ok h hw
      simp only [apply, hp, if_pos hw]
      exact ⟨h', hwords⟩
    · simp only [apply, trySet_error p hw, if_neg hw]
      exact ⟨h, trivial⟩
  cases e with
  | reset => exact ⟨h.reset, payload_reset p⟩
  | push words =>
    rw [apply_push]
    exact hpush words
  | tryPush words => exact hpush words
  | set words =>
    rw [apply_set]
    exact hset words
  | trySet words => exact hset words
  | _ => exact ⟨⟨h.count_le, h.zero⟩, rfl⟩

end PacketEdit

/-- Packets that are made, copied and edited. -/
inductive PacketCall where
  | new
  | clone (source : Nat)
  | edit (target : Nat) (e : PacketEdit)

namespace PacketCall

def apply (packets : List Packet) : PacketCall → List Packet
  | new => packets ++ [.empty]
  | clone source => packets ++ packets[source]?.toList
  | edit target e => packets.modify target fun p => (e.apply p).1

def onLists (lists : List (List UInt32)) : PacketCall → List (List UInt32)
  | new => lists ++ [[]]
  | clone source => lists ++ lists[source]?.toList
  | edit target e => lists.modify target e.onWords

theorem apply_tidy {packets : List Packet} (h : ∀ p ∈ packets, p.Tidy) (c : PacketCall) :
    (∀ p ∈ apply packets c, p.Tidy) ∧
      (apply packets c).map Packet.payload = onLists (packets.map Packet.payload) c := by
  cases c with
  | new =>
    refine ⟨fun p hp => ?_, ?_⟩
    · rcases List.mem_append.mp hp with hp | hp
      · exact h p hp
      · rw [List.mem_singleton.mp hp]
        exact Packet.tidy_empty
    · simp [apply, onLists]
  | clone source =>
    refine ⟨fun p hp => ?_, ?_⟩
    · rcases List.mem_append.mp hp with hp | hp
      · exact h p hp
      · exact h p (List.mem_of_getElem? (Option.mem_toList.mp hp))
    · rw [apply, onLists, List.map_append, List.getElem?_map]
      cases packets[source]? <;> rfl
  | edit target e =>
    refine ⟨fun p hp => ?_, ?_⟩
    · obtain ⟨i, hi⟩ := List.getElem?_of_mem hp
      rw [apply, List.getElem?_modify] at hi
      obtain ⟨q, hq, rfl⟩ := Option.map_eq_some_iff.mp hi
      have hq := h q (List.mem_of_getElem? hq)
      split
      · exact (PacketEdit.apply_tidy hq e).1
      · exact hq
    · refine List.ext_getElem? fun i => ?_
      rw [apply, onLists, List.getElem?_map, List.getElem?_modify, List.getElem?_modify,
        List.getElem?_map]
      rcases hq : packets[i]? with _ | q
      · rfl
      · have hq := h q (List.mem_of_getElem? hq)
        by_cases ht : target = i
        · simp only [ht, if_true, Option.map_eq_map, Option.map_some, (PacketEdit.apply_tidy hq e).2]
        · simp only [ht, if_false, Option.map_eq_map, Option.map_some]

theorem calls_tidy {packets : List Packet} (h : ∀ p ∈ packets, p.Tidy) (calls : List PacketCall) :
    (∀ p ∈ calls.foldl apply packets, p.Tidy) ∧
      (calls.foldl apply packets).map Packet.payload =
        calls.foldl onLists (packets.map Packet.payload) := by
  induction calls generalizing packets with
  | nil => exact ⟨h, rfl⟩
  | cons c calls ih =>
    obtain ⟨htidy, hlists⟩ := apply_tidy h c
    rw [List.foldl_cons, List.foldl_cons, ← hlists]
    exact ih htidy

/-- Whatever is done to packets, their payloads are what the same does to lists of at most 1020
words, and the words of a block behind its payload are zero. A word is taken just when there is room
for it, and a whole payload when it fits; one that is refused leaves the packet as it was, and faults
where no refusal is expected. -/
theorem packets_follow_lists (calls : List PacketCall) :
    let packets := calls.foldl apply []
    packets.map Packet.payload = calls.foldl onLists [] ∧
    ∀ p ∈ packets, p.payload.length = p.count ∧ p.count ≤ 1020 ∧
      (∀ i (hi : i < Packet.capacity), p.count ≤ i → p.block[i] = 0) ∧
      (∀ word, if p.count + 1 ≤ 1020 then
          ∃ p', (PacketEdit.tryPush [word]).apply p = (p', .done) ∧ p.SameHeader p' ∧
            p'.payload = p.payload ++ [word]
        else (PacketEdit.tryPush [word]).apply p =
          (p, .refused (.payloadOverflow (p.count + 1) 1020))) ∧
      (∀ words : List UInt32, if words.length ≤ 1020 then
          ∃ p', (PacketEdit.trySet words).apply p = (p', .done) ∧ p.SameHeader p' ∧
            p'.payload = words
        else (PacketEdit.trySet words).apply p =
          (p, .refused (.payloadOverflow words.length 1020))) ∧
      ∀ words : List UInt32,
        (PacketEdit.push words).apply p = (((PacketEdit.tryPush words).apply p).1,
          ((PacketEdit.tryPush words).apply p).2.unhandled) ∧
        (PacketEdit.set words).apply p = (((PacketEdit.trySet words).apply p).1,
          ((PacketEdit.trySet words).apply p).2.unhandled) := by
  intro packets
  have hnone : ∀ p ∈ ([] : List Packet), p.Tidy := fun _ hp => absurd hp List.not_mem_nil
  obtain ⟨htidy, hlists⟩ := calls_tidy hnone calls
  refine ⟨hlists, fun p hp => ?_⟩
  have h := htidy p hp
  exact ⟨h.length_payload, h.count_le, h.zero, PacketEdit.apply_tryPush h,
    PacketEdit.apply_trySet h, fun words => ⟨PacketEdit.apply_push p words,
    PacketEdit.apply_set p words⟩⟩

end PacketCall

end Accelerator
