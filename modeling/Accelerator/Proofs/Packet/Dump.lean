import Accelerator.Proofs.Packet.Payload
import Accelerator.Proofs.Text.Pieces
import Mathlib.Data.List.Forall2

/-! The dump of a packet can be read back. Its lines hold eight words each, but for the last one,
and the words are the header and the payload, so no two packets have the same dump. -/

namespace Accelerator

def lowerHexDigits : List Char :=
  "0123456789abcdef".toList

theorem hexDigit_mem {d : Nat} (h : d < 16) : hexDigit d ∈ lowerHexDigits := by
  have hall : ∀ d : Fin 16, hexDigit d ∈ lowerHexDigits := by decide
  exact hall ⟨d, h⟩

theorem lower_of_mem_hexDigits {width n : Nat} {c : Char} (h : c ∈ hexDigits width n) :
    c ∈ lowerHexDigits := by
  induction width generalizing n with
  | zero => cases h
  | succ width ih =>
    rcases List.mem_append.mp h with h | h
    · exact ih h
    · rw [List.mem_singleton.mp h]
      exact hexDigit_mem (Nat.mod_lt n (by decide))

/-- The number is written with eight lower-case hexadecimal digits. -/
structure EightDigits (n : Nat) (cs : List Char) : Prop where
  length : cs.length = 8
  lower : ∀ c ∈ cs, c ∈ lowerHexDigits
  value : readHex? cs = some n

theorem eightDigits_hexDigits {n : Nat} (h : n < 0x100000000) : EightDigits n (hexDigits 8 n) :=
  ⟨length_hexDigits 8 n, fun _ => lower_of_mem_hexDigits, readHex?_hexDigits h⟩

theorem mapM_mapIdx {α β : Type} {f : Nat → α → β} {g : β → Option α}
    (h : ∀ i a, g (f i a) = some a) (l : List α) : (l.mapIdx f).mapM g = some l := by
  induction l generalizing f with
  | nil => rfl
  | cons a l ih =>
    rw [List.mapIdx_cons, List.mapM_cons, h, ih fun i a => h (i + 1) a]
    rfl

namespace Packet

/-- Packets that come of making, copying and editing packets. -/
def Reachable (p : Packet) : Prop :=
  ∃ calls : List PacketCall, p ∈ calls.foldl PacketCall.apply []

theorem Reachable.tidy {p : Packet} (h : p.Reachable) : p.Tidy := by
  obtain ⟨calls, hm⟩ := h
  have hnone : ∀ p ∈ ([] : List Packet), p.Tidy := fun _ hp => absurd hp List.not_mem_nil
  exact (PacketCall.calls_tidy hnone calls).1 p hm

theorem flatten_rows (words : List UInt32) : (rows words).flatten = words := by
  induction words using rows.induct with
  | case1 => rw [rows, List.flatten_nil]
  | case2 w words ih =>
    rw [rows, List.flatten_cons, ih, List.cons_append, List.take_append_drop]

theorem length_rows (words : List UInt32) : (rows words).length = (words.length + 7) / 8 := by
  induction words using rows.induct with
  | case1 => simp only [rows, List.length_nil]
  | case2 w words ih =>
    rw [rows, List.length_cons, ih, List.length_drop, List.length_cons]
    omega

/-- A row has eight words, or what is left. -/
theorem length_row {words row : List UInt32} {i : Nat} (h : (rows words)[i]? = some row) :
    8 * i < words.length ∧ row.length = min 8 (words.length - 8 * i) := by
  induction words using rows.induct generalizing i with
  | case1 => simp [rows] at h
  | case2 w words ih =>
    rw [rows] at h
    cases i with
    | zero =>
      obtain rfl := Option.some.inj h
      simp only [List.length_cons, List.length_take]
      omega
    | succ i =>
      obtain ⟨hlt, hrow⟩ := ih h
      rw [List.length_drop] at hlt hrow
      rw [hrow, List.length_cons]
      omega

theorem readWords?_flatMap (words : List UInt32) :
    readWords? (words.flatMap fun w => ' ' :: wordDigits w) = some words := by
  induction words with
  | nil => rw [List.flatMap_nil, readWords?]
  | cons w words ih =>
    have hl : (wordDigits w).length = 8 := length_hexDigits 8 w.toNat
    have hv : readHex? (wordDigits w) = some w.toNat := readHex?_hexDigits w.toNat_lt
    rw [List.flatMap_cons, List.cons_append, readWords?, List.take_left' hl, List.drop_left' hl, hv,
      ih]
    simp

theorem readLine?_dumpLine (i : Nat) (row : List UInt32) :
    readLine? (dumpLine i row) = some row := by
  rw [readLine?, dumpLine, List.drop_left' (length_hexDigits 8 _)]
  exact readWords?_flatMap row

theorem readDump?_dumpLines (p : Packet) :
    readDump? p.dumpLines = some (p.header ++ p.payload) := by
  rw [readDump?, dumpLines, mapM_mapIdx readLine?_dumpLine, Option.map_some, flatten_rows]

theorem Tidy.length_words {p : Packet} (h : p.Tidy) :
    (p.header ++ p.payload).length = 7 + p.count := by
  rw [List.length_append, h.length_payload]
  rfl

theorem Tidy.length_dumpLines {p : Packet} (h : p.Tidy) :
    p.dumpLines.length = (7 + p.count + 7) / 8 := by
  rw [dumpLines, List.length_mapIdx, length_rows, h.length_words]

theorem newline_notMem_dumpLine (i : Nat) (row : List UInt32) : '\n' ∉ dumpLine i row := by
  have hdigits {width n : Nat} : '\n' ∉ hexDigits width n := fun h =>
    absurd (lower_of_mem_hexDigits h) (by decide)
  simp only [dumpLine, wordDigits, List.mem_append, List.mem_cons, List.mem_flatMap, not_or,
    not_exists, not_and]
  exact ⟨hdigits, by decide, fun w _ => ⟨by decide, hdigits⟩⟩

theorem pieces_dump (p : Packet) : pieces '\n' p.dump.toList = p.dumpLines ++ [[]] := by
  rw [dump, String.toList_ofList]
  refine pieces_flatMap fun line hm => ?_
  obtain ⟨i, hi, rfl⟩ := List.mem_mapIdx.mp hm
  exact newline_notMem_dumpLine i _

/-- The words of a text of lines that all end in a newline. -/
def readText? (text : String) : Option (List UInt32) :=
  readDump? (pieces '\n' text.toList).dropLast

theorem readText?_dump (p : Packet) : readText? p.dump = some (p.header ++ p.payload) := by
  rw [readText?, pieces_dump, List.dropLast_concat, readDump?_dumpLines]

/-- The line begins with the offset of its words in bytes, and has a blank before each word. -/
structure ShowsRow (i : Nat) (row : List UInt32) (line : List Char) : Prop where
  offset : EightDigits (32 * i) (line.take 8)
  words : ∃ digits : List (List Char), line.drop 8 = ':' :: digits.flatMap (' ' :: ·) ∧
    List.Forall₂ (fun w => EightDigits w.toNat) row digits

theorem showsRow_dumpLine {i : Nat} (h : 32 * i < 0x100000000) (row : List UInt32) :
    ShowsRow i row (dumpLine i row) := by
  have hl : (hexDigits 8 (i * 32)).length = 8 := length_hexDigits 8 _
  refine ⟨?_, row.map wordDigits, ?_, ?_⟩
  · rw [dumpLine, List.take_left' hl, Nat.mul_comm i]
    exact eightDigits_hexDigits h
  · rw [dumpLine, List.drop_left' hl, List.flatMap_map]
  · rw [List.forall₂_map_right_iff]
    exact List.forall₂_same.mpr fun w _ => eightDigits_hexDigits w.toNat_lt

theorem ofNat_inj {m n : Nat} (hm : m < 0x100000000) (hn : n < 0x100000000)
    (h : UInt32.ofNat m = UInt32.ofNat n) : m = n := by
  have hv := congrArg UInt32.toNat h
  rwa [UInt32.toNat_ofNat_of_lt' hm, UInt32.toNat_ofNat_of_lt' hn] at hv

theorem code_lt (s : CommandState) : s.code < 0x100000000 := by
  cases s <;> decide

theorem header_inj {p p' : Packet} (hc : p.count ≤ capacity) (hc' : p'.count ≤ capacity)
    (h : p.header = p'.header) : p.SameHeader p' ∧ p.count = p'.count := by
  have hcap : capacity < 0x100000000 := by decide
  obtain ⟨state, opcode, kind, statistics, unitMask, extraMasks, count, block⟩ := p
  obtain ⟨state', opcode', kind', statistics', unitMask', extraMasks', count', block'⟩ := p'
  simp only [header, List.cons.injEq, and_true] at h hc hc'
  obtain ⟨hstate, hopcode, hkind, hstat, rfl, hextra, hcount⟩ := h
  obtain rfl : state = state' := by
    have hcode := ofNat_inj (code_lt _) (code_lt _) hstate
    have hs := CommandState.ofCode?_eq_some_iff.mpr hcode
    rw [CommandState.ofCode?_eq_some_iff.mpr rfl] at hs
    exact (Option.some.inj hs).symm
  obtain rfl := UInt8.toUInt32_inj.mp hopcode
  obtain rfl := UInt8.toUInt32_inj.mp hextra
  obtain rfl : kind = kind' := by
    cases kind <;> cases kind' <;> first | rfl | cases hkind
  obtain rfl : statistics = statistics' := by
    cases statistics <;> cases statistics' <;> first | rfl | cases hstat
  obtain rfl :=
    ofNat_inj (Nat.lt_of_le_of_lt hc hcap) (Nat.lt_of_le_of_lt hc' hcap) hcount
  exact ⟨rfl, rfl⟩

/-- A tidy packet is its header and its payload. -/
theorem Tidy.ext {p p' : Packet} (h : p.Tidy) (h' : p'.Tidy) (hs : p.SameHeader p')
    (hp : p.payload = p'.payload) : p = p' := by
  have hcount : p.count = p'.count := by
    rw [← h.length_payload, hp, h'.length_payload]
  have hblock : p.block = p'.block := by
    refine Vector.ext fun i hi => ?_
    by_cases hlt : i < p.count
    · have hget := congrArg (·[i]?) hp
      simpa [payload, hlt, ← hcount, hi] using hget
    · rw [h.zero i hi (Nat.le_of_not_lt hlt), h'.zero i hi (hcount ▸ Nat.le_of_not_lt hlt)]
  rw [← hs, hcount, hblock]

theorem Reachable.eq_of_dump_eq {p p' : Packet} (h : p.Reachable) (h' : p'.Reachable)
    (hd : p.dump = p'.dump) : p = p' := by
  have hread := readText?_dump p
  rw [hd, readText?_dump p'] at hread
  have hlen : p.header.length = p'.header.length := rfl
  obtain ⟨hheader, hpayload⟩ := List.append_inj (Option.some.inj hread).symm hlen
  exact h.tidy.ext h'.tidy (header_inj h.tidy.count_le h'.tidy.count_le hheader).1 hpayload

/-- The lines of a dump, each of which ends in a newline, show the words of the header and of the
payload in rows of eight, the last row having what is left. They are read back from the text, so
that two packets have the same dump only if they are the same. -/
theorem dump_read_back :
    (∀ p : Packet, p.Reachable → ∃ (lines : List (List Char)) (words : List (List UInt32)),
      p.dump.toList = lines.flatMap (· ++ ['\n']) ∧ (∀ line ∈ lines, '\n' ∉ line) ∧
      lines.length = (7 + p.count + 7) / 8 ∧ words.length = lines.length ∧
      (∀ i line row, lines[i]? = some line → words[i]? = some row → ShowsRow i row line ∧
        if i + 1 < lines.length then row.length = 8 else 1 ≤ row.length ∧ row.length ≤ 8) ∧
      words.flatten = [UInt32.ofNat p.state.code, p.opcode.toUInt32,
        if p.kind = .softKernel then 1 else 0, if p.statistics then 1 else 0,
        p.unitMask, p.extraMasks.toUInt32, UInt32.ofNat p.count] ++ p.payload ∧
      readText? p.dump = some words.flatten) ∧
    ∀ p p' : Packet, p.Reachable → p'.Reachable → p.dump = p'.dump → p = p' := by
  refine ⟨fun p hp => ⟨p.dumpLines, rows (p.header ++ p.payload), ?_, fun line hm => ?_, ?_,
    (List.length_mapIdx).symm, fun i line row hline hrow => ?_, flatten_rows _, ?_⟩,
    fun p p' h h' => h.eq_of_dump_eq h'⟩
  · rw [dump, String.toList_ofList]
  · obtain ⟨i, hi, rfl⟩ := List.mem_mapIdx.mp hm
    exact newline_notMem_dumpLine i _
  · exact hp.tidy.length_dumpLines
  · obtain ⟨hlt, hlen⟩ := length_row hrow
    rw [hp.tidy.length_words] at hlt hlen
    have hcap : p.count ≤ 1020 := hp.tidy.count_le
    obtain rfl : dumpLine i row = line := by
      rw [dumpLines, List.getElem?_mapIdx, hrow] at hline
      exact Option.some.inj hline
    refine ⟨showsRow_dumpLine (by omega) row, ?_⟩
    rw [hp.tidy.length_dumpLines]
    split <;> omega
  · rw [flatten_rows, readText?_dump]

/-- A packet for the first unit, whose payload does not fit on the first line, and a copy that has
been to the second unit and back. -/
def copiedCalls : List PacketCall :=
  [.new, .edit 0 (.unitMask 1), .edit 0 (.push [0xdeadbeef, 2]), .clone 0, .edit 1 (.unitMask 2),
    .clone 1, .edit 2 (.unitMask 1)]

def copied (i : Nat) : Packet :=
  (copiedCalls.foldl PacketCall.apply []).getD i empty

theorem copied_reachable {i : Nat} (h : i < 3) : (copied i).Reachable := by
  refine ⟨copiedCalls, ?_⟩
  have hl : i < (copiedCalls.foldl PacketCall.apply []).length := h
  rw [copied, List.getD_eq_getElem?_getD, List.getElem?_eq_getElem hl]
  exact List.getElem_mem hl

theorem copied_read_back :
    (copied 0).dump =
      "00000000: 00000001 00000000 00000000 00000000 00000001 00000000 00000002 deadbeef\n" ++
      "00000020: 00000002\n" ∧
    readText? (copied 0).dump = some [1, 0, 0, 0, 1, 0, 2, 0xdeadbeef, 2] ∧
    (copied 0).dump ≠ (copied 1).dump ∧ copied 0 = copied 2 := by
  have h (i : Nat) (hi : i < 3) := copied_reachable hi
  have hwords : (copied 0).payload = [0xdeadbeef, 2] := by decide +kernel
  refine ⟨by decide +kernel, ?_, fun hd => ?_, ?_⟩
  · obtain ⟨-, words, -, -, -, -, -, hwords', hread⟩ := dump_read_back.1 _ (h 0 (by decide))
    rw [hread, hwords', hwords]
    rfl
  · have heq := dump_read_back.2 _ _ (h 0 (by decide)) (h 1 (by decide)) hd
    exact absurd (congrArg Packet.unitMask heq) (by decide +kernel)
  · exact dump_read_back.2 _ _ (h 0 (by decide)) (h 2 (by decide)) (by decide +kernel)

end Packet

end Accelerator
