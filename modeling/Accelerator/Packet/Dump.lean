import Accelerator.Packet.Basic

/-! The hexadecimal dump of a packet: header words, then payload, eight words a line. -/

namespace Accelerator

namespace Packet

def header (p : Packet) : List UInt32 :=
  [ UInt32.ofNat p.state.code,
    p.opcode.toUInt32,
    if p.kind = .softKernel then 1 else 0,
    if p.statistics then 1 else 0,
    p.unitMask,
    p.extraMasks.toUInt32,
    UInt32.ofNat p.count ]

/-- `words` in rows of eight, the last row holding what is left. -/
def rows : List UInt32 → List (List UInt32)
  | [] => []
  | w :: words => (w :: words.take 7) :: rows (words.drop 7)
termination_by words => words.length
decreasing_by
  simp only [List.length_drop, List.length_cons]
  omega

def wordDigits (w : UInt32) : List Char :=
  hexDigits 8 w.toNat

/-- Line number `i`: its byte offset, a colon, and its words with a blank before each. -/
def dumpLine (i : Nat) (row : List UInt32) : List Char :=
  hexDigits 8 (i * 32) ++ ':' :: row.flatMap fun w => ' ' :: wordDigits w

def dumpLines (p : Packet) : List (List Char) :=
  (rows (p.header ++ p.payload)).mapIdx dumpLine

def dump (p : Packet) : String :=
  String.ofList (p.dumpLines.flatMap fun line => line ++ ['\n'])

def readWords? : List Char → Option (List UInt32)
  | [] => some []
  | ' ' :: cs => do
    let n ← readHex? (cs.take 8)
    let rest ← readWords? (cs.drop 8)
    return UInt32.ofNat n :: rest
  | _ => none
termination_by cs => cs.length
decreasing_by
  simp only [List.length_drop, List.length_cons]
  omega

def readLine? (line : List Char) : Option (List UInt32) :=
  match line.drop 8 with
  | ':' :: cs => readWords? cs
  | _ => none

def readDump? (lines : List (List Char)) : Option (List UInt32) :=
  (lines.mapM readLine?).map List.flatten

end Packet

end Accelerator
