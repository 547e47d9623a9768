import Accelerator.Packet.Dump

/-! Scripts of packet operations. -/

namespace Accelerator

inductive PacketEdit where
  | state (s : CommandState)
  | opcode (n : UInt8)
  | kind (k : PacketKind)
  | statistics (on : Bool)
  | unitMask (n : UInt32)
  | extraMasks (n : UInt8)
  | reset
  | push (words : List UInt32)
  | set (words : List UInt32)
  | tryPush (words : List UInt32)
  | trySet (words : List UInt32)
  | dump
deriving DecidableEq

inductive EditResult where
  | done
  | dump (text : String)
  | refused (cause : DeviceError)
  | fault (cause : Fault)
deriving DecidableEq

namespace PacketEdit

/-- Pushes the words in order, up to the first one that finds no room. -/
def pushAll {ε : Type} (push : UInt32 → Packet → Except ε Packet) :
    List UInt32 → Packet → Packet × Option ε
  | [], p => (p, none)
  | w :: ws, p =>
    match push w p with
    | .ok p' => pushAll push ws p'
    | .error e => (p, some e)

def apply : PacketEdit → Packet → Packet × EditResult
  | state s, p => ({ p with state := s }, .done)
  | opcode n, p => ({ p with opcode := n }, .done)
  | kind k, p => ({ p with kind := k }, .done)
  | statistics on, p => ({ p with statistics := on }, .done)
  | unitMask n, p => ({ p with unitMask := n }, .done)
  | extraMasks n, p => ({ p with extraMasks := n }, .done)
  | reset, p => (p.reset, .done)
  | push words, p =>
    match pushAll Packet.push words p with
    | (p', none) => (p', .done)
    | (p', some f) => (p', .fault f)
  | set words, p =>
    match p.set words with
    | .ok p' => (p', .done)
    | .error f => (p, .fault f)
  | tryPush words, p =>
    match pushAll Packet.tryPush words p with
    | (p', none) => (p', .done)
    | (p', some e) => (p', .refused e)
  | trySet words, p =>
    match p.trySet words with
    | .ok p' => (p', .done)
    | .error e => (p, .refused e)
  | dump, p => (p, .dump p.dump)

def trace : List PacketEdit → Packet → List (EditResult × Packet)
  | [], _ => []
  | e :: es, p =>
    let r := e.apply p
    (r.2, r.1) :: trace es r.1

/-- The results up to the first fault, the packet then, and that fault. -/
def applyAll : List PacketEdit → Packet → List EditResult × Packet × Option Fault
  | [], p => ([], p, none)
  | e :: es, p =>
    match e.apply p with
    | (p', .fault f) => ([], p', some f)
    | (p', r) =>
      let rest := applyAll es p'
      (r :: rest.1, rest.2)

end PacketEdit

end Accelerator
