import Accelerator.Store

/-! An instance that is made on demand and lives as long as somebody holds it. The place
that remembers it does not count as a holder. -/

namespace Accelerator

/-- Remembers an instance without keeping it alive. -/
structure WeakSlot where
  target : Option Nat := none
deriving DecidableEq

def WeakSlot.upgrade? (slot : WeakSlot) (alive : Nat → Bool) : Option Nat :=
  slot.target.filter alive

structure SharedInstance (α : Type) where
  slot : WeakSlot := {}
  instances : Store α := {}
  /-- The instance that each live handle refers to. -/
  handles : Store Nat := {}
  initCalls : Nat := 0

namespace SharedInstance

variable {α ε : Type}

def alive (s : SharedInstance α) (instanceId : Nat) : Bool :=
  s.handles.values.contains instanceId

def live? (s : SharedInstance α) : Option Nat :=
  s.slot.upgrade? s.alive

def handOut (s : SharedInstance α) (instanceId : Nat) : Nat × SharedInstance α :=
  let r := s.handles.insert instanceId
  (r.1, { s with handles := r.2 })

/-- A handle to the live instance, or else to the one that `init` gives. -/
def getOrInit (s : SharedInstance α) (init : Except ε α) :
    Except ε Nat × SharedInstance α :=
  match s.live? with
  | some i =>
    let r := s.handOut i
    (.ok r.1, r.2)
  | none =>
    let s := { s with initCalls := s.initCalls + 1 }
    match init with
    | .error e => (.error e, s)
    | .ok a =>
      let made := s.instances.insert a
      let r := { s with instances := made.2, slot := ⟨some made.1⟩ }.handOut made.1
      (.ok r.1, r.2)

def get? (s : SharedInstance α) : Option Nat × SharedInstance α :=
  match s.live? with
  | some i =>
    let r := s.handOut i
    (some r.1, r.2)
  | none => (none, s)

def drop (s : SharedInstance α) (handle : Nat) : SharedInstance α :=
  { s with handles := s.handles.erase handle }

def value? (s : SharedInstance α) (handle : Nat) : Option α :=
  (s.handles.get? handle).bind s.instances.get?

def same (s : SharedInstance α) (h h' : Nat) : Bool :=
  match s.handles.get? h, s.handles.get? h' with
  | some i, some j => i == j
  | _, _ => false

end SharedInstance

end Accelerator
