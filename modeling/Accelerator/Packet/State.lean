/-! States of a hardware command, ordered by their code. -/

namespace Accelerator

inductive CommandState where
  | new
  | queued
  | running
  | completed
  | error
  | abort
  | submitted
  | timeout
  | noResponse
  | softKernelError
  | softKernelCrashed
  | max
deriving DecidableEq, Repr

namespace CommandState

def all : List CommandState :=
  [new, queued, running, completed, error, abort, submitted, timeout, noResponse,
    softKernelError, softKernelCrashed, max]

def code : CommandState → Nat
  | new => 1
  | queued => 2
  | running => 3
  | completed => 4
  | error => 5
  | abort => 6
  | submitted => 7
  | timeout => 8
  | noResponse => 9
  | softKernelError => 10
  | softKernelCrashed => 11
  | max => 12

def ofCode? (n : Nat) : Option CommandState :=
  all.find? fun s => s.code = n

def name : CommandState → String
  | new => "New"
  | queued => "Queued"
  | running => "Running"
  | completed => "Completed"
  | error => "Error"
  | abort => "Abort"
  | submitted => "Submitted"
  | timeout => "Timeout"
  | noResponse => "NoResponse"
  | softKernelError => "SkError"
  | softKernelCrashed => "SkCrashed"
  | max => "Max"

def ofName? (s : String) : Option CommandState :=
  all.find? fun t => t.name = s

/-- The command will not change any more. A timeout is reported while it may still. -/
def isDone (s : CommandState) : Bool :=
  completed.code ≤ s.code && s ≠ timeout

theorem ofCode?_eq_some_iff {n : Nat} {s : CommandState} : ofCode? n = some s ↔ s.code = n := by
  constructor
  · intro h
    simpa using List.find?_some h
  · rintro rfl
    cases s <;> rfl

end CommandState

end Accelerator
