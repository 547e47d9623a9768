import Accelerator.Latency
import Accelerator.Packet.Basic

/-! One slot of a compute unit for running commands, with a scripted course. -/

namespace Accelerator

inductive Behavior where
  /-- Completed at the poll of this number. -/
  | completeAfter (polls : Nat)
  /-- Never done, and each poll takes its whole interval. -/
  | hang
  /-- In this state at the first poll. -/
  | finish (state : CommandState)
deriving DecidableEq, Repr

structure Run where
  /-- Full name of the kernel that runs the commands. -/
  kernel : String
  packet : Packet := .empty
  state : CommandState := .new
  /-- The behaviour in force at the last start. -/
  behavior : Behavior := .completeAfter 1
  polls : Nat := 0
  stamps : Stamps := {}
deriving DecidableEq

namespace Run

def finish (r : Run) (state : CommandState) (now : Nat) : Run :=
  { r with
    state
    packet := { r.packet with state }
    stamps := { r.stamps with completed := now } }

/-- The run after its packet was accepted, with the times of acceptance and of start. -/
def started (r : Run) (behavior : Behavior) (accepted running : Nat) : Run :=
  { r with
    state := .running
    packet := { r.packet with state := .running }
    behavior
    polls := 0
    stamps := { new := accepted, running } }

/-- One poll that ends at time `now`. Its answer is the state of the run after it. -/
def wait (r : Run) (now : Nat) : Run :=
  if r.state = .running then
    let r := { r with polls := r.polls + 1 }
    match r.behavior with
    | .completeAfter n => if n ≤ r.polls then r.finish .completed now else r
    | .hang => r
    | .finish s => r.finish s now
  else r

end Run

end Accelerator
