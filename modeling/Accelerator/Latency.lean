/-! How the time of one command divides into phases. Times are in nanoseconds, phases in
whole microseconds, and a time of zero stands for a state that was never reached. -/

namespace Accelerator

structure Stamps where
  new : Nat := 0
  running : Nat := 0
  completed : Nat := 0
deriving DecidableEq

/-- The times of the states that were reached do not go back. -/
def Stamps.ordered (s : Stamps) : Bool :=
  decide (([s.new, s.running, s.completed].filter (· ≠ 0)).Pairwise (· ≤ ·))

/-- Whole microseconds from one time to a later one, none when either was not reached. -/
def spanMicros (start stop : Nat) : Nat :=
  if start = 0 ∨ stop = 0 then 0 else (stop - start) / 1000

structure Latency where
  total : Nat
  toDriver : Nat
  toUnit : Nat
  complete : Nat
  done : Nat
deriving DecidableEq

namespace Latency

def ofStamps (submitted : Nat) (stamps : Stamps) (observed : Nat) : Latency where
  total := spanMicros submitted observed
  toDriver := spanMicros submitted stamps.new
  toUnit := spanMicros stamps.new stamps.running
  complete := spanMicros stamps.running stamps.completed
  done := spanMicros stamps.completed observed

def text (l : Latency) : String :=
  s!"Total: {l.total}us, ToDriver: {l.toDriver}us, ToCU: {l.toUnit}us, " ++
    s!"Complete: {l.complete}us, Done: {l.done}us"

end Latency

end Accelerator
