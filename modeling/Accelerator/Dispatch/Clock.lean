/-! Clocks as sequences of readings, in nanoseconds. -/

namespace Accelerator

def nanos (ms : Nat) : Nat :=
  ms * 1000000

/-- The reading that the time of a command is counted from. -/
def startReading : Nat := 3

/-- A clock on which `timeout` milliseconds from the start of a command are over at last. -/
structure Clock (timeout : Nat) where
  reading : Nat → Nat
  /-- A reading after the timeout. -/
  horizon : Nat
  reading_mono : ∀ i j, i ≤ j → reading i ≤ reading j
  lt_reading_horizon : reading startReading + nanos timeout < reading horizon

namespace Clock

def firstReading : Nat := startReading + 1

/-- When poll number `k` ends, and when it is compared with the timeout. -/
def pollTime {timeout : Nat} (c : Clock timeout) (k : Nat) : Nat :=
  c.reading (firstReading + 2 * k)

def checkTime {timeout : Nat} (c : Clock timeout) (k : Nat) : Nat :=
  c.reading (firstReading + 2 * k + 1)

def timeIsUp {timeout : Nat} (c : Clock timeout) (k : Nat) : Bool :=
  nanos timeout < c.checkTime k - c.reading startReading

/-- A clock that goes on by `step` from reading to reading. -/
def steady (start step timeout : Nat) : Clock timeout where
  reading i := start + 1 + i * (step + 1)
  horizon := startReading + nanos timeout + 1
  reading_mono i j h := by
    have := Nat.mul_le_mul_right (step + 1) h
    omega
  lt_reading_horizon := by
    have : nanos timeout + 1 ≤ (nanos timeout + 1) * (step + 1) :=
      Nat.le_mul_of_pos_right _ (Nat.succ_pos step)
    rw [Nat.add_assoc startReading, Nat.add_mul startReading]
    omega

end Clock

end Accelerator
