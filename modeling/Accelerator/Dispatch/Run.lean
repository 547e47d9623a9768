import Accelerator.Dispatch.Basic
import Accelerator.Dispatch.Clock
import Accelerator.Packet.Dump

/-! Running one command: fill the packet, submit it, and poll until the command is done or
the time is up. -/

namespace Accelerator

inductive Callback where
  | success
  | failure
deriving DecidableEq, Repr

structure RunReport where
  result : Except (Stop DispatchError) CommandState
  calls : List Callback := []
  /-- The packet that was handed over to be filled. -/
  seen : Option Packet := none
  latency : Option Latency := none

/-- Fills a packet. After a fault the packet stays as it was then. -/
abbrev Populate := Packet → Packet × Option Fault

namespace Instance

/-- The packet as it is handed over to be filled. -/
def fresh (i : Instance) : Packet :=
  i.run.packet.reset

def withPacket (i : Instance) (p : Packet) : Instance :=
  { i with run := { i.run with packet := p } }

end Instance

/-- What all polls of one command have in common. -/
structure Polling where
  settings : Settings
  clock : Clock settings.timeout
  fullName : String

namespace Polling

/-- A number of polls after which the time is up. -/
def limit (p : Polling) : Nat :=
  p.clock.horizon + 1

def report (p : Polling) (r : Run) (s : Site) : Site :=
  if 2 ≤ p.settings.verbosity.units then s.emit (.polled p.fullName r.state) else s

/-- Polls from number `k` on, at most as often as the first argument says. -/
def poll (p : Polling) : Nat → Nat → Run → Site → Nat × Run × Site
  | 0, k, r, s => (k, r, s)
  | n + 1, k, r, s =>
    let r := r.wait (p.clock.pollTime k)
    let s := p.report r s
    if r.state.isDone || p.clock.timeIsUp k then (k + 1, r, s) else poll p n (k + 1) r s

end Polling

namespace Dispatcher

def setInstance (d : Dispatcher) (index : Nat) (i : Instance) : Dispatcher :=
  { d with instances := d.instances.set index i }

def reportPacket (settings : Settings) (i : Instance) (s : Site) : Site :=
  if 2 ≤ settings.verbosity.units then
    s.emit (.packetDumped i.unit.fullName i.run.packet.count i.run.packet.dump)
  else s

def await (settings : Settings) (clock : Clock settings.timeout) (core : Nat)
    (seen : Packet) (i : Instance) (s : Site) : RunReport × Instance × Site :=
  let name := i.unit.fullName
  let polling : Polling := { settings, clock, fullName := name }
  let (k, run, s) := polling.poll polling.limit 0 i.run s
  let observed := clock.pollTime k
  let latency := some (Latency.ofStamps (clock.reading 0) run.stamps observed)
  let i := { i with run }
  let s := { s with now := observed }
  let state := run.state
  if state.isDone then
    let s := if state = .completed then s else s.emit (.endedAbnormally name core state)
    let s := if 1 ≤ settings.verbosity.units then s.emit (.commandDone name core) else s
    ({ result := .ok state, calls := [.success], seen := some seen, latency }, i, s)
  else
    let s := s.emit (.unitTimedOut name core settings.timeout state)
    ({ result := .ok state, calls := [.failure], seen := some seen, latency }, i, s)

def runOn (settings : Settings) (clock : Clock settings.timeout) (core : Nat)
    (populate : Populate) (i : Instance) (s : Site) : RunReport × Instance × Site :=
  let seen := i.fresh
  match populate seen with
  | (p, some f) => ({ result := .error (.fault f), seen := some seen }, i.withPacket p, s)
  | (p, none) =>
    let i := i.withPacket p
    let s := reportPacket settings i s
    if settings.dryRun then
      ({ result := .ok .completed, calls := [.success], seen := some seen }, i,
        s.emit (.dryRun i.unit.fullName))
    else
      match s.host.start i.run (clock.reading 1) (clock.reading 2) with
      | .error e =>
        ({ result := .error (.error (.device e)), calls := [.failure], seen := some seen }, i,
          s.emit (.startFailed i.unit.fullName core e.message))
      | .ok (run, host) =>
        await settings clock core seen { i with run } { s with host }

/-- Runs a command on the instance that `core` stands for, counting round. -/
def run (settings : Settings) (clock : Clock settings.timeout) (core : Nat)
    (populate : Populate) (d : Dispatcher) (s : Site) : RunReport × Dispatcher × Site :=
  match d.instances[core % d.size]? with
  | none => ({ result := .error (.error (.busy d.unitName)) }, d, s)
  | some i =>
    let (report, i, s) := runOn settings clock core populate i s
    (report, d.setInstance (core % d.size) i, s)

end Dispatcher

end Accelerator
