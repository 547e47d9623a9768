import Accelerator.Site.Basic

/-! Single commands on a site, started and polled by hand. -/

namespace Accelerator

namespace Site

/-- The next reading of the clock. It is never zero and never goes back. -/
def readClock (s : Site) : Nat × Site :=
  (s.now + 1, { s with now := s.now + 1 })

def start (s : Site) (r : Run) : Except DeviceError (Run × Site) :=
  let (accepted, s) := s.readClock
  let (running, s) := s.readClock
  (s.host.start r accepted running).map fun (r, host) => (r, { s with host })

/-- One poll, which takes `interval` nanoseconds where the command hangs. -/
def wait (s : Site) (r : Run) (interval : Nat) : Run × Site :=
  let asleep := r.state = .running ∧ r.behavior = .hang
  let s := if asleep then { s with now := s.now + interval } else s
  let (now, s) := s.readClock
  (r.wait now, s)

/-- The events reported so far, oldest first, and the site without them. -/
def takeEvents (s : Site) : List Event × Site :=
  (s.log.reverse, { s with log := [] })

end Site

end Accelerator
