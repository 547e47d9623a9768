import Accelerator.Device.Host
import Accelerator.Files

/-! The place where the library works: a host, its files, the lock files held on it and the
events reported so far. An action changes the site also when it stops without a result. -/

namespace Accelerator

structure Site where
  host : Host
  files : Files := {}
  /-- Lock files that somebody holds. -/
  held : List Location := []
  /-- Nanoseconds since the clock was first read. -/
  now : Nat := 0
  /-- Newest first. -/
  log : List Event := []

def Site.emit (s : Site) (e : Event) : Site :=
  { s with log := e :: s.log }

def Site.emitAll (s : Site) (es : List Event) : Site :=
  es.foldl emit s

def Site.release (s : Site) (files : List Location) : Site :=
  { s with held := files.foldl List.erase s.held }

abbrev Action (ε α : Type) := ExceptT (Stop ε) (StateM Site) α

namespace Action

variable {ε α : Type}

def emit (e : Event) : Action ε Unit :=
  modify fun s => s.emit e

def fail (e : ε) : Action ε α :=
  throw (.error e)

def fault (f : Fault) : Action ε α :=
  throw (.fault f)

def ofExcept : Except ε α → Action ε α
  | .ok a => pure a
  | .error e => fail e

/-- The result, with an event before a failure. -/
def reporting (report : ε → Event) : Except ε α → Action ε α
  | .ok a => pure a
  | .error e => do
    emit (report e)
    fail e

def onHost (f : Host → Except ε (α × Host)) : Action ε α := do
  match f (← get).host with
  | .ok (a, host) =>
    modify fun s => { s with host }
    return a
  | .error e => fail e

def host : Action ε Host :=
  return (← get).host

/-- Takes the files back where `x` stops without a result. -/
def releasing (files : List Location) (x : Action ε α) : Action ε α :=
  ExceptT.mk do
    match ← x.run with
    | .ok a => return .ok a
    | .error stop =>
      modify fun s => s.release files
      return .error stop

end Action

end Accelerator
