import Accelerator.Dispatch.Basic

/-! Controllers: front ends for one kind of kernel, chosen by the start of its name. -/

namespace Accelerator

structure Controller where
  kernelName : String
  dispatcher : Dispatcher
deriving DecidableEq

/-- Factories by the kernel names that they are for, in the order in which these were first
registered. -/
abbrev FactoryTable (φ : Type) := Table String φ

abbrev ControllerFactory := Dispatcher → Except DispatchError Controller

abbrev ControllerFactories := FactoryTable ControllerFactory

/-- Names that the units of controllers are looked for by, in turn. -/
def controllerUnitNames : List String := ["DPU", "dpu"]

namespace FactoryTable

variable {φ : Type}

def prefixes (f : FactoryTable φ) : List String :=
  f.keys

/-- Another factory for the same start of a name takes the place of the one before. -/
def register (f : FactoryTable φ) (start : String) (factory : φ) : FactoryTable φ :=
  f.put start factory

def find? (f : FactoryTable φ) (kernelName : String) : Option (String × φ) :=
  List.find? (fun e => e.1.toList.isPrefixOf kernelName.toList) f

/-- A dispatcher over the first of the names that has any units. -/
def findDispatcher (r : Registry) (id : Nat) :
    List String → Action DispatchError (Option Dispatcher)
  | [] => return none
  | name :: names => do
    let d ← Dispatcher.create r id name
    if 0 < d.size then return some d else findDispatcher r id names

/-- The kernel name that decides: the one that is set, or that of the first unit. -/
def kernelNameFor (settings : Settings) (d : Dispatcher) : Action DispatchError String := do
  match settings.kernelOverride with
  | some name =>
    Action.emit (.kernelOverridden name)
    return name
  | none => Action.ofExcept (d.kernelName 0)

/-- Makes a controller by the factory that is for the kernel. What a factory is plays no part in
which one is called. -/
def createBy (call : φ → Dispatcher → Action DispatchError Controller) (f : FactoryTable φ)
    (r : Registry) (id : Nat) : Action DispatchError Controller := do
  if r.settings.controllersDisabled then
    Action.emit .controllersDisabled
    Action.fail .controllersDisabled
  match ← findDispatcher r id controllerUnitNames with
  | none =>
    Action.emit (.noControllerUnits controllerUnitNames)
    Action.fail (.noComputeUnits ("|".intercalate controllerUnitNames))
  | some d =>
    let kernelName ← kernelNameFor r.settings d
    match f.find? kernelName with
    | none =>
      Action.emit (.noController kernelName f.prefixes)
      Action.fail (.unknownKernel kernelName)
    | some (start, factory) =>
      if 0 < r.settings.verbosity.controllers then
        Action.emit (.controllerChosen kernelName start d.size)
      call factory d

end FactoryTable

namespace ControllerFactories

def create (f : ControllerFactories) (r : Registry) (id : Nat) :
    Action DispatchError Controller :=
  f.createBy (fun factory d => Action.ofExcept (factory d)) r id

def text (f : ControllerFactories) : String :=
  s!"ControllerRegistry \x7b prefixes: {quotedList f.prefixes} \x7d"

end ControllerFactories

end Accelerator
