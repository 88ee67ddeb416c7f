import Offload.Machine.Pass
import Offload.Plan.Registry

/-!
Plans. A plan runs one program on a registered device and gathers options; its machine is built when
it is first needed. Whatever the options say holds for the machine as soon as there is one.
-/
namespace Offload

/-- An option as it was applied. -/
inductive PlanOption where
  | warmup
  | device (index : Nat)
  | memoryLimit (limit : String)
  | noMemoryLimit
  | profiler
  | noProfiler
  | dependencies (enabled : Bool)
  | flush (enabled : Bool)
  | traceCode
  | schedule (grids : GridSchedule)
  deriving Repr, DecidableEq

def PlanOption.text : PlanOption → String
  | warmup => "with_warmup"
  | device index => s!"with_device({index})"
  | memoryLimit limit => s!"with_memory_limit({limit})"
  | noMemoryLimit => "without_memory_limit"
  | profiler => "with_profiler"
  | noProfiler => "without_profiler"
  | dependencies enabled => s!"with_dependencies({enabled})"
  | flush enabled => s!"with_flush({enabled})"
  | traceCode => "with_trace_bytecodes"
  | schedule grids => s!"with_grid_scheduler({grids.text})"

structure Plan where
  program : Bytes
  /-- The options applied so far, in order. -/
  options : List PlanOption := []
  config : Config
  device : Nat
  warmupRequested : Bool := false
  profiler : Profiler
  schedule : GridSchedule := {}
  machine : Option Machine := none
  deriving Repr, DecidableEq

/-- A plan with the context and the devices that it works on. -/
structure PlanSession where
  context : Context
  registry : Registry
  plan : Plan

abbrev PlanOp (α : Type) := Op MachineError PlanSession α

namespace Plan

/-- A plan on the default device. -/
def create (r : Registry) (program : Bytes) (config : Config) : Plan :=
  { program, config, device := r.defaultIndex, profiler := .create config.profiler }

/-- Take over what the machine of the plan has done. The profile of the machine is that of the
plan. -/
def update (s : PlanSession) (t : Session) : PlanSession :=
  { context := t.context
    registry := { s.registry with devices := s.registry.devices.set s.plan.device t.device }
    plan := { s.plan with machine := some t.machine, profiler := t.machine.profiler } }

/-- Work of a machine on the device of the plan. -/
def onMachine {α : Type} (machine : Machine) (op : MachineOp α) : PlanOp α := fun s =>
  match s.registry.device s.plan.device with
  | .error e => ⟨.error e, s, []⟩
  | .ok device =>
    match op ⟨s.context, device, machine⟩ with
    | ⟨result, t, log⟩ => ⟨result, update s t, log⟩

/-- Work of the device of the plan. -/
def onDevice {α : Type} (op : DeviceOp α) : PlanOp α := fun s =>
  match s.registry.device s.plan.device with
  | .error e => ⟨.error e, s, []⟩
  | .ok device =>
    match op.mapError MachineError.ofDevice device with
    | ⟨result, device, log⟩ =>
      ⟨result,
        { s with
          registry := { s.registry with devices := s.registry.devices.set s.plan.device device } },
        log⟩

/-- Work of the machine of the plan, if there is one. -/
def ifMachine {α : Type} (absent : α) (op : MachineOp α) : PlanOp α := do
  let s ← Op.get
  match s.plan.machine with
  | none => pure absent
  | some machine => onMachine machine op

def modifyPlan (change : Plan → Plan) : PlanOp Unit :=
  Op.modify fun s => { s with plan := change s.plan }

def setLimit (limit : Option Nat) : PlanOp Unit :=
  Op.modify fun s => { s with context := { s.context with memory := s.context.memory.setLimit limit } }

/-- Note an option and hand the settings of the plan to its machine. -/
def apply (option : PlanOption) : PlanOp Unit := do
  let s ← Op.get
  Op.emit ⟨.debug, some "plan_option", [("context", s.context.name), ("option", option.text)]⟩
  modifyPlan fun p => { p with options := p.options ++ [option] }
  ifMachine () do
    Machine.setConfig s.plan.config
    Machine.setProfiler s.plan.profiler
    Machine.setSchedule s.plan.schedule

/-- Warm up before the first execution. -/
def withWarmup : PlanOp Unit := do
  modifyPlan fun p => { p with warmupRequested := true }
  apply .warmup

/-- Move to another device. Buffers on the old one are given back first, and the machine is built
again when it is needed. -/
def withDevice (index : Nat) : PlanOp Unit := do
  let s ← Op.get
  let _ ← Op.ofExcept (s.registry.device index)
  if index = s.plan.device then pure ()
  else do
    let _ ← ifMachine 0 Machine.freeDeviceMemory
    modifyPlan fun p => { p with machine := none, device := index }
  apply (.device index)

/-- Limit the device memory in use to a size such as `512MB`. -/
def withMemoryLimit (limit : String) : PlanOp Unit := do
  let bytes ← Op.ofExcept (parseByteSize limit)
  modifyPlan fun p => { p with config := { p.config with memoryLimit := some bytes } }
  setLimit (some bytes)
  apply (.memoryLimit (String.ofList (Text.trim limit.toList)))

def withoutMemoryLimit : PlanOp Unit := do
  modifyPlan fun p => { p with config := { p.config with memoryLimit := none } }
  setLimit none
  apply .noMemoryLimit

/-- Measure from now on, starting with an empty profile. -/
def withProfiler : PlanOp Unit := do
  modifyPlan fun p => { p with config := { p.config with profiler := true }, profiler := .create true }
  apply .profiler

def withoutProfiler : PlanOp Unit := do
  modifyPlan fun p => { p with config := { p.config with profiler := false }, profiler := .off }
  apply .noProfiler

def withDependencies (enabled : Bool) : PlanOp Unit := do
  modifyPlan fun p => { p with config := { p.config with useDependencies := enabled } }
  apply (.dependencies enabled)

def withFlush (enabled : Bool) : PlanOp Unit := do
  modifyPlan fun p => { p with config := { p.config with flushOnEnd := enabled } }
  apply (.flush enabled)

def withTraceCode : PlanOp Unit := do
  modifyPlan fun p => { p with config := { p.config with traceCode := true } }
  apply .traceCode

/-- Run tasks with the grids of a schedule. -/
def withSchedule (schedule : GridSchedule) : PlanOp Unit := do
  modifyPlan fun p => { p with schedule }
  apply (.schedule schedule)

/-- Build a machine on the device of the plan, with the settings of the plan. -/
def buildMachine : PlanOp Machine := fun s =>
  match s.registry.device s.plan.device with
  | .error e => ⟨.error e, s, []⟩
  | .ok device =>
    match Machine.create s.plan.program s.plan.config (s.context, device) with
    | ⟨result, (context, device), log⟩ =>
      ⟨result,
        { s with
          context
          registry := { s.registry with devices := s.registry.devices.set s.plan.device device } },
        log⟩

/-- Build the machine of the plan unless there is one. -/
def ensureMachine : PlanOp Unit := do
  let s ← Op.get
  match s.plan.machine with
  | some _ => pure ()
  | none => do
    let machine ← buildMachine
    onMachine machine do
      Machine.setProfiler s.plan.profiler
      Machine.setSchedule s.plan.schedule

/-- A failure in place of the work of a machine that is not there. -/
def machineWork {α : Type} (op : MachineOp α) : PlanOp α := do
  ensureMachine
  let s ← Op.get
  match s.plan.machine with
  | some machine => onMachine machine op
  | none => Op.fail (.unknownDevice s.plan.device)

/-- Run the program once, after a warmup if one was asked for and is due. -/
def execute : PlanOp (Option EventId) := do
  let s ← Op.get
  machineWork do
    let t ← Op.get
    if s.plan.warmupRequested ∧ ¬ t.machine.finishedWarmup then Machine.warmup else pure ()
    Machine.execute .run

/-- Compile every task without running. -/
def warmup : PlanOp Unit :=
  machineWork Machine.warmup

/-- Reset the device of the plan, which drops its buffers and binaries. -/
def resetDevice : PlanOp Unit := do
  onDevice Device.reset
  let s ← Op.get
  match s.plan.machine with
  | none => pure ()
  | some machine => do
    let released ← onMachine machine Machine.forgetBuffers
    Op.emit ⟨.debug, some "plan_device_reset", [("context", s.context.name), ("released", released)]⟩

/-- Give back every buffer; the result is their bytes. -/
def freeDeviceMemory : PlanOp Nat :=
  ifMachine 0 Machine.freeDeviceMemory

/-- The applied options on one line. -/
def trace (p : Plan) (contextName : String) : String :=
  s!"ExecutionPlan[{contextName}] " ++ " -> ".intercalate (p.options.map PlanOption.text)

/-- What was measured, when measuring is switched on. -/
def profile? (p : Plan) : Option Profile :=
  match p.profiler with
  | .off => none
  | .on profile => some profile

end Plan
end Offload
