import Offload.Device.Json
import Offload.Workspace

/-!
Contexts, configurations and machines as JSON.
-/
namespace Offload

namespace MachineError

def members (e : MachineError) : List (String × Json) :=
  [("error", e.name), ("message", e.message), ("kind", e.kind.name), ("recoverable", e.isRecoverable),
    ("cause", .ofOption .str e.cause?)]

def toJson (e : MachineError) : Json :=
  .obj e.members

end MachineError

/-- The answer of a machine. -/
def Json.ofMachine {α : Type} (encode : α → Json) : Except MachineError α → Json :=
  Json.ofExcept MachineError.toJson encode

namespace Context

/-- Add an object as its members say. -/
def addFromJson (c : Context) (j : Json) : Decoded Context := do
  let object ← HostObject.ofJson j
  let atomic ← j.orElse "atomic" false Json.boolean
  let access ← j.orElse "access" .readWrite (Json.named Access.ofName?)
  pure
    (if object.isKernelContext then c.addKernelContext
    else if atomic then c.addAtomic object
    else c.addObject object access)

def ofJson (j : Json) : Decoded Context := do
  let c : Context :=
    { name := ← j.orElse "name" "ctx" Json.string
      constants := ← j.orElse "constants" [] (Json.list Scalar.ofJson)
      tasks := ← j.orElse "tasks" [] (Json.list Task.ofJson)
      memory := .ofLimit (← j.optional "memory_limit" Json.natural) }
  let objects ← j.orElse "objects" [] (Json.list pure)
  objects.foldlM addFromJson c

/-- The budget and the bytes of all objects. -/
def view (c : Context) : Json :=
  .obj [("usage", c.memory.usage), ("limit", .ofOption .ofNat c.memory.limit),
    ("objects", .ofList (fun e : ObjectEntry => .ofBytes e.object.bytes) c.objects)]

end Context

def ObjectEntry.toJson (e : ObjectEntry) : Json :=
  .arr [e.object.text, e.access.name, e.atomic]

/-- Pairs of a task id and a grid; the last of an id counts. -/
def GridSchedule.ofJson (j : Json) : Decoded GridSchedule := do
  let entries ← j.list fun
    | .arr [task, grid] => do pure (← task.string, ← Grid.ofJson grid)
    | _ => Json.malformed
  pure (entries.foldl (fun s entry => s.setGrid entry.1 entry.2) {})

namespace Config

def ofJson (j : Json) : Decoded Config := do
  pure
    { maxEvents := ← j.orElse "max_events" 32 Json.natural
      useDependencies := ← j.orElse "use_dependencies" true Json.boolean
      flushOnEnd := ← j.orElse "flush_on_end" false Json.boolean
      traceCode := ← j.orElse "trace_bytecodes" false Json.boolean
      virtualDevice := ← j.orElse "virtual_device" false Json.boolean
      profiler := ← j.orElse "profiler" false Json.boolean
      memoryLimit := ← j.optional "memory_limit" Json.natural }

def toJson (c : Config) : Json :=
  .obj [("max_events", c.maxEvents), ("use_dependencies", c.useDependencies),
    ("flush_on_end", c.flushOnEnd), ("trace_bytecodes", c.traceCode),
    ("virtual_device", c.virtualDevice), ("profiler", c.profiler),
    ("memory_limit", .ofOption .ofNat c.memoryLimit)]

end Config

def Binding.toJson (b : Binding) : Json :=
  .arr [.ofOption (fun buffer : DeviceBuffer => buffer.text) b.buffer, b.isBound, b.hasContent, b.atomic]

def CacheSlot.toJson (s : CacheSlot) : Json :=
  .arr [s.batchThreads, s.batchSize, s.batchNumber, s.force, s.needsCompile,
    .ofOption (fun b : Binary => .arr b.members) s.code]

/-- The kinds that were timed, and the metrics but for times. -/
def Profile.summary (p : Profile) : Json :=
  let totals (kind : MetricKind) (t : Table String Nat) : Json :=
    .obj (t.entries.map fun (key, n) => (key, if kind = .kernelTime then .null else .ofNat n))
  .obj [("timers", .ofStrings (p.timers.keys.map TimerKind.name)),
    ("metrics", .obj (p.metrics.entries.map fun (kind, t) => (kind.name, totals kind t)))]

def MachineStats.toJson (s : MachineStats) : Json :=
  .ofNats [s.invocations, s.warmups, s.compilations, s.recompilations]

/-- A machine, with the bytes of its buffers as far as its device has them. -/
def Machine.view (m : Machine) (device : Option Device) : Json :=
  let contents (id : BufferId) : Json :=
    match device with
    | none => .null
    | some d => Json.ofExcept (fun _ => .null) .ofBytes (d.memory.contents id)
  let binding (b : Binding) : Json :=
    .ofOption (fun buffer : DeviceBuffer => .arr [buffer.text, b.hasContent, contents buffer.id]) b.buffer
  .obj [("warm", m.finishedWarmup), ("stats", m.stats.toJson),
    ("buffers", .ofList binding m.bindings.entries), ("cache", .ofList CacheSlot.toJson m.cache.slots),
    ("recompilations", m.cache.recompilations), ("compiled", m.cache.compiledTasks)]

namespace Workspace

/-- The machines; nothing where there is none. -/
def view (w : Workspace) : Json :=
  .ofList (Json.ofOption fun seat : Seat => seat.machine.view w.devices[seat.device]?) w.seats

end Workspace
end Offload
