import Offload.Device.Watch
import Offload.Host.Json
import Offload.Kernel.Catalogue

/-!
Devices and what they take in as JSON, and the view of a device that an observer gets.
-/
namespace Offload

def DeviceError.toJson (e : DeviceError) : Json :=
  .obj [("error", e.name), ("message", e.message)]

/-- The answer of a device. -/
def Json.ofDevice {α : Type} (encode : α → Json) : Except DeviceError α → Json :=
  Json.ofExcept DeviceError.toJson encode

namespace Grid

/-- Six numbers: the blocks and the lanes of a block along each axis. -/
def toJson (g : Grid) : Json :=
  .ofNats [g.blocks.x.toNat, g.blocks.y.toNat, g.blocks.z.toNat, g.lanes.x.toNat, g.lanes.y.toNat,
    g.lanes.z.toNat]

/-- Six numbers; or the threads and the lanes of a grid along one axis; or nothing for a single
thread. -/
def ofJson (j : Json) : Decoded Grid := do
  match ← j.list Json.word32 with
  | [] => pure {}
  | [threads, lanes] =>
    match linear? threads lanes with
    | some grid => pure grid
    | none => .error .undefined
  | [x, y, z, lanesX, lanesY, lanesZ] => pure { blocks := ⟨x, y, z⟩, lanes := ⟨lanesX, lanesY, lanesZ⟩ }
  | _ => Json.malformed

end Grid

namespace Task

def ofJson (j : Json) : Decoded Task := do
  pure
    { id := ← j.orElse "id" "s0.t0" Json.string
      kernel := ← j.orElse "kernel" "noop" Json.string
      grid := ← j.orElse "grid" {} Grid.ofJson
      device := ← j.orElse "device" 0 Json.index
      writesLoopIndex := ← j.orElse "writes_loop_index" false Json.boolean
      usesDouble := ← j.orElse "uses_fp64" false Json.boolean }

def toJson (t : Task) : Json :=
  .arr [t.id, t.kernel, t.device, t.grid.toJson, t.writesLoopIndex, t.usesDouble]

end Task

namespace CompileRequest

def ofJson (j : Json) : Decoded CompileRequest := do
  pure
    { task := ← j.orEmpty "task" Task.ofJson
      taskIndex := ← j.orElse "task_index" 0 Json.natural
      batchThreads := ← j.orElse "batch_threads" 0 Json.natural
      batchSize := ← j.orElse "batch_size" 0 Json.natural
      batchNumber := ← j.orElse "batch_number" 0 Json.natural
      grid := ← j.optional "grid" Grid.ofJson
      force := ← j.orElse "force" false Json.boolean }

def toJson (r : CompileRequest) : Json :=
  .obj [("task", r.task.id), ("index", r.taskIndex), ("threads", r.batchThreads), ("size", r.batchSize),
    ("number", r.batchNumber), ("grid", .ofOption Grid.toJson r.grid), ("force", r.force)]

end CompileRequest

/-- What a binary was built for. -/
def Binary.members (b : Binary) : List Json :=
  [b.id, b.kernel, b.epoch, b.batchThreads, b.batchSize, b.batchNumber]

/-- A buffer by its id under the name `buf`, and its size. -/
def DeviceBuffer.ofJson (j : Json) : Decoded DeviceBuffer := do
  pure ⟨← j.orDefault "buf" Json.natural, ← j.orDefault "size" Json.natural⟩

/-- As many bytes as `len` says, from `offset` on or else the whole object. -/
def HostRange.ofJson (j : Json) : Decoded HostRange := do
  let size ← j.orDefault "len" Json.natural
  match ← j.optional "offset" Json.natural with
  | some offset => pure ⟨offset, size⟩
  | none => pure (.full size)

/-- A constant, a buffer or the mark of the kernel's context, the first of them that is given. -/
def KernelArg.ofJson (j : Json) : Decoded KernelArg := do
  match j.given? "const", j.given? "buf" with
  | some value, _ => constant <$> Scalar.ofJson value
  | none, some _ => buffer <$> DeviceBuffer.ofJson j
  | none, none =>
    if (← j.orDefault "ctx" Json.boolean) then pure kernelContext else buffer <$> DeviceBuffer.ofJson j

def DeviceInfo.members (i : DeviceInfo) : List Json :=
  [i.name, i.index, i.supportsDouble, i.globalMemory]

namespace KernelReport

def argumentJson (a : ArgumentView) : Json :=
  .obj [("ctx", a.isKernelContext), ("const", .ofDevice (fun s : Scalar => s.text) a.constant),
    ("bytes", .ofDevice .ofBytes a.bytes)]

def toJson : KernelReport → Json
  | launch threads batchNumber batchSize argCount offset grid args atomics =>
    .obj [("threads", threads), ("batch_number", batchNumber), ("batch_size", batchSize),
      ("num_args", argCount), ("offset", offset), ("grid", grid.toJson),
      ("args", .ofList argumentJson args),
      ("atomics", .ofDevice (Json.ofList fun v : Int32 => v.toInt) atomics)]
  | elements readings =>
    .obj (readings.map fun (e, values) => (e.name, .ofList Scalar.toJson values))

end KernelReport

/-- The counts that are not zero. -/
def DeviceCounters.toJson (c : DeviceCounters) : Json :=
  .obj (([("loads", c.loads), ("resets", c.resets), ("allocations", c.allocations),
    ("deallocations", c.deallocations), ("h2d_transfers", c.copiesIn), ("h2d_bytes", c.bytesIn),
    ("d2h_transfers", c.copiesOut), ("d2h_bytes", c.bytesOut), ("atomics_writes", c.atomicsWrites),
    ("compilations", c.compilations), ("launches", c.launches), ("markers", c.markers),
    ("waits", c.waits), ("flushes", c.flushes)].filter (·.2 ≠ 0)).map fun (name, n) => (name, .ofNat n))

def CompileRecord.toJson (c : CompileRecord) : Json :=
  .arr [c.kernel, c.taskIndex, c.batchThreads, c.batchSize, c.batchNumber, .ofOption Grid.toJson c.grid,
    c.forced]

namespace Device

/-- A device with the kernels of the catalogue, or those of them that are named. -/
def ofJson (j : Json) : Decoded Device := do
  let d := create
    { name := ← j.orElse "name" "cpu" Json.string
      index := ← j.orElse "index" 0 Json.index
      supportsDouble := ← j.orElse "fp64" true Json.boolean
      globalMemory := ← j.orElse "memory" ({} : DeviceInfo).globalMemory Json.natural }
    (← j.orElse "deferred" false Json.boolean)
  let names ← j.orElse "kernels" (Kernel.catalogue.map (·.1)) (Json.list Json.string)
  let kernels ← names.mapM fun name => do pure (name, ← Json.orMalformed (Kernel.find? name))
  let failing ← j.orElse "failing" [] (Json.list Json.string)
  pure (failing.foldl failCompilationOf
    (kernels.foldl (fun d entry => d.registerKernel entry.1 entry.2) d))

/-- How many of the new markers a view shows. -/
def shownMarkers : Nat := 4

/-- The state of a device and its news. -/
def view (d : Device) (news : DeviceNews) : Json :=
  let latest := news.markers.drop (news.markers.length - shownMarkers)
  let kernels : List (String × Json) :=
    if news.reports.isEmpty then [] else [("kernels", .ofList KernelReport.toJson news.reports)]
  .obj ([("counters", d.counters.toJson), ("work", .ofNat d.counters.deviceWork),
    ("allocated", .ofNat d.memory.allocated), ("buffers", .ofNat d.memory.buffers.size),
    ("events", .ofNat d.events.size), ("loaded", .bool d.loaded), ("epoch", .ofNat d.epoch),
    ("marker_log", .ofNat d.markerLog.length),
    ("markers", .ofList (fun (id, deps) => .arr [.ofNat id, .ofNats deps]) latest),
    ("compiled", .ofList CompileRecord.toJson news.compilations)] ++ kernels)

/-- Look at several devices in turn. -/
def views : List Device → List Watch → List Json × List Watch
  | [], _ => ([], [])
  | d :: devices, watches =>
    let (news, first) := (watches.head?.getD {}).look d
    let (others, rest) := views devices watches.tail
    (d.view news :: others, first :: rest)

end Device
end Offload
