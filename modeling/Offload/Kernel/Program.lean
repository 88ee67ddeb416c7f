import Offload.Device.Memory

/-!
Kernels. A kernel is a program over a few actions: it reads and overwrites the buffers among its
arguments, the atomics array of its launch, and it may report what it saw. It cannot touch anything
else, so whatever a kernel does, it keeps the number of buffers and their sizes.
-/
namespace Offload

/-- What a kernel finds in place of one argument. -/
structure ArgumentView where
  isKernelContext : Bool
  constant : Except DeviceError Scalar
  bytes : Except DeviceError Bytes

/-- What a kernel saw of its launch. -/
inductive KernelReport where
  | launch (threads batchNumber batchSize argCount offset : Nat) (grid : Grid)
      (args : List ArgumentView) (atomics : Except DeviceError (List Int32))
  /-- The bytes of an argument as elements of several types. -/
  | elements (readings : List (Element × List Scalar))

/-- The threads of a grid. A grid of too many is not run. -/
def Grid.counted (g : Grid) : Except DeviceError Nat :=
  match g.totalThreads? with
  | some threads => .ok threads
  | none => .error .overflow

/-- The arguments and the geometry of one launch, and the batch its binary was built for. A kernel
sees nothing else of the binary. -/
structure Invocation where
  frame : List KernelArg
  atomics : Option BufferId
  batchThreads : Nat
  batchSize : Nat
  batchNumber : Nat
  grid : Grid
  /-- The first global index of the launch. -/
  globalOffset : Nat

namespace Invocation

/-- What a kernel sees when its binary is launched. -/
def ofLaunch (code : Binary) (frame : List KernelArg) (atomics : Option DeviceBuffer) (grid : Grid)
    (globalOffset : Nat) : Invocation :=
  { frame
    atomics := atomics.map DeviceBuffer.id
    batchThreads := code.batchThreads
    batchSize := code.batchSize
    batchNumber := code.batchNumber
    grid
    globalOffset }

/-- How many threads run: those of the batch, or those of the grid as far as they can be counted. -/
def threads (v : Invocation) : Except DeviceError Nat :=
  if 0 < v.batchThreads then .ok v.batchThreads else v.grid.counted

def arg (v : Invocation) (index : Nat) : Except DeviceError KernelArg :=
  match v.frame[index]? with
  | some arg => .ok arg
  | none => .error (.invalidArgument index s!"frame holds {v.frame.length} arguments")

/-- The buffer that is bound to an argument. -/
def bufferId (v : Invocation) (index : Nat) : Except DeviceError BufferId := do
  match ← v.arg index with
  | .buffer buffer => .ok buffer.id
  | other => .error (.invalidArgument index s!"expected buffer, found {other.describe}")

def constant (v : Invocation) (index : Nat) : Except DeviceError Scalar := do
  match ← v.arg index with
  | .constant value => .ok value
  | other => .error (.invalidArgument index s!"expected constant, found {other.describe}")

def isKernelContext (v : Invocation) (index : Nat) : Bool :=
  v.frame[index]? = some .kernelContext

def atomicsId (v : Invocation) : Except DeviceError BufferId :=
  match v.atomics with
  | some id => .ok id
  | none => .error (.executionError "launch has no atomics buffer")

/-- All bytes of a buffer argument. -/
def bytes (v : Invocation) (memory : Memory) (index : Nat) : Except DeviceError Bytes := do
  let id ← v.bufferId index
  memory.contents id

/-- Overwrite the first bytes of a buffer argument. -/
def overwrite (v : Invocation) (memory : Memory) (index : Nat) (data : Bytes) :
    Except DeviceError Memory := do
  let id ← v.bufferId index
  memory.write id data

def atomicsBytes (v : Invocation) (memory : Memory) : Except DeviceError Bytes := do
  let id ← v.atomicsId
  memory.contents id

def overwriteAtomics (v : Invocation) (memory : Memory) (data : Bytes) :
    Except DeviceError Memory := do
  let id ← v.atomicsId
  memory.write id data

end Invocation

/-- A program of a kernel. Each action goes on with its answer, a refusal included. -/
inductive KernelProgram (α : Type) : Type where
  | done (value : α)
  | fail (error : DeviceError)
  | read (index : Nat) (next : Except DeviceError Bytes → KernelProgram α)
  | write (index : Nat) (data : Bytes) (next : Except DeviceError Unit → KernelProgram α)
  | readAtomics (next : Except DeviceError Bytes → KernelProgram α)
  | writeAtomics (data : Bytes) (next : Except DeviceError Unit → KernelProgram α)
  | report (entry : KernelReport) (next : KernelProgram α)

namespace KernelProgram

def andThen {α β : Type} : KernelProgram α → (α → KernelProgram β) → KernelProgram β
  | done value, f => f value
  | fail error, _ => fail error
  | read index next, f => read index fun answer => (next answer).andThen f
  | write index data next, f => write index data fun answer => (next answer).andThen f
  | readAtomics next, f => readAtomics fun answer => (next answer).andThen f
  | writeAtomics data next, f => writeAtomics data fun answer => (next answer).andThen f
  | report entry next, f => report entry (next.andThen f)

instance : Monad KernelProgram where
  pure := done
  bind := andThen

def ofExcept {α : Type} : Except DeviceError α → KernelProgram α
  | .ok value => done value
  | .error error => fail error

/-- The words of a buffer argument as elements of a type; the last one is padded with zeros. -/
def elements (e : Element) (index : Nat) : KernelProgram (List Nat) :=
  read index fun answer => ofExcept (answer.map (Bytes.words e.size))

/-- Overwrite the first elements of a buffer argument. -/
def store (e : Element) (index : Nat) (words : List Nat) : KernelProgram Unit :=
  write index (Bytes.ofWords e.size words) ofExcept

end KernelProgram

/-- What a run of a kernel leaves behind. A failure keeps what was written before it. -/
structure KernelOutcome (α : Type) where
  result : Except DeviceError α
  memory : Memory
  reports : List KernelReport := []

/-- Carry out a program on a memory. -/
def KernelProgram.run {α : Type} (v : Invocation) : KernelProgram α → Memory → KernelOutcome α
  | done value, memory => ⟨.ok value, memory, []⟩
  | fail error, memory => ⟨.error error, memory, []⟩
  | read index next, memory => (next (v.bytes memory index)).run v memory
  | write index data next, memory =>
    match v.overwrite memory index data with
    | .ok memory => (next (.ok ())).run v memory
    | .error error => (next (.error error)).run v memory
  | readAtomics next, memory => (next (v.atomicsBytes memory)).run v memory
  | writeAtomics data next, memory =>
    match v.overwriteAtomics memory data with
    | .ok memory => (next (.ok ())).run v memory
    | .error error => (next (.error error)).run v memory
  | report entry next, memory =>
    match next.run v memory with
    | ⟨result, memory, reports⟩ => ⟨result, memory, entry :: reports⟩

/-- A kernel: for each launch, the program to run. -/
abbrev Kernel := Invocation → KernelProgram Unit

end Offload
