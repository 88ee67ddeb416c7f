import Offload.Device.Types

/-!
The binary of each task and the batch it was built for. Two things force a rebuild before a launch:
the batch has another number of threads than the one the binary was built for, or the kernel stores
the number of the batch and an earlier batch has been counted.
-/
namespace Offload

structure CacheSlot where
  binary : Option Binary := none
  batchThreads : Nat := 0
  batchSize : Nat := 0
  batchNumber : Nat := 0
  force : Bool := false
  deriving Repr, DecidableEq

namespace CacheSlot

/-- The binary, if it is still valid. -/
def code (s : CacheSlot) : Option Binary :=
  s.binary.filter Binary.valid

def needsCompile (s : CacheSlot) : Bool :=
  s.code.isNone

/-- The slot with its binary marked for a rebuild. -/
def invalidate (s : CacheSlot) : CacheSlot :=
  { s with binary := s.binary.map Binary.invalidate, force := true }

def recompilationNeeded (s : CacheSlot) (batchThreads : Nat) (indexInWrite : Bool) : Bool :=
  (s.code.isSome && s.batchThreads ≠ 0 && s.batchThreads ≠ batchThreads) ||
    (0 < s.batchNumber && indexInWrite)

/-- Take over the batch of a launch. -/
def setBatch (s : CacheSlot) (batchThreads : Nat) (indexInWrite : Bool) : CacheSlot :=
  { s with
    batchThreads
    batchSize := if s.batchSize = 0 ∧ indexInWrite then batchThreads else s.batchSize }

/-- Store a fresh binary and count the batch it was built for. -/
def install (s : CacheSlot) (binary : Binary) (indexInWrite : Bool) : CacheSlot :=
  { s with
    binary := some binary
    force := false
    batchNumber := if indexInWrite ∧ s.batchThreads ≠ 0 then s.batchNumber + 1 else s.batchNumber }

end CacheSlot

structure CodeCache where
  slots : List CacheSlot := []
  /-- How often a rebuild was forced. -/
  recompilations : Nat := 0
  deriving Repr, DecidableEq

namespace CodeCache

def create (tasks : Nat) : CodeCache :=
  { slots := List.replicate tasks {} }

def slot (c : CodeCache) (task : Nat) : CacheSlot :=
  (c.slots[task]?).getD {}

def code (c : CodeCache) (task : Nat) : Option Binary :=
  (c.slot task).code

def compiledTasks (c : CodeCache) : Nat :=
  c.slots.countP fun s => s.code.isSome

/-- Take over the batch of a launch, and tell whether that forces a rebuild. -/
def prepare (c : CodeCache) (task batchThreads : Nat) (indexInWrite : Bool) : Bool × CodeCache :=
  match c.slots[task]? with
  | none => (false, c)
  | some s =>
    if s.recompilationNeeded batchThreads indexInWrite then
      (true,
        { slots := c.slots.set task (s.invalidate.setBatch batchThreads indexInWrite)
          recompilations := c.recompilations + 1 })
    else (false, { c with slots := c.slots.set task (s.setBatch batchThreads indexInWrite) })

def needsCompile (c : CodeCache) (task : Nat) : Bool :=
  (c.slot task).needsCompile

/-- The compilation that a slot calls for. -/
def request (c : CodeCache) (taskIndex : Nat) (task : Task) (grid : Option Grid) : CompileRequest :=
  let s := c.slot taskIndex
  { task, taskIndex, batchThreads := s.batchThreads, batchSize := s.batchSize
    batchNumber := s.batchNumber, grid, force := s.force }

def install (c : CodeCache) (task : Nat) (binary : Binary) (indexInWrite : Bool) : CodeCache :=
  { c with slots := c.slots.modify task fun s => s.install binary indexInWrite }

/-- Rebuild a compiled task at its next launch. -/
def forceRecompile (c : CodeCache) (task : Nat) : CodeCache :=
  match c.slots[task]? with
  | none => c
  | some s =>
    if s.code.isSome then
      { slots := c.slots.set task s.invalidate, recompilations := c.recompilations + 1 }
    else c

/-- Drop every binary; batches stay as they were. -/
def clear (c : CodeCache) : CodeCache :=
  { c with slots := c.slots.map fun s => { s with binary := none } }

end CodeCache
end Offload
