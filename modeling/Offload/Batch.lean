/-!
Batch plans: a range of 64-bit length cut into consecutive slices. All slices have the same size but
the last, which takes what is left.
-/
namespace Offload

/-- A slice of a range. -/
structure Batch where
  index : UInt64
  offset : UInt64
  size : UInt64
  deriving Repr, DecidableEq

/-- Where the slice stops, exclusive. -/
def Batch.stop (b : Batch) : UInt64 :=
  b.offset + b.size

/-- How the range from zero to `total` is cut: into slices of `batch`. -/
structure BatchPlan where
  total : UInt64
  batch : UInt64
  deriving Repr, DecidableEq

namespace BatchPlan

/-- A batch of zero, or of more than the range, is the whole range. -/
def of (total batch : UInt64) : BatchPlan :=
  ⟨total, if batch = 0 ∨ total < batch then total else batch⟩

/-- How many slices there are: the quotient, and one more for a remainder. -/
def count (p : BatchPlan) : UInt64 :=
  if p.total = 0 then 0
  else if p.total % p.batch = 0 then p.total / p.batch
  else p.total / p.batch + 1

def lastSize (p : BatchPlan) : UInt64 :=
  if p.batch = 0 then 0
  else if p.total % p.batch = 0 then p.batch
  else p.total % p.batch

def isBatched (p : BatchPlan) : Bool :=
  1 < p.count

end BatchPlan

/-- The slices of a plan from `next` on. -/
structure Batches where
  plan : BatchPlan
  next : UInt64 := 0
  deriving Repr, DecidableEq

def BatchPlan.batches (p : BatchPlan) : Batches :=
  { plan := p }

namespace Batches

/-- The next slice and the slices behind it. -/
def next? (b : Batches) : Option (Batch × Batches) :=
  if b.plan.count ≤ b.next then none
  else
    let offset := b.next * b.plan.batch
    let size := min b.plan.batch (b.plan.total - offset)
    some (⟨b.next, offset, size⟩, { b with next := b.next + 1 })

/-- How many slices are still to come. -/
def left (b : Batches) : Nat :=
  (b.plan.count - b.next).toNat

/-- At most `limit` slices, and the slices behind them. -/
def take : Nat → Batches → List Batch × Batches
  | 0, b => ([], b)
  | limit + 1, b =>
    match b.next? with
    | none => ([], b)
    | some (first, rest) =>
      let (others, rest) := take limit rest
      (first :: others, rest)

end Batches
end Offload
