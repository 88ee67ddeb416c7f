import Offload.Table

/-!
Worker grids: blocks along three axes and lanes along three axes in each block. Dimensions are 32-bit
words. The lanes of a block are counted in 32 bits and the blocks and threads in 64 bits; a product that
does not fit is not counted at all.
-/
namespace Offload

/-- A size along each of three axes. -/
structure Extent where
  x : UInt32 := 1
  y : UInt32 := 1
  z : UInt32 := 1
  deriving Repr, DecidableEq

def Extent.text (e : Extent) : String :=
  s!"({e.x}, {e.y}, {e.z})"

/-- A product in words that hold the numbers below `size`; there is none where it does not fit. -/
def product? (size a b : Nat) : Option Nat :=
  if a * b < size then some (a * b) else none

/-- The product of the three sizes, counted from the first axis on. -/
def Extent.count? (size : Nat) (e : Extent) : Option Nat := do
  let plane ← product? size e.x.toNat e.y.toNat
  product? size plane e.z.toNat

structure Grid where
  blocks : Extent := {}
  lanes : Extent := {}
  deriving Repr, DecidableEq

namespace Grid

instance : Inhabited Grid := ⟨{}⟩

/-- How many blocks of `lanes` lanes cover `threads`. -/
def covering (threads lanes : Nat) : Nat :=
  (threads + lanes - 1) / lanes

/-- A grid along one axis that covers `threads`; there is none for blocks without lanes. -/
def linear? (threads lanes : UInt32) : Option Grid :=
  if lanes = 0 then none
  else some { blocks := { x := UInt32.ofNat (covering threads.toNat lanes.toNat) }, lanes := { x := lanes } }

def totalBlocks? (g : Grid) : Option Nat :=
  g.blocks.count? UInt64.size

/-- The lanes of one block. -/
def totalLanes? (g : Grid) : Option Nat :=
  g.lanes.count? UInt32.size

def totalThreads? (g : Grid) : Option Nat := do
  let blocks ← g.totalBlocks?
  let lanes ← g.totalLanes?
  product? UInt64.size blocks lanes

/-- The same blocks, as many along the first axis as `threads` need; no more than a word counts. -/
def withThreads (g : Grid) (threads : Nat) : Grid :=
  let lanes := max g.lanes.x.toNat 1
  { g with blocks := { g.blocks with x := UInt32.ofNat (min (covering threads lanes) 0xffffffff) } }

end Grid
/-! ### Grids in place of declared ones -/

/-- Grids by task id, in place of the grids that tasks declare. -/
structure GridSchedule where
  grids : Table String Grid := {}
  deriving Repr, DecidableEq

namespace GridSchedule

def setGrid (s : GridSchedule) (task : String) (grid : Grid) : GridSchedule :=
  ⟨s.grids.insert task grid⟩

def get? (s : GridSchedule) (task : String) : Option Grid :=
  s.grids.get? task

/-- The grid a task runs with: the scheduled one, or else the declared one. -/
def resolve (s : GridSchedule) (task : String) (declared : Grid) : Grid :=
  (s.get? task).getD declared

def text (s : GridSchedule) : String :=
  ", ".intercalate s.grids.keys

end GridSchedule
end Offload
