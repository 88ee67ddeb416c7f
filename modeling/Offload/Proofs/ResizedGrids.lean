import Offload.Device.Grid

/-! Grids that are resized to a number of threads. As many blocks as needed are laid along the first axis, and
no fewer would do. The threads of the resized grid are counted exactly as long as the lanes of one block fit
32 bits; these are counted in words of that size, and where they need more there is no count. -/
namespace Offload

namespace Extent

/-- No axis is empty. -/
structure Proper (e : Extent) : Prop where
  x : 1 ≤ e.x.toNat
  y : 1 ≤ e.y.toNat
  z : 1 ≤ e.z.toNat

/-- The product of the sizes, as a natural number. -/
def volume (e : Extent) : Nat :=
  e.x.toNat * e.y.toNat * e.z.toNat

variable {e : Extent}

private theorem Proper.volume_pos (proper : e.Proper) : 1 ≤ e.volume :=
  Nat.mul_pos (Nat.mul_pos proper.x proper.y) proper.z

private theorem Proper.le_volume (proper : e.Proper) : e.x.toNat ≤ e.volume := by
  have square : e.x.toNat ≤ e.x.toNat * e.y.toNat := Nat.le_mul_of_pos_right _ proper.y
  exact Nat.le_trans square (Nat.le_mul_of_pos_right _ proper.z)

end Extent

namespace Grid

/-- How many threads there are, as a natural number. -/
def threads (g : Grid) : Nat :=
  g.blocks.volume * g.lanes.volume

/-! ### Covering -/

variable {threads lanes blocks : Nat}

private theorem le_covering_mul (positive : 1 ≤ lanes) : threads ≤ covering threads lanes * lanes := by
  have cut := Nat.div_add_mod' (threads + lanes - 1) lanes
  have left := Nat.mod_lt (threads + lanes - 1) positive
  rw [covering]
  omega

/-- Nothing smaller covers as many threads. -/
theorem covering_le (positive : 1 ≤ lanes) (covers : threads ≤ blocks * lanes) : covering threads lanes ≤ blocks := by
  apply Nat.le_of_lt_succ
  rw [covering, Nat.div_lt_iff_lt_mul positive, Nat.succ_mul]
  omega

private theorem covering_pos (positive : 1 ≤ lanes) (some : 1 ≤ threads) : 1 ≤ covering threads lanes := by
  have covers : threads ≤ covering threads lanes * lanes := le_covering_mul positive
  apply Nat.pos_of_ne_zero
  intro none
  rw [none] at covers
  omega

/-! ### Counting in words -/

variable {size : Nat} {e : Extent} {g : Grid}

/-- Sizes are counted exactly or not at all: their product fits the word, or the count ends before it. -/
theorem count?_of_proper (proper : e.Proper) :
    e.count? size = if e.volume < size then some e.volume else none := by
  have plane : e.x.toNat * e.y.toNat ≤ e.volume := Nat.le_mul_of_pos_right _ proper.z
  unfold Extent.count? product?
  by_cases fits : e.volume < size
  · rw [if_pos (Nat.lt_of_le_of_lt plane fits), if_pos fits]
    exact if_pos fits
  · rw [if_neg fits]
    split
    · exact if_neg fits
    · rfl

/-- Where all threads fit 64 bits, so do the blocks, and the lanes of one block alone decide on the count. -/
theorem totalThreads?_of_narrow (blocks : g.blocks.Proper) (lanes : g.lanes.Proper)
    (narrow : g.threads < UInt64.size) :
    g.totalThreads? = if g.lanes.volume < UInt32.size then some g.threads else none := by
  have fits : g.blocks.volume < UInt64.size :=
    Nat.lt_of_le_of_lt (Nat.le_mul_of_pos_right _ lanes.volume_pos) narrow
  unfold totalThreads? totalBlocks? totalLanes?
  rw [count?_of_proper blocks, if_pos fits, count?_of_proper lanes]
  split
  · exact if_pos narrow
  · rfl

/-! ### Resizing -/

/-- Within reach of the first axis its blocks are as many as cover the threads. -/
theorem withThreads_x (lanes : 1 ≤ g.lanes.x.toNat) (reach : threads ≤ g.lanes.x.toNat * 0xffffffff) :
    (g.withThreads threads).blocks.x.toNat = covering threads g.lanes.x.toNat := by
  have within : covering threads g.lanes.x.toNat ≤ 0xffffffff :=
    covering_le lanes (by rwa [Nat.mul_comm])
  rw [withThreads, Nat.max_eq_left lanes, Nat.min_eq_left within]
  exact UInt32.toNat_ofNat_of_lt' (Nat.lt_of_le_of_lt within (by decide))

/-- The blocks of a resized grid, each with the lanes that it had: the other axes are as they were, the threads are
covered along the first axis, and no fewer blocks would cover them. -/
structure Covers (g : Grid) (threads : Nat) (resized : Grid) : Prop where
  lanes : resized.lanes = g.lanes
  y : resized.blocks.y = g.blocks.y
  z : resized.blocks.z = g.blocks.z
  covers : threads ≤ resized.blocks.x.toNat * g.lanes.x.toNat
  least : ∀ x : Nat, threads ≤ x * g.lanes.x.toNat → resized.blocks.x.toNat ≤ x

private theorem withThreads_covers (lanes : 1 ≤ g.lanes.x.toNat) (reach : threads ≤ g.lanes.x.toNat * 0xffffffff) :
    g.Covers threads (g.withThreads threads) where
  lanes := rfl
  y := rfl
  z := rfl
  covers := by
    rw [withThreads_x lanes reach]
    exact le_covering_mul lanes
  least x covers := by
    rw [withThreads_x lanes reach]
    exact covering_le lanes covers

/-- The resized grid has some blocks along each axis again. -/
theorem withThreads_proper (blocks : g.blocks.Proper) (lanes : 1 ≤ g.lanes.x.toNat) (some : 1 ≤ threads)
    (reach : threads ≤ g.lanes.x.toNat * 0xffffffff) : (g.withThreads threads).blocks.Proper where
  x := by
    rw [withThreads_x lanes reach]
    exact covering_pos lanes some
  y := blocks.y
  z := blocks.z

/-- A grid that covers threads along one axis has as many. -/
theorem Covers.le_threads {resized : Grid} (covers : g.Covers threads resized) (blocks : resized.blocks.Proper)
    (lanes : g.lanes.Proper) : threads ≤ resized.threads := by
  rw [Grid.threads, covers.lanes]
  exact Nat.le_trans covers.covers (Nat.mul_le_mul blocks.le_volume lanes.le_volume)

/-- A grid without an empty axis is resized to any number of threads that its first axis can reach. The new one covers
them with no more blocks than it takes, and has as many threads or more. As far as these fit 64 bits they are counted,
and then exactly, if the lanes of one block fit 32 bits; otherwise there is no count. -/
theorem withThreads_counted {g : Grid} {threads : Nat} (blocks : g.blocks.Proper) (lanes : g.lanes.Proper)
    (positive : 1 ≤ threads) (reach : threads ≤ g.lanes.x.toNat * 0xffffffff)
    (narrow : (g.withThreads threads).threads < UInt64.size) :
    g.Covers threads (g.withThreads threads) ∧ threads ≤ (g.withThreads threads).threads ∧
      (g.withThreads threads).totalThreads? =
        if g.lanes.volume < UInt32.size then some (g.withThreads threads).threads else none := by
  have covers := withThreads_covers lanes.x reach
  have proper := withThreads_proper blocks lanes.x positive reach
  exact ⟨covers, covers.le_threads proper lanes, totalThreads?_of_narrow proper lanes narrow⟩

/-- As many lanes in a block as 32 bits count, and as many blocks as there can be along the first axis. -/
theorem largest_counted :
    let g : Grid := { lanes := { x := 65535, y := 65537 } }
    g.Covers (65535 * 0xffffffff) (g.withThreads (65535 * 0xffffffff)) ∧
      (g.withThreads (65535 * 0xffffffff)).totalThreads? = some (0xffffffff * 0xffffffff) := by
  have counted := @withThreads_counted { lanes := { x := 65535, y := 65537 } } (65535 * 0xffffffff)
    ⟨by decide, by decide, by decide⟩ ⟨by decide, by decide, by decide⟩ (by decide) (by decide) (by decide +kernel)
  exact ⟨counted.1, counted.2.2.trans (by decide +kernel)⟩

/-- A block of one lane more than 32 bits count: the threads of the grid are a number of 64 bits, but no count. -/
theorem count_not_always_exact : ¬ ∀ (g : Grid) (threads : Nat), g.blocks.Proper → g.lanes.Proper →
    1 ≤ threads → threads ≤ g.lanes.x.toNat * 0xffffffff → (g.withThreads threads).threads < UInt64.size →
      ∃ count, (g.withThreads threads).totalThreads? = some count ∧
        count = (g.withThreads threads).threads ∧ threads ≤ count := by
  intro claim
  obtain ⟨count, counted, -⟩ := claim { lanes := { x := 65536, y := 65536 } } 1 ⟨by decide, by decide, by decide⟩
    ⟨by decide, by decide, by decide⟩ (by decide) (by decide) (by decide +kernel)
  have uncounted : (Grid.withThreads { lanes := { x := 65536, y := 65536 } } 1).totalThreads? = none := by
    decide +kernel
  rw [uncounted] at counted
  cases counted

end Grid
end Offload
