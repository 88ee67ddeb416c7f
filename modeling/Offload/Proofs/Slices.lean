import Offload.Proofs.BatchPlans

/-! The slices of a plan. They lie one behind the other and cover the whole range, each in whole units
when the range and the batch are whole units. -/
namespace Offload

/-- The slices follow one another from `first` up to `stop`, counted in units. Each covers one unit at
least, and `limit` units at most. -/
inductive Tiles (unit limit : Nat) : (first stop : Nat) → List Batch → Prop where
  | nil (stop : Nat) : Tiles unit limit stop stop []
  | cons {b : Batch} {first count stop : Nat} {rest : List Batch} (offset : b.offset.toNat = unit * first)
      (size : b.size.toNat = unit * count) (positive : 0 < count) (fits : count ≤ limit)
      (tiles : Tiles unit limit (first + count) stop rest) : Tiles unit limit first stop (b :: rest)

theorem Tiles.first_le {unit limit first stop : Nat} {slices : List Batch}
    (tiles : Tiles unit limit first stop slices) : first ≤ stop := by
  induction tiles with
  | nil stop => exact Nat.le_refl _
  | cons _ _ _ _ _ ih => exact Nat.le_trans (Nat.le_add_right _ _) ih

theorem Tiles.within {unit limit first stop : Nat} {slices : List Batch}
    (tiles : Tiles unit limit first stop slices) :
    ∀ b ∈ slices, b.offset.toNat ≤ unit * stop ∧ b.size.toNat ≤ unit * stop := by
  induction tiles with
  | nil stop => simp
  | cons offset size _ _ tiles ih =>
    have inside := tiles.first_le
    intro b member
    rcases List.mem_cons.1 member with rfl | later
    · rw [offset, size]
      exact ⟨Nat.mul_le_mul_left _ (Nat.le_trans (Nat.le_add_right ..) inside),
        Nat.mul_le_mul_left _ (Nat.le_trans (Nat.le_add_left ..) inside)⟩
    · exact ih b later

namespace BatchPlan

variable {unit n k : Nat}

/-- A plan for `n` units in batches of `k` units. -/
def ofUnits (unit n k : Nat) : BatchPlan :=
  .of (.ofNat (unit * n)) (.ofNat (unit * k))

section Units

variable (units : 0 < unit) (elements : 0 < n) (some : 0 < k) (range : unit * n < 0x10000000000000000)
  (range' : unit * k < 0x10000000000000000)

include range in
private theorem total_ofUnits : (ofUnits unit n k).total.toNat = unit * n := by
  simp only [ofUnits, of, UInt64.toNat_ofNat']
  exact Nat.mod_eq_of_lt range

include units some range range' in
theorem batch_ofUnits : (ofUnits unit n k).batch.toNat = unit * min k n := by
  have positive := Nat.mul_pos units some
  have size : (UInt64.ofNat (unit * k)).toNat = unit * k := by
    rw [UInt64.toNat_ofNat', Nat.mod_eq_of_lt range']
  have whole : (UInt64.ofNat (unit * n)).toNat = unit * n := by
    rw [UInt64.toNat_ofNat', Nat.mod_eq_of_lt range]
  have real : UInt64.ofNat (unit * k) ≠ 0 := by
    intro zero
    rw [zero] at size
    exact absurd size (Nat.ne_of_lt positive)
  simp only [ofUnits, of, real, false_or, UInt64.lt_iff_toNat_lt, size, whole]
  split
  · next smaller =>
    have := Nat.lt_of_mul_lt_mul_left smaller
    rw [whole, Nat.min_eq_right (Nat.le_of_lt this)]
  · next larger =>
    have := Nat.le_of_mul_le_mul_left (Nat.not_lt.1 larger) units
    rw [size, Nat.min_eq_left this]

include units elements some range range' in
/-- From any slice on, the slices that are left cover what is left of the range. -/
theorem tiles_drop (left j : Nat) (enough : j + left = (ofUnits unit n k).count.toNat) :
    Tiles unit (min k n) (min (j * min k n) n) n ((ofUnits unit n k).listed.drop j) := by
  have sized : Sized (ofUnits unit n k) := sized_of _ _
  have total : (ofUnits unit n k).total.toNat = unit * n := total_ofUnits range
  have batch := batch_ofUnits units some range range'
  have full : 0 < min k n := by omega
  generalize min k n = L at batch full ⊢
  have scaled (i : Nat) : i * (unit * L) = unit * (i * L) := Nat.mul_left_comm i unit L
  have counted (i : Nat) : i < (ofUnits unit n k).count.toNat ↔ i * L < n := by
    rw [lt_count_iff sized, total, batch, scaled, Nat.mul_lt_mul_left units]
  induction left generalizing j with
  | zero =>
    have last := counted j
    have none_left : (ofUnits unit n k).listed.drop j = [] := by
      apply List.drop_of_length_le
      simp only [listed, List.length_map, List.length_range]
      omega
    rw [none_left, Nat.min_eq_right (by omega)]
    exact .nil n
  | succ left ih =>
    have there : j < (ofUnits unit n k).count.toNat := by omega
    have inside : j * L < n := (counted j).1 there
    have step : min (j * L) n + min L (n - j * L) = min ((j + 1) * L) n := by
      rw [Nat.succ_mul]
      omega
    rw [listed_drop there]
    have offset : ((ofUnits unit n k).slice j).offset.toNat = unit * min (j * L) n := by
      rw [slice_offset sized there, batch, scaled, Nat.min_eq_left (by omega)]
    have size : ((ofUnits unit n k).slice j).size.toNat = unit * min L (n - j * L) := by
      rw [slice_size, batch, total, scaled, ← Nat.mul_sub, Nat.mul_min_mul_left]
    have behind := ih (j + 1) (by omega)
    rw [← step] at behind
    exact .cons offset size (by omega) (by omega) behind

include units elements some range range' in
/-- A plan in whole units covers its range, slice behind slice. -/
theorem tiles_ofUnits : Tiles unit (min k n) 0 n (ofUnits unit n k).slices := by
  have tiles := tiles_drop units elements some range range' _ 0 (Nat.zero_add _)
  rw [Nat.zero_mul, Nat.zero_min, List.drop_zero] at tiles
  have sized : Sized (ofUnits unit n k) := sized_of _ _
  rw [slices_eq sized]
  exact tiles

end Units

end BatchPlan
end Offload
