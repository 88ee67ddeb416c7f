import Offload.Batch

/-! Batch plans cut their range exactly, whatever its length and the size of a batch. Slice `i` starts at
`i` batches. Its end is the start of the next slice, or the end of the range when there is no next one.
All of this is stated over natural numbers and carried over to 64 bits, so each product, sum and
difference that the plan takes is shown to stay within them. -/
namespace Offload
namespace BatchPlan

/-- All slices of a plan. -/
def slices (p : BatchPlan) : List Batch :=
  (p.batches.take p.count.toNat).1

/-- Slice `i`, worked out from its number alone. -/
def slice (p : BatchPlan) (i : Nat) : Batch :=
  let offset := i * p.batch.toNat
  ⟨.ofNat i, .ofNat offset, .ofNat (min p.batch.toNat (p.total.toNat - offset))⟩

/-- The slices from number `i` on. -/
def behind (p : BatchPlan) (i : Nat) : Batches :=
  ⟨p, .ofNat i⟩

/-- A batch is at most the range, and it is some of it when there is any. -/
structure Sized (p : BatchPlan) : Prop where
  some : p.total ≠ 0 → p.batch ≠ 0
  fits : p.batch ≤ p.total

theorem sized_of (total batch : UInt64) : Sized (of total batch) := by
  by_cases whole : batch = 0 ∨ total < batch
  · simp only [of, whole, if_true]
    exact ⟨id, UInt64.le_refl total⟩
  · rw [not_or, UInt64.not_lt] at whole
    simp only [of, whole.1, UInt64.not_lt.2 whole.2, or_self, if_false]
    exact ⟨fun _ => whole.1, whole.2⟩

variable {p : BatchPlan} {i j n : Nat}

private theorem Sized.positive (sized : Sized p) (units : p.total ≠ 0) : 0 < p.batch.toNat := by
  have some := sized.some units
  rw [ne_eq, ← UInt64.toNat_inj, UInt64.toNat_zero] at some
  omega

private theorem count_zero (none : p.total = 0) : p.count = 0 := by
  simp [count, none]

/-- The count is the quotient, rounded up. The one that is added for a remainder stays in 64 bits, since
a batch of one leaves no remainder. -/
theorem count_toNat (sized : Sized p) :
    p.count.toNat = p.total.toNat / p.batch.toNat +
      if p.total.toNat % p.batch.toNat = 0 then 0 else 1 := by
  by_cases units : p.total = 0
  · simp [count_zero units, units]
  have positive := sized.positive units
  have even : p.total % p.batch = 0 ↔ p.total.toNat % p.batch.toNat = 0 := by
    rw [← UInt64.toNat_inj, UInt64.toNat_mod, UInt64.toNat_zero]
  by_cases exactly : p.total % p.batch = 0
  · simp only [count, units, exactly, even.1 exactly, if_true, if_false, UInt64.toNat_div, Nat.add_zero]
  · have odd : p.total.toNat % p.batch.toNat ≠ 0 := fun zero => exactly (even.2 zero)
    have several : p.batch.toNat ≠ 1 := by
      intro one
      rw [one, Nat.mod_one] at odd
      exact odd rfl
    have half : p.total.toNat / p.batch.toNat ≤ p.total.toNat / 2 :=
      Nat.div_le_div_left (by omega) (by omega)
    have range := p.total.toNat_lt
    have small : p.total.toNat / p.batch.toNat + 1 < 0x10000000000000000 :=
      Nat.lt_of_le_of_lt (Nat.succ_le_succ half) (by omega)
    simp only [count, units, exactly, odd, if_false, UInt64.toNat_add, UInt64.toNat_div, UInt64.toNat_one]
    exact Nat.mod_eq_of_lt small

/-- There is a slice `j` exactly when `j` whole batches do not yet fill the range. -/
theorem lt_count_iff (sized : Sized p) : j < p.count.toNat ↔ j * p.batch.toNat < p.total.toNat := by
  by_cases units : p.total = 0
  · simp [count_zero units, units]
  · have positive := sized.positive units
    have cut := Nat.div_add_mod' p.total.toNat p.batch.toNat
    have left := Nat.mod_lt p.total.toNat positive
    rw [count_toNat sized]
    split
    · next even => rw [Nat.add_zero, ← Nat.mul_lt_mul_right positive]; omega
    · next odd =>
      constructor
      · intro below
        have := Nat.mul_le_mul_right p.batch.toNat (Nat.le_of_lt_succ below)
        omega
      · intro below
        apply Nat.lt_of_mul_lt_mul_right (a := p.batch.toNat)
        rw [Nat.succ_mul]
        omega

private theorem count_eq_zero_iff (sized : Sized p) : p.count.toNat = 0 ↔ p.total = 0 := by
  have first := lt_count_iff (j := 0) sized
  rw [Nat.zero_mul] at first
  rw [← UInt64.toNat_inj, UInt64.toNat_zero]
  omega

section Slice

variable (sized : Sized p) (there : i < p.count.toNat)

private theorem slice_index (there : i < p.count.toNat) : (p.slice i).index.toNat = i :=
  UInt64.toNat_ofNat_of_lt' (Nat.lt_trans there p.count.toNat_lt)

include sized there in
theorem slice_offset : (p.slice i).offset.toNat = i * p.batch.toNat := by
  have inside := (lt_count_iff sized).1 there
  exact UInt64.toNat_ofNat_of_lt' (Nat.lt_trans inside p.total.toNat_lt)

theorem slice_size : (p.slice i).size.toNat = min p.batch.toNat (p.total.toNat - i * p.batch.toNat) :=
  UInt64.toNat_ofNat_of_lt' (Nat.lt_of_le_of_lt (Nat.min_le_left ..) p.batch.toNat_lt)

include sized there in
private theorem slice_stop : (p.slice i).stop.toNat = min ((i + 1) * p.batch.toNat) p.total.toNat := by
  have inside := (lt_count_iff sized).1 there
  have range := p.total.toNat_lt
  rw [Batch.stop, UInt64.toNat_add, slice_offset sized there, slice_size, Nat.succ_mul]
  omega

end Slice

/-! One step from slice `i`, and then any number of steps. -/

private theorem next?_behind (sized : Sized p) (there : i < p.count.toNat) :
    (p.behind i).next? = some (p.slice i, p.behind (i + 1)) := by
  have inside := (lt_count_iff sized).1 there
  have next : (UInt64.ofNat i).toNat = i := slice_index there
  have more : ¬ p.count ≤ UInt64.ofNat i := by
    rw [UInt64.le_iff_toNat_le, next]
    omega
  have offset : UInt64.ofNat i * p.batch = (p.slice i).offset := by
    rw [← UInt64.toNat_inj, UInt64.toNat_mul, next, slice_offset sized there]
    have := p.total.toNat_lt
    exact Nat.mod_eq_of_lt (by omega)
  have left : (p.total - (p.slice i).offset).toNat = p.total.toNat - i * p.batch.toNat := by
    rw [UInt64.toNat_sub_of_le, slice_offset sized there]
    rw [UInt64.le_iff_toNat_le, slice_offset sized there]
    omega
  have size : min p.batch (p.total - (p.slice i).offset) = (p.slice i).size := by
    rw [← UInt64.toNat_inj, slice_size, ← left]
    show (if p.batch ≤ p.total - (p.slice i).offset then p.batch
      else p.total - (p.slice i).offset).toNat = _
    split
    · next whole => rw [UInt64.le_iff_toNat_le] at whole; omega
    · next cut => rw [UInt64.le_iff_toNat_le] at cut; omega
  simp only [behind, Batches.next?, more, if_false, offset, size, Option.some.injEq, Prod.mk.injEq]
  constructor
  · rfl
  · rw [UInt64.ofNat_add]
    rfl

private theorem next?_behind_count : (p.behind p.count.toNat).next? = none := by
  simp [behind, Batches.next?]

/-- The slices as a list, from their numbers. -/
def listed (p : BatchPlan) : List Batch :=
  (List.range p.count.toNat).map p.slice

theorem listed_drop (there : i < p.count.toNat) :
    p.listed.drop i = p.slice i :: p.listed.drop (i + 1) := by
  have inside : i < p.listed.length := by simpa [listed] using there
  rw [List.drop_eq_getElem_cons inside]
  simp [listed]

/-- `n` steps from slice `i` on give the next `n` slices, or all that are left, and stop right behind
them. -/
theorem take_behind (sized : Sized p) (within : i ≤ p.count.toNat) :
    (p.behind i).take n = ((p.listed.drop i).take n, p.behind (min (i + n) p.count.toNat)) := by
  induction n generalizing i with
  | zero => simp [Batches.take, within]
  | succ n ih =>
    by_cases last : i = p.count.toNat
    · have none_left : p.listed.drop i = [] := by simp [listed, last]
      have stays : min (i + (n + 1)) p.count.toNat = i := by omega
      rw [none_left, stays, List.take_nil, Batches.take, last, next?_behind_count]
    · have there : i < p.count.toNat := by omega
      have further : i + 1 + n = i + (n + 1) := by omega
      rw [Batches.take, next?_behind sized there, listed_drop there]
      simp only [ih (i := i + 1) there, List.take_succ_cons, further]

theorem slices_eq (sized : Sized p) : p.slices = p.listed := by
  have all := take_behind (n := p.count.toNat) sized (Nat.zero_le _)
  have length : p.listed.length = p.count.toNat := by simp [listed]
  rw [slices, show p.batches = p.behind 0 from rfl, all, List.drop_zero, ← length, List.take_length]

private theorem length_slices (sized : Sized p) : p.slices.length = p.count.toNat := by
  simp [slices_eq sized, listed]

private theorem getElem_slices (sized : Sized p) (within : i < p.slices.length) : p.slices[i] = p.slice i := by
  simp [slices_eq sized, listed]

/-! What a list of slices has to be, to cut the range of a plan. -/

/-- The slices are numbered from zero. They follow one another from zero up to the end of the range, none
of them is empty, no two overlap, and each unit of the range is in one of them. All have the size of a
batch but the last, which has the last size. -/
structure Tiled (p : BatchPlan) (slices : List Batch) : Prop where
  counted : slices.length = p.count.toNat
  empty : slices = [] ↔ p.total = 0
  numbered : slices.map (·.index.toNat) = List.range p.count.toNat
  filled : ∀ b ∈ slices, b.offset < b.stop
  start : ∀ b ∈ slices.head?, b.offset = 0
  consecutive : ∀ (i : Nat) (next : i + 1 < slices.length), slices[i].stop = slices[i + 1].offset
  finish : ∀ b ∈ slices.getLast?, b.stop = p.total
  disjoint : slices.Pairwise fun a b => a.stop ≤ b.offset
  covered : ∀ unit < p.total, ∃ b ∈ slices, b.offset ≤ unit ∧ unit < b.stop
  full : ∀ b ∈ slices.dropLast, b.size = p.batch
  last : ∀ b ∈ slices.getLast?, b.size = p.lastSize

/-- No step of the walk leaves 64 bits: nothing is divided by zero, the count is the quotient rounded up,
and what is subtracted is never more than what it is taken from. The product, the next number and the end
of the slice are only computed while there is another slice. -/
structure Exact (b : Batches) : Prop where
  divisor : b.plan.total ≠ 0 → b.plan.batch ≠ 0
  rounded : b.plan.count.toNat = b.plan.total.toNat / b.plan.batch.toNat +
    if b.plan.total.toNat % b.plan.batch.toNat = 0 then 0 else 1
  passed : b.next ≤ b.plan.count
  product : b.next < b.plan.count → b.next.toNat * b.plan.batch.toNat < 0x10000000000000000
  inside : b.next < b.plan.count → b.next * b.plan.batch ≤ b.plan.total
  further : b.next < b.plan.count → b.next.toNat + 1 < 0x10000000000000000
  stop : ∀ slice rest, b.next? = some (slice, rest) →
    slice.offset.toNat + slice.size.toNat < 0x10000000000000000

/-- Each unit of the range lies in the slice that its quotient by the batch names. -/
theorem slice_covers (sized : Sized p) {unit : Nat} (inside : unit < p.total.toNat) :
    ∃ i < p.count.toNat, (p.slice i).offset.toNat ≤ unit ∧ unit < (p.slice i).stop.toNat := by
  have units : p.total ≠ 0 := by
    intro none
    rw [none, UInt64.toNat_zero] at inside
    omega
  have before := Nat.div_mul_le_self unit p.batch.toNat
  have after := Nat.lt_mul_div_succ unit (sized.positive units)
  rw [Nat.mul_comm] at after
  have there : unit / p.batch.toNat < p.count.toNat := (lt_count_iff sized).2 (by omega)
  refine ⟨unit / p.batch.toNat, there, ?_, ?_⟩
  · rw [slice_offset sized there]
    exact before
  · rw [slice_stop sized there]
    omega

/-- The last slice takes what the others leave, which is the last size. -/
theorem lastSize_toNat (sized : Sized p) (final : i + 1 = p.count.toNat) :
    p.lastSize.toNat = p.total.toNat - i * p.batch.toNat := by
  have inside : i * p.batch.toNat < p.total.toNat := (lt_count_iff sized).1 (by omega)
  have outside : p.total.toNat ≤ (i + 1) * p.batch.toNat := by
    have beyond := lt_count_iff (j := i + 1) sized
    omega
  rw [Nat.succ_mul] at outside
  have some : p.batch ≠ 0 := by
    intro none
    rw [none, UInt64.toNat_zero] at inside outside
    omega
  obtain ⟨left, split⟩ : ∃ left, p.total.toNat = p.batch.toNat * i + left :=
    ⟨p.total.toNat - i * p.batch.toNat, by rw [Nat.mul_comm p.batch.toNat i]; omega⟩
  have remainder : (p.total % p.batch).toNat = left % p.batch.toNat := by
    rw [UInt64.toNat_mod, split, Nat.mul_add_mod]
  rw [Nat.mul_comm] at split
  by_cases whole : left = p.batch.toNat
  · have even : p.total % p.batch = 0 := by
      rw [← UInt64.toNat_inj, remainder, whole, Nat.mod_self, UInt64.toNat_zero]
    simp only [lastSize, some, even, if_true, if_false]
    omega
  · have cut : (p.total % p.batch).toNat = left := by
      rw [remainder]
      exact Nat.mod_eq_of_lt (by omega)
    have odd : p.total % p.batch ≠ 0 := by
      intro even
      rw [even, UInt64.toNat_zero] at cut
      omega
    simp only [lastSize, some, odd, if_false, cut]
    omega

private theorem mem_slices {b : Batch} (sized : Sized p) (member : b ∈ p.slices) :
    ∃ i < p.count.toNat, b = p.slice i := by
  rw [slices_eq sized] at member
  obtain ⟨i, within, rfl⟩ := List.mem_map.1 member
  exact ⟨i, List.mem_range.1 within, rfl⟩

private theorem mem_dropLast_slices {b : Batch} (sized : Sized p) (member : b ∈ p.slices.dropLast) :
    ∃ i, i + 1 < p.count.toNat ∧ b = p.slice i := by
  obtain ⟨i, within, rfl⟩ := List.getElem_of_mem member
  rw [List.length_dropLast, length_slices sized] at within
  exact ⟨i, by omega, by rw [List.getElem_dropLast, getElem_slices sized]⟩

private theorem getLast?_slices {b : Batch} (sized : Sized p) (member : b ∈ p.slices.getLast?) :
    ∃ i, i + 1 = p.count.toNat ∧ b = p.slice i := by
  rw [List.getLast?_eq_getElem?, Option.mem_def, List.getElem?_eq_some_iff] at member
  obtain ⟨within, rfl⟩ := member
  have length := length_slices sized
  exact ⟨p.slices.length - 1, by omega, getElem_slices sized within⟩

/-- A slice stops where the next one starts. -/
theorem slice_stop_next (sized : Sized p) (next : i + 1 < p.count.toNat) :
    (p.slice i).stop.toNat = (i + 1) * p.batch.toNat := by
  have inside := (lt_count_iff sized).1 next
  rw [slice_stop sized (by omega)]
  omega

private theorem slices_tiled (sized : Sized p) : Tiled p p.slices where
  counted := length_slices sized
  empty := by
    rw [← List.length_eq_zero_iff, length_slices sized, count_eq_zero_iff sized]
  numbered := by
    apply List.ext_getElem
    · simp [length_slices sized]
    · intro i within within'
      rw [List.getElem_map, getElem_slices sized, List.getElem_range]
      exact slice_index (by simpa using within')
  filled := by
    intro b member
    obtain ⟨i, there, rfl⟩ := mem_slices sized member
    have inside := (lt_count_iff sized).1 there
    have some : 0 < p.batch.toNat := sized.positive fun none => by simp [none] at inside
    rw [UInt64.lt_iff_toNat_lt, slice_offset sized there, slice_stop sized there, Nat.succ_mul]
    omega
  start := by
    intro b member
    rw [List.head?_eq_getElem?, Option.mem_def, List.getElem?_eq_some_iff] at member
    obtain ⟨within, rfl⟩ := member
    rw [← UInt64.toNat_inj, getElem_slices sized, slice_offset sized (length_slices sized ▸ within)]
    simp
  consecutive := by
    intro i next
    have there : i + 1 < p.count.toNat := length_slices sized ▸ next
    rw [← UInt64.toNat_inj, getElem_slices sized, getElem_slices sized, slice_stop_next sized there,
      slice_offset sized there]
  finish := by
    intro b member
    obtain ⟨i, final, rfl⟩ := getLast?_slices sized member
    have outside := lt_count_iff (j := i + 1) sized
    rw [← UInt64.toNat_inj, slice_stop sized (by omega)]
    omega
  disjoint := by
    rw [List.pairwise_iff_getElem]
    intro i j within within' before
    rw [length_slices sized] at within within'
    rw [getElem_slices sized, getElem_slices sized, UInt64.le_iff_toNat_le, slice_offset sized within',
      slice_stop_next sized (by omega)]
    exact Nat.mul_le_mul_right _ before
  covered := by
    intro unit inside
    rw [UInt64.lt_iff_toNat_lt] at inside
    obtain ⟨i, there, from_start, to_stop⟩ := slice_covers sized inside
    have member : p.slice i ∈ p.slices := by
      rw [slices_eq sized]
      exact List.mem_map_of_mem (List.mem_range.2 there)
    exact ⟨p.slice i, member, UInt64.le_iff_toNat_le.2 from_start, UInt64.lt_iff_toNat_lt.2 to_stop⟩
  full := by
    intro b member
    obtain ⟨i, next, rfl⟩ := mem_dropLast_slices sized member
    have inside := (lt_count_iff sized).1 next
    rw [Nat.succ_mul] at inside
    rw [← UInt64.toNat_inj, slice_size]
    omega
  last := by
    intro b member
    obtain ⟨i, final, rfl⟩ := getLast?_slices sized member
    have outside := lt_count_iff (j := i + 1) sized
    rw [Nat.succ_mul] at outside
    rw [← UInt64.toNat_inj, lastSize_toNat sized final, slice_size]
    omega

private theorem exact_behind (sized : Sized p) (within : i ≤ p.count.toNat) : Exact (p.behind i) := by
  have next : (UInt64.ofNat i).toNat = i :=
    UInt64.toNat_ofNat_of_lt' (Nat.lt_of_le_of_lt within p.count.toNat_lt)
  have range := p.total.toNat_lt
  have there : (p.behind i).next < p.count → i < p.count.toNat := by
    rw [UInt64.lt_iff_toNat_lt, behind, next]
    exact id
  have inside : (p.behind i).next < p.count → i * p.batch.toNat < p.total.toNat :=
    fun more => (lt_count_iff sized).1 (there more)
  constructor
  case divisor => exact sized.some
  case rounded => exact count_toNat sized
  case passed =>
    rw [UInt64.le_iff_toNat_le]
    simpa only [behind, next] using within
  case product =>
    intro more
    have := inside more
    simp only [behind, next]
    omega
  case inside =>
    intro more
    have small := inside more
    rw [UInt64.le_iff_toNat_le, UInt64.toNat_mul]
    simp only [behind, next]
    rw [Nat.mod_eq_of_lt (by omega)]
    omega
  case further =>
    intro more
    have := there more
    have := p.count.toNat_lt
    simp only [behind, next]
    omega
  case stop =>
    intro slice rest found
    have more : i < p.count.toNat := by
      apply Nat.lt_of_le_of_ne within
      rintro rfl
      rw [next?_behind_count] at found
      cases found
    have inside := (lt_count_iff sized).1 more
    rw [next?_behind sized more] at found
    cases found
    rw [slice_offset sized more, slice_size]
    omega

private theorem left_behind (within : i ≤ p.count.toNat) : (p.behind i).left = p.count.toNat - i := by
  have next : (UInt64.ofNat i).toNat = i :=
    UInt64.toNat_ofNat_of_lt' (Nat.lt_of_le_of_lt within p.count.toNat_lt)
  have passed : UInt64.ofNat i ≤ p.count := by
    rw [UInt64.le_iff_toNat_le, next]
    exact within
  rw [Batches.left, behind, UInt64.toNat_sub_of_le _ _ passed, next]

private theorem next?_behind_eq_none (sized : Sized p) (within : i ≤ p.count.toNat) :
    (p.behind i).next? = none ↔ p.count.toNat ≤ i := by
  constructor
  · intro stopped
    apply Nat.le_of_not_lt
    intro there
    rw [next?_behind sized there] at stopped
    cases stopped
  · intro last
    rw [Nat.le_antisymm within last]
    exact next?_behind_count

/-- Any total and any batch make a plan whose slices cut the range from zero to the total: as many as the
plan counts, numbered from zero, none empty, each where the one before it stops, all of them one batch but
the last. Walking over the plan gives just these slices in order and then no more. After any number of
steps the walk knows how many are still to come, and its next step computes nothing beyond 64 bits. -/
theorem of_tiles (total batch : UInt64) :
    let p : BatchPlan := BatchPlan.of total batch
    p.total = total ∧ p.batch = (if batch = 0 ∨ total < batch then total else batch) ∧
      p.lastSize = (if total % p.batch = 0 then p.batch else total % p.batch) ∧
      Tiled p p.slices ∧
      ∀ steps : Nat, (p.batches.take steps).1 = p.slices.take steps ∧
        (p.batches.take steps).2.left = (p.slices.drop steps).length ∧
        ((p.batches.take steps).2.next? = none ↔ p.slices.length ≤ steps) ∧
        Exact (p.batches.take steps).2 := by
  intro p
  have sized : Sized p := sized_of total batch
  refine ⟨rfl, rfl, ?_, slices_tiled sized, ?_⟩
  · by_cases none : p.batch = 0
    · have empty : total = 0 := Decidable.byContradiction fun units => sized.some units none
      simp [lastSize, none, empty]
    · simp only [lastSize, none, if_false]
      rfl
  · intro steps
    have length := length_slices sized
    have within : min steps p.count.toNat ≤ p.count.toNat := Nat.min_le_right ..
    have walked := take_behind (n := steps) sized (Nat.zero_le p.count.toNat)
    rw [Nat.zero_add, List.drop_zero, ← slices_eq sized] at walked
    rw [show p.batches = p.behind 0 from rfl, walked]
    refine ⟨rfl, ?_, ?_, exact_behind sized within⟩
    · rw [left_behind within, List.length_drop, length]
      omega
    · rw [next?_behind_eq_none sized within, length]
      omega

/-- Two batches, the second of which ends with the last number of 64 bits. -/
example : (of 0xFFFFFFFFFFFFFFFF 0x8000000000000000).slices =
    [⟨0, 0, 0x8000000000000000⟩, ⟨1, 0x8000000000000000, 0x7FFFFFFFFFFFFFFF⟩] := by
  decide

end BatchPlan
end Offload
