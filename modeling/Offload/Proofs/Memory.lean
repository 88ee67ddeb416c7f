import Mathlib.Logic.Relation
import Offload.Kernel.Program
import Offload.Proofs.Operations

/-! What a memory may become. Ids only go up and a buffer keeps its size while it lives, whatever is
allocated, freed, overwritten or cleared, and whatever a kernel does. A holder of a buffer can
therefore rely on its size, but not on its life. -/
namespace Offload.Memory

variable {m m' before after : Memory} {b : DeviceBuffer} {id : BufferId} {size : Nat} {data : Bytes}

/-- The buffer was handed out by this memory: its id is used up, and if it still lives, it has the
size that the holder knows. -/
def Issued (m : Memory) (b : DeviceBuffer) : Prop :=
  b.id < m.nextId ∧ ∀ held, m.buffers.get? b.id = some held → held.size = b.size

def Live (m : Memory) (b : DeviceBuffer) : Prop :=
  ∃ held, m.buffers.get? b.id = some held ∧ held.size = b.size

/-- Under an id that is used already there is later the same size or nothing. -/
structure Grows (before after : Memory) : Prop where
  nextId : before.nextId ≤ after.nextId
  sizes : ∀ id held, id < before.nextId → after.buffers.get? id = some held →
    ∃ earlier, before.buffers.get? id = some earlier ∧ earlier.size = held.size

instance : Op.Transition Grows where
  refl _ := ⟨Nat.le_refl _, fun _ held _ found => ⟨held, found, rfl⟩⟩
  trans first second := by
    refine ⟨Nat.le_trans first.nextId second.nextId, ?_⟩
    intro id held used found
    obtain ⟨middle, foundMiddle, sameMiddle⟩ :=
      second.sizes id held (Nat.lt_of_lt_of_le used first.nextId) found
    obtain ⟨earlier, foundEarlier, sameEarlier⟩ := first.sizes id middle used foundMiddle
    exact ⟨earlier, foundEarlier, sameEarlier.trans sameMiddle⟩

/-- A buffer that was handed out once stays handed out. -/
theorem issued_later (issued : before.Issued b) (grows : Grows before after) : after.Issued b := by
  refine ⟨Nat.lt_of_lt_of_le issued.1 grows.nextId, ?_⟩
  intro held found
  obtain ⟨earlier, foundEarlier, same⟩ := grows.sizes _ held issued.1 found
  exact same ▸ issued.2 earlier foundEarlier

/-- The same buffers are there, of the same sizes; only their bytes may differ. -/
structure Overwrites (before after : Memory) : Prop where
  capacity : after.capacity = before.capacity
  nextId : after.nextId = before.nextId
  allocated : after.allocated = before.allocated
  sizes : ∀ id, (after.buffers.get? id).map Buffer.size = (before.buffers.get? id).map Buffer.size

instance : Op.Transition Overwrites where
  refl _ := ⟨rfl, rfl, rfl, fun _ => rfl⟩
  trans first second :=
    ⟨second.capacity.trans first.capacity, second.nextId.trans first.nextId,
      second.allocated.trans first.allocated, fun id => (second.sizes id).trans (first.sizes id)⟩

/-- Written memory hands out what it did before. -/
theorem Overwrites.grows (overwrites : Overwrites before after) : Grows before after := by
  refine ⟨Nat.le_of_eq overwrites.nextId.symm, ?_⟩
  intro id held _ found
  have sizes := overwrites.sizes id
  rw [found] at sizes
  exact Option.map_eq_some_iff.1 sizes.symm

theorem live_iff : m.Live b ↔ (m.buffers.get? b.id).map Buffer.size = some b.size :=
  Option.map_eq_some_iff.symm

/-- Writing keeps the same buffers alive. -/
theorem Overwrites.live (overwrites : Overwrites before after) : after.Live b ↔ before.Live b := by
  rw [live_iff, live_iff, overwrites.sizes]

/-! ### Single operations -/

/-- A buffer can be given back if it is there, and then it is gone and its bytes are free. -/
theorem free_ok_iff :
    m.free id = .ok (size, m') ↔ ∃ held, m.buffers.get? id = some held ∧ held.size = size ∧
      m' = { m with buffers := m.buffers.erase id, allocated := m.allocated - held.size } := by
  unfold free
  rcases m.buffers.get? id with _ | held
  · simp
  · simp only [Except.ok.injEq, Prod.mk.injEq, Option.some.injEq, exists_eq_left']
    exact and_congr_right fun _ => eq_comm

theorem grows_erase (m : Memory) (id allocated : Nat) :
    Grows m { m with buffers := m.buffers.erase id, allocated } := by
  refine ⟨Nat.le_refl _, ?_⟩
  intro other held _ found
  simp only [Table.get?_erase] at found
  split at found
  · cases found
  · exact ⟨held, found, rfl⟩

/-- A buffer that was given back is not handed out again. -/
theorem grows_free (ran : m.free id = .ok (size, m')) : Grows m m' := by
  obtain ⟨held, _, _, rfl⟩ := free_ok_iff.1 ran
  exact grows_erase m id _

/-- A write changes the bytes of one buffer. -/
theorem overwrites_write (ran : m.write id data = .ok m') : Overwrites m m' := by
  unfold write buffer at ran
  rcases found : m.buffers.get? id with _ | held <;> rw [found] at ran
  · cases ran
  · simp only [bind, Except.bind] at ran
    rcases written : held.overwrite? data with _ | new <;> rw [written] at ran <;> cases ran
    refine ⟨rfl, rfl, rfl, ?_⟩
    intro other
    simp only [Table.get?_insert]
    split
    · next same => simp [← same, found, Buffer.size_of_overwrite? written]
    · rfl

theorem grows_addBuffer (m : Memory) (size : Nat) : Grows m (m.addBuffer size).2 := by
  refine ⟨Nat.le_succ _, ?_⟩
  intro id held used found
  simp only [addBuffer, Table.get?_insert] at found
  rw [if_neg (Nat.ne_of_gt used)] at found
  exact ⟨held, found, rfl⟩

theorem grows_clear (m : Memory) : Grows m m.clear :=
  ⟨Nat.le_refl _, fun _ _ _ found => nomatch found⟩

/-! ### Several new buffers -/

/-- Buffers are added one after the other. -/
theorem addBuffers_cons (m : Memory) (size : Nat) (sizes : List Nat) :
    m.addBuffers (size :: sizes) =
      (⟨m.nextId, size⟩ :: ((m.addBuffer size).2.addBuffers sizes).1,
        ((m.addBuffer size).2.addBuffers sizes).2) := rfl

private theorem grows_addBuffers (m : Memory) (sizes : List Nat) : Grows m (m.addBuffers sizes).2 := by
  induction sizes generalizing m with
  | nil => exact Op.Transition.refl m
  | cons size sizes ih => exact Op.Transition.trans (grows_addBuffer m size) (ih _)

/-- The buffers have the requested sizes, in order. -/
theorem addBuffers_sizes (m : Memory) (sizes : List Nat) :
    (m.addBuffers sizes).1.map DeviceBuffer.size = sizes := by
  induction sizes generalizing m with
  | nil => rfl
  | cons size sizes ih => rw [addBuffers_cons, List.map_cons, ih]

/-- Their ids are new. -/
theorem addBuffers_fresh (m : Memory) (sizes : List Nat) :
    ∀ b ∈ (m.addBuffers sizes).1, m.nextId ≤ b.id := by
  induction sizes generalizing m with
  | nil => simp [addBuffers]
  | cons size sizes ih =>
    intro b member
    rw [addBuffers_cons] at member
    rcases List.mem_cons.1 member with rfl | later
    · exact Nat.le_refl _
    · exact Nat.le_of_succ_le (ih _ b later)

/-- Their ids are different. -/
theorem addBuffers_ids (m : Memory) (sizes : List Nat) :
    (m.addBuffers sizes).1.Pairwise fun a b => a.id ≠ b.id := by
  induction sizes generalizing m with
  | nil => exact List.Pairwise.nil
  | cons size sizes ih =>
    rw [addBuffers_cons]
    refine List.pairwise_cons.2 ⟨?_, ih _⟩
    intro b member
    exact Nat.ne_of_lt (addBuffers_fresh _ sizes b member)

theorem reserve_ok_iff {u : Unit} : m.reserve size = .ok u ↔ size ≤ m.available := by
  unfold reserve
  split
  · next short => simp [Nat.not_le.2 short]
  · next enough => simp [Nat.not_lt.1 enough]

/-- An allocation succeeds if there is room for all of it, and then adds every buffer. -/
theorem allocate_ok_iff {sizes : List Nat} {buffers : List DeviceBuffer} :
    m.allocate sizes = .ok (buffers, m') ↔
      sizes.sum ≤ m.available ∧ m.addBuffers sizes = (buffers, m') := by
  unfold allocate reserve
  by_cases short : m.available < sizes.sum
  · rw [if_pos short]
    constructor
    · intro ran
      cases ran
    · intro ⟨enough, _⟩
      exact absurd enough (Nat.not_le.2 short)
  · rw [if_neg short]
    constructor
    · intro ran
      exact ⟨Nat.not_lt.1 short, Except.ok.inj ran⟩
    · intro ⟨_, added⟩
      exact congrArg Except.ok added

/-- An allocation hands out new buffers only. -/
theorem grows_allocate {sizes : List Nat} {buffers : List DeviceBuffer}
    (ran : m.allocate sizes = .ok (buffers, m')) : Grows m m' := by
  obtain ⟨_, added⟩ := allocate_ok_iff.1 ran
  have grows := grows_addBuffers m sizes
  rw [added] at grows
  exact grows

/-- What lives already is not touched. -/
theorem addBuffers_get? (m : Memory) (sizes : List Nat) (used : id < m.nextId) :
    (m.addBuffers sizes).2.buffers.get? id = m.buffers.get? id := by
  induction sizes generalizing m with
  | nil => rfl
  | cons size sizes ih =>
    rw [addBuffers_cons, ih _ (Nat.lt_succ_of_lt used)]
    simp only [addBuffer, Table.get?_insert]
    rw [if_neg (Nat.ne_of_gt used)]

/-- New buffers hold zeros. -/
theorem addBuffers_zeroed (m : Memory) (sizes : List Nat) :
    ∀ b ∈ (m.addBuffers sizes).1, b.id < (m.addBuffers sizes).2.nextId ∧
      (m.addBuffers sizes).2.buffers.get? b.id = some (.zeroed b.size) := by
  induction sizes generalizing m with
  | nil => simp [addBuffers]
  | cons size sizes ih =>
    intro b member
    rw [addBuffers_cons] at member
    rcases List.mem_cons.1 member with rfl | later
    · have used : m.nextId < (m.addBuffer size).2.nextId := Nat.lt_succ_self _
      refine ⟨Nat.lt_of_lt_of_le used (grows_addBuffers _ sizes).nextId, ?_⟩
      rw [addBuffers_cons, addBuffers_get? _ _ used]
      simp [addBuffer, Table.get?_insert]
    · exact ih _ b later

/-- Added buffers are numbered and alive. -/
theorem addBuffers_live (m : Memory) (sizes : List Nat) :
    ∀ b ∈ (m.addBuffers sizes).1, b.id < (m.addBuffers sizes).2.nextId ∧
      (m.addBuffers sizes).2.Live b := by
  intro b member
  obtain ⟨used, zeroed⟩ := addBuffers_zeroed m sizes b member
  exact ⟨used, .zeroed b.size, zeroed, rfl⟩

theorem issued_of_live (used : b.id < m.nextId) (live : m.Live b) : m.Issued b := by
  refine ⟨used, ?_⟩
  intro held found
  obtain ⟨held', found', same⟩ := live
  rw [found] at found'
  cases found'
  exact same

/-! ### What a buffer holds -/

theorem contents_ok_iff : m.contents id = .ok data ↔ ∃ held, m.buffers.get? id = some held ∧ held.bytes = data := by
  unfold contents buffer
  rcases m.buffers.get? id with _ | held <;> simp [bind, Except.bind, pure, Except.pure]

/-- New buffers hold zeros. -/
theorem contents_addBuffer (m : Memory) (size : Nat) :
    (m.addBuffer size).2.contents m.nextId = .ok (Bytes.zeros size) := by
  refine contents_ok_iff.2 ⟨.zeroed size, ?_, Buffer.bytes_zeroed size⟩
  rw [addBuffer, Table.get?_insert, if_pos rfl]

/-- A write that fits replaces the first bytes. -/
theorem write_contents {old : Bytes} (holds : m.contents id = .ok old) (fits : data.length ≤ old.length) :
    ∃ m', m.write id data = .ok m' ∧ m'.contents id = .ok (data ++ old.drop data.length) := by
  obtain ⟨held, found, rfl⟩ := contents_ok_iff.1 holds
  rw [Buffer.length_bytes] at fits
  rcases written : held.overwrite? data with _ | new
  · rw [Buffer.overwrite?, dif_pos fits] at written
    cases written
  refine ⟨{ m with buffers := m.buffers.insert id new }, ?_, ?_⟩
  · simp [write, buffer, found, written, bind, Except.bind, pure, Except.pure]
  · refine contents_ok_iff.2 ⟨new, ?_, Buffer.bytes_of_overwrite? written⟩
    rw [Table.get?_insert, if_pos rfl]

/-- A write that succeeds has fitted, and what it finds is kept behind it. -/
theorem write_ok (ran : m.write id data = .ok m') :
    ∃ old, m.contents id = .ok old ∧ data.length ≤ old.length ∧
      m'.contents id = .ok (data ++ old.drop data.length) := by
  rcases found : m.buffers.get? id with _ | held
  · simp [write, buffer, found, bind, Except.bind] at ran
  have holds : m.contents id = .ok held.bytes := contents_ok_iff.2 ⟨held, found, rfl⟩
  by_cases fits : data.length ≤ held.bytes.length
  · obtain ⟨after, written, holds'⟩ := write_contents holds fits
    rw [written] at ran
    cases ran
    exact ⟨held.bytes, holds, fits, holds'⟩
  · rw [Buffer.length_bytes] at fits
    simp [write, buffer, found, Buffer.overwrite?, fits, bind, Except.bind] at ran

/-- A write that does not fit is refused. -/
theorem write_outOfBounds {old : Bytes} (holds : m.contents id = .ok old) (short : old.length < data.length) :
    m.write id data = .error (.outOfBounds 0 data.length old.length) := by
  obtain ⟨held, found, rfl⟩ := contents_ok_iff.1 holds
  rw [Buffer.length_bytes] at short ⊢
  simp [write, buffer, found, Buffer.overwrite?, Nat.not_le.2 short, bind, Except.bind]

/-- A write leaves all other buffers alone. -/
theorem write_other {other : BufferId} (ran : m.write id data = .ok m') (different : other ≠ id) :
    m'.contents other = m.contents other := by
  rcases found : m.buffer id with e | held
  · simp [write, found, bind, Except.bind] at ran
  rcases written : held.overwrite? data with _ | new
  · simp [write, found, written, bind, Except.bind] at ran
  simp only [write, found, written, bind, Except.bind, pure, Except.pure, Except.ok.injEq] at ran
  cases ran
  simp only [contents, buffer, Table.get?_insert, if_neg different.symm]

/-- What is read are the first bytes. -/
theorem read_contents {old : Bytes} {count : Nat} (holds : m.contents id = .ok old)
    (fits : count ≤ old.length) : m.read id count = .ok (old.take count) := by
  obtain ⟨held, found, rfl⟩ := contents_ok_iff.1 holds
  rw [Buffer.length_bytes] at fits
  simp [read, buffer, found, fits, Buffer.first_eq_take, bind, Except.bind, pure, Except.pure]

/-- A read that does not fit is refused. -/
theorem read_outOfBounds {old : Bytes} {count : Nat} (holds : m.contents id = .ok old)
    (short : old.length < count) : m.read id count = .error (.outOfBounds 0 count old.length) := by
  obtain ⟨held, found, rfl⟩ := contents_ok_iff.1 holds
  rw [Buffer.length_bytes] at short ⊢
  simp [read, buffer, found, Nat.not_le.2 short, bind, Except.bind]

/-! ### Changes -/

/-- One change of a memory. Room is asked for before a buffer is added. -/
inductive Change : Memory → Memory → Prop where
  | add {m : Memory} {size : Nat} (room : size ≤ m.available) : Change m (m.addBuffer size).2
  | free {m m' : Memory} {id : BufferId} {size : Nat} (ran : m.free id = .ok (size, m')) : Change m m'
  | write {m m' : Memory} {id : BufferId} {data : Bytes} (ran : m.write id data = .ok m') : Change m m'
  | clear (m : Memory) : Change m m.clear

/-- One change after another. -/
def Changes : Memory → Memory → Prop :=
  Relation.ReflTransGen Change

instance : Op.Transition Changes where
  refl _ := .refl
  trans := .trans

theorem Change.changes (change : Change m m') : Changes m m' :=
  .single change

/-- A buffer takes its size off the free bytes. -/
theorem available_addBuffer (m : Memory) (size : Nat) : (m.addBuffer size).2.available = m.available - size :=
  Nat.sub_add_eq ..

/-- When there is room for all of several buffers, there is room for each of them in its turn. -/
theorem moves_addBuffers {R : Memory → Memory → Prop} [Op.Transition R]
    (adds : ∀ {m : Memory} {size : Nat}, size ≤ m.available → R m (m.addBuffer size).2) (m : Memory)
    {sizes : List Nat} (room : sizes.sum ≤ m.available) : R m (m.addBuffers sizes).2 := by
  induction sizes generalizing m with
  | nil => exact Op.Transition.refl m
  | cons size sizes ih =>
    rw [List.sum_cons] at room
    have left : sizes.sum ≤ (m.addBuffer size).2.available := by
      rw [available_addBuffer]
      omega
    exact Op.Transition.trans (adds (by omega)) (ih _ left)

/-- An allocation moves by what each buffer moves by, as each finds room. -/
theorem moves_allocate {R : Memory → Memory → Prop} [Op.Transition R]
    (adds : ∀ {m : Memory} {size : Nat}, size ≤ m.available → R m (m.addBuffer size).2) {sizes : List Nat}
    {buffers : List DeviceBuffer} (ran : m.allocate sizes = .ok (buffers, m')) : R m m' := by
  obtain ⟨room, added⟩ := allocate_ok_iff.1 ran
  have moved := moves_addBuffers adds m room
  rw [added] at moved
  exact moved

/-! ### Kernels -/

/-- Whatever a kernel does to the memory, it does by writes. -/
theorem moves_run {R : Memory → Memory → Prop} [Op.Transition R]
    (writes : ∀ {m m' : Memory} {id : BufferId} {data : Bytes}, m.write id data = .ok m' → R m m')
    (v : Invocation) (program : KernelProgram α) (m : Memory) : R m (program.run v m).memory := by
  induction program generalizing m with
  | done value => exact Op.Transition.refl m
  | fail error => exact Op.Transition.refl m
  | read index next ih => exact ih _ m
  | readAtomics next ih => exact ih _ m
  | report entry next ih => exact ih m
  | write index data next ih =>
    simp only [KernelProgram.run, Invocation.overwrite]
    rcases v.bufferId index with e | id
    · exact ih _ m
    · simp only [bind, Except.bind]
      rcases ran : m.write id data with e | m'
      · exact ih _ m
      · exact Op.Transition.trans (writes ran) (ih _ m')
  | writeAtomics data next ih =>
    simp only [KernelProgram.run, Invocation.overwriteAtomics]
    rcases v.atomicsId with e | id
    · exact ih _ m
    · simp only [bind, Except.bind]
      rcases ran : m.write id data with e | m'
      · exact ih _ m
      · exact Op.Transition.trans (writes ran) (ih _ m')

end Offload.Memory
