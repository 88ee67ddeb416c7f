import Offload.Proofs.Handles

/-! The books of a device memory. The count of the allocated bytes is kept apart from the buffers, and the
writes of atomics free and allocate on their own. Still the count is at all times what the live buffers come
to, so room that was found is there, and nothing is taken off the count that was not put on it. -/
namespace Offload
namespace Memory

variable {m m' : Memory} {size : Nat}

/-- The bytes of all buffers that live. -/
def liveBytes (m : Memory) : Nat :=
  (m.buffers.values.map fun b => b.bytes.length).sum

/-- The count is right and within the capacity. Each live buffer is listed once, under an id that was given
out. -/
structure Balanced (m : Memory) : Prop where
  listed : m.buffers.Ascending
  issued : ∀ id held, m.buffers.get? id = some held → id < m.nextId
  counted : m.allocated = m.liveBytes
  fits : m.allocated ≤ m.capacity

/-- A change with the numbers that it works out: what is added to the count stays within the capacity, and
what is taken off is not more than the count. -/
inductive Entry : Memory → Memory → Prop where
  | add {m : Memory} {size : Nat} (fits : m.allocated + size ≤ m.capacity) : Entry m (m.addBuffer size).2
  | free {m : Memory} {id : BufferId} {held : Buffer} (found : m.buffers.get? id = some held)
      (covered : held.bytes.length ≤ m.allocated) :
      Entry m { m with buffers := m.buffers.erase id, allocated := m.allocated - held.bytes.length }
  | write {m m' : Memory} {id : BufferId} {data : Bytes} (ran : m.write id data = .ok m') : Entry m m'
  | clear (m : Memory) : Entry m m.clear

/-- One entry after another. -/
def Entries : Memory → Memory → Prop :=
  Relation.ReflTransGen Entry

private theorem balanced_start (capacity : Nat) : Balanced { capacity } where
  listed := List.Pairwise.nil
  issued _ _ found := nomatch found
  counted := rfl
  fits := Nat.zero_le _

private theorem Balanced.clear (m : Memory) : Balanced m.clear where
  listed := List.Pairwise.nil
  issued _ _ found := nomatch found
  counted := rfl
  fits := Nat.zero_le _

/-- No buffer lives under the next id yet. -/
theorem Balanced.unused (balanced : m.Balanced) : m.buffers.get? m.nextId = none := by
  rcases found : m.buffers.get? m.nextId with _ | held
  · rfl
  · exact absurd (balanced.issued _ held found) (Nat.lt_irrefl _)

private theorem Balanced.addBuffer (balanced : m.Balanced) (fits : m.allocated + size ≤ m.capacity) :
    Balanced (m.addBuffer size).2 where
  listed := balanced.listed.insert _ _
  issued id held found := by
    rcases Table.get?_insert_cases found with ⟨rfl, _⟩ | ⟨_, old⟩
    · exact Nat.lt_succ_self _
    · exact Nat.lt_succ_of_lt (balanced.issued id held old)
  counted := by
    have sum := balanced.listed.sum_insert (fun b => b.bytes.length) m.nextId (.zeroed size)
    have length : (Buffer.zeroed size).bytes.length = size := Buffer.length_bytes _
    have count := balanced.counted
    simp only [balanced.unused, length, Option.map_none, Option.getD_none, Nat.add_zero] at sum
    simp only [Memory.addBuffer, liveBytes, sum] at count ⊢
    omega
  fits := fits

/-- A live buffer is part of the count. -/
theorem Balanced.erase {id : BufferId} {held : Buffer} (balanced : m.Balanced)
    (found : m.buffers.get? id = some held) :
    held.bytes.length ≤ m.allocated ∧
      Balanced { m with buffers := m.buffers.erase id, allocated := m.allocated - held.bytes.length } := by
  have sum := balanced.listed.sum_erase (fun b => b.bytes.length) id
  have count := balanced.counted
  have fits := balanced.fits
  simp only [found, Option.map_some, Option.getD_some] at sum
  simp only [liveBytes] at count
  constructor
  · omega
  · constructor
    case listed => exact balanced.listed.erase id
    case issued =>
      intro other held' found'
      simp only [Table.get?_erase] at found'
      split at found'
      · cases found'
      · exact balanced.issued other held' found'
    case counted =>
      simp only [liveBytes]
      omega
    case fits =>
      show m.allocated - held.bytes.length ≤ m.capacity
      omega

private theorem Balanced.write {id : BufferId} {data : Bytes} (balanced : m.Balanced) (ran : m.write id data = .ok m') :
    Balanced m' := by
  unfold Memory.write buffer at ran
  rcases found : m.buffers.get? id with _ | held <;> rw [found] at ran
  · cases ran
  simp only [bind, Except.bind] at ran
  rcases written : held.overwrite? data with _ | new <;> rw [written] at ran <;> cases ran
  have same : new.bytes.length = held.bytes.length := by
    rw [Buffer.length_bytes, Buffer.length_bytes, Buffer.size_of_overwrite? written]
  have sum := balanced.listed.sum_insert (fun b => b.bytes.length) id new
  have count := balanced.counted
  simp only [found, Option.map_some, Option.getD_some, same] at sum
  simp only [liveBytes] at count
  constructor
  case listed => exact balanced.listed.insert id new
  case issued =>
    intro other held' found'
    rcases Table.get?_insert_cases found' with ⟨rfl, _⟩ | ⟨_, old⟩
    · exact balanced.issued _ held found
    · exact balanced.issued other held' old
  case counted =>
    simp only [liveBytes]
    omega
  case fits => exact balanced.fits

/-- From balanced books on, a change keeps its numbers in range and leaves balanced books. -/
theorem Balanced.change (balanced : m.Balanced) (change : Change m m') : Entry m m' ∧ Balanced m' := by
  cases change with
  | @add size room =>
    have fits : m.allocated + size ≤ m.capacity := by
      have within := balanced.fits
      rw [available] at room
      omega
    exact ⟨.add fits, balanced.addBuffer fits⟩
  | free ran =>
    obtain ⟨held, found, _, rfl⟩ := free_ok_iff.1 ran
    have books := balanced.erase found
    rw [← Buffer.length_bytes held]
    exact ⟨.free found books.1, books.2⟩
  | write ran => exact ⟨.write ran, balanced.write ran⟩
  | clear => exact ⟨.clear m, .clear m⟩

/-- So do any number of them. -/
theorem Balanced.changes (balanced : m.Balanced) (changes : Changes m m') : Entries m m' ∧ Balanced m' := by
  induction changes with
  | refl => exact ⟨.refl, balanced⟩
  | tail _ change ih =>
    obtain ⟨entries, books⟩ := ih
    obtain ⟨entry, books'⟩ := books.change change
    exact ⟨entries.tail entry, books'⟩

/-! ### Several new buffers -/

/-- Buffers of these sizes one after the other, each with a check of its own. -/
def addInTurn (m : Memory) : List Nat → Except DeviceError (List DeviceBuffer × Memory)
  | [] => .ok ([], m)
  | size :: sizes => do
    m.reserve size
    let (buffer, m) := m.addBuffer size
    let (buffers, m) ← m.addInTurn sizes
    pure (buffer :: buffers, m)

/-- When the total fits, none of these checks fails. -/
theorem addInTurn_of_fits (m : Memory) {sizes : List Nat} (room : sizes.sum ≤ m.available) :
    m.addInTurn sizes = .ok (m.addBuffers sizes) := by
  induction sizes generalizing m with
  | nil => rfl
  | cons size sizes ih =>
    rw [List.sum_cons] at room
    have first : m.reserve size = .ok () := reserve_ok_iff.2 (by omega)
    have left : sizes.sum ≤ (m.addBuffer size).2.available := by
      rw [available_addBuffer]
      omega
    rw [addInTurn, first, addBuffers_cons]
    simp only [bind, Except.bind, ih _ left]
    rfl

/-- So the check of the total decides alone. -/
theorem allocate_eq_addInTurn (m : Memory) (sizes : List Nat) :
    m.allocate sizes = (m.reserve sizes.sum).bind fun _ => m.addInTurn sizes := by
  rcases reserved : m.reserve sizes.sum with e | u
  · simp [allocate, reserved, bind, Except.bind]
  · have room := reserve_ok_iff.1 reserved
    simp [allocate, reserved, addInTurn_of_fits m room, bind, Except.bind, pure, Except.pure]

/-- Everything but the new buffers stays as it is. -/
theorem addBuffers_other (m : Memory) (sizes : List Nat) {id : BufferId}
    (other : ∀ b ∈ (m.addBuffers sizes).1, b.id ≠ id) :
    (m.addBuffers sizes).2.buffers.get? id = m.buffers.get? id := by
  induction sizes generalizing m with
  | nil => rfl
  | cons size sizes ih =>
    rw [addBuffers_cons] at other ⊢
    have first : m.nextId ≠ id := other _ List.mem_cons_self
    rw [ih _ fun b member => other b (List.mem_cons_of_mem _ member)]
    simp only [Memory.addBuffer, Table.get?_insert, first, if_false]

end Memory

namespace Device

variable {d d' : Device}

/-- The memory goes through changes. -/
def Rewrites (before after : Device) : Prop :=
  before.memory.Changes after.memory

instance : Op.Transition Rewrites where
  refl d := Op.Transition.refl d.memory
  trans := Relation.ReflTransGen.trans

instance : Tolerates [] Rewrites where
  change _ change := by
    cases change with
    | add room | renew room => exact (Memory.Change.add room).changes
    | free ran | vacate _ ran => exact (Memory.Change.free ran).changes
    | write ran => exact (Memory.Change.write ran).changes
    | reset => exact (Memory.Change.clear _).changes
    | _ => exact Op.Transition.refl (R := Memory.Changes) _

/-- Whatever a device is asked for, and whether it does it or not, its memory goes through changes. -/
theorem rewrites_command (command : DeviceCommand) : Op.Moves command.run Rewrites :=
  command.within (by simp)

private theorem balanced_of_past {issued : List Handle} (past : Past d issued) : d.memory.Balanced := by
  induction past with
  | start info deferred => exact Memory.balanced_start info.globalMemory
  | step _ command ih => exact (ih.changes (rewrites_command command _)).2

/-- An allocation came to what it was asked for: a new buffer with zeros for each size, in order, and nothing
else is touched. No handle that was issued before names one of the new buffers. -/
structure Created (issued : List Handle) (sizes : List Nat) (before after : Device)
    (buffers : List DeviceBuffer) : Prop where
  sizes : buffers.map DeviceBuffer.size = sizes
  zeroed : ∀ b ∈ buffers, after.memory.contents b.id = .ok (Bytes.zeros b.size)
  unused : ∀ b ∈ buffers, before.memory.buffers.get? b.id = none
  new : ∀ b ∈ buffers, ∀ h ∈ issued, h.Apart (.buffer b)
  distinct : buffers.Pairwise fun a b => a.id ≠ b.id
  others : ∀ id, (∀ b ∈ buffers, b.id ≠ id) →
    after.memory.buffers.get? id = before.memory.buffers.get? id

private theorem allocate_fits {sizes : List Nat} (room : sizes.sum ≤ d.memory.available) :
    (allocate sizes d).result = .ok (d.memory.addBuffers sizes).1 ∧
      (allocate sizes d).state.memory = (d.memory.addBuffers sizes).2 := by
  have ran : d.memory.allocate sizes = .ok (d.memory.addBuffers sizes) :=
    Memory.allocate_ok_iff.2 ⟨room, rfl⟩
  have done : onMemory (fun m => m.allocate sizes) d =
      ⟨.ok (d.memory.addBuffers sizes).1, { d with memory := (d.memory.addBuffers sizes).2 }, []⟩ := by
    rw [onMemory_run, ran]
  unfold allocate
  rw [Op.bind_ok done]
  exact ⟨rfl, rfl⟩

private theorem allocate_short {sizes : List Nat} (short : d.memory.available < sizes.sum) :
    allocate sizes d = ⟨.error (.outOfMemory sizes.sum d.memory.available), d, []⟩ := by
  have refused : d.memory.allocate sizes = .error (.outOfMemory sizes.sum d.memory.available) := by
    simp [Memory.allocate, Memory.reserve, short, bind, Except.bind]
  have failed : onMemory (fun m => m.allocate sizes) d =
      ⟨.error (.outOfMemory sizes.sum d.memory.available), d, []⟩ := by
    rw [onMemory_run, refused]
  unfold allocate
  rw [Op.bind_error failed]

private theorem created_allocate {issued : List Handle} (past : Past d issued) {sizes : List Nat}
    (room : sizes.sum ≤ d.memory.available) :
    ∃ buffers, (allocate sizes d).result = .ok buffers ∧ Created issued sizes d (allocate sizes d).state buffers := by
  obtain ⟨done, memory⟩ := allocate_fits room
  have between := (hands_allocate sizes d).2 _ done
  have fresh := Memory.addBuffers_fresh d.memory sizes
  refine ⟨_, done, ?_⟩
  constructor
  case sizes => exact Memory.addBuffers_sizes d.memory sizes
  case zeroed =>
    intro b member
    rw [memory, Memory.contents_ok_iff]
    exact ⟨.zeroed b.size, (Memory.addBuffers_zeroed d.memory sizes b member).2, Buffer.bytes_zeroed b.size⟩
  case unused =>
    intro b member
    rcases found : d.memory.buffers.get? b.id with _ | held
    · rfl
    · have used := (balanced_of_past past).issued _ held found
      exact absurd used (Nat.not_lt.2 (fresh b member))
  case new =>
    intro b member h handed
    have behind := (tracked_of_past past).behind h handed
    exact apart_of_behind behind (between.ahead _ (List.mem_map_of_mem member))
  case distinct => exact Memory.addBuffers_ids d.memory sizes
  case others =>
    intro id other
    rw [memory]
    exact Memory.addBuffers_other d.memory sizes other

/-- A buffer that stays keeps its length. -/
theorem length_of_stays {issued : List Handle} (past : Past d issued) (command : DeviceCommand) {id : BufferId}
    {held held' : Buffer} (found : d.memory.buffers.get? id = some held)
    (found' : (command.run d).state.memory.buffers.get? id = some held') :
    held'.bytes.length = held.bytes.length := by
  have used := (balanced_of_past past).issued id held found
  obtain ⟨earlier, same, size⟩ := (command.grows d).sizes id held' used found'
  rw [found] at same
  cases same
  rw [Buffer.length_bytes, Buffer.length_bytes, size]

/-- The books of a device balance, whatever it was used for, and whether that succeeded: the count is the sum
of the lengths of the live buffers and within the capacity. Each further command makes entries in the books in
which no number leaves its range, and no buffer that stays changes its length. An allocation creates a new
buffer with zeros for each size, or else it reports what is free and does nothing, and that exactly when the
sizes come to more than is free. The check of the total makes a check of each buffer in its turn superfluous. -/
theorem books_balance {issued : List Handle} (past : Past d issued) :
    d.memory.Balanced ∧
      (∀ command : DeviceCommand,
        d.memory.Entries (command.run d).state.memory ∧
        ∀ id held held', d.memory.buffers.get? id = some held →
          (command.run d).state.memory.buffers.get? id = some held' →
          held'.bytes.length = held.bytes.length) ∧
      ∀ sizes : List Nat,
        (sizes.sum ≤ d.memory.capacity - d.memory.liveBytes →
          ∃ buffers, (allocate sizes d).result = .ok buffers ∧
            Created issued sizes d (allocate sizes d).state buffers) ∧
        (d.memory.capacity - d.memory.liveBytes < sizes.sum →
          allocate sizes d =
            ⟨.error (.outOfMemory sizes.sum (d.memory.capacity - d.memory.liveBytes)), d, []⟩) ∧
        d.memory.allocate sizes = (d.memory.reserve sizes.sum).bind fun _ => d.memory.addInTurn sizes := by
  have balanced := balanced_of_past past
  have free : d.memory.capacity - d.memory.liveBytes = d.memory.available := by
    rw [Memory.available, balanced.counted]
  refine ⟨balanced, ?_, ?_⟩
  · intro command
    have entries := (balanced.changes (rewrites_command command d)).1
    exact ⟨entries, fun id held held' found found' => length_of_stays past command found found'⟩
  · intro sizes
    rw [free]
    exact ⟨created_allocate past, allocate_short, Memory.allocate_eq_addInTurn d.memory sizes⟩

/-- Use of a device of 16 bytes. Two buffers are allocated, one of them empty, and one word of atomics is
written. An allocation of 9 bytes is refused. Four words of atomics make the device give up the buffer of the
one word, and then do not fit; that buffer cannot be given back once more. -/
def wornBy : List DeviceCommand :=
  [.allocate [4, 0], .writeAtomics [7] [], .allocate [9], .writeAtomics [1, 2, 3, 4] [], .deallocate ⟨3, 4⟩]

def worn : Device :=
  wornBy.foldl (fun d command => (command.run d).state) (create { globalMemory := 16 } false)

private theorem past_foldl {issued : List Handle} (past : Past d issued) (commands : List DeviceCommand) :
    ∃ issued, Past (commands.foldl (fun d command => (command.run d).state) d) issued := by
  induction commands generalizing d issued with
  | nil => exact ⟨issued, past⟩
  | cons command rest ih => exact ih (past.step command)

/-- Four bytes live then, and twelve are free. -/
theorem worn_balanced : (∃ issued, Past worn issued) ∧ worn.memory.Balanced ∧ worn.memory.liveBytes = 4 ∧
    (∃ buffers issued, (allocate [8, 4] worn).result = .ok buffers ∧
      Created issued [8, 4] worn (allocate [8, 4] worn).state buffers) ∧
    allocate [8, 5] worn = ⟨.error (.outOfMemory 13 12), worn, []⟩ := by
  obtain ⟨issued, past⟩ := past_foldl (.start { globalMemory := 16 } false) wornBy
  obtain ⟨balanced, _, allocates⟩ := books_balance past
  have live : worn.memory.liveBytes = 4 := balanced.counted.symm.trans (by rfl)
  have free : worn.memory.capacity - worn.memory.liveBytes = 12 := by
    rw [live]
    rfl
  obtain ⟨buffers, done, created⟩ := (allocates [8, 4]).1 (Nat.le_of_eq free.symm)
  have short : worn.memory.capacity - worn.memory.liveBytes < 13 := by omega
  have refused := (allocates [8, 5]).2.1 short
  rw [show wornBy.foldl _ _ = worn from rfl, free] at refused
  exact ⟨⟨issued, past⟩, balanced, live, ⟨buffers, issued, done, created⟩, refused⟩

end Device
end Offload
