import Offload.Proofs.Session

/-! Allocation and release on the books. A release takes off exactly what the binding stands for, and
an allocation adds exactly what it binds; either of them happens as a whole or not at all. -/
namespace Offload.Machine

variable {s t : Session} {others object freed : Nat}

/-- The bytes that the budget of a session is charged with. -/
abbrev usage (s : Session) : Nat :=
  s.context.memory.usage

/-- The buffer that an object of a session is bound to. -/
abbrev bufferOf (s : Session) (object : Nat) : Option DeviceBuffer :=
  s.machine.bindings.buffer? object

theorem boundBuffer_ok_iff {m : Machine} {use : BufferUse} {b : DeviceBuffer} :
    m.boundBuffer use object = .ok b ↔ m.bindings.buffer? object = some b := by
  rw [boundBuffer, Bindings.get, Bindings.buffer?]
  rcases m.bindings.entries[object]? with _ | binding
  · simp [bind, Except.bind]
  · rcases bound : binding.buffer with _ | b' <;> simp [bind, Except.bind, bound]

private theorem refuses_onDevice {α : Type} {op : DeviceOp α} (h : Op.Refuses op) :
    Op.Refuses (Session.onDevice op) :=
  Op.refuses_onPart (Op.refuses_mapError h) fun _ => rfl

/-- An operation that changes nothing when it fails keeps the books if its successes do. -/
theorem keeps_of_refuses {α : Type} {op : MachineOp α} (frames : Op.Moves op Session.Frames)
    (refuses : Op.Refuses op) (exact : ∀ s a t, Op.Yields op s a t → Session.Accounts s t) :
    Op.Moves op Session.Keeps := by
  intro s
  refine ⟨frames s, ?_⟩
  rcases ended : (op s).result with e | a
  · rw [refuses s e ended]
    exact Op.Transition.refl (R := Session.Accounts) s
  · exact exact s a _ ⟨ended, rfl⟩

/-! ### Release -/

/-- A release that fails leaves the session as it was. -/
theorem refuses_dealloc (object : Nat) : Op.Refuses (dealloc object) := by
  refine Op.refuses_readOnly_bind Op.moves_get fun s => ?_
  refine Op.refuses_readOnly_bind (Op.moves_ofExcept _) fun entry => ?_
  refine Op.refuses_readOnly_bind (Op.moves_ofExcept _) fun binding => ?_
  split
  · refine Op.refuses_of_readOnly ?_
    split
    · exact Op.moves_pure _
    · exact Op.moves_bind (Op.moves_emit _) fun _ => Op.moves_pure _
  · refine Op.refuses_bind_succeeds (refuses_onDevice ?_) fun freed => ?_
    · refine Op.refuses_bind_succeeds (Op.refuses_step _) fun _ => ?_
      exact Op.succeeds_bind (Op.succeeds_modify _) fun _ => Op.succeeds_pure _
    · refine Op.succeeds_bind (Op.succeeds_modify _) fun _ => ?_
      refine Op.succeeds_bind (Op.succeeds_modify _) fun _ => ?_
      exact Op.succeeds_bind (Op.succeeds_emit _) fun _ => Op.succeeds_pure _

/-- Work on the device yields what it yields there, and the rest of the session stays. -/
theorem yields_onDevice {α : Type} {op : DeviceOp α} {a : α} :
    Op.Yields (Session.onDevice op) s a t ↔
      ∃ device, Op.Yields op s.device a device ∧ { s with device } = t := by
  simp only [Session.onDevice, Op.yields_onPart, Op.yields_mapError]

/-- A buffer is given back to the memory and counted, and nothing else happens. -/
theorem yields_deallocate {device device' : Device} {buffer : DeviceBuffer} :
    Op.Yields (Device.deallocate buffer) device freed device' ↔
      ∃ memory, device.memory.free buffer.id = .ok (freed, memory) ∧
        { device with
          memory
          counters.deallocations := device.counters.deallocations + 1 } = device' := by
  simp only [Device.deallocate, Device.onMemory, Device.count, Op.yields_bind, Op.yields_step,
    Op.yields_modify, Op.yields_pure]
  constructor
  · rintro ⟨freed', middle, ran, _, last, rfl, rfl, rfl⟩
    rcases released : device.memory.free buffer.id with e | ⟨size, memory⟩ <;>
      rw [released] at ran <;> cases ran
    exact ⟨memory, rfl, rfl⟩
  · rintro ⟨memory, released, rfl⟩
    exact ⟨freed, { device with memory }, by rw [released]; rfl, (), _, rfl, rfl, rfl⟩

/-- Without a buffer a release does nothing; with one, the device gives its size. -/
theorem yields_dealloc :
    Op.Yields (dealloc object) s freed t ↔
      ∃ entry binding, s.context.object object = .ok entry ∧
        s.machine.bindings.get object = .ok binding ∧
        ((binding.buffer = none ∧ 0 = freed ∧ s = t) ∨
          ∃ buffer memory, binding.buffer = some buffer ∧
            s.device.memory.free buffer.id = .ok (freed, memory) ∧
            { s with
              context.memory := s.context.memory.sub freed
              device.memory := memory
              device.counters.deallocations := s.device.counters.deallocations + 1
              machine.bindings := s.machine.bindings.modify object Binding.unbind } = t) := by
  simp only [dealloc, Op.yields_bind, Op.yields_get, Op.yields_ofExcept]
  constructor
  · rintro ⟨_, _, ⟨rfl, rfl⟩, entry, _, ⟨inRange, rfl⟩, binding, _, ⟨found, rfl⟩, rest⟩
    refine ⟨entry, binding, inRange, found, ?_⟩
    rcases bound : binding.buffer with _ | buffer <;> rw [bound] at rest
    · left
      refine ⟨rfl, ?_⟩
      dsimp only at rest
      split at rest <;> simpa using rest
    · right
      simp only [Session.modifyBinding, Session.modifyMachine, Session.modifyMemory, Op.yields_bind,
        Op.yields_modify, Op.yields_emit, Op.yields_pure, yields_onDevice, yields_deallocate] at rest
      obtain ⟨_, _, ⟨_, ⟨memory, released, rfl⟩, rfl⟩, _, _, rfl, _, _, rfl, _, _, rfl, rfl, rfl⟩ := rest
      exact ⟨buffer, memory, rfl, released, rfl⟩
  · rintro ⟨entry, binding, inRange, found, outcome⟩
    refine ⟨s, s, ⟨rfl, rfl⟩, entry, s, ⟨inRange, rfl⟩, binding, s, ⟨found, rfl⟩, ?_⟩
    rcases outcome with ⟨unbound, rfl, rfl⟩ | ⟨buffer, memory, bound, released, rfl⟩
    · rw [unbound]
      dsimp only
      split <;> simp
    · rw [bound]
      simp only [Session.modifyBinding, Session.modifyMachine, Session.modifyMemory, Op.yields_bind,
        Op.yields_modify, Op.yields_emit, Op.yields_pure, yields_onDevice, yields_deallocate]
      exact ⟨freed, _, ⟨_, ⟨memory, released, rfl⟩, rfl⟩, (), _, rfl, (), _, rfl, (), _, rfl, rfl, rfl⟩

/-- What a release takes off was on the books before: the subtraction does not stop at zero. -/
theorem dealloc_exact (books : s.Books others) (ran : Op.Yields (dealloc object) s freed t) :
    usage t + freed = usage s ∧ t.Books others := by
  obtain ⟨entry, binding, _, found, outcome⟩ := yields_dealloc.1 ran
  rcases outcome with ⟨_, rfl, rfl⟩ | ⟨buffer, memory, bound, released, rfl⟩
  · exact ⟨rfl, books⟩
  · have inTable := Bindings.get_ok_iff.1 found
    have moved := Bindings.boundBytes_unbind inTable bound
    obtain ⟨held, live, size, _⟩ := Memory.free_ok_iff.1 released
    have issued := books.issued object buffer ((Bindings.buffer?_of_get found).trans bound)
    have same : freed = buffer.size := size.symm.trans (issued.2 held live)
    have charged := books.usage
    refine ⟨?_, ?_, ?_⟩
    · show s.context.memory.usage - freed + freed = s.context.memory.usage
      omega
    · show s.context.memory.usage - freed = (s.machine.bindings.modify object Binding.unbind).boundBytes + others
      omega
    · exact Bindings.issuedBy_later (Bindings.issuedBy_unbind books.issued) (Memory.grows_free released)

/-- A release keeps what a session keeps for good. -/
theorem keeps_dealloc (object : Nat) : Op.Moves (dealloc object) Session.Keeps :=
  keeps_of_refuses (moves_dealloc object) (refuses_dealloc object)
    fun _ _ _ ran _ books => (dealloc_exact books ran).2

/-- The bytes that releases report are those that the usage sinks by. -/
theorem deallocAll_exact {objects : List Nat} (books : s.Books others)
    (ran : Op.Yields (deallocAll objects) s freed t) :
    usage t + freed = usage s ∧ t.Books others := by
  induction objects generalizing s freed with
  | nil =>
    simp only [deallocAll, Op.yields_pure] at ran
    obtain ⟨rfl, rfl⟩ := ran
    exact ⟨rfl, books⟩
  | cons object rest ih =>
    simp only [deallocAll, Op.yields_bind, Op.yields_pure] at ran
    obtain ⟨first, middle, released, later, _, all, rfl, rfl⟩ := ran
    obtain ⟨taken, booksMiddle⟩ := dealloc_exact books released
    obtain ⟨takenLater, booksAfter⟩ := ih booksMiddle all
    refine ⟨?_, booksAfter⟩
    omega

theorem keeps_freeDeviceMemory : Op.Moves freeDeviceMemory Session.Keeps :=
  Op.moves_bind Op.moves_get fun _ => moves_deallocAll keeps_dealloc _

/-- What a machine frees is what the usage sinks by, and the books stay right. -/
theorem freeDeviceMemory_exact (books : s.Books others)
    (ran : Op.Yields freeDeviceMemory s freed t) : usage t + freed = usage s ∧ t.Books others := by
  simp only [freeDeviceMemory, Op.yields_bind, Op.yields_get] at ran
  obtain ⟨_, _, ⟨rfl, rfl⟩, all⟩ := ran
  exact deallocAll_exact books all

/-! ### Allocation -/

/-- What is requested is bound nowhere, and nothing is requested twice. -/
structure Requestable (bs : Bindings) (requests : List BufferRequest) : Prop where
  unbound : ∀ r ∈ requests, ∃ binding, bs.entries[r.object]? = some binding ∧ binding.buffer = none
  distinct : requests.Pairwise fun a b => a.object ≠ b.object

/-- Without requests nothing has to be asked. -/
theorem requestable_nil (bs : Bindings) : Requestable bs [] :=
  ⟨(fun _ member => nomatch member), List.Pairwise.nil⟩

/-- One more object that is neither bound nor requested. -/
theorem requestable_snoc {bs : Bindings} {requests : List BufferRequest} {request : BufferRequest}
    {binding : Binding} (ready : Requestable bs requests)
    (found : bs.entries[request.object]? = some binding) (free : binding.buffer = none)
    (new : ∀ r ∈ requests, r.object ≠ request.object) : Requestable bs (requests ++ [request]) := by
  refine ⟨?_, ?_⟩
  · intro r member
    rcases List.mem_append.1 member with earlier | last
    · exact ready.unbound r earlier
    · rw [List.mem_singleton.1 last]
      exact ⟨binding, found, free⟩
  · refine List.pairwise_append.2 ⟨ready.distinct, List.pairwise_singleton _ _, ?_⟩
    intro r member last only
    rw [List.mem_singleton.1 only]
    exact new r member

/-- A listed object must exist; it is requested unless it is bound or requested already, or takes no
device memory. -/
theorem bufferRequests_cons {c : Context} {bs : Bindings} {batchSize : Nat} {index : UInt32}
    {rest : List UInt32} {requests result : List BufferRequest}
    (ran : bufferRequests c bs batchSize (index :: rest) requests = .ok result) :
    ∃ entry binding, c.object index.toNat = .ok entry ∧ bs.get index.toNat = .ok binding ∧
      (bufferRequests c bs batchSize rest requests = .ok result ∨
        binding.buffer = none ∧ (∀ r ∈ requests, r.object ≠ index.toNat) ∧
          ∃ size, bufferRequests c bs batchSize rest (requests ++ [⟨index.toNat, size⟩]) =
            .ok result) := by
  simp only [bufferRequests] at ran
  rcases inRange : c.object index.toNat with e | entry <;> rw [inRange] at ran
  · cases ran
  rcases found : bs.get index.toNat with e | binding <;> rw [found] at ran
  · cases ran
  simp only [bind, Except.bind] at ran
  refine ⟨entry, binding, rfl, rfl, ?_⟩
  split at ran
  · exact .inl ran
  · next wanted =>
    simp only [Bool.or_eq_true, not_or, List.any_eq_true, decide_eq_true_eq] at wanted
    refine .inr ⟨?_, ?_, _, ran⟩
    · simpa [Binding.isBound] using wanted.1.1
    · intro r member same
      exact wanted.1.2 ⟨r, member, same⟩

/-- Each object is requested once, and only where it has no buffer. -/
theorem bufferRequests_requestable {c : Context} {bs : Bindings} {batchSize : Nat}
    {objects : List UInt32} {requests result : List BufferRequest}
    (ready : Requestable bs requests)
    (ran : bufferRequests c bs batchSize objects requests = .ok result) : Requestable bs result := by
  induction objects generalizing requests with
  | nil =>
    cases ran
    exact ready
  | cons index rest ih =>
    obtain ⟨entry, binding, _, found, skipped | ⟨free, new, size, asked⟩⟩ := bufferRequests_cons ran
    · exact ih ready skipped
    · exact ih (requestable_snoc ready (Bindings.get_ok_iff.1 found) free new) asked

/-- Bindings with each request bound to its buffer. -/
def bindRequests (bs : Bindings) : List (BufferRequest × DeviceBuffer) → Bindings
  | [] => bs
  | (request, buffer) :: rest => bindRequests (bs.modify request.object fun b => b.bind buffer) rest

private theorem boundBytes_bindRequests {bs : Bindings} {pairs : List (BufferRequest × DeviceBuffer)}
    (ready : Requestable bs (pairs.map Prod.fst)) :
    (bindRequests bs pairs).boundBytes =
      bs.boundBytes + (pairs.map fun pair => pair.2.size).sum := by
  induction pairs generalizing bs with
  | nil => simp [bindRequests]
  | cons pair rest ih =>
    obtain ⟨request, buffer⟩ := pair
    obtain ⟨unbound, distinct⟩ := ready
    simp only [List.map_cons, List.pairwise_cons] at distinct unbound
    obtain ⟨binding, found, free⟩ := unbound request (by simp)
    have later : Requestable (bs.modify request.object fun b => b.bind buffer)
        (rest.map Prod.fst) := by
      refine ⟨?_, distinct.2⟩
      intro r member
      obtain ⟨other, foundOther, freeOther⟩ := unbound r (by simp [member])
      refine ⟨other, ?_, freeOther⟩
      rw [Bindings.entries_modify, if_neg (distinct.1 r member)]
      exact foundOther
    simp only [bindRequests, List.map_cons, List.sum_cons]
    rw [ih later, Bindings.boundBytes_bind found free]
    omega

/-- Buffers that were handed out for requests may be bound to their objects. -/
theorem issuedBy_bindRequests {bs : Bindings} {memory : Memory}
    {pairs : List (BufferRequest × DeviceBuffer)} (issued : bs.IssuedBy memory)
    (fresh : ∀ pair ∈ pairs, memory.Issued pair.2) : (bindRequests bs pairs).IssuedBy memory := by
  induction pairs generalizing bs with
  | nil => exact issued
  | cons pair rest ih =>
    refine ih (Bindings.issuedBy_bind issued (fresh pair (by simp))) ?_
    intro other member
    exact fresh other (by simp [member])

/-- Buffers that were handed out can always be bound. -/
theorem succeeds_bindAll (pairs : List (BufferRequest × DeviceBuffer)) :
    Op.Succeeds (bindAll pairs) := by
  induction pairs with
  | nil => exact Op.succeeds_pure _
  | cons pair rest ih =>
    refine Op.succeeds_bind (Op.succeeds_modify _) fun _ => ?_
    exact Op.succeeds_bind (Op.succeeds_modify _) fun _ => ih

/-- Binding does what it says, and measures. -/
theorem bindAll_binds {pairs : List (BufferRequest × DeviceBuffer)} {u : Unit}
    (ran : Op.Yields (bindAll pairs) s u t) :
    t.context = s.context ∧ t.device = s.device ∧
      t.machine.bindings = bindRequests s.machine.bindings pairs := by
  induction pairs generalizing s with
  | nil =>
    simp only [bindAll, Op.yields_pure] at ran
    obtain ⟨_, rfl⟩ := ran
    exact ⟨rfl, rfl, rfl⟩
  | cons pair rest ih =>
    simp only [bindAll, Session.modifyBinding, addMetric, Session.modifyProfiler,
      Session.modifyMachine, Op.yields_bind, Op.yields_modify] at ran
    obtain ⟨_, _, rfl, _, _, rfl, all⟩ := ran
    exact ih all

/-- An allocation that fails leaves the session as it was. -/
theorem refuses_alloc (batchSize : Nat) (objects : List UInt32) :
    Op.Refuses (alloc batchSize objects) := by
  refine Op.refuses_readOnly_bind Op.moves_get fun s => ?_
  refine Op.refuses_readOnly_bind (Op.moves_ofExcept _) fun requests => ?_
  split
  · exact Op.refuses_of_readOnly (Op.moves_pure _)
  · refine Op.refuses_readOnly_bind (Op.moves_ofExcept _) fun _ => ?_
    refine Op.refuses_bind_succeeds (refuses_onDevice ?_) fun buffers => ?_
    · refine Op.refuses_bind_succeeds (Op.refuses_step _) fun _ => ?_
      refine Op.succeeds_bind (Op.succeeds_modify _) fun _ => ?_
      exact Op.succeeds_bind (Op.succeeds_emit _) fun _ => Op.succeeds_pure _
    · refine Op.succeeds_bind (Op.succeeds_modify _) fun _ => ?_
      exact Op.succeeds_bind (succeeds_bindAll _) fun _ => Op.succeeds_emit _

/-- A device allocates in its memory. -/
theorem allocate_adds {device device' : Device} {sizes : List Nat} {buffers : List DeviceBuffer}
    (ran : Op.Yields (Device.allocate sizes) device buffers device') :
    device.memory.allocate sizes = .ok (buffers, device'.memory) := by
  simp only [Device.allocate, Device.onMemory, Device.count, Op.yields_bind, Op.yields_step,
    Op.yields_modify, Op.yields_emit, Op.yields_pure] at ran
  obtain ⟨_, _, allocated, _, _, rfl, _, _, rfl, rfl, rfl⟩ := ran
  rcases added : device.memory.allocate sizes with e | ⟨others, memory⟩ <;>
    rw [added] at allocated <;> cases allocated
  rfl

/-- An allocation either asks for nothing, or it binds and charges all that it asks for. -/
theorem alloc_binds {batchSize : Nat} {objects : List UInt32} {u : Unit}
    (ran : Op.Yields (alloc batchSize objects) s u t) :
    ∃ requests, bufferRequests s.context s.machine.bindings batchSize objects [] = .ok requests ∧
      ((requests = [] ∧ t = s) ∨
        ∃ buffers,
          s.device.memory.allocate (requests.map BufferRequest.size) = .ok (buffers, t.device.memory) ∧
          t.context = { s.context with
            memory := s.context.memory.add (buffers.map DeviceBuffer.size).sum } ∧
          t.machine.bindings = bindRequests s.machine.bindings (requests.zip buffers)) := by
  simp only [alloc, Op.yields_bind, Op.yields_get, Op.yields_ofExcept] at ran
  obtain ⟨_, _, ⟨rfl, rfl⟩, requests, _, ⟨asked, rfl⟩, rest⟩ := ran
  refine ⟨requests, asked, ?_⟩
  split at rest
  · next empty =>
    left
    simp only [Op.yields_pure] at rest
    exact ⟨List.isEmpty_iff.1 empty, rest.2.symm⟩
  · right
    simp only [Op.yields_bind, Op.yields_ofExcept, yields_onDevice, Session.modifyMemory,
      Op.yields_modify, Op.yields_emit] at rest
    obtain ⟨_, _, ⟨_, rfl⟩, buffers, _, ⟨device, allocated, rfl⟩, _, _, rfl, _, _, bound, rfl⟩ := rest
    obtain ⟨context, sameDevice, bindings⟩ := bindAll_binds bound
    refine ⟨buffers, ?_, context, bindings⟩
    rw [sameDevice]
    exact allocate_adds allocated

/-- A memory hands out as many buffers as it was asked for, with these sizes. -/
theorem allocate_sizes {m m' : Memory} {requests : List BufferRequest} {buffers : List DeviceBuffer}
    (ran : m.allocate (requests.map BufferRequest.size) = .ok (buffers, m')) :
    buffers.length = requests.length := by
  obtain ⟨_, added⟩ := Memory.allocate_ok_iff.1 ran
  have sizes := Memory.addBuffers_sizes m (requests.map BufferRequest.size)
  rw [added] at sizes
  have lengths := congrArg List.length sizes
  simpa using lengths

/-- Each request is answered by a buffer of its size. -/
theorem allocate_zip {m m' : Memory} {requests : List BufferRequest} {buffers : List DeviceBuffer}
    (ran : m.allocate (requests.map BufferRequest.size) = .ok (buffers, m')) :
    (requests.zip buffers).map (fun pair => pair.2.size) = buffers.map DeviceBuffer.size :=
  calc (requests.zip buffers).map (fun pair => pair.2.size)
    _ = ((requests.zip buffers).map Prod.snd).map DeviceBuffer.size := List.map_map.symm
    _ = buffers.map DeviceBuffer.size := by rw [List.map_snd_zip (Nat.le_of_eq (allocate_sizes ran))]

theorem allocate_issued {m m' : Memory} {sizes : List Nat} {buffers : List DeviceBuffer}
    (ran : m.allocate sizes = .ok (buffers, m')) : ∀ b ∈ buffers, m'.Issued b := by
  obtain ⟨_, added⟩ := Memory.allocate_ok_iff.1 ran
  intro b member
  have fresh := Memory.addBuffers_live m sizes b
  rw [added] at fresh
  exact Memory.issued_of_live (fresh member).1 (fresh member).2

/-- An allocation charges the bytes that it binds, so the books stay right. -/
theorem alloc_exact {batchSize : Nat} {objects : List UInt32} {u : Unit} (books : s.Books others)
    (ran : Op.Yields (alloc batchSize objects) s u t) : t.Books others := by
  obtain ⟨requests, asked, ⟨_, rfl⟩ | ⟨buffers, allocated, context, bindings⟩⟩ := alloc_binds ran
  · exact books
  have ready := bufferRequests_requestable (requestable_nil _) asked
  have lengths := allocate_sizes allocated
  have firsts : (requests.zip buffers).map Prod.fst = requests :=
    List.map_fst_zip (Nat.le_of_eq lengths.symm)
  refine ⟨?_, ?_⟩
  · have charged := books.usage
    rw [context, bindings, boundBytes_bindRequests (by rw [firsts]; exact ready), allocate_zip allocated]
    show s.context.memory.usage + (buffers.map DeviceBuffer.size).sum = _
    omega
  · rw [bindings]
    refine issuedBy_bindRequests
      (Bindings.issuedBy_later books.issued (Memory.grows_allocate allocated)) ?_
    intro pair member
    exact allocate_issued allocated pair.2 (List.of_mem_zip member).2

/-- An allocation keeps what a session keeps for good. -/
theorem keeps_alloc (batchSize : Nat) (objects : List UInt32) :
    Op.Moves (alloc batchSize objects) Session.Keeps :=
  keeps_of_refuses (moves_alloc batchSize objects) (refuses_alloc batchSize objects)
    fun _ _ _ ran _ books => alloc_exact books ran

end Offload.Machine
