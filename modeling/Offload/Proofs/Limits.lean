import Mathlib.Data.List.Pairwise
import Offload.Code.Assembly
import Offload.Proofs.Assets
import Offload.Proofs.AtomicsSlot
import Offload.Proofs.Release

/-! The limit of a budget and the allocations under it. While a limit is in force the usage never passes
it, whatever the machines of a context do. An allocation is refused before anything has changed, and for
want of budget before the device is asked at all; one that is granted binds a zeroed buffer of its own to
each listed object that lacked one, and to nothing else. -/
namespace Offload

namespace Machine

variable {s t : Session} {batchSize object : Nat} {objects : List UInt32}

/-- How many bytes an allocation provides for an object. -/
def bytesFor (batchSize : Nat) (entry : ObjectEntry) : Nat :=
  if 0 < batchSize then batchSize else entry.object.byteSize

/-- The object is listed, it takes device memory, and it has no buffer yet. -/
def Wants (s : Session) (objects : List UInt32) (object : Nat) : Prop :=
  object ∈ objects.map UInt32.toNat ∧ bufferOf s object = none ∧
    ∃ entry, s.context.object object = .ok entry ∧ entry.object.isKernelContext = false

/-- What a list of objects comes to: each object that is wanted, once, with its size. -/
structure Requested (s : Session) (batchSize : Nat) (objects : List UInt32)
    (requests : List BufferRequest) : Prop where
  distinct : requests.Pairwise fun a b => a.object ≠ b.object
  wanted : ∀ object, (∃ r ∈ requests, r.object = object) ↔ Wants s objects object
  sizes : ∀ r ∈ requests, ∃ entry, s.context.object r.object = .ok entry ∧ r.size = bytesFor batchSize entry

/-- Why an allocation is refused. -/
inductive Refusal (s : Session) (batchSize : Nat) (objects : List UInt32) : MachineError → Prop where
  | unknown {o : UInt32} (listed : o ∈ objects) (absent : s.context.objects.length ≤ o.toNat) :
      Refusal s batchSize objects (.malformed (.objectOutOfRange o.toNat s.context.objects.length))
  | unbindable {o : UInt32} (listed : o ∈ objects) (absent : s.machine.bindings.entries.length ≤ o.toNat) :
      Refusal s batchSize objects (.malformed (.noBinding o.toNat))
  | limit {requests : List BufferRequest} {limit : Nat} (asked : Requested s batchSize objects requests)
      (inForce : s.context.memory.limit = some limit)
      (passed : limit < usage s + (requests.map BufferRequest.size).sum) :
      Refusal s batchSize objects (.outOfMemory (usage s) (requests.map BufferRequest.size).sum limit)
  | device {requests : List BufferRequest} (asked : Requested s batchSize objects requests)
      (short : s.device.memory.available < (requests.map BufferRequest.size).sum) :
      Refusal s batchSize objects
        (.deviceOutOfMemory (requests.map BufferRequest.size).sum s.device.memory.available)

/-- What a granted allocation does: `grants` are the objects that get a buffer, with their buffers. -/
structure Granted (s t : Session) (batchSize : Nat) (objects : List UInt32)
    (grants : List (Nat × DeviceBuffer)) : Prop where
  /-- No object and no buffer is granted twice. -/
  once : grants.Pairwise fun a b => a.1 ≠ b.1 ∧ a.2.id ≠ b.2.id
  wanted : ∀ object, (∃ b, (object, b) ∈ grants) ↔ Wants s objects object
  bound : ∀ object b, (object, b) ∈ grants →
    t.machine.bindings.entries[object]? = (s.machine.bindings.entries[object]?).map fun old => old.bind b
  others : ∀ object, ¬ Wants s objects object →
    t.machine.bindings.entries[object]? = s.machine.bindings.entries[object]?
  /-- Afterwards every listed object has a buffer, the kernel context excepted. -/
  served : ∀ o ∈ objects, ∃ entry, s.context.object o.toNat = .ok entry ∧
    (entry.object.isKernelContext = false → ∃ b, bufferOf t o.toNat = some b)
  sizes : ∀ object b, (object, b) ∈ grants →
    ∃ entry, s.context.object object = .ok entry ∧ b.size = bytesFor batchSize entry
  /-- The buffers are new, and they hold zeros. -/
  fresh : ∀ object b, (object, b) ∈ grants → s.device.memory.nextId ≤ b.id ∧
    t.device.memory.contents b.id = .ok (Bytes.zeros b.size)
  /-- No other buffer was handed out, and those from before are as they were. -/
  issued : t.device.memory.nextId = s.device.memory.nextId + grants.length
  kept : ∀ id < s.device.memory.nextId, t.device.memory.buffers.get? id = s.device.memory.buffers.get? id
  charged : usage t = usage s + (grants.map fun grant => grant.2.size).sum
  objects : t.context.objects = s.context.objects

/-- An allocation happens as a whole or not at all. -/
structure AllOrNothing (s : Session) (batchSize : Nat) (objects : List UInt32) : Prop where
  refused : ∀ e, (alloc batchSize objects s).result = .error e →
    (alloc batchSize objects s).state = s ∧ Refusal s batchSize objects e
  /-- A refusal by the budget is the same whatever device there is, and that device stays as it is. -/
  unasked : ∀ used requested limit, (alloc batchSize objects s).result = .error (.outOfMemory used requested limit) →
    ∀ d, alloc batchSize objects { s with device := d } =
      ⟨.error (.outOfMemory used requested limit), { s with device := d }, []⟩
  granted : (alloc batchSize objects s).result = .ok () →
    ∃ grants, Granted s (alloc batchSize objects s).state batchSize objects grants

/-! ### Requests -/

section Requests

variable {c : Context} {bs : Bindings} {requests result : List BufferRequest}

/-- A listed object is passed over, or one more buffer of its size is requested. -/
theorem bufferRequests_next {index : UInt32} {rest : List UInt32}
    (ran : bufferRequests c bs batchSize (index :: rest) requests = .ok result) :
    ∃ entry, c.object index.toNat = .ok entry ∧
      ((bs.buffer? index.toNat ≠ none ∨ (∃ r ∈ requests, r.object = index.toNat) ∨
          entry.object.isKernelContext = true) ∧
        bufferRequests c bs batchSize rest requests = .ok result ∨
      entry.object.isKernelContext = false ∧
        bufferRequests c bs batchSize rest (requests ++ [⟨index.toNat, bytesFor batchSize entry⟩]) =
          .ok result) := by
  simp only [bufferRequests] at ran
  rcases inRange : c.object index.toNat with e | entry <;> rw [inRange] at ran
  · cases ran
  rcases found : bs.get index.toNat with e | binding <;> rw [found] at ran
  · cases ran
  simp only [bind, Except.bind] at ran
  refine ⟨entry, rfl, ?_⟩
  rw [Bindings.buffer?_of_get found]
  split at ran
  · next passed =>
    left
    refine ⟨?_, ran⟩
    simpa [Binding.isBound, Option.isSome_iff_ne_none, or_assoc] using passed
  · next wanted =>
    right
    simp only [Bool.or_eq_true, not_or, Bool.not_eq_true] at wanted
    exact ⟨wanted.2, ran⟩

/-- What is requested has a place and a size, and nothing that is wanted is left out. -/
theorem bufferRequests_complete (ran : bufferRequests c bs batchSize objects requests = .ok result) :
    (∀ r ∈ requests, r ∈ result) ∧
    (∀ r ∈ result, r ∈ requests ∨ ∃ entry, c.object r.object = .ok entry ∧
      entry.object.isKernelContext = false ∧ r.size = bytesFor batchSize entry) ∧
    ∀ o ∈ objects, ∀ entry, c.object o.toNat = .ok entry → entry.object.isKernelContext = false →
      bs.buffer? o.toNat = none → ∃ r ∈ result, r.object = o.toNat := by
  induction objects generalizing requests with
  | nil =>
    cases ran
    exact ⟨fun r member => member, fun r member => .inl member, fun o member => nomatch member⟩
  | cons index rest ih =>
    obtain ⟨entry, inRange, ⟨reason, ran⟩ | ⟨plain, ran⟩⟩ := bufferRequests_next ran
    · obtain ⟨kept, origin, complete⟩ := ih ran
      refine ⟨kept, origin, ?_⟩
      intro o member entry' found plain free
      rcases List.mem_cons.1 member with rfl | later
      · rw [inRange] at found
        cases found
        rcases reason with bound | ⟨r, asked, same⟩ | context
        · exact absurd free bound
        · exact ⟨r, kept r asked, same⟩
        · rw [context] at plain
          cases plain
      · exact complete o later entry' found plain free
    · obtain ⟨kept, origin, complete⟩ := ih ran
      refine ⟨fun r member => kept r (by simp [member]), ?_, ?_⟩
      · intro r member
        rcases origin r member with asked | placed
        · rcases List.mem_append.1 asked with before | new
          · exact .inl before
          · rw [List.mem_singleton.1 new]
            exact .inr ⟨entry, inRange, plain, rfl⟩
        · exact .inr placed
      · intro o member entry' found plain' free
        rcases List.mem_cons.1 member with rfl | later
        · exact ⟨⟨o.toNat, bytesFor batchSize entry⟩, kept _ (by simp), rfl⟩
        · exact complete o later entry' found plain' free

private theorem bufferRequests_refused {e : MachineError}
    (ran : bufferRequests c bs batchSize objects requests = .error e) :
    ∃ o ∈ objects, (e = .malformed (.objectOutOfRange o.toNat c.objects.length) ∧ c.objects.length ≤ o.toNat) ∨
      (e = .malformed (.noBinding o.toNat) ∧ bs.entries.length ≤ o.toNat) := by
  induction objects generalizing requests with
  | nil => cases ran
  | cons index rest ih =>
    simp only [bufferRequests, Context.object, Bindings.get] at ran
    rcases inRange : c.objects[index.toNat]? with _ | entry <;> rw [inRange] at ran
    · cases ran
      exact ⟨index, by simp, .inl ⟨rfl, List.getElem?_eq_none_iff.1 inRange⟩⟩
    rcases found : bs.entries[index.toNat]? with _ | binding <;> rw [found] at ran
    · cases ran
      exact ⟨index, by simp, .inr ⟨rfl, List.getElem?_eq_none_iff.1 found⟩⟩
    simp only [bind, Except.bind] at ran
    split at ran
    all_goals
      obtain ⟨o, member, reason⟩ := ih ran
      exact ⟨o, by simp [member], reason⟩

private theorem requested_of_bufferRequests
    (ran : bufferRequests s.context s.machine.bindings batchSize objects [] = .ok result) :
    Requested s batchSize objects result := by
  have ready := bufferRequests_requestable (requestable_nil _) ran
  obtain ⟨_, origin, complete⟩ := bufferRequests_complete ran
  have placed : ∀ r ∈ result, ∃ entry, s.context.object r.object = .ok entry ∧
      entry.object.isKernelContext = false ∧ r.size = bytesFor batchSize entry := by
    intro r member
    rcases origin r member with none | placed
    · cases none
    · exact placed
  refine ⟨ready.distinct, ?_, ?_⟩
  · intro object
    constructor
    · rintro ⟨r, member, rfl⟩
      obtain ⟨entry, found, plain, _⟩ := placed r member
      obtain ⟨binding, bound, free⟩ := ready.unbound r member
      refine ⟨?_, ?_, entry, found, plain⟩
      · rcases bufferRequests_listed ran r member with none | listed
        · cases none
        · exact listed
      · rw [bufferOf, Bindings.buffer?, bound]
        exact free
    · rintro ⟨listed, free, entry, found, plain⟩
      obtain ⟨o, member, rfl⟩ := List.mem_map.1 listed
      exact complete o member entry found plain free
  · intro r member
    obtain ⟨entry, found, _, size⟩ := placed r member
    exact ⟨entry, found, size⟩

end Requests

/-! ### Refusals -/

section Outcomes

variable {requests : List BufferRequest} {e : MachineError}

private theorem alloc_unknown (unknown : bufferRequests s.context s.machine.bindings batchSize objects [] = .error e) :
    alloc batchSize objects s = ⟨.error e, s, []⟩ := by
  unfold alloc
  rw [Op.get_bind, unknown]
  rfl

private theorem alloc_nothing (asked : bufferRequests s.context s.machine.bindings batchSize objects [] = .ok []) :
    alloc batchSize objects s = ⟨.ok (), s, []⟩ := by
  unfold alloc
  rw [Op.get_bind, asked]
  rfl

private theorem alloc_overLimit
    (asked : bufferRequests s.context s.machine.bindings batchSize objects [] = .ok requests)
    (some : requests ≠ []) (passed : s.context.memory.check (requests.map BufferRequest.size).sum = .error e) :
    alloc batchSize objects s = ⟨.error e, s, []⟩ := by
  unfold alloc
  rw [Op.get_bind, asked]
  show (if requests.isEmpty = true then _ else _ : MachineOp Unit) s = _
  rw [if_neg (by simpa using some)]
  dsimp only
  rw [passed]
  rfl

private theorem allocate_refused {d : Device} {sizes : List Nat} {failure : DeviceError}
    (full : d.memory.allocate sizes = .error failure) :
    Device.allocate sizes d = ⟨.error failure, d, []⟩ := by
  have failed : Device.onMemory (fun m => m.allocate sizes) d = ⟨.error failure, d, []⟩ := by
    rw [Device.onMemory_run, full]
  unfold Device.allocate
  rw [Op.bind_error failed]

private theorem allocate_met {d : Device} {sizes : List Nat} {buffers : List DeviceBuffer} {m : Memory}
    (enough : d.memory.allocate sizes = .ok (buffers, m)) :
    (Device.allocate sizes d).result = .ok buffers := by
  have met : Device.onMemory (fun m => m.allocate sizes) d = ⟨.ok buffers, { d with memory := m }, []⟩ := by
    rw [Device.onMemory_run, enough]
  unfold Device.allocate
  rw [Op.bind_ok met]
  rfl

/-- What an allocation does once it has asked the device goes through. -/
theorem succeeds_charge (requests : List BufferRequest) (buffers : List DeviceBuffer) (event : LogEvent) :
    Op.Succeeds (do
      Session.modifyMemory fun b => b.add (buffers.map DeviceBuffer.size).sum
      bindAll (requests.zip buffers)
      Op.emit event : MachineOp Unit) :=
  Op.succeeds_bind (Op.succeeds_modify _) fun _ =>
    Op.succeeds_bind (succeeds_bindAll _) fun _ => Op.succeeds_emit _

/-- Behind the check of the limit the device has the last word. -/
theorem alloc_within (asked : bufferRequests s.context s.machine.bindings batchSize objects [] = .ok requests)
    (some : requests ≠ []) (within : s.context.memory.check (requests.map BufferRequest.size).sum = .ok ())
    (failed : (alloc batchSize objects s).result = .error e) :
    ∃ failure, s.device.memory.allocate (requests.map BufferRequest.size) = .error failure ∧
      e = .ofDevice failure := by
  unfold alloc at failed
  rw [Op.get_bind, asked] at failed
  change (((if requests.isEmpty = true then _ else _ : MachineOp Unit) s).result = _) at failed
  rw [if_neg (by simpa using some)] at failed
  dsimp only at failed
  rw [within] at failed
  rcases allocated : s.device.memory.allocate (requests.map BufferRequest.size) with failure | ⟨buffers, m⟩
  · have refused : Session.onDevice (Device.allocate (requests.map BufferRequest.size)) s =
        ⟨.error (.ofDevice failure), s, []⟩ := by
      rw [Session.onDevice, Op.onPart, Op.mapError, allocate_refused allocated]
    rw [Op.ofExcept, Op.pure_bind, Op.bind_error refused] at failed
    exact ⟨failure, rfl, (Except.error.inj failed).symm⟩
  · have met : (Session.onDevice (Device.allocate (requests.map BufferRequest.size)) s).result = .ok buffers := by
      have handed := allocate_met allocated
      unfold Session.onDevice Op.onPart Op.mapError
      rcases ran : Device.allocate (requests.map BufferRequest.size) s.device with ⟨r, d, log⟩
      rw [ran] at handed
      cases handed
      rfl
    rcases ran : Session.onDevice (Device.allocate (requests.map BufferRequest.size)) s with ⟨r, after, log⟩
    rw [ran] at met
    cases met
    rw [Op.ofExcept, Op.pure_bind, Op.bind_ok ran] at failed
    obtain ⟨u, charged⟩ := succeeds_charge requests buffers _ after
    cases charged.symm.trans failed

/-- Whatever refuses an allocation, the reason is one of four, and the budget comes before the device. -/
theorem alloc_refusal (failed : (alloc batchSize objects s).result = .error e) :
    Refusal s batchSize objects e := by
  rcases asked : bufferRequests s.context s.machine.bindings batchSize objects [] with unknown | requests
  · rw [alloc_unknown asked] at failed
    cases failed
    obtain ⟨o, listed, ⟨rfl, absent⟩ | ⟨rfl, absent⟩⟩ := bufferRequests_refused asked
    · exact .unknown listed absent
    · exact .unbindable listed absent
  have requested := requested_of_bufferRequests asked
  by_cases some : requests = []
  · subst some
    rw [alloc_nothing asked] at failed
    cases failed
  rcases checked : s.context.memory.check (requests.map BufferRequest.size).sum with passed | _
  · rw [alloc_overLimit asked some checked] at failed
    cases failed
    unfold MemoryBudget.check at checked
    rcases inForce : s.context.memory.limit with _ | limit <;> rw [inForce] at checked
    · cases checked
    dsimp only at checked
    split at checked
    · next beyond =>
      cases checked
      exact .limit requested inForce beyond
    · cases checked
  · obtain ⟨failure, full, rfl⟩ := alloc_within asked some checked failed
    unfold Memory.allocate Memory.reserve at full
    split at full
    · next short =>
      cases full
      exact .device requested short
    · cases full

/-- Without enough budget no device is asked. -/
theorem alloc_unasked {used requested limit : Nat}
    (failed : (alloc batchSize objects s).result = .error (.outOfMemory used requested limit)) (d : Device) :
    alloc batchSize objects { s with device := d } =
      ⟨.error (.outOfMemory used requested limit), { s with device := d }, []⟩ := by
  rcases asked : bufferRequests s.context s.machine.bindings batchSize objects [] with unknown | requests
  · rw [alloc_unknown asked] at failed
    cases failed
    obtain ⟨o, _, ⟨absurd, _⟩ | ⟨absurd, _⟩⟩ := bufferRequests_refused asked <;> cases absurd
  by_cases some : requests = []
  · subst some
    rw [alloc_nothing asked] at failed
    cases failed
  rcases checked : s.context.memory.check (requests.map BufferRequest.size).sum with passed | _
  · rw [alloc_overLimit asked some checked] at failed
    cases failed
    exact alloc_overLimit (s := { s with device := d }) asked some checked
  · obtain ⟨failure, full, notLimit⟩ := alloc_within asked some checked failed
    cases failure <;> cases notLimit

end Outcomes

/-! ### Grants -/

section Grants

variable {requests : List BufferRequest} {buffers : List DeviceBuffer}

private theorem addBuffers_nextId (m : Memory) (sizes : List Nat) :
    (m.addBuffers sizes).2.nextId = m.nextId + sizes.length := by
  induction sizes generalizing m with
  | nil => rfl
  | cons size sizes ih =>
    rw [Memory.addBuffers_cons, ih, List.length_cons]
    exact Nat.add_right_comm m.nextId 1 sizes.length

private theorem contents_addBuffers (m : Memory) (sizes : List Nat) :
    ∀ b ∈ (m.addBuffers sizes).1, (m.addBuffers sizes).2.contents b.id = .ok (Bytes.zeros b.size) :=
  fun b member => Memory.contents_ok_iff.2
    ⟨.zeroed b.size, (Memory.addBuffers_zeroed m sizes b member).2, Buffer.bytes_zeroed _⟩

/-- Each of several requests with objects of their own is bound to its own buffer. -/
theorem bindRequests_bound {bs : Bindings} {pairs : List (BufferRequest × DeviceBuffer)}
    (distinct : pairs.Pairwise fun p q => p.1.object ≠ q.1.object) {r : BufferRequest} {b : DeviceBuffer}
    (member : (r, b) ∈ pairs) :
    (bindRequests bs pairs).entries[r.object]? = (bs.entries[r.object]?).map fun old => old.bind b := by
  induction pairs generalizing bs with
  | nil => cases member
  | cons pair rest ih =>
    obtain ⟨apart, others⟩ := List.pairwise_cons.1 distinct
    rcases List.mem_cons.1 member with rfl | later
    · rw [bindRequests, bindRequests_others fun q inRest => Ne.symm (apart q inRest),
        Bindings.entries_modify, if_pos rfl]
    · rw [bindRequests, ih others later, Bindings.entries_modify, if_neg (apart _ later)]

/-- The requests with the buffers that answer them. -/
structure Answered (requests : List BufferRequest) (buffers : List DeviceBuffer) : Prop where
  sizes : buffers.map DeviceBuffer.size = requests.map BufferRequest.size
  ids : buffers.Pairwise fun a b => a.id ≠ b.id

private theorem Answered.length (answered : Answered requests buffers) : buffers.length = requests.length := by
  simpa using congrArg List.length answered.sizes

private theorem Answered.fst (answered : Answered requests buffers) : (requests.zip buffers).map Prod.fst = requests :=
  List.map_fst_zip (Nat.le_of_eq answered.length.symm)

private theorem Answered.snd (answered : Answered requests buffers) : (requests.zip buffers).map Prod.snd = buffers :=
  List.map_snd_zip (Nat.le_of_eq answered.length)

private theorem Answered.size (answered : Answered requests buffers) {r : BufferRequest} {b : DeviceBuffer}
    (paired : (r, b) ∈ requests.zip buffers) : b.size = r.size := by
  obtain ⟨i, inRange, same⟩ := List.mem_iff_getElem.1 paired
  rw [List.getElem_zip] at same
  cases same
  have lengths := answered.length
  simp only [List.length_zip] at inRange
  have sizes := congrArg (fun l : List Nat => l[i]?) answered.sizes
  simp only [List.getElem?_map, List.getElem?_eq_getElem (show i < buffers.length by omega),
    List.getElem?_eq_getElem (show i < requests.length by omega), Option.map_some, Option.some.injEq] at sizes
  exact sizes

private theorem Answered.request (answered : Answered requests buffers) {r : BufferRequest} (member : r ∈ requests) :
    ∃ b, (r, b) ∈ requests.zip buffers := by
  rw [← answered.fst] at member
  obtain ⟨⟨r, b⟩, paired, rfl⟩ := List.mem_map.1 member
  exact ⟨b, paired⟩

private theorem Answered.apart (answered : Answered requests buffers)
    (distinct : requests.Pairwise fun a b => a.object ≠ b.object) :
    (requests.zip buffers).Pairwise fun p q => p.1.object ≠ q.1.object ∧ p.2.id ≠ q.2.id := by
  have objects := distinct
  have ids := answered.ids
  rw [← answered.fst, List.pairwise_map] at objects
  rw [← answered.snd, List.pairwise_map] at ids
  exact objects.and ids

/-- The objects of the requests with their buffers. -/
def grantsOf (requests : List BufferRequest) (buffers : List DeviceBuffer) : List (Nat × DeviceBuffer) :=
  (requests.zip buffers).map fun pair => (pair.1.object, pair.2)

private theorem mem_grantsOf {b : DeviceBuffer} : (object, b) ∈ grantsOf requests buffers ↔
    ∃ r, (r, b) ∈ requests.zip buffers ∧ r.object = object := by
  simp [grantsOf]

/-- The objects that are granted a buffer are those that were requested. -/
theorem Answered.wanted (answered : Answered requests buffers)
    (requested : Requested s batchSize objects requests) (object : Nat) :
    (∃ b, (object, b) ∈ grantsOf requests buffers) ↔ Wants s objects object := by
  rw [← requested.wanted object]
  constructor
  · rintro ⟨b, granted⟩
    obtain ⟨r, paired, same⟩ := mem_grantsOf.1 granted
    exact ⟨r, (List.of_mem_zip paired).1, same⟩
  · rintro ⟨r, member, rfl⟩
    obtain ⟨b, paired⟩ := answered.request member
    exact ⟨b, mem_grantsOf.2 ⟨r, paired, rfl⟩⟩

/-- Once the wanted objects are bound, every listed object has a buffer, or takes none. -/
theorem served_of_bound {grants : List (Nat × DeviceBuffer)}
    (listed : ∀ o ∈ objects, ∃ entry binding, s.context.object o.toNat = .ok entry ∧
      s.machine.bindings.get o.toNat = .ok binding)
    (wanted : ∀ object, (∃ b, (object, b) ∈ grants) ↔ Wants s objects object)
    (bound : ∀ object b, (object, b) ∈ grants →
      t.machine.bindings.entries[object]? = (s.machine.bindings.entries[object]?).map fun old => old.bind b)
    (others : ∀ object, ¬ Wants s objects object →
      t.machine.bindings.entries[object]? = s.machine.bindings.entries[object]?) :
    ∀ o ∈ objects, ∃ entry, s.context.object o.toNat = .ok entry ∧
      (entry.object.isKernelContext = false → ∃ b, bufferOf t o.toNat = some b) := by
  intro o member
  obtain ⟨entry, binding, found, got⟩ := listed o member
  refine ⟨entry, found, fun plain => ?_⟩
  rcases held : bufferOf s o.toNat with _ | b
  · obtain ⟨b, granted⟩ := (wanted o.toNat).2 ⟨List.mem_map_of_mem member, held, entry, found, plain⟩
    refine ⟨b, ?_⟩
    rw [bufferOf, Bindings.buffer?, bound _ _ granted, Bindings.get_ok_iff.1 got]
    rfl
  · have unwanted : ¬ Wants s objects o.toNat := by
      intro wants
      cases held.symm.trans wants.2.1
    refine ⟨b, ?_⟩
    rw [bufferOf, Bindings.buffer?, others o.toNat unwanted]
    exact held

/-- A grant of nothing. -/
theorem granted_nothing (requested : Requested s batchSize objects [])
    (listed : ∀ o ∈ objects, ∃ entry binding, s.context.object o.toNat = .ok entry ∧
      s.machine.bindings.get o.toNat = .ok binding) : Granted s s batchSize objects [] := by
  have wanted : ∀ object, (∃ b, (object, b) ∈ ([] : List (Nat × DeviceBuffer))) ↔ Wants s objects object := by
    intro object
    rw [← requested.wanted object]
    simp
  have served := served_of_bound listed wanted (t := s) nofun fun _ _ => rfl
  exact ⟨List.Pairwise.nil, wanted, nofun, fun _ _ => rfl, served, nofun, nofun, rfl, fun _ _ => rfl, rfl, rfl⟩

private theorem alloc_granted (ran : Op.Yields (alloc batchSize objects) s () t) :
    ∃ grants, Granted s t batchSize objects grants := by
  obtain ⟨requests, asked, outcome⟩ := alloc_binds ran
  have requested := requested_of_bufferRequests asked
  have listed := bufferRequests_inRange asked
  rcases outcome with ⟨rfl, rfl⟩ | ⟨buffers, allocated, context, bindings⟩
  · exact ⟨[], granted_nothing requested listed⟩
  obtain ⟨_, added⟩ := Memory.allocate_ok_iff.1 allocated
  have sizes := Memory.addBuffers_sizes s.device.memory (requests.map BufferRequest.size)
  have ids := Memory.addBuffers_ids s.device.memory (requests.map BufferRequest.size)
  have fresh := Memory.addBuffers_fresh s.device.memory (requests.map BufferRequest.size)
  have zeroed := contents_addBuffers s.device.memory (requests.map BufferRequest.size)
  have issued := addBuffers_nextId s.device.memory (requests.map BufferRequest.size)
  have kept {id : BufferId} (used : id < s.device.memory.nextId) :=
    Memory.addBuffers_get? s.device.memory (requests.map BufferRequest.size) used
  simp only [added] at sizes ids fresh zeroed issued kept
  have answered : Answered requests buffers := ⟨sizes, ids⟩
  have apart := answered.apart requested.distinct
  have wanted := answered.wanted requested
  have bound : ∀ object b, (object, b) ∈ grantsOf requests buffers →
      t.machine.bindings.entries[object]? = (s.machine.bindings.entries[object]?).map fun old => old.bind b := by
    intro object b granted
    obtain ⟨r, paired, rfl⟩ := mem_grantsOf.1 granted
    rw [bindings]
    exact bindRequests_bound (apart.imp fun both => both.1) paired
  have others : ∀ object, ¬ Wants s objects object →
      t.machine.bindings.entries[object]? = s.machine.bindings.entries[object]? := by
    intro object unwanted
    rw [bindings]
    refine bindRequests_others fun pair member same => unwanted ((requested.wanted object).1 ?_)
    exact ⟨pair.1, (List.of_mem_zip member).1, same⟩
  have served := served_of_bound listed wanted bound others
  refine ⟨grantsOf requests buffers, List.pairwise_map.2 apart, wanted, bound, others, served, ?_, ?_, ?_,
    fun id used => kept used, ?_, ?_⟩
  · intro object b granted
    obtain ⟨r, paired, rfl⟩ := mem_grantsOf.1 granted
    obtain ⟨entry, found, size⟩ := requested.sizes r (List.of_mem_zip paired).1
    exact ⟨entry, found, (answered.size paired).trans size⟩
  · intro object b granted
    obtain ⟨r, paired, rfl⟩ := mem_grantsOf.1 granted
    have handed := (List.of_mem_zip paired).2
    exact ⟨fresh b handed, zeroed b handed⟩
  · rw [issued]
    simp [grantsOf, answered.length]
  · have second : (grantsOf requests buffers).map (fun grant => grant.2.size) =
        ((requests.zip buffers).map Prod.snd).map DeviceBuffer.size := by
      simp [grantsOf]
    rw [usage, context, second, answered.snd]
    rfl
  · rw [context]

end Grants

private theorem allOrNothing (s : Session) (batchSize : Nat) (objects : List UInt32) :
    AllOrNothing s batchSize objects where
  refused e failed := ⟨refuses_alloc batchSize objects s e failed, alloc_refusal failed⟩
  unasked _ _ _ failed := alloc_unasked failed
  granted succeeded := alloc_granted ⟨succeeded, rfl⟩

end Machine

/-! ### A limit in force -/

namespace Session
open Machine (usage alloc_granted refuses_alloc yields_dealloc refuses_dealloc)

/-- The limit stays, and a usage within it stays within it. -/
structure Limited (before after : Session) : Prop where
  limit : after.context.memory.limit = before.context.memory.limit
  within : ∀ limit, before.context.memory.limit = some limit → usage before ≤ limit → usage after ≤ limit

instance : Op.Transition Limited where
  refl _ := ⟨rfl, fun _ _ within => within⟩
  trans first second := ⟨second.limit.trans first.limit, fun limit inForce within =>
    second.within limit (first.limit.trans inForce) (first.within limit inForce within)⟩

variable {s t : Session}

private theorem limited_of_less (limit : t.context.memory.limit = s.context.memory.limit) (less : usage t ≤ usage s) :
    Limited s t :=
  ⟨limit, fun _ _ within => Nat.le_trans less within⟩

/-- An allocation that goes through has been checked. -/
theorem limited_alloc (batchSize : Nat) (objects : List UInt32) :
    Op.Moves (Machine.alloc batchSize objects) Limited := by
  intro s
  rcases ran : (Machine.alloc batchSize objects s).result with e | u
  · rw [refuses_alloc batchSize objects s e ran]
    exact Op.Transition.refl s
  obtain ⟨requests, asked, outcome⟩ := Machine.alloc_binds ⟨ran, rfl⟩
  rcases outcome with ⟨_, same⟩ | ⟨buffers, allocated, context, _⟩
  · rw [same]
    exact Op.Transition.refl s
  by_cases some : requests = []
  · rw [some] at asked
    rw [Machine.alloc_nothing asked]
    exact Op.Transition.refl s
  rcases checked : s.context.memory.check (requests.map Machine.BufferRequest.size).sum with e | _
  · rw [Machine.alloc_overLimit asked some checked] at ran
    cases ran
  have sizes := Memory.addBuffers_sizes s.device.memory (requests.map Machine.BufferRequest.size)
  rw [(Memory.allocate_ok_iff.1 allocated).2] at sizes
  refine ⟨by rw [context]; rfl, ?_⟩
  intro limit inForce within
  rw [usage, context]
  show s.context.memory.usage + (buffers.map DeviceBuffer.size).sum ≤ limit
  rw [sizes]
  simp only [MemoryBudget.check, inForce] at checked
  split at checked
  · cases checked
  · omega

private theorem limited_dealloc (object : Nat) : Op.Moves (Machine.dealloc object) Limited := by
  intro s
  rcases ran : (Machine.dealloc object s).result with e | freed
  · rw [refuses_dealloc object s e ran]
    exact Op.Transition.refl s
  obtain ⟨_, _, _, _, outcome⟩ := yields_dealloc.1 ⟨ran, rfl⟩
  rcases outcome with ⟨_, _, same⟩ | ⟨_, _, _, _, same⟩ <;> rw [← same]
  · exact Op.Transition.refl s
  · exact limited_of_less rfl (Nat.sub_le _ _)

private theorem withstands_limited : Withstands Limited where
  still s t same := by
    have usage : usage t = usage s := congrArg MemoryBudget.usage same.budget
    exact limited_of_less (congrArg MemoryBudget.limit same.budget) (Nat.le_of_eq usage)
  alloc := limited_alloc
  dealloc := limited_dealloc
  forget s := limited_of_less rfl (Nat.sub_le _ _)
  content object := Op.moves_modify fun s => limited_of_less rfl (Nat.le_refl _)

/-- No command brings the usage above a limit that is in force before and after it. -/
theorem within_command {limit : Nat} (command : MachineCommand)
    (before : s.context.memory.limit = some limit)
    (within : usage s ≤ limit) : usage (command.run s).state ≤ limit := by
  by_cases configures : ∃ config, command = .setConfig config
  · obtain ⟨config, rfl⟩ := configures
    have same : usage (Machine.setConfig config s).state = usage s := by
      unfold Machine.setConfig usage
      cases config.memoryLimit <;> rfl
    exact Nat.le_trans (Nat.le_of_eq same) within
  · have moved := withstands_limited.command command fun config same => absurd ⟨config, same⟩ configures
    exact (moved s).within limit before within

end Session

namespace Workspace

variable {w w' : Workspace} {limit : Nat}

/-- What can come about of a workspace while a limit is in force. -/
inductive Kept (limit : Nat) (w : Workspace) : Workspace → Prop where
  | start (inForce : w.context.memory.limit = some limit) : Kept limit w w
  | step {before after : Workspace} (kept : Kept limit w before) (step : Step before after)
      (inForce : after.context.memory.limit = some limit) : Kept limit w after

private theorem Kept.inForce (kept : w.Kept limit w') : w'.context.memory.limit = some limit := by
  cases kept with
  | start inForce => exact inForce
  | step _ _ inForce => exact inForce

private theorem within_step {before after : Workspace} (inForce : before.context.memory.limit = some limit)
    (within : before.context.memory.usage ≤ limit) (step : Step before after) :
    after.context.memory.usage ≤ limit := by
  cases step with
  | build device program config =>
    rcases build_cases before device program config with same | ⟨d, site, _, keeps, seat, same, _⟩ <;> rw [same]
    · exact within
    · exact Nat.le_trans (Nat.le_of_eq keeps.usage) within
  | machine seat command =>
    rcases present : before.session? seat with _ | ⟨index, s⟩
    · rw [onMachine_absent present]
      exact within
    · rw [onMachine_present present]
      obtain ⟨m, device, _, _, rfl⟩ := session?_eq_some.1 present
      exact Session.within_command command inForce within
  | device index command =>
    rcases present : before.devices[index]? with _ | device
    · rw [onDevice_absent present]
      exact within
    · rw [onDevice_present present]
      exact within
  | setLimit changed => exact within
  | setObject index object => exact within

/-- While a limit is in force, the usage never passes it, whatever the machines of the context and the
owners of the devices do. And wherever a machine is, an allocation happens as a whole or not at all. -/
theorem limit_never_passed (within : w.context.memory.usage ≤ limit) (kept : w.Kept limit w') :
    w'.context.memory.usage ≤ limit ∧
      ∀ s batchSize objects, Machine.AllOrNothing s batchSize objects := by
  refine ⟨?_, Machine.allOrNothing⟩
  induction kept with
  | start => exact within
  | step kept step _ below => exact within_step kept.inForce below step

/-- Two machines on a context that has room for one buffer of 16 bytes, but not for two. -/
def cramped : Workspace :=
  let program := Assembly.bytes
    { instructions := [.context 0, .beginPass, .alloc 0 [0], .endPass] }
  let config : Config := { useDependencies := false }
  let start : Workspace :=
    { context :=
        { name := "cramped"
          objects := [{ object := .array (.zeroed .i32 4) }]
          memory := .ofLimit (some 20) }
      devices := [{}] }
  ((start.build 0 program config).state.build 0 program config).state

/-- The error of a failed allocation as a computation. -/
def refusal? (batchSize : Nat) (objects : List UInt32) (s : Session) : Option MachineError :=
  match (Machine.alloc batchSize objects s).result with
  | .error e => some e
  | .ok _ => none

private theorem refusal?_eq_some {batchSize : Nat} {objects : List UInt32} {s : Session} {e : MachineError}
    (refused : refusal? batchSize objects s = some e) :
    (Machine.alloc batchSize objects s).result = .error e := by
  unfold refusal? at refused
  split at refused
  · next failed =>
    cases refused
    exact failed
  · cases refused

/-- Both machines have run; the first one got the buffer. -/
def crampedRun : Workspace :=
  let first := (cramped.onMachine 0 (MachineCommand.execute .run).run).state
  (first.onMachine 1 (MachineCommand.execute .run).run).state

private theorem cramped_kept : cramped.Kept 20 crampedRun := by
  refine .step (.step (.start ?_) (.machine _ 0 (.execute .run)) ?_) (.machine _ 1 (.execute .run)) ?_
  all_goals decide +kernel

/-- The usage stays below the limit, and a second buffer is refused without a change. -/
theorem crampedRun_usage : cramped.context.memory.usage ≤ 20 ∧ cramped.Kept 20 crampedRun ∧
    crampedRun.context.memory.usage = 16 ∧ crampedRun.context.memory.usage ≤ 20 ∧
    ∃ device s, crampedRun.session? 1 = some (device, s) ∧
      (Machine.alloc 0 [0] s).result = .error (.outOfMemory 16 16 20) ∧ (Machine.alloc 0 [0] s).state = s := by
  have little : cramped.context.memory.usage ≤ 20 := by decide +kernel
  obtain ⟨within, whole⟩ := limit_never_passed little cramped_kept
  refine ⟨little, cramped_kept, by decide +kernel, within, ?_⟩
  have present : (crampedRun.session? 1).isSome := by decide +kernel
  have refused : ((crampedRun.session? 1).map fun found => refusal? 0 [0] found.2) =
      some (some (.outOfMemory 16 16 20)) := by
    decide +kernel
  obtain ⟨⟨device, s⟩, found⟩ := Option.isSome_iff_exists.1 present
  rw [found] at refused
  have failed := refusal?_eq_some (Option.some.inj refused)
  exact ⟨device, s, found, failed, ((whole s 0 [0]).refused _ failed).1⟩

end Workspace
end Offload
