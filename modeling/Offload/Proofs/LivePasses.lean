import Offload.Proofs.Binaries
import Offload.Proofs.EventLists
import Offload.Proofs.Holdings

/-! Passes over good handles. Each instruction of a pass that is under way keeps what the machine holds
good, whether it succeeds or not, and without atomics none of them fails with an error about a
handle. -/
namespace Offload.Machine
open Session (Safe Excused Spares)

variable {s t : Session} {α β : Type}

/-- The session is in the middle of a pass, and the latest event is good. -/
structure MidPass (s : Session) (last : Option EventId) : Prop where
  tidy : s.machine.Tidy s.device
  underway : s.machine.Underway s.device
  last : ∀ e, last = some e → s.device.events.Knows e

/-- A pass stays under way as long as good handles stay good. -/
theorem MidPass.later {last : Option EventId} (passing : MidPass s last) (safe : Safe s t) :
    MidPass t last :=
  ⟨safe.tidy passing.tidy, safe.underway passing.tidy passing.underway, fun e same =>
    ((safe.spares passing.tidy).device.events passing.tidy.sound).knows e (passing.last e same)⟩

/-- The events of a pass under way are sound. -/
theorem MidPass.sound {last : Option EventId} (passing : MidPass s last) : s.device.events.Sound :=
  passing.tidy.sound

/-! ### Errors that are not about handles -/

private theorem plain_object {c : Context} {object : Nat} {e : MachineError} (failed : c.object object = .error e) :
    e.aboutHandle = false := by
  unfold Context.object at failed
  split at failed <;> cases failed
  rfl

private theorem plain_constant {c : Context} {index : Nat} {e : MachineError}
    (failed : c.constant index = .error e) : e.aboutHandle = false := by
  unfold Context.constant at failed
  split at failed <;> cases failed
  rfl

private theorem plain_task {c : Context} {index : Nat} {e : MachineError} (failed : c.task index = .error e) :
    e.aboutHandle = false := by
  unfold Context.task at failed
  split at failed <;> cases failed
  rfl

private theorem plain_binding {bs : Bindings} {object : Nat} {e : MachineError}
    (failed : bs.get object = .error e) : e.aboutHandle = false := by
  unfold Bindings.get at failed
  split at failed <;> cases failed
  rfl

private theorem plain_boundBuffer {m : Machine} {use : BufferUse} {object : Nat} {e : MachineError}
    (failed : m.boundBuffer use object = .error e) : e.aboutHandle = false := by
  unfold boundBuffer at failed
  rcases found : m.bindings.get object with e' | binding <;> rw [found] at failed
  · cases failed
    exact plain_binding found
  · simp only [bind, Except.bind] at failed
    split at failed <;> cases failed
    rfl

private theorem plain_get {lists : EventLists} {index : Nat} {e : MachineError}
    (failed : lists.get index = .error e) : e.aboutHandle = false := by
  unfold EventLists.get at failed
  split at failed <;> cases failed
  rfl

private theorem plain_transferRange {transfer : Transfer} {size : Nat} {e : MachineError}
    (failed : transferRange transfer size = .error e) : e.aboutHandle = false := by
  unfold transferRange at failed
  split at failed
  · cases failed
  · split at failed <;> cases failed
    rfl

/-! ### Event lists -/

private theorem serves_modifyProfiler (change : Profiler → Profiler) :
    Op.Serves (Session.modifyProfiler change) Safe Excused (fun _ _ => True) s :=
  Op.serves_modify (Session.safe_of_machine rfl (fun _ => rfl) rfl fun underway => underway.lists) trivial

private theorem serves_resetList (list : Option UInt32) :
    Op.Serves (resetList list) Safe Excused (fun _ _ => True) s := by
  refine Op.serves_step ?_ ?_
  · intro e failed _
    rcases list with _ | index
    · cases failed
    · simp only [Option.map_some, EventLists.reset] at failed
      rcases found : s.machine.lists.get index.toNat with e' | events <;> rw [found] at failed <;>
        cases failed
      exact plain_get found
  · intro u t ran
    rcases emptied : s.machine.lists.reset (list.map UInt32.toNat) with e | lists <;>
      rw [emptied] at ran <;> cases ran
    refine ⟨Session.safe_of_machine rfl (fun _ => rfl) rfl fun underway => ?_, trivial⟩
    intro events listed e member
    rcases EventLists.reset_ok_iff.1 emptied with ⟨_, rfl⟩ | ⟨index, old, _, _, rfl⟩
    · exact underway.lists events listed e member
    · rcases List.mem_or_eq_of_mem_set listed with kept | rfl
      · exact underway.lists events kept e member
      · cases member

/-- A list names known events only. -/
theorem serves_waitList {last : Option EventId} (passing : MidPass s last) (list : Option UInt32) :
    Op.Serves (waitList list) Safe Excused (fun wait t => ∀ w ∈ wait, t.device.events.Knows w) s := by
  refine Op.serves_get (Op.serves_ofExcept ?_ ?_)
  · intro e failed _
    unfold EventLists.waitList at failed
    rcases list with _ | index
    · cases failed
    · simp only [Option.map_some] at failed
      split at failed
      · exact plain_get failed
      · cases failed
  · intro wait found w member
    unfold EventLists.waitList at found
    rcases list with _ | index
    · cases found
      cases member
    · simp only [Option.map_some] at found
      split at found
      · exact passing.underway.lists wait (List.mem_of_getElem? (EventLists.get_ok_iff.1 found)) w member
      · cases found
        cases member

private theorem serves_addDependency {last : Option EventId} (passing : MidPass s last) (list : Option UInt32) :
    Op.Serves (addDependency last list) Safe Excused (fun _ _ => True) s := by
  refine Op.serves_get ?_
  split
  · next event index _ =>
    refine Op.serves_step ?_ ?_
    · intro e failed _
      unfold EventLists.push at failed
      rcases found : s.machine.lists.get index.toNat with e' | events <;> rw [found] at failed
      · cases failed
        exact plain_get found
      · simp only [bind, Except.bind] at failed
        split at failed <;> cases failed
        rfl
    · intro u t ran
      rcases pushed : s.machine.lists.push index.toNat event with e | lists <;>
        rw [pushed] at ran <;> cases ran
      refine ⟨Session.safe_of_machine rfl (fun _ => rfl) rfl fun underway => ?_, trivial⟩
      obtain ⟨old, listed, _, rfl⟩ := EventLists.push_ok_iff.1 pushed
      intro events member e inside
      rcases List.mem_or_eq_of_mem_set member with kept | rfl
      · exact underway.lists events kept e inside
      · rcases List.mem_append.1 inside with earlier | new
        · exact underway.lists old (List.mem_of_getElem? listed) e earlier
        · rw [List.mem_singleton.1 new]
          exact passing.last event rfl
  · exact Op.serves_pure trivial

/-! ### Allocation and release -/

/-- Binding does what it says, and measures. -/
theorem bindAll_leaves {pairs : List (BufferRequest × DeviceBuffer)} {u : Unit}
    (ran : Op.Yields (bindAll pairs) s u t) : ∃ profiler,
    { s with machine.bindings := bindRequests s.machine.bindings pairs, machine.profiler := profiler } =
      t := by
  induction pairs generalizing s with
  | nil =>
    obtain ⟨_, rfl⟩ := Op.yields_pure.1 ran
    exact ⟨s.machine.profiler, rfl⟩
  | cons pair rest ih =>
    simp only [bindAll, Session.modifyBinding, addMetric, Session.modifyProfiler,
      Session.modifyMachine, Op.yields_bind, Op.yields_modify] at ran
    obtain ⟨_, _, rfl, _, _, rfl, all⟩ := ran
    exact ih all

/-- A machine that binds new buffers to objects without one. -/
theorem tidy_bindRequests {device : Device} {requests : List BufferRequest} {buffers : List DeviceBuffer}
    {m : Machine} (tidy : s.machine.Tidy s.device)
    (calm : Device.Calm s.machine.Binds s.device device) (atomics : device.atomics = s.device.atomics)
    (allocated : s.device.memory.allocate (requests.map BufferRequest.size) = .ok (buffers, device.memory))
    (epoch : m.epoch = s.machine.epoch) (cache : m.cache = s.machine.cache)
    (bindings : m.bindings = bindRequests s.machine.bindings (requests.zip buffers)) :
    m.Tidy device ∧ ∀ id, m.Binds id → s.machine.Binds id ∨ s.device.memory.nextId ≤ id := by
  obtain ⟨_, added⟩ := Memory.allocate_ok_iff.1 allocated
  have fresh := Memory.addBuffers_fresh s.device.memory (requests.map BufferRequest.size)
  have lives := Memory.addBuffers_live s.device.memory (requests.map BufferRequest.size)
  have apart := Memory.addBuffers_ids s.device.memory (requests.map BufferRequest.size)
  rw [added] at fresh lives apart
  have later := tidy.calm calm
  -- A buffer that is bound now was bound before, or it is one of the new ones.
  have origin (object : Nat) (b : DeviceBuffer) (bound : m.bindings.buffer? object = some b) :
      s.machine.bindings.buffer? object = some b ∨
        ∃ r, (r, b) ∈ requests.zip buffers ∧ r.object = object := by
    rw [bindings] at bound
    exact buffer?_bindRequests bound
  have old (object : Nat) (b : DeviceBuffer) (bound : s.machine.bindings.buffer? object = some b) :
      b.id < s.device.memory.nextId := tidy.old ⟨object, b, bound, rfl⟩
  have new (r : BufferRequest) (b : DeviceBuffer) (paired : (r, b) ∈ requests.zip buffers) :
      b ∈ buffers := (List.of_mem_zip paired).2
  have binds : ∀ id, m.Binds id → s.machine.Binds id ∨ s.device.memory.nextId ≤ id := by
    rintro id ⟨object, b, bound, rfl⟩
    rcases origin object b bound with before | ⟨r, paired, _⟩
    · exact .inl ⟨object, b, before, rfl⟩
    · exact .inr (fresh b (new r b paired))
  refine ⟨⟨later.sound, epoch ▸ later.epoch, ?_, ?_, ?_, ?_, ?_⟩, binds⟩
  · rw [bindings]
    refine issuedBy_bindRequests later.issued fun pair member => ?_
    exact allocate_issued allocated pair.2 (List.of_mem_zip member).2
  · intro object other b b' bound bound' same
    rcases origin object b bound with before | ⟨r, paired, rfl⟩ <;>
      rcases origin other b' bound' with before' | ⟨r', paired', rfl⟩
    · exact tidy.distinct object other b b' before before' same
    · exact absurd (fresh b' (new r' b' paired')) (Nat.not_le.2 (same ▸ old object b before))
    · exact absurd (fresh b (new r b paired)) (Nat.not_le.2 (same ▸ old other b' before'))
    · have seconds : (requests.zip buffers).map Prod.snd = buffers :=
        List.map_snd_zip (Nat.le_of_eq (allocate_sizes allocated))
      rw [← seconds, List.pairwise_map] at apart
      have symmetric : Std.Symm fun a b : BufferRequest × DeviceBuffer => a.2.id ≠ b.2.id :=
        ⟨fun _ _ => Ne.symm⟩
      by_contra different
      exact apart.forall paired paired' (fun equal => different (by rw [(Prod.mk.inj equal).1])) same
  · intro id slot
    refine ⟨(later.slot id slot).1, fun mine => ?_⟩
    rcases binds id mine with before | late
    · exact (later.slot id slot).2 before
    · obtain ⟨b, remembered, same⟩ := slot
      exact absurd late (Nat.not_le.2 (tidy.slot id ⟨b, atomics ▸ remembered, same⟩).1)
  · intro current object b bound
    rcases origin object b bound with before | ⟨r, paired, _⟩
    · exact later.live (current.trans epoch) object b before
    · exact (lives b (new r b paired)).2
  · exact fun slot member code found => (tidy.binaries slot (cache ▸ member) code found).trans epoch.symm

private theorem plain_bufferRequests {c : Context} {bs : Bindings} {batchSize : Nat} {objects : List UInt32}
    {requests : List BufferRequest} {e : MachineError}
    (failed : bufferRequests c bs batchSize objects requests = .error e) : e.aboutHandle = false := by
  induction objects generalizing requests with
  | nil => cases failed
  | cons index rest ih =>
    simp only [bufferRequests] at failed
    rcases inRange : c.object index.toNat with e' | entry <;> rw [inRange] at failed
    · cases failed
      exact plain_object inRange
    rcases found : bs.get index.toNat with e' | binding <;> rw [found] at failed
    · cases failed
      exact plain_binding found
    simp only [bind, Except.bind] at failed
    split at failed <;> exact ih failed

private theorem serves_alloc (batchSize : Nat) (objects : List UInt32) :
    Op.Serves (alloc batchSize objects) Safe Excused (fun _ _ => True) s := by
  refine Op.serves_get (Op.serves_ofExcept_bind (fun e failed _ => plain_bufferRequests failed)
    fun requests _ => ?_)
  split
  · exact Op.serves_pure trivial
  refine Op.serves_ofExcept_bind (fun e failed _ => ?_) fun _ _ => ?_
  · unfold MemoryBudget.check at failed
    split at failed
    · cases failed
    · split at failed <;> cases failed
      rfl
  have allocates := Session.serves_plain (s := s)
    (Device.serves_allocate (requests.map BufferRequest.size))
  refine Op.serves_whole (fun e failed => ⟨allocates.state, allocates.error e failed⟩) (fun buffers => ?_)
    fun buffers t u v allocated rest => ?_
  · refine Op.succeeds_bind (Op.succeeds_modify _) fun _ => ?_
    exact Op.succeeds_bind (succeeds_bindAll _) fun _ => Op.succeeds_emit _
  obtain ⟨safe, made, atomics⟩ := allocates.yields allocated
  obtain ⟨device, ran, rfl⟩ := yields_onDevice.1 allocated
  have calm : Device.Calm s.machine.Binds s.device device := by
    rw [← ran.2]
    exact (Device.serves_allocate _).state
  simp only [Session.modifyMemory, Op.yields_bind, Op.yields_modify, Op.yields_emit] at rest
  obtain ⟨_, _, rfl, _, _, bound, rfl⟩ := rest
  obtain ⟨profiler, rfl⟩ := bindAll_leaves bound
  have holds (tidy : s.machine.Tidy s.device) := tidy_bindRequests (m := { s.machine with
    bindings := bindRequests s.machine.bindings (requests.zip buffers), profiler }) tidy calm atomics made
    rfl rfl rfl
  refine ⟨⟨fun tidy => (holds tidy).1, fun tidy => ⟨calm.toSpares, (holds tidy).2⟩,
    fun tidy underway => ?_, Iff.rfl, calm.kernels⟩, trivial⟩
  exact ⟨(safe.underway tidy underway).current, (safe.underway tidy underway).lists⟩

/-- To give back a buffer leaves the other ones alone. -/
theorem safe_unbind {object freed : Nat} {buffer : DeviceBuffer} {memory : Memory}
    {budget : MemoryBudget} {counters : DeviceCounters}
    (bound : s.machine.bindings.buffer? object = some buffer)
    (released : s.device.memory.free buffer.id = .ok (freed, memory)) :
    Safe s { s with
      context.memory := budget
      device.memory := memory
      device.counters := counters
      machine.bindings := s.machine.bindings.modify object Binding.unbind } := by
  obtain ⟨held, _, _, rfl⟩ := Memory.free_ok_iff.1 released
  have left {id : BufferId} (differ : buffer.id ≠ id) :
      (s.device.memory.buffers.erase buffer.id).get? id = s.device.memory.buffers.get? id :=
    (Table.get?_erase _ _ _).trans (if_neg differ)
  have kept {other : Nat} {b : DeviceBuffer}
      (bound' : (s.machine.bindings.modify object Binding.unbind).buffer? other = some b) :
      s.machine.bindings.buffer? other = some b ∧ object ≠ other := by
    rw [bufferOf_unbind] at bound'
    split at bound'
    · cases bound'
    · next differ => exact ⟨bound', differ⟩
  have grows := Memory.grows_erase s.device.memory buffer.id (s.device.memory.allocated - held.size)
  refine ⟨fun tidy => ?_, fun tidy => ⟨⟨rfl, rfl, Op.Transition.refl _, grows,
    fun _ => .inl, fun id _ foreign _ => left ?_⟩, ?_⟩, fun _ underway => ⟨underway.current, underway.lists⟩,
    Iff.rfl, rfl⟩
  · refine ⟨tidy.sound, tidy.epoch, ?_, ?_, ?_, ?_, tidy.binaries⟩
    · exact Bindings.issuedBy_later (Bindings.issuedBy_unbind tidy.issued) grows
    · exact fun other other' b b' bound' bound'' =>
        tidy.distinct other other' b b' (kept bound').1 (kept bound'').1
    · intro id slot
      refine ⟨(tidy.slot id slot).1, ?_⟩
      rintro ⟨other, b, bound', same⟩
      exact (tidy.slot id slot).2 ⟨other, b, (kept bound').1, same⟩
    · intro current other b bound'
      obtain ⟨here, differ⟩ := kept bound'
      have apart : buffer.id ≠ b.id := fun same => differ (tidy.distinct _ _ _ _ bound here same)
      rw [Memory.live_iff]
      dsimp only
      rw [left apart, ← Memory.live_iff]
      exact tidy.live current other b here
  · exact fun same => foreign ⟨object, buffer, bound, same⟩
  · rintro id ⟨other, b, bound', same⟩
    exact .inl ⟨other, b, (kept bound').1, same⟩

/-- A release keeps the handles of all others good. -/
theorem safe_dealloc (object : Nat) : Op.Moves (dealloc object) Safe := by
  intro s
  rcases ended : (dealloc object s).result with e | freed
  · rw [refuses_dealloc object s e ended]
    exact Op.Transition.refl s
  · obtain ⟨entry, binding, _, found, outcome⟩ := yields_dealloc.1 ⟨ended, rfl⟩
    rcases outcome with ⟨_, _, same⟩ | ⟨buffer, memory, bound, released, same⟩ <;> rw [← same]
    · exact Op.Transition.refl s
    · exact safe_unbind ((Bindings.buffer?_of_get found).trans bound) released

private theorem serves_dealloc {last : Option EventId} (passing : MidPass s last) (object : Nat) :
    Op.Serves (dealloc object) Safe Excused (fun _ _ => True) s := by
  refine ⟨safe_dealloc object s, fun e failed _ => ?_, fun _ _ => trivial⟩
  rcases inRange : s.context.object object with e' | entry
  · rw [dealloc, Op.get_bind, inRange] at failed
    cases failed
    exact plain_object inRange
  rcases found : s.machine.bindings.get object with e' | binding
  · rw [dealloc, Op.get_bind, inRange, found] at failed
    cases failed
    exact plain_binding found
  -- What is bound is alive, so that the device takes it back.
  have done : ∃ freed t, Op.Yields (dealloc object) s freed t := by
    rcases bound : binding.buffer with _ | buffer
    · exact ⟨0, s, yields_dealloc.2 ⟨entry, binding, inRange, found, .inl ⟨bound, rfl, rfl⟩⟩⟩
    · have held := (Bindings.buffer?_of_get found).trans bound
      obtain ⟨content, live, _⟩ := passing.tidy.live passing.underway.current object buffer held
      exact ⟨content.size, _, yields_dealloc.2 ⟨entry, binding, inRange, found, .inr ⟨buffer, _, bound,
        Memory.free_ok_iff.2 ⟨content, live, rfl, rfl⟩, rfl⟩⟩⟩
  obtain ⟨freed, t, succeeded, _⟩ := done
  cases succeeded.symm.trans failed

/-! ### Copies -/

private theorem serves_addEventTimes {timer : TimerKind} {events : List EventId} {last : Option EventId}
    (passing : MidPass s last) (known : ∀ e ∈ events, s.device.events.Knows e) :
    Op.Serves (addEventTimes timer events) Safe Excused (fun _ _ => True) s := by
  induction events generalizing s with
  | nil => exact Op.serves_pure trivial
  | cons event rest ih =>
    refine Op.serves_bind (Session.serves_plain (Device.serves_resolveEvent passing.sound
      (known event (List.mem_cons_self ..)))) fun _ t safe _ => ?_
    refine Op.serves_bind (serves_modifyProfiler _) fun _ u safe' _ => ?_
    refine Op.serves_bind (serves_modifyProfiler _) fun _ v safe'' _ => ?_
    have all := Op.Transition.trans safe (Op.Transition.trans safe' safe'')
    refine ih (passing.later all) fun e member => ?_
    exact ((all.spares passing.tidy).device.events passing.sound).knows e
      (known e (List.mem_cons_of_mem _ member))

private theorem serves_profileTransfer {events : List EventId} {timer : TimerKind} {metric : MetricKind}
    {object bytes : Nat} {last : Option EventId} (passing : MidPass s last)
    (known : ∀ e ∈ events, s.device.events.Knows e) :
    Op.Serves (profileTransfer events timer metric object bytes) Safe Excused (fun _ _ => True) s := by
  refine Op.serves_get ?_
  split
  · refine Op.serves_bind (Session.serves_plain (Device.serves_waitEvents passing.sound known))
      fun _ t safe _ => ?_
    refine Op.serves_bind (serves_addEventTimes (passing.later safe) fun e member => ?_)
      fun _ u _ _ => serves_modifyProfiler _
    exact ((safe.spares passing.tidy).device.events passing.sound).knows e (known e member)
  · exact Op.serves_pure trivial

/-- Events stay good. -/
theorem knows_later {last : Option EventId} {e : EventId} (passing : MidPass s last) (safe : Safe s t)
    (known : s.device.events.Knows e) : t.device.events.Knows e :=
  ((safe.spares passing.tidy).device.events passing.sound).knows e known

private theorem serves_setContent (object : Nat) (present : Bool) :
    Op.Serves (Session.modifyBinding object fun b => b.setContent present) Safe Excused (fun _ _ => True)
      s :=
  Op.serves_modify (Session.safe_of_machine rfl (fun _ => Bindings.buffer?_modify_same fun _ => rfl) rfl
    fun underway => underway.lists) trivial

private theorem serves_transferIn {last : Option EventId} (passing : MidPass s last) (transfer : Transfer)
    (once : Bool) : Op.Serves (transferIn transfer once) Safe Excused (fun _ _ => True) s := by
  refine Op.serves_get (Op.serves_ofExcept_bind (fun e failed _ => plain_object failed) fun entry _ => ?_)
  split
  · exact Op.serves_pure trivial
  refine Op.serves_ofExcept_bind (fun e failed _ => plain_boundBuffer failed) fun buffer bound => ?_
  refine Op.serves_ofExcept_bind (fun e failed _ => plain_binding failed) fun binding _ => ?_
  refine Op.serves_ite (fun _ => serves_resetList _) fun _ => ?_
  refine Op.serves_ofExcept_bind (fun e failed _ => plain_transferRange failed) fun range _ => ?_
  have held := boundBuffer_ok_iff.1 bound
  refine Op.serves_bind ((serves_waitList passing _).moving (S := Eq) ?_)
    fun wait t safe ⟨known, same⟩ => ?_
  · exact Op.moves_bind Op.moves_get fun _ => Op.moves_ofExcept _
  subst same
  have live := passing.tidy.live passing.underway.current _ buffer held
  refine Op.serves_bind (Session.serves_plain (Device.serves_streamIn ⟨_, buffer, held, rfl⟩ live
    passing.sound known)) fun events t copied fresh => ?_
  have rest (u : Session) (safe : Safe s u) (known : ∀ e ∈ events, u.device.events.Knows e) :
      Op.Serves (do
        resetList transfer.list
        profileTransfer events .copyIn .copyInBytes transfer.object.toNat range.size)
        Safe Excused (fun _ _ => True) u :=
    Op.serves_bind (serves_resetList _) fun _ v safe' _ =>
      serves_profileTransfer ((passing.later safe).later safe') fun e member =>
        knows_later (passing.later safe) safe' (known e member)
  refine Op.serves_ite (fun _ => ?_) fun _ => rest t copied fresh
  refine Op.serves_bind (serves_setContent _ _) fun _ u safe' _ => ?_
  exact rest u (Op.Transition.trans copied safe') fun e member =>
    knows_later (passing.later copied) safe' (fresh e member)

/-- The marks of the objects tell whether there is an atomic one. -/
theorem atomicFree_iff {c : Context} :
    c.AtomicFree ↔ ∀ atomic ∈ c.objects.map ObjectEntry.atomic, atomic = false := by
  simp only [Context.AtomicFree, List.forall_mem_map]

private theorem atomicFree_setObject (c : Context) (index : Nat) (object : HostObject) :
    (c.setObject index object).AtomicFree ↔ c.AtomicFree := by
  have same : (c.setObject index object).objects.map ObjectEntry.atomic =
      c.objects.map ObjectEntry.atomic := by
    refine List.ext_getElem? fun i => ?_
    simp only [Context.setObject, List.getElem?_map, List.getElem?_modify]
    rcases c.objects[i]? with _ | entry
    · rfl
    · simp only [Option.map_some]
      split <;> rfl
  rw [atomicFree_iff, atomicFree_iff, same]

private theorem serves_onObject {index : Nat} {object : HostObject} {op : Device.CopyOut α}
    {P : α → EventTable → Prop}
    (serves : Op.Serves op (Device.OfCopy (Device.Calm s.machine.Binds)) Device.CopyPlain
      (fun a part => P a part.2.events) (object, s.device)) :
    Op.Serves (onObject index object op) Safe Excused (fun a t => P a t.device.events) s := by
  refine Op.serves_onPart (F := fun _ e => s.Excused e) (Op.serves_mapError serves ?_)
    (fun part calm => ?_) (fun _ excused => excused) fun _ _ holds => holds
  · intro e plain _
    rw [MachineError.aboutHandle_ofDevice]
    exact plain
  · exact Op.Transition.trans (Session.safe_of_calm calm : Safe s { s with device := part.2 })
      (Session.safe_of_context (atomicFree_setObject _ index part.1))

private theorem serves_transferOut {last : Option EventId} (passing : MidPass s last) (transfer : Transfer)
    (blocking : Bool) : Op.Serves (transferOut transfer blocking) Safe Excused
      (fun event t => ∀ e, event = some e → t.device.events.Knows e) s := by
  refine Op.serves_get (Op.serves_ofExcept_bind (fun e failed _ => plain_object failed) fun entry _ => ?_)
  refine Op.serves_ite (fun _ => Op.serves_pure nofun) fun _ => ?_
  refine Op.serves_ofExcept_bind (fun e failed _ => plain_boundBuffer failed) fun buffer bound => ?_
  refine Op.serves_ofExcept_bind (fun e failed _ => plain_transferRange failed) fun range _ => ?_
  refine Op.serves_bind ((serves_waitList passing _).moving (S := Eq) ?_)
    fun wait t safe ⟨known, same⟩ => ?_
  · exact Op.moves_bind Op.moves_get fun _ => Op.moves_ofExcept _
  subst same
  have live := passing.tidy.live passing.underway.current _ buffer (boundBuffer_ok_iff.1 bound)
  refine Op.serves_bind (serves_onObject (P := fun event t => t.Knows event) (Op.serves_ite
    (fun _ => Device.serves_streamOutBlocking live passing.sound known)
    fun _ => Device.serves_streamOut live passing.sound known)) fun event t copied fresh => ?_
  refine Op.serves_bind (serves_resetList _) fun _ u safe' _ => ?_
  have passing' := passing.later copied
  have known' := knows_later passing' safe' fresh
  refine Op.serves_bind (serves_profileTransfer (passing'.later safe') fun e member => ?_)
    fun _ v safe'' _ => Op.serves_pure ?_
  · rw [List.mem_singleton.1 member]
    exact known'
  · rintro e ⟨⟩
    exact knows_later (passing'.later safe') safe'' known'

/-! ### Binaries -/

/-- Another cache whose binaries are of the same epoch. -/
theorem safe_of_cache {cache : CodeCache} (stats : MachineStats)
    (binaries : s.machine.Tidy s.device → cache.Dated s.machine.epoch) :
    Safe s { s with machine.cache := cache, machine.stats := stats } where
  tidy tidy := tidy.machine rfl (fun _ => rfl) (binaries tidy)
  spares _ := ⟨Op.Transition.refl _, fun _ => .inl⟩
  underway _ underway := ⟨underway.current, underway.lists⟩
  atomicFree := Iff.rfl
  kernels := rfl

private theorem safe_prepare (index threads : Nat) (indexInWrite : Bool) :
    Safe s { s with machine.cache := (s.machine.cache.prepare index threads indexInWrite).2 } :=
  safe_of_cache s.machine.stats fun tidy => CodeCache.dated_prepare tidy.binaries index threads indexInWrite

private theorem safe_install {index : Nat} {code : Binary} {indexInWrite : Bool} {stats : MachineStats}
    (current : code.epoch = s.machine.epoch) :
    Safe s { s with
      machine.cache := s.machine.cache.install index code indexInWrite, machine.stats := stats } :=
  safe_of_cache _ fun tidy => CodeCache.dated_install tidy.binaries index indexInWrite current

/-- To name the task in an error keeps its excuse. -/
theorem excused_forTask {task : String} {e : MachineError} (excused : s.Excused e) :
    s.Excused (e.forTask task) := by
  intro fair
  rw [MachineError.aboutHandle_forTask]
  exact excused fair

private theorem serves_buildCode {last : Option EventId} (passing : MidPass s last) (index : Nat) (task : Task) :
    Op.Serves (buildCode index task) Safe Excused (fun _ _ => True) s := by
  refine Op.serves_get ?_
  refine Op.serves_bind (Op.serves_attempt (Session.serves_plain Device.serves_installCode))
    fun installed t safe ⟨excused, built⟩ => Op.serves_emit_bind ?_
  cases installed with
  | error e =>
    exact Op.serves_fail (excused_forTask ((excused e rfl).later safe))
  | ok code =>
    -- A fresh binary is of the epoch of the device, which is that of the machine.
    have current : code.epoch = t.machine.epoch :=
      (built code rfl).trans (passing.later safe).underway.current
    refine Op.serves_modify_bind (Session.safe_of_machine rfl (fun _ => rfl) rfl
      fun underway => underway.lists) ?_
    exact Op.serves_modify (safe_install (s := { t with
      machine.profiler := t.machine.profiler.addTimer .compile 0 }) current) trivial

private theorem serves_fitCode {last : Option EventId} (passing : MidPass s last) (l : Launch) :
    Op.Serves (fitCode l) Safe Excused (fun _ _ => True) s := by
  refine Op.serves_get (Op.serves_ofExcept_bind (fun e failed _ => plain_task failed) fun task _ => ?_)
  have prepared := safe_prepare (s := s) l.task.toNat l.batchThreads.toNat task.writesLoopIndex
  refine Op.serves_modify_bind prepared ?_
  have built {due : Prop} [Decidable due] : Op.Serves
      (if due then buildCode l.task.toNat task else pure ()) Safe Excused (fun _ _ => True)
      { s with machine.cache :=
          (s.machine.cache.prepare l.task.toNat l.batchThreads.toNat task.writesLoopIndex).2 } :=
    Op.serves_ite (fun _ => serves_buildCode (passing.later prepared) _ _) fun _ => Op.serves_pure trivial
  exact Op.serves_ite (fun _ => Op.serves_emit_bind built) fun _ => built

/-- A compilation fails over no handle. -/
theorem serves_compile {last : Option EventId} (passing : MidPass s last) (l : Launch) :
    Op.Serves (compile l) Safe Excused (fun _ _ => True) s := by
  obtain ⟨result, state⟩ := syncEpoch_current passing.underway.current
  refine Op.serves_bind (P := fun _ t => t = s) ⟨?_, ?_, ?_⟩ fun _ t _ same => ?_
  · rw [state]
    exact Op.Transition.refl s
  · intro e failed
    cases result.symm.trans failed
  · exact fun _ _ => state
  · rw [same]
    exact serves_fitCode passing l

/-! ### Launches -/

/-- Installed code is valid and of the epoch of the device. -/
theorem serves_installedCode {last : Option EventId} (passing : MidPass s last) (l : Launch) :
    Op.Serves (installedCode l) Safe Excused
      (fun code t => s = t ∧ code.valid = true ∧ code.epoch = s.device.epoch) s := by
  refine Op.serves_get (Op.serves_ofExcept_bind (fun e failed _ => plain_task failed) fun task _ => ?_)
  refine Op.serves_ofExcept ?_ fun code found => ?_
  · intro e failed _
    split at failed <;> cases failed
    rfl
  · split at found <;> cases found
    next held =>
    obtain ⟨valid, epoch⟩ := CodeCache.dated_code passing.tidy.binaries held
    exact ⟨rfl, valid, epoch.trans passing.underway.current.symm⟩

private theorem plain_atomicValues {object : HostObject} {index : Nat} {e : MachineError}
    (failed : atomicValues object index = .error e) : e.aboutHandle = false := by
  unfold atomicValues at failed
  split at failed
  · split at failed <;> cases failed
    rfl
  · cases failed
  · cases failed
    rfl

private theorem plain_bindArgs {c : Context} {m : Machine} {args : List LaunchArg} {frame : List KernelArg}
    {atomics : List Int32} {e : MachineError} (failed : bindArgs c m args frame atomics = .error e) :
    e.aboutHandle = false := by
  induction args generalizing frame atomics with
  | nil => cases failed
  | cons arg rest ih =>
    cases arg with
    | constant index =>
      simp only [bindArgs] at failed
      rcases found : c.constant index.toNat with e' | value <;> rw [found] at failed
      · cases failed
        exact plain_constant found
      · exact ih failed
    | reference index =>
      simp only [bindArgs] at failed
      rcases found : c.object index.toNat with e' | entry <;> rw [found] at failed
      · cases failed
        exact plain_object found
      simp only [bind, Except.bind] at failed
      split at failed
      · exact ih failed
      split at failed
      · rcases values : atomicValues entry.object index.toNat with e' | v <;> rw [values] at failed
        · cases failed
          exact plain_atomicValues values
        · exact ih failed
      · rcases bound : m.boundBuffer .launchArgument index.toNat with e' | b <;> rw [bound] at failed
        · cases failed
          exact plain_boundBuffer bound
        · exact ih failed

/-- A frame refers to bound buffers, and there are atomics only if an object is atomic. -/
theorem bindArgs_holds {c : Context} {m : Machine} {args : List LaunchArg} {frame frame' : List KernelArg}
    {atomics atomics' : List Int32} (bound : bindArgs c m args frame atomics = .ok (frame', atomics')) :
    (∀ b, .buffer b ∈ frame' → .buffer b ∈ frame ∨ ∃ object, m.bindings.buffer? object = some b) ∧
      (c.AtomicFree → atomics' = atomics) := by
  induction args generalizing frame atomics with
  | nil =>
    cases bound
    exact ⟨fun _ => .inl, fun _ => rfl⟩
  | cons arg rest ih =>
    -- An argument that is not a buffer adds nothing.
    have skip {arg : KernelArg} {atomics₁ : List Int32} (other : ∀ b, arg ≠ .buffer b)
        (ran : bindArgs c m rest (frame ++ [arg]) atomics₁ = .ok (frame', atomics'))
        (same : c.AtomicFree → atomics₁ = atomics) :
        (∀ b, .buffer b ∈ frame' → .buffer b ∈ frame ∨ ∃ object, m.bindings.buffer? object = some b) ∧
          (c.AtomicFree → atomics' = atomics) := by
      refine ⟨fun b member => ?_, fun free => ((ih ran).2 free).trans (same free)⟩
      refine ((ih ran).1 b member).imp_left fun inside => ?_
      rcases List.mem_append.1 inside with old | new
      · exact old
      · exact absurd (List.mem_singleton.1 new).symm (other b)
    cases arg with
    | constant index =>
      simp only [bindArgs] at bound
      rcases found : c.constant index.toNat with e | value <;> rw [found] at bound
      · cases bound
      · exact skip (by rintro _ ⟨⟩) bound fun _ => rfl
    | reference index =>
      simp only [bindArgs] at bound
      rcases found : c.object index.toNat with e | entry <;> rw [found] at bound
      · cases bound
      simp only [bind, Except.bind] at bound
      split at bound
      · exact skip (by rintro _ ⟨⟩) bound fun _ => rfl
      split at bound
      · next atomic =>
        rcases values : atomicValues entry.object index.toNat with e | v <;> rw [values] at bound
        · cases bound
        · refine skip (by rintro _ ⟨⟩) bound fun free => ?_
          have member : entry ∈ c.objects := by
            unfold Context.object at found
            split at found <;> cases found
            next held => exact List.mem_of_getElem? held
          rw [free entry member] at atomic
          cases atomic
      · rcases held : m.boundBuffer .launchArgument index.toNat with e | b <;> rw [held] at bound
        · cases bound
        · refine ⟨fun b' member => ?_, (ih bound).2⟩
          rcases (ih bound).1 b' member with inside | other
          · rcases List.mem_append.1 inside with old | new
            · exact .inl old
            · cases List.mem_singleton.1 new
              exact .inr ⟨_, boundBuffer_ok_iff.1 held⟩
          · exact .inr other

/-- The machine itself is not changed. -/
def SameMachine (s t : Session) : Prop :=
  t.machine = s.machine

instance : Op.Transition SameMachine where
  refl _ := rfl
  trans first second := Eq.trans second first

/-- What a bound launch hands to the device. -/
structure Handed (b : BoundLaunch) (s : Session) : Prop where
  frame : ∀ buffer, .buffer buffer ∈ b.frame → ∃ object, s.machine.bindings.buffer? object = some buffer
  slot : ∀ buffer, b.atomics = some buffer → s.device.Slot buffer.id
  without : s.context.AtomicFree → b.atomics = none
  wait : ∀ w ∈ b.wait, s.device.events.Knows w

private theorem serves_sendAtomics {last : Option EventId} (passing : MidPass s last) {values : List Int32}
    (without : s.context.AtomicFree → values = []) :
    Op.Serves (sendAtomics values) Safe Excused (fun sent t =>
      (∀ buffer, sent.1 = some buffer → t.device.Slot buffer.id) ∧
        (t.context.AtomicFree → sent.1 = none) ∧ ∀ w ∈ sent.2, t.device.events.Knows w) s := by
  refine Op.serves_ite (fun _ => Op.serves_pure ⟨nofun, fun _ => rfl, nofun⟩) fun sends => ?_
  have atomics : ¬ s.context.AtomicFree := fun free => sends (List.isEmpty_iff.2 (without free))
  refine Op.serves_bind (Session.serves_onDevice (Device.serves_writeAtomics passing.sound nofun)
    fun _ _ fair => absurd fair.1 atomics) fun sent t safe ⟨slot, known⟩ => ?_
  refine Op.serves_pure ⟨?_, fun free => absurd (safe.atomicFree.1 free) atomics, known⟩
  rintro buffer ⟨⟩
  exact slot

/-- A launch is bound to good handles. -/
theorem serves_bindLaunch {last : Option EventId} (passing : MidPass s last) (l : Launch) :
    Op.Serves (bindLaunch l) Safe Excused Handed s := by
  refine Op.serves_get (Op.serves_ofExcept_bind (fun e failed _ => plain_task failed) fun task _ => ?_)
  have erased : Safe s { s with machine.frames := s.machine.frames.erase l.wrapper } :=
    Session.safe_of_machine rfl (fun _ => rfl) rfl fun underway => underway.lists
  refine Op.serves_modify_bind erased ?_
  refine Op.serves_ofExcept_bind (fun e failed _ => plain_bindArgs failed) fun bound ran => ?_
  obtain ⟨buffers, without⟩ := bindArgs_holds ran
  have passing' := passing.later erased
  refine Op.serves_bind ((serves_waitList passing' _).moving (S := Eq) ?_)
    fun wait t safe ⟨known, same⟩ => ?_
  · exact Op.moves_bind Op.moves_get fun _ => Op.moves_ofExcept _
  subst same
  refine Op.serves_bind ((serves_sendAtomics passing' without).moving (S := SameMachine) ?_)
    fun sent t sending ⟨⟨slot, unsent, written⟩, same⟩ => Op.serves_pure ?_
  · unfold sendAtomics
    exact Op.moves_ite (Op.moves_pure _) (Op.moves_bind (fun _ => rfl) fun _ => Op.moves_pure _)
  have waited (w : EventId) (member : w ∈ wait) : t.device.events.Knows w :=
    knows_later passing' sending (known w member)
  refine ⟨fun buffer member => ?_, slot, unsent, fun w member => ?_⟩
  · rw [show t.machine = _ from same]
    exact (buffers buffer member).resolve_left nofun
  · dsimp only at member
    split at member
    · exact (List.mem_append.1 member).elim (waited w) (written w)
    · exact waited w member

private theorem serves_enqueue {last : Option EventId} (passing : MidPass s last) {l : Launch} {code : Binary}
    {b : BoundLaunch} (valid : code.valid = true) (epoch : code.epoch = s.device.epoch)
    (handed : Handed b s) :
    Op.Serves (enqueue l code b) Safe Excused (fun event t => t.device.events.Knows event) s := by
  have launches : Op.Serves (Device.launch code b.frame b.atomics b.grid l.offset.toNat b.wait)
      (Device.Calm s.machine.Binds) _ _ s.device := Device.serves_launch valid epoch
    (fun buffer member => by
      obtain ⟨object, bound⟩ := handed.frame buffer member
      exact ⟨⟨object, buffer, bound, rfl⟩,
        passing.tidy.live passing.underway.current object buffer bound⟩)
    handed.slot passing.sound handed.wait
  refine Op.serves_bind (Op.serves_attempt (Session.serves_onDevice launches
    fun e plain fair => plain fair.2 (handed.without fair.1))) fun launched t safe ⟨excused, known⟩ => ?_
  have framed : Safe t { t with machine.frames := t.machine.frames.insert l.wrapper b.frame } :=
    Session.safe_of_machine rfl (fun _ => rfl) rfl fun underway => underway.lists
  refine Op.serves_modify_bind framed ?_
  have passing' := (passing.later safe).later framed
  cases launched with
  | error e =>
    exact Op.serves_fail (excused_forTask (((excused e rfl).later safe).later framed))
  | ok event =>
    refine Op.serves_bind (serves_resetList _) fun _ u emptied _ => Op.serves_get ?_
    have passing'' := passing'.later emptied
    have fresh : u.device.events.Knows event := knows_later passing' emptied (known event rfl)
    have known : ∀ e ∈ [event], u.device.events.Knows e := by
      intro e member
      rw [List.mem_singleton.1 member]
      exact fresh
    refine Op.serves_ite (fun _ => ?_) fun _ => Op.serves_pure fresh
    refine Op.serves_bind (serves_modifyProfiler _) fun _ v timed _ => ?_
    have passing₃ := passing''.later timed
    refine Op.serves_bind (Session.serves_plain (Device.serves_waitEvents passing₃.sound fun e member =>
      knows_later passing'' timed (known e member))) fun _ w waited _ => ?_
    have fresh' := knows_later passing₃ waited (knows_later passing'' timed fresh)
    have passing₄ := passing₃.later waited
    refine Op.serves_bind (Session.serves_plain (Device.serves_resolveEvent passing₄.sound fresh'))
      fun profile x resolved _ => ?_
    refine Op.serves_bind (serves_modifyProfiler _) fun _ y measured _ => Op.serves_pure ?_
    exact knows_later passing₄ (Op.Transition.trans resolved measured) fresh'

private theorem serves_dispatch {last : Option EventId} (passing : MidPass s last) (l : Launch) :
    Op.Serves (dispatch l) Safe Excused (fun event t => t.device.events.Knows event) s := by
  refine Op.serves_bind (serves_installedCode passing l) fun code t _ ⟨same, valid, epoch⟩ => ?_
  subst same
  refine Op.serves_bind (serves_bindLaunch passing l) fun b u safe handed => ?_
  exact serves_enqueue (passing.later safe) valid
    (epoch.trans (safe.spares passing.tidy).device.epoch.symm) handed

/-! ### Instructions -/

private theorem serves_barrier {last : Option EventId} (passing : MidPass s last) (list : Option UInt32) :
    Op.Serves (barrier list) Safe Excused (fun marker t => t.device.events.Knows marker) s := by
  refine Op.serves_bind (serves_waitList passing _) fun wait t safe known => ?_
  have passing' := passing.later safe
  refine Op.serves_bind (Session.serves_plain (Device.serves_enqueueMarker passing'.sound known))
    fun marker u marked fresh => Op.serves_emit_bind ?_
  refine Op.serves_bind (serves_resetList _) fun _ v emptied _ => Op.serves_pure ?_
  exact knows_later (passing'.later marked) emptied fresh

private theorem serves_keepOnDevice (object : Nat) :
    Op.Serves (keepOnDevice object) Safe Excused (fun _ _ => True) s :=
  Op.serves_get (Op.serves_ofExcept_bind (fun _ failed _ => plain_object failed) fun _ _ =>
    Op.serves_emit trivial)

private theorem serves_flush : Op.Serves (Session.onDevice Device.flush) Safe Excused (fun _ _ => True) s :=
  Session.serves_plain (Device.serves_count _)

private theorem serves_endRun {last : Option EventId} (passing : MidPass s last) :
    Op.Serves endRun Safe Excused (fun _ _ => True) s := by
  refine Op.serves_get ?_
  have flushed {t : Session} (marker : Option EventId) : Op.Serves (do
      if s.machine.config.flushOnEnd then Session.onDevice Device.flush else pure ()
      pure marker : MachineOp (Option EventId)) Safe Excused (fun _ _ => True) t :=
    Op.serves_ite (fun _ => Op.serves_bind serves_flush fun _ _ _ _ => Op.serves_pure trivial)
      fun _ => Op.serves_pure trivial
  refine Op.serves_ite (fun _ => ?_) fun _ => flushed none
  refine Op.serves_bind (P := fun _ _ => True) ?_ fun marker t _ _ => flushed marker
  exact Op.serves_bind (Session.serves_plain (Device.serves_enqueueMarker passing.sound nofun))
    fun _ _ _ _ => Op.serves_pure trivial

/-- An instruction ends in a pass that is under way, and the event it yields is good. -/
theorem passing_of_serves {last : Option EventId} (passing : MidPass s last)
    {op : MachineOp (Option EventId)}
    (serves : Op.Serves op Safe Excused (fun last t => ∀ e, last = some e → t.device.events.Knows e) s) :
    Op.Serves op Safe Excused (fun last t => MidPass t last) s :=
  serves.weaken fun _ _ safe known =>
    ⟨safe.tidy passing.tidy, safe.underway passing.tidy passing.underway, known⟩

/-- What went before stays the latest event. -/
theorem serves_keeping {last : Option EventId} (passing : MidPass s last) {op : MachineOp α}
    {P : α → Session → Prop} (serves : Op.Serves op Safe Excused P s) :
    Op.Serves (do let _ ← op; pure last) Safe Excused
      (fun last t => ∀ e, last = some e → t.device.events.Knows e) s :=
  Op.serves_bind serves fun _ _ safe _ => Op.serves_pure (passing.later safe).last

private theorem serves_dropping {op : MachineOp α} {P : α → Session → Prop}
    (serves : Op.Serves op Safe Excused P s) :
    Op.Serves (do let _ ← op; pure none) Safe Excused
      (fun last t => ∀ e, last = some e → t.device.events.Knows e) s :=
  Op.serves_bind serves fun _ _ _ _ => Op.serves_pure nofun

private theorem serves_yielding {op : MachineOp EventId}
    (serves : Op.Serves op Safe Excused (fun event t => t.device.events.Knows event) s) :
    Op.Serves (some <$> op) Safe Excused
      (fun last t => ∀ e, last = some e → t.device.events.Knows e) s := by
  refine Op.serves_bind serves fun event t _ known => Op.serves_pure ?_
  rintro e ⟨⟩
  exact known

private theorem serves_runInstruction {last : Option EventId} (passing : MidPass s last) (offset : Nat)
    (i : Instruction) :
    Op.Serves (runInstruction last offset i) Safe Excused (fun last t => MidPass t last) s := by
  refine passing_of_serves passing ?_
  cases i with
  | alloc batchSize objects => exact serves_dropping (serves_alloc _ _)
  | dealloc object => exact serves_dropping (serves_dealloc passing _)
  | transfer kind operands =>
    cases kind with
    | inOnce => exact serves_keeping passing (serves_transferIn passing _ _)
    | inAlways => exact serves_keeping passing (serves_transferIn passing _ _)
    | outAlways => exact serves_transferOut passing _ _
    | outBlocking => exact serves_keeping passing (serves_transferOut passing _ _)
  | launch l =>
    exact Op.serves_bind (serves_compile passing l) fun _ t safe _ =>
      serves_yielding (serves_dispatch (passing.later safe) l)
  | addDependency list => exact serves_keeping passing (serves_addDependency passing _)
  | onDevice object => exact serves_dropping (serves_keepOnDevice _)
  | barrier list => exact serves_yielding (serves_barrier passing _)
  | context device => exact Op.serves_fail fun _ => rfl
  | beginPass => exact Op.serves_fail fun _ => rfl
  | endPass => exact Op.serves_pure passing.last

private theorem serves_warmInstruction {last : Option EventId} (passing : MidPass s last) (offset : Nat)
    (i : Instruction) :
    Op.Serves (warmInstruction offset i) Safe Excused (fun _ _ => True) s := by
  cases i with
  | launch l => exact serves_compile passing l
  | context device => exact Op.serves_fail fun _ => rfl
  | beginPass => exact Op.serves_fail fun _ => rfl
  | _ => exact Op.serves_pure trivial

/-- Each entry keeps the pass under way and fails over no handle. -/
theorem serves_stepEntry {warmup : Bool} {last : Option EventId} (passing : MidPass s last)
    (entry : Entry) :
    Op.Serves (stepEntry warmup last entry) Safe Excused (fun last t => MidPass t last) s := by
  refine Op.serves_ite (fun _ => ?_) fun _ => serves_runInstruction passing _ _
  exact passing_of_serves passing (serves_keeping passing (serves_warmInstruction passing _ _))

private theorem serves_traceEntry (warmup : Bool) (entry : Entry) :
    Op.Serves (traceEntry warmup entry) Safe Excused (fun _ _ => True) s :=
  Op.serves_get (Op.serves_ite (fun _ => Op.serves_emit trivial) fun _ => Op.serves_pure trivial)

/-! ### Passes -/

/-- Wherever a pass has got to, its handles are good. -/
theorem serves_runPrefix (warmup : Bool) {last : Option EventId} (passing : MidPass s last)
    (entries : List Entry) :
    Op.Serves (runPrefix warmup last entries) Safe Excused (fun last t => MidPass t last) s := by
  induction entries generalizing s last with
  | nil => exact Op.serves_pure passing
  | cons entry rest ih =>
    refine Op.serves_bind (serves_traceEntry _ _) fun _ t safe _ => ?_
    exact Op.serves_bind (serves_stepEntry (passing.later safe) entry) fun _ _ _ passing' => ih passing'

private theorem serves_endPass {last : Option EventId} (passing : MidPass s last) (warmup : Bool) :
    Op.Serves (endPass warmup) Safe Excused (fun _ _ => True) s :=
  Op.serves_ite (fun _ => Op.serves_pure trivial) fun _ => serves_endRun passing

/-- Entries in a row fail over no handle. -/
theorem serves_runEntries {warmup : Bool} {stop : ScanStop} {last : Option EventId}
    (passing : MidPass s last) (entries : List Entry) :
    Op.Serves (runEntries warmup stop last entries) Safe Excused (fun _ _ => True) s := by
  induction entries generalizing s last with
  | nil =>
    unfold runEntries
    split
    · exact Op.serves_fail fun _ => rfl
    · exact serves_endPass passing _
  | cons entry rest ih =>
    refine Op.serves_bind (serves_traceEntry _ _) fun _ t safe _ => ?_
    have passing' := passing.later safe
    refine Op.serves_ite (fun _ => serves_endPass passing' _) fun _ => ?_
    exact Op.serves_bind (serves_stepEntry passing' entry) fun _ _ _ passing'' => ih passing''

/-- A machine that has forgotten its buffers holds none. -/
theorem safe_unbindAll {budget : MemoryBudget} {m : Machine} (epoch : m.epoch = s.machine.epoch)
    (bindings : m.bindings = s.machine.bindings.unbindAll) (cache : m.cache = s.machine.cache)
    (lists : m.lists = s.machine.lists) :
    Safe s { s with context.memory := budget, machine := m } := by
  have unbound (object : Nat) : m.bindings.buffer? object = none := by
    rw [bindings, Bindings.buffer?_unbindAll]
  have free (id : BufferId) : ¬ m.Binds id := by
    rintro ⟨object, b, bound, _⟩
    rw [unbound] at bound
    cases bound
  refine ⟨fun tidy => ?_, fun _ => ⟨Op.Transition.refl _, fun id binds => absurd binds (free id)⟩,
    fun _ underway => ⟨underway.current.trans epoch.symm, lists ▸ underway.lists⟩, Iff.rfl, rfl⟩
  refine ⟨tidy.sound, epoch ▸ tidy.epoch, Bindings.issuedBy_of_unbound unbound, ?_,
    fun id slot => ⟨(tidy.slot id slot).1, free id⟩, ?_, ?_⟩
  · intro object other b b' bound
    cases (unbound object).symm.trans bound
  · intro _ object b bound
    cases (unbound object).symm.trans bound
  · exact fun slot member code found => (tidy.binaries slot (cache ▸ member) code found).trans epoch.symm

theorem safe_forgetBuffers : Op.Moves forgetBuffers Safe := by
  intro s
  rw [(forgetBuffers_yields s).2]
  exact safe_unbindAll rfl rfl rfl rfl

theorem safe_clearCode : Op.Moves clearCode Safe := by
  refine Op.moves_modify fun s => safe_of_cache s.machine.stats fun _ slot member code found => ?_
  obtain ⟨old, _, rfl⟩ := List.mem_map.1 member
  cases found

end Offload.Machine
