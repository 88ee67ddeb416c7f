import Offload.Proofs.ElementwiseRuns

/-! Batched runs. A program that works through an array in batches, in a buffer for one batch, leaves the
array as the program does that works on all of it at once: each element is what the kernel makes of its
index and of what it was. -/
namespace Offload

/-- The program makes a machine, and the first run of the machine leaves this context. -/
def Replays (bytes : Bytes) (config : Config) (c : Context) (d : Device) (after : Context) : Prop :=
  ∃ m site marker t, Op.Yields (Machine.create bytes config) (c, d) m site ∧
    Op.Yields (Machine.execute .run) ⟨site.1, site.2, m⟩ marker t ∧ t.context = after

namespace Operands

variable {o : Operands} {task : Task} {change : Nat → Int32 → Int32} {values : List Int32} {c : Context}
  {d d' : Device} {config : Config} {device : UInt32} {buffer : UInt64} {slices : List Batch} {size : Nat}

/-- The program that works through `n` integers in batches of `k`. -/
def batched (o : Operands) (device : UInt32) (n k : Nat) : Assembly :=
  o.program device (BatchPlan.ofUnits 4 n k).batch (BatchPlan.ofUnits 4 n k).slices

/-- The program that works on all integers at once. -/
def whole (o : Operands) (device : UInt32) : Assembly :=
  o.program device 0 [⟨0, 0, 0⟩]

/-- The operands name an array of integers and a task that the device can work on it with. -/
structure Suit (o : Operands) (task : Task) (change : Nat → Int32 → Int32) (values : List Int32) (c : Context)
    (d : Device) : Prop where
  object : ∃ entry, c.object o.object.toNat = .ok entry ∧ entry.atomic = false ∧ entry.object = .ofInt32s values
  known : c.task o.task.toNat = .ok task
  compiles : d.checkTask task = .ok ()
  kernel : ∃ kernel, d.kernels.get? task.kernel = some kernel ∧ kernel.Maps change
  sound : d.events.Sound

private theorem Suit.limited (suit : o.Suit task change values c d) (config : Config) :
    o.Suit task change values (c.limited config) d := by
  obtain ⟨object, known, compiles, kernel, sound⟩ := suit
  unfold Context.limited
  cases config.memoryLimit <;> exact ⟨object, known, compiles, kernel, sound⟩

/-- Memory has no part in it. -/
theorem Suit.moved (suit : o.Suit task change values c d) (memory : Memory) (loaded : Bool)
    (data : d'.data = { d with memory, loaded }.data) (sound : d'.events.Sound) :
    o.Suit task change values c d' := by
  refine ⟨suit.object, suit.known, ?_, ?_, sound⟩
  · exact (Device.view_of_data (Device.checkTask · task) (fun _ => rfl) data).trans suit.compiles
  · obtain ⟨kernel, registered, maps⟩ := suit.kernel
    have kernels : d'.kernels = d.kernels := (congrArg Device.kernels data :)
    exact ⟨kernel, kernels ▸ registered, maps⟩

/-- The job that the operands stand for, with the buffer that the device hands out next. -/
def job (o : Operands) (task : Task) (change : Nat → Int32 → Int32) (d : Device) (size : Nat) : Job :=
  { operands := o, task, buffer := ⟨d.memory.nextId, size⟩, change, epoch := d.epoch }

section Runs

variable {s t : Session}

/-- A new machine binds the array to a new buffer. -/
theorem alloc_reaches (suit : o.Suit task change values s.context s.device)
    (bindings : s.machine.bindings = .ofContext s.context) (schedule : s.machine.schedule = {})
    (current : s.machine.epoch = s.device.epoch)
    (sized : (if 0 < buffer.toNat then buffer.toNat else 4 * values.length) = 4 * size)
    (budget : s.context.memory.check (4 * size) = .ok ()) (room : 4 * size ≤ s.device.memory.available) :
    Op.Reaches (Machine.alloc buffer.toNat [o.object]) s fun _ t =>
      (∃ held, held.length = size ∧ (o.job task change s.device (4 * size)).Stage values held t) ∧
        t.machine.cache = s.machine.cache ∧ t.device.events.Sound := by
  obtain ⟨⟨_, access, _⟩, found, rfl, rfl⟩ := suit.object
  have binding : s.machine.bindings.get o.object.toNat = .ok {} := by
    rw [Context.object] at found
    rcases here : s.context.objects[o.object.toNat]? with _ | old <;> rw [here] at found <;> cases found
    rw [bindings, Bindings.get_ok_iff]
    simp [Bindings.ofContext, here]
  have requests : Machine.bufferRequests s.context s.machine.bindings buffer.toNat [o.object] [] =
      .ok [⟨o.object.toNat, 4 * size⟩] := by
    have plain : (HostObject.ofInt32s values).isKernelContext = false := rfl
    simp [Machine.bufferRequests, found, binding, Binding.isBound, plain, sized, bind, Except.bind]
  obtain ⟨buffers, d, allocated, rfl, data, sound⟩ := Device.allocate_reaches room suit.sound
  refine Op.reaches_get (Op.reaches_ofExcept_bind requests ?_)
  refine Op.reaches_ite (fun empty => absurd empty Bool.false_ne_true) fun _ => ?_
  refine Op.reaches_ofExcept_bind (a := ()) (by simpa using budget) ?_
  refine Op.reaches_after (Machine.yields_onDevice.2 ⟨d, allocated, rfl⟩) (Op.reaches_modify_bind ?_)
  refine Op.reaches_bind (Op.reaches_modify_bind (Op.reaches_modify_bind (Op.reaches_pure ?_)))
    fun _ t _ holds => ⟨(), t, Op.yields_emit.2 rfl, holds⟩
  refine ⟨⟨List.replicate size 0, List.length_replicate, ?_⟩, rfl, sound⟩
  have bound : (s.machine.bindings.modify o.object.toNat fun b => b.bind ⟨s.device.memory.nextId, 4 * size⟩).get
      o.object.toNat = .ok (Binding.bind {} ⟨s.device.memory.nextId, 4 * size⟩) := by
    rw [Bindings.get_ok_iff] at binding ⊢
    simp [Bindings.modify, binding]
  have memory : d.memory = (s.device.memory.addBuffer (4 * size)).2 :=
    (congrArg Device.memory data :)
  have epoch : d.epoch = s.device.epoch := (congrArg Device.epoch data :)
  have later := suit.moved _ s.device.loaded data sound
  refine ⟨⟨_, found, rfl, rfl⟩, suit.known, ⟨_, bound, rfl⟩, ?_, epoch, current, later.compiles, later.kernel,
    schedule⟩
  rw [Bytes.ofInt32s_zeros]
  exact (congrArg (Memory.contents · s.device.memory.nextId) memory).trans (Memory.contents_addBuffer _ _)

/-- A new machine is ready for a pass. -/
theorem startPass_reaches (current : s.device.epoch = s.machine.epoch) :
    Op.Reaches Machine.startPass s fun _ t => t = { s with machine.lists := s.machine.lists.resetAll } :=
  Op.reaches_modify_bind ⟨(), _, Machine.yields_syncEpoch.2 (.inl ⟨current, rfl⟩), rfl⟩

/-- With these slices a job takes the array to its end, in a buffer for `size` integers. -/
def Completes (o : Operands) (task : Task) (change : Nat → Int32 → Int32) (values : List Int32) (size : Nat)
    (slices : List Batch) : Prop :=
  ∀ (d : Device) {held : List Int32} {s : Session} {slot : CacheSlot} {last : Option EventId} {entries : List Entry},
    (o.job task change d (4 * size)).Stage values held s → s.device.events.Sound → held.length = size →
      s.machine.cache.slots[o.task.toNat]? = some slot → (o.job task change d (4 * size)).Reusable slot →
        entries.map Entry.instruction = slices.flatMap o.slice →
          Op.Reaches (Machine.runPrefix false last entries) s fun _ t =>
            (∃ held', (o.job task change d (4 * size)).Stage (values.mapIdx change) held' t) ∧
              t.device.events.Sound

end Runs

private theorem exceeded_of_check {b : MemoryBudget} {requested : Nat} (checked : b.check requested = .ok ()) :
    b.exceeded = false := by
  unfold MemoryBudget.check at checked
  unfold MemoryBudget.exceeded
  split at checked
  · next none => rw [none]; rfl
  · next limit some =>
    split at checked
    · cases checked
    · rw [some]
      simp
      omega

private theorem check_less {b : MemoryBudget} {requested less : Nat} (checked : b.check requested = .ok ())
    (smaller : less ≤ requested) : b.check less = .ok () := by
  unfold MemoryBudget.check at checked ⊢
  split
  · rfl
  · next limit some =>
    rw [some] at checked
    dsimp only at checked
    split at checked
    · cases checked
    · exact if_neg (by omega)

private theorem ordinary_body : ∀ i ∈ o.body buffer slices, i ≠ .endPass ∧ i.eventList = none := by
  intro i member
  rcases List.mem_cons.1 member with rfl | inside
  · exact ⟨nofun, rfl⟩
  · obtain ⟨b, _, part⟩ := List.mem_flatMap.1 inside
    simp only [slice, List.mem_cons, List.not_mem_nil, or_false] at part
    rcases part with rfl | rfl | rfl <;> exact ⟨nofun, rfl⟩

/-- The programs need no event lists. -/
theorem eventLists_program : (o.program device buffer slices).eventLists = 0 := by
  have none : ∀ i ∈ (o.program device buffer slices).instructions, i.eventList = none := by
    simp only [program, List.mem_cons, List.mem_append, List.not_mem_nil, or_false]
    rintro i (rfl | rfl | inside | rfl)
    · rfl
    · rfl
    · exact (ordinary_body i inside).2
    · rfl
  have folded (is : List Instruction) (plain : ∀ i ∈ is, i.eventList = .none) :
      is.foldl (fun lists i => max lists (Assembly.listsNamedBy i)) 0 = 0 := by
    induction is with
    | nil => rfl
    | cons i rest ih =>
      rw [List.foldl_cons, Assembly.listsNamedBy, plain i (List.mem_cons_self ..)]
      exact ih fun j member => plain j (List.mem_cons_of_mem _ member)
  exact folded _ none

/-- What a job completes, a program for it leaves behind. -/
theorem replays_of_completes (suit : o.Suit task change values c d)
    (completes : o.Completes task change values size slices)
    (sized : (if 0 < buffer.toNat then buffer.toNat else 4 * values.length) = 4 * size)
    (encodable : ∀ i ∈ o.body buffer slices, i.Encodable) (declared : IndexEncodable device)
    (here : device.toNat = d.info.index) (real : config.virtualDevice = false)
    (budget : (c.limited config).memory.check (4 * size) = .ok ()) (room : 4 * size ≤ d.memory.available) :
    ∃ after, Replays (o.program device buffer slices).bytes config c d after ∧
      (after.object o.object.toNat).map ObjectEntry.object = .ok (.ofInt32s (values.mapIdx change)) := by
  have reserved : (o.program device buffer slices).reserved.length < 0x8000000000000000 := Nat.zero_lt_succ _
  have lists : (o.program device buffer slices).eventLists < 0x80000000 := by
    rw [eventLists_program]
    exact Nat.zero_lt_succ _
  have creates : Op.Reaches (Machine.create (o.program device buffer slices).bytes config) (c, d) _ :=
    Machine.create_assembled rfl encodable (fun i member => (ordinary_body i member).1) declared here reserved lists
  obtain ⟨m, ⟨context, d'⟩, created, rfl, data, events, schedule, offset, scanned⟩ := creates
  have fresh := Machine.create_fresh created
  have suit' := (suit.limited config).moved d.memory true data (events ▸ suit.sound)
  have memory : d'.memory = d.memory := (congrArg Device.memory data :)
  let s : Session := ⟨c.limited config, d', m⟩
  -- The instructions up to END, with their offsets.
  have spelled := instructions_entriesFrom offset (o.body buffer slices ++ [.endPass])
  obtain ⟨done, back, split, spelledDone, spelledBack⟩ := List.map_eq_append_iff.1 spelled
  obtain ⟨⟨stop, _⟩, _, rfl, rfl, none⟩ := List.map_eq_cons_iff.1 spelledBack
  cases List.map_eq_nil_iff.1 none
  obtain ⟨⟨first, _⟩, rest, rfl, rfl, spelledRest⟩ := List.map_eq_cons_iff.1 spelledDone
  have arrives : Op.Reaches (do
      Machine.startPass
      Machine.runPrefix false .none (⟨first, .alloc buffer [o.object]⟩ :: rest)) s fun _ t =>
        (∃ j : Job, j.operands = o ∧ ∃ held, j.Stage (values.mapIdx change) held t) ∧ t.device.events.Sound := by
    refine Op.reaches_bind (startPass_reaches fresh.epoch.symm) fun _ t _ started => ?_
    subst started
    have allocated := alloc_reaches (s := { s with machine.lists := s.machine.lists.resetAll }) suit' fresh.bindings
      schedule fresh.epoch sized budget (memory ▸ room)
    refine Job.runPrefix_next (Op.reaches_bind allocated fun _ t _ holds => Op.reaches_pure holds)
      fun last t ⟨⟨held, length, stage⟩, cache, sound⟩ => ?_
    have slot : t.machine.cache.slots[o.task.toNat]? = some {} := by
      have known := (List.getElem?_eq_some_iff.1 (Machine.task_ok_iff.1 suit'.known)).1
      rw [cache, fresh.cache]
      exact List.getElem?_eq_some_iff.2 ⟨by simpa [CodeCache.create] using known, by simp [CodeCache.create]⟩
    refine (completes _ stage sound length slot ?_ spelledRest).weaken fun _ t ⟨⟨held, stage⟩, sound⟩ =>
      ⟨⟨_, rfl, held, stage⟩, sound⟩
    rintro code ⟨⟩
  obtain ⟨last, t, ran, ⟨j, rfl, held, stage⟩, sound⟩ := arrives
  have entries : s.machine.program.scan.entries =
      (⟨first, .alloc buffer [j.operands.object]⟩ :: rest) ++ ⟨stop, .endPass⟩ :: [] := by
    rw [← split]
    exact congrArg Scan.entries scanned
  have switched : s.machine.config.virtualDevice = false := by
    rw [show s.machine.config = config from fresh.config]
    exact real
  obtain ⟨marker, u, done, context, _⟩ :=
    Machine.execute_of_arrives (s := s) (exceeded_of_check budget) switched entries ran sound
  obtain ⟨entry, found, _, array⟩ := stage.object
  refine ⟨u.context, ⟨m, _, marker, u, created, done, rfl⟩, ?_⟩
  rw [context, found]
  exact congrArg Except.ok array

/-- The operands that every program of these names are encodable. -/
structure Encodable (o : Operands) : Prop where
  wrapper : IndexEncodable o.wrapper
  task : IndexEncodable o.task
  object : IndexEncodable o.object

private theorem encodable_body (operands : o.Encodable) (size : SizeEncodable buffer)
    (bounds : ∀ b ∈ slices, SizeEncodable b.offset ∧ SizeEncodable b.size) :
    ∀ i ∈ o.body buffer slices, i.Encodable := by
  have quotient {bytes : UInt64} (small : SizeEncodable bytes) : SizeEncodable (bytes / 4) :=
    Nat.lt_of_le_of_lt (by rw [UInt64.toNat_div]; exact Nat.div_le_self ..) small
  intro i member
  rcases List.mem_cons.1 member with rfl | inside
  · refine ⟨size, by simp, ?_⟩
    intro object listed
    rw [List.mem_singleton.1 listed]
    exact operands.object
  · obtain ⟨b, listed, part⟩ := List.mem_flatMap.1 inside
    obtain ⟨offset, length⟩ := bounds b listed
    simp only [slice, List.mem_cons, List.not_mem_nil, or_false] at part
    rcases part with rfl | rfl | rfl
    · exact ⟨operands.object, nofun, offset, length⟩
    · refine ⟨operands.wrapper, operands.task, by simp [call], nofun, quotient offset, quotient length, ?_⟩
      intro arg listed
      rw [List.mem_singleton.1 listed]
      exact operands.object
    · exact ⟨operands.object, nofun, offset, length⟩

private theorem completes_of_tiles (tiles : Tiles 4 size 0 values.length slices) :
    o.Completes task change values size slices := by
  intro d held s slot last entries stage sound length found reusable spelled
  rw [← Kernel.onThreads_none change values] at stage
  exact Job.slices_reaches tiles stage sound found reusable (Nat.le_of_eq length.symm) spelled

private theorem completes_whole {threads : Nat} (counted : task.grid.totalThreads? = some threads)
    (enough : values.length ≤ threads) :
    o.Completes task change values values.length [⟨0, 0, 0⟩] := by
  intro d held s slot last entries stage sound length found reusable spelled
  exact Job.whole_reaches stage sound found reusable counted enough (Nat.le_of_eq length.symm)
    (spelled.trans (List.append_nil _))

/-- The first runs of the batched program and of the one that works on everything at once leave the same
array: at each index what the kernel makes of the index and of the value there. -/
theorem batched_eq_whole (device : UInt32) (config : Config) (k : Nat) (suit : o.Suit task change values c d)
    (elements : 0 < values.length) (positive : 0 < k) (range : 4 * values.length < 0x8000000000000000)
    (range' : 4 * k < 0x10000000000000000)
    {threads : Nat} (counted : task.grid.totalThreads? = some threads) (enough : values.length ≤ threads)
    (operands : o.Encodable) (declared : IndexEncodable device) (here : device.toNat = d.info.index)
    (real : config.virtualDevice = false)
    (budget : (c.limited config).memory.check (4 * values.length) = .ok ())
    (room : 4 * values.length ≤ d.memory.available) :
    ∃ inBatches atOnce,
      Replays (o.batched device values.length k).bytes config c d inBatches ∧
        Replays (o.whole device).bytes config c d atOnce ∧
        (inBatches.object o.object.toNat).map ObjectEntry.object =
          (atOnce.object o.object.toNat).map ObjectEntry.object ∧
        (inBatches.object o.object.toNat).map ObjectEntry.object = .ok (.ofInt32s (values.mapIdx change)) := by
  have range64 : 4 * values.length < 0x10000000000000000 := Nat.lt_trans range (by decide)
  have fits : 4 * min k values.length ≤ 4 * values.length := Nat.mul_le_mul_left 4 (Nat.min_le_right ..)
  have batch : (BatchPlan.ofUnits 4 values.length k).batch.toNat = 4 * min k values.length :=
    BatchPlan.batch_ofUnits (by decide) positive range64 range'
  have tiles : Tiles 4 (min k values.length) 0 values.length (BatchPlan.ofUnits 4 values.length k).slices :=
    BatchPlan.tiles_ofUnits (by decide) elements positive range64 range'
  have encodable : ∀ i ∈ o.body (BatchPlan.ofUnits 4 values.length k).batch
      (BatchPlan.ofUnits 4 values.length k).slices, i.Encodable := by
    refine encodable_body operands ?_ fun b listed => ?_
    · exact Nat.lt_of_le_of_lt (Nat.le_trans (Nat.le_of_eq batch) fits) range
    · obtain ⟨offset, size⟩ := tiles.within b listed
      exact ⟨Nat.lt_of_le_of_lt offset range, Nat.lt_of_le_of_lt size range⟩
  obtain ⟨inBatches, ran, done⟩ := replays_of_completes suit (completes_of_tiles tiles)
    (by rw [batch, if_pos (by omega)]) encodable declared here real (check_less budget fits)
    (Nat.le_trans fits room)
  have zero : SizeEncodable 0 := Nat.zero_lt_succ _
  have encodable' : ∀ i ∈ o.body 0 [⟨0, 0, 0⟩], i.Encodable := encodable_body operands zero (by simp [zero])
  obtain ⟨atOnce, ran', done'⟩ := replays_of_completes suit (completes_whole counted enough) (by rfl) encodable' declared
    here real budget room
  exact ⟨inBatches, atOnce, ran, ran', done.trans done'.symm, done⟩

/-- Operands that are all the first of their kind. -/
def firsts : Operands :=
  ⟨0, 0, 0⟩

/-- A task for a kernel of the catalogue that adds to each value its index. -/
def adding : Task :=
  { id := "add", kernel := "add_index", grid := { blocks := { x := 2 }, lanes := { x := 4 } } }

/-- An array of five values, and the task. -/
def fiveValues : Context :=
  { name := "five values", objects := [{ object := .ofInt32s [10, 20, 30, 40, 50] }], tasks := [adding] }

/-- A device that has the kernel. -/
def adder : Device :=
  Device.registerKernel {} "add_index" ((Kernel.find? "add_index").getD fun _ => .done ())

private theorem adder_suits : firsts.Suit adding (fun i value => value + (UInt32.ofNat i).toInt32) [10, 20, 30, 40, 50]
    fiveValues adder := by
  obtain ⟨kernel, found, maps⟩ := Kernel.maps_addIndex
  refine ⟨⟨_, rfl, rfl, rfl⟩, rfl, rfl, ⟨kernel, ?_, maps⟩, EventTable.sound_start false⟩
  show some ((Kernel.find? "add_index").getD _) = _
  rw [found]
  rfl

/-- Five values in batches of two, the last one of them short. -/
theorem fiveValues_in_twos : ∃ inBatches atOnce,
    Replays (firsts.batched 0 5 2).bytes {} fiveValues adder inBatches ∧
      Replays (firsts.whole 0).bytes {} fiveValues adder atOnce ∧
      (inBatches.object 0).map ObjectEntry.object = (atOnce.object 0).map ObjectEntry.object ∧
      (inBatches.object 0).map ObjectEntry.object = .ok (.ofInt32s [10, 21, 32, 43, 54]) := by
  have small : IndexEncodable 0 := Nat.zero_lt_succ _
  have added : ([10, 20, 30, 40, 50] : List Int32).mapIdx (fun i value => value + (UInt32.ofNat i).toInt32) =
      [10, 21, 32, 43, 54] := by decide
  have exact := batched_eq_whole 0 {} 2 adder_suits (by decide) (by decide) (by decide) (by decide)
    (by decide : adding.grid.totalThreads? = some 8) (by decide) ⟨small, small, small⟩ small rfl rfl rfl (by decide)
  rwa [added] at exact

end Operands
end Offload
