import Offload.Proofs.Binaries
import Offload.Proofs.Echoes
import Offload.Proofs.EventHandles

/-! Devices that hold the same data. They may differ in their events, in their counts and in the log of
markers, and so in everything that waits, completions and measurements leave behind. Where a request
succeeds on one device it succeeds on the other, with the same data once more; the other device waits
for nothing there. -/
namespace Offload.Device

variable {α β : Type} {d d' before after : Device} {wait : List EventId}

/-- A device apart from its events and from the records of its work. -/
def data (d : Device) : Device :=
  { d with events := {}, counters := {}, markerLog := [] }

/-- What shows data only is the same on both. -/
theorem view_of_data (view : Device → β) (blind : ∀ d, view d = view d.data) (same : d.data = d'.data) :
    view d = view d' := by
  rw [blind d, blind d', same]

/-- The second device holds the data of the first one, and its events are in order. -/
structure Shadows (d d' : Device) : Prop where
  data : d.data = d'.data
  sound : d'.events.Sound

/-- Work that leaves the data alone. -/
def Still (before after : Device) : Prop :=
  after.data = before.data

instance : Op.Transition Still where
  refl _ := rfl
  trans first second := Eq.trans second first

private theorem Shadows.left (shadows : Shadows d d') (still : Still d after) : Shadows after d' :=
  ⟨still.trans shadows.data, shadows.sound⟩

private theorem Shadows.right (shadows : Shadows d d') (still : Still d' after)
    (later : d'.events.Later after.events) : Shadows d after :=
  ⟨shadows.data.trans still.symm, later.sound⟩

/-! ### Work on events -/

instance : Tolerates [.load, .add, .free, .vacate, .renew, .write, .report, .install, .reset, .kernels] Still where
  change other change := by
    cases change with
    | record | drain | complete | mark | count | countIn | countOut => rfl
    | _ => exact absurd (by decide) other

/-- The event table is no data. -/
theorem still_onEvents (change : EventTable → Except DeviceError (α × EventTable)) :
    Op.Moves (onEvents change) Still := moves_onEvents fun _ _ _ _ => rfl

/-- Counts are no data. -/
theorem still_count (change : DeviceCounters → DeviceCounters) : Op.Moves (count change) Still :=
  Op.moves_modify fun _ => rfl

/-- A wait leaves the data alone. -/
theorem still_waitEvents (events : List EventId) : Op.Moves (waitEvents events) Still :=
  moves_within (only_waitEvents events) (by decide)

/-- A marker leaves the data alone. -/
theorem still_enqueueMarker (wait : List EventId) : Op.Moves (enqueueMarker wait) Still :=
  moves_within (only_enqueueMarker wait) (by decide)

instance : SurvivesEvents Still := survivesEvents_of_allowed (by decide)

private theorem drainAll_yields {events : List EventId} (sound : d.events.Sound)
    (known : ∀ e ∈ events, d.events.Knows e) :
    ∃ d', Op.Yields (drainAll events) d () d' ∧ d.events.Later d'.events := by
  induction events generalizing d with
  | nil => exact ⟨d, Op.yields_pure.2 ⟨rfl, rfl⟩, sound, fun _ known => known⟩
  | cons id rest ih =>
    obtain ⟨t, drained, later⟩ := sound.drain_ok (known id (List.mem_cons_self ..))
    obtain ⟨d', ran, rested⟩ := ih (d := { d with events := t }) later.sound
      fun e member => later.knows e (known e (List.mem_cons_of_mem _ member))
    refine ⟨d', Op.yields_bind.2 ⟨(), { d with events := t }, ?_, ran⟩, rested.sound,
      fun e known => rested.knows e (later.knows e known)⟩
    rw [onEvents, Op.yields_step, drained]
    rfl

/-- To wait for good events goes through. -/
theorem waitEvents_yields {events : List EventId} (sound : d.events.Sound)
    (known : ∀ e ∈ events, d.events.Knows e) :
    ∃ d', Op.Yields (waitEvents events) d () d' ∧ d.events.Later d'.events := by
  obtain ⟨d', ran, later⟩ := drainAll_yields sound known
  exact ⟨_, Op.yields_bind.2 ⟨(), d', ran, Op.yields_modify.2 rfl⟩, later⟩

/-- The times of a known event can be had, and the device stays as it is. -/
theorem resolveEvent_yields {id : EventId} (sound : d.events.Sound) (known : d.events.Knows id) :
    ∃ profile, Op.Yields (resolveEvent id) d profile d := by
  obtain ⟨profile, found⟩ := sound.profile_ok known
  exact ⟨profile, Op.yields_bind.2 ⟨d, d, Op.yields_get.2 ⟨rfl, rfl⟩, Op.yields_ofExcept.2 ⟨found, rfl⟩⟩⟩

/-- A marker behind good events goes through. -/
theorem enqueueMarker_yields (sound : d.events.Sound) (known : ∀ w ∈ wait, d.events.Knows w) :
    ∃ marker d', Op.Yields (enqueueMarker wait) d marker d' ∧ d.events.Later d'.events := by
  obtain ⟨marker, deps, t, made, later, _⟩ := sound.marker_ok known
  refine ⟨marker, { d with
    events := t
    counters := { d.counters with markers := d.counters.markers + 1 }
    markerLog := logMarker d.markerLog (marker, deps) }, ?_, later⟩
  simp only [enqueueMarker, onEvents, count, Op.yields_bind, Op.yields_step, Op.yields_modify,
    Op.yields_pure]
  exact ⟨(marker, deps), { d with events := t }, by rw [made]; rfl, (), _, rfl, (), _, rfl, rfl, rfl⟩

/-! ### Echoes -/

/-- The same value. -/
abbrev Same {τ : Type} (a b : α) (_ : τ) : Prop :=
  a = b

/-- The second event is good. -/
abbrev Fresh (_ event : EventId) (d : Device) : Prop :=
  d.events.Knows event

private theorem echo_onMemory (change : Memory → Except DeviceError (α × Memory)) (shadows : Shadows d d') :
    Op.Echoes (onMemory change) (onMemory change) Shadows Same d d' := by
  intro a after ran
  have memory : d.memory = d'.memory := view_of_data _ (fun _ => rfl) shadows.data
  rw [onMemory, Op.yields_step] at ran
  rcases changed : change d.memory with e | ⟨a', m⟩ <;> rw [changed] at ran <;> cases ran
  refine ⟨a, { d' with memory := m }, ?_, ⟨?_, shadows.sound⟩, rfl⟩
  · rw [onMemory, Op.yields_step, ← memory, changed]
    rfl
  · exact congrArg (fun d : Device => { d with memory := m }) shadows.data

private theorem echo_count {change change' : DeviceCounters → DeviceCounters} {V : Unit → Unit → Device → Prop}
    (shadows : Shadows d d') (values : ∀ d'', d''.events = d'.events → V () () d'') :
    Op.Echoes (count change) (count change') Shadows V d d' :=
  Op.echoes_modify ⟨shadows.data, shadows.sound⟩ (values _ rfl)

private theorem echo_recordEvent (kind : EventKind) (wait : List EventId) (shadows : Shadows d d') :
    Op.Echoes (recordEvent kind wait) (recordEvent kind []) Shadows Fresh d d' := by
  intro a after ran
  obtain ⟨event, t, recorded, later, fresh⟩ := shadows.sound.record_ok (List.forall_mem_nil _) kind
  refine ⟨event, { d' with events := t }, ?_, ?_, fresh⟩
  · rw [recordEvent, onEvents, Op.yields_step, recorded]
    rfl
  · exact (shadows.left ((still_onEvents _).yields ran)).right rfl later

/-- A command that was recorded is counted and logged, and then it is done. -/
theorem echo_recorded {kind : EventKind} {change change' : DeviceCounters → DeviceCounters}
    {event event' : LogEvent} {make : EventId → α} {make' : EventId → β} {V : α → β → Device → Prop}
    (shadows : Shadows d d') (values : ∀ a b d, Fresh a b d → V (make a) (make' b) d) :
    Op.Echoes (do
        let a ← recordEvent kind wait
        count change
        Op.emit event
        pure (make a) : DeviceOp α)
      (do
        let b ← recordEvent kind []
        count change'
        Op.emit event'
        pure (make' b) : DeviceOp β) Shadows V d d' := by
  refine Op.echoes_bind (echo_recordEvent _ _ shadows) fun a b s t _ shadows fresh => ?_
  refine Op.echoes_bind (echo_count (V := fun _ _ d => Fresh a b d) shadows
    fun _ same => by rw [Fresh, same]; exact fresh) fun _ _ s t _ shadows fresh => ?_
  exact Op.echoes_emit_bind (Op.echoes_pure shadows (values a b t fresh))

/-- A copy to the device is repeated without its wait list. -/
theorem echo_streamIn (object : HostObject) (buffer : DeviceBuffer) (range : HostRange)
    (wait : List EventId) (shadows : Shadows d d') :
    Op.Echoes (streamIn object buffer range wait) (streamIn object buffer range []) Shadows
      (fun _ events d => ∀ e ∈ events, d.events.Knows e) d d' := by
  refine Op.echoes_same_bind fun data _ => ?_
  refine Op.echoes_bind (echo_onMemory _ shadows) fun _ _ s t _ shadows _ => ?_
  refine echo_recorded shadows fun _ b d fresh e member => ?_
  rw [List.mem_singleton.1 member]
  exact fresh

private theorem echo_waitEvents {events events' : List EventId} (shadows : Shadows d d')
    (known : ∀ e ∈ events', d'.events.Knows e) :
    Op.Echoes (waitEvents events) (waitEvents events') Shadows
      (fun _ _ after => ∀ e, d'.events.Knows e → after.events.Knows e) d d' := by
  intro a after ran
  obtain ⟨after', ran', later⟩ := waitEvents_yields shadows.sound known
  refine ⟨(), after', ran', ?_, later.knows⟩
  exact (shadows.left ((still_waitEvents _).yields ran)).right ((still_waitEvents _).yields ran') later

/-- The same host object, beside devices with the same data. -/
def CopyShadows (x y : HostObject × Device) : Prop :=
  x.1 = y.1 ∧ Shadows x.2 y.2

private theorem echo_copyDevice {op : DeviceOp α} {op' : DeviceOp β} {V : α → β → Device → Prop}
    {x y : HostObject × Device} (head : Op.Echoes op op' Shadows V x.2 y.2) (same : x.1 = y.1) :
    Op.Echoes (onDevice op) (onDevice op') CopyShadows (fun a b y => V a b y.2) x y :=
  Op.echoes_onPart head (fun _ _ shadows => ⟨same, shadows⟩) fun _ _ _ holds => holds

/-- A copy to the host is repeated without its wait list. -/
theorem echo_streamOut (buffer : DeviceBuffer) (range : HostRange) (wait : List EventId)
    {x y : HostObject × Device} (shadows : CopyShadows x y) :
    Op.Echoes (streamOut buffer range wait) (streamOut buffer range []) CopyShadows
      (fun a b y => Fresh a b y.2) x y := by
  obtain ⟨object, d⟩ := x
  obtain ⟨object', d'⟩ := y
  obtain ⟨rfl, shadows⟩ := shadows
  have memory : d.memory = d'.memory := view_of_data _ (fun _ => rfl) shadows.data
  refine Op.echoes_get ?_
  dsimp only
  rw [memory]
  refine Op.echoes_same_bind fun data _ => ?_
  refine Op.echoes_bind (V := fun _ _ _ => True) (R := CopyShadows) ?_ fun _ _ x y _ shadows _ => ?_
  · intro u x ran
    rw [Op.yields_step] at ran
    dsimp only at ran
    rcases written : object.writeRange range.offset data with e | new <;> rw [written] at ran <;>
      cases ran
    refine ⟨(), (new, d'), ?_, ⟨rfl, shadows⟩, trivial⟩
    rw [Op.yields_step, written]
    rfl
  · exact echo_copyDevice (echo_recorded shadows.2 fun _ _ _ fresh => fresh) shadows.1

/-- A copy to the host that is waited for is repeated without its wait list. -/
theorem echo_streamOutBlocking (buffer : DeviceBuffer) (range : HostRange) (wait : List EventId)
    {x y : HostObject × Device} (shadows : CopyShadows x y) :
    Op.Echoes (streamOutBlocking buffer range wait) (streamOutBlocking buffer range []) CopyShadows
      (fun a b y => Fresh a b y.2) x y := by
  refine Op.echoes_bind (echo_streamOut _ _ _ shadows) fun a b x y _ shadows fresh => ?_
  refine Op.echoes_bind (echo_copyDevice (echo_waitEvents shadows.2 fun e member => ?_) shadows.1)
    fun _ _ x y _ shadows later => Op.echoes_pure shadows (later b fresh)
  rw [List.mem_singleton.1 member]
  exact fresh

/-- The same buffers are handed out. -/
theorem echo_allocate (sizes : List Nat) (shadows : Shadows d d') :
    Op.Echoes (allocate sizes) (allocate sizes) Shadows Same d d' := by
  refine Op.echoes_bind (echo_onMemory _ shadows) fun a b s t _ shadows same => ?_
  refine Op.echoes_bind (echo_count (V := fun _ _ _ => True) shadows fun _ _ => trivial)
    fun _ _ s t _ shadows _ => ?_
  exact Op.echoes_emit_bind (Op.echoes_pure shadows same)

/-- The same buffers are given back. -/
theorem echo_deallocate (buffer : DeviceBuffer) (shadows : Shadows d d') :
    Op.Echoes (deallocate buffer) (deallocate buffer) Shadows Same d d' := by
  refine Op.echoes_bind (echo_onMemory _ shadows) fun a b s t _ shadows same => ?_
  exact Op.echoes_bind (echo_count (V := fun _ _ _ => True) shadows fun _ _ => trivial)
    fun _ _ s t _ shadows _ => Op.echoes_pure shadows same

/-- The same code is installed. -/
theorem echo_installCode (request : CompileRequest) (shadows : Shadows d d') :
    Op.Echoes (installCode request) (installCode request) Shadows Same d d' := by
  have checked : d.checkTask request.task = d'.checkTask request.task :=
    view_of_data (checkTask · request.task) (fun _ => rfl) shadows.data
  have next : d.nextCode = d'.nextCode := view_of_data _ (fun _ => rfl) shadows.data
  have epoch : d.epoch = d'.epoch := view_of_data _ (fun _ => rfl) shadows.data
  refine Op.echoes_get ?_
  dsimp only
  rw [checked, next, epoch]
  refine Op.echoes_same_bind fun _ _ => ?_
  refine Op.echoes_bind (R := Shadows) (V := fun _ _ _ => True)
    (Op.echoes_modify ⟨?_, shadows.sound⟩ trivial) fun _ _ s t _ shadows _ => ?_
  · exact congrArg (fun d : Device => { d with
      nextCode := d.nextCode + 1
      compileLog := d.compileLog ++ [(⟨request.task.kernel, request.taskIndex, request.batchThreads,
        request.batchSize, request.batchNumber, request.grid, request.force⟩ : CompileRecord)] })
      shadows.data
  refine Op.echoes_bind (echo_count (V := fun _ _ _ => True) shadows fun _ _ => trivial)
    fun _ _ s t _ shadows _ => ?_
  exact Op.echoes_emit_bind (Op.echoes_pure shadows rfl)

private theorem echo_newAtomics (size : Nat) (shadows : Shadows d d') :
    Op.Echoes (newAtomics size) (newAtomics size) Shadows Same d d' := by
  refine Op.echoes_bind (echo_onMemory _ shadows) fun a b s t _ shadows same => ?_
  subst same
  refine Op.echoes_bind (Op.echoes_modify (V := fun _ _ _ => True) (R := Shadows) ⟨?_, shadows.sound⟩ trivial)
    fun _ _ s t _ shadows _ => Op.echoes_pure shadows rfl
  exact congrArg (fun d : Device => { d with atomics := some a }) shadows.data

private theorem echo_atomicsBuffer (size : Nat) (shadows : Shadows d d') :
    Op.Echoes (atomicsBuffer size) (atomicsBuffer size) Shadows Same d d' := by
  have remembered : d.atomics = d'.atomics := view_of_data _ (fun _ => rfl) shadows.data
  refine Op.echoes_get ?_
  rw [remembered]
  cases d'.atomics with
  | none => exact echo_newAtomics size shadows
  | some existing =>
    refine Op.echoes_ite (fun _ => Op.echoes_pure shadows rfl) fun _ => ?_
    exact Op.echoes_bind (echo_onMemory _ shadows) fun _ _ s t _ shadows _ => echo_newAtomics size shadows

/-- Atomics are repeated without their wait list, into the same buffer. -/
theorem echo_writeAtomics (values : List Int32) (shadows : Shadows d d') :
    Op.Echoes (writeAtomics values wait) (writeAtomics values []) Shadows
      (fun a b _ => a.1 = b.1) d d' := by
  refine Op.echoes_bind (echo_atomicsBuffer _ shadows) fun a b s t _ shadows same => ?_
  subst same
  refine Op.echoes_bind (echo_onMemory _ shadows) fun _ _ s t _ shadows _ => ?_
  refine Op.echoes_bind (echo_recordEvent _ _ shadows) fun _ _ s t _ shadows _ => ?_
  exact Op.echoes_bind (echo_count (V := fun _ _ _ => True) shadows fun _ _ => trivial)
    fun _ _ s t _ shadows _ => Op.echoes_pure shadows rfl

private theorem echo_runKernel (kernel : Kernel) (v : Invocation) (shadows : Shadows d d') :
    Op.Echoes (runKernel kernel v) (runKernel kernel v) Shadows Same d d' := by
  have memory : d.memory = d'.memory := view_of_data _ (fun _ => rfl) shadows.data
  have reports : d.reports = d'.reports := view_of_data _ (fun _ => rfl) shadows.data
  intro u after ran
  simp only [Op.Yields, runKernel] at ran
  obtain ⟨result, rfl⟩ := ran
  refine ⟨u, _, ⟨by simp only [runKernel, ← memory]; exact result, rfl⟩, ⟨?_, shadows.sound⟩, rfl⟩
  simp only [runKernel, ← memory, ← reports]
  exact congrArg (fun d' : Device => { d' with
    memory := ((kernel v).run v d.memory).memory
    reports := d.reports ++ ((kernel v).run v d.memory).reports }) shadows.data

/-- A launch is repeated without its wait list. -/
theorem echo_launch (code : Binary) (frame : List KernelArg) (atomics : Option DeviceBuffer)
    (grid : Grid) (offset : Nat) (wait : List EventId) (shadows : Shadows d d') :
    Op.Echoes (launch code frame atomics grid offset wait) (launch code frame atomics grid offset [])
      Shadows Fresh d d' := by
  have installed : d.kernelOf code = d'.kernelOf code := view_of_data (kernelOf · code) (fun _ => rfl) shadows.data
  refine Op.echoes_get ?_
  rw [installed]
  refine Op.echoes_same_bind fun kernel _ => Op.echoes_same_bind fun threads _ => ?_
  refine Op.echoes_bind (echo_runKernel _ _ shadows) fun _ _ s t _ shadows _ => ?_
  exact echo_recorded shadows fun _ _ _ fresh => fresh

end Offload.Device
