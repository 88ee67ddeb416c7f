import Offload.Proofs.Metrics
import Offload.Proofs.Passes

/-! What compilations leave behind. Two sessions are alike when they differ in binaries, in the records
of compilations and in counts of passes only. No instruction but a launch looks at any of that, so from
alike sessions it has the same result and leaves alike sessions; a launch does so too once both sides
have found the same binary. -/
namespace Offload

namespace Device

/-- A device apart from the records of its compilations. -/
def outline (d : Device) : Device :=
  { d with compileLog := [], nextCode := 0, counters := { d.counters with compilations := 0 } }

/-- The devices differ in their compilations only. -/
def Alike (d d' : Device) : Prop :=
  d.outline = d'.outline

variable {α β : Type} {d d' : Device}

/-- What does not show compilations is the same on both. -/
theorem alike_view (view : Device → β) (blind : ∀ d, view d = view d.outline) (same : Alike d d') :
    view d = view d' := by
  rw [blind d, blind d', show d.outline = d'.outline from same]

private theorem alike_change (change : Device → Device)
    (blind : ∀ d, (change d).outline = (change d.outline).outline) (same : Alike d d') :
    Alike (change d) (change d') := by
  show (change d).outline = (change d').outline
  rw [blind d, blind d', show d.outline = d'.outline from same]

private theorem agree_change {change : Device → Device}
    (blind : ∀ d, (change d).outline = (change d.outline).outline) :
    Op.Agrees (Op.modify change : DeviceOp Unit) Alike :=
  Op.agree_modify fun _ _ same => alike_change _ blind same

private theorem agree_look {next : Device → DeviceOp α} (blind : ∀ d, next d = next d.outline)
    (tail : ∀ d, Op.Agrees (next d) Alike) : Op.Agrees (Op.get >>= next) Alike :=
  Op.agree_get_bind (fun _ _ same => alike_view _ blind same) tail

private theorem agree_onMemory (change : Memory → Except DeviceError (α × Memory)) :
    Op.Agrees (onMemory change) Alike := by
  intro d d' same
  have memory : d.memory = d'.memory := alike_view _ (fun _ => rfl) same
  simp only [onMemory, Op.step, memory]
  rcases change d'.memory with e | ⟨a, m⟩
  · exact ⟨rfl, same⟩
  · exact ⟨rfl, alike_change (fun d => { d with memory := m }) (fun _ => rfl) same⟩

private theorem agree_onEvents (change : EventTable → Except DeviceError (α × EventTable)) :
    Op.Agrees (onEvents change) Alike := by
  intro d d' same
  have events : d.events = d'.events := alike_view _ (fun _ => rfl) same
  simp only [onEvents, Op.step, events]
  rcases change d'.events with e | ⟨a, t⟩
  · exact ⟨rfl, same⟩
  · exact ⟨rfl, alike_change (fun d => { d with events := t }) (fun _ => rfl) same⟩

private theorem agree_allocate (sizes : List Nat) : Op.Agrees (allocate sizes) Alike := by
  refine Op.agree_bind (agree_onMemory _) fun buffers => ?_
  refine Op.agree_bind (agree_change fun _ => rfl) fun _ => ?_
  exact Op.agree_bind (Op.agree_emit _) fun _ => Op.agree_pure _

private theorem agree_deallocate (buffer : DeviceBuffer) : Op.Agrees (deallocate buffer) Alike := by
  refine Op.agree_bind (agree_onMemory _) fun freed => ?_
  exact Op.agree_bind (agree_change fun _ => rfl) fun _ => Op.agree_pure _

private theorem agree_streamIn (object : HostObject) (buffer : DeviceBuffer) (range : HostRange)
    (wait : List EventId) : Op.Agrees (streamIn object buffer range wait) Alike := by
  refine Op.agree_bind (Op.agree_ofExcept _) fun data => ?_
  refine Op.agree_bind (agree_onMemory _) fun _ => ?_
  refine Op.agree_bind (agree_onEvents _) fun event => ?_
  refine Op.agree_bind (agree_change fun _ => rfl) fun _ => ?_
  exact Op.agree_bind (Op.agree_emit _) fun _ => Op.agree_pure _

private theorem agree_drainAll (events : List EventId) : Op.Agrees (drainAll events) Alike := by
  induction events with
  | nil => exact Op.agree_pure _
  | cons id rest ih => exact Op.agree_bind (agree_onEvents _) fun _ => ih

private theorem agree_waitEvents (events : List EventId) : Op.Agrees (waitEvents events) Alike :=
  Op.agree_bind (agree_drainAll events) fun _ => agree_change fun _ => rfl

/-- The same host object, beside devices that are alike. -/
def CopyAlike (x y : HostObject × Device) : Prop :=
  x.1 = y.1 ∧ Alike x.2 y.2

private theorem agree_copyDevice {op : DeviceOp α} (h : Op.Agrees op Alike) :
    Op.Agrees (onDevice op) CopyAlike :=
  Op.agree_onPart h (fun _ _ same => same.2) fun _ _ _ _ same alike => ⟨same.1, alike⟩

private theorem agree_streamOut (buffer : DeviceBuffer) (range : HostRange) (wait : List EventId) :
    Op.Agrees (streamOut buffer range wait) CopyAlike := by
  refine Op.agree_get_bind ?_ fun x => ?_
  · rintro ⟨object, d⟩ ⟨object', d'⟩ ⟨rfl, same⟩
    have memory : d.memory = d'.memory := alike_view _ (fun _ => rfl) same
    simp only [memory]
  refine Op.agree_bind (Op.agree_ofExcept _) fun data => ?_
  refine Op.agree_bind ?_ fun _ => agree_copyDevice ?_
  · rintro ⟨object, d⟩ ⟨object', d'⟩ ⟨rfl, same⟩
    simp only [Op.step]
    rcases object.writeRange range.offset data with e | written
    · exact ⟨rfl, rfl, same⟩
    · exact ⟨rfl, rfl, same⟩
  · refine Op.agree_bind (agree_onEvents _) fun event => ?_
    refine Op.agree_bind (agree_change fun _ => rfl) fun _ => ?_
    exact Op.agree_bind (Op.agree_emit _) fun _ => Op.agree_pure _

private theorem agree_streamOutBlocking (buffer : DeviceBuffer) (range : HostRange) (wait : List EventId) :
    Op.Agrees (streamOutBlocking buffer range wait) CopyAlike := by
  refine Op.agree_bind (agree_streamOut _ _ _) fun event => ?_
  exact Op.agree_bind (agree_copyDevice (agree_waitEvents _)) fun _ => Op.agree_pure _

private theorem agree_newAtomics (size : Nat) : Op.Agrees (newAtomics size) Alike := by
  refine Op.agree_bind (agree_onMemory _) fun buffer => ?_
  exact Op.agree_bind (agree_change fun _ => rfl) fun _ => Op.agree_pure _

private theorem agree_atomicsBuffer (size : Nat) : Op.Agrees (atomicsBuffer size) Alike := by
  refine agree_look (fun _ => rfl) fun d => ?_
  split
  · exact agree_newAtomics size
  · split
    · exact Op.agree_pure _
    · exact Op.agree_bind (agree_onMemory _) fun _ => agree_newAtomics size

private theorem agree_writeAtomics (values : List Int32) (wait : List EventId) :
    Op.Agrees (writeAtomics values wait) Alike := by
  refine Op.agree_bind (agree_atomicsBuffer _) fun buffer => ?_
  refine Op.agree_bind (agree_onMemory _) fun _ => ?_
  refine Op.agree_bind (agree_onEvents _) fun event => ?_
  exact Op.agree_bind (agree_change fun _ => rfl) fun _ => Op.agree_pure _

private theorem agree_runKernel (kernel : Kernel) (v : Invocation) :
    Op.Agrees (runKernel kernel v) Alike := by
  intro d d' same
  have memory : d.memory = d'.memory := alike_view _ (fun _ => rfl) same
  have reports : d.reports = d'.reports := alike_view _ (fun _ => rfl) same
  simp only [runKernel, memory, reports]
  rcases (kernel v).run v d'.memory with ⟨result, m, new⟩
  exact ⟨trivial, alike_change (fun d => { d with memory := m, reports := d'.reports ++ new })
    (fun _ => rfl) same⟩

private theorem agree_launch (code : Binary) (frame : List KernelArg) (atomics : Option DeviceBuffer)
    (grid : Grid) (offset : Nat) (wait : List EventId) :
    Op.Agrees (launch code frame atomics grid offset wait) Alike := by
  refine agree_look (fun _ => rfl) fun d => ?_
  refine Op.agree_bind (Op.agree_ofExcept _) fun kernel => ?_
  refine Op.agree_bind (Op.agree_ofExcept _) fun threads => ?_
  refine Op.agree_bind (agree_runKernel _ _) fun _ => ?_
  refine Op.agree_bind (agree_onEvents _) fun event => ?_
  refine Op.agree_bind (agree_change fun _ => rfl) fun _ => ?_
  exact Op.agree_bind (Op.agree_emit _) fun _ => Op.agree_pure _

private theorem agree_enqueueMarker (wait : List EventId) : Op.Agrees (enqueueMarker wait) Alike := by
  refine Op.agree_bind (agree_onEvents _) fun marker => ?_
  refine Op.agree_bind (agree_change fun _ => rfl) fun _ => ?_
  exact Op.agree_bind (agree_change fun _ => rfl) fun _ => Op.agree_pure _

private theorem agree_resolveEvent (id : EventId) : Op.Agrees (resolveEvent id) Alike :=
  agree_look (fun _ => rfl) fun _ => Op.agree_ofExcept _

end Device

namespace Profiler

/-- The same measurements, but for the time that compilations took. -/
structure Alike (p q : Profiler) : Prop where
  enabled : p.isEnabled = q.isEnabled
  timers : ∀ kind, kind ≠ .compile → p.profile.timers.get? kind = q.profile.timers.get? kind
  metrics : p.profile.metrics = q.profile.metrics

instance : Op.Transition Alike where
  refl _ := ⟨rfl, fun _ _ => rfl, rfl⟩
  trans first second :=
    ⟨first.enabled.trans second.enabled,
      fun kind other => (first.timers kind other).trans (second.timers kind other),
      first.metrics.trans second.metrics⟩

variable {p q : Profiler}

private theorem get?_addTimer (p : Profiler) (kind other : TimerKind) (nanoseconds : Nat) :
    (p.addTimer kind nanoseconds).profile.timers.get? other =
      if p.isEnabled ∧ kind = other then some ((p.profile.timers.get? kind).getD 0 + nanoseconds)
      else p.profile.timers.get? other := by
  cases p with
  | off => simp [addTimer, isEnabled, profile]
  | on profile => simp [addTimer, isEnabled, Profiler.profile, Profile.addTimer, Table.alter,
      Table.get?_insert]

private theorem alike_addTimer (kind : TimerKind) (nanoseconds : Nat) (same : Alike p q) :
    Alike (p.addTimer kind nanoseconds) (q.addTimer kind nanoseconds) := by
  refine ⟨by simp [same.enabled], ?_, by simp [same.metrics]⟩
  intro other visible
  rw [get?_addTimer, get?_addTimer, same.enabled]
  by_cases hit : q.isEnabled ∧ kind = other
  · rw [if_pos hit, if_pos hit, hit.2, same.timers other visible]
  · rw [if_neg hit, if_neg hit, same.timers other visible]

/-- The time of a compilation is not looked at. -/
theorem alike_addCompile (p : Profiler) (nanoseconds : Nat) :
    Alike p (p.addTimer .compile nanoseconds) := by
  refine ⟨by simp, ?_, by simp⟩
  intro other visible
  rw [get?_addTimer, if_neg (fun hit => visible hit.2.symm)]

private theorem alike_addMetric (kind : MetricKind) (key : String) (value : Nat) (same : Alike p q) :
    Alike (p.addMetric kind key value) (q.addMetric kind key value) := by
  have enabled := same.enabled
  cases p <;> cases q <;> cases enabled
  · exact same
  · refine ⟨rfl, same.timers, ?_⟩
    have metrics := same.metrics
    simp only [Profiler.profile] at metrics
    simp only [addMetric, Profiler.profile, Profile.addMetric, metrics]

end Profiler

namespace Session

/-- A session apart from binaries, records of compilations, counts of passes, whether a warmup has ended,
and measurements. -/
def outline (s : Session) : Session :=
  { s with
    device := s.device.outline
    machine.cache := {}
    machine.stats := {}
    machine.finishedWarmup := false
    machine.profiler := .off }

/-- The sessions differ in that only, and the measurements in the times of compilations only. -/
structure Alike (s t : Session) : Prop where
  outline : s.outline = t.outline
  profiler : Profiler.Alike s.machine.profiler t.machine.profiler

instance : Op.Transition Alike where
  refl _ := ⟨rfl, Op.Transition.refl _⟩
  trans first second :=
    ⟨first.outline.trans second.outline, Op.Transition.trans first.profiler second.profiler⟩

variable {α β : Type} {s t : Session}

theorem Alike.symm (same : Alike s t) : Alike t s :=
  ⟨same.outline.symm, same.profiler.enabled.symm,
    fun kind other => (same.profiler.timers kind other).symm, same.profiler.metrics.symm⟩

/-- What shows none of it is the same on both. -/
theorem alike_view (view : Session → β) (blind : ∀ s, view s = view s.outline) (same : Alike s t) :
    view s = view t := by
  rw [blind s, blind t, same.outline]

private theorem alike_device (same : Alike s t) : Device.Alike s.device t.device :=
  congrArg Session.device same.outline

theorem alike_change (change : Session → Session)
    (blind : ∀ s, (change s).outline = (change s.outline).outline)
    (profiler : ∀ s, (change s).machine.profiler = s.machine.profiler) (same : Alike s t) :
    Alike (change s) (change t) := by
  refine ⟨?_, ?_⟩
  · rw [blind s, blind t, same.outline]
  · rw [profiler s, profiler t]
    exact same.profiler

private theorem agree_change {change : Session → Session}
    (blind : ∀ s, (change s).outline = (change s.outline).outline)
    (profiler : ∀ s, (change s).machine.profiler = s.machine.profiler) :
    Op.Agrees (Op.modify change : MachineOp Unit) Alike :=
  Op.agree_modify fun _ _ same => alike_change _ blind profiler same

private theorem agree_look {next : Session → MachineOp α} (blind : ∀ s, next s = next s.outline)
    (tail : ∀ s, Op.Agrees (next s) Alike) : Op.Agrees (Op.get >>= next) Alike :=
  Op.agree_get_bind (fun _ _ same => alike_view _ blind same) tail

/-- A look at the session that also asks whether measurements are taken. -/
theorem agree_measured {next : Session → MachineOp α}
    (blind : ∀ s t, s.outline = t.outline → s.machine.profiler.isEnabled = t.machine.profiler.isEnabled →
      next s = next t)
    (tail : ∀ s, Op.Agrees (next s) Alike) : Op.Agrees (Op.get >>= next) Alike :=
  Op.agree_get_bind (fun _ _ same => blind _ _ same.outline same.profiler.enabled) tail

private theorem agree_onDevice {op : DeviceOp α} (h : Op.Agrees op Device.Alike) :
    Op.Agrees (onDevice op) Alike := by
  refine Op.agree_onPart (Op.agree_mapError h) (fun _ _ => alike_device) ?_
  intro s t device device' same alike
  refine ⟨?_, same.profiler⟩
  show ({ s.outline with device := device.outline } : Session) =
    { t.outline with device := device'.outline }
  rw [same.outline, show device.outline = device'.outline from alike]

private theorem agree_modifyProfiler {change : Profiler → Profiler}
    (alike : ∀ p q, Profiler.Alike p q → Profiler.Alike (change p) (change q)) :
    Op.Agrees (modifyProfiler change) Alike :=
  Op.agree_modify fun _ _ same => ⟨same.outline, alike _ _ same.profiler⟩

/-- A step of the event lists. -/
theorem agree_setLists (change : Session → Except MachineError EventLists)
    (blind : ∀ s, change s = change s.outline) :
    Op.Agrees (Op.step fun s => (change s).map fun lists =>
        ((), { s with machine := { s.machine with lists } })) Alike := by
  intro s t same
  simp only [Op.step, alike_view _ blind same]
  rcases change t with e | lists
  · exact ⟨rfl, same⟩
  · exact ⟨rfl, alike_change (fun s => { s with machine.lists := lists }) (fun _ => rfl)
      (fun _ => rfl) same⟩

end Session

namespace Machine

open Session (Alike agree_change agree_look agree_measured agree_onDevice agree_modifyProfiler
  agree_setLists)

/-! ### The parts of instructions -/

private theorem agree_addTimer (kind : TimerKind) (nanoseconds : Nat) :
    Op.Agrees (addTimer kind nanoseconds) Alike :=
  agree_modifyProfiler fun _ _ same => Profiler.alike_addTimer kind nanoseconds same

private theorem agree_addMetric (kind : MetricKind) (key : String) (value : Nat) :
    Op.Agrees (addMetric kind key value) Alike :=
  agree_modifyProfiler fun _ _ same => Profiler.alike_addMetric kind key value same

private theorem agree_resetList (list : Option UInt32) : Op.Agrees (resetList list) Alike :=
  agree_setLists (fun s => s.machine.lists.reset (list.map UInt32.toNat)) fun _ => rfl

private theorem agree_waitList (list : Option UInt32) : Op.Agrees (waitList list) Alike :=
  agree_look (fun _ => rfl) fun _ => Op.agree_ofExcept _

private theorem agree_setFrames (change : Machine → Table UInt32 (List KernelArg))
    (blind : ∀ s : Session, change s.machine = change s.outline.machine) :
    Op.Agrees (Session.modifyMachine fun m => { m with frames := change m }) Alike := by
  refine agree_change (fun s => ?_) fun _ => rfl
  show Session.outline { s with machine.frames := change s.machine } =
    Session.outline { s.outline with machine.frames := change s.outline.machine }
  rw [blind s]
  rfl

private theorem agree_modifyBinding (object : Nat) (change : Binding → Binding) :
    Op.Agrees (Session.modifyBinding object change) Alike :=
  agree_change (fun _ => rfl) fun _ => rfl

private theorem agree_modifyMemory (change : MemoryBudget → MemoryBudget) :
    Op.Agrees (Session.modifyMemory change) Alike :=
  agree_change (fun _ => rfl) fun _ => rfl

/-! ### Buffers -/

private theorem agree_bindAll (pairs : List (BufferRequest × DeviceBuffer)) :
    Op.Agrees (bindAll pairs) Alike := by
  induction pairs with
  | nil => exact Op.agree_pure _
  | cons pair rest ih =>
    refine Op.agree_bind (agree_modifyBinding _ _) fun _ => ?_
    exact Op.agree_bind (agree_addMetric _ _ _) fun _ => ih

private theorem agree_alloc (batchSize : Nat) (objects : List UInt32) :
    Op.Agrees (alloc batchSize objects) Alike := by
  refine agree_look (fun _ => rfl) fun s => ?_
  refine Op.agree_bind (Op.agree_ofExcept _) fun requests => ?_
  split
  · exact Op.agree_pure _
  refine Op.agree_bind (Op.agree_ofExcept _) fun _ => ?_
  refine Op.agree_bind (agree_onDevice (Device.agree_allocate _)) fun buffers => ?_
  refine Op.agree_bind (agree_modifyMemory _) fun _ => ?_
  exact Op.agree_bind (agree_bindAll _) fun _ => Op.agree_emit _

private theorem agree_dealloc (object : Nat) : Op.Agrees (dealloc object) Alike := by
  refine agree_look (fun _ => rfl) fun s => ?_
  refine Op.agree_bind (Op.agree_ofExcept _) fun entry => ?_
  refine Op.agree_bind (Op.agree_ofExcept _) fun binding => ?_
  split
  · split
    · exact Op.agree_bind (Op.agree_pure _) fun _ => Op.agree_pure _
    · exact Op.agree_bind (Op.agree_emit _) fun _ => Op.agree_pure _
  · refine Op.agree_bind (agree_onDevice (Device.agree_deallocate _)) fun freed => ?_
    refine Op.agree_bind (agree_modifyBinding _ _) fun _ => ?_
    refine Op.agree_bind (agree_modifyMemory _) fun _ => ?_
    exact Op.agree_bind (Op.agree_emit _) fun _ => Op.agree_pure _

/-! ### Copies -/

private theorem agree_addEventTimes (timer : TimerKind) (events : List EventId) :
    Op.Agrees (addEventTimes timer events) Alike := by
  induction events with
  | nil => exact Op.agree_pure _
  | cons event rest ih =>
    refine Op.agree_bind (agree_onDevice (Device.agree_resolveEvent _)) fun profile => ?_
    refine Op.agree_bind (agree_addTimer _ _) fun _ => ?_
    exact Op.agree_bind (agree_addTimer _ _) fun _ => ih

private theorem agree_profileTransfer (events : List EventId) (timer : TimerKind) (metric : MetricKind)
    (object bytes : Nat) : Op.Agrees (profileTransfer events timer metric object bytes) Alike := by
  refine agree_measured (fun _ _ _ enabled => by rw [enabled]) fun s => ?_
  split
  · refine Op.agree_bind (agree_onDevice (Device.agree_waitEvents _)) fun _ => ?_
    exact Op.agree_bind (agree_addEventTimes _ _) fun _ => agree_addMetric _ _ _
  · exact Op.agree_pure _

private theorem agree_transferIn (transfer : Transfer) (once : Bool) :
    Op.Agrees (transferIn transfer once) Alike := by
  refine agree_look (fun _ => rfl) fun s => ?_
  refine Op.agree_bind (Op.agree_ofExcept _) fun entry => ?_
  split
  · exact Op.agree_pure _
  refine Op.agree_bind (Op.agree_ofExcept _) fun buffer => ?_
  refine Op.agree_bind (Op.agree_ofExcept _) fun binding => ?_
  refine Op.agree_ite (agree_resetList _) ?_
  refine Op.agree_bind (Op.agree_ofExcept _) fun range => ?_
  refine Op.agree_bind (agree_waitList _) fun wait => ?_
  refine Op.agree_bind (agree_onDevice (Device.agree_streamIn _ _ _ _)) fun events => ?_
  have rest : Op.Agrees (do
      resetList transfer.list
      profileTransfer events .copyIn .copyInBytes transfer.object.toNat range.size) Alike :=
    Op.agree_bind (agree_resetList _) fun _ => agree_profileTransfer _ _ _ _ _
  exact Op.agree_ite (Op.agree_bind (agree_modifyBinding _ _) fun _ => rest) rest

private theorem agree_onObject {α : Type} (index : Nat) (object : HostObject) {op : Device.CopyOut α}
    (h : Op.Agrees op Device.CopyAlike) : Op.Agrees (onObject index object op) Alike := by
  refine Op.agree_onPart (Op.agree_mapError h) (fun _ _ same => ⟨rfl, Session.alike_device same⟩) ?_
  rintro s t ⟨object, device⟩ ⟨object', device'⟩ same ⟨copied, alike⟩
  refine ⟨?_, same.profiler⟩
  cases copied
  have outlines : device.outline = device'.outline := alike
  show ({ s.outline with
      context := s.outline.context.setObject index object, device := device.outline } : Session) =
    { t.outline with
      context := t.outline.context.setObject index object, device := device'.outline }
  rw [same.outline, outlines]

private theorem agree_transferOut (transfer : Transfer) (blocking : Bool) :
    Op.Agrees (transferOut transfer blocking) Alike := by
  refine agree_look (fun _ => rfl) fun s => ?_
  refine Op.agree_bind (Op.agree_ofExcept _) fun entry => ?_
  split
  · exact Op.agree_pure _
  refine Op.agree_bind (Op.agree_ofExcept _) fun buffer => ?_
  refine Op.agree_bind (Op.agree_ofExcept _) fun range => ?_
  refine Op.agree_bind (agree_waitList _) fun wait => ?_
  refine Op.agree_bind (agree_onObject _ _ ?_) fun event => ?_
  · split
    · exact Device.agree_streamOutBlocking _ _ _
    · exact Device.agree_streamOut _ _ _
  refine Op.agree_bind (agree_resetList _) fun _ => ?_
  exact Op.agree_bind (agree_profileTransfer _ _ _ _ _) fun _ => Op.agree_pure _

/-! ### Launches, once they have a binary -/

private theorem agree_sendAtomics (atomics : List Int32) : Op.Agrees (sendAtomics atomics) Alike := by
  unfold sendAtomics
  split
  · exact Op.agree_pure _
  · exact Op.agree_bind (agree_onDevice (Device.agree_writeAtomics _ _)) fun _ => Op.agree_pure _

/-- Of a machine the arguments only need the bindings. -/
theorem bindArgs_congr (c : Context) {m m' : Machine} (bindings : m.bindings = m'.bindings)
    (args : List LaunchArg) (frame : List KernelArg) (atomics : List Int32) :
    bindArgs c m args frame atomics = bindArgs c m' args frame atomics := by
  induction args generalizing frame atomics with
  | nil => rfl
  | cons arg rest ih =>
    cases arg with
    | constant index => simp only [bindArgs, ih]
    | reference index => simp only [bindArgs, boundBuffer, bindings, ih]

private theorem agree_bindLaunch (l : Launch) : Op.Agrees (bindLaunch l) Alike := by
  refine agree_look (fun s => ?_) fun s => ?_
  · rw [bindArgs_congr s.context (show s.machine.bindings = s.outline.machine.bindings from rfl)]
    rfl
  refine Op.agree_bind (Op.agree_ofExcept _) fun task => ?_
  refine Op.agree_bind (agree_setFrames _ fun _ => rfl) fun _ => ?_
  refine Op.agree_bind (Op.agree_ofExcept _) fun bound => ?_
  refine Op.agree_bind (agree_waitList _) fun wait => ?_
  exact Op.agree_bind (agree_sendAtomics _) fun _ => Op.agree_pure _

private theorem agree_enqueue (l : Launch) (code : Binary) (b : BoundLaunch) :
    Op.Agrees (enqueue l code b) Alike := by
  refine Op.agree_bind (Op.agree_attempt (agree_onDevice (Device.agree_launch _ _ _ _ _ _)))
    fun launched => ?_
  refine Op.agree_bind (agree_setFrames _ fun _ => rfl) fun _ => ?_
  split
  · exact Op.agree_fail _
  refine Op.agree_bind (agree_resetList _) fun _ => ?_
  refine agree_measured (fun _ _ _ enabled => by rw [enabled]) fun s => ?_
  split
  · refine Op.agree_bind (agree_addTimer _ _) fun _ => ?_
    refine Op.agree_bind (agree_onDevice (Device.agree_waitEvents _)) fun _ => ?_
    refine Op.agree_bind (agree_onDevice (Device.agree_resolveEvent _)) fun profile => ?_
    exact Op.agree_bind (agree_addMetric _ _ _) fun _ => Op.agree_pure _
  · exact Op.agree_pure _

theorem agree_launchWith (l : Launch) (code : Binary) : Op.Agrees (launchWith l code) Alike :=
  Op.agree_bind (agree_bindLaunch l) fun b => agree_enqueue l code b

/-! ### The other instructions, and the ends of a pass -/

private theorem agree_addDependency (last : Option EventId) (list : Option UInt32) :
    Op.Agrees (addDependency last list) Alike := by
  refine agree_look (fun _ => rfl) fun s => ?_
  split
  · exact agree_setLists (fun s => s.machine.lists.push _ _) fun _ => rfl
  · exact Op.agree_pure _

private theorem agree_barrier (list : Option UInt32) : Op.Agrees (barrier list) Alike := by
  refine Op.agree_bind (agree_waitList _) fun wait => ?_
  refine Op.agree_bind (agree_onDevice (Device.agree_enqueueMarker _)) fun marker => ?_
  refine Op.agree_bind (Op.agree_emit _) fun _ => ?_
  exact Op.agree_bind (agree_resetList _) fun _ => Op.agree_pure _

private theorem agree_keepOnDevice (object : Nat) : Op.Agrees (keepOnDevice object) Alike := by
  refine agree_look (fun _ => rfl) fun s => ?_
  exact Op.agree_bind (Op.agree_ofExcept _) fun _ => Op.agree_emit _

theorem agree_endRun : Op.Agrees endRun Alike := by
  refine agree_look (fun _ => rfl) fun s => ?_
  have flushed (marker : Option EventId) : Op.Agrees (do
      if s.machine.config.flushOnEnd then Session.onDevice Device.flush else pure ()
      pure marker : MachineOp (Option EventId)) Alike :=
    Op.agree_ite
      (Op.agree_bind (agree_onDevice (Device.agree_change fun _ => rfl)) fun _ => Op.agree_pure _)
      (Op.agree_pure _)
  exact Op.agree_ite
    (Op.agree_bind (Op.agree_map (agree_onDevice (Device.agree_enqueueMarker _))) flushed)
    (Op.agree_bind (Op.agree_pure _) flushed)

theorem agree_traceEntry (warmup : Bool) (entry : Entry) :
    Op.Agrees (traceEntry warmup entry) Alike := by
  refine agree_look (fun _ => rfl) fun s => ?_
  split
  · exact Op.agree_emit _
  · exact Op.agree_pure _

/-- An instruction that is not a launch. -/
theorem agree_runInstruction (last : Option EventId) (offset : Nat) (i : Instruction)
    (ordinary : ∀ l, i ≠ .launch l) : Op.Agrees (runInstruction last offset i) Alike := by
  cases i with
  | alloc batchSize objects => exact Op.agree_bind (agree_alloc _ _) fun _ => Op.agree_pure _
  | dealloc object => exact Op.agree_bind (agree_dealloc _) fun _ => Op.agree_pure _
  | transfer kind operands =>
    cases kind with
    | inOnce => exact Op.agree_bind (agree_transferIn _ _) fun _ => Op.agree_pure _
    | inAlways => exact Op.agree_bind (agree_transferIn _ _) fun _ => Op.agree_pure _
    | outAlways => exact agree_transferOut _ _
    | outBlocking => exact Op.agree_bind (agree_transferOut _ _) fun _ => Op.agree_pure _
  | launch l => exact absurd rfl (ordinary l)
  | addDependency list => exact Op.agree_bind (agree_addDependency _ _) fun _ => Op.agree_pure _
  | onDevice object => exact Op.agree_bind (agree_keepOnDevice _) fun _ => Op.agree_pure _
  | barrier list => exact Op.agree_map (agree_barrier _)
  | context device => exact Op.agree_fail _
  | beginPass => exact Op.agree_fail _
  | endPass => exact Op.agree_pure _

theorem agree_concludePass (warmup : Bool) (result : Except MachineError (Option EventId)) :
    Op.Agrees (concludePass warmup result) Alike := by
  cases result with
  | error e => exact Op.agree_emit _
  | ok marker =>
    refine Op.agree_bind (agree_change (fun _ => rfl) fun _ => rfl) fun _ => ?_
    exact agree_look (fun _ => rfl) fun s => Op.agree_emit _

end Machine
end Offload
