import Mathlib.Logic.Relation
import Offload.Kernel.Catalogue
import Offload.Proofs.Accounting
import Offload.Proofs.Contents
import Offload.Proofs.LaunchedBatch
import Offload.Proofs.LivePasses
import Offload.Proofs.Refusals

/-! Resets behind the back of a machine. A machine that is warmed up refuses every pass once its device has
been reset, and goes on refusing. A warmup writes off what it had on the device; from then on its launches
run binaries of the epoch that the device is in, on buffers that the device has handed out since. -/
namespace Offload

namespace Machine

variable {s t : Session} {l : Launch} {object : Nat}

/-! ### What a launch is bound to -/

/-- A launch is given the buffers of objects, and the one that the device writes its atomics to. -/
theorem bindLaunch_hands {b : BoundLaunch} (ran : Op.Yields (bindLaunch l) s b t) :
    (∀ buffer, .buffer buffer ∈ b.frame → ∃ object, bufferOf s object = some buffer) ∧
      ∀ buffer, b.atomics = some buffer → t.device.atomics = some buffer := by
  simp only [bindLaunch, Session.modifyMachine, Op.yields_bind, Op.yields_get, Op.yields_ofExcept,
    Op.yields_modify, Op.yields_pure] at ran
  obtain ⟨_, _, ⟨rfl, rfl⟩, task, _, ⟨_, rfl⟩, _, _, rfl, ⟨frame, values⟩, _, ⟨bound, rfl⟩, wait, _, _,
    ⟨atomics, written⟩, u, sent, rfl, rfl⟩ := ran
  refine ⟨fun buffer member => ((bindArgs_holds bound).1 buffer member).resolve_left List.not_mem_nil, ?_⟩
  rintro buffer rfl
  unfold sendAtomics at sent
  split at sent
  · obtain ⟨same, _⟩ := Op.yields_pure.1 sent
    cases same
  · simp only [Op.yields_bind, Op.yields_pure, Prod.mk.injEq] at sent
    obtain ⟨⟨b', events⟩, v, wrote, ⟨same, _⟩, rfl⟩ := sent
    cases same
    obtain ⟨device, written, rfl⟩ := yields_onDevice.1 wrote
    exact Device.atomics_of_writeAtomics written

end Machine

namespace Session
open Machine (bufferOf)

variable {s t : Session} {object : Nat}

/-! ### Buffers and epochs -/

/-- The machine knows the epoch that it knew, or it has nothing bound. -/
def Settles (s t : Session) : Prop :=
  t.machine.epoch = s.machine.epoch ∨ ∀ object, bufferOf t object = none

private theorem settles_alike {u : Session} (settles : Settles s t) (alike : Alike t u) : Settles s u := by
  have epoch : t.machine.epoch = u.machine.epoch := alike_view (fun s => s.machine.epoch) (fun _ => rfl) alike
  have buffers : bufferOf t = bufferOf u := alike_view bufferOf (fun _ => rfl) alike
  rw [Settles, ← epoch, ← buffers]
  exact settles

private theorem settles_afterNotice (s : Session) : Settles s (Machine.afterNotice s) :=
  .inr (Bindings.buffer?_unbindAll _)

private theorem settles_syncEpoch (s : Session) : Settles s (Machine.syncEpoch s).state := by
  by_cases current : s.device.epoch = s.machine.epoch
  · rw [(Machine.syncEpoch_current current).2]
    exact .inl rfl
  rcases finished : s.machine.finishedWarmup with _ | _
  · rw [(Machine.syncEpoch_notice current finished).2]
    exact settles_afterNotice s
  · rw [(Machine.syncEpoch_fatal current finished).2]
    exact .inl rfl

private theorem settles_compile (l : Launch) (s : Session) : Settles s (Machine.compile l s).state := by
  rcases Machine.compile_state l s with ⟨_, _, state⟩ | ⟨_, _, state⟩ | ⟨_, state⟩ <;> rw [state]
  · exact .inl rfl
  · exact settles_alike (settles_afterNotice s) (Machine.alike_fitCode l _)
  · exact settles_alike (.inl rfl) (Machine.alike_fitCode l s)

/-- Nothing but a notice has the machine know another epoch, and no instruction binds anything after it. -/
theorem settles_stepEntry (warmup : Bool) (last : Option EventId) (entry : Entry) (s : Session) :
    Settles s (Machine.stepEntry warmup last entry s).state := by
  obtain ⟨offset, i⟩ := entry
  cases warmup with
  | true =>
    have same : (Machine.stepEntry true last ⟨offset, i⟩ s).state = (Machine.warmInstruction offset i s).state :=
      Op.map_state (fun _ => last) (Machine.warmInstruction offset i) s
    rw [same]
    cases i with
    | launch l => exact settles_compile l s
    | _ => exact .inl rfl
  | false =>
    by_cases launches : ∃ l, i = .launch l
    · obtain ⟨l, rfl⟩ := launches
      show Settles s ((Machine.compile l >>= fun _ => some <$> Machine.dispatch l) s).state
      have compiled := settles_compile l s
      rcases ended : (Machine.compile l s).result with e | _
      · rwa [(Op.bind_of_failed ended).2]
      · rw [(Op.bind_of_yields ⟨ended, rfl⟩).2, Op.map_state]
        have kept : Keeps _ _ := Machine.moves_dispatch l (Machine.compile l s).state
        have unmoved : Session.Unmoved _ _ := Machine.moves_dispatch l (Machine.compile l s).state
        rw [Settles, kept.frames.epoch]
        unfold bufferOf
        rw [unmoved.bindings]
        exact compiled
    · have kept := Machine.survives_runInstruction (R := Keeps) (fun _ _ => id) last offset i
        fun l same => absurd ⟨l, same⟩ launches
      exact .inl (kept s).frames.epoch

/-- The machine knows the epoch that it knew. -/
def Remembers (s t : Session) : Prop :=
  t.machine.epoch = s.machine.epoch

instance : Op.Transition Remembers where
  refl _ := rfl
  trans first second := Eq.trans second first

private theorem remembers_setSchedule (schedule : GridSchedule) : Op.Moves (Machine.setSchedule schedule) Remembers :=
  Machine.moves_setSchedule (fun _ => Op.moves_modify fun _ => rfl) fun _ => rfl

private theorem settles_single (command : MachineCommand) (single : command.Single) (s : Session) :
    Settles s (command.run s).state := by
  have kept {op : MachineOp Unit} (h : Op.Moves op Keeps) : Settles s (op s).state := .inl (h s).frames.epoch
  cases command with
  | execute mode => cases single
  | warmup => cases single
  | freeDeviceMemory => cases single
  | forgetBuffers => exact .inl rfl
  | setConfig config => exact kept (keeps_setConfig config)
  | setSchedule schedule => exact .inl (remembers_setSchedule schedule s)
  | setProfiler profiler => exact .inl rfl
  | clearCode => exact .inl rfl
  | startPass => exact settles_syncEpoch { s with machine.lists := s.machine.lists.resetAll }
  | perform warm last index =>
    show Settles s (MachineCommand.performEntry warm last s.machine.program.scan.entries[index]? s).state
    rcases s.machine.program.scan.entries[index]? with _ | entry
    · exact .inl rfl
    · rw [MachineCommand.performEntry, Op.map_state]
      exact settles_stepEntry warm last entry s
  | endPass warm => exact kept (Op.moves_map (Machine.moves_endPass warm))
  | concludePass warm result => exact kept (Machine.moves_concludePass warm result)
  | setFinished finished => exact .inl rfl
  | dealloc object => exact kept (Op.moves_map (Machine.keeps_dealloc object))

/-- A buffer that is bound is a new one, or it was bound to the object before, and the machine knew the
epoch that it knows. -/
structure Inherits (before after : Session) : Prop where
  memory : before.device.memory.Grows after.device.memory
  bound : ∀ object b, bufferOf after object = some b →
    before.device.memory.Gave after.device.memory b ∨
      after.machine.epoch = before.machine.epoch ∧ bufferOf before object = some b

instance : Op.Transition Inherits where
  refl _ := ⟨Op.Transition.refl _, fun _ _ bound => .inr ⟨rfl, bound⟩⟩
  trans first second := by
    refine ⟨Op.Transition.trans first.memory second.memory, fun object b bound => ?_⟩
    rcases second.bound object b bound with new | ⟨same, earlier⟩
    · exact .inl (new.earlier first.memory)
    · rcases first.bound object b earlier with new | ⟨same', oldest⟩
      · exact .inl (new.later second.memory)
      · exact .inr ⟨same.trans same', oldest⟩

private theorem inherits_single (command : MachineCommand) (single : command.Single) (s : Session) :
    Inherits s (command.run s).state := by
  refine ⟨grows_command command s, fun object b bound => ?_⟩
  rcases (Moment.fate ⟨s, command⟩ single object).buffer bound with before | new
  · rcases settles_single command single s with same | unbound
    · exact .inr ⟨same, before⟩
    · rw [unbound object] at bound
      cases bound
  · exact .inl new

private theorem inherits_extends (extended : Extends s t) : Inherits s t := by
  obtain ⟨past, leads⟩ := extended
  induction leads with
  | here => exact Op.Transition.refl s
  | work _ command single inherits => exact Op.Transition.trans inherits (inherits_single command single _)
  | elsewhere _ context device grows inherits =>
    exact Op.Transition.trans inherits ⟨grows, fun _ _ bound => .inr ⟨rfl, bound⟩⟩

/-- The machine does not know an epoch that is still to come, and its binaries are of the one that it knows. -/
structure Tracked (s : Session) : Prop where
  epoch : s.machine.epoch ≤ s.device.epoch
  dated : s.machine.cache.Dated s.machine.epoch

private theorem Tracked.later (tracked : s.Tracked) (tracks : Tracks s t) : t.Tracked := by
  refine ⟨?_, tracks.dated tracked.dated⟩
  rw [tracks.device]
  rcases tracks.machine with same | current
  · rw [same]
    exact tracked.epoch
  · exact Nat.le_of_eq current

/-- Once the machine knows a later epoch than that of an earlier state of its device, it has bound only
buffers that were handed out after that state. -/
def Renewed (d : Device) (s : Session) : Prop :=
  d.epoch < s.machine.epoch → ∀ object b, bufferOf s object = some b → d.memory.Gave s.device.memory b

private theorem Renewed.later {d : Device} (renewed : s.Renewed d) (memory : d.memory.Grows s.device.memory)
    (inherits : Inherits s t) : t.Renewed d := by
  intro later object b bound
  rcases inherits.bound object b bound with new | ⟨same, before⟩
  · exact new.earlier memory
  · exact (renewed (same ▸ later) object b before).later inherits.memory

end Session

namespace Workspace
open Session (Tracked Renewed)

variable {w v before after : Workspace} {seat index : Nat} {s : Session} {d : Device}

/-! ### Histories -/

/-- A history leads from the one workspace to the other. -/
def Becomes : Workspace → Workspace → Prop :=
  Relation.ReflTransGen Step

private theorem Becomes.reachable (becomes : w.Becomes v) (reachable : w.Reachable) : v.Reachable := by
  induction becomes with
  | refl => exact reachable
  | tail _ step reached => exact .step reached step

/-- Devices age, and stay where they are. -/
theorem ages_step (step : Step before after) (found : before.devices[index]? = some d) :
    ∃ d', after.devices[index]? = some d' ∧ d.Ages d' := by
  have replaced {place : Nat} {new : Device} (ages : ∀ old, before.devices[place]? = some old → old.Ages new) :
      ∃ d', (before.devices.set place new)[index]? = some d' ∧ d.Ages d' := by
    by_cases same : place = index
    · subst same
      exact ⟨new, List.getElem?_set_self (List.getElem?_eq_some_iff.1 found).1, ages d found⟩
    · exact ⟨d, (List.getElem?_set_ne same).trans found, Op.Transition.refl d⟩
  cases step with
  | build place program config =>
    rcases build_cases before place program config with same | ⟨old, site, found', kept, _, same, _⟩ <;> rw [same]
    · exact ⟨d, found, Op.Transition.refl d⟩
    · refine replaced fun other present => ?_
      rw [found'] at present
      cases present
      exact Device.ages_of_same kept.device.memory kept.device.epoch kept.device.atomics
  | machine seat c =>
    rcases present : before.session? seat with _ | ⟨place, s⟩
    · rw [onMachine_absent present]
      exact ⟨d, found, Op.Transition.refl d⟩
    · rw [onMachine_present present]
      obtain ⟨m, device, _, found', rfl⟩ := session?_eq_some.1 present
      refine replaced fun other present => ?_
      rw [found'] at present
      cases present
      exact c.via Device.survives_ages ⟨before.context, device, m⟩
  | device place c =>
    rcases found' : before.devices[place]? with _ | device
    · rw [onDevice_absent found']
      exact ⟨d, found, Op.Transition.refl d⟩
    · rw [onDevice_present found']
      refine replaced fun other present => ?_
      rw [found'] at present
      cases present
      exact c.ages device
  | setLimit limit => exact ⟨d, found, Op.Transition.refl d⟩
  | setObject place object => exact ⟨d, found, Op.Transition.refl d⟩

private theorem ages_of_becomes (becomes : w.Becomes v) (found : w.devices[index]? = some d) :
    ∃ d', v.devices[index]? = some d' ∧ d.Ages d' := by
  induction becomes with
  | refl => exact ⟨d, found, Op.Transition.refl d⟩
  | tail _ step aged =>
    obtain ⟨d', found', ages⟩ := aged
    obtain ⟨d'', found'', ages'⟩ := ages_step step found'
    exact ⟨d'', found'', Op.Transition.trans ages ages'⟩

private theorem tracked_of_reachable (reachable : w.Reachable) : w.Every fun _ => Tracked := by
  refine sessions_of_reachable ?_ ?_ ?_ reachable
  · intro m site config fresh
    refine ⟨Nat.le_of_eq fresh.epoch, fun slot member code found => ?_⟩
    change slot ∈ m.cache.slots at member
    rw [fresh.cache] at member
    cases List.eq_of_mem_replicate member
    cases found
  · exact fun c s tracked => tracked.later (Session.tracks_command c s)
  · exact fun s context device tracked ages => ⟨Nat.le_trans tracked.epoch ages.epoch, tracked.dated⟩

/-- What the machines of a device have bound is new once they know a later epoch. -/
theorem renewed_of_becomes (reachable : w.Reachable) (becomes : w.Becomes v) (found : w.devices[index]? = some d) :
    v.Every fun place s => place = index → s.Renewed d := by
  induction becomes with
  | refl =>
    rintro taken member device present rfl later
    rw [found] at present
    cases present
    exact absurd later (Nat.not_lt.2 (tracked_of_reachable reachable taken member d found).epoch)
  | tail earlier step renewed =>
    obtain ⟨d', found', ages⟩ := ages_of_becomes earlier found
    refine every_step step ?_ ?_ ?_ renewed
    · intro _ m site config fresh _ _ object b bound
      change m.bindings.buffer? object = some b at bound
      rw [fresh.bindings, Bindings.buffer?_ofContext] at bound
      cases bound
    · rintro _ c s present renewed rfl
      rw [found'] at present
      cases present
      exact (renewed rfl).later ages.memory (Session.inherits_extends (Session.extends_command c s))
    · intro _ s context device renewed ages same later object b bound
      exact (renewed same later object b bound).later ages.memory

end Workspace

namespace Machine
open Session (Tracked Renewed Inherits Tracks Untouched)

variable {s t u : Session} {l : Launch} {d : Device}

/-! ### Launches -/

/-- All buffers that a launch is bound to were handed out between the two states of the device. -/
structure BoundLaunch.Given (b : BoundLaunch) (before after : Device) : Prop where
  frame : ∀ buffer, .buffer buffer ∈ b.frame → before.memory.Gave after.memory buffer
  atomics : ∀ buffer, b.atomics = some buffer → before.memory.Gave after.memory buffer

/-- A launch is compiled and bound: the binary is one of the epoch of the device, which is no other than before,
and the buffers are those of the bindings and the atomics area that the device has now. -/
structure BoundLaunch.Fit (b : BoundLaunch) (code : Binary) (s t : Session) : Prop where
  valid : code.valid = true
  epoch : code.epoch = t.device.epoch
  kept : t.device.epoch = s.device.epoch
  ages : s.device.Ages t.device
  frame : ∀ buffer, .buffer buffer ∈ b.frame → ∃ object, bufferOf s object = some buffer
  atomics : ∀ buffer, b.atomics = some buffer → t.device.atomics = some buffer

private theorem inherits_startPass (s : Session) : Inherits s (startPass s).state :=
  Session.inherits_single .startPass trivial s

private theorem inherits_arrived {done rest : List Entry} {last : Option EventId}
    (split : s.machine.program.scan.entries = done ++ rest) (arrived : Arrives s done last t) : Inherits s t := by
  obtain ⟨_, u, started, ran⟩ := Op.yields_bind.1 arrived
  have program := startPass_program started
  have behind : u.machine.program.scan.entries.drop 0 = done ++ rest := by
    rw [program]
    exact split
  have extended := Session.related_prefix Session.extends_part false done rest 0 none u behind
  rw [ran.2] at extended
  have began := inherits_startPass s
  rw [started.2] at began
  exact Op.Transition.trans began (Session.inherits_extends extended)

private theorem tracks_arrived {done : List Entry} {last : Option EventId} (arrived : Arrives s done last t) :
    Tracks s t := by
  refine (Op.moves_bind (survives_startPass Session.tracks_of_keeps tracks_syncEpoch) fun _ => ?_).yields arrived
  exact survives_runPrefix Session.tracks_of_keeps tracks_compile false none done

/-- A launch that is compiled and bound in the middle of a pass. -/
theorem prepared_launch {code : Binary} {b : BoundLaunch} (tracked : s.Tracked)
    (current : s.device.epoch = s.machine.epoch) (prepared : Op.Yields (prepareLaunch l) s (code, b) t) :
    b.Fit code s t := by
  obtain ⟨fit, task, compiled, _, held, _⟩ := prepareLaunch_binds prepared
  simp only [prepareLaunch, Op.yields_bind, Op.yields_pure, Prod.mk.injEq] at prepared
  obtain ⟨_, fit', compiled', code', looked, installed, b', t', bound, ⟨rfl, rfl⟩, rfl⟩ := prepared
  obtain rfl : fit = fit' := compiled.2.symm.trans compiled'.2
  obtain rfl : fit = looked := (moves_installedCode (R := Eq) l).yields installed
  have tracks := (tracks_compile l).yields compiled
  have kept := (moves_bindLaunch (R := Session.Keeps) l).yields bound
  have same : Session.Alike s fit := by
    rw [← compiled.2, compile_current current]
    exact alike_fitCode l s
  have known : s.machine.epoch = fit.machine.epoch :=
    Session.alike_view (fun s => s.machine.epoch) (fun _ => rfl) same
  have buffers : bufferOf s = bufferOf fit := Session.alike_view bufferOf (fun _ => rfl) same
  obtain ⟨valid, epoch⟩ := CodeCache.dated_code (tracked.later tracks).dated held
  obtain ⟨frame, atomics⟩ := bindLaunch_hands bound
  have aged : s.device.Ages fit.device := (Session.Tolerant.compile (R := Session.Via Device.Ages) l).yields compiled
  have aged' : fit.device.Ages t'.device := (moves_bindLaunch (R := Session.Via Device.Ages) l).yields bound
  have same_epoch : t'.device.epoch = s.device.epoch := by rw [kept.frames.device.epoch, tracks.device]
  constructor
  · exact valid
  · rw [epoch, ← known, ← current, same_epoch]
  · exact same_epoch
  · exact Op.Transition.trans aged aged'
  · rw [buffers]
    exact frame
  · exact atomics

/-! ### A reset after the warmup -/

/-- The machine is warmed up and may start a pass, but the device has been reset since. -/
structure Barred (s : Session) : Prop where
  finished : s.machine.finishedWarmup = true
  within : s.context.memory.exceeded = false
  reset : s.machine.epoch < s.device.epoch

private theorem Barred.execute (barred : Barred s) (mode : Mode) :
    (execute mode s).result = .error (.deviceReset s.machine.info.text) ∧
      (execute mode s).state = { s with machine.lists := s.machine.lists.resetAll } := by
  have started : (startPass s).result = .error (.deviceReset s.machine.info.text) ∧
      (startPass s).state = { s with machine.lists := s.machine.lists.resetAll } :=
    syncEpoch_fatal (s := { s with machine.lists := s.machine.lists.resetAll }) (Nat.ne_of_gt barred.reset)
      barred.finished
  obtain ⟨result, state⟩ := execute_within mode barred.within
  have ended (warmup : Bool) : ((startPass >>= fun _ => runProgram warmup) s).result =
        .error (.deviceReset s.machine.info.text) ∧
      ((startPass >>= fun _ => runProgram warmup) s).state = (startPass s).state :=
    Op.bind_of_failed started.1
  rw [result, state]
  unfold pass
  rw [(ended _).1, (ended _).2, started.2]
  exact ⟨rfl, rfl⟩

end Machine

namespace Session

/-- What a machine comes to by passes alone. In between others use its device and its context, and reset the
device, but they leave the usage within the limit. -/
inductive Retries (s : Session) : Session → Prop where
  | here : Retries s s
  | execute {t : Session} (retries : Retries s t) (mode : Mode) : Retries s (Machine.execute mode t).state
  | elsewhere {t : Session} (retries : Retries s t) (context : Context) (device : Device)
      (within : context.memory.exceeded = false) (epoch : t.device.epoch ≤ device.epoch) :
      Retries s ⟨context, device, t.machine⟩

variable {s t : Session}

/-- However often it is retried, the machine stays barred, and it keeps all but its event lists. -/
theorem Retries.barred (retries : s.Retries t) (barred : Machine.Barred s) :
    Machine.Barred t ∧ t.machine = { s.machine with lists := t.machine.lists } := by
  induction retries with
  | here => exact ⟨barred, rfl⟩
  | @execute t retries mode ih =>
    obtain ⟨still, same⟩ := ih
    rw [(still.execute mode).2]
    refine ⟨⟨still.finished, still.within, still.reset⟩, ?_⟩
    dsimp only
    rw [same]
  | elsewhere retries context device within epoch ih =>
    exact ⟨⟨ih.1.finished, within, Nat.lt_of_lt_of_le ih.1.reset epoch⟩, ih.2⟩

open Machine (bufferOf usage)

/-- A warmup after a reset has written off what the machine had on the device. -/
structure Rearmed (before after : Session) : Prop where
  unbound : ∀ object, bufferOf after object = none
  usage : usage after + before.machine.bindings.boundBytes = usage before
  device : after.device.epoch = before.device.epoch
  epoch : after.machine.epoch = after.device.epoch
  binaries : ∀ task code, after.machine.cache.code task = some code → code.epoch = after.device.epoch

/-- What starts out up to date differs in its binaries only. -/
def Compiles (s t : Session) : Prop :=
  s.device.epoch = s.machine.epoch → Untouched s t

instance : Op.Transition Compiles where
  refl s _ := Op.Transition.refl s
  trans first second current := by
    have same := first current
    have device := same.view (fun s => s.device.epoch) fun _ => rfl
    have machine := same.view (fun s => s.machine.epoch) fun _ => rfl
    exact Op.Transition.trans same (second (by rw [← device, ← machine, current]))

private theorem compiles_warmEntries (stop : ScanStop) (last : Option EventId) (entries : List Entry) :
    Op.Moves (Machine.runEntries true stop last entries) Compiles := by
  refine Machine.moves_warmEntries last entries fun l _ s current => ?_
  rw [Machine.compile_current current]
  exact untouched_of_alike (Machine.alike_fitCode l s)

/-- A warmup pass notices the reset first, and only compiles after that. -/
theorem untouched_of_pass {marker : Option EventId} (reset : s.device.epoch ≠ s.machine.epoch)
    (ran : Op.Yields (Machine.pass true) s marker t) :
    Untouched (Machine.afterNotice { s with machine.lists := s.machine.lists.resetAll }) t := by
  obtain ⟨_, u, started, ran⟩ := Op.yields_bind.1 ran
  simp only [Machine.startPass, modifyMachine, Op.yields_bind, Op.yields_modify] at started
  obtain ⟨_, _, rfl, synced⟩ := started
  rcases Machine.yields_syncEpoch.1 synced with ⟨current, _⟩ | ⟨_, _, rfl⟩
  · exact absurd current reset
  · rw [← ran.2]
    exact compiles_warmEntries _ none _ _ rfl

/-- A warmup that ends well is such a pass. -/
theorem pass_of_warmup (ran : Op.Yields Machine.warmup s () t) :
    ∃ marker u, Op.Yields (Machine.pass true) { s with machine.finishedWarmup := false } marker u ∧
      t.context = u.context ∧ t.device = u.device ∧ t.machine.bindings = u.machine.bindings ∧
        t.machine.epoch = u.machine.epoch := by
  simp only [Machine.warmup, modifyMachine, Op.yields_bind, Op.yields_modify] at ran
  obtain ⟨_, _, rfl, marker, v, executed, rfl⟩ := ran
  rcases within : s.context.memory.exceeded with _ | _
  · obtain ⟨result, state⟩ := Machine.execute_within (s := { s with machine.finishedWarmup := false }) .warmup within
    rw [executed.1] at result
    rw [executed.2, ← result] at state
    rw [state]
    exact ⟨marker, _, ⟨result.symm, rfl⟩, rfl, rfl, rfl, rfl⟩
  · have failed := (Machine.execute_exceeded (s := { s with machine.finishedWarmup := false }) .warmup within).1
    rw [executed.1] at failed
    cases failed

private theorem rearmed_of_warmup {others : Nat} (books : s.Books others) (tracked : s.Tracked)
    (reset : s.device.epoch ≠ s.machine.epoch) (ran : Op.Yields Machine.warmup s () t) : Rearmed s t := by
  have dated := (tracked.later (ran.2 ▸ tracks_command .warmup s)).dated
  obtain ⟨marker, u, passed, context, device, bindings, epoch⟩ := pass_of_warmup ran
  have same := untouched_of_pass (s := { s with machine.finishedWarmup := false }) reset passed
  have memory := same.view (fun s => s.context.memory) fun _ => rfl
  have unbound := same.view (fun s => s.machine.bindings) fun _ => rfl
  have known := same.view (fun s => s.machine.epoch) fun _ => rfl
  have kept := same.view (fun s => s.device.epoch) fun _ => rfl
  rw [← device] at kept
  rw [← epoch] at known
  have current : t.machine.epoch = t.device.epoch := known.symm.trans kept
  refine ⟨fun object => ?_, ?_, kept.symm, current, fun task code held => ?_⟩
  · unfold bufferOf
    rw [bindings, ← unbound]
    exact Bindings.buffer?_unbindAll _ object
  · unfold usage
    rw [context, ← memory]
    exact (Machine.forgetBuffers_exact books (Machine.forgetBuffers_yields s)).2.1
  · exact (CodeCache.dated_code dated held).2.trans current

/-- A run from this session comes to a launch, which is compiled and bound; the device is given the binary
and what it is bound to. -/
inductive Dispatches (s : Session) (code : Binary) (b : Machine.BoundLaunch) : Device → Prop where
  | launch {done rest : List Entry} {offset : Nat} {l : Launch} {last : Option EventId} {t u : Session}
      (split : s.machine.program.scan.entries = done ++ ⟨offset, .launch l⟩ :: rest)
      (arrived : Machine.Arrives s done last t)
      (prepared : Op.Yields (Machine.prepareLaunch l) t (code, b) u) : Dispatches s code b u.device

variable {code : Binary} {b : Machine.BoundLaunch} {d d' : Device}

private theorem Dispatches.current (dispatches : s.Dispatches code b d) (tracked : s.Tracked) :
    code.valid = true ∧ code.epoch = d.epoch := by
  obtain ⟨_, arrived, prepared⟩ := dispatches
  have tracked' := tracked.later (Machine.tracks_arrived arrived)
  have fit := Machine.prepared_launch tracked' (Machine.current_of_arrived arrived) prepared
  exact ⟨fit.valid, fit.epoch⟩

/-- The buffers were handed out after an earlier state of the device, if that was in an earlier epoch. -/
theorem Dispatches.given (dispatches : s.Dispatches code b d) (tracked : s.Tracked) (ages : d'.Ages s.device)
    (renewed : s.Renewed d') (earlier : d'.epoch < d.epoch) : b.Given d' d := by
  obtain @⟨_, _, _, _, _, t, _, split, arrived, prepared⟩ := dispatches
  have tracked' := tracked.later (Machine.tracks_arrived arrived)
  have current := Machine.current_of_arrived arrived
  have fit := Machine.prepared_launch tracked' current prepared
  have ages' : s.device.Ages t.device := Machine.via_arrives Device.survives_ages arrived
  constructor
  · intro buffer member
    obtain ⟨object, bound⟩ := fit.frame buffer member
    have known : d'.epoch < t.machine.epoch := by rwa [← current, ← fit.kept]
    have renewed' := renewed.later ages.memory (Machine.inherits_arrived split arrived)
    exact (renewed' known object buffer bound).later fit.ages.memory
  · intro buffer remembered
    have aged := Op.Transition.trans ages (Op.Transition.trans ages' fit.ages)
    rcases aged.atomics buffer (fit.atomics buffer remembered) with new | ⟨still, _⟩
    · exact new
    · exact absurd still (Nat.ne_of_gt earlier)

end Session

namespace Workspace
open Session (Tracked Renewed)

variable {w v : Workspace} {seat index : Nat} {s : Session}

/-- All buffers that a launch is bound to were handed out since the latest reset of the device: whatever
state of an earlier epoch the history has passed through, they were handed out after it. -/
def SinceReset (v : Workspace) (index : Nat) (b : Machine.BoundLaunch) (d : Device) : Prop :=
  ∀ (past : Workspace) (earlier : Device), past.Reachable → past.Becomes v →
    past.devices[index]? = some earlier → earlier.epoch < d.epoch → b.Given earlier d

/-- In a history the runs of a machine give its device binaries of the epoch that the device is in, and
buffers that were handed out since the latest reset. -/
theorem dispatched_since_reset (reachable : v.Reachable) (present : v.session? seat = some (index, s)) {code : Binary}
    {b : Machine.BoundLaunch} {d : Device} (dispatches : s.Dispatches code b d) :
    code.valid = true ∧ code.epoch = d.epoch ∧ v.SinceReset index b d := by
  have tracked : s.Tracked := every_session (tracked_of_reachable reachable) present
  obtain ⟨valid, epoch⟩ := dispatches.current tracked
  refine ⟨valid, epoch, fun past earlier reached becomes found before => ?_⟩
  obtain ⟨m, device, _, here, rfl⟩ := session?_eq_some.1 present
  obtain ⟨later, found', ages⟩ := ages_of_becomes becomes found
  rw [here] at found'
  cases found'
  exact dispatches.given tracked ages (every_session (renewed_of_becomes reached becomes found) present rfl) before

/-- A reset behind a machine that is warmed up is not run over: whatever passes are tried, and however often
the device is reset again, each fails for the reset and changes nothing but that the event lists are empty. A
warmup that ends well writes off the bound buffers, with exactly their bytes, and the binaries; and wherever
the history leads from there, launches run binaries of the epoch that the device is in, on buffers that were
handed out since the latest reset. -/
theorem reset_never_run_over (reachable : w.Reachable) (present : w.session? seat = some (index, s))
    (reset : s.device.epoch ≠ s.machine.epoch) :
    (s.machine.finishedWarmup = true → s.context.memory.exceeded = false → ∀ t, s.Retries t →
        t.machine = { s.machine with lists := t.machine.lists } ∧
          ∀ mode, (Machine.execute mode t).result = .error (.deviceReset s.machine.info.text) ∧
            (Machine.execute mode t).state = { t with machine.lists := t.machine.lists.resetAll }) ∧
      ∀ t, Op.Yields Machine.warmup s () t → s.Rearmed t ∧
        ∀ v, (w.update seat index t).Becomes v → ∀ place r, v.session? seat = some (place, r) →
          ∀ code b d, r.Dispatches code b d →
            code.valid = true ∧ code.epoch = d.epoch ∧ v.SinceReset place b d := by
  have tracked : s.Tracked := every_session (tracked_of_reachable reachable) present
  constructor
  · intro finished within t retries
    have moved : s.machine.epoch < s.device.epoch := Nat.lt_of_le_of_ne tracked.epoch reset.symm
    obtain ⟨barred, same⟩ := retries.barred ⟨finished, within, moved⟩
    refine ⟨same, fun mode => ?_⟩
    have refused := barred.execute mode
    rwa [show t.machine.info = s.machine.info by rw [same]] at refused
  · intro t warmed
    obtain ⟨others, books, _⟩ := books_of_balanced (balanced_of_reachable reachable) present
    refine ⟨Session.rearmed_of_warmup books tracked reset warmed, ?_⟩
    intro v becomes place r present' code b d dispatches
    have warm : (w.onMachine seat MachineCommand.warmup.run).state = w.update seat index t := by
      rw [onMachine_present present]
      exact congrArg (w.update seat index) warmed.2
    have reached : (w.update seat index t).Reachable := warm ▸ .step reachable (.machine w seat .warmup)
    exact dispatched_since_reset (becomes.reachable reached) present' dispatches

/-- A launch of task 0 on the first object. -/
def launchOnFirst : Launch :=
  { wrapper := 0, task := 0, list := none, offset := 0, batchThreads := 0, args := [.reference 0] }

/-- A machine that was warmed up and has run once. -/
def warmAndRun : Workspace :=
  let program := Assembly.bytes
    { instructions := [.context 0, .beginPass, .alloc 0 [0], .launch launchOnFirst, .endPass] }
  let start : Workspace :=
    { context :=
        { name := "warmed up", objects := [{ object := .array (.zeroed .i32 4) }]
          tasks := [{ id := "t", kernel := "noop" }] }
      devices := [Device.registerKernel {} "noop" fun _ => .done ()] }
  let built := (start.build 0 program { useDependencies := false }).state
  let warm := (built.onMachine 0 MachineCommand.warmup.run).state
  (warm.onMachine 0 (MachineCommand.execute .run).run).state

private theorem warmAndRun_reachable : warmAndRun.Reachable := by
  refine .step ?_ (.machine _ 0 (.execute .run))
  refine .step ?_ (.machine _ 0 .warmup)
  exact .step (.start _ _ rfl) (.build _ 0 _ _)

/-- Then the device is reset. -/
def resetBehind : Workspace :=
  (warmAndRun.onDevice 0 DeviceCommand.reset.run).state

/-- Every pass fails. A warmup gives up the 16 bytes of the first buffer, and the launch of the next run is
bound to a second one. -/
theorem resetBehind_rearmed : ∃ s t code b d earlier, resetBehind.session? 0 = some (0, s) ∧
    warmAndRun.devices[0]? = some earlier ∧
    (∀ mode, (Machine.execute mode s).result = .error (.deviceReset s.machine.info.text)) ∧
    Op.Yields Machine.warmup s () t ∧ Machine.usage s = 16 ∧ Machine.usage t = 0 ∧ t.Dispatches code b d ∧
    b.frame = [.buffer ⟨2, 16⟩] ∧ code.epoch = d.epoch ∧ b.Given earlier d := by
  have ran : (resetBehind.session? 0).any (fun seated =>
      (Op.success? Machine.warmup seated.2).any fun warmed =>
        (Op.success? (do Machine.startPass; Machine.runPrefix false none [⟨18, .alloc 0 [0]⟩]) warmed.2).any
          fun arrived => (Op.success? (Machine.prepareLaunch launchOnFirst) arrived.2).any fun prepared =>
            seated.1 = 0 ∧ seated.2.machine.epoch = 0 ∧ seated.2.device.epoch = 1 ∧
              seated.2.machine.finishedWarmup = true ∧ seated.2.context.memory.exceeded = false ∧
              Machine.usage seated.2 = 16 ∧ seated.2.machine.bindings.boundBytes = 16 ∧
              warmed.2.machine.program.scan.entries =
                [⟨18, .alloc 0 [0]⟩] ++ ⟨35, .launch launchOnFirst⟩ :: [⟨73, .endPass⟩] ∧
              prepared.1.2.frame = [.buffer ⟨2, 16⟩] ∧ prepared.2.device.epoch = 1) = true := by
    decide +kernel
  obtain ⟨⟨index, s⟩, present, ran⟩ := (Option.any_eq_true _ _).1 ran
  obtain ⟨⟨_, t⟩, warmed, ran⟩ := (Option.any_eq_true _ _).1 ran
  obtain ⟨⟨last, u⟩, arrived, ran⟩ := (Option.any_eq_true _ _).1 ran
  obtain ⟨⟨⟨code, b⟩, v⟩, prepared, same⟩ := (Option.any_eq_true _ _).1 ran
  obtain ⟨rfl, known, epoch, finished, within, usage, bytes, split, frame, later⟩ := of_decide_eq_true same
  have reset : s.device.epoch ≠ s.machine.epoch := by
    rw [known, epoch]
    decide
  obtain ⟨barred, rearmed⟩ := reset_never_run_over (.step warmAndRun_reachable (.device _ 0 .reset)) present reset
  obtain ⟨written, dispatched⟩ := rearmed t (Op.yields_iff_success?.2 warmed)
  have dispatches : t.Dispatches code b v.device :=
    .launch split (Op.yields_iff_success?.2 arrived) (Op.yields_iff_success?.2 prepared)
  obtain ⟨_, current, since⟩ := dispatched _ .refl 0 t (session?_update present t) code b v.device dispatches
  obtain ⟨earlier, found, first⟩ : ∃ earlier, warmAndRun.devices[0]? = some earlier ∧ earlier.epoch = 0 := by
    have first : (warmAndRun.devices[0]?).map Device.epoch = some 0 := by decide +kernel
    exact Option.map_eq_some_iff.1 first
  have becomes : warmAndRun.Becomes (resetBehind.update 0 0 t) := by
    have warm : (resetBehind.onMachine 0 MachineCommand.warmup.run).state = resetBehind.update 0 0 t := by
      rw [onMachine_present present]
      exact congrArg (resetBehind.update 0 0) (Op.yields_iff_success?.2 warmed).2
    refine .tail (.single (.device _ 0 .reset)) ?_
    rw [← warm]
    exact .machine resetBehind 0 .warmup
  refine ⟨s, t, code, b, v.device, earlier, present, found, fun mode => ?_, Op.yields_iff_success?.2 warmed, usage,
    ?_, dispatches, frame, current, since warmAndRun earlier warmAndRun_reachable becomes found ?_⟩
  · exact ((barred finished within s .here).2 mode).1
  · have taken := written.usage
    rw [usage, bytes] at taken
    omega
  · rw [first, later]
    decide

end Workspace
end Offload
