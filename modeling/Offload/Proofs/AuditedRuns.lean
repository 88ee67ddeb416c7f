import Offload.Code.Assembly
import Offload.Proofs.Chronicles
import Offload.Proofs.Commands
import Offload.Proofs.CountedCopies
import Offload.Proofs.Pool

/-! The measurements of a machine that is alone on its device, from the day it was built. Whatever passes, warmups and
releases it goes through, and wherever they fail, its device and its profiler have counted the same copies. -/
namespace Offload
open Performance (Direction)
open Machine (usage objectKey)

namespace Moment

/-- The instruction that a moment of a run carries out. -/
def instruction? (m : Moment) : Option Instruction :=
  match m.command with
  | .perform false _ index => (m.before.machine.program.scan.entries[index]?).map Entry.instruction
  | _ => none

/-- The copies that are made in a moment: one at most. -/
def copies (m : Moment) : List Copy :=
  (m.instruction?.bind (Instruction.copy? m.before)).toList

/-- The bytes that are given back in a moment. -/
def freed (m : Moment) : Nat :=
  match m.command with
  | .dealloc object => Machine.freedBytes object m.before
  | _ => (m.instruction?.map (Instruction.freed m.before)).getD 0

end Moment

/-! ### What stays while a machine is watched -/

private theorem Session.Tolerant.part {D : Device → Device → Prop} {R : Session → Session → Prop} [Op.Transition R]
    [Session.Tolerant D R] [Device.Survives D] {command : MachineCommand} (part : command.Part) :
    Op.Moves command.run R := by
  cases command with
  | startPass => exact startPass
  | perform warm last index => exact MachineCommand.moves_performAt index (stepEntry _ _)
  | endPass warm => exact Op.moves_map (Machine.moves_endPass warm)
  | concludePass warm result => exact Machine.moves_concludePass warm result
  | setFinished finished => exact Machine.moves_setFinished finished
  | dealloc object => exact Op.moves_map (Machine.moves_dealloc object)
  | _ => exact part.elim

namespace Session

variable {s t : Session}

/-- The settings stay, the profiler stays on or off, and its names stay sorted. -/
structure Attentive (before after : Session) : Prop where
  config : after.machine.config = before.machine.config
  enabled : after.machine.profiler.isEnabled = before.machine.profiler.isEnabled
  sorted : before.profile.Sorted → after.profile.Sorted

instance : Op.Transition Attentive where
  refl _ := ⟨rfl, rfl, id⟩
  trans first second :=
    ⟨second.config.trans first.config, second.enabled.trans first.enabled, second.sorted ∘ first.sorted⟩

instance : ToleratesMetrics Attentive where
  metric _ _ _ _ := ⟨rfl, Profiler.isEnabled_addMetric _ _ _ _, fun sorted => Profiler.sorted_addMetric sorted _ _ _⟩

instance : Tolerant Device.Any Attentive where
  device _ _ _ := ⟨rfl, rfl, id⟩
  timer s kind nanoseconds := by
    refine ⟨rfl, Profiler.isEnabled_addTimer _ _ _, fun sorted metric => ?_⟩
    exact (Profiler.totals_addTimer s.machine.profiler kind nanoseconds metric).symm ▸ sorted metric
  kernelTime s key value := ToleratesMetrics.metric s .kernelTime key value
  passes _ _ _ _ := ⟨rfl, rfl, id⟩
  object _ _ _ := ⟨rfl, rfl, id⟩
  lists _ _ _ := ⟨rfl, rfl, id⟩
  code _ _ _ _ := ⟨rfl, rfl, id⟩
  binding _ _ _ := ⟨rfl, rfl, id⟩
  forget _ := ⟨rfl, rfl, id⟩
  charge _ _ := ⟨rfl, rfl, id⟩
  discharge _ _ := ⟨rfl, rfl, id⟩

/-- A machine that is watched stays watched. -/
theorem Watched.part (watched : s.Watched) {command : MachineCommand} (part : command.Part) :
    Watched (command.run s).state := by
  have attentive : Attentive s _ := Tolerant.part part s
  have tracks := tracks_command command s
  obtain ⟨others, books⟩ := watched.booked
  -- The device and the books change with a part; the walks over commands say how.
  refine ⟨attentive.enabled.trans watched.enabled, attentive.sorted watched.sorted, ?_, ?_, ?_, others, ?_⟩
  · rw [attentive.config]
    exact watched.tracked
  · rcases tracks.machine with same | same <;> rw [tracks.device, same]
    exact watched.current
  · exact (command.via Device.survives_steady s watched.sound).sound
  · exact (continues_command command s).accounts others books

end Session

/-! ### What a part counts -/

namespace Machine
open Session (Uncounted)

variable {s : Session}

private theorem uncounted_compile (current : s.device.epoch = s.machine.epoch) (l : Launch) :
    Uncounted s (compile l s).state := by
  rw [compile_current current]
  exact moves_fitCode l s

private theorem uncounted_startPass (current : s.device.epoch = s.machine.epoch) : Uncounted s (startPass s).state := by
  let emptied : Session := { s with machine.lists := s.machine.lists.resetAll }
  have began : Op.Yields (Session.modifyMachine fun m => { m with lists := m.lists.resetAll }) s () emptied :=
    ⟨rfl, rfl⟩
  have inStep : emptied.device.epoch = emptied.machine.epoch := current
  rw [startPass, (Op.bind_of_yields began).2, (syncEpoch_current inStep).2]
  exact ⟨rfl, fun _ _ => rfl, rfl, rfl⟩

/-- An instruction counts the copy that it makes and the bytes that it gives back. -/
theorem reconciles_entry (watched : s.Watched) (last : Option EventId) (entry : Entry) :
    Reconciles (entry.instruction.copy? s).toList (entry.instruction.freed s) s
      (stepEntry false last entry s).state := by
  obtain ⟨offset, i⟩ := entry
  have ended {α : Type} {op : MachineOp α} {copies : List Copy} {freed : Nat} (a : Option EventId)
      (reconciled : Reconciles copies freed s (op s).state) :
      Reconciles copies freed s (((fun _ => a) <$> op) s).state := by
    rwa [Op.map_state]
  cases i with
  | alloc batchSize objects => exact ended none (reconciles_alloc watched _ _)
  | dealloc object => exact ended none (reconciles_dealloc watched _)
  | transfer kind t =>
    cases kind with
    | inOnce => exact ended last (reconciles_transferIn watched t .inOnce trivial)
    | inAlways => exact ended last (reconciles_transferIn watched t .inAlways trivial)
    | outAlways => exact reconciles_transferOut watched t false
    | outBlocking => exact ended last (reconciles_transferOut watched t true)
  | launch l =>
    refine .of_uncounted (Op.related_bind (uncounted_compile watched.current l) fun _ => ?_)
    exact Op.moves_map (moves_dispatch l) _
  | addDependency list => exact ended last (.of_uncounted (moves_addDependency last list s))
  | onDevice object => exact ended none (.of_uncounted (moves_keepOnDevice _ s))
  | barrier list => exact .of_uncounted (Op.moves_map (moves_barrier list) s)
  | context device => exact .of_uncounted (Op.Transition.refl s)
  | beginPass => exact .of_uncounted (Op.Transition.refl s)
  | endPass => exact .of_uncounted (Op.Transition.refl s)

/-- In a warmup only launches have an effect, and they compile. -/
theorem uncounted_warmEntry (current : s.device.epoch = s.machine.epoch) (last : Option EventId) (entry : Entry) :
    Uncounted s (stepEntry true last entry s).state := by
  obtain ⟨offset, i⟩ := entry
  refine Op.related_bind ?_ fun _ => Op.moves_pure _ _
  cases i with
  | launch l => exact uncounted_compile current l
  | _ => exact Op.Transition.refl s

end Machine

namespace Moment

variable {s : Session} {command : MachineCommand}

/-- A part counts the copies that it makes and the bytes that it gives back. -/
theorem reconciles_part (watched : s.Watched) (part : command.Part) :
    Reconciles (copies ⟨s, command⟩) (freed ⟨s, command⟩) s (command.run s).state := by
  cases command with
  | startPass => exact .of_uncounted (Machine.uncounted_startPass watched.current)
  | perform warm last index =>
    show Reconciles _ _ s (MachineCommand.performEntry warm last s.machine.program.scan.entries[index]? s).state
    cases warm with
    | true =>
      rcases s.machine.program.scan.entries[index]? with _ | entry
      · exact .of_uncounted (Op.Transition.refl s)
      · rw [MachineCommand.performEntry, Op.map_state]
        exact .of_uncounted (Machine.uncounted_warmEntry watched.current last entry)
    | false =>
      have carried : instruction? ⟨s, .perform false last index⟩ =
        (s.machine.program.scan.entries[index]?).map Entry.instruction := rfl
      show Reconciles ((instruction? _).bind (Instruction.copy? s)).toList
        (((instruction? _).map (Instruction.freed s)).getD 0) s _
      rw [carried]
      rcases s.machine.program.scan.entries[index]? with _ | entry
      · exact .of_uncounted (Op.Transition.refl s)
      · rw [MachineCommand.performEntry, Op.map_state]
        exact Machine.reconciles_entry watched last entry
  | endPass warm => exact .of_uncounted (Op.moves_map (Machine.moves_endPass warm) s)
  | concludePass warm result => exact .of_uncounted (Machine.moves_concludePass warm result s)
  | setFinished finished => exact .of_uncounted ⟨rfl, fun _ _ => rfl, rfl, rfl⟩
  | dealloc object =>
    have reconciled := Machine.reconciles_dealloc watched object
    rwa [← Op.map_state (fun _ => ())] at reconciled
  | _ => exact part.elim

end Moment

/-! ### Whole runs -/

namespace Session

variable {start s t : Session} {past more : List Moment} {bytes : Bytes} {config : Config} {m : Machine}
  {site : Machine.Site}

/-- What a machine goes through that has its device and its context to itself, the latest first, and where it is
then: each part of its work begins where the one before it ended. -/
inductive Alone (start : Session) : List Moment → Session → Prop where
  | here : Alone start [] start
  | work {past : List Moment} {s : Session} (alone : Alone start past s) (command : MachineCommand)
      (part : command.Part) : Alone start (⟨s, command⟩ :: past) (command.run s).state

private theorem Alone.append (first : Alone s past t) (second : Alone t more start) : Alone s (more ++ past) start := by
  induction second with
  | here => exact first
  | work _ command part alone => exact .work alone command part

/-- Parts of work lead from the one session to the other. -/
def Reaches (s t : Session) : Prop :=
  ∃ past, Alone s past t

instance : Op.Transition Reaches where
  refl _ := ⟨[], .here⟩
  trans first second := by
    obtain ⟨past, alone⟩ := first
    obtain ⟨more, alone'⟩ := second
    exact ⟨more ++ past, alone.append alone'⟩

/-- Passes, warmups and releases of everything are made up of parts, however they end. -/
theorem reaches_routines (commands : List MachineCommand) (routines : ∀ c ∈ commands, c.Routine) (s : Session) :
    Reaches s (commands.foldl (fun s c => (c.run s).state) s) := by
  induction commands generalizing s with
  | nil => exact Op.Transition.refl s
  | cons command rest ih =>
    have began : Reaches s (command.run s).state :=
      related_routine (fun command s part => ⟨[⟨s, command⟩], .work .here command part⟩)
        (routines command (List.mem_cons_self ..)) s
    exact Op.Transition.trans began (ih (fun c member => routines c (List.mem_cons_of_mem _ member)) _)

/-- Failing work is not set apart: every part leaves a machine watched, however it ends. -/
theorem watched_alone (watched : start.Watched) (alone : Alone start past s) : s.Watched := by
  induction alone with
  | here => exact watched
  | work _ command part ih => exact ih.part part

/-- Each part of the work of a watched machine counts its own copies. -/
theorem reconciles_each (watched : start.Watched) (alone : Alone start past s) :
    ∀ m ∈ past, Reconciles m.copies m.freed m.before m.after := by
  induction alone with
  | here => exact fun _ member => nomatch member
  | work alone command part ih =>
    intro m member
    rcases List.mem_cons.1 member with rfl | earlier
    · exact Moment.reconciles_part (watched_alone watched alone) part
    · exact ih m earlier

/-- What it has counted since is what it has copied and given back since. -/
theorem reconciles_alone (watched : start.Watched) (alone : Alone start past s) :
    Reconciles (past.flatMap Moment.copies) (past.map Moment.freed).sum start s := by
  induction alone with
  | here => exact .of_uncounted (Op.Transition.refl start)
  | work alone command part ih => exact ih.trans (Moment.reconciles_part (watched_alone watched alone) part)

/-! ### New machines -/

private theorem create_profiler {before : Machine.Site} (made : Op.Yields (Machine.create bytes config) before m site) :
    m.profiler = .create config.profiler := by
  unfold Machine.create at made
  split at made
  · simp at made
  · iterate 5 obtain ⟨_, _, _, made⟩ := Op.yields_bind.1 made
    rw [← (Op.yields_pure.1 made).1]

/-- A machine that is built with a profiler and with dependencies is watched from the start. -/
theorem watched_create {context : Context} {device : Device}
    (made : Op.Yields (Machine.create bytes config) (context, device) m site) (profiled : config.profiler = true)
    (tracked : config.useDependencies = true) (sound : device.events.Sound) :
    Watched ⟨site.1, site.2, m⟩ := by
  have fresh := Machine.create_fresh made
  have profiler := create_profiler made
  rw [profiled] at profiler
  have tame : Device.Tame device site.2 :=
    (Pool.via_create (Device.moves_within Device.only_ensureLoaded (by decide)) bytes config).yields made
  refine ⟨congrArg Profiler.isEnabled profiler, ?_, ?_, fresh.epoch.symm, (tame.events sound).sound,
    site.1.memory.usage, ?_, ?_⟩
  · show m.profiler.profile.Sorted
    rw [profiler]
    exact Profile.sorted_empty
  · show m.config.useDependencies = true
    rw [fresh.config]
    exact tracked
  · show site.1.memory.usage = m.bindings.boundBytes + site.1.memory.usage
    rw [fresh.bindings, Bindings.boundBytes_ofContext, Nat.zero_add]
  · show m.bindings.IssuedBy site.2.memory
    rw [fresh.bindings]
    exact Bindings.issuedBy_of_unbound (Bindings.buffer?_ofContext site.1)

/-- The books of a machine that began with `charged` bytes of the budget in use: what it has copied, part by part
and in total, is what its profiler has measured for each object and what its device has counted, and what it has
allocated is in use or was given back. -/
structure Audited (charged : Nat) (past : List Moment) (s : Session) : Prop where
  each : ∀ m ∈ past, Reconciles m.copies m.freed m.before m.after
  metric : ∀ direction object, s.profile.metric direction.metric (objectKey object) =
    copiedBytes direction (copiesOf object (past.flatMap Moment.copies))
  traffic : ∀ direction, s.device.traffic direction = copiedBytes direction (past.flatMap Moment.copies)
  total : ∀ direction, s.profile.metricTotal direction.metric = s.device.traffic direction
  allocated : s.profile.metricTotal .allocationBytes + charged = usage s + (past.map Moment.freed).sum

/-- The profiler of a machine agrees with its device. If the machine is built with a profiler and with dependencies on a
new device, and has it to itself, then whatever passes, warmups and releases of everything it goes through, however
they end, and wherever it stands between them, both have counted the same copies. -/
theorem metrics_agree {context : Context} {info : DeviceInfo} {deferred : Bool} {kernels : Table String Kernel}
    {failing : List String}
    (made : Op.Yields (Machine.create bytes config)
      (context, { Device.create info deferred with kernels, failing }) m site)
    (profiled : config.profiler = true) (tracked : config.useDependencies = true) :
    (∀ commands : List MachineCommand, (∀ c ∈ commands, c.Routine) →
      ∃ past, Alone ⟨site.1, site.2, m⟩ past (commands.foldl (fun s c => (c.run s).state) ⟨site.1, site.2, m⟩)) ∧
      ∀ past s, Alone ⟨site.1, site.2, m⟩ past s → Audited context.memory.usage past s := by
  have watched := watched_create made profiled tracked (EventTable.sound_start deferred)
  have profile : Session.profile ⟨site.1, site.2, m⟩ = {} := by
    show m.profiler.profile = {}
    rw [create_profiler made, profiled]
    rfl
  have charged : usage ⟨site.1, site.2, m⟩ = context.memory.usage :=
    ((Machine.siteKeeps_create bytes config).yields made).usage
  have traffic (direction : Direction) : site.2.traffic direction = 0 := by
    have loads : Op.Moves Device.ensureLoaded Device.SameTraffic :=
      Device.moves_within Device.only_ensureLoaded (by decide)
    have same : Device.SameTraffic _ site.2 := (Pool.via_create loads bytes config).yields made
    rw [same]
    cases direction <;> rfl
  refine ⟨fun commands routines => reaches_routines commands routines _, fun past s alone => ?_⟩
  have reconciled := reconciles_alone watched alone
  refine ⟨reconciles_each watched alone, fun direction object => ?_, fun direction => ?_, fun direction => ?_, ?_⟩
  · rw [reconciled.metric, profile]
    exact Nat.zero_add _
  · rw [reconciled.traffic, traffic, Nat.zero_add]
  · rw [reconciled.total, reconciled.traffic, profile, traffic]
    rfl
  · have allocated := reconciled.allocated
    rw [profile, charged] at allocated
    exact allocated.trans (congrArg (· + _) (Nat.zero_add _))

/-- The start of a run and its first instructions. -/
def firstParts (start : Session) : Nat → List Moment × Session
  | 0 => ([⟨start, .startPass⟩], (MachineCommand.startPass.run start).state)
  | count + 1 =>
    let (past, s) := firstParts start count
    (⟨s, .perform false none count⟩ :: past, ((MachineCommand.perform false none count).run s).state)

private theorem alone_firstParts (start : Session) (count : Nat) :
    Alone start (firstParts start count).1 (firstParts start count).2 := by
  induction count with
  | zero => exact .work .here _ trivial
  | succ count ih => exact .work ih _ trivial

/-- A copy of a whole object. -/
def wholeCopy (object : UInt32) : Transfer where
  object
  list := none
  offset := 0
  batchSize := 0

/-- A run that copies one object to the device and gives the other one back. -/
def copyingProgram : Bytes :=
  Assembly.bytes
    { instructions :=
        [.context 0, .beginPass, .alloc 0 [0, 1], .dealloc 1, .transfer .inAlways (wholeCopy 0), .endPass] }

def copyingContext : Context where
  name := "copying"
  objects := [{ object := .array (.zeroed .i32 4) }, { object := .array (.zeroed .i32 2) }]

/-- Both sides know of the sixteen bytes that the run copies, and of the eight that it gives back. -/
theorem copying_run_agrees : ∃ past s, Audited 0 past s ∧ past.flatMap Moment.copies = [⟨.hostToDevice, 0, 16⟩] ∧
    s.profile.metric .copyInBytes (objectKey 0) = 16 ∧ s.device.traffic .hostToDevice = 16 ∧
    s.profile.metricTotal .allocationBytes = usage s + 8 := by
  have ran : (Op.success? (Machine.create copyingProgram { profiler := true })
      (copyingContext, { Device.create {} false with kernels := {}, failing := [] })).any (fun made =>
        let past := (firstParts ⟨made.2.1, made.2.2, made.1⟩ 3).1
        past.flatMap Moment.copies = [⟨.hostToDevice, 0, 16⟩] ∧ (past.map Moment.freed).sum = 8) = true := by
    decide +kernel
  obtain ⟨⟨m, site⟩, made, same⟩ := (Option.any_eq_true _ _).1 ran
  obtain ⟨copies, freed⟩ := of_decide_eq_true same
  have agrees := metrics_agree (Op.yields_iff_success?.2 (Option.mem_def.1 made)) rfl rfl
  have audited := agrees.2 _ _ (alone_firstParts _ 3)
  generalize (firstParts ⟨site.1, site.2, m⟩ 3).1 = past at copies freed audited
  generalize (firstParts ⟨site.1, site.2, m⟩ 3).2 = s at audited
  have metric := audited.metric .hostToDevice 0
  have traffic := audited.traffic .hostToDevice
  have allocated := audited.allocated
  rw [copies] at metric traffic
  rw [freed] at allocated
  exact ⟨past, s, audited, copies, metric, traffic, allocated⟩

end Session
end Offload
