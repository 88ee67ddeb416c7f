import Offload.Proofs.Passes

/-! Runs that read their dependencies from history. A pass is carried out here with the instructions it
has completed at hand: what a consumer waits for, and which event a dependency is added for, follow from
those alone. No event list is read and no event is remembered; the lists are only written, so that the
sessions compare with those of a machine. -/
namespace Offload

/-- An instruction that a pass has completed. -/
structure Deed where
  instruction : Instruction
  /-- It was a copy of the kernel context, which has no buffer. -/
  idle : Bool
  /-- The event of a copy to the host that returns at once, of a launch or of a barrier. -/
  event : Option EventId
  deriving Repr, DecidableEq

/-- It took over all that was appended to the list. -/
def Deed.consumes (d : Deed) (list : UInt32) : Bool :=
  match d.instruction with
  | .transfer _ t => !d.idle && t.list = some list
  | .launch l => l.list = some list
  | .barrier named => named = some list
  | _ => false

/-- What a pass has completed, the latest instruction first. -/
abbrev Deeds := List Deed

namespace Deeds

/-- The event that a dependency is added for. -/
def latest : Deeds → Option EventId
  | [] => none
  | d :: past =>
    match d.instruction with
    | .transfer .outAlways _ | .launch _ | .barrier _ => d.event
    | .alloc _ _ | .dealloc _ | .onDevice _ => none
    | _ => latest past

/-- The events appended to a list since the start of the pass or the latest consumer, in their order. -/
def pending (list : UInt32) : Deeds → List EventId
  | [] => []
  | d :: past =>
    if d.consumes list then []
    else if d.instruction = .addDependency (some list) then pending list past ++ (latest past).toList
    else pending list past

end Deeds

namespace Machine

/-! ### Consumers, given their events -/

section Consumers

variable (take : MachineOp (List EventId))

def copyInWith (t : Transfer) (once : Bool) : MachineOp Unit := do
  let s ← Op.get
  let object := t.object.toNat
  let entry ← Op.ofExcept (s.context.object object)
  if entry.object.isKernelContext then pure ()
  else do
    let buffer ← Op.ofExcept (s.machine.boundBuffer .copyIn object)
    let binding ← Op.ofExcept (s.machine.bindings.get object)
    let whole := t.batchSize = 0
    if once ∧ whole ∧ binding.hasContent then resetList t.list
    else do
      let range ← Op.ofExcept (transferRange t entry.object.byteSize)
      let wait ← take
      let events ← Session.onDevice (Device.streamIn entry.object buffer range wait)
      if whole then Session.modifyBinding object fun b => b.setContent true
      else pure ()
      resetList t.list
      profileTransfer events .copyIn .copyInBytes object range.size

def copyOutWith (t : Transfer) (blocking : Bool) : MachineOp (Option EventId) := do
  let s ← Op.get
  let object := t.object.toNat
  let entry ← Op.ofExcept (s.context.object object)
  if entry.object.isKernelContext then pure none
  else do
    let buffer ← Op.ofExcept (s.machine.boundBuffer .copyOut object)
    let range ← Op.ofExcept (transferRange t entry.object.byteSize)
    let wait ← take
    let event ← onObject object entry.object
      (if blocking then Device.streamOutBlocking buffer range wait
        else Device.streamOut buffer range wait)
    resetList t.list
    profileTransfer [event] .copyOut .copyOutBytes object range.size
    pure (some event)

/-- A launch with its binary. It waits for its events and for the write of its atomics. -/
def runWith (l : Launch) (code : Binary) : MachineOp EventId := do
  let s ← Op.get
  let task ← Op.ofExcept (s.context.task l.task.toNat)
  Session.modifyMachine fun m => { m with frames := m.frames.erase l.wrapper }
  let (frame, values) ← Op.ofExcept
    (bindArgs s.context s.machine l.args (emptyFrame s.machine.frames l.wrapper) [])
  let wait ← take
  let (atomics, written) ← sendAtomics values
  let grid := launchGrid s.machine.schedule task l.batchThreads.toNat
  let launched ← Op.attempt (Session.onDevice
    (Device.launch code frame atomics grid l.offset.toNat (wait ++ written)))
  Session.modifyMachine fun m => { m with frames := m.frames.insert l.wrapper frame }
  match launched with
  | .error e => Op.fail (e.forTask task.id)
  | .ok event => do
    resetList l.list
    measureLaunch task.id event

def dispatchWith (l : Launch) : MachineOp EventId := do
  let code ← installedCode l
  runWith take l code

def barrierWith (list : Option UInt32) : MachineOp EventId := do
  let wait ← take
  let marker ← Session.onDevice (Device.enqueueMarker wait)
  Op.emit ⟨.debug, none, [("event", "barrier"), ("waits", wait.length), ("marker", marker)]⟩
  resetList list
  pure marker

end Consumers

/-! ### Passes -/

/-- The events of a list, by the history. -/
def takeList (past : Deeds) : Option UInt32 → MachineOp (List EventId)
  | none => pure []
  | some list => do
    let s ← Op.get
    if list.toNat < s.machine.lists.size then pure (past.pending list)
    else Op.fail (.malformed (.listOutOfRange list.toNat s.machine.lists.size))

/-- Append the latest event to a list, if there are both. -/
def appendLatest (past : Deeds) (list : Option UInt32) : MachineOp Unit :=
  match past.latest, list with
  | some event, some list => do
    let s ← Op.get
    if s.machine.lists.size ≤ list.toNat then
      Op.fail (.malformed (.listOutOfRange list.toNat s.machine.lists.size))
    else if s.machine.config.maxEvents ≤ (past.pending list).length then
      Op.fail (.listOverflow list.toNat s.machine.config.maxEvents)
    else
      Session.modifyMachine fun m =>
        { m with lists.lists := m.lists.lists.set list.toNat (past.pending list ++ [event]) }
  | _, _ => pure ()

/-- One instruction of a run; the result is its event. What has to do with neither lists nor events
is done as a machine does it. -/
def replay (past : Deeds) (offset : Nat) : Instruction → MachineOp (Option EventId)
  | .transfer .inOnce t => do
    copyInWith (takeList past t.list) t true
    pure none
  | .transfer .inAlways t => do
    copyInWith (takeList past t.list) t false
    pure none
  | .transfer .outAlways t => copyOutWith (takeList past t.list) t false
  | .transfer .outBlocking t => do
    let _ ← copyOutWith (takeList past t.list) t true
    pure none
  | .launch l => do
    compile l
    some <$> dispatchWith (takeList past l.list) l
  | .addDependency list => do
    appendLatest past list
    pure none
  | .barrier list => some <$> barrierWith (takeList past list) list
  | other => do
    let _ ← runInstruction none offset other
    pure none

/-- A transfer of the kernel context does nothing. -/
def idle (c : Context) : Instruction → Bool
  | .transfer _ t => c.objects[t.object.toNat]?.any fun entry => entry.object.isKernelContext
  | _ => false

/-- Carry out an instruction and add it to the history. -/
def replayEntry (past : Deeds) (entry : Entry) : MachineOp Deeds := do
  let s ← Op.get
  let event ← replay past entry.offset entry.instruction
  pure (⟨entry.instruction, idle s.context entry.instruction, event⟩ :: past)

def replayEntries (stop : ScanStop) : Deeds → List Entry → MachineOp (Option EventId)
  | _, [] =>
    match stop with
    | .failed e => Op.fail (.decode e)
    | _ => endRun
  | past, entry :: rest => do
    traceEntry false entry
    if entry.instruction = .endPass then endRun
    else do
      let past ← replayEntry past entry
      replayEntries stop past rest

/-- A pass of a run. At its start there is no history. -/
def replayPass : MachineOp (Option EventId) := do
  startPass
  let s ← Op.get
  replayEntries s.machine.program.scan.stop [] s.machine.program.scan.entries

/-- A pass from `s` on has got to `t`, with this history. Between two instructions others may have used
the device and the context. -/
inductive Passing (s : Session) : Deeds → Session → Prop where
  | start {t : Session} (ran : Op.Yields startPass s () t) : Passing s [] t
  | step {past now : Deeds} {t u : Session} (passing : Passing s past t) (entry : Entry)
      (ran : Op.Yields (replayEntry past entry) t now u) : Passing s now u
  | elsewhere {past : Deeds} {t u : Session} (passing : Passing s past t)
      (same : u.machine = t.machine) : Passing s past u

end Machine
end Offload
