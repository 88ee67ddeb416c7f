import Offload.Proofs.Disassembly
import Offload.Proofs.Resets
import Offload.Proofs.Unread

/-! Passes as replays of a listing. A machine that decodes as it goes, with a cursor that it takes back to its
mark when the pass is over, does what a machine does that carries out the listed instructions. What it decodes
is a beginning of what is listed behind BEGIN, and all of that when the pass succeeds. -/
namespace Offload

/-- A session in which the program is being read. The cursor of its machine moves. -/
structure Reading where
  session : Session
  /-- The instructions decoded so far. -/
  decoded : List Entry := []

abbrev ReadingOp (α : Type) := Op MachineError Reading α

namespace Reading

def cursor (r : Reading) : Cursor :=
  r.session.machine.program

def moveTo (c : Cursor) (r : Reading) : Reading :=
  { r with session.machine.program := c }

def onSession {α : Type} (op : MachineOp α) : ReadingOp α :=
  op.onPart Reading.session fun session r => { r with session }

/-- The instruction at the cursor. Bytes that are no instruction move the cursor too. -/
def next : ReadingOp Entry := fun r =>
  match Instruction.decode r.cursor with
  | ⟨.error e, c, _⟩ => ⟨.error (.decode e), r.moveTo c, []⟩
  | ⟨.ok i, c, _⟩ =>
    let entry : Entry := ⟨r.cursor.position, i⟩
    ⟨.ok entry, { r.moveTo c with decoded := r.decoded ++ [entry] }, []⟩

/-- Decode and carry out instructions up to END or to the end of the bytes. Each takes a byte at least, so
their number is bounded by the bytes left. -/
def readOn (warmup : Bool) : Nat → Option EventId → ReadingOp (Option EventId)
  | 0, _ => onSession (Machine.endPass warmup)
  | bytes + 1, last => do
    let r ← Op.get
    if r.cursor.hasRemaining then do
      let entry ← next
      onSession (Machine.traceEntry warmup entry)
      if entry.instruction = .endPass then onSession (Machine.endPass warmup)
      else do
        let last ← onSession (Machine.stepEntry warmup last entry)
        readOn warmup bytes last
    else onSession (Machine.endPass warmup)

/-- The start of a pass, and what is decoded from the cursor on. -/
def pass (warmup : Bool) : ReadingOp (Option EventId) := do
  onSession Machine.startPass
  let r ← Op.get
  readOn warmup r.cursor.remaining none

/-- One pass that decodes as it goes. However it ends, the cursor is taken back to its mark. -/
def replay (mode : Mode) : ReadingOp (Option EventId) := do
  let r ← Op.get
  let memory := r.session.context.memory
  if memory.exceeded then Op.fail (.outOfMemory memory.usage 0 (memory.limit.getD Text.maxUInt64))
  else do
    let warmup := mode = .warmup || r.session.machine.config.virtualDevice
    Op.emit (Performance.spanStart "interpreter_pass" [("warmup", warmup)])
    let result ← Op.attempt (pass warmup)
    Op.modify fun r => r.moveTo r.cursor.reset
    onSession (Machine.concludePass warmup result)
    Op.emit Performance.spanComplete
    Op.ofExcept result

end Reading

/-- The session when its program is read elsewhere. -/
def Session.readAt (s : Session) (c : Cursor) : Session :=
  { s with machine.program := c }

/-- A log has a line for each instruction, if that is switched on. -/
def linesOf (traced warmup : Bool) (decoded : List Entry) : Log :=
  if traced then decoded.map (Entry.line warmup) else []

private theorem linesOf_nil (traced warmup : Bool) : linesOf traced warmup [] = [] := by
  cases traced <;> rfl

private theorem linesOf_cons (traced warmup : Bool) (entry : Entry) (decoded : List Entry) :
    linesOf traced warmup (entry :: decoded) = linesOf traced warmup [entry] ++ linesOf traced warmup decoded := by
  cases traced <;> rfl

private theorem lines_linesOf (traced warmup : Bool) (decoded : List Entry) :
    (linesOf traced warmup decoded).lines = linesOf traced warmup decoded := by
  cases traced with
  | false => rfl
  | true =>
    refine List.filter_eq_self.2 fun event member => ?_
    obtain ⟨entry, _, rfl⟩ := List.mem_map.1 member
    exact entry.isLine_line warmup

private theorem lines_append (log log' : Log) : (log ++ log').lines = log.lines ++ log'.lines :=
  List.filter_append ..

namespace Machine

variable {s t : Session} {warmup : Bool} {last : Option EventId} {stop : ScanStop} {entry : Entry}
  {rest decoded : List Entry}

/-! ### Decoding as a machine goes -/

private theorem traceEntry_lines (warmup : Bool) (entry : Entry) (s : Session) :
    traceEntry warmup entry s = ⟨.ok (), s, linesOf s.machine.config.traceCode warmup [entry]⟩ := by
  unfold traceEntry
  rw [Op.get_bind, linesOf]
  split <;> rfl

private theorem runPrefix_next {last' : Option EventId}
    (ran : Op.Yields (runPrefix warmup last (entry :: rest)) s last' t) :
    ∃ next u, Op.Yields (stepEntry warmup last entry) s next u ∧ Op.Yields (runPrefix warmup next rest) u last' t := by
  obtain ⟨_, r, traced, ran⟩ := Op.yields_bind.1 ran
  rw [Op.Yields, traceEntry_lines] at traced
  obtain ⟨_, rfl⟩ := traced
  exact Op.yields_bind.1 ran

/-- What has been decoded of the instructions of a program when a run over them from `s` has ended; `front` is
the run without its end. -/
structure Decodes (warmup : Bool) (body : List Entry) (front : MachineOp (Option EventId)) (s : Session)
    (ran : Outcome MachineError Session (Option EventId)) (decoded : List Entry) : Prop where
  listed : decoded <+: body
  complete : ∀ marker, ran.result = .ok marker → decoded = body
  arrived : ∀ last t, Op.Yields front s last t → decoded = body
  lines : ran.log.lines = linesOf s.machine.config.traceCode warmup decoded
  steady : ran.state.machine.program = s.machine.program ∧
    ran.state.machine.config.traceCode = s.machine.config.traceCode

/-- So for a run over the instructions ahead. -/
abbrev DecodesAhead (warmup : Bool) (last : Option EventId) (ahead : Scan) (s : Session) : List Entry → Prop :=
  Decodes warmup ahead.entries (runPrefix warmup last ahead.entries) s
    (runEntries warmup ahead.stop last ahead.entries s)

private theorem decodes_nothing (stop : ScanStop) : DecodesAhead warmup last ⟨[], stop⟩ s [] := by
  have unread (c : Cursor) (traced : Bool) : Unread c traced (runEntries warmup stop last []) := by
    unfold runEntries
    split
    · apply Op.aloof_fail
    · apply unread_endPass
  obtain ⟨silent, steady⟩ := steady_of_unread unread s
  exact ⟨List.nil_prefix, fun _ _ => rfl, fun _ _ _ => rfl, silent.trans (linesOf_nil _ _).symm, steady⟩

private theorem runEntries_end {offset : Nat} : runEntries warmup stop last (⟨offset, .endPass⟩ :: rest) s =
    ⟨(endPass warmup s).result, (endPass warmup s).state,
      linesOf s.machine.config.traceCode warmup [⟨offset, .endPass⟩] ++ (endPass warmup s).log⟩ := by
  rw [runEntries, Op.bind_ok (traceEntry_lines ..), if_pos rfl]

private theorem decodes_end (offset : Nat) :
    DecodesAhead warmup last ⟨[⟨offset, .endPass⟩], stop⟩ s [⟨offset, .endPass⟩] := by
  obtain ⟨silent, steady⟩ := steady_of_unread (fun _ _ => unread_endPass warmup) s
  refine ⟨List.prefix_refl _, fun _ _ => rfl, fun _ _ _ => rfl, ?_, ?_⟩ <;> rw [runEntries_end]
  · rw [lines_append, lines_linesOf, silent, List.append_nil]
  · exact steady

/-- An instruction that is not END is told of and carried out, and then the others are. -/
theorem runEntries_cons (ordinary : entry.instruction ≠ .endPass) :
    runEntries warmup stop last (entry :: rest) s =
      let out := (stepEntry warmup last entry >>= fun last => runEntries warmup stop last rest) s
      ⟨out.result, out.state, linesOf s.machine.config.traceCode warmup [entry] ++ out.log⟩ := by
  rw [runEntries, Op.bind_ok (traceEntry_lines ..), if_neg ordinary]

private theorem decodes_failed {e : MachineError} {log : Log} (ordinary : entry.instruction ≠ .endPass)
    (failed : stepEntry warmup last entry s = ⟨.error e, t, log⟩) :
    DecodesAhead warmup last ⟨entry :: rest, stop⟩ s [entry] := by
  have ran : runEntries warmup stop last (entry :: rest) s =
      ⟨.error e, t, linesOf s.machine.config.traceCode warmup [entry] ++ log⟩ := by
    rw [runEntries_cons ordinary, Op.bind_error failed]
  obtain ⟨silent, steady⟩ := steady_of_unread (fun _ _ => unread_stepEntry warmup last entry) s
  rw [failed] at silent steady
  refine ⟨⟨rest, rfl⟩, fun marker ended => ?_, fun last' u arrived => ?_, ?_, ?_⟩
  · rw [ran] at ended
    cases ended
  · obtain ⟨_, _, stepped, _⟩ := runPrefix_next arrived
    rw [Op.Yields, failed] at stepped
    cases stepped.1
  · rw [ran, lines_append, lines_linesOf, silent, List.append_nil]
  · rw [ran]
    exact steady

private theorem decodes_step {last' : Option EventId} {log : Log} (ordinary : entry.instruction ≠ .endPass)
    (stepped : stepEntry warmup last entry s = ⟨.ok last', t, log⟩)
    (onward : DecodesAhead warmup last' ⟨rest, stop⟩ t decoded) :
    DecodesAhead warmup last ⟨entry :: rest, stop⟩ s (entry :: decoded) := by
  have ran : runEntries warmup stop last (entry :: rest) s =
      ⟨(runEntries warmup stop last' rest t).result, (runEntries warmup stop last' rest t).state,
        linesOf s.machine.config.traceCode warmup [entry] ++ (log ++ (runEntries warmup stop last' rest t).log)⟩ := by
    rw [runEntries_cons ordinary, Op.bind_ok stepped]
  obtain ⟨silent, steady⟩ := steady_of_unread (fun _ _ => unread_stepEntry warmup last entry) s
  rw [stepped] at silent steady
  refine ⟨?_, fun marker ended => ?_, fun last'' u arrived => ?_, ?_, ?_⟩
  · exact List.cons_prefix_cons.2 ⟨rfl, onward.listed⟩
  · rw [ran] at ended
    rw [onward.complete marker ended]
  · obtain ⟨_, v, stepped', ran'⟩ := runPrefix_next arrived
    rw [Op.Yields, stepped] at stepped'
    obtain ⟨same, rfl⟩ := stepped'
    cases same
    rw [onward.arrived last'' u ran']
  · rw [ran, lines_append, lines_append, lines_linesOf, silent, onward.lines, linesOf_cons _ _ entry decoded, steady.2]
    rfl
  · rw [ran]
    exact ⟨onward.steady.1.trans steady.1, onward.steady.2.trans steady.2⟩

end Machine

namespace Reading
open Machine (Unread DecodesAhead runEntries)

variable {s : Session} {c : Cursor} {warmup : Bool} {before : List Entry}

/-! ### The two ways to read -/

/-- Where the program is being read makes no difference to what has no part in that. -/
theorem onSession_readAt {α : Type} {op : MachineOp α} (unread : ∀ c traced, Unread c traced op) :
    onSession op ⟨s.readAt c, before⟩ = ⟨(op s).result, ⟨(op s).state.readAt c, before⟩, (op s).log⟩ := by
  have ran : op (s.readAt c) = _ := (unread c s.machine.config.traceCode).apart s
  obtain ⟨_, _, traced⟩ := Machine.steady_of_unread unread s
  rw [onSession, Op.onPart]
  dsimp only
  rw [ran, ← traced]
  rfl

private theorem onSession_trace (entry : Entry) : onSession (Machine.traceEntry warmup entry) ⟨s.readAt c, before⟩ =
    ⟨.ok (), ⟨s.readAt c, before⟩, linesOf s.machine.config.traceCode warmup [entry]⟩ := by
  rw [onSession, Op.onPart]
  dsimp only
  rw [Machine.traceEntry_lines]
  rfl

private theorem next_decoded {i : Instruction} {position : Nat}
    (decoded : Instruction.decode c = ⟨.ok i, { c with position }, []⟩) :
    next ⟨s.readAt c, before⟩ =
      ⟨.ok ⟨c.position, i⟩, ⟨s.readAt { c with position }, before ++ [⟨c.position, i⟩]⟩, []⟩ := by
  have here : (Reading.mk (s.readAt c) before).cursor = c := rfl
  rw [next, here, decoded]
  rfl

/-- A reading that has come to its end as a pass over the scanned instructions does. -/
def EndsAs (warmup : Bool) (last : Option EventId) (s : Session) (c : Cursor) (before : List Entry)
    (out : Outcome MachineError Reading (Option EventId)) : Prop :=
  let ran := runEntries warmup c.scan.stop last c.scan.entries s
  ∃ decoded position, DecodesAhead warmup last c.scan s decoded ∧
    out = ⟨ran.result, ⟨ran.state.readAt { c with position }, before ++ decoded⟩, ran.log⟩

private theorem endsAs_exhausted {last : Option EventId} (scan : c.scan = ⟨[], .exhausted c.position⟩) :
    EndsAs warmup last s c before (onSession (Machine.endPass warmup) ⟨s.readAt c, before⟩) := by
  unfold EndsAs
  rw [scan, onSession_readAt fun _ _ => Machine.unread_endPass warmup]
  exact ⟨[], c.position, Machine.decodes_nothing _, by rw [List.append_nil]; rfl⟩

/-- Reading on from a cursor carries out what a scan finds there. -/
theorem readOn_endsAs {fuel : Nat} (last : Option EventId) (enough : c.remaining ≤ fuel) :
    EndsAs warmup last s c before (readOn warmup fuel last ⟨s.readAt c, before⟩) := by
  -- on the bound for the bytes left; what has been carried out and decoded so far grows with each instruction
  induction fuel generalizing s c last before with
  | zero => exact endsAs_exhausted (Cursor.scan_exhausted (Nat.le_zero.1 enough))
  | succ fuel ih =>
    have here : (Reading.mk (s.readAt c) before).cursor = c := rfl
    rw [readOn, Op.get_bind, here]
    cases c.ahead with
    | exhausted empty scan =>
      rw [if_neg (by rw [empty]; decide)]
      exact endsAs_exhausted scan
    | @undecodable e position more decoded scan =>
      have failed : next ⟨s.readAt c, before⟩ =
          ⟨.error (.decode e), ⟨s.readAt { c with position }, before⟩, []⟩ := by
        rw [next, here, show Instruction.decode c = _ from decoded c.marked]
        rfl
      rw [if_pos more, Op.bind_error failed, EndsAs, scan]
      exact ⟨[], position, Machine.decodes_nothing _, by rw [List.append_nil]; rfl⟩
    | @ended position more decoded scan =>
      rw [if_pos more, Op.bind_ok (next_decoded (decoded c.marked)), Op.bind_ok (onSession_trace _), if_pos rfl,
        onSession_readAt fun _ _ => Machine.unread_endPass warmup, EndsAs, scan, Machine.runEntries_end]
      exact ⟨[⟨c.position, .endPass⟩], position, Machine.decodes_end _, rfl⟩
    | @instruction i position more ordinary decoded shorter scan =>
      let entry : Entry := ⟨c.position, i⟩
      rw [if_pos more, Op.bind_ok (next_decoded (decoded c.marked)), Op.bind_ok (onSession_trace entry),
        if_neg ordinary, EndsAs, scan, Machine.runEntries_cons ordinary]
      let c' : Cursor := { c with position }
      let before' := before ++ [entry]
      have ran : onSession (Machine.stepEntry warmup last entry) ⟨s.readAt c', before'⟩ = _ :=
        onSession_readAt fun _ _ => Machine.unread_stepEntry warmup last entry
      rcases stepped : Machine.stepEntry warmup last entry s with ⟨e | last', t, log⟩ <;> rw [stepped] at ran
      · refine ⟨[entry], position, Machine.decodes_failed ordinary stepped, ?_⟩
        rw [Op.bind_error ran, Op.bind_error stepped]
        rfl
      · have onward : EndsAs warmup last' t c' before' (readOn warmup fuel last' ⟨t.readAt c', before'⟩) :=
          ih last' (Nat.le_of_lt_succ (Nat.lt_of_lt_of_le shorter enough))
        obtain ⟨decoded', position', decodes, onward⟩ := onward
        refine ⟨entry :: decoded', position', Machine.decodes_step ordinary stepped decodes, ?_⟩
        rw [Op.bind_ok ran, Op.bind_ok stepped, onward]
        simp [before', entry, c']

end Reading

/-- An operation with an event in front, one behind, and its result noted in between. -/
theorem Op.enclosed {ε σ α : Type} (body : Op ε σ α) {conclude : Except ε α → Op ε σ Unit}
    (succeeds : ∀ result, Op.Succeeds (conclude result)) (opening closing : LogEvent) (s : σ) :
    (do
      Op.emit opening
      let result ← Op.attempt body
      conclude result
      Op.emit closing
      Op.ofExcept result : Op ε σ α) s =
    ⟨(body s).result, (conclude (body s).result (body s).state).state,
      opening :: ((body s).log ++ ((conclude (body s).result (body s).state).log ++ [closing]))⟩ := by
  rcases ran : body s with ⟨result, t, log⟩
  obtain ⟨_, concluded⟩ := succeeds result t
  rcases ended : conclude result t with ⟨_ | _, u, log'⟩ <;> rw [ended] at concluded <;> cases concluded
  have attempted : (Op.attempt body : Op ε σ (Except ε α)) s = ⟨.ok result, t, log⟩ := by simp only [Op.attempt, ran]
  have opened : (Op.emit opening : Op ε σ Unit) s = ⟨.ok (), s, [opening]⟩ := rfl
  have closed : (Op.emit closing : Op ε σ Unit) u = ⟨.ok (), u, [closing]⟩ := rfl
  rw [Op.bind_ok opened, Op.bind_ok attempted, Op.bind_ok ended, Op.bind_ok closed]
  cases result <;> simp [Op.ofExcept, Op.fail]

namespace Machine

variable {s t : Session} {warmup : Bool} {stop : ScanStop} {body decoded : List Entry} {l : Listing}

/-! ### Passes -/

/-- Work that has no part in the reading may come first. -/
theorem Decodes.after {first : MachineOp Unit} {run front : MachineOp (Option EventId)}
    (unread : ∀ c traced, Unread c traced first) (ran : Op.Yields first s () t)
    (decodes : Decodes warmup body front t (run t) decoded) :
    Decodes warmup body (do first; front) s ((first >>= fun _ => run) s) decoded := by
  obtain ⟨silent, steady⟩ := steady_of_unread unread s
  rcases began : first s with ⟨_ | _, u, log⟩ <;> rw [Op.Yields, began] at ran <;> obtain ⟨same, rfl⟩ := ran <;>
    cases same
  rw [began] at silent steady
  have whole : (first >>= fun _ => run) s = ⟨(run u).result, (run u).state, log ++ (run u).log⟩ :=
    Op.bind_ok began
  refine ⟨decodes.listed, ?_, ?_, ?_, ?_⟩
  · rw [whole]
    exact decodes.complete
  · intro last t arrived
    obtain ⟨_, v, began', arrived⟩ := Op.yields_bind.1 arrived
    rw [Op.Yields, began] at began'
    obtain ⟨_, rfl⟩ := began'
    exact decodes.arrived last t arrived
  · rw [whole, lines_append, silent, decodes.lines, steady.2]
    rfl
  · rw [whole]
    exact ⟨decodes.steady.1.trans steady.1, decodes.steady.2.trans steady.2⟩

/-- Nothing is decoded when that fails. -/
theorem decodes_unstarted {first : MachineOp Unit} {run front : MachineOp (Option EventId)} {e : MachineError}
    (unread : ∀ c traced, Unread c traced first) (failed : (first s).result = .error e) :
    Decodes warmup body (do first; front) s ((first >>= fun _ => run) s) [] := by
  obtain ⟨silent, steady⟩ := steady_of_unread unread s
  rcases began : first s with ⟨_ | _, u, log⟩ <;> rw [began] at failed <;> cases failed
  rw [began] at silent steady
  have whole : (first >>= fun _ => run) s = ⟨.error e, u, log⟩ := Op.bind_error began
  refine ⟨List.nil_prefix, ?_, ?_, ?_, ?_⟩
  · intro marker ended
    rw [whole] at ended
    cases ended
  · intro last t arrived
    obtain ⟨_, v, began', _⟩ := Op.yields_bind.1 arrived
    rw [Op.Yields, began] at began'
    cases began'.1
  · rw [whole]
    exact silent.trans (linesOf_nil _ _).symm
  · rw [whole]
    exact steady

/-- What a pass decodes, and that it makes no difference to it that the listed instructions are decoded
beforehand. -/
theorem pass_reads (warmup : Bool) (scan : s.machine.program.scan = ⟨body, stop⟩) : ∃ decoded position,
    Decodes warmup body (do startPass; runPrefix warmup none body) s (pass warmup s) decoded ∧
      Reading.pass warmup ⟨s, []⟩ =
        ⟨(pass warmup s).result, ⟨(pass warmup s).state.readAt { s.machine.program with position }, decoded⟩,
          (pass warmup s).log⟩ := by
  have unread (c : Cursor) (traced : Bool) : Unread c traced startPass := unread_startPass
  obtain ⟨_, steady, _⟩ := steady_of_unread unread s
  have began : Reading.onSession startPass ⟨s, []⟩ =
      ⟨(startPass s).result, ⟨(startPass s).state, []⟩, (startPass s).log⟩ := rfl
  rcases started : startPass s with ⟨e | _, t, log⟩ <;> rw [started] at began steady
  · refine ⟨[], s.machine.program.position, decodes_unstarted unread (by rw [started]), ?_⟩
    rw [Reading.pass, Op.bind_error began, pass, Op.bind_error started, ← steady]
    rfl
  · have ended : Reading.EndsAs warmup none t s.machine.program []
        (Reading.readOn warmup s.machine.program.remaining none ⟨t.readAt s.machine.program, []⟩) :=
      Reading.readOn_endsAs none (Nat.le_refl _)
    obtain ⟨decoded, position, decodes, ran⟩ := ended
    have home : Reading.mk (t.readAt s.machine.program) [] = ⟨t, []⟩ := by
      rw [← steady]
      rfl
    have runs : runProgram warmup t = runEntries warmup stop none body t := by
      unfold runProgram
      rw [Op.get_bind, show t.machine.program = s.machine.program from steady, scan]
    rw [scan, DecodesAhead, ← runs] at decodes
    rw [home, scan, ← runs] at ran
    refine ⟨decoded, position, decodes.after unread ⟨by rw [started], by rw [started]⟩, ?_⟩
    have looked : (Reading.mk t []).cursor = s.machine.program := steady
    rw [Reading.pass, Op.bind_ok began, Op.get_bind, looked, ran, pass, Op.bind_ok started]
    rfl

/-- A pass gets through the instructions when nothing keeps it from starting and it carries them all out. -/
def GetsThrough (mode : Mode) (s : Session) (body : List Entry) : Prop :=
  s.context.memory.exceeded = false ∧ ∃ last t,
    Op.Yields (do startPass; runPrefix (mode = .warmup || s.machine.config.virtualDevice) none body) s last t

/-- What becomes of a listing in a pass: which instructions are decoded, and that it makes no difference to
anything whether the machine decodes as it goes or has decoded beforehand. -/
structure Replays (mode : Mode) (s : Session) (l : Listing) (decoded : List Entry) : Prop where
  read : Reading.replay mode ⟨s, []⟩ =
    ⟨(execute mode s).result, ⟨(execute mode s).state, decoded⟩, (execute mode s).log⟩
  listed : decoded <+: l.body
  complete : ∀ marker, (execute mode s).result = .ok marker → decoded = l.body ∧ ∀ e, l.stop ≠ .failed e
  undecodable : ∀ e, l.stop = .failed e → GetsThrough mode s l.body →
    decoded = l.body ∧ (execute mode s).result = .error (.decode e)
  lines : (execute mode s).log.lines =
    linesOf s.machine.config.traceCode (mode = .warmup || s.machine.config.virtualDevice) decoded
  cursor : (execute mode s).state.machine.program = s.machine.program

private theorem succeeds_concludePass (warmup : Bool) (result : Except MachineError (Option EventId)) :
    Op.Succeeds (concludePass warmup result) := by
  cases result with
  | error e => exact Op.succeeds_emit _
  | ok marker => exact fun _ => ⟨(), rfl⟩

/-- Where the program stops at bytes that are no instruction, so does a pass that gets there. -/
theorem pass_undecodable {e : DecodeError} (scan : s.machine.program.scan = ⟨body, .failed e⟩) :
    pass warmup s = ((do startPass; runPrefix warmup none body) >>= fun _ => Op.fail (.decode e)) s := by
  have ordinary : ∀ entry ∈ body, entry.instruction ≠ .endPass := by
    have unended : s.machine.program.scan.stop ≠ .ended := by simp [scan]
    have all := Cursor.scan_ordinary unended
    rwa [scan] at all
  have whole := runEntries_append warmup (.failed e) none body [] ordinary
  rw [List.append_nil] at whole
  rw [Op.bind_assoc]
  apply Op.bind_congr_at rfl
  intro _ t started
  unfold runProgram
  rw [Op.get_bind, startPass_program started, scan]
  exact congrFun whole t

/-- The cursor that is taken back to its mark stands where it stood. -/
theorem reset_readAt {c : Cursor} (home : c.position = c.marked) (same : t.machine.program = c) (position : Nat)
    (decoded : List Entry) :
    (Reading.mk (t.readAt { c with position }) decoded).moveTo (Cursor.reset { c with position }) = ⟨t, decoded⟩ := by
  have back : Cursor.reset { c with position } = c := by
    obtain ⟨bytes, place, mark⟩ := c
    cases home
    rfl
  rw [back, ← same]
  rfl

/-- The pass within a call, with what is logged around it. -/
theorem execute_enclosed (mode : Mode) (within : s.context.memory.exceeded = false) :
    let warmup : Bool := mode = .warmup || s.machine.config.virtualDevice
    let concluded := concludePass warmup (pass warmup s).result (pass warmup s).state
    execute mode s = ⟨(pass warmup s).result, concluded.state,
      Performance.spanStart "interpreter_pass" [("warmup", warmup)] ::
        ((pass warmup s).log ++ (concluded.log ++ [Performance.spanComplete]))⟩ := by
  intro warmup concluded
  unfold execute
  rw [Op.get_bind]
  dsimp only
  rw [if_neg (by simp [within])]
  exact Op.enclosed _ (succeeds_concludePass warmup) _ _ s

private theorem replay_enclosed {mode : Mode} (asked : (mode = .warmup || s.machine.config.virtualDevice) = warmup)
    (within : s.context.memory.exceeded = false) {ran : Outcome MachineError Reading (Option EventId)}
    (read : Reading.pass warmup ⟨s, []⟩ = ran) (back : ran.state.moveTo ran.state.cursor.reset = ⟨t, decoded⟩) :
    let concluded := concludePass warmup ran.result t
    Reading.replay mode ⟨s, []⟩ = ⟨ran.result, ⟨concluded.state, decoded⟩,
      Performance.spanStart "interpreter_pass" [("warmup", warmup)] ::
        (ran.log ++ (concluded.log ++ [Performance.spanComplete]))⟩ := by
  intro concluded
  let conclude (result : Except MachineError (Option EventId)) : ReadingOp Unit := do
    Op.modify fun r => r.moveTo r.cursor.reset
    Reading.onSession (concludePass warmup result)
  have ended : conclude ran.result ran.state = ⟨concluded.result, ⟨concluded.state, decoded⟩, concluded.log⟩ := by
    have moved : (Op.modify (fun r => r.moveTo r.cursor.reset) : ReadingOp Unit) ran.state =
        ⟨.ok (), ⟨t, decoded⟩, []⟩ := by rw [Op.modify, back]
    exact Op.bind_ok moved
  have succeeds (result : Except MachineError (Option EventId)) : Op.Succeeds (conclude result) :=
    Op.succeeds_bind (Op.succeeds_modify _) fun _ r => succeeds_concludePass warmup result r.session
  have closed := Op.enclosed (Reading.pass warmup) succeeds
    (Performance.spanStart "interpreter_pass" [("warmup", warmup)]) Performance.spanComplete ⟨s, []⟩
  rw [read, ended] at closed
  simp only [conclude, Op.bind_assoc] at closed
  unfold Reading.replay
  rw [Op.get_bind]
  dsimp only
  rw [if_neg (by simp [within]), asked]
  exact closed

/-- A budget that is exceeded already keeps the machine from decoding anything. -/
theorem replays_exceeded (mode : Mode) (exceeded : s.context.memory.exceeded = true) : Replays mode s l [] := by
  have refused : execute mode s = ⟨.error (.outOfMemory s.context.memory.usage 0
      (s.context.memory.limit.getD Text.maxUInt64)), s, []⟩ := by
    unfold execute
    rw [Op.get_bind]
    dsimp only
    rw [if_pos exceeded]
    rfl
  refine ⟨?_, List.nil_prefix, ?_, ?_, ?_, ?_⟩ <;> rw [refused]
  · unfold Reading.replay
    rw [Op.get_bind]
    dsimp only
    rw [if_pos exceeded]
    rfl
  · exact fun _ ended => nomatch ended
  · intro e _ through
    rw [GetsThrough, exceeded] at through
    cases through.1
  · exact (linesOf_nil _ _).symm

private theorem replays_within (mode : Mode) (within : s.context.memory.exceeded = false)
    (home : s.machine.program.position = s.machine.program.marked)
    (scan : s.machine.program.scan = ⟨l.body, l.stop⟩) : ∃ decoded, Replays mode s l decoded := by
  obtain ⟨warmup, asked⟩ : ∃ warmup, (decide (mode = .warmup) || s.machine.config.virtualDevice) = warmup := ⟨_, rfl⟩
  have ran := execute_enclosed mode within
  simp only [asked] at ran
  obtain ⟨decoded, position, decodes, read⟩ := pass_reads warmup scan
  have failed {e : DecodeError} (stop : l.stop = .failed e) :
      pass warmup s = ((do startPass; runPrefix warmup none l.body) >>= fun _ => Op.fail (.decode e)) s :=
    pass_undecodable (scan.trans (by rw [stop]))
  obtain ⟨silent, concluded, _⟩ :=
    steady_of_unread (fun _ _ => unread_concludePass warmup (pass warmup s).result) (pass warmup s).state
  refine ⟨decoded, ?_, decodes.listed, ?_, ?_, ?_, ?_⟩
  · rw [replay_enclosed asked within read (reset_readAt home decodes.steady.1 position decoded), ran]
  · intro marker ended
    rw [ran] at ended
    refine ⟨decodes.complete marker ended, fun e stop => ?_⟩
    dsimp only at ended
    rw [failed stop] at ended
    obtain ⟨_, _, _, ended⟩ := Op.yields_bind.1 ⟨ended, rfl⟩
    exact Op.yields_fail ended
  · rintro e stop ⟨_, last, u, arrived⟩
    rw [asked] at arrived
    refine ⟨decodes.arrived last u arrived, ?_⟩
    rw [ran, failed stop]
    exact (Op.bind_of_yields arrived).1
  · have opened (rest : Log) : Log.lines (Performance.spanStart "interpreter_pass" [("warmup", warmup)] :: rest) =
        rest.lines := List.filter_cons_of_neg (Bool.eq_false_iff.1 rfl)
    rw [ran, asked, opened, lines_append, lines_append, decodes.lines, silent]
    exact List.append_nil _
  · rw [ran]
    exact concluded.trans decodes.steady.1

/-- A new machine stands in the bytes that it was built from. -/
theorem create_bytes {bytes : Bytes} {config : Config} {site site' : Site} {m : Machine}
    (ran : Op.Yields (create bytes config) site m site') : m.program.bytes = bytes := by
  unfold create at ran
  split at ran
  · simp at ran
  next header cursor log read =>
    simp only [onSiteDevice, Op.yields_bind, Op.yields_get, Op.yields_modify, Op.yields_emit, Op.yields_pure,
      Op.yields_onPart] at ran
    obtain ⟨_, _, ⟨rfl, rfl⟩, position, _, _, _, _, _, _, _, _, _, _, rfl, rfl, rfl⟩ := ran
    have opened : Op.Yields Cursor.readHeader (.ofBytes bytes) header cursor := by
      rw [Op.Yields, read]
      exact ⟨rfl, rfl⟩
    exact Cursor.sameBytes_readHeader.yields opened

private theorem replays_of_follows (follows : s.machine.Follows l) (mode : Mode) :
    ∃ decoded, Replays mode s l decoded := by
  rcases within : s.context.memory.exceeded with _ | _
  · exact replays_within mode within (follows.position.trans follows.marked.symm) follows.scan
  · exact ⟨[], replays_exceeded mode within⟩

end Machine

namespace Workspace

variable {w v : Workspace} {seat index : Nat} {m : Machine}

/-- What a seat is taken by stays there and keeps its program. -/
theorem program_step (step : Step w v) (seated : w.seats[seat]? = some (some ⟨index, m⟩)) :
    ∃ m', v.seats[seat]? = some (some ⟨index, m'⟩) ∧ m'.program = m.program := by
  cases step with
  | build place program config =>
    have within := (List.getElem?_eq_some_iff.1 seated).1
    rcases build_cases w place program config with same | ⟨_, _, _, _, _, same, _⟩ <;> rw [same] <;>
      exact ⟨m, (List.getElem?_append_left within).trans seated, rfl⟩
  | machine other c =>
    rcases present : w.session? other with _ | ⟨place, s⟩
    · rw [onMachine_absent present]
      exact ⟨m, seated, rfl⟩
    rw [onMachine_present present]
    obtain ⟨m', device, seated', _, rfl⟩ := session?_eq_some.1 present
    by_cases same : other = seat
    · subst same
      rw [seated] at seated'
      cases seated'
      refine ⟨_, List.getElem?_set_self (List.getElem?_eq_some_iff.1 seated).1, ?_⟩
      exact (continues_command c ⟨w.context, device, m⟩).program
    · exact ⟨m, (List.getElem?_set_ne same).trans seated, rfl⟩
  | device place c =>
    rcases found : w.devices[place]? with _ | device
    · rw [onDevice_absent found]
      exact ⟨m, seated, rfl⟩
    · rw [onDevice_present found]
      exact ⟨m, seated, rfl⟩
  | setLimit limit => exact ⟨m, seated, rfl⟩
  | setObject place object => exact ⟨m, seated, rfl⟩

private theorem program_of_becomes (becomes : w.Becomes v) (seated : w.seats[seat]? = some (some ⟨index, m⟩)) :
    ∃ m', v.seats[seat]? = some (some ⟨index, m'⟩) ∧ m'.program = m.program := by
  induction becomes with
  | refl => exact ⟨m, seated, rfl⟩
  | tail _ step kept =>
    obtain ⟨m', seated', program⟩ := kept
    obtain ⟨m'', seated'', program'⟩ := program_step step seated'
    exact ⟨m'', seated'', program'.trans program⟩

/-- A machine that could be built is seated behind the others. -/
theorem seated_of_build {bytes : Bytes} {config : Config} (built : (w.build index bytes config).result = .ok ()) :
    ∃ m, (w.build index bytes config).state.seats[w.seats.length]? = some (some ⟨index, m⟩) ∧ m.Opened ∧
      m.program.bytes = bytes := by
  unfold build at built ⊢
  rcases found : w.devices[index]? with _ | device <;> rw [found] at built
  · cases built
  rcases made : Machine.create bytes config (w.context, device) with ⟨e | m, site, log⟩ <;>
    simp only [made] at built ⊢
  · cases built
  have ran : Op.Yields (Machine.create bytes config) (w.context, device) m site := by
    rw [Op.Yields, made]
    exact ⟨rfl, rfl⟩
  exact ⟨m, List.getElem?_concat_length, (Machine.create_fresh ran).opened, Machine.create_bytes ran⟩

/-- Every pass replays the listing. Once a machine has been built from a program, then whatever has come about
since, its cursor stands behind BEGIN. In a pass of either mode the machine decodes a beginning of what is
listed behind BEGIN; all of it when the pass succeeds, and all of it in front of bytes that are no instruction
when it gets there, to fail with the error that a listing fails with. The log has one line for each decoded
instruction, with its offset and its text, if that is switched on. -/
theorem passes_replay_listing {bytes : Bytes} {config : Config}
    (built : (w.build index bytes config).result = .ok ()) :
    ∃ l : Listing, l.Of bytes ∧ disassemble bytes = l.outcome ∧
      ∀ v place s, (w.build index bytes config).state.Becomes v → v.session? w.seats.length = some (place, s) →
        s.machine.program = ⟨bytes, l.start + 1, l.start + 1⟩ ∧
          ∀ mode, ∃ decoded, Machine.Replays mode s l decoded := by
  obtain ⟨m, seated, opened, rfl⟩ := seated_of_build built
  obtain ⟨l, follows⟩ := Machine.follows_of_opened opened
  refine ⟨l, follows.listed, follows.listed.disassemble, ?_⟩
  intro v place s becomes present
  obtain ⟨m', seated', program⟩ := program_of_becomes becomes seated
  obtain ⟨m'', device, seated'', _, rfl⟩ := session?_eq_some.1 present
  rw [seated'] at seated''
  cases seated''
  have program' : m'.program = ⟨m.program.bytes, l.start + 1, l.start + 1⟩ := program.trans follows.program
  exact ⟨program', Machine.replays_of_follows (follows.congr program)⟩

/-- Behind the one instruction of this program is a byte that is no opcode. -/
def torn : Bytes :=
  Bytes.zeros 12 ++ [Instruction.context 0, .beginPass, .addDependency none].flatMap Instruction.encode ++ [0xff]

/-- A machine is built from it. -/
def tornBuild : Outcome MachineError Workspace Unit :=
  ({ context := { name := "torn" }, devices := [{}] } : Workspace).build 0 torn
    { traceCode := true, useDependencies := false }

/-- Behind a pass that has failed, the next one decodes the instruction once more and fails as a listing
does. -/
theorem torn_replayed : ∃ l s, l.Of torn ∧ l.outcome = .error (.unknownOpcode 0xff 23) ∧
    (tornBuild.state.onMachine 0 (MachineCommand.execute .run).run).state.session? 0 = some (0, s) ∧
    s.machine.program = ⟨torn, 18, 18⟩ ∧ Machine.Replays .run s l [⟨18, .addDependency none⟩] ∧
    (Machine.execute .run s).result = .error (.decode (.unknownOpcode 0xff 23)) ∧
    (Machine.execute .run s).log.lines = [Entry.line false ⟨18, .addDependency none⟩] := by
  have ran : ((tornBuild.state.onMachine 0 (MachineCommand.execute .run).run).state.session? 0).any (fun seated =>
      seated.1 = 0 ∧ seated.2.machine.program = ⟨torn, 18, 18⟩ ∧ seated.2.machine.config.traceCode = true ∧
        seated.2.machine.config.virtualDevice = false ∧
        (Reading.replay .run ⟨seated.2, []⟩).state.decoded = [⟨18, .addDependency none⟩] ∧
        Op.failure? (Machine.execute .run) seated.2 = some (.decode (.unknownOpcode 0xff 23))) = true := by
    decide +kernel
  obtain ⟨⟨place, s⟩, present, same⟩ := (Option.any_eq_true _ _).1 ran
  obtain ⟨rfl, program, traced, real, decodes, failed⟩ := of_decide_eq_true same
  have built : tornBuild.result = .ok () := by decide +kernel
  have unlisted : disassemble torn = .error (.unknownOpcode 0xff 23) := by decide +kernel
  obtain ⟨l, listed, outcome, later⟩ := passes_replay_listing built
  obtain ⟨_, replayed⟩ := later _ 0 s (.single (.machine _ 0 (.execute .run))) present
  obtain ⟨decoded, replays⟩ := replayed .run
  rw [replays.read] at decodes
  obtain rfl : decoded = _ := decodes
  refine ⟨l, s, listed, outcome.symm.trans unlisted, present, program, replays, Op.failed_iff_failure?.2 failed, ?_⟩
  rw [replays.lines, traced, real]
  rfl

end Workspace
end Offload
