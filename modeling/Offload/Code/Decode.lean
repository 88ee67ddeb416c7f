import Offload.Code.Cursor
import Offload.Code.Instruction

/-!
Decoding: the reader of one instruction, and the sequence of instructions from a position up to the
first END, the first error or the end of the bytes.
-/
namespace Offload
namespace Instruction

open Cursor

def decodeTransfer : Decoder Transfer := do
  let object ← readIndex "object index"
  let list ← readList
  let offset ← readSize "offset"
  let batchSize ← readSize "batch size"
  pure { object, list, offset, batchSize }

def decodeArg : Decoder LaunchArg := do
  let offset ← Op.gets position
  let byte ← readByte
  match ArgumentTag.ofByte? byte with
  | none => Op.fail (.unknownArgumentTag byte offset)
  | some tag =>
    let index ← readIndex "argument index"
    pure (.ofTag tag index)

/-- The same reader `count` times over. -/
def decodeMany {α : Type} (reader : Decoder α) : Nat → Decoder (List α)
  | 0 => pure []
  | count + 1 => do
    let first ← reader
    let others ← decodeMany reader count
    pure (first :: others)

def decodeLaunch : Decoder Launch := do
  let wrapper ← readIndex "call wrapper index"
  let task ← readIndex "task index"
  let count ← readIndex "argument count"
  let list ← readList
  let offset ← readSize "offset"
  let batchThreads ← readSize "batch threads"
  let args ← decodeMany decodeArg count.toNat
  pure { wrapper, task, list, offset, batchThreads, args }

def decodeAlloc : Decoder Instruction := do
  let batchSize ← readSize "batch size"
  let count ← readIndex "argument count"
  let objects ← decodeMany (readIndex "object index") count.toNat
  pure (.alloc batchSize objects)

def decodeOperands : Opcode → Decoder Instruction
  | .alloc => decodeAlloc
  | .dealloc => dealloc <$> readIndex "object index"
  | .transfer kind => transfer kind <$> decodeTransfer
  | .launch => launch <$> decodeLaunch
  | .addDependency => addDependency <$> readList
  | .onDevice => onDevice <$> readIndex "object index"
  | .barrier => barrier <$> readList
  | .context => context <$> readIndex "device index"
  | .beginPass => pure beginPass
  | .endPass => pure endPass

/-- One instruction: its opcode and all its operands. -/
def decode : Decoder Instruction := do
  let offset ← Op.gets position
  let byte ← readByte
  match Opcode.ofByte? byte with
  | none => Op.fail (.unknownOpcode byte offset)
  | some opcode => decodeOperands opcode

end Instruction

/-- A decoded instruction and where it starts. -/
structure Entry where
  offset : Nat
  instruction : Instruction
  deriving Repr, DecidableEq

/-- Why a sequence of instructions stops. -/
inductive ScanStop where
  /-- Its last instruction is END. -/
  | ended
  /-- The bytes are used up; decoding on would fail at this offset. -/
  | exhausted (offset : Nat)
  | failed (error : DecodeError)
  deriving Repr, DecidableEq

/-- The instructions that follow one another from a position on. -/
structure Scan where
  entries : List Entry
  stop : ScanStop
  deriving Repr, DecidableEq

namespace Cursor

private def scanFrom : Nat → Cursor → Scan
  | 0, c => ⟨[], .exhausted c.position⟩
  | fuel + 1, c =>
    if c.hasRemaining then
      match Instruction.decode c with
      | ⟨.error e, _, _⟩ => ⟨[], .failed e⟩
      | ⟨.ok i, c', _⟩ =>
        if i = .endPass then ⟨[⟨c.position, i⟩], .ended⟩
        else
          let others := scanFrom fuel c'
          ⟨⟨c.position, i⟩ :: others.entries, others.stop⟩
    else ⟨[], .exhausted c.position⟩

/-- The instructions from the cursor on. Each takes a byte at least, so their number is bounded by
the bytes left. -/
def scan (c : Cursor) : Scan :=
  scanFrom c.remaining c

private theorem scanFrom_before {fuel : Nat} {c : Cursor} {done rest : List Entry} {entry : Entry}
    (split : (scanFrom fuel c).entries = done ++ entry :: rest) :
    ∀ e ∈ done, e.instruction ≠ .endPass := by
  induction fuel generalizing c done with
  | zero =>
    have empty : [] = done ++ entry :: rest := split
    simp at empty
  | succ fuel ih =>
    unfold scanFrom at split
    split at split
    · split at split
      · simp at split
      · split at split
        · rcases done with _ | ⟨first, others⟩
          · simp
          · simp at split
        · next ordinary =>
          rcases done with _ | ⟨first, others⟩
          · simp
          simp only [List.cons_append, List.cons.injEq] at split
          obtain ⟨rfl, later⟩ := split
          intro e member
          rcases List.mem_cons.1 member with rfl | inOthers
          · exact ordinary
          · exact ih later e inOthers
    · simp at split

/-- Only the last instruction of a scan can be END. -/
theorem scan_before {c : Cursor} {done rest : List Entry} {entry : Entry}
    (split : c.scan.entries = done ++ entry :: rest) : ∀ e ∈ done, e.instruction ≠ .endPass :=
  scanFrom_before split

private theorem scanFrom_ordinary {fuel : Nat} {c : Cursor} (unended : (scanFrom fuel c).stop ≠ .ended) :
    ∀ e ∈ (scanFrom fuel c).entries, e.instruction ≠ .endPass := by
  induction fuel generalizing c with
  | zero => exact fun _ member => nomatch member
  | succ fuel ih =>
    by_cases more : c.hasRemaining
    · rcases decoded : Instruction.decode c with ⟨e | i, c', log⟩
      · simp [scanFrom, more, decoded]
      by_cases last : i = .endPass
      · simp [scanFrom, more, decoded, last] at unended
      simp only [scanFrom, more, if_true, decoded, if_neg last] at unended ⊢
      intro e member
      rcases List.mem_cons.1 member with rfl | later
      · exact last
      · exact ih unended e later
    · simp [scanFrom, more]

/-- A scan that does not stop at END has none. -/
theorem scan_ordinary {c : Cursor} (unended : c.scan.stop ≠ .ended) :
    ∀ e ∈ c.scan.entries, e.instruction ≠ .endPass :=
  scanFrom_ordinary unended

/-- Fuel for the bytes that are left is enough, since every instruction takes a byte. -/
private theorem scanFrom_enough
    (shrinks : ∀ c i c' log, Instruction.decode c = ⟨.ok i, c', log⟩ → c'.remaining < c.remaining)
    {fuel other : Nat} {c : Cursor} (enough : c.remaining ≤ fuel) (enough' : c.remaining ≤ other) :
    scanFrom fuel c = scanFrom other c := by
  induction fuel generalizing other c with
  | zero =>
    have empty : c.hasRemaining = false := by
      simp only [hasRemaining, remaining, decide_eq_false_iff_not] at enough ⊢
      omega
    cases other with
    | zero => rfl
    | succ other => simp [scanFrom, empty]
  | succ fuel ih =>
    cases other with
    | zero =>
      have empty : c.hasRemaining = false := by
        simp only [hasRemaining, remaining, decide_eq_false_iff_not] at enough' ⊢
        omega
      simp [scanFrom, empty]
    | succ other =>
      unfold scanFrom
      rcases decoded : Instruction.decode c with ⟨e | i, c', log⟩
      · rfl
      · have shorter := shrinks c i c' log decoded
        have same : scanFrom fuel c' = scanFrom other c' := ih (by omega) (by omega)
        simp only [same]

/-- At the end of the bytes there is nothing to scan. -/
theorem scan_exhausted {c : Cursor} (empty : c.remaining = 0) : c.scan = ⟨[], .exhausted c.position⟩ := by
  rw [scan, empty]
  rfl

/-- What cannot be decoded stops a scan. -/
theorem scan_failed {c : Cursor} {e : DecodeError} (more : c.hasRemaining = true)
    (failed : (Instruction.decode c).result = .error e) : c.scan = ⟨[], .failed e⟩ := by
  obtain ⟨fuel, enough⟩ : ∃ fuel, c.remaining = fuel + 1 := by
    refine ⟨c.remaining - 1, ?_⟩
    simp only [hasRemaining, remaining, decide_eq_true_eq] at more ⊢
    omega
  rcases decoded : Instruction.decode c with ⟨e' | i, c', log⟩ <;> rw [decoded] at failed <;> cases failed
  rw [scan, enough]
  simp only [scanFrom, more, if_true, decoded]

/-- A scan starts with the next instruction and goes on behind it, unless that is END. -/
theorem scan_eq_next
    (shrinks : ∀ c i c' log, Instruction.decode c = ⟨.ok i, c', log⟩ → c'.remaining < c.remaining)
    {c c' : Cursor} {i : Instruction} {log : Log} (decoded : Instruction.decode c = ⟨.ok i, c', log⟩) :
    c.scan = if i = .endPass then ⟨[⟨c.position, i⟩], .ended⟩
      else ⟨⟨c.position, i⟩ :: c'.scan.entries, c'.scan.stop⟩ := by
  have shorter := shrinks c i c' log decoded
  have more : c.hasRemaining = true := by
    simp only [hasRemaining, remaining, decide_eq_true_eq] at shorter ⊢
    omega
  obtain ⟨fuel, enough⟩ : ∃ fuel, c.remaining = fuel + 1 := ⟨c.remaining - 1, by omega⟩
  have same : scanFrom fuel c' = c'.scan := scanFrom_enough shrinks (by omega) (Nat.le_refl _)
  rw [scan, enough]
  simp only [scanFrom, more, if_true, decoded, same]

private def decodeFrom : Nat → Cursor → List Instruction × Option DecodeError × Cursor
  | 0, c => ([], none, c)
  | fuel + 1, c =>
    if c.hasRemaining then
      match Instruction.decode c with
      | ⟨.error e, c', _⟩ => ([], some e, c')
      | ⟨.ok i, c', _⟩ =>
        let (others, stop, last) := decodeFrom fuel c'
        (i :: others, stop, last)
    else ([], none, c)

/-- All instructions from the cursor on, past any END, with the error that stops them, if one does,
and the cursor as it is left. -/
def decodeAll (c : Cursor) : List Instruction × Option DecodeError × Cursor :=
  decodeFrom c.remaining c

end Cursor

/-- The instructions of a program behind its header, up to the first END. -/
def disassemble (program : Bytes) : Except DecodeError (List Entry) :=
  match Cursor.readHeader (.ofBytes program) with
  | ⟨.error e, _, _⟩ => .error e
  | ⟨.ok _, c, _⟩ =>
    match c.scan with
    | ⟨_, .failed e⟩ => .error e
    | ⟨entries, _⟩ => .ok entries

end Offload
