import Offload.Proofs.Assemblies

/-! What a program lists. Behind the header a listing finds the declarations and BEGIN, and behind BEGIN the
instructions up to END, up to the end of the bytes, or up to bytes that are none. A machine that was built
from the program stands behind that BEGIN and finds the same instructions from there. -/
namespace Offload

namespace Cursor

variable {α β : Type}

/-! ### Readers and the mark -/

/-- The reader moves on in the bytes and changes nothing else. It does not look at the mark, and it does not
log. -/
def Forward (reader : Decoder α) : Prop :=
  ∀ c : Cursor, ∃ result position, ∀ marked, reader { c with marked } = ⟨result, { c with position, marked }, []⟩

private theorem forward_pure (a : α) : Forward (pure a : Decoder α) :=
  fun c => ⟨.ok a, c.position, fun _ => rfl⟩

private theorem forward_fail (e : DecodeError) : Forward (Op.fail e : Decoder α) :=
  fun c => ⟨.error e, c.position, fun _ => rfl⟩

private theorem forward_bind {reader : Decoder α} {next : α → Decoder β} (head : Forward reader)
    (tail : ∀ a, Forward (next a)) : Forward (reader >>= next) := by
  intro c
  obtain ⟨result, position, ran⟩ := head c
  cases result with
  | error e => exact ⟨.error e, position, fun marked => Op.bind_error (ran marked)⟩
  | ok a =>
    obtain ⟨result, position', ran'⟩ := tail a { c with position }
    refine ⟨result, position', fun marked => ?_⟩
    have onward := ran' marked
    dsimp only at onward
    rw [Op.bind_ok (ran marked), onward]
    rfl

private theorem forward_map {f : α → β} {reader : Decoder α} (forward : Forward reader) : Forward (f <$> reader) :=
  forward_bind forward fun a => forward_pure (f a)

/-- A reader may look at where it stands. -/
theorem forward_position {next : Nat → Decoder α} (tail : ∀ offset, Forward (next offset)) :
    Forward (Op.gets position >>= next) :=
  forward_bind (fun c => ⟨.ok c.position, c.position, fun _ => rfl⟩) tail

private theorem forward_take (count : Nat) : Forward (take count) := by
  intro c
  by_cases short : c.remaining < count
  · refine ⟨.error (.truncated c.position count c.remaining), c.position, fun marked => ?_⟩
    have same : ({ c with marked } : Cursor).remaining < count := short
    simp only [take, Op.step, if_pos same]
    rfl
  · refine ⟨.ok (c.rest.take count), c.position + count, fun marked => ?_⟩
    have same : ¬ ({ c with marked } : Cursor).remaining < count := short
    simp only [take, Op.step, if_neg same]
    rfl

private theorem forward_readByte : Forward readByte :=
  forward_bind (forward_take 1) fun _ => forward_pure _

private theorem forward_readInt32 : Forward readInt32 :=
  forward_bind (forward_take 4) fun _ => forward_pure _

private theorem forward_readInt64 : Forward readInt64 :=
  forward_bind (forward_take 8) fun _ => forward_pure _

private theorem forward_readIndex (field : String) : Forward (readIndex field) := by
  apply forward_position
  intro offset
  apply forward_bind forward_readInt32
  intro value
  split
  · apply forward_fail
  · apply forward_pure

private theorem forward_readSize (field : String) : Forward (readSize field) := by
  apply forward_position
  intro offset
  apply forward_bind forward_readInt64
  intro value
  split
  · apply forward_fail
  · apply forward_pure

private theorem forward_readList : Forward readList := by
  apply forward_position
  intro offset
  apply forward_bind forward_readInt32
  intro value
  split
  · apply forward_pure
  · split
    · apply forward_fail
    · apply forward_pure

end Cursor

namespace Instruction
open Cursor

variable {α : Type}

private theorem forward_decodeMany {reader : Decoder α} (forward : Forward reader) (count : Nat) :
    Forward (decodeMany reader count) := by
  induction count with
  | zero => exact forward_pure _
  | succ count ih =>
    apply forward_bind forward
    intro first
    apply forward_bind ih
    intro others
    apply forward_pure

private theorem forward_decodeTransfer : Forward decodeTransfer := by
  apply forward_bind (forward_readIndex _)
  intro object
  apply forward_bind forward_readList
  intro list
  apply forward_bind (forward_readSize _)
  intro offset
  apply forward_bind (forward_readSize _)
  intro batchSize
  apply forward_pure

private theorem forward_decodeArg : Forward decodeArg := by
  apply forward_position
  intro offset
  apply forward_bind forward_readByte
  intro byte
  split
  · apply forward_fail
  · apply forward_bind (forward_readIndex _)
    intro index
    apply forward_pure

private theorem forward_decodeLaunch : Forward decodeLaunch := by
  apply forward_bind (forward_readIndex _)
  intro wrapper
  apply forward_bind (forward_readIndex _)
  intro task
  apply forward_bind (forward_readIndex _)
  intro count
  apply forward_bind forward_readList
  intro list
  apply forward_bind (forward_readSize _)
  intro offset
  apply forward_bind (forward_readSize _)
  intro batchThreads
  apply forward_bind (forward_decodeMany forward_decodeArg _)
  intro args
  apply forward_pure

private theorem forward_decodeAlloc : Forward decodeAlloc := by
  apply forward_bind (forward_readSize _)
  intro batchSize
  apply forward_bind (forward_readIndex _)
  intro count
  apply forward_bind (forward_decodeMany (forward_readIndex _) _)
  intro objects
  apply forward_pure

private theorem forward_decodeOperands (opcode : Opcode) : Forward (decodeOperands opcode) := by
  cases opcode with
  | alloc => exact forward_decodeAlloc
  | transfer kind => exact forward_map forward_decodeTransfer
  | launch => exact forward_map forward_decodeLaunch
  | addDependency => exact forward_map forward_readList
  | barrier => exact forward_map forward_readList
  | dealloc => exact forward_map (forward_readIndex _)
  | onDevice => exact forward_map (forward_readIndex _)
  | context => exact forward_map (forward_readIndex _)
  | beginPass => exact forward_pure _
  | endPass => exact forward_pure _

private theorem forward_decode : Forward decode := by
  apply forward_position
  intro offset
  apply forward_bind forward_readByte
  intro byte
  split
  · apply forward_fail
  · apply forward_decodeOperands

end Instruction

namespace Cursor

variable {c : Cursor}

/-! ### Scans -/

/-- What comes next: the end of the bytes, bytes that are no instruction, END, or another instruction. -/
inductive Ahead (c : Cursor) : Prop where
  | exhausted (empty : c.hasRemaining = false) (scan : c.scan = ⟨[], .exhausted c.position⟩)
  | undecodable {e : DecodeError} {position : Nat} (more : c.hasRemaining = true)
      (decoded : ∀ marked, Instruction.decode { c with marked } = ⟨.error e, { c with position, marked }, []⟩)
      (scan : c.scan = ⟨[], .failed e⟩)
  | ended {position : Nat} (more : c.hasRemaining = true)
      (decoded : ∀ marked, Instruction.decode { c with marked } = ⟨.ok .endPass, { c with position, marked }, []⟩)
      (scan : c.scan = ⟨[⟨c.position, .endPass⟩], .ended⟩)
  | instruction {i : Instruction} {position : Nat} (more : c.hasRemaining = true) (ordinary : i ≠ .endPass)
      (decoded : ∀ marked, Instruction.decode { c with marked } = ⟨.ok i, { c with position, marked }, []⟩)
      (shorter : ({ c with position } : Cursor).remaining < c.remaining)
      (scan : c.scan = ⟨⟨c.position, i⟩ :: ({ c with position } : Cursor).scan.entries,
        ({ c with position } : Cursor).scan.stop⟩)

private theorem remaining_eq_zero (empty : c.hasRemaining = false) : c.remaining = 0 := by
  simp only [hasRemaining, decide_eq_false_iff_not] at empty
  unfold remaining
  omega

theorem ahead (c : Cursor) : Ahead c := by
  rcases more : c.hasRemaining with _ | _
  · exact .exhausted more (scan_exhausted (remaining_eq_zero more))
  obtain ⟨result, position, decoded⟩ := Instruction.forward_decode c
  have here : Instruction.decode c = ⟨result, { c with position }, []⟩ := decoded c.marked
  cases result with
  | error e => exact .undecodable more decoded (scan_failed more (by rw [here]))
  | ok i =>
    have next := scan_eq_next Instruction.decode_shrinks here
    by_cases last : i = .endPass
    · subst last
      exact .ended more decoded next
    · rw [if_neg last] at next
      exact .instruction more last decoded (Instruction.decode_shrinks _ _ _ _ here) next

/-- A scan does not depend on the mark. -/
theorem scan_marked (c : Cursor) (marked : Nat) : ({ c with marked } : Cursor).scan = c.scan := by
  induction left : c.remaining using Nat.strong_induction_on generalizing c with
  | _ bytes ih =>
    subst left
    cases c.ahead with
    | exhausted empty scan =>
      rw [scan]
      exact scan_exhausted (c := { c with marked }) (remaining_eq_zero empty)
    | @undecodable e position more decoded scan =>
      rw [scan]
      exact scan_failed (c := { c with marked }) more (by rw [decoded])
    | @ended position more decoded scan =>
      rw [scan]
      exact scan_eq_next Instruction.decode_shrinks (decoded marked)
    | @instruction i position more ordinary decoded shorter scan =>
      have same := ih _ shorter { c with position } rfl
      rw [scan, scan_eq_next Instruction.decode_shrinks (decoded marked), if_neg ordinary, ← same]

/-- From where one of its instructions begins, a scan finds that instruction and then the rest. -/
theorem scan_behind {before rest : List Entry} {entry : Entry} (ordinary : entry.instruction ≠ .endPass)
    (split : c.scan.entries = before ++ entry :: rest) :
    ∃ position, Op.Yields Instruction.decode { c with position := entry.offset } entry.instruction { c with position } ∧
      ({ c with position } : Cursor).scan = ⟨rest, c.scan.stop⟩ := by
  induction before generalizing c with
  | nil =>
    cases c.ahead with
    | exhausted empty scan => simp [scan] at split
    | undecodable more decoded scan => simp [scan] at split
    | ended more decoded scan =>
      rw [scan] at split
      cases split
      exact absurd rfl ordinary
    | @instruction i position more _ decoded shorter scan =>
      rw [scan] at split ⊢
      cases split
      refine ⟨position, ?_, rfl⟩
      rw [Op.Yields, decoded c.marked]
      exact ⟨rfl, rfl⟩
  | cons first before ih =>
    cases c.ahead with
    | exhausted empty scan => simp [scan] at split
    | undecodable more decoded scan => simp [scan] at split
    | ended more decoded scan => simp [scan] at split
    | @instruction i position more _ decoded shorter scan =>
      rw [scan] at split ⊢
      exact ih (c := { c with position }) (List.cons.inj split).2

end Cursor

/-! ### Listings -/

/-- What a disassembler finds behind the header, also in front of bytes that it stops at. -/
def disassembly (program : Bytes) : Except DecodeError Scan :=
  match Cursor.readHeader (.ofBytes program) with
  | ⟨.error e, _, _⟩ => .error e
  | ⟨.ok _, c, _⟩ => .ok c.scan

/-- A listing in three parts: what a program declares, its BEGIN, and what passes read. -/
structure Listing where
  declarations : List Entry
  /-- Where BEGIN is. -/
  start : Nat
  body : List Entry
  stop : ScanStop

namespace Listing

variable {l : Listing} {program : Bytes}

def entries (l : Listing) : List Entry :=
  l.declarations ++ ⟨l.start, .beginPass⟩ :: l.body

/-- What is said of the listing as a whole: bytes that are no instruction leave nothing of it but the error. -/
def outcome (l : Listing) : Except DecodeError (List Entry) :=
  match l.stop with
  | .failed e => .error e
  | _ => .ok l.entries

/-- The program is listed so. -/
structure Of (l : Listing) (program : Bytes) : Prop where
  declared : ∀ entry ∈ l.declarations, ∃ device, entry.instruction = .context device
  found : disassembly program = .ok ⟨l.entries, l.stop⟩

theorem Of.disassemble (listed : l.Of program) : Offload.disassemble program = l.outcome := by
  have found := listed.found
  unfold disassembly at found
  unfold Offload.disassemble
  rcases read : Cursor.readHeader (.ofBytes program) with ⟨e | header, c, log⟩ <;> rw [read] at found
  · cases found
  · have scan : c.scan = ⟨l.entries, l.stop⟩ := Except.ok.inj found
    rw [outcome]
    dsimp only
    rw [scan]
    cases l.stop <;> rfl

end Listing

namespace Machine

variable {m : Machine}

/-- The machine stands behind the BEGIN of the listing, and goes on with what is listed there. -/
structure Follows (m : Machine) (l : Listing) : Prop where
  listed : l.Of m.program.bytes
  position : m.program.position = l.start + 1
  marked : m.program.marked = l.start + 1
  scan : m.program.scan = ⟨l.body, l.stop⟩

/-- Nothing else of a machine matters for that. -/
theorem Follows.congr {m' : Machine} {l : Listing} (follows : m.Follows l) (same : m'.program = m.program) :
    m'.Follows l := by
  constructor <;> rw [same]
  · exact follows.listed
  · exact follows.position
  · exact follows.marked
  · exact follows.scan

theorem Follows.program {l : Listing} (follows : m.Follows l) :
    m.program = ⟨m.program.bytes, l.start + 1, l.start + 1⟩ := by
  have same (c : Cursor) (position : c.position = l.start + 1) (marked : c.marked = l.start + 1) :
      c = ⟨c.bytes, l.start + 1, l.start + 1⟩ := by
    cases c
    cases position
    cases marked
    rfl
  exact same _ follows.position follows.marked

theorem follows_of_opened (opened : m.Opened) : ∃ l, m.Follows l := by
  obtain ⟨bytes, header, cursor, position, read, program, _, info, d, d', declared⟩ := opened
  obtain ⟨declarations, start, body, split, behind, known⟩ := Assembly.prologue_split declared
  have kept : cursor.bytes = bytes := Cursor.sameBytes_readHeader.yields read
  obtain ⟨position', decoded, rest⟩ := Cursor.scan_behind (by simp) split
  have one : position' = position := by
    have passed := congrArg Cursor.position (Instruction.passed_decode decoded).2.1
    rw [behind]
    exact passed
  refine ⟨⟨declarations, start, body, cursor.scan.stop⟩, ⟨known, ?_⟩, ?_, ?_, ?_⟩ <;> rw [program]
  · change disassembly cursor.bytes = .ok ⟨_, _⟩
    rw [kept, Listing.entries, ← split]
    unfold disassembly
    rcases ran : Cursor.readHeader (.ofBytes bytes) with ⟨e | header', c, log⟩ <;> rw [Op.Yields, ran] at read <;>
      obtain ⟨same, rfl⟩ := read
    · cases same
    · rfl
  · exact behind
  · exact behind
  · rw [← one, ← rest]
    exact Cursor.scan_marked { cursor with position := position' } position'

end Machine
end Offload
