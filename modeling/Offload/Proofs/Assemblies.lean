import Mathlib.Order.Bounds.Basic
import Offload.Proofs.DeclaredLists
import Offload.Proofs.Programs

/-! What is assembled is what is read. The header of an assembled program declares exactly as many event
lists as its instructions and its author ask for, a listing gives the instructions back with the places of
their encodings, and so no machine that runs the program ever looks for a list that it does not have. -/
namespace Offload

variable {α : Type}

private theorem Op.Yields.unique {ε σ : Type} {op : Op ε σ α} {s t u : σ} {a b : α} (first : Op.Yields op s a t)
    (second : Op.Yields op s b u) : a = b ∧ t = u :=
  ⟨Except.ok.inj (first.1.symm.trans second.1), first.2.symm.trans second.2⟩

/-- An instruction is listed behind the encodings of those before it. -/
theorem entriesFrom_getElem? (offset : Nat) (is : List Instruction) (index : Nat) :
    (entriesFrom offset is)[index]? = is[index]?.map fun i =>
      ⟨offset + ((is.take index).flatMap Instruction.encode).length, i⟩ := by
  induction is generalizing offset index with
  | nil => rfl
  | cons i rest ih =>
    cases index with
    | zero => rfl
    | succ index =>
      rw [entriesFrom, List.getElem?_cons_succ, ih, List.getElem?_cons_succ, List.take_succ_cons,
        List.flatMap_cons, List.length_append, Nat.add_assoc]

namespace Cursor

/-- A reader goes on in the bytes that it was given. -/
def SameBytes (before after : Cursor) : Prop :=
  after.bytes = before.bytes

instance : Op.Transition SameBytes where
  refl _ := rfl
  trans first second := Eq.trans second first

private theorem sameBytes_take (count : Nat) : Op.Moves (take count) SameBytes := by
  refine Op.moves_step fun c a c' ran => ?_
  split at ran <;> cases ran
  rfl

private theorem sameBytes_gets {view : Cursor → α} : Op.Moves (Op.gets view : Decoder α) SameBytes :=
  fun _ => rfl

theorem sameBytes_readHeader : Op.Moves readHeader SameBytes := by
  have word (count : Nat) (f : Bytes → Int) :
      Op.Moves (do let bytes ← take count; pure (f bytes)) SameBytes :=
    Op.moves_bind (sameBytes_take _) fun _ => Op.moves_pure _
  have size (field : String) : Op.Moves (readSize field) SameBytes :=
    Op.moves_bind sameBytes_gets fun _ => Op.moves_bind (word 8 _) fun _ =>
      Op.moves_ite (Op.moves_fail _) (Op.moves_pure _)
  have index (field : String) : Op.Moves (readIndex field) SameBytes :=
    Op.moves_bind sameBytes_gets fun _ => Op.moves_bind (word 4 _) fun _ =>
      Op.moves_ite (Op.moves_fail _) (Op.moves_pure _)
  refine Op.moves_bind (Op.moves_modify fun _ => rfl) fun _ => ?_
  refine Op.moves_bind (size _) fun _ => Op.moves_bind (index _) fun _ => ?_
  exact Op.moves_bind (Op.moves_bind (sameBytes_take _) fun _ => Op.moves_pure _) fun _ => Op.moves_pure _

end Cursor

namespace Assembly

variable {a : Assembly}

/-- What a program asks for: the declared number of event lists, and one more than each list that an
instruction names. -/
def listCounts (a : Assembly) : Set Nat :=
  {count | count = a.declaredLists ∨
    ∃ i ∈ a.instructions, ∃ list, i.eventList = some list ∧ count = list.toNat + 1}

/-- Every operand keeps its sign bit clear, and so does the number of event lists that each asks for. -/
structure Encodable (a : Assembly) : Prop where
  instructions : ∀ i ∈ a.instructions, i.Encodable
  lists : ∀ i ∈ a.instructions, ∀ list, i.eventList = some list → list.toNat < 0x7fffffff
  declared : a.declaredLists < 0x80000000
  reserved : a.reserved.length < 0x8000000000000000

/-! ### The header -/

/-- An instruction that names no list asks for none. -/
theorem max_listsNamedBy (count : Nat) (i : Instruction) :
    max count (listsNamedBy i) = count ∨ ∃ list, i.eventList = some list ∧ max count (listsNamedBy i) = list.toNat + 1 := by
  unfold listsNamedBy
  rcases i.eventList with _ | list
  · exact .inl (Nat.max_eq_left (Nat.zero_le _))
  · rcases Nat.le_total (list.toNat + 1) count with less | more
    · exact .inl (Nat.max_eq_left less)
    · exact .inr ⟨list, rfl, Nat.max_eq_right more⟩

private theorem foldl_isGreatest (is : List Instruction) (start : Nat) :
    IsGreatest {count | count = start ∨ ∃ i ∈ is, ∃ list, i.eventList = some list ∧ count = list.toNat + 1}
      (is.foldl (fun lists i => max lists (listsNamedBy i)) start) := by
  induction is generalizing start with
  | nil => exact ⟨.inl rfl, fun count only => by rcases only with rfl | ⟨_, none, _⟩ <;> simp_all⟩
  | cons i rest ih =>
    obtain ⟨reached, above⟩ := ih (max start (listsNamedBy i))
    refine ⟨?_, ?_⟩
    · rcases reached with same | ⟨j, member, list, named, same⟩
      · rcases max_listsNamedBy start i with kept | ⟨list, named, raised⟩
        · exact .inl (same.trans kept)
        · exact .inr ⟨i, List.mem_cons_self .., list, named, same.trans raised⟩
      · exact .inr ⟨j, List.mem_cons_of_mem _ member, list, named, same⟩
    · have raised := above (.inl rfl)
      rintro count (rfl | ⟨j, member, list, named, rfl⟩)
      · exact Nat.le_trans (Nat.le_max_left ..) raised
      · rcases List.mem_cons.1 member with rfl | later
        · refine Nat.le_trans ?_ raised
          rw [listsNamedBy, named]
          exact Nat.le_max_right ..
        · exact above (.inr ⟨j, later, list, named, rfl⟩)

/-- The header declares the greatest number that is asked for. -/
theorem eventLists_isGreatest (a : Assembly) : IsGreatest a.listCounts a.eventLists :=
  foldl_isGreatest a.instructions a.declaredLists

private theorem Encodable.eventLists (encodable : a.Encodable) : a.eventLists < 0x80000000 := by
  rcases a.eventLists_isGreatest.1 with same | ⟨i, member, list, named, same⟩
  · rw [same]
    exact encodable.declared
  · have small := encodable.lists i member list named
    omega

/-! ### The listing -/

private theorem disassemble_assembled (encodable : a.Encodable) :
    disassemble a.bytes = .ok (entriesFrom (12 + a.reserved.length) (upToEnd a.instructions)) := by
  obtain ⟨header, ahead⟩ := Cursor.readHeader_assembled a encodable.reserved encodable.eventLists
  have opened : Cursor.readHeader (.ofBytes a.bytes) =
      ⟨.ok ⟨a.reserved.length, a.eventLists⟩, Cursor.behindHeader a,
        (Cursor.readHeader (.ofBytes a.bytes)).log⟩ := by
    rw [← header.1, ← header.2]
  have position : (Cursor.behindHeader a).position = 12 + a.reserved.length := Nat.zero_add _
  unfold disassemble
  rw [opened]
  dsimp only
  rw [Cursor.scan_listed encodable.instructions ahead, position]
  by_cases ends : .endPass ∈ a.instructions
  · rw [if_pos ends]
  · rw [if_neg ends]

/-! ### Machines -/

/-- Where a prologue ends there are only declarations and BEGIN in front. -/
theorem prologue_split {info : DeviceInfo} {stop : ScanStop} {entries : List Entry} {position : Nat}
    {d d' : Device} (ran : Op.Yields (Machine.prologue info stop entries) d position d') :
    ∃ declarations start body, entries = declarations ++ ⟨start, .beginPass⟩ :: body ∧ position = start + 1 ∧
      ∀ entry ∈ declarations, ∃ device, entry.instruction = .context device := by
  induction entries generalizing d with
  | nil => exact absurd ran Op.yields_fail
  | cons entry rest ih =>
    obtain ⟨offset, i⟩ := entry
    cases i with
    | context declared =>
      change Op.Yields (if declared.toNat = info.index then do
          Device.ensureLoaded.mapError MachineError.ofDevice
          Machine.prologue info stop rest
        else Op.fail (.malformed (.foreignDevice offset declared.toNat info.text))) d position d' at ran
      by_cases here : declared.toNat = info.index
      · rw [if_pos here] at ran
        obtain ⟨_, middle, _, later⟩ := Op.yields_bind.1 ran
        obtain ⟨declarations, start, body, rfl, behind, known⟩ := ih later
        refine ⟨⟨offset, .context declared⟩ :: declarations, start, body, rfl, behind, ?_⟩
        intro entry member
        rcases List.mem_cons.1 member with rfl | member
        · exact ⟨declared, rfl⟩
        · exact known entry member
      · rw [if_neg here] at ran
        exact absurd ran Op.yields_fail
    | beginPass =>
      obtain ⟨same, _⟩ := Op.yields_pure.1 ran
      exact ⟨[], offset, rest, rfl, same.symm, by simp⟩
    | _ => exact absurd ran Op.yields_fail

/-- In an assembled program they are instructions, and BEGIN is behind their encodings. -/
theorem prologue_entries {info : DeviceInfo} {stop : ScanStop} {offset position : Nat} {is : List Instruction}
    {d d' : Device} (ran : Op.Yields (Machine.prologue info stop (entriesFrom offset is)) d position d') :
    ∃ front rest, is = front ++ .beginPass :: rest ∧
      position = offset + (front.flatMap Instruction.encode).length + 1 := by
  obtain ⟨declarations, start, body, split, behind, _⟩ := prologue_split ran
  have listed : is = declarations.map Entry.instruction ++ .beginPass :: body.map Entry.instruction := by
    rw [← instructions_entriesFrom offset is, split, List.map_append, List.map_cons]
  have placed := entriesFrom_getElem? offset is declarations.length
  have front : is.take declarations.length = declarations.map Entry.instruction := by
    rw [listed]
    exact List.take_left' (List.length_map _)
  rw [split, List.getElem?_append_right (Nat.le_refl _), Nat.sub_self, front] at placed
  obtain ⟨_, _, same⟩ := Option.map_eq_some_iff.1 placed.symm
  have here : offset + _ = start := congrArg Entry.offset same
  exact ⟨_, _, listed, by rw [behind, ← here]⟩

/-- A machine on an assembled program has the lists that the header declares, and its instructions name
no others. -/
theorem below_of_opened {m : Machine} (encodable : a.Encodable) (opened : m.Opened)
    (same : m.program.bytes = a.bytes) :
    m.lists.size = a.eventLists ∧ m.program.NamesBelow a.eventLists := by
  obtain ⟨bytes, header, cursor, position, read, program, size, info, d, d', declared⟩ := opened
  have kept : cursor.bytes = bytes := Cursor.sameBytes_readHeader.yields read
  rw [program] at same
  obtain rfl : bytes = a.bytes := kept.symm.trans same
  obtain ⟨expected, ahead⟩ := Cursor.readHeader_assembled a encodable.reserved encodable.eventLists
  obtain ⟨rfl, rfl⟩ := read.unique expected
  refine ⟨size, ?_⟩
  rw [Cursor.scan_listed encodable.instructions ahead] at declared
  obtain ⟨front, rest, listed, at_begin⟩ := prologue_entries declared
  obtain ⟨behind, whole⟩ := upToEnd_prefix a.instructions
  rw [listed, List.append_assoc, List.cons_append] at whole
  -- behind the declarations and behind BEGIN
  have spelled : (Cursor.behindHeader a).rest = front.flatMap Instruction.encode ++
      (Instruction.encode .beginPass ++ (rest ++ behind).flatMap Instruction.encode) := by
    rw [ahead, body, whole, List.flatMap_append, List.flatMap_cons]
  have left := Cursor.rest_behind (Cursor.rest_behind spelled)
  have remaining : m.program.rest = (rest ++ behind).flatMap Instruction.encode := by
    rw [← left, program, at_begin]
    rfl
  have known : ∀ i ∈ rest ++ behind, i ∈ a.instructions := by
    intro i member
    rw [whole]
    exact List.mem_append_right _ (List.mem_cons_of_mem _ member)
  intro entry member list named
  rw [Cursor.scan_listed (fun i inRest => encodable.instructions i (known i inRest)) remaining] at member
  have listed : entry.instruction ∈ (entriesFrom m.program.position (upToEnd (rest ++ behind))).map
      Entry.instruction := List.mem_map_of_mem member
  rw [instructions_entriesFrom] at listed
  exact a.eventLists_isGreatest.2 (.inr ⟨entry.instruction, known _ (mem_of_upToEnd listed), list, named, rfl⟩)

private theorem below_of_reachable {w : Workspace} {seat index : Nat} {s : Session} (encodable : a.Encodable)
    (reachable : w.Reachable) (present : w.session? seat = some (index, s)) :
    s.machine.program.bytes = a.bytes →
      s.machine.lists.size = a.eventLists ∧ s.machine.program.NamesBelow a.eventLists := by
  refine Workspace.machines_of_reachable (P := fun m => m.program.bytes = a.bytes →
    m.lists.size = a.eventLists ∧ m.program.NamesBelow a.eventLists) ?_ ?_ reachable present
  · exact fun m site config fresh same => below_of_opened encodable fresh.opened same
  · intro command s holds same
    have program := (continues_command command s).program
    rw [program] at same ⊢
    obtain ⟨size, below⟩ := holds same
    have covered := Machine.covered_command below command s ⟨rfl, size⟩
    exact ⟨(covered.state ⟨rfl, size⟩).size, below⟩

/-- What the header, a listing and the passes of machines have to do with the program as it was put
together. -/
structure Agrees (a : Assembly) : Prop where
  header : ∃ header cursor, Op.Yields Cursor.readHeader (.ofBytes a.bytes) header cursor ∧
    header.skipBytes = a.reserved.length ∧ IsGreatest a.listCounts header.eventLists
  listing : ∃ entries, disassemble a.bytes = .ok entries ∧
    entries.map Entry.instruction = upToEnd a.instructions ∧
    ∀ index entry, entries[index]? = some entry →
      entry.offset = 12 + a.reserved.length + ((a.instructions.take index).flatMap Instruction.encode).length
  passes : ∀ w : Workspace, w.Reachable → ∀ seat index s, w.session? seat = some (index, s) →
    s.machine.program.bytes = a.bytes →
      ∀ mode e, (Machine.execute mode s).result = .error e → ¬ e.MissesList

private theorem offset_of_listed {index : Nat} {entry : Entry} {offset : Nat}
    (found : (entriesFrom offset (upToEnd a.instructions))[index]? = some entry) :
    entry.offset = offset + ((a.instructions.take index).flatMap Instruction.encode).length := by
  rw [entriesFrom_getElem?] at found
  obtain ⟨i, listed, rfl⟩ := Option.map_eq_some_iff.1 found
  obtain ⟨behind, whole⟩ := upToEnd_prefix a.instructions
  have within : index ≤ (upToEnd a.instructions).length :=
    Nat.le_of_lt (List.getElem?_eq_some_iff.1 listed).1
  have same : a.instructions.take index = (upToEnd a.instructions).take index := by
    conv_lhs => rw [whole]
    exact List.take_append_of_le_length within
  rw [same]

/-- The assembler, the listing and the machines agree on every program that can be encoded. -/
theorem assembled_agrees (encodable : a.Encodable) : a.Agrees where
  header := ⟨_, _, (Cursor.readHeader_assembled a encodable.reserved encodable.eventLists).1, rfl,
    a.eventLists_isGreatest⟩
  listing := ⟨_, disassemble_assembled encodable, instructions_entriesFrom _ _, fun _ _ => offset_of_listed⟩
  passes w reachable seat index s present same mode e failed := by
    obtain ⟨size, below⟩ := below_of_reachable encodable reachable present same
    exact (Machine.covered_execute below mode s ⟨rfl, size⟩).error e failed

/-- A program with reserved bytes that names a list beyond those it declares, and goes on behind END. -/
def barrierProgram : Assembly where
  declaredLists := 2
  reserved := [1, 2, 3]
  instructions := [.context 0, .beginPass, .barrier (some 4), .endPass, .dealloc 7]

/-- A machine on that program. -/
def barrierWorkspace : Workspace :=
  let start : Workspace := { context := { name := "barrier" }, devices := [{}] }
  (start.build 0 barrierProgram.bytes {}).state

private theorem barrierProgram_encodable : barrierProgram.Encodable := by
  refine ⟨?_, ?_, by decide, by decide⟩
  · simp [barrierProgram, Instruction.Encodable, IndexEncodable, ListEncodable]
  · simp [barrierProgram, Instruction.eventList]

/-- The header, the listing and every pass agree on a program with a barrier on its last list. -/
theorem barrierProgram_agrees : barrierProgram.Encodable ∧
    (∃ cursor, Op.Yields Cursor.readHeader (.ofBytes barrierProgram.bytes) ⟨3, 5⟩ cursor) ∧
    (∃ entries, disassemble barrierProgram.bytes = .ok entries ∧
      entries.map Entry.instruction = [.context 0, .beginPass, .barrier (some 4), .endPass]) ∧
    ∃ index s, barrierWorkspace.session? 0 = some (index, s) ∧
      ∀ mode e, (Machine.execute mode s).result = .error e → ¬ e.MissesList := by
  have agrees := assembled_agrees barrierProgram_encodable
  refine ⟨barrierProgram_encodable, ?_, ?_, ?_⟩
  · obtain ⟨⟨skipBytes, eventLists⟩, cursor, read, skips, greatest⟩ := agrees.header
    obtain rfl : skipBytes = 3 := skips
    obtain rfl : eventLists = 5 := greatest.unique barrierProgram.eventLists_isGreatest
    exact ⟨cursor, read⟩
  · obtain ⟨entries, listed, instructions, _⟩ := agrees.listing
    exact ⟨entries, listed, instructions⟩
  · have present : (barrierWorkspace.session? 0).isSome := by decide +kernel
    have program : (barrierWorkspace.session? 0).map (fun found => found.2.machine.program.bytes) =
        some barrierProgram.bytes := by decide +kernel
    obtain ⟨⟨index, s⟩, found⟩ := Option.isSome_iff_exists.1 present
    rw [found] at program
    exact ⟨index, s, found, agrees.passes barrierWorkspace (.step (.start _ _ rfl) (.build _ 0 _ _)) 0 index s found
      (Option.some.inj program)⟩

end Assembly
end Offload
