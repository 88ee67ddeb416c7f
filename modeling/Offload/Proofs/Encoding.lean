import Offload.Proofs.Layouts

/-! Decoding inverts encoding. Decoding checks the fields of an instruction, one after the other, and these
are its encoding. So it accepts one form for each encodable instruction: it gives back what was encoded and
stops behind it, and what it takes is what encoding would write again. -/
namespace Offload

/-- Each code has one byte, and each byte at most one code. -/
theorem ArgumentTag.ofByte?_iff {byte : UInt8} {tag : ArgumentTag} : ofByte? byte = some tag ↔ tag.byte = byte := by
  constructor
  · exact byte_of_ofByte?
  · rintro rfl
    exact ofByte?_byte tag

private theorem Opcode.ofByte?_iff {byte : UInt8} {opcode : Opcode} :
    ofByte? byte = some opcode ↔ opcode.byte = byte := by
  constructor
  · exact byte_of_ofByte?
  · rintro rfl
    exact ofByte?_byte opcode

namespace Instruction

open Cursor Offload.Field

variable {α : Type}

/-- A counted sequence is checked element by element. -/
theorem checks_decodeMany {reader : Decoder α} {good : α → Prop} {layout : α → List Field}
    (checks : Checks reader fun a fields => good a ∧ fields = layout a) (count : Nat) :
    Checks (decodeMany reader count) fun values fields =>
      (values.length = count ∧ ∀ a ∈ values, good a) ∧ fields = values.flatMap layout := by
  induction count with
  | zero =>
    refine checks_congr (checks_pure []) fun values fields => ?_
    constructor
    · rintro ⟨rfl, rfl⟩
      exact ⟨⟨rfl, by simp⟩, rfl⟩
    · rintro ⟨⟨empty, _⟩, rfl⟩
      obtain rfl := List.length_eq_zero_iff.1 empty
      exact ⟨rfl, rfl⟩
  | succ count ih =>
    refine checks_congr (checks_written checks fun first =>
      checks_written ih fun others => checks_pure (first :: others)) fun values fields => ?_
    constructor
    · rintro ⟨first, _, goodFirst, ⟨others, _, ⟨rfl, goodOthers⟩, ⟨rfl, rfl⟩, rfl⟩, rfl⟩
      exact ⟨⟨rfl, List.forall_mem_cons.2 ⟨goodFirst, goodOthers⟩⟩, by simp⟩
    · rintro ⟨⟨length, goods⟩, rfl⟩
      obtain ⟨first, others, rfl⟩ := List.exists_cons_of_length_eq_add_one length
      obtain ⟨goodFirst, goodOthers⟩ := List.forall_mem_cons.1 goods
      exact ⟨first, _, goodFirst, ⟨others, _, ⟨by simpa using length, goodOthers⟩, ⟨rfl, rfl⟩, rfl⟩,
        by simp⟩

private theorem checks_decodeTransfer (kind : TransferKind) : Checks decodeTransfer fun t fields =>
    (Instruction.transfer kind t).Encodable ∧ fields = t.fields := by
  refine checks_congr (checks_written (checks_readIndex _) fun object =>
    checks_written checks_readList fun list => checks_written (checks_readSize _) fun offset =>
      checks_written (checks_readSize _) fun batchSize =>
        checks_pure (⟨object, list, offset, batchSize⟩ : Transfer)) fun t fields => ?_
  constructor
  · rintro ⟨object, _, indexed, ⟨list, _, listed, ⟨offset, _, placed, ⟨batchSize, _, sized, ⟨rfl, rfl⟩,
      rfl⟩, rfl⟩, rfl⟩, rfl⟩
    exact ⟨⟨indexed, listed, placed, sized⟩, rfl⟩
  · rintro ⟨⟨indexed, listed, placed, sized⟩, rfl⟩
    exact ⟨t.object, _, indexed, ⟨t.list, _, listed, ⟨t.offset, _, placed, ⟨t.batchSize, _, sized,
      ⟨rfl, rfl⟩, rfl⟩, rfl⟩, rfl⟩, rfl⟩

private theorem checks_decodeArg : Checks decodeArg fun arg fields =>
    IndexEncodable arg.index ∧ fields = arg.fields := by
  have reads : decodeArg = (readCode ArgumentTag.ofByte? .unknownArgumentTag >>= fun tag =>
      readIndex "argument index" >>= fun index => pure (LaunchArg.ofTag tag index)) := by
    refine readCode_bind (fun byte offset found => ?_) fun byte offset tag found => ?_
    · rw [found]
    · rw [found]
  rw [reads]
  refine checks_congr (checks_written
    (checks_readCode .pushConstant ArgumentTag.ofByte?_iff DecodeError.Names.tag) fun tag =>
      checks_written (checks_readIndex _) fun index => checks_pure (LaunchArg.ofTag tag index))
    fun arg fields => ?_
  constructor
  · rintro ⟨tag, _, _, ⟨index, _, encodable, ⟨rfl, rfl⟩, rfl⟩, rfl⟩
    cases tag <;> exact ⟨encodable, rfl⟩
  · rintro ⟨encodable, rfl⟩
    exact ⟨arg.tag, _, trivial, ⟨arg.index, _, encodable, ⟨by cases arg <;> rfl, rfl⟩, rfl⟩, rfl⟩

/-- A count is an index that is no longer part of the value. -/
theorem counted_iff {count : UInt32} {length : Nat} :
    IndexEncodable count ∧ length = count.toNat ↔
      length < 0x80000000 ∧ count = UInt32.ofNat length := by
  constructor
  · rintro ⟨encodable, rfl⟩
    exact ⟨encodable, UInt32.ofNat_toNat.symm⟩
  · rintro ⟨small, rfl⟩
    rw [IndexEncodable, UInt32.toNat_ofNat', Nat.mod_eq_of_lt (by omega)]
    exact ⟨small, rfl⟩

private theorem checks_decodeLaunch : Checks decodeLaunch fun l fields =>
    (Instruction.launch l).Encodable ∧ fields = l.fields := by
  refine checks_congr (checks_written (checks_readIndex _) fun wrapper =>
    checks_written (checks_readIndex _) fun task => checks_written (checks_readIndex _) fun count =>
      checks_written checks_readList fun list => checks_written (checks_readSize _) fun offset =>
        checks_written (checks_readSize _) fun batchThreads =>
          checks_written (checks_decodeMany checks_decodeArg count.toNat) fun args =>
            checks_pure (⟨wrapper, task, list, offset, batchThreads, args⟩ : Launch)) fun l fields => ?_
  constructor
  · rintro ⟨wrapper, _, wrapped, ⟨task, _, tasked, ⟨count, _, counted, ⟨list, _, listed, ⟨offset, _, placed,
      ⟨batchThreads, _, sized, ⟨args, _, ⟨length, bound⟩, ⟨rfl, rfl⟩, rfl⟩, rfl⟩, rfl⟩, rfl⟩, rfl⟩, rfl⟩, rfl⟩
    refine ⟨⟨wrapped, tasked, (counted_iff.1 ⟨counted, length⟩).1, listed, placed, sized, bound⟩, ?_⟩
    simp [Launch.fields, Field.count, Field.index, length]
  · rintro ⟨⟨wrapped, tasked, few, listed, placed, sized, bound⟩, rfl⟩
    obtain ⟨counted, length⟩ := counted_iff.2 ⟨few, rfl⟩
    refine ⟨l.wrapper, _, wrapped, ⟨l.task, _, tasked, ⟨.ofNat l.args.length, _, counted, ⟨l.list, _, listed,
      ⟨l.offset, _, placed, ⟨l.batchThreads, _, sized, ⟨l.args, _, ⟨length, bound⟩, ⟨rfl, rfl⟩, rfl⟩, rfl⟩,
      rfl⟩, rfl⟩, rfl⟩, rfl⟩, ?_⟩
    simp [Launch.fields, Field.count, Field.index, ← length]

private theorem checks_decodeAlloc : Checks decodeAlloc fun i fields =>
    i.opcode = .alloc ∧ i.Encodable ∧ fields = i.operandFields := by
  refine checks_congr (checks_written (checks_readSize _) fun batchSize =>
    checks_written (checks_readIndex _) fun count =>
      checks_written (checks_decodeMany (checks_readIndex _) count.toNat) fun objects =>
        checks_pure (Instruction.alloc batchSize objects)) fun i fields => ?_
  constructor
  · rintro ⟨batchSize, _, sized, ⟨count, _, counted, ⟨objects, _, ⟨length, indexed⟩, ⟨rfl, rfl⟩, rfl⟩, rfl⟩,
      rfl⟩
    refine ⟨rfl, ⟨sized, (counted_iff.1 ⟨counted, length⟩).1, indexed⟩, ?_⟩
    simp [operandFields, Field.count, Field.index, length, List.map_eq_flatMap]
  · rintro ⟨named, encodable, rfl⟩
    cases i with
    | alloc batchSize objects =>
      obtain ⟨sized, few, indexed⟩ := encodable
      obtain ⟨counted, length⟩ := counted_iff.2 ⟨few, rfl⟩
      refine ⟨batchSize, _, sized, ⟨.ofNat objects.length, _, counted, ⟨objects, _, ⟨length, indexed⟩,
        ⟨rfl, rfl⟩, rfl⟩, rfl⟩, ?_⟩
      simp [operandFields, Field.count, Field.index, ← length, List.map_eq_flatMap]
    | _ => cases named

/-- The operands of an opcode that wraps what one reader gives. -/
theorem checks_operands {wrap : α → Instruction} {reader : Decoder α} {good : α → Prop}
    {layout : α → List Field} {opcode : Opcode}
    (checks : Checks reader fun a fields => good a ∧ fields = layout a)
    (only : ∀ i : Instruction, i.opcode = opcode ↔ ∃ a, wrap a = i)
    (encodable : ∀ a, (wrap a).Encodable ↔ good a) (laid : ∀ a, (wrap a).operandFields = layout a) :
    Checks (wrap <$> reader) fun i fields =>
      i.opcode = opcode ∧ i.Encodable ∧ fields = i.operandFields := by
  refine checks_congr (checks_wrapped checks) fun i fields => ?_
  constructor
  · rintro ⟨a, rfl, held, rfl⟩
    exact ⟨(only _).2 ⟨a, rfl⟩, (encodable a).2 held, (laid a).symm⟩
  · rintro ⟨named, held, rfl⟩
    obtain ⟨a, rfl⟩ := (only i).1 named
    exact ⟨a, rfl, (encodable a).1 held, laid a⟩

private theorem checks_bare {i : Instruction} {opcode : Opcode}
    (only : ∀ other : Instruction, other.opcode = opcode ↔ i = other)
    (encodable : i.Encodable) (bare : i.operandFields = []) :
    Checks (pure i) fun other fields =>
      other.opcode = opcode ∧ other.Encodable ∧ fields = other.operandFields := by
  refine checks_congr (checks_pure i) fun other fields => ?_
  constructor
  · rintro ⟨rfl, rfl⟩
    exact ⟨(only i).2 rfl, encodable, bare.symm⟩
  · rintro ⟨named, _, rfl⟩
    obtain rfl := (only other).1 named
    exact ⟨rfl, bare⟩

private theorem checks_decodeOperands (opcode : Opcode) : Checks (decodeOperands opcode) fun i fields =>
    i.opcode = opcode ∧ i.Encodable ∧ fields = i.operandFields := by
  cases opcode with
  | alloc => exact checks_decodeAlloc
  | dealloc =>
    refine checks_operands (checks_readIndex _) (fun i => ?_) (fun _ => Iff.rfl) fun _ => rfl
    cases i <;> simp [Instruction.opcode]
  | transfer kind =>
    refine checks_operands (checks_decodeTransfer kind) (fun i => ?_) (fun _ => Iff.rfl) fun _ => rfl
    cases i <;> simp [Instruction.opcode, eq_comm]
  | launch =>
    refine checks_operands checks_decodeLaunch (fun i => ?_) (fun _ => Iff.rfl) fun _ => rfl
    cases i <;> simp [Instruction.opcode]
  | addDependency =>
    refine checks_operands checks_readList (fun i => ?_) (fun _ => Iff.rfl) fun _ => rfl
    cases i <;> simp [Instruction.opcode]
  | onDevice =>
    refine checks_operands (checks_readIndex _) (fun i => ?_) (fun _ => Iff.rfl) fun _ => rfl
    cases i <;> simp [Instruction.opcode]
  | barrier =>
    refine checks_operands checks_readList (fun i => ?_) (fun _ => Iff.rfl) fun _ => rfl
    cases i <;> simp [Instruction.opcode]
  | context =>
    refine checks_operands (checks_readIndex _) (fun i => ?_) (fun _ => Iff.rfl) fun _ => rfl
    cases i <;> simp [Instruction.opcode]
  | beginPass =>
    refine checks_bare (fun i => ?_) trivial rfl
    cases i <;> simp [Instruction.opcode]
  | endPass =>
    refine checks_bare (fun i => ?_) trivial rfl
    cases i <;> simp [Instruction.opcode]

/-- Decoding checks the fields of encodable instructions. -/
theorem checks_decode : Checks decode fun i fields => i.Encodable ∧ fields = i.fields := by
  have reads : decode = (readCode Opcode.ofByte? .unknownOpcode >>= decodeOperands) := by
    refine readCode_bind (fun byte offset found => ?_) fun byte offset opcode found => ?_
    · rw [found]
    · rw [found]
  rw [reads]
  refine checks_congr (checks_written
    (checks_readCode .endPass Opcode.ofByte?_iff DecodeError.Names.opcode) checks_decodeOperands)
    fun i fields => ?_
  constructor
  · rintro ⟨opcode, _, _, ⟨rfl, encodable, rfl⟩, rfl⟩
    exact ⟨encodable, rfl⟩
  · rintro ⟨encodable, rfl⟩
    exact ⟨i.opcode, _, trivial, ⟨rfl, encodable, rfl⟩, rfl⟩

/-- The grammar of instructions: each encodable one has its encoding and no other form. -/
theorem accepts_decode : Accepts decode fun i front => i.Encodable ∧ front = i.encode := by
  refine accepts_congr checks_decode.accepts fun i front => ?_
  rw [spells_written, spelled_fields]

/-- The bytes between two positions. -/
def passed (c c' : Cursor) : Bytes :=
  Bytes.slice c.bytes c.position (c'.position - c.position)

private theorem passed_advance {c : Cursor} {front back : Bytes} (ahead : c.rest = front ++ back) :
    passed c (c.advance front.length) = front := by
  show c.rest.take (c.position + front.length - c.position) = front
  rw [Nat.add_sub_cancel_left, ahead, List.take_left]

/-- What decoding has passed over is the encoding of what it gave. -/
theorem passed_decode {c c' : Cursor} {i : Instruction} (ran : Op.Yields decode c i c') :
    i.Encodable ∧ c' = c.advance i.encode.length ∧ passed c c' = i.encode := by
  obtain ⟨front, back, ⟨encodable, rfl⟩, ahead, rfl⟩ := (accepts_decode c i c').1 ran
  exact ⟨encodable, rfl, passed_advance ahead⟩

/-- In front of the encoding of an instruction, decoding gives that instruction and stops behind its
bytes exactly if every operand keeps its sign bit clear. Conversely, what decoding passes over is the
encoding of what it gives, so that no two byte strings decode to the same instruction. -/
theorem decode_bijective :
    (∀ (i : Instruction) (suffix : Bytes) (c : Cursor), c.rest = i.encode ++ suffix →
      (Op.Yields decode c i (c.advance i.encode.length) ↔ i.Encodable)) ∧
    (∀ (c c' : Cursor) (i : Instruction), Op.Yields decode c i c' →
      c' = c.advance i.encode.length ∧ passed c c' = i.encode) ∧
    (∀ (c c' d d' : Cursor) (i : Instruction), Op.Yields decode c i c' → Op.Yields decode d i d' →
      passed c c' = passed d d') := by
  refine ⟨?_, ?_, ?_⟩
  · intro i suffix c ahead
    constructor
    · intro ran
      exact (passed_decode ran).1
    · intro encodable
      exact (accepts_decode _ _ _).2 ⟨i.encode, suffix, ⟨encodable, rfl⟩, ahead, rfl⟩
  · intro c c' i ran
    exact (passed_decode ran).2
  · intro c c' d d' i ran other
    rw [(passed_decode ran).2.2, (passed_decode other).2.2]

/-- A launch with an argument of each kind. -/
def mixedLaunch : Instruction :=
  .launch { wrapper := 3, task := 1, list := none, offset := 64, batchThreads := 0x7fffffffffffffff,
            args := [.constant 2, .reference 0x7fffffff] }

/-- A cursor in front of that launch, behind one byte and in front of another one. -/
def beforeMixedLaunch : Cursor :=
  { bytes := 0xff :: (mixedLaunch.encode ++ [0x1c]), position := 1 }

/-- The launch is read back from where it starts to where it ends. -/
theorem mixedLaunch_decodes : beforeMixedLaunch.rest = mixedLaunch.encode ++ [0x1c] ∧
    Op.Yields decode beforeMixedLaunch mixedLaunch (beforeMixedLaunch.advance 43) ∧
    passed beforeMixedLaunch (beforeMixedLaunch.advance 43) = mixedLaunch.encode := by
  have ahead : beforeMixedLaunch.rest = mixedLaunch.encode ++ [0x1c] := rfl
  have encodable : mixedLaunch.Encodable := by
    simp [mixedLaunch, Encodable, IndexEncodable, SizeEncodable, ListEncodable, LaunchArg.index]
  have ran := (decode_bijective.1 mixedLaunch [0x1c] beforeMixedLaunch ahead).2 encodable
  exact ⟨ahead, ran, (decode_bijective.2.1 _ _ _ ran).2⟩

end Instruction
end Offload
