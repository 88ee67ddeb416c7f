import Offload.Code.Assembly
import Offload.Proofs.Contracts
import Offload.Proofs.Creation
import Offload.Proofs.Encoding
import Offload.Proofs.Shadows

/-! Programs that were put together. A machine reads back what a program was assembled from: behind the
header it finds the declarations, and behind BEGIN it finds the instructions up to END. -/
namespace Offload

/-- Instructions one behind the other, the first of them at an offset. -/
def entriesFrom (offset : Nat) : List Instruction → List Entry
  | [] => []
  | i :: rest => ⟨offset, i⟩ :: entriesFrom (offset + i.encode.length) rest

/-- The entries hold the instructions. -/
theorem instructions_entriesFrom (offset : Nat) (is : List Instruction) :
    (entriesFrom offset is).map Entry.instruction = is := by
  induction is generalizing offset with
  | nil => rfl
  | cons i rest ih => exact congrArg (List.cons i) (ih _)

/-- Instructions up to and including the first END, or all of them if there is none. -/
def upToEnd : List Instruction → List Instruction
  | [] => []
  | i :: rest => if i = .endPass then [i] else i :: upToEnd rest

/-- What stands up to the first END comes first. -/
theorem upToEnd_prefix (is : List Instruction) : ∃ behind, is = upToEnd is ++ behind := by
  induction is with
  | nil => exact ⟨[], rfl⟩
  | cons i rest ih =>
    obtain ⟨behind, same⟩ := ih
    unfold upToEnd
    split
    · exact ⟨rest, rfl⟩
    · exact ⟨behind, congrArg (List.cons i) same⟩

theorem mem_of_upToEnd {is : List Instruction} {i : Instruction} (member : i ∈ upToEnd is) : i ∈ is := by
  obtain ⟨behind, same⟩ := upToEnd_prefix is
  rw [same]
  exact List.mem_append_left _ member

private theorem upToEnd_assembled {body : List Instruction} (ordinary : ∀ i ∈ body, i ≠ .endPass) :
    upToEnd (body ++ [.endPass]) = body ++ [.endPass] := by
  induction body with
  | nil => rfl
  | cons i rest ih =>
    rw [List.cons_append, upToEnd, if_neg (ordinary i (List.mem_cons_self ..)),
      ih fun j member => ordinary j (List.mem_cons_of_mem _ member)]

/-- The context with the limit that a configuration sets. -/
def Context.limited (c : Context) (config : Config) : Context :=
  match config.memoryLimit with
  | some limit => { c with memory := c.memory.setLimit (some limit) }
  | none => c

namespace Instruction

/-- A decoded instruction is behind the cursor. -/
theorem decode_shrinks (c : Cursor) (i : Instruction) (c' : Cursor) (log : Log)
    (decoded : decode c = ⟨.ok i, c', log⟩) : c'.remaining < c.remaining := by
  have ran : Op.Yields decode c i c' := by
    rw [Op.Yields, decoded]
    exact ⟨rfl, rfl⟩
  obtain ⟨front, back, ⟨_, rfl⟩, ahead, rfl⟩ := (accepts_decode c i c').1 ran
  rw [← Cursor.length_rest, ← Cursor.length_rest, Cursor.rest_behind ahead, ahead, List.length_append,
    encode, List.length_cons]
  omega

/-- The next instruction, by its encoding. -/
theorem decode_next {i : Instruction} {c : Cursor} {back : Bytes} (encodable : i.Encodable)
    (ahead : c.rest = i.encode ++ back) : Op.Yields decode c i (c.advance i.encode.length) :=
  (accepts_decode _ _ _).2 ⟨i.encode, back, ⟨encodable, rfl⟩, ahead, rfl⟩

end Instruction

namespace Cursor

/-- A scan takes the encoded instruction ahead, and ends at END. -/
theorem scan_next {i : Instruction} {c : Cursor} {back : Bytes} (encodable : i.Encodable)
    (ahead : c.rest = i.encode ++ back) :
    c.scan = if i = .endPass then ⟨[⟨c.position, i⟩], .ended⟩
      else ⟨⟨c.position, i⟩ :: (c.advance i.encode.length).scan.entries,
        (c.advance i.encode.length).scan.stop⟩ := by
  have ran := Instruction.decode_next encodable ahead
  have decoded : Instruction.decode c = ⟨.ok i, c.advance i.encode.length, (Instruction.decode c).log⟩ := by
    rw [← ran.1, ← ran.2]
  exact scan_eq_next Instruction.decode_shrinks decoded

/-- What lies ahead is scanned up to the first END, or up to the end of the bytes. -/
theorem scan_listed {is : List Instruction} {c : Cursor} (encodable : ∀ i ∈ is, i.Encodable)
    (ahead : c.rest = is.flatMap Instruction.encode) :
    c.scan = ⟨entriesFrom c.position (upToEnd is), if .endPass ∈ is then .ended
      else .exhausted (c.position + (is.flatMap Instruction.encode).length)⟩ := by
  induction is generalizing c with
  | nil =>
    refine scan_exhausted ?_
    rw [← length_rest, ahead]
    rfl
  | cons i rest ih =>
    rw [List.flatMap_cons] at ahead
    rw [scan_next (encodable i (List.mem_cons_self ..)) ahead]
    by_cases last : i = .endPass
    · subst last
      simp [upToEnd, entriesFrom]
    · rw [if_neg last, ih (fun j member => encodable j (List.mem_cons_of_mem _ member)) (rest_behind ahead)]
      have position : (c.advance i.encode.length).position = c.position + i.encode.length := rfl
      have apart : Instruction.endPass ≠ i := Ne.symm last
      simp only [upToEnd, if_neg last, entriesFrom, position, List.mem_cons, apart, false_or, List.flatMap_cons,
        List.length_append, Nat.add_assoc]

/-- What lies ahead is scanned up to END. -/
theorem scan_assembled {body : List Instruction} {c : Cursor} (encodable : ∀ i ∈ body, i.Encodable)
    (ordinary : ∀ i ∈ body, i ≠ .endPass)
    (ahead : c.rest = body.flatMap Instruction.encode ++ Instruction.encode .endPass) :
    c.scan = ⟨entriesFrom c.position (body ++ [.endPass]), .ended⟩ := by
  have spelled : c.rest = (body ++ [Instruction.endPass]).flatMap Instruction.encode := by
    rw [ahead, List.flatMap_append, List.flatMap_singleton]
  have all : ∀ i ∈ body ++ [Instruction.endPass], i.Encodable := by
    intro i member
    rcases List.mem_append.1 member with inBody | last
    · exact encodable i inBody
    · rw [List.mem_singleton.1 last]
      trivial
  rw [scan_listed all spelled, upToEnd_assembled ordinary, if_pos (by simp)]

variable {c : Cursor} {back : Bytes}

/-- A length that is there is read. -/
theorem yields_readSize (field : String) {length : Nat} (fits : length < 0x8000000000000000)
    (ahead : c.rest = Bytes.ofNatLE 8 length ++ back) :
    (∃ size : UInt64, size.toNat = length ∧ Op.Yields (readSize field) c size (c.advance 8)) ∧
      (c.advance 8).rest = back := by
  have size : (UInt64.ofNat length).toNat = length := by
    rw [UInt64.toNat_ofNat', Nat.mod_eq_of_lt (by omega)]
  have encodable : SizeEncodable (.ofNat length) := by
    rw [SizeEncodable, size]
    exact fits
  have read := (accepts_readSize field c (.ofNat length) _).2 ⟨_, back, ⟨encodable, rfl⟩, by rw [size]; exact ahead, rfl⟩
  have behind := rest_behind ahead
  rw [Bytes.length_ofNatLE] at read behind
  exact ⟨⟨_, size, read⟩, behind⟩

/-- An index that fits is read back. -/
theorem yields_readIndex (field : String) {index : Nat} (fits : index < 0x80000000)
    (ahead : c.rest = Bytes.ofNatLE 4 index ++ back) :
    (∃ word : UInt32, word.toNat = index ∧ Op.Yields (readIndex field) c word (c.advance 4)) ∧
      (c.advance 4).rest = back := by
  have same : (UInt32.ofNat index).toNat = index := by
    rw [UInt32.toNat_ofNat', Nat.mod_eq_of_lt (by omega)]
  have encodable : IndexEncodable (.ofNat index) := by
    rw [IndexEncodable, same]
    exact fits
  have read := (accepts_readIndex field c (.ofNat index) _).2 ⟨_, back, ⟨encodable, rfl⟩, by rw [same]; exact ahead, rfl⟩
  have behind := rest_behind ahead
  rw [Bytes.length_ofNatLE] at read behind
  exact ⟨⟨_, same, read⟩, behind⟩

/-- A header and the bytes that it reserves. -/
def header (lists : Nat) (reserved : Bytes) : Bytes :=
  Bytes.ofNatLE 8 reserved.length ++ (Bytes.ofNatLE 4 lists ++ reserved)

/-- A header has three words and what is reserved. -/
theorem length_header (lists : Nat) (reserved : Bytes) : (header lists reserved).length = 12 + reserved.length := by
  simp only [header, List.length_append, Bytes.length_ofNatLE]
  omega

/-- A header is read, and the cursor ends behind the reserved bytes. -/
theorem yields_readHeader {lists : Nat} {reserved bytes : Bytes} (fits : reserved.length < 0x8000000000000000)
    (fits' : lists < 0x80000000) (split : bytes = header lists reserved ++ back) :
    Op.Yields readHeader (.ofBytes bytes) ⟨reserved.length, lists⟩
      ((ofBytes bytes).advance (12 + reserved.length)) := by
  have start : (ofBytes bytes).rest = Bytes.ofNatLE 8 reserved.length ++
      (Bytes.ofNatLE 4 lists ++ (reserved ++ back)) := by
    simp [ofBytes, rest, split, header, List.append_assoc]
  obtain ⟨⟨size, length, sized⟩, behind⟩ := yields_readSize "header skip length" fits start
  obtain ⟨⟨count, same, counted⟩, behind'⟩ := yields_readIndex "event list count" fits' behind
  have skipped := (accepts_take reserved.length _ reserved _).2 ⟨_, _, ⟨rfl, rfl⟩, behind', rfl⟩
  have position : ((ofBytes bytes).advance 8 |>.advance 4 |>.advance reserved.length) =
      (ofBytes bytes).advance (12 + reserved.length) := by
    rw [advance_advance, advance_advance]
    congr 1
    omega
  rw [position] at skipped
  refine Op.yields_bind.2 ⟨(), _, Op.yields_modify.2 rfl, Op.yields_bind.2 ⟨_, _, sized, ?_⟩⟩
  refine Op.yields_bind.2 ⟨_, _, counted, ?_⟩
  rw [length, same]
  exact Op.yields_bind.2 ⟨(), _, Op.yields_bind.2 ⟨_, _, skipped, Op.yields_pure.2 ⟨rfl, rfl⟩⟩,
    Op.yields_pure.2 ⟨rfl, rfl⟩⟩

/-- In front of the instructions of a program. -/
def behindHeader (a : Assembly) : Cursor :=
  (ofBytes a.bytes).advance (12 + a.reserved.length)

/-- The header of a program is read, and the cursor ends in front of its instructions. -/
theorem readHeader_assembled (a : Assembly) (reserved : a.reserved.length < 0x8000000000000000)
    (lists : a.eventLists < 0x80000000) :
    Op.Yields readHeader (.ofBytes a.bytes) ⟨a.reserved.length, a.eventLists⟩ (behindHeader a) ∧
      (behindHeader a).rest = a.body := by
  have split : a.bytes = header a.eventLists a.reserved ++ a.body := by
    simp [Assembly.bytes, header, List.append_assoc]
  refine ⟨yields_readHeader reserved lists split, ?_⟩
  have start : (ofBytes a.bytes).rest = header a.eventLists a.reserved ++ a.body := split
  rw [behindHeader, ← length_header a.eventLists]
  exact rest_behind start

end Cursor

/-- A device can always be loaded, and its data stay. -/
theorem Device.ensureLoaded_reaches (d : Device) : Op.Reaches ensureLoaded d fun _ d' =>
    d'.data = { d with loaded := true }.data ∧ d'.events = d.events := by
  refine Op.reaches_get (Op.reaches_ite (fun loaded => Op.reaches_pure ⟨?_, rfl⟩) fun _ => ?_)
  · rw [← loaded]
  · exact Op.reaches_modify_bind (Op.reaches_modify_bind ⟨(), _, Op.yields_emit.2 rfl, rfl, rfl⟩)

namespace Machine

variable {a : Assembly} {device : UInt32} {body : List Instruction} {c : Context} {d : Device}
  {config : Config}

/-- A context declaration loads its own device and refuses another one. -/
theorem prologue_context (info : DeviceInfo) (stop : ScanStop) (offset : Nat) (declaration : UInt32)
    (rest : List Entry) :
    prologue info stop (⟨offset, .context declaration⟩ :: rest) =
      if declaration.toNat = info.index then do
        Device.ensureLoaded.mapError MachineError.ofDevice
        prologue info stop rest
      else Op.fail (.malformed (.foreignDevice offset declaration.toNat info.text)) :=
  rfl

/-- One declaration, and then BEGIN. -/
theorem prologue_reaches {info : DeviceInfo} {stop : ScanStop} {first second : Nat} {rest : List Entry}
    (here : device.toNat = info.index) :
    Op.Reaches (prologue info stop (⟨first, .context device⟩ :: ⟨second, .beginPass⟩ :: rest)) d
      fun position d' => position = second + 1 ∧ d'.data = { d with loaded := true }.data ∧
        d'.events = d.events := by
  rw [prologue_context, if_pos here]
  exact Op.reaches_bind (Op.reaches_mapError (Device.ensureLoaded_reaches d)) fun _ d' _ loaded =>
    Op.reaches_pure ⟨rfl, loaded⟩

/-- A program for the device at hand makes a machine. It stands behind BEGIN, and the device is loaded. -/
theorem create_assembled
    (instructions : a.instructions = .context device :: .beginPass :: (body ++ [.endPass]))
    (encodable : ∀ i ∈ body, i.Encodable) (ordinary : ∀ i ∈ body, i ≠ .endPass)
    (declared : IndexEncodable device) (here : device.toNat = d.info.index)
    (reserved : a.reserved.length < 0x8000000000000000) (lists : a.eventLists < 0x80000000) :
    Op.Reaches (create a.bytes config) (c, d) fun m site =>
      site.1 = c.limited config ∧ site.2.data = { d with loaded := true }.data ∧
        site.2.events = d.events ∧ m.schedule = {} ∧
        ∃ offset, m.program.scan = ⟨entriesFrom offset (body ++ [.endPass]), .ended⟩ := by
  obtain ⟨header, ahead⟩ := Cursor.readHeader_assembled a reserved lists
  have spelled : a.body = Instruction.encode (.context device) ++ (Instruction.encode .beginPass ++
      (body.flatMap Instruction.encode ++ Instruction.encode .endPass)) := by
    simp [Assembly.body, instructions]
  rw [spelled] at ahead
  have behind := Cursor.rest_behind (Cursor.rest_behind ahead)
  have scanned := Cursor.scan_assembled encodable ordinary behind
  have whole := Cursor.scan_next (i := .context device) declared ahead
  rw [if_neg nofun, Cursor.scan_next (i := .beginPass) trivial (Cursor.rest_behind ahead), if_neg nofun,
    scanned] at whole
  have opened : (Cursor.readHeader (.ofBytes a.bytes)) =
      ⟨.ok ⟨a.reserved.length, a.eventLists⟩, Cursor.behindHeader a,
        (Cursor.readHeader (.ofBytes a.bytes)).log⟩ := by
    rw [← header.1, ← header.2]
  unfold create
  rw [opened]
  refine Op.reaches_get ?_
  dsimp only
  let declaration := Instruction.encode (.context device)
  refine Op.reaches_bind (P := fun position site =>
    position = ((Cursor.behindHeader a).advance declaration.length).position + 1 ∧ site.1 = c ∧
      site.2.data = { d with loaded := true }.data ∧ site.2.events = d.events) ?_
    fun position site _ ⟨at_begin, context, data, events⟩ => ?_
  · rw [whole]
    exact Op.reaches_onPart (prologue_reaches here) fun position d' ⟨at_begin, loaded⟩ =>
      ⟨at_begin, rfl, loaded⟩
  obtain ⟨c', d'⟩ := site
  dsimp only at context data events
  rw [context]
  refine Op.reaches_modify_bind (Op.reaches_get (Op.reaches_emit_bind (Op.reaches_pure ?_)))
  have behindBegin : ({ bytes := (Cursor.behindHeader a).bytes, position, marked := position } : Cursor).scan =
      ⟨entriesFrom position (body ++ [.endPass]), .ended⟩ := by
    refine Cursor.scan_assembled encodable ordinary ?_
    rw [at_begin]
    exact behind
  unfold Context.limited
  cases config.memoryLimit <;> exact ⟨rfl, data, events, rfl, position, behindBegin⟩

end Machine
end Offload
