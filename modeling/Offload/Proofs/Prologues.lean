import Offload.Proofs.Programs

/-! What a machine can be built from. The bytes of a program begin with a header, the reserved bytes that it
announces, and declarations of the device, and then BEGIN comes. A machine is built exactly from these, and
whatever else lies there is refused for its first fault from the left, with nothing done to the context. -/
namespace Offload

namespace Cursor

variable {α : Type} {c c' : Cursor} {field : String} {word back : Bytes}

/-! ### Operands that are missing or negative -/

private theorem take_short {count : Nat} (ahead : c.rest = back) (short : back.length < count) :
    (take count c).result = .error (.truncated c.position count back.length) := by
  rw [← ahead, length_rest] at short ⊢
  simp only [take, Op.step, short, if_true]

section Natural

variable {signed : Decoder Int} {make : Nat → α}

private theorem natural_failed {e : DecodeError} (failed : (signed c).result = .error e) :
    ((do
      let offset ← Op.gets position
      let value ← signed
      if value < 0 then Op.fail (.negativeOperand field value offset) else pure (make value.toNat) :
        Decoder α) c).result = .error e := by
  have looked : Op.Yields (Op.gets position : Decoder Nat) c c.position c := Op.yields_gets.2 ⟨rfl, rfl⟩
  rw [(Op.bind_of_yields looked).1]
  exact (Op.bind_of_failed failed).1

private theorem natural_negative {value : Int} (read : Op.Yields signed c value c') (negative : value < 0) :
    ((do
      let offset ← Op.gets position
      let value ← signed
      if value < 0 then Op.fail (.negativeOperand field value offset) else pure (make value.toNat) :
        Decoder α) c).result = .error (.negativeOperand field value c.position) := by
  have looked : Op.Yields (Op.gets position : Decoder Nat) c c.position c := Op.yields_gets.2 ⟨rfl, rfl⟩
  rw [(Op.bind_of_yields looked).1, (Op.bind_of_yields read).1, if_pos negative]
  rfl

end Natural

private theorem readSize_short (ahead : c.rest = back) (short : back.length < 8) :
    (readSize field c).result = .error (.truncated c.position 8 back.length) :=
  natural_failed (Op.bind_of_failed (take_short ahead short)).1

private theorem readIndex_short (ahead : c.rest = back) (short : back.length < 4) :
    (readIndex field c).result = .error (.truncated c.position 4 back.length) :=
  natural_failed (Op.bind_of_failed (take_short ahead short)).1

private theorem readSize_negative (ahead : c.rest = word ++ back) (width : word.length = 8)
    (negative : signedWord 8 (Bytes.toNatLE word) < 0) :
    (readSize field c).result =
      .error (.negativeOperand field (signedWord 8 (Bytes.toNatLE word)) c.position) :=
  natural_negative ((accepts_readInt64 _ _ _).2 ⟨word, back, ⟨width, rfl⟩, ahead, rfl⟩) negative

private theorem readIndex_negative (ahead : c.rest = word ++ back) (width : word.length = 4)
    (negative : signedWord 4 (Bytes.toNatLE word) < 0) :
    (readIndex field c).result =
      .error (.negativeOperand field (signedWord 4 (Bytes.toNatLE word)) c.position) :=
  natural_negative ((accepts_readInt32 _ _ _).2 ⟨word, back, ⟨width, rfl⟩, ahead, rfl⟩) negative

/-! ### The header -/

/-- What can be wrong with a header, from the left: the length of the reserved bytes is cut off or negative,
the number of lists is, or there are fewer reserved bytes than announced. -/
inductive HeaderFault : Bytes → DecodeError → Prop where
  | noLength {bytes : Bytes} (short : bytes.length < 8) :
      HeaderFault bytes (.truncated 0 8 bytes.length)
  | negativeLength {word back : Bytes} (width : word.length = 8)
      (negative : signedWord 8 (Bytes.toNatLE word) < 0) :
      HeaderFault (word ++ back) (.negativeOperand "header skip length" (signedWord 8 (Bytes.toNatLE word)) 0)
  | noLists {length : Nat} {back : Bytes} (fits : length < 0x8000000000000000) (short : back.length < 4) :
      HeaderFault (Bytes.ofNatLE 8 length ++ back) (.truncated 8 4 back.length)
  | negativeLists {length : Nat} {word back : Bytes} (fits : length < 0x8000000000000000)
      (width : word.length = 4) (negative : signedWord 4 (Bytes.toNatLE word) < 0) :
      HeaderFault (Bytes.ofNatLE 8 length ++ (word ++ back))
        (.negativeOperand "event list count" (signedWord 4 (Bytes.toNatLE word)) 8)
  | noReserved {length lists : Nat} {back : Bytes} (fits : length < 0x8000000000000000)
      (fits' : lists < 0x80000000) (short : back.length < length) :
      HeaderFault (Bytes.ofNatLE 8 length ++ (Bytes.ofNatLE 4 lists ++ back)) (.truncated 12 length back.length)

private theorem readHeader_fault {bytes : Bytes} {e : DecodeError} (fault : HeaderFault bytes e) :
    (readHeader (.ofBytes bytes)).result = .error e := by
  have rewound : Op.Yields (Op.modify rewind : Decoder Unit) (.ofBytes bytes) () (.ofBytes bytes) :=
    Op.yields_modify.2 rfl
  have start : (ofBytes bytes).rest = bytes := rfl
  rw [readHeader, (Op.bind_of_yields rewound).1]
  cases fault with
  | noLength short => exact (Op.bind_of_failed (readSize_short start short)).1
  | negativeLength width negative => exact (Op.bind_of_failed (readSize_negative start width negative)).1
  | noLists fits short =>
    obtain ⟨⟨size, _, sized⟩, behind⟩ := yields_readSize "header skip length" fits start
    rw [(Op.bind_of_yields sized).1]
    exact (Op.bind_of_failed (readIndex_short behind short)).1
  | negativeLists fits width negative =>
    obtain ⟨⟨size, _, sized⟩, behind⟩ := yields_readSize "header skip length" fits start
    rw [(Op.bind_of_yields sized).1]
    exact (Op.bind_of_failed (readIndex_negative behind width negative)).1
  | noReserved fits fits' short =>
    obtain ⟨⟨size, length, sized⟩, behind⟩ := yields_readSize "header skip length" fits start
    obtain ⟨⟨count, _, counted⟩, behind'⟩ := yields_readIndex "event list count" fits' behind
    rw [(Op.bind_of_yields sized).1, (Op.bind_of_yields counted).1, length]
    exact (Op.bind_of_failed (Op.bind_of_failed (take_short behind' short)).1).1

/-- A word is negative, or it spells a number. -/
theorem word_cases {width : Nat} {word : Bytes} (length : word.length = width) :
    signedWord width (Bytes.toNatLE word) < 0 ∨
      ∃ number, 2 * number < Bytes.capacity width ∧ word = Bytes.ofNatLE width number := by
  by_cases negative : signedWord width (Bytes.toNatLE word) < 0
  · exact .inl negative
  · have read : signedWord width (Bytes.toNatLE word) = (signedWord width (Bytes.toNatLE word)).toNat := by
      omega
    exact .inr ⟨_, Bytes.signedWord_iff.1 ⟨length, read⟩⟩

/-- Bytes of any kind begin with a header and the bytes that it reserves, or with a fault. -/
theorem header_or_fault (bytes : Bytes) :
    (∃ lists reserved back, reserved.length < 0x8000000000000000 ∧ lists < 0x80000000 ∧
      bytes = header lists reserved ++ back) ∨ ∃ e, HeaderFault bytes e := by
  by_cases short : bytes.length < 8
  · exact .inr ⟨_, .noLength short⟩
  obtain ⟨word, rest, rfl, width⟩ : ∃ word rest, bytes = word ++ rest ∧ word.length = 8 :=
    ⟨bytes.take 8, bytes.drop 8, (List.take_append_drop 8 bytes).symm, by simp; omega⟩
  rcases word_cases width with negative | ⟨length, small, rfl⟩
  · exact .inr ⟨_, .negativeLength width negative⟩
  have fits : length < 0x8000000000000000 := by
    have capacity : Bytes.capacity 8 = 0x10000000000000000 := rfl
    omega
  by_cases short : rest.length < 4
  · exact .inr ⟨_, .noLists fits short⟩
  obtain ⟨word, rest, rfl, width⟩ : ∃ word back, rest = word ++ back ∧ word.length = 4 :=
    ⟨rest.take 4, rest.drop 4, (List.take_append_drop 4 rest).symm, by simp; omega⟩
  rcases word_cases width with negative | ⟨lists, small, rfl⟩
  · exact .inr ⟨_, .negativeLists fits width negative⟩
  have fits' : lists < 0x80000000 := by
    have capacity : Bytes.capacity 4 = 0x100000000 := rfl
    omega
  by_cases short : rest.length < length
  · exact .inr ⟨_, .noReserved fits fits' short⟩
  have reserved : (rest.take length).length = length := by
    rw [List.length_take]
    omega
  refine .inl ⟨lists, rest.take length, rest.drop length, by omega, fits', ?_⟩
  rw [header, reserved, List.append_assoc, List.append_assoc, List.take_append_drop]

end Cursor

/-- The front of a program: a header, the bytes that it reserves, and declarations of devices. -/
structure Prologue where
  lists : Nat
  reserved : Bytes
  declarations : List UInt32

namespace Prologue

/-- Declarations one after the other. -/
def declared (devices : List UInt32) : Bytes :=
  devices.flatMap fun device => (Instruction.context device).encode

def bytes (p : Prologue) : Bytes :=
  Cursor.header p.lists p.reserved ++ declared p.declarations

/-- The numbers of the header are not negative, and each declaration is of the device. -/
structure Of (p : Prologue) (info : DeviceInfo) : Prop where
  reserved : p.reserved.length < 0x8000000000000000
  lists : p.lists < 0x80000000
  declared : ∀ device ∈ p.declarations, IndexEncodable device ∧ device.toNat = info.index

/-- The first fault of a program from the left: in its header, or behind some declarations of the device,
where no instruction is, or a declaration of another device, or an instruction in front of BEGIN. -/
inductive Fault (info : DeviceInfo) (bytes : Bytes) : MachineError → Prop where
  | header {e : DecodeError} (fault : Cursor.HeaderFault bytes e) : Fault info bytes (.decode e)
  | undecodable {p : Prologue} {back : Bytes} {e : DecodeError} (front : p.Of info)
      (split : bytes = p.bytes ++ back)
      (failed : (Instruction.decode { bytes, position := p.bytes.length }).result = .error e) :
      Fault info bytes (.decode e)
  | foreign {p : Prologue} {device : UInt32} {back : Bytes} (front : p.Of info) (encodable : IndexEncodable device)
      (other : device.toNat ≠ info.index)
      (split : bytes = p.bytes ++ ((Instruction.context device).encode ++ back)) :
      Fault info bytes (.malformed (.foreignDevice p.bytes.length device.toNat info.text))
  | early {p : Prologue} {i : Instruction} {back : Bytes} (front : p.Of info) (encodable : i.Encodable)
      (other : i ≠ .beginPass ∧ ∀ device, i ≠ .context device)
      (split : bytes = p.bytes ++ (i.encode ++ back)) :
      Fault info bytes (.malformed (.beforeBegin i.opcode p.bytes.length))

/-- Behind a front that has its BEGIN a machine is built. -/
def Begins (p : Prologue) (bytes : Bytes) : Prop :=
  ∃ back, bytes = p.bytes ++ (Instruction.beginPass.encode ++ back)

variable {p : Prologue} {info : DeviceInfo} {devices : List UInt32} {back bytes : Bytes}

private theorem declared_cons (device : UInt32) (devices : List UInt32) :
    declared (device :: devices) = (Instruction.context device).encode ++ declared devices :=
  List.flatMap_cons

private theorem length_bytes (p : Prologue) :
    p.bytes.length = 12 + p.reserved.length + (declared p.declarations).length := by
  rw [bytes, List.length_append, Cursor.length_header]

/-- Behind declarations of the device there is no instruction, or one that is no such declaration. -/
theorem declared_or_other (info : DeviceInfo) (c : Cursor) :
    ∃ devices back, (∀ device ∈ devices, IndexEncodable device ∧ device.toNat = info.index) ∧
      c.rest = declared devices ++ back ∧
      ((∃ e, (Instruction.decode (c.advance (declared devices).length)).result = .error e) ∨
        ∃ (i : Instruction) (behind : Bytes), i.Encodable ∧ back = i.encode ++ behind ∧
          ∀ device, i = .context device → device.toNat ≠ info.index) := by
  induction left : c.rest.length using Nat.strongRecOn generalizing c with
  | _ length ih =>
    subst left
    rcases decoded : (Instruction.decode c).result with e | i
    · exact ⟨[], c.rest, by simp, rfl, .inl ⟨e, decoded⟩⟩
    obtain ⟨_, back, ⟨encodable, rfl⟩, ahead, _⟩ := (Instruction.accepts_decode c i _).1 ⟨decoded, rfl⟩
    by_cases same : ∃ device, i = .context device ∧ device.toNat = info.index
    · obtain ⟨device, rfl, here⟩ := same
      have behind := Cursor.rest_behind ahead
      have shorter : back.length < c.rest.length := by
        rw [ahead, List.length_append]
        have positive : 0 < (Instruction.context device).encode.length := Nat.succ_pos _
        omega
      obtain ⟨devices, rest, known, ahead', next⟩ := ih _ (behind ▸ shorter) (c.advance _) rfl
      refine ⟨device :: devices, rest, ?_, ?_, ?_⟩
      · rintro other (_ | ⟨_, member⟩)
        · exact ⟨encodable, here⟩
        · exact known other member
      · rw [ahead, declared_cons, List.append_assoc, ← ahead', behind]
      · rwa [declared_cons, List.length_append, ← Cursor.advance_advance]
    · refine ⟨[], c.rest, by simp, rfl, .inr ⟨i, back, encodable, ahead, ?_⟩⟩
      rintro device rfl here
      exact same ⟨device, rfl, here⟩

/-- Any bytes have a front with its BEGIN, or a fault. -/
theorem begins_or_fault (info : DeviceInfo) (bytes : Bytes) :
    (∃ p : Prologue, p.Of info ∧ p.Begins bytes) ∨ ∃ e, Fault info bytes e := by
  rcases Cursor.header_or_fault bytes with ⟨lists, reserved, behind, fits, fits', whole⟩ | ⟨e, fault⟩
  · let c : Cursor := (Cursor.ofBytes bytes).advance (12 + reserved.length)
    have start : (Cursor.ofBytes bytes).rest = Cursor.header lists reserved ++ behind := whole
    have ahead : c.rest = behind := by
      have rest := Cursor.rest_behind start
      rwa [Cursor.length_header] at rest
    obtain ⟨devices, back, known, split, next⟩ := declared_or_other info c
    let p : Prologue := ⟨lists, reserved, devices⟩
    have front : p.Of info := ⟨fits, fits', known⟩
    have all : bytes = p.bytes ++ back := by
      rw [whole, ← ahead, split, ← List.append_assoc]
      rfl
    have here : c.advance (declared devices).length = { bytes, position := p.bytes.length } := by
      rw [Cursor.advance_advance, length_bytes]
      simp [Cursor.advance, Cursor.ofBytes, p]
    rcases next with ⟨e, failed⟩ | ⟨i, rest, encodable, rfl, other⟩
    · exact .inr ⟨_, .undecodable front all (here ▸ failed)⟩
    by_cases begins : i = .beginPass
    · subst begins
      exact .inl ⟨p, front, rest, all⟩
    by_cases declares : ∃ device, i = .context device
    · obtain ⟨device, rfl⟩ := declares
      exact .inr ⟨_, .foreign front encodable (other device rfl) all⟩
    · exact .inr ⟨_, .early front encodable ⟨begins, fun device same => declares ⟨device, same⟩⟩ all⟩
  · exact .inr ⟨_, .header fault⟩

end Prologue

namespace Machine

variable {p : Prologue} {info : DeviceInfo} {bytes back : Bytes} {c : Cursor} {devices : List UInt32}
  {context : Context} {device : Device} {config : Config} {e : MachineError}

/-- Declarations of the device are stepped over. -/
theorem prologue_declared (known : ∀ device ∈ devices, IndexEncodable device ∧ device.toNat = info.index)
    (ahead : c.rest = Prologue.declared devices ++ back) (d : Device) :
    ∃ d', (prologue info c.scan.stop c.scan.entries d).result =
      (prologue info (c.advance (Prologue.declared devices).length).scan.stop
        (c.advance (Prologue.declared devices).length).scan.entries d').result := by
  induction devices generalizing c d with
  | nil => exact ⟨d, rfl⟩
  | cons declaration devices ih =>
    obtain ⟨encodable, here⟩ := known declaration List.mem_cons_self
    rw [Prologue.declared_cons, List.append_assoc] at ahead
    obtain ⟨_, d', loaded, _⟩ := Device.ensureLoaded_reaches d
    have stepped : (prologue info c.scan.stop c.scan.entries d).result =
        (prologue info (c.advance (Instruction.context declaration).encode.length).scan.stop
          (c.advance (Instruction.context declaration).encode.length).scan.entries d').result := by
      rw [Cursor.scan_next (i := .context declaration) encodable ahead, if_neg nofun]
      rw [prologue_context, if_pos here]
      exact (Op.bind_of_yields (Op.yields_mapError.2 loaded)).1
    obtain ⟨d'', same⟩ := ih (fun device member => known device (List.mem_cons_of_mem _ member))
      (Cursor.rest_behind ahead) d'
    refine ⟨d'', ?_⟩
    rw [stepped, same, Prologue.declared_cons, List.length_append, Cursor.advance_advance]

/-- What cannot be decoded is reported. -/
theorem prologue_undecodable {e : DecodeError} (failed : (Instruction.decode c).result = .error e) (d : Device) :
    (prologue info c.scan.stop c.scan.entries d).result = .error (.decode e) := by
  rcases more : c.hasRemaining with _ | _
  · have empty : c.rest = [] := by
      simp only [Cursor.hasRemaining, decide_eq_false_iff_not, Nat.not_lt] at more
      exact List.drop_of_length_le more
    have none_left : c.remaining = 0 := by rw [← Cursor.length_rest, empty]; rfl
    have cut : (Instruction.decode c).result = .error (.truncated c.position 1 0) := by
      have looked : Op.Yields (Op.gets Cursor.position : Decoder Nat) c c.position c :=
        Op.yields_gets.2 ⟨rfl, rfl⟩
      have short : (Cursor.readByte c).result = .error (.truncated c.position 1 0) :=
        (Op.bind_of_failed (Cursor.take_short empty (by simp))).1
      rw [Instruction.decode, (Op.bind_of_yields looked).1]
      exact (Op.bind_of_failed short).1
    rw [failed] at cut
    cases cut
    rw [Cursor.scan_exhausted none_left]
    rfl
  · rw [Cursor.scan_failed more failed]
    rfl

private theorem prologue_begins (ahead : c.rest = Instruction.beginPass.encode ++ back) (d : Device) :
    (prologue info c.scan.stop c.scan.entries d).result = .ok (c.position + 1) := by
  rw [Cursor.scan_next (i := .beginPass) trivial ahead, if_neg nofun]
  rfl

private theorem prologue_foreign {declaration : UInt32} (encodable : IndexEncodable declaration)
    (other : declaration.toNat ≠ info.index)
    (ahead : c.rest = (Instruction.context declaration).encode ++ back) (d : Device) :
    (prologue info c.scan.stop c.scan.entries d).result =
      .error (.malformed (.foreignDevice c.position declaration.toNat info.text)) := by
  rw [Cursor.scan_next (i := .context declaration) encodable ahead, if_neg nofun]
  rw [prologue_context, if_neg other]
  rfl

private theorem prologue_early {i : Instruction} (encodable : i.Encodable)
    (other : i ≠ .beginPass ∧ ∀ device, i ≠ .context device) (ahead : c.rest = i.encode ++ back)
    (d : Device) :
    (prologue info c.scan.stop c.scan.entries d).result =
      .error (.malformed (.beforeBegin i.opcode c.position)) := by
  obtain ⟨ordinary, undeclared⟩ := other
  rw [Cursor.scan_next encodable ahead]
  cases i with
  | beginPass => exact absurd rfl ordinary
  | context declaration => exact absurd rfl (undeclared declaration)
  | _ => rfl

/-! ### Building a machine -/

private theorem create_unread {e : DecodeError} (failed : (Cursor.readHeader (.ofBytes bytes)).result = .error e)
    (site : Site) : create bytes config site = ⟨.error (.decode e), site, []⟩ := by
  unfold create
  rcases read : Cursor.readHeader (.ofBytes bytes) with ⟨e' | header, cursor, log⟩ <;> rw [read] at failed <;>
    cases failed
  rfl

variable (config) (context)

section Read

variable {header : Header} {cursor : Cursor}
  (read : Op.Yields Cursor.readHeader (.ofBytes bytes) header cursor)
include read

/-- When the declarations lead to no start, there is no machine, and nothing was done to the context. -/
theorem create_stopped
    (stopped : (prologue device.info cursor.scan.stop cursor.scan.entries device).result = .error e) :
    (create bytes config (context, device)).result = .error e ∧
      (create bytes config (context, device)).state.1 = context := by
  obtain ⟨result, state⟩ := read
  unfold create
  rcases ran : Cursor.readHeader (.ofBytes bytes) with ⟨e' | h, c, log⟩ <;> rw [ran] at result state <;>
    cases result
  subst state
  have failed : (onSiteDevice (prologue device.info c.scan.stop c.scan.entries)
      (context, device)).result = .error e := stopped
  dsimp only
  rw [Op.get_bind]
  dsimp only
  rw [(Op.bind_of_failed failed).1, (Op.bind_of_failed failed).2]
  exact ⟨rfl, rfl⟩

/-- Otherwise the machine starts where they lead to. -/
theorem create_started {position : Nat}
    (started : (prologue device.info cursor.scan.stop cursor.scan.entries device).result = .ok position) :
    Op.Reaches (create bytes config) (context, device) fun m _ =>
      m.program = { cursor with position, marked := position } ∧
      m.lists = .create header.eventLists config.maxEvents := by
  obtain ⟨result, state⟩ := read
  unfold create
  rcases ran : Cursor.readHeader (.ofBytes bytes) with ⟨e' | h, c, log⟩ <;> rw [ran] at result state <;>
    cases result
  subst state
  have began : Op.Yields (onSiteDevice (prologue device.info c.scan.stop c.scan.entries))
      (context, device) position _ := ⟨started, rfl⟩
  dsimp only
  apply Op.reaches_get
  apply Op.reaches_after began
  apply Op.reaches_modify_bind
  apply Op.reaches_get
  apply Op.reaches_emit_bind
  apply Op.reaches_pure
  exact ⟨rfl, rfl⟩

end Read

/-- In front of the instruction behind a front. -/
theorem read_front (front : p.Of info) (split : bytes = p.bytes ++ back) :
    ∃ cursor, Op.Yields Cursor.readHeader (.ofBytes bytes) ⟨p.reserved.length, p.lists⟩ cursor ∧
      cursor.bytes = bytes ∧
      (cursor.advance (Prologue.declared p.declarations).length) = { bytes, position := p.bytes.length } ∧
      cursor.rest = Prologue.declared p.declarations ++ back := by
  have whole : bytes = Cursor.header p.lists p.reserved ++ (Prologue.declared p.declarations ++ back) := by
    rw [split, Prologue.bytes, List.append_assoc]
  refine ⟨_, Cursor.yields_readHeader front.reserved front.lists whole, rfl, ?_, ?_⟩
  · rw [Cursor.advance_advance, Prologue.length_bytes]
    simp [Cursor.advance, Cursor.ofBytes]
  · have start : (Cursor.ofBytes bytes).rest = Cursor.header p.lists p.reserved ++
        (Prologue.declared p.declarations ++ back) := whole
    rw [← Cursor.length_header p.lists]
    exact Cursor.rest_behind start

/-- Behind a front it depends on what is there. -/
theorem prologue_front (front : p.Of info) (split : bytes = p.bytes ++ back) (d : Device) :
    ∃ cursor d', Op.Yields Cursor.readHeader (.ofBytes bytes) ⟨p.reserved.length, p.lists⟩ cursor ∧
      cursor.bytes = bytes ∧ ({ bytes, position := p.bytes.length } : Cursor).rest = back ∧
      (prologue info cursor.scan.stop cursor.scan.entries d).result =
        (prologue info ({ bytes, position := p.bytes.length } : Cursor).scan.stop
          ({ bytes, position := p.bytes.length } : Cursor).scan.entries d').result := by
  obtain ⟨cursor, read, same, here, ahead⟩ := read_front front split
  obtain ⟨d', stepped⟩ := prologue_declared front.declared ahead d
  have behind := Cursor.rest_behind ahead
  rw [here] at stepped behind
  exact ⟨cursor, d', read, same, behind, stepped⟩

/-- From a front with its BEGIN, a machine is built that starts right behind that BEGIN. -/
theorem create_begins (front : p.Of device.info) (begins : p.Begins bytes) :
    Op.Reaches (create bytes config) (context, device) fun m _ =>
      m.program = ⟨bytes, p.bytes.length + 1, p.bytes.length + 1⟩ ∧
      m.lists = .create p.lists config.maxEvents := by
  obtain ⟨back, split⟩ := begins
  obtain ⟨cursor, d', read, same, ahead, stepped⟩ := prologue_front front split device
  have started := stepped.trans (prologue_begins ahead d')
  have built := create_started context config read started
  rw [same] at built
  exact built

/-- A fault is what is reported, and nothing is done to the context. -/
theorem create_fault (fault : Prologue.Fault device.info bytes e) :
    (create bytes config (context, device)).result = .error e ∧
      (create bytes config (context, device)).state.1 = context := by
  cases fault with
  | header fault =>
    rw [create_unread (Cursor.readHeader_fault fault)]
    exact ⟨rfl, rfl⟩
  | undecodable front split failed =>
    obtain ⟨cursor, d', read, _, _, stepped⟩ := prologue_front front split device
    exact create_stopped context config read (stepped.trans (prologue_undecodable failed d'))
  | foreign front encodable other split =>
    obtain ⟨cursor, d', read, _, ahead, stepped⟩ := prologue_front front split device
    exact create_stopped context config read (stepped.trans (prologue_foreign encodable other ahead d'))
  | early front encodable other split =>
    obtain ⟨cursor, d', read, _, ahead, stepped⟩ := prologue_front front split device
    exact create_stopped context config read (stepped.trans (prologue_early encodable other ahead d'))

/-- A machine is built exactly from bytes that begin with a header whose numbers are not negative, all the
bytes that it reserves, declarations of the device, and BEGIN; what is behind does not matter. The machine
then starts right behind that BEGIN, where it also goes back to, and has as many event lists as the header
says, all of them empty. From other bytes there comes an error, and it is about their first fault from the
left; the context is then as it was. -/
theorem create_iff (bytes : Bytes) (config : Config) (context : Context) (device : Device) :
    ((∃ m, (create bytes config (context, device)).result = .ok m) ↔
      ∃ p : Prologue, p.Of device.info ∧ p.Begins bytes) ∧
    (∀ (m : Machine) (p : Prologue), (create bytes config (context, device)).result = .ok m →
      p.Of device.info → p.Begins bytes →
        m.program = ⟨bytes, p.bytes.length + 1, p.bytes.length + 1⟩ ∧
        m.lists.size = p.lists ∧ m.lists = .create p.lists config.maxEvents) ∧
    (∀ e, (create bytes config (context, device)).result = .error e ↔ Prologue.Fault device.info bytes e) ∧
    ∀ e, (create bytes config (context, device)).result = .error e →
      (create bytes config (context, device)).state.1 = context := by
  have reported (e : MachineError) (failed : (create bytes config (context, device)).result = .error e) :
      Prologue.Fault device.info bytes e := by
    rcases Prologue.begins_or_fault device.info bytes with ⟨p, front, begins⟩ | ⟨e', fault⟩
    · obtain ⟨m, _, built, _⟩ := create_begins context config front begins
      have impossible := failed.symm.trans built.1
      cases impossible
    · have same := (create_fault context config fault).1
      rw [failed] at same
      cases same
      exact fault
  refine ⟨⟨?_, ?_⟩, ?_, fun e => ⟨reported e, fun fault => (create_fault context config fault).1⟩, ?_⟩
  · rintro ⟨m, built⟩
    rcases Prologue.begins_or_fault device.info bytes with accepted | ⟨e, fault⟩
    · exact accepted
    · rw [(create_fault context config fault).1] at built
      cases built
  · rintro ⟨p, front, begins⟩
    obtain ⟨m, _, built, _⟩ := create_begins context config front begins
    exact ⟨m, built.1⟩
  · intro m p built front begins
    obtain ⟨m', _, built', program, lists⟩ := create_begins context config front begins
    rw [built'.1] at built
    cases built
    exact ⟨program, by rw [lists]; exact List.length_replicate, lists⟩
  · intro e failed
    exact (create_fault context config (reported e failed)).2

/-- The reserved bytes look like a declaration of device 7 and a BEGIN. -/
def disguised : Prologue where
  lists := 3
  reserved := (Instruction.context 7).encode ++ Instruction.beginPass.encode
  declarations := [0, 0]

def disguisedSite : Site := ({ name := "disguised" }, {})

/-- Nothing of what they look like counts. What stands behind the BEGIN, here no instruction, does not count
either, but it would in its place, and so would a declaration of device 1 in front of it. -/
theorem disguised_created :
    (∃ m, (create (disguised.bytes ++ (Instruction.beginPass.encode ++ [0xee])) {} disguisedSite).result =
        .ok m ∧
      m.program.position = 29 ∧ m.program.marked = 29 ∧ m.lists.size = 3) ∧
    (create (disguised.bytes ++ [0xee]) {} disguisedSite).result = .error (.decode (.unknownOpcode 0xee 28)) ∧
    (create (disguised.bytes ++ ((Instruction.context 1).encode ++ [0xee])) {} disguisedSite).result =
      .error (.malformed (.foreignDevice 28 1 disguisedSite.2.info.text)) := by
  have encodable : IndexEncodable 0 ∧ IndexEncodable 1 := by
    unfold IndexEncodable
    decide
  have front : disguised.Of disguisedSite.2.info := by
    refine ⟨by decide, by decide, fun device declared => ?_⟩
    obtain rfl : device = 0 := by simpa [disguised] using declared
    exact ⟨encodable.1, rfl⟩
  refine ⟨?_, ?_, ?_⟩
  · let bytes := disguised.bytes ++ (Instruction.beginPass.encode ++ [0xee])
    have begins : disguised.Begins bytes := ⟨_, rfl⟩
    obtain ⟨accepted, made, _, _⟩ := create_iff bytes {} disguisedSite.1 disguisedSite.2
    obtain ⟨m, built⟩ := accepted.2 ⟨disguised, front, begins⟩
    obtain ⟨program, size, _⟩ := made m disguised built front begins
    exact ⟨m, built, congrArg Cursor.position program, congrArg Cursor.marked program, size⟩
  · have reported := (create_iff (disguised.bytes ++ [0xee]) {} disguisedSite.1 disguisedSite.2).2.2.1
    exact (reported _).2 (.undecodable front rfl rfl)
  · have reported := (create_iff (disguised.bytes ++ ((Instruction.context 1).encode ++ [0xee])) {}
      disguisedSite.1 disguisedSite.2).2.2.1
    exact (reported _).2 (.foreign front encodable.2 (by decide) rfl)

end Machine
end Offload
