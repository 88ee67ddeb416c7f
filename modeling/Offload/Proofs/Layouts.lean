import Offload.Proofs.Readers

/-! The fields of an instruction and how reading them can fail. A reader checks a layout of fields when
it takes what the layout spells, and when a failure of it stops at one field: either the bytes end
within that field, and could go on, or its word is one that no field at this place can have. Layouts
are checked in sequence, so that the whole instruction is checked field by field. -/
namespace Offload

/-- A part of an instruction that is read at once: what messages call it, and its bytes. -/
structure Field where
  name : String
  bytes : Bytes

namespace Field

def index (name : String) (index : UInt32) : Field :=
  ⟨name, Bytes.ofNatLE 4 index.toNat⟩

def size (name : String) (size : UInt64) : Field :=
  ⟨name, Bytes.ofNatLE 8 size.toNat⟩

def list (list : Option UInt32) : Field :=
  ⟨"event list", encodeList list⟩

/-- How many operands of the same kind follow. -/
def count (length : Nat) : Field :=
  ⟨"argument count", Bytes.ofNatLE 4 length⟩

/-- The bytes of fields one after the other. -/
def spelled (fields : List Field) : Bytes :=
  fields.flatMap bytes

@[simp] theorem spelled_nil : spelled [] = [] := rfl

@[simp] theorem spelled_cons (field : Field) (fields : List Field) :
    spelled (field :: fields) = field.bytes ++ spelled fields := List.flatMap_cons

@[simp] theorem spelled_append (front back : List Field) :
    spelled (front ++ back) = spelled front ++ spelled back := List.flatMap_append

end Field

def LaunchArg.fields (arg : LaunchArg) : List Field :=
  [⟨"argument tag", [arg.tag.byte]⟩, .index "argument index" arg.index]

def Transfer.fields (t : Transfer) : List Field :=
  [.index "object index" t.object, .list t.list, .size "offset" t.offset, .size "batch size" t.batchSize]

def Launch.fields (l : Launch) : List Field :=
  [.index "call wrapper index" l.wrapper, .index "task index" l.task, .count l.args.length, .list l.list,
    .size "offset" l.offset, .size "batch threads" l.batchThreads] ++ l.args.flatMap LaunchArg.fields

namespace Instruction

def operandFields : Instruction → List Field
  | alloc batchSize objects =>
    [.size "batch size" batchSize, .count objects.length] ++ objects.map (.index "object index")
  | dealloc object => [.index "object index" object]
  | transfer _ operands => operands.fields
  | launch operands => operands.fields
  | addDependency list => [.list list]
  | onDevice object => [.index "object index" object]
  | barrier list => [.list list]
  | context device => [.index "device index" device]
  | beginPass => []
  | endPass => []

/-- All fields of an instruction in the order of its bytes. -/
def fields (i : Instruction) : List Field :=
  ⟨"opcode", [i.opcode.byte]⟩ :: i.operandFields

end Instruction

namespace Field

private theorem spelled_flatMap {α : Type} (layout : α → List Field) (values : List α) :
    spelled (values.flatMap layout) = values.flatMap fun a => spelled (layout a) := by
  induction values with
  | nil => rfl
  | cons a others ih => rw [List.flatMap_cons, spelled_append, ih, List.flatMap_cons]

private theorem spelled_arg (arg : LaunchArg) : spelled arg.fields = arg.encode := by
  simp [LaunchArg.fields, LaunchArg.encode, index]

private theorem spelled_transfer (t : Transfer) : spelled t.fields = t.encode := by
  simp [Transfer.fields, Transfer.encode, index, list, size]

private theorem spelled_launch (l : Launch) : spelled l.fields = l.encode := by
  simp [Launch.fields, Launch.encode, index, list, size, count, spelled_flatMap, spelled_arg]

private theorem spelled_operands (i : Instruction) : spelled i.operandFields = i.encodeOperands := by
  cases i with
  | alloc batchSize objects =>
    simp [Instruction.operandFields, Instruction.encodeOperands, index, size, count, spelled, List.flatMap_map]
  | transfer kind operands => exact spelled_transfer operands
  | launch operands => exact spelled_launch operands
  | _ => simp [Instruction.operandFields, Instruction.encodeOperands, index, list]

/-- The fields of an instruction are its encoding. -/
theorem spelled_fields (i : Instruction) : spelled i.fields = i.encode := by
  rw [Instruction.fields, spelled_cons, spelled_operands]
  rfl

end Field

/-- The error is about the word at an offset, read as the field of this name, and gives its value. -/
inductive DecodeError.Names : DecodeError → String → Nat → Bytes → Prop
  | opcode (byte : UInt8) (offset : Nat) : Names (.unknownOpcode byte offset) "opcode" offset [byte]
  | tag (byte : UInt8) (offset : Nat) :
    Names (.unknownArgumentTag byte offset) "argument tag" offset [byte]
  | operand (name : String) (offset : Nat) (word : Bytes) :
    Names (.negativeOperand name (signedWord word.length (Bytes.toNatLE word)) offset) name offset word

namespace Bytes

private theorem toNatLE_append (front back : Bytes) :
    toNatLE (front ++ back) = toNatLE front + capacity front.length * toNatLE back := by
  induction front with
  | nil => simp [toNatLE, capacity]
  | cons byte front ih =>
    rw [List.cons_append, toNatLE, ih, toNatLE, List.length_cons, capacity, Nat.mul_add, Nat.add_assoc,
      Nat.mul_assoc]

/-- A word whose last byte is zero is positive. -/
theorem spelled_positive (front : Bytes) :
    ∃ number, 2 * number < capacity (front.length + 1) ∧ ofNatLE (front.length + 1) number = front ++ [0] := by
  refine ⟨toNatLE (front ++ [0]), ?_, ?_⟩
  · have small := toNatLE_lt front
    rw [toNatLE_append, capacity]
    simp only [toNatLE, UInt8.toNat_zero]
    omega
  · have spelled := ofNatLE_toNatLE (front ++ [0])
    rwa [List.length_append] at spelled

end Bytes

namespace Cursor

open Offload.Field

variable {α β γ : Type} {c : Cursor}

/-- Which fields stand for which value. -/
abbrev Grammar (α : Type) := α → List Field → Prop

def Spells (grammar : Grammar α) (a : α) (front : Bytes) : Prop :=
  ∃ fields, grammar a fields ∧ front = spelled fields

/-- Bytes that could go on to spell something. -/
def Begins (grammar : Grammar α) (front : Bytes) : Prop :=
  ∃ a fields, grammar a fields ∧ front <+: spelled fields

/-- The ways in which reading stops: an error, and where the cursor is left. -/
inductive Stops (grammar : Grammar α) (c : Cursor) : DecodeError → Cursor → Prop
  /-- The bytes end within a field, and are those of a field up to there. -/
  | short {a : α} {front later : List Field} {field : Field} {part : Bytes} :
    grammar a (front ++ field :: later) → c.rest = spelled front ++ part → part <+: field.bytes →
    part.length < field.bytes.length →
    Stops grammar c (.truncated (c.position + (spelled front).length) field.bytes.length part.length)
      (c.advance (spelled front).length)
  /-- A word stands in the place of a field and differs from it in the last byte only, but with this
  byte nothing is spelled any more. -/
  | wrong {a : α} {front later : List Field} {field : Field} {word back : Bytes} {e : DecodeError} :
    grammar a (front ++ field :: later) → c.rest = spelled front ++ word ++ back →
    word.length = field.bytes.length → word.dropLast <+: field.bytes →
    ¬ Begins grammar (spelled front ++ word) →
    e.Names field.name (c.position + (spelled front).length) word →
    Stops grammar c e (c.advance (spelled front ++ word).length)

/-- The reader takes what the grammar spells, and stops within one of its fields otherwise. -/
structure Checks (reader : Decoder α) (grammar : Grammar α) : Prop where
  accepts : Accepts reader (Spells grammar)
  possible : ∃ a fields, grammar a fields
  stops : ∀ c e, (reader c).result = .error e → Stops grammar c e (reader c).state

variable {reader : Decoder α} {grammar : Grammar α}

/-- A reader checks every grammar that allows the same. -/
theorem checks_congr {other : Grammar α} (checks : Checks reader grammar)
    (same : ∀ a fields, grammar a fields ↔ other a fields) : Checks reader other := by
  obtain rfl : grammar = other := funext fun a => funext fun fields => propext (same a fields)
  exact checks

/-- Fields that are written in one way for each value. -/
theorem spells_written {good : α → Prop} {layout : α → List Field} {a : α} {front : Bytes} :
    Spells (fun a fields => good a ∧ fields = layout a) a front ↔ good a ∧ front = spelled (layout a) := by
  constructor
  · rintro ⟨_, ⟨held, rfl⟩, rfl⟩
    exact ⟨held, rfl⟩
  · rintro ⟨held, rfl⟩
    exact ⟨_, ⟨held, rfl⟩, rfl⟩

/-- Bytes spell at most one value from their beginning on. -/
theorem spelled_alone (accepts : Accepts reader (Spells grammar)) {a b : α} {fields others : List Field}
    {back behind : Bytes} (first : grammar a fields) (second : grammar b others)
    (same : spelled fields ++ back = spelled others ++ behind) : a = b ∧ spelled fields = spelled others := by
  let c := ofBytes (spelled fields ++ back)
  have ran := (accepts c a _).2 ⟨_, back, ⟨fields, first, rfl⟩, rfl, rfl⟩
  have again := (accepts c b _).2 ⟨_, behind, ⟨others, second, rfl⟩, same, rfl⟩
  have value := ran.1.symm.trans again.1
  have place : (spelled fields).length = (spelled others).length := by
    have reached := congrArg Cursor.position (ran.2.symm.trans again.2)
    simp only [advance] at reached
    omega
  exact ⟨Except.ok.inj value, (List.append_inj same place).1⟩

/-! ### Sequences -/

/-- The fields of one grammar behind those of the other. -/
def Followed (grammar : Grammar α) (following : α → Grammar β) : Grammar β := fun b fields =>
  ∃ a front back, grammar a front ∧ following a b back ∧ fields = front ++ back

section Followed

variable {following : α → Grammar β}

/-- Bytes that go on behind what one grammar spells have to go on as the other one says. -/
theorem begins_behind (accepts : Accepts reader (Spells grammar)) {a : α} {front : List Field} {back : Bytes}
    (first : grammar a front) (begins : Begins (Followed grammar following) (spelled front ++ back)) :
    Begins (following a) back := by
  obtain ⟨b, _, ⟨other, fields, later, second, follows, rfl⟩, rest, whole⟩ := begins
  rw [spelled_append, List.append_assoc] at whole
  obtain ⟨rfl, same⟩ := spelled_alone accepts first second whole
  rw [same, List.append_cancel_left_eq] at whole
  exact ⟨b, later, follows, rest, whole⟩

/-- What begins the sequence begins its first part, unless it is longer. -/
theorem begins_before (accepts : Accepts reader (Spells grammar)) {front back : Bytes}
    (ahead : c.rest = front ++ back) {e : DecodeError} (failed : (reader c).result = .error e)
    (begins : Begins (Followed grammar following) front) : Begins grammar front := by
  obtain ⟨b, _, ⟨a, fields, others, first, _, rfl⟩, whole⟩ := begins
  rw [spelled_append] at whole
  rcases List.prefix_or_prefix_of_prefix whole (List.prefix_append _ _) with short | ⟨rest, rfl⟩
  · exact ⟨a, fields, first, short⟩
  · -- Everything the reader asks for is there, so it cannot have failed.
    rw [List.append_assoc] at ahead
    have ran := (accepts c a _).2 ⟨_, _, ⟨fields, first, rfl⟩, ahead, rfl⟩
    rw [ran.1] at failed
    cases failed

/-- A stop of the first reader is a stop of the sequence. -/
theorem stops_before (accepts : Accepts reader (Spells grammar))
    (going : ∀ a, ∃ b fields, following a b fields) {e : DecodeError} {c' : Cursor}
    (failed : (reader c).result = .error e) (stopped : Stops grammar c e c') :
    Stops (Followed grammar following) c e c' := by
  cases stopped with
  | @short a front later field part spells ahead begun less =>
    obtain ⟨b, back, follows⟩ := going a
    have whole : Followed grammar following b (front ++ field :: (later ++ back)) :=
      ⟨a, _, back, spells, follows, by simp⟩
    exact .short whole ahead begun less
  | @wrong a front later field word back e spells ahead wide begun never names =>
    obtain ⟨b, others, follows⟩ := going a
    have whole : Followed grammar following b (front ++ field :: (later ++ others)) :=
      ⟨a, _, others, spells, follows, by simp⟩
    exact .wrong whole ahead wide begun (fun begins => never (begins_before accepts ahead failed begins)) names

/-- A stop of the second reader is a stop of the sequence, with the fields of the first before it. -/
theorem stops_behind (accepts : Accepts reader (Spells grammar)) {a : α} {fields : List Field} {back : Bytes}
    (first : grammar a fields) (ahead : c.rest = spelled fields ++ back) {e : DecodeError} {c' : Cursor}
    (stopped : Stops (following a) (c.advance (spelled fields).length) e c') :
    Stops (Followed grammar following) c e c' := by
  have behind := rest_behind ahead
  have place (others : List Field) : (c.advance (spelled fields).length).position + (spelled others).length =
      c.position + (spelled (fields ++ others)).length := by
    rw [spelled_append, List.length_append, ← Nat.add_assoc]
    rfl
  cases stopped with
  | @short b front later field part spells rest begun less =>
    have whole : Followed grammar following b ((fields ++ front) ++ field :: later) :=
      ⟨a, fields, _, first, spells, List.append_assoc _ _ _⟩
    rw [place, advance_advance, ← List.length_append, ← spelled_append]
    refine .short whole ?_ begun less
    rw [ahead, ← behind, rest, spelled_append, List.append_assoc]
  | @wrong b front later field word back' e spells rest wide begun never names =>
    have whole : Followed grammar following b ((fields ++ front) ++ field :: later) :=
      ⟨a, fields, _, first, spells, List.append_assoc _ _ _⟩
    rw [place] at names
    rw [advance_advance, ← List.length_append, ← List.append_assoc, ← spelled_append]
    have before : c.rest = spelled (fields ++ front) ++ word ++ back' := by
      rw [ahead, ← behind, rest, spelled_append]
      simp only [List.append_assoc]
    refine .wrong whole before wide begun (fun begins => ?_) names
    rw [spelled_append, List.append_assoc] at begins
    exact never (begins_behind accepts first begins)

end Followed

/-- Readers one after the other check the fields of both. -/
theorem checks_bind {following : α → Grammar β} {next : α → Decoder β} (head : Checks reader grammar)
    (tail : ∀ a, Checks (next a) (following a)) :
    Checks (reader >>= next) (Followed grammar following) where
  accepts := by
    refine accepts_congr (accepts_bind head.accepts fun a => (tail a).accepts) fun b front => ?_
    constructor
    · rintro ⟨a, _, _, ⟨fields, first, rfl⟩, ⟨others, second, rfl⟩, rfl⟩
      exact ⟨_, ⟨a, fields, others, first, second, rfl⟩, (spelled_append _ _).symm⟩
    · rintro ⟨_, ⟨a, fields, others, first, second, rfl⟩, rfl⟩
      exact ⟨a, _, _, ⟨fields, first, rfl⟩, ⟨others, second, rfl⟩, spelled_append _ _⟩
  possible := by
    obtain ⟨a, fields, first⟩ := head.possible
    obtain ⟨b, others, second⟩ := (tail a).possible
    exact ⟨b, _, a, fields, others, first, second, rfl⟩
  stops := by
    intro c e failed
    rcases ran : (reader c).result with e' | a
    · obtain rfl : e' = e := Except.error.inj ((Op.bind_of_failed ran).1.symm.trans failed)
      rw [(Op.bind_of_failed ran).2]
      exact stops_before head.accepts (fun a => (tail a).possible) ran (head.stops c e' ran)
    · have yields : Op.Yields reader c a (reader c).state := ⟨ran, rfl⟩
      obtain ⟨_, back, ⟨fields, first, rfl⟩, ahead, reached⟩ := (head.accepts _ _ _).1 yields
      rw [(Op.bind_of_yields yields).1, reached] at failed
      rw [(Op.bind_of_yields yields).2, reached]
      exact stops_behind head.accepts first ahead ((tail a).stops _ e failed)

theorem checks_pure (a : α) : Checks (pure a) fun b fields => a = b ∧ fields = [] where
  accepts := by
    refine accepts_congr (accepts_pure a) fun b front => ?_
    constructor
    · rintro ⟨same, rfl⟩
      exact ⟨[], ⟨same, rfl⟩, rfl⟩
    · rintro ⟨_, ⟨same, rfl⟩, rfl⟩
      exact ⟨same, rfl⟩
  possible := ⟨a, [], rfl, rfl⟩
  stops := by
    intro c e failed
    cases failed

/-- The same behind fields that are written in one way for each value. -/
theorem checks_written {following : α → Grammar β} {next : α → Decoder β} {good : α → Prop}
    {layout : α → List Field} (head : Checks reader fun a fields => good a ∧ fields = layout a)
    (tail : ∀ a, Checks (next a) (following a)) :
    Checks (reader >>= next) fun b fields =>
      ∃ a back, good a ∧ following a b back ∧ fields = layout a ++ back := by
  refine checks_congr (checks_bind head tail) fun b fields => ?_
  constructor
  · rintro ⟨a, _, back, ⟨held, rfl⟩, follows, rfl⟩
    exact ⟨a, back, held, follows, rfl⟩
  · rintro ⟨a, back, held, follows, rfl⟩
    exact ⟨a, _, back, ⟨held, rfl⟩, follows, rfl⟩

/-- What wraps the values of a reader wraps those of its layout. -/
theorem checks_wrapped {wrap : α → β} {good : α → Prop} {layout : α → List Field}
    (checks : Checks reader fun a fields => good a ∧ fields = layout a) :
    Checks (wrap <$> reader) fun b fields => ∃ a, wrap a = b ∧ good a ∧ fields = layout a := by
  refine checks_congr (checks_written checks fun a => checks_pure (wrap a)) fun b fields => ?_
  constructor
  · rintro ⟨a, _, held, ⟨same, rfl⟩, rfl⟩
    exact ⟨a, same, held, List.append_nil _⟩
  · rintro ⟨a, same, held, rfl⟩
    exact ⟨a, [], held, ⟨same, rfl⟩, (List.append_nil _).symm⟩

/-! ### Single fields -/

/-- Bytes that end within the only field. -/
theorem stops_only_short {a : α} {field : Field} (spells : grammar a [field]) (begun : c.rest <+: field.bytes)
    (less : c.rest.length < field.bytes.length) :
    Stops grammar c (.truncated c.position field.bytes.length c.rest.length) c :=
  have whole : grammar a ([] ++ field :: []) := spells
  .short whole rfl begun less

/-- A word that the only field cannot have. -/
theorem stops_only_wrong {a : α} {field : Field} {word back : Bytes} {e : DecodeError}
    (spells : grammar a [field]) (ahead : c.rest = word ++ back) (width : word.length = field.bytes.length)
    (begun : word.dropLast <+: field.bytes) (never : ¬ Begins grammar word)
    (names : e.Names field.name c.position word) : Stops grammar c e (c.advance word.length) :=
  have whole : grammar a ([] ++ field :: []) := spells
  .wrong whole ahead width begun never names

/-- Bytes as many as the only field has begin nothing, if reading them fails. -/
theorem begins_only (accepts : Accepts reader (Spells grammar)) {word back : Bytes} {e : DecodeError}
    (wide : ∀ a fields, grammar a fields → (spelled fields).length = word.length)
    (ahead : c.rest = word ++ back) (failed : (reader c).result = .error e) : ¬ Begins grammar word := by
  rintro ⟨a, fields, spells, begins⟩
  obtain rfl := begins.eq_of_length (wide a fields spells).symm
  rw [((accepts c a _).2 ⟨_, back, ⟨fields, spells, rfl⟩, ahead, rfl⟩).1] at failed
  cases failed

/-- A reader of a single field checks it, if it wants as many bytes as the field has, refuses only words
of the field, and any bytes that are followed by the right last one are a field. -/
theorem checks_field (name : String) (width : Nat) (accepts : Accepts reader (Spells grammar))
    (wide : ∀ a fields, grammar a fields → (spelled fields).length = width + 1)
    (completed : ∀ front : Bytes, front.length = width → ∃ a last, grammar a [⟨name, front ++ [last]⟩])
    (ends : ∀ c e, (reader c).result = .error e → c.rest.length < width + 1 →
      e = .truncated c.position (width + 1) c.rest.length ∧ (reader c).state = c)
    (refuses : ∀ c e, (reader c).result = .error e → width + 1 ≤ c.rest.length →
      e.Names name c.position (c.rest.take (width + 1)) ∧ (reader c).state = c.advance (width + 1)) :
    Checks reader grammar where
  accepts := accepts
  possible := by
    obtain ⟨a, last, spells⟩ := completed (Bytes.zeros width) (Bytes.length_zeros width)
    exact ⟨a, _, spells⟩
  stops := by
    intro c e failed
    by_cases less : c.rest.length < width + 1
    · -- Zeros up to the last byte go on with what is there.
      obtain ⟨rfl, same⟩ := ends c e failed less
      have length : (c.rest ++ Bytes.zeros (width - c.rest.length)).length = width := by
        rw [List.length_append, Bytes.length_zeros]
        omega
      obtain ⟨a, last, spells⟩ := completed _ length
      have stopped := stops_only_short (c := c) spells
        ⟨_, (List.append_assoc c.rest (Bytes.zeros _) [last]).symm⟩ (by
          rw [List.length_append, length]
          exact less)
      rw [List.length_append, length] at stopped
      rw [same]
      exact stopped
    · obtain ⟨names, same⟩ := refuses c e failed (by omega)
      have length : (c.rest.take (width + 1)).length = width + 1 := by
        rw [List.length_take]
        omega
      have ahead := (List.take_append_drop (width + 1) c.rest).symm
      obtain ⟨a, last, spells⟩ := completed (c.rest.take (width + 1)).dropLast (by
        rw [List.length_dropLast, length, Nat.add_sub_cancel])
      have never : ¬ Begins grammar (c.rest.take (width + 1)) :=
        begins_only accepts (fun a fields held => by rw [wide a fields held, length]) ahead failed
      have stopped := stops_only_wrong spells ahead (by simp [length]) (List.prefix_append _ _) never names
      rw [length] at stopped
      rw [same]
      exact stopped

/-- A word with a sign. -/
def readSigned (width : Nat) : Decoder Int := do
  let bytes ← take width
  pure (signedWord width (Bytes.toNatLE bytes))

/-- A word with a sign, of which some are refused. -/
def operand (width : Nat) (name : String) (bad : Int → Prop) [DecidablePred bad] (make : Int → α) :
    Decoder α := do
  let offset ← Op.gets position
  let value ← readSigned width
  if bad value then Op.fail (.negativeOperand name value offset) else pure (make value)

private theorem operand_failed {width : Nat} {name : String} {bad : Int → Prop} [DecidablePred bad] {make : Int → α}
    {c : Cursor} {e : DecodeError} (failed : (operand width name bad make c).result = .error e) :
    (c.rest.length < width → e = .truncated c.position width c.rest.length ∧
      (operand width name bad make c).state = c) ∧
    (width ≤ c.rest.length → e.Names name c.position (c.rest.take width) ∧
      (operand width name bad make c).state = c.advance width) := by
  have run : operand width name bad make c = if c.rest.length < width
      then ⟨.error (.truncated c.position width c.rest.length), c, []⟩
      else if bad (signedWord width (Bytes.toNatLE (c.rest.take width)))
        then ⟨.error (.negativeOperand name (signedWord width (Bytes.toNatLE (c.rest.take width))) c.position),
          c.advance width, []⟩
        else ⟨.ok (make (signedWord width (Bytes.toNatLE (c.rest.take width)))), c.advance width, []⟩ := by
    rw [length_rest]
    by_cases less : c.remaining < width
    · simp [operand, readSigned, Op.bind_run, Op.gets, take, Op.step, less]
    · by_cases refused : bad (signedWord width (Bytes.toNatLE (c.rest.take width)))
      · simp [operand, readSigned, Op.bind_run, Op.gets, take, Op.step, less, refused, Op.fail, advance]
      · simp [operand, readSigned, Op.bind_run, Op.gets, take, Op.step, less, refused, advance]
  rw [run] at failed ⊢
  constructor
  · intro less
    rw [if_pos less] at failed ⊢
    exact ⟨(Except.error.inj failed).symm, rfl⟩
  · intro enough
    rw [if_neg (by omega)] at failed ⊢
    split at failed
    · next refused =>
      rw [if_pos refused]
      have length : (c.rest.take width).length = width := by
        rw [List.length_take]
        omega
      cases failed
      refine ⟨?_, rfl⟩
      have names := DecodeError.Names.operand name c.position (c.rest.take width)
      rwa [length] at names
    · cases failed

/-- A positive word is a field. -/
theorem checks_operand {width : Nat} {name : String} {bad : Int → Prop} [DecidablePred bad] {make : Int → α}
    (accepts : Accepts (operand (width + 1) name bad make) (Spells grammar))
    (wide : ∀ a fields, grammar a fields → (spelled fields).length = width + 1)
    (clear : ∀ number, 2 * number < Bytes.capacity (width + 1) →
      ∃ a, grammar a [⟨name, Bytes.ofNatLE (width + 1) number⟩]) :
    Checks (operand (width + 1) name bad make) grammar := by
  refine checks_field name width accepts wide (fun front length => ?_)
    (fun c e failed less => (operand_failed failed).1 less)
    fun c e failed enough => (operand_failed failed).2 enough
  subst length
  obtain ⟨number, small, same⟩ := Bytes.spelled_positive front
  obtain ⟨a, spells⟩ := clear number small
  rw [same] at spells
  exact ⟨a, 0, spells⟩

private theorem readIndex_operand (name : String) :
    readIndex name = operand 4 name (· < 0) fun value => UInt32.ofNat value.toNat := rfl

private theorem readSize_operand (name : String) :
    readSize name = operand 8 name (· < 0) fun value => UInt64.ofNat value.toNat := rfl

/-- Minus one is the only sign that is not refused. -/
theorem readList_operand : readList = operand 4 "event list" (fun value => value < 0 ∧ value ≠ -1)
    fun value => if value = -1 then none else some (UInt32.ofNat value.toNat) := by
  show (Op.gets position >>= fun offset => readSigned 4 >>= fun value => _) =
    Op.gets position >>= fun offset => readSigned 4 >>= fun value => _
  congr 1
  funext offset
  congr 1
  funext value
  by_cases none : value = -1
  · simp [none]
  · simp [none]

/-- An index is laid out in one field. -/
theorem checks_readIndex (name : String) : Checks (readIndex name) fun index fields =>
    IndexEncodable index ∧ fields = [Field.index name index] := by
  rw [readIndex_operand]
  refine checks_operand ?_ ?_ fun number small => ?_
  · refine accepts_congr (accepts_readIndex name) fun index front => ?_
    rw [spells_written]
    simp [Field.index]
  · rintro index _ ⟨_, rfl⟩
    simp [Field.index]
  · obtain ⟨encodable, same⟩ := index_iff.1 ⟨number, small, rfl, rfl⟩
    exact ⟨UInt32.ofNat number, encodable, by rw [same, Field.index]⟩

/-- A size is laid out in one field. -/
theorem checks_readSize (name : String) : Checks (readSize name) fun size fields =>
    SizeEncodable size ∧ fields = [Field.size name size] := by
  rw [readSize_operand]
  refine checks_operand ?_ ?_ fun number small => ?_
  · refine accepts_congr (accepts_readSize name) fun size front => ?_
    rw [spells_written]
    simp [Field.size]
  · rintro size _ ⟨_, rfl⟩
    simp [Field.size]
  · obtain ⟨encodable, same⟩ := size_iff.1 ⟨number, small, rfl, rfl⟩
    exact ⟨UInt64.ofNat number, encodable, by rw [same, Field.size]⟩

/-- A list is laid out in one field. -/
theorem checks_readList : Checks readList fun list fields =>
    ListEncodable list ∧ fields = [Field.list list] := by
  rw [readList_operand]
  refine checks_operand ?_ ?_ fun number small => ?_
  · rw [← readList_operand]
    refine accepts_congr accepts_readList fun list front => ?_
    rw [spells_written]
    simp [Field.list]
  · rintro list _ ⟨_, rfl⟩
    simp [Field.list, encodeList]
  · obtain ⟨encodable, same⟩ := index_iff.1 ⟨number, small, rfl, rfl⟩
    refine ⟨some (UInt32.ofNat number), fun index held => ?_, ?_⟩
    · obtain rfl := Option.mem_some_iff.1 held
      exact encodable
    · rw [same]
      rfl

/-- A byte that stands for something. -/
def readCode (code? : UInt8 → Option α) (unknown : UInt8 → Nat → DecodeError) : Decoder α := do
  let offset ← Op.gets position
  let byte ← readByte
  match code? byte with
  | none => Op.fail (unknown byte offset)
  | some code => pure code

private theorem readCode_failed {code? : UInt8 → Option α} {unknown : UInt8 → Nat → DecodeError} {e : DecodeError}
    (failed : (readCode code? unknown c).result = .error e) :
    (c.rest = [] ∧ e = .truncated c.position 1 0 ∧ (readCode code? unknown c).state = c) ∨
    ∃ byte back, c.rest = byte :: back ∧ e = unknown byte c.position ∧
      (readCode code? unknown c).state = c.advance 1 := by
  have length := length_rest c
  rcases ahead : c.rest with _ | ⟨byte, back⟩
  · rw [ahead] at length
    have run : readCode code? unknown c = ⟨.error (.truncated c.position 1 0), c, []⟩ := by
      simp [readCode, Op.bind_run, Op.gets, readByte, take, Op.step, ← length]
    rw [run] at failed ⊢
    exact .inl ⟨rfl, (Except.error.inj failed).symm, rfl⟩
  · rw [ahead] at length
    have read : UInt8.ofNat (Bytes.toNatLE [byte]) = byte := by simp [Bytes.toNatLE]
    rcases found : code? byte with _ | a
    · have run : readCode code? unknown c = ⟨.error (unknown byte c.position), c.advance 1, []⟩ := by
        simp [readCode, Op.bind_run, Op.gets, readByte, take, Op.step, ← length, ahead, read, found, Op.fail,
          advance]
      rw [run] at failed ⊢
      exact .inr ⟨byte, back, rfl, (Except.error.inj failed).symm, rfl⟩
    · have run : readCode code? unknown c = ⟨.ok a, c.advance 1, []⟩ := by
        simp [readCode, Op.bind_run, Op.gets, readByte, take, Op.step, ← length, ahead, read, found, advance]
      rw [run] at failed
      cases failed

private theorem accepts_readCode {code? : UInt8 → Option α} {unknown : UInt8 → Nat → DecodeError} :
    Accepts (readCode code? unknown) fun a front => ∃ byte, code? byte = some a ∧ front = [byte] := by
  refine accepts_position fun offset => accepts_congr (accepts_bind accepts_readByte fun byte =>
    show Accepts _ fun a front => code? byte = some a ∧ front = [] from ?_) fun a front => ?_
  · rcases code? byte with _ | a
    · exact accepts_congr (accepts_fail _) fun a front => by simp
    · exact accepts_congr (accepts_pure a) fun b front => by simp
  · constructor
    · rintro ⟨byte, _, _, rfl, ⟨found, rfl⟩, rfl⟩
      exact ⟨byte, found, rfl⟩
    · rintro ⟨byte, found, rfl⟩
      exact ⟨byte, [byte], [], rfl, ⟨found, rfl⟩, rfl⟩

/-- The codes and their bytes correspond, and the error for any other byte names it. -/
theorem checks_readCode {code? : UInt8 → Option α} {unknown : UInt8 → Nat → DecodeError} {name : String}
    {byteOf : α → UInt8} (some' : α) (known : ∀ {byte a}, code? byte = some a ↔ byteOf a = byte)
    (named : ∀ byte offset, (unknown byte offset).Names name offset [byte]) :
    Checks (readCode code? unknown) fun a fields => True ∧ fields = [⟨name, [byteOf a]⟩] := by
  refine checks_field name 0 ?_ ?_ ?_ ?_ ?_
  · refine accepts_congr accepts_readCode fun a front => ?_
    rw [spells_written]
    simp only [known, exists_eq_left', true_and, spelled_cons, spelled_nil, List.append_nil]
  · rintro a _ ⟨_, rfl⟩
    rfl
  · intro front empty
    obtain rfl := List.length_eq_zero_iff.1 empty
    exact ⟨some', byteOf some', trivial, rfl⟩
  · intro c e failed less
    rcases readCode_failed failed with ⟨empty, rfl, same⟩ | ⟨byte, back, ahead, _⟩
    · rw [empty]
      exact ⟨rfl, same⟩
    · rw [ahead] at less
      simp at less
  · intro c e failed more
    rcases readCode_failed failed with ⟨empty, _⟩ | ⟨byte, back, ahead, rfl, same⟩
    · rw [empty] at more
      simp at more
    · rw [ahead]
      exact ⟨named byte c.position, same⟩

/-- A reader that looks a byte up first and goes on with what it stands for. -/
theorem readCode_bind {code? : UInt8 → Option α} {unknown : UInt8 → Nat → DecodeError} {next : α → Decoder β}
    {chosen : UInt8 → Nat → Decoder β}
    (absent : ∀ byte offset, code? byte = none → chosen byte offset = Op.fail (unknown byte offset))
    (present : ∀ byte offset a, code? byte = some a → chosen byte offset = next a) :
    (Op.gets position >>= fun offset => readByte >>= fun byte => chosen byte offset) =
      (readCode code? unknown >>= next) := by
  unfold readCode
  rw [Op.bind_assoc]
  congr 1
  funext offset
  rw [Op.bind_assoc]
  congr 1
  funext byte
  rcases found : code? byte with _ | a
  · exact absent byte offset found
  · exact present byte offset a found

end Cursor
end Offload
