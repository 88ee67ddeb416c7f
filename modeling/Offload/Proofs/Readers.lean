import Offload.Code.Decode
import Offload.Proofs.Operations

/-! Readers and what they take. A reader accepts a grammar: which bytes it takes for which value. Readers in
sequence accept one grammar behind the other, and each reader of an operand accepts the words that spell a
value of it. -/
namespace Offload

namespace Bytes

/-- A number that fits has one spelling of each width. -/
theorem eq_ofNatLE_iff {width value : Nat} {bytes : Bytes} (fits : value < capacity width) :
    bytes = ofNatLE width value ↔ bytes.length = width ∧ toNatLE bytes = value := by
  constructor
  · rintro rfl
    exact ⟨length_ofNatLE _ _, by rw [toNatLE_ofNatLE, Nat.mod_eq_of_lt fits]⟩
  · rintro ⟨rfl, rfl⟩
    exact (ofNatLE_toNatLE bytes).symm

/-- A signed word without its sign bit is read as the number that was written. -/
theorem signedWord_iff {width value : Nat} {bytes : Bytes} :
    bytes.length = width ∧ signedWord width (toNatLE bytes) = value ↔
      2 * value < capacity width ∧ bytes = ofNatLE width value := by
  constructor
  · rintro ⟨rfl, read⟩
    have small := toNatLE_lt bytes
    unfold signedWord at read
    split at read
    · next positive =>
      have same : toNatLE bytes = value := by omega
      subst same
      exact ⟨positive, (ofNatLE_toNatLE bytes).symm⟩
    · omega
  · rintro ⟨positive, spelled⟩
    obtain ⟨length, same⟩ := (eq_ofNatLE_iff (by omega)).1 spelled
    exact ⟨length, by rw [same, signedWord, if_pos positive]⟩

end Bytes

namespace Cursor

variable {α β : Type} {c : Cursor} {front back : Bytes}

/-- The cursor some bytes further on. -/
def advance (c : Cursor) (count : Nat) : Cursor :=
  { c with position := c.position + count }

/-- To advance twice is to advance by the sum. -/
theorem advance_advance (c : Cursor) (first second : Nat) :
    (c.advance first).advance second = c.advance (first + second) := by
  simp only [advance, Nat.add_assoc]

theorem length_rest (c : Cursor) : c.rest.length = c.remaining :=
  List.length_drop

private theorem rest_advance (c : Cursor) (count : Nat) : (c.advance count).rest = c.rest.drop count := by
  simp only [rest, advance, List.drop_drop]

/-- Behind the front there is the back. -/
theorem rest_behind (ahead : c.rest = front ++ back) : (c.advance front.length).rest = back := by
  rw [rest_advance, ahead, List.drop_left]

/-- The reader gives a value exactly when bytes of its grammar lie ahead, and stops behind them. -/
def Accepts (reader : Decoder α) (grammar : α → Bytes → Prop) : Prop :=
  ∀ c a c', Op.Yields reader c a c' ↔
    ∃ front back, grammar a front ∧ c.rest = front ++ back ∧ c' = c.advance front.length

variable {reader : Decoder α} {grammar : α → Bytes → Prop}

/-- A reader accepts every grammar that allows the same. -/
theorem accepts_congr {other : α → Bytes → Prop} (accepts : Accepts reader grammar)
    (same : ∀ a front, grammar a front ↔ other a front) : Accepts reader other := by
  intro c a c'
  rw [accepts c a c']
  simp only [same]

theorem accepts_pure (value : α) :
    Accepts (pure value) fun a front => value = a ∧ front = [] := by
  intro c a c'
  rw [Op.yields_pure]
  constructor
  · rintro ⟨same, rfl⟩
    exact ⟨[], c.rest, ⟨same, rfl⟩, rfl, rfl⟩
  · rintro ⟨_, back, ⟨same, rfl⟩, _, rfl⟩
    exact ⟨same, rfl⟩

theorem accepts_fail (e : DecodeError) : Accepts (Op.fail e) fun (_ : α) _ => False := by
  intro c a c'
  simp

/-- A sequence of readers takes the bytes of one behind those of the other. -/
theorem accepts_bind {next : α → Decoder β} {following : α → β → Bytes → Prop}
    (head : Accepts reader grammar) (tail : ∀ a, Accepts (next a) (following a)) :
    Accepts (reader >>= next) fun b front =>
      ∃ a first second, grammar a first ∧ following a b second ∧ front = first ++ second := by
  intro c b c'
  rw [Op.yields_bind]
  constructor
  · rintro ⟨a, middle, ran, later⟩
    obtain ⟨first, rest, inFirst, ahead, rfl⟩ := (head c a middle).1 ran
    obtain ⟨second, back, inSecond, behind, rfl⟩ := (tail a _ b c').1 later
    rw [rest_behind ahead] at behind
    refine ⟨first ++ second, back, ⟨a, first, second, inFirst, inSecond, rfl⟩, ?_, ?_⟩
    · rw [ahead, behind, List.append_assoc]
    · rw [advance_advance, List.length_append]
  · rintro ⟨_, back, ⟨a, first, second, inFirst, inSecond, rfl⟩, ahead, rfl⟩
    rw [List.append_assoc] at ahead
    refine ⟨a, c.advance first.length, (head _ _ _).2 ⟨first, _, inFirst, ahead, rfl⟩, ?_⟩
    refine (tail _ _ _ _).2 ⟨second, back, inSecond, rest_behind ahead, ?_⟩
    rw [advance_advance, List.length_append]

/-- Where a reader starts has no part in what it takes; offsets only go into errors. -/
theorem accepts_position {next : Nat → Decoder α} (accepts : ∀ offset, Accepts (next offset) grammar) :
    Accepts (Op.gets position >>= next) grammar := by
  intro c a c'
  rw [← accepts c.position c a c', Op.yields_bind]
  constructor
  · rintro ⟨_, _, looked, ran⟩
    obtain ⟨rfl, rfl⟩ := Op.yields_gets.1 looked
    exact ran
  · intro ran
    exact ⟨_, c, Op.yields_gets.2 ⟨rfl, rfl⟩, ran⟩

private theorem accepts_ite {p : Prop} [Decidable p] {yes no : Decoder α} {left right : α → Bytes → Prop}
    (first : Accepts yes left) (second : Accepts no right) :
    Accepts (if p then yes else no) fun a front => if p then left a front else right a front := by
  split
  · exact first
  · exact second

/-! ### Operands -/

/-- Bytes are taken as they are. -/
theorem accepts_take (count : Nat) :
    Accepts (take count) fun bytes front => front.length = count ∧ bytes = front := by
  intro c bytes c'
  simp only [take, Op.yields_step]
  split
  · next short =>
    rw [← length_rest] at short
    constructor
    · intro ran
      cases ran
    · rintro ⟨front, back, ⟨rfl, _⟩, ahead, _⟩
      rw [ahead, List.length_append] at short
      omega
  · next enough =>
    rw [← length_rest] at enough
    simp only [Except.ok.injEq, Prod.mk.injEq]
    constructor
    · rintro ⟨rfl, rfl⟩
      have length : (c.rest.take count).length = count := by
        rw [List.length_take]
        omega
      exact ⟨_, c.rest.drop count, ⟨length, rfl⟩, (List.take_append_drop _ _).symm, by rw [length]; rfl⟩
    · rintro ⟨front, back, ⟨rfl, rfl⟩, ahead, rfl⟩
      exact ⟨by rw [ahead, List.take_left], rfl⟩

/-- A value that is computed from the next bytes. -/
theorem accepts_takeMap (count : Nat) (f : Bytes → α) :
    Accepts (do let bytes ← take count; pure (f bytes)) fun a front =>
      front.length = count ∧ f front = a := by
  refine accepts_congr (accepts_bind (accepts_take count) fun bytes => accepts_pure (f bytes)) ?_
  intro a front
  constructor
  · rintro ⟨_, first, _, ⟨length, rfl⟩, ⟨same, rfl⟩, rfl⟩
    rw [List.append_nil]
    exact ⟨length, same⟩
  · rintro ⟨length, same⟩
    exact ⟨front, front, [], ⟨length, rfl⟩, ⟨same, rfl⟩, (List.append_nil _).symm⟩

/-- One byte is read as it is. -/
theorem accepts_readByte : Accepts readByte fun byte front => front = [byte] := by
  refine accepts_congr (accepts_takeMap 1 fun bytes => UInt8.ofNat (Bytes.toNatLE bytes)) ?_
  intro byte front
  constructor
  · rintro ⟨length, rfl⟩
    obtain ⟨only, rfl⟩ := List.length_eq_one_iff.1 length
    simp [Bytes.toNatLE]
  · rintro rfl
    simp [Bytes.toNatLE]

/-- An operand that may not be negative: its sign bit is clear, and the other bits spell it. -/
theorem accepts_natural {width : Nat} {signed : Decoder Int} {make : Nat → α} {field : String}
    (accepts : Accepts signed fun value front =>
      front.length = width ∧ signedWord width (Bytes.toNatLE front) = value) :
    Accepts (do
        let offset ← Op.gets position
        let value ← signed
        if value < 0 then Op.fail (.negativeOperand field value offset) else pure (make value.toNat))
      fun a front => ∃ number, 2 * number < Bytes.capacity width ∧ make number = a ∧
        front = Bytes.ofNatLE width number := by
  refine accepts_position fun offset => ?_
  refine accepts_congr (accepts_bind accepts fun value =>
    accepts_ite (accepts_fail _) (accepts_pure (make value.toNat))) fun a front => ?_
  constructor
  · rintro ⟨value, first, second, read, rest, rfl⟩
    split at rest
    · cases rest
    obtain ⟨made, rfl⟩ := rest
    obtain ⟨number, rfl⟩ : ∃ number : Nat, value = number := ⟨value.toNat, by omega⟩
    obtain ⟨positive, rfl⟩ := Bytes.signedWord_iff.1 read
    exact ⟨number, positive, made, List.append_nil _⟩
  · rintro ⟨number, positive, made, rfl⟩
    refine ⟨number, _, [], Bytes.signedWord_iff.2 ⟨positive, rfl⟩, ?_, (List.append_nil _).symm⟩
    rw [if_neg (by omega)]
    exact ⟨made, rfl⟩

/-- Four bytes are read as a signed word. -/
theorem accepts_readInt32 : Accepts readInt32 fun value front =>
    front.length = 4 ∧ signedWord 4 (Bytes.toNatLE front) = value :=
  accepts_takeMap 4 fun bytes => signedWord 4 (Bytes.toNatLE bytes)

/-- Eight bytes are read as a signed word. -/
theorem accepts_readInt64 : Accepts readInt64 fun value front =>
    front.length = 8 ∧ signedWord 8 (Bytes.toNatLE front) = value :=
  accepts_takeMap 8 fun bytes => signedWord 8 (Bytes.toNatLE bytes)

/-- The 32-bit words that spell an index. -/
theorem index_iff {index : UInt32} :
    (∃ number, 2 * number < Bytes.capacity 4 ∧ UInt32.ofNat number = index ∧
      front = Bytes.ofNatLE 4 number) ↔
      IndexEncodable index ∧ front = Bytes.ofNatLE 4 index.toNat := by
  have width : Bytes.capacity 4 = 2 ^ 32 := rfl
  constructor
  · rintro ⟨number, positive, rfl, rfl⟩
    rw [IndexEncodable, UInt32.toNat_ofNat', Nat.mod_eq_of_lt (by omega)]
    exact ⟨by omega, rfl⟩
  · rintro ⟨encodable, rfl⟩
    unfold IndexEncodable at encodable
    exact ⟨index.toNat, by omega, UInt32.ofNat_toNat, rfl⟩

/-- The 64-bit words that spell a size. -/
theorem size_iff {size : UInt64} :
    (∃ number, 2 * number < Bytes.capacity 8 ∧ UInt64.ofNat number = size ∧
      front = Bytes.ofNatLE 8 number) ↔
      SizeEncodable size ∧ front = Bytes.ofNatLE 8 size.toNat := by
  have width : Bytes.capacity 8 = 2 ^ 64 := rfl
  constructor
  · rintro ⟨number, positive, rfl, rfl⟩
    rw [SizeEncodable, UInt64.toNat_ofNat', Nat.mod_eq_of_lt (by omega)]
    exact ⟨by omega, rfl⟩
  · rintro ⟨encodable, rfl⟩
    unfold SizeEncodable at encodable
    exact ⟨size.toNat, by omega, UInt64.ofNat_toNat, rfl⟩

/-- An index is read from the word that spells it. -/
theorem accepts_readIndex (field : String) : Accepts (readIndex field) fun index front =>
    IndexEncodable index ∧ front = Bytes.ofNatLE 4 index.toNat :=
  accepts_congr (accepts_natural accepts_readInt32) fun _ _ => index_iff

/-- A size is read from the word that spells it. -/
theorem accepts_readSize (field : String) : Accepts (readSize field) fun size front =>
    SizeEncodable size ∧ front = Bytes.ofNatLE 8 size.toNat :=
  accepts_congr (accepts_natural accepts_readInt64) fun _ _ => size_iff

/-- Minus one is spelled by one word. -/
theorem minusOne_iff :
    front.length = 4 ∧ signedWord 4 (Bytes.toNatLE front) = -1 ↔
      front = Bytes.ofNatLE 4 0xffffffff := by
  have width : Bytes.capacity 4 = 2 ^ 32 := rfl
  rw [Bytes.eq_ofNatLE_iff (by omega)]
  refine and_congr_right fun length => ?_
  have small := Bytes.toNatLE_lt front
  rw [length] at small
  unfold signedWord
  split <;> omega

/-- A list is read from the word that spells it, or none from the word for none. -/
theorem accepts_readList : Accepts readList fun list front =>
    ListEncodable list ∧ front = encodeList list := by
  refine accepts_position fun offset => ?_
  refine accepts_congr (accepts_bind accepts_readInt32 fun value =>
    accepts_ite (accepts_pure none) (accepts_ite (accepts_fail _)
      (accepts_pure (some (UInt32.ofNat value.toNat))))) fun list front => ?_
  cases list with
  | none =>
    simp only [ListEncodable, Option.not_mem_none, false_implies, implies_true, true_and]
    show _ ↔ front = Bytes.ofNatLE 4 0xffffffff
    rw [← minusOne_iff]
    constructor
    · rintro ⟨value, first, second, read, rest, rfl⟩
      split at rest
      · next same =>
        obtain ⟨_, rfl⟩ := rest
        rw [List.append_nil, ← same]
        exact read
      · split at rest
        · cases rest
        · cases rest.1
    · intro read
      exact ⟨-1, front, [], read, by simp, (List.append_nil _).symm⟩
  | some index =>
    show _ ↔ (∀ other ∈ some index, IndexEncodable other) ∧ front = Bytes.ofNatLE 4 index.toNat
    simp only [Option.mem_some_iff, forall_eq']
    rw [← index_iff]
    constructor
    · rintro ⟨value, first, second, read, rest, rfl⟩
      split at rest
      · cases rest.1
      split at rest
      · cases rest
      obtain ⟨same, rfl⟩ := rest
      obtain ⟨number, rfl⟩ : ∃ number : Nat, value = number := ⟨value.toNat, by omega⟩
      obtain ⟨positive, rfl⟩ := Bytes.signedWord_iff.1 read
      exact ⟨number, positive, Option.some.inj same, List.append_nil _⟩
    · rintro ⟨number, positive, rfl, rfl⟩
      refine ⟨number, _, [], Bytes.signedWord_iff.2 ⟨positive, rfl⟩, ?_, (List.append_nil _).symm⟩
      rw [if_neg (by omega), if_neg (by omega)]
      exact ⟨rfl, rfl⟩

end Cursor

end Offload
