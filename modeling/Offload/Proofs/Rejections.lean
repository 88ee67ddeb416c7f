import Offload.Proofs.Encoding

/-! Why bytes are no instruction. Decoding checks the layout of instructions, so that it runs out of bytes
exactly where they could go on to an encodable instruction, and otherwise refuses the first field, from
the left, that makes this impossible. -/
namespace Offload

namespace Instruction

open Cursor Offload.Field

/-- Bytes with which an encodable instruction can begin. -/
def Begun (front : Bytes) : Prop :=
  ∃ i : Instruction, i.Encodable ∧ front <+: i.encode

/-- The error names the first field that no encoding has at its place: the fields before it are those of
an encodable instruction, and so are all bytes up to the last one of this field. -/
def Refused (c : Cursor) (e : DecodeError) : Prop :=
  ∃ (i : Instruction) (front later : List Field) (field : Field) (word back : Bytes),
    i.Encodable ∧ i.fields = front ++ field :: later ∧ c.rest = spelled front ++ word ++ back ∧
    word.length = field.bytes.length ∧ e.Names field.name (c.position + (spelled front).length) word ∧
    Begun (spelled front ++ word.dropLast) ∧ ¬ Begun (spelled front ++ word)

private theorem begins_iff {front : Bytes} :
    Begins (fun i fields => i.Encodable ∧ fields = Instruction.fields i) front ↔ Begun front := by
  constructor
  · rintro ⟨i, _, ⟨encodable, rfl⟩, begins⟩
    exact ⟨i, encodable, by rwa [spelled_fields] at begins⟩
  · rintro ⟨i, encodable, begins⟩
    exact ⟨i, _, ⟨encodable, rfl⟩, by rwa [spelled_fields]⟩

/-- The bytes are the beginning, but not the whole, of the encoding of an encodable instruction. -/
def Unfinished (c : Cursor) : Prop :=
  ∃ i : Instruction, i.Encodable ∧ c.rest <+: i.encode ∧ c.rest.length < i.encode.length

/-- The field at `offset` has `needed` bytes, of which `available` are left. -/
structure EndsWithin (c : Cursor) (offset needed available : Nat) : Prop where
  unfinished : Unfinished c
  behind : c.position ≤ offset
  left : offset + available = c.position + c.rest.length
  less : available < needed

private theorem not_begun_of_refused {c : Cursor} {e : DecodeError} (refused : Refused c e) : ¬ Begun c.rest := by
  obtain ⟨_, _, _, _, _, back, _, _, ahead, _, _, _, never⟩ := refused
  rintro ⟨i, encodable, begun⟩
  rw [ahead] at begun
  exact never ⟨i, encodable, (List.prefix_append _ _).trans begun⟩

private theorem not_refused_truncated {c : Cursor} {offset needed available : Nat} :
    ¬ Refused c (.truncated offset needed available) := by
  rintro ⟨_, _, _, _, _, _, _, _, _, _, names, _, _⟩
  cases names

/-- What a failure is: the bytes end within an encodable instruction, or a field is refused. -/
theorem decode_failed {c : Cursor} {e : DecodeError} (failed : (decode c).result = .error e) :
    (∃ offset needed available, e = .truncated offset needed available ∧
      EndsWithin c offset needed available ∧ (decode c).state = c.advance (offset - c.position)) ∨
    (Refused c e ∧ ∃ count, count ≤ c.rest.length ∧ (decode c).state = c.advance count) := by
  have stopped := checks_decode.stops c e failed
  generalize reached : (decode c).state = c' at stopped
  cases stopped with
  | @short i front later field part spells ahead begun less =>
    obtain ⟨encodable, laid⟩ := spells
    refine .inl ⟨_, _, _, rfl, ⟨⟨i, encodable, ?_, ?_⟩, Nat.le_add_right _ _, ?_, less⟩, ?_⟩
    · rw [← spelled_fields, ← laid, ahead, spelled_append, spelled_cons, List.prefix_append_right_inj]
      exact begun.trans (List.prefix_append _ _)
    · rw [← spelled_fields, ← laid, ahead, spelled_append, spelled_cons]
      simp only [List.length_append]
      omega
    · rw [ahead, List.length_append, Nat.add_assoc]
    · rw [Nat.add_sub_cancel_left]
  | @wrong i front later field word back _ spells ahead width begun never names =>
    obtain ⟨encodable, laid⟩ := spells
    refine .inr ⟨⟨i, front, later, field, word, back, encodable, laid.symm, ahead, width, names, ?_, ?_⟩, _,
      ?_, rfl⟩
    · refine ⟨i, encodable, ?_⟩
      rw [← spelled_fields, ← laid, spelled_append, spelled_cons, List.prefix_append_right_inj]
      exact begun.trans (List.prefix_append _ _)
    · rwa [begins_iff] at never
    · rw [ahead]
      simp only [List.length_append]
      omega

/-- Missing bytes are reported where the bytes end. -/
theorem endsWithin_of_truncated {c : Cursor} {offset needed available : Nat}
    (failed : (decode c).result = .error (.truncated offset needed available)) :
    EndsWithin c offset needed available := by
  rcases decode_failed failed with ⟨_, _, _, same, ends, _⟩ | ⟨refused, _⟩
  · cases same
    exact ends
  · exact absurd refused not_refused_truncated

/-- Bytes that end within an encodable instruction are no instruction, and nothing of them is refused. -/
theorem decode_unfinished {c : Cursor} (unfinished : Unfinished c) :
    ∃ offset needed available, (decode c).result = .error (.truncated offset needed available) := by
  obtain ⟨i, encodable, begun, less⟩ := unfinished
  rcases ran : (decode c).result with e | j
  · rcases decode_failed ran with ⟨offset, needed, available, rfl, _⟩ | ⟨refused, _⟩
    · exact ⟨offset, needed, available, rfl⟩
    · exact absurd ⟨i, encodable, begun⟩ (not_begun_of_refused refused)
  · -- Then two instructions would begin with the same bytes.
    obtain ⟨_, back, ⟨good, rfl⟩, ahead, _⟩ := (accepts_decode c j _).1 ⟨ran, rfl⟩
    obtain ⟨rest, whole⟩ := begun
    rw [ahead, ← spelled_fields, ← spelled_fields i, List.append_assoc] at whole
    obtain ⟨_, same⟩ := spelled_alone checks_decode.accepts ⟨good, rfl⟩ ⟨encodable, rfl⟩
      (whole.trans (List.append_nil _).symm)
    rw [spelled_fields, spelled_fields] at same
    rw [ahead, List.length_append, same] at less
    omega

/-- However decoding ends, it stays within the bytes. -/
theorem decode_inside (c : Cursor) :
    ∃ count, (decode c).state = c.advance count ∧ count ≤ c.rest.length := by
  rcases ran : (decode c).result with e | i
  · rcases decode_failed ran with ⟨offset, _, _, _, ends, state⟩ | ⟨_, count, few, state⟩
    · have left := ends.left
      exact ⟨_, state, by omega⟩
    · exact ⟨_, state, few⟩
  · obtain ⟨front, back, _, ahead, state⟩ := (accepts_decode c i _).1 ⟨ran, rfl⟩
    rw [ahead, List.length_append]
    exact ⟨_, state, Nat.le_add_right _ _⟩

private theorem length_encode_pos (i : Instruction) : 0 < i.encode.length :=
  Nat.succ_pos _

/-- Decoding never leaves the bytes, and on success it takes one at least. It reports missing bytes exactly
if the bytes ahead are the beginning, but not the whole, of the encoding of an encodable instruction, and
then says how many there are from where it reports them. Any other failure names the place and the value
of the first field from the left that no encoding can have there. -/
theorem decode_precise (c : Cursor) (inside : c.position ≤ c.bytes.length) :
    (∃ count, (decode c).state = c.advance count ∧ c.position + count ≤ c.bytes.length) ∧
    (∀ i c', Op.Yields decode c i c' → c.position < c'.position) ∧
    ((∃ offset needed available, (decode c).result = .error (.truncated offset needed available)) ↔
      ∃ i : Instruction, i.Encodable ∧ c.rest <+: i.encode ∧ c.rest.length < i.encode.length) ∧
    (∀ offset needed available, (decode c).result = .error (.truncated offset needed available) →
      c.position ≤ offset ∧ offset ≤ c.bytes.length ∧ available = c.bytes.length - offset ∧
      available < needed) ∧
    ∀ e, (decode c).result = .error e →
      (∀ offset needed available, e ≠ .truncated offset needed available) → Refused c e := by
  have length : c.rest.length = c.bytes.length - c.position := length_rest c
  refine ⟨?_, fun i c' ran => ?_, ⟨?_, decode_unfinished⟩, fun offset needed available failed => ?_,
    fun e failed other => ?_⟩
  · obtain ⟨count, state, few⟩ := decode_inside c
    exact ⟨count, state, by omega⟩
  · obtain ⟨_, rfl, _⟩ := passed_decode ran
    have positive := length_encode_pos i
    show c.position < c.position + i.encode.length
    omega
  · rintro ⟨offset, needed, available, failed⟩
    exact (endsWithin_of_truncated failed).unfinished
  · obtain ⟨_, behind, left, less⟩ := endsWithin_of_truncated failed
    exact ⟨behind, by omega, by omega, less⟩
  · rcases decode_failed failed with ⟨offset, needed, available, rfl, _⟩ | ⟨refused, _⟩
    · exact absurd rfl (other offset needed available)
    · exact refused

/-- The launch with an argument of each kind, but with an unknown tag in front of the second one. -/
def strayTag : Cursor :=
  .ofBytes (mixedLaunch.encode.set 38 0x22)

/-- The same launch without the end of its second argument. -/
def cutLaunch : Cursor :=
  .ofBytes (mixedLaunch.encode.take 40)

/-- An unknown tag is named with its place, and a cut operand with what it lacks. -/
theorem strayTag_refused :
    (decode strayTag).result = .error (.unknownArgumentTag 0x22 38) ∧
    Refused strayTag (.unknownArgumentTag 0x22 38) ∧
    (decode cutLaunch).result = .error (.truncated 39 4 1) ∧
    ∃ i : Instruction, i.Encodable ∧ cutLaunch.rest <+: i.encode ∧ cutLaunch.rest.length < i.encode.length := by
  have stray : (decode strayTag).result = .error (.unknownArgumentTag 0x22 38) :=
    Op.failed_iff_failure?.2 (by decide +kernel)
  have cut : (decode cutLaunch).result = .error (.truncated 39 4 1) :=
    Op.failed_iff_failure?.2 (by decide +kernel)
  exact ⟨stray, (decode_precise strayTag (Nat.zero_le _)).2.2.2.2 _ stray (by simp), cut,
    (decode_precise cutLaunch (Nat.zero_le _)).2.2.1.1 ⟨39, 4, 1, cut⟩⟩

end Instruction
end Offload
