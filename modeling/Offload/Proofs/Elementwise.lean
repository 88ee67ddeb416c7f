import Offload.Host.Object
import Offload.Kernel.Catalogue
import Offload.Proofs.Memory

/-! Kernels that work element by element, on arrays of 32-bit integers. What such a kernel leaves in its
buffer is said in terms of the integers there, as many of them as it has threads for. -/
namespace Offload

namespace Bytes

variable {width : Nat} {values xs ys : List Int32}

private theorem length_ofWords (words : List Nat) : (ofWords width words).length = width * words.length := by
  induction words with
  | nil => rfl
  | cons word rest ih =>
    rw [ofWords, List.flatMap_cons, List.length_append, length_ofNatLE, List.length_cons, Nat.mul_succ,
      Nat.add_comm, ← ih]
    rfl

private theorem words_nil : words width [] = [] := by
  have none : (0 + width - 1) / width = 0 := by
    rcases width with _ | width
    · rfl
    · exact Nat.div_eq_of_lt (by omega)
  rw [words, List.length_nil, none]
  rfl

/-- The first word, and then the words behind it. -/
theorem words_cons (positive : 0 < width) {first rest : Bytes} (whole : first.length = width) :
    words width (first ++ rest) = toNatLE first :: words width rest := by
  have more : ((first ++ rest).length + width - 1) / width = (rest.length + width - 1) / width + 1 := by
    rw [List.length_append, whole, ← Nat.add_div_right _ positive]
    congr 1
    omega
  simp only [words, wordsFrom_eq, more, List.range_succ_eq_map, List.map_cons, List.map_map,
    List.reverse_nil, List.nil_append]
  have head : slice (first ++ rest) (0 * width) width = first := by
    simp [slice, ← whole]
  have tail (i : Nat) : slice (first ++ rest) ((i + 1) * width) width = slice rest (i * width) width := by
    rw [slice, slice, Nat.succ_mul, Nat.add_comm, ← List.drop_drop, ← whole, List.drop_left]
  simp only [head, Function.comp_def, Nat.succ_eq_add_one, tail]

/-- Words that were written are read again, modulo their width. -/
theorem words_ofWords (positive : 0 < width) (values : List Nat) :
    words width (ofWords width values) = values.map (· % capacity width) := by
  induction values with
  | nil => exact words_nil
  | cons value rest ih =>
    rw [ofWords, List.flatMap_cons, words_cons positive (length_ofNatLE _ _), toNatLE_ofNatLE,
      List.map_cons]
    exact congrArg _ ih

/-- Only what fits the width of a word is written. -/
theorem ofWords_mod (words : List Nat) : ofWords width (words.map (· % capacity width)) = ofWords width words := by
  rw [ofWords, ofWords, List.flatMap_map]
  congr 1
  funext word
  have read := ofNatLE_toNatLE (ofNatLE width word)
  rw [length_ofNatLE, toNatLE_ofNatLE] at read
  exact read

/-- Integers of 32 bits one behind the other. -/
def ofInt32s (values : List Int32) : Bytes :=
  ofWords 4 (values.map fun value => value.toUInt32.toNat)

@[simp] theorem length_ofInt32s : (ofInt32s values).length = 4 * values.length := by
  rw [ofInt32s, length_ofWords, List.length_map]

theorem ofInt32s_append : ofInt32s (xs ++ ys) = ofInt32s xs ++ ofInt32s ys := by
  simp [ofInt32s, ofWords]

private theorem ofInt32s_split (count : Nat) : ofInt32s xs = ofInt32s (xs.take count) ++ ofInt32s (xs.drop count) := by
  rw [← ofInt32s_append, List.take_append_drop]

theorem take_ofInt32s (count : Nat) : (ofInt32s xs).take (4 * count) = ofInt32s (xs.take count) := by
  rcases Nat.lt_or_ge xs.length count with short | enough
  · rw [List.take_of_length_le (Nat.le_of_lt short), List.take_of_length_le]
    rw [length_ofInt32s]
    omega
  · rw [ofInt32s_split count]
    refine List.take_left' ?_
    rw [length_ofInt32s, List.length_take, Nat.min_eq_left enough]

theorem drop_ofInt32s (count : Nat) : (ofInt32s xs).drop (4 * count) = ofInt32s (xs.drop count) := by
  have same : ofInt32s (xs.take count) ++ (ofInt32s xs).drop (4 * count) =
      ofInt32s (xs.take count) ++ ofInt32s (xs.drop count) := by
    rw [← take_ofInt32s, List.take_append_drop, take_ofInt32s, ← ofInt32s_split]
  exact List.append_cancel_left same

/-- Integers are read again as the words that spell them. -/
theorem words_ofInt32s : words 4 (ofInt32s values) = values.map fun value => value.toUInt32.toNat := by
  rw [ofInt32s, words_ofWords (by decide), List.map_map]
  refine List.map_congr_left fun value _ => ?_
  exact Nat.mod_eq_of_lt value.toUInt32.toNat_lt

theorem ofInt32s_zeros (count : Nat) : ofInt32s (List.replicate count 0) = zeros (4 * count) := by
  induction count with
  | zero => rfl
  | succ count ih =>
    have head : ofInt32s (List.replicate (count + 1) 0) = zeros 4 ++ ofInt32s (List.replicate count 0) := rfl
    rw [head, ih, zeros, zeros, zeros, ← List.replicate_append_replicate.symm, Nat.mul_succ, Nat.add_comm]

end Bytes

namespace HostObject

variable {first count : Nat} {values part : List Int32}

/-- An array of integers. -/
def ofInt32s (values : List Int32) : HostObject :=
  .array ⟨.i32, Bytes.ofInt32s values⟩

@[simp] theorem byteSize_ofInt32s (values : List Int32) : (ofInt32s values).byteSize = 4 * values.length :=
  Bytes.length_ofInt32s

/-- Integers of an array are read as the bytes that spell them. -/
theorem readRange_ofInt32s (inside : first + count ≤ values.length) :
    (ofInt32s values).readRange (4 * first) (4 * count) =
      .ok (Bytes.ofInt32s ((values.drop first).take count)) := by
  have fits : 4 * first + 4 * count ≤ (ofInt32s values).byteSize := by
    rw [byteSize_ofInt32s]
    omega
  rw [readRange, if_pos fits, Bytes.slice, ofInt32s, bytes, Bytes.drop_ofInt32s, Bytes.take_ofInt32s]

/-- Integers are written in place of as many others. -/
theorem writeRange_ofInt32s (inside : first + part.length ≤ values.length) :
    (ofInt32s values).writeRange (4 * first) (Bytes.ofInt32s part) =
      .ok (ofInt32s (values.take first ++ part ++ values.drop (first + part.length))) := by
  have fits : 4 * first + (Bytes.ofInt32s part).length ≤ (ofInt32s values).byteSize := by
    rw [byteSize_ofInt32s, Bytes.length_ofInt32s]
    omega
  rw [writeRange, if_pos fits, ofInt32s, withBytes, Bytes.overwrite, bytes, Bytes.length_ofInt32s, ← Nat.mul_add,
    Bytes.take_ofInt32s, Bytes.drop_ofInt32s, ← Bytes.ofInt32s_append, ← Bytes.ofInt32s_append]
  rfl

end HostObject

namespace Kernel

variable {f : Nat → Int32 → Int32} {v : Invocation} {b : DeviceBuffer} {m : Memory} {values : List Int32}

/-- The values with those that there are threads for replaced. The first one has the global index
`first`. -/
def onThreads (f : Nat → Int32 → Int32) (threads first : Nat) (values : List Int32) : List Int32 :=
  values.mapIdx fun i value => if i < threads then f (first + i) value else value

/-- The kernel reads its first argument as integers and writes them back with those replaced that it has
threads for, by what `f` makes of a global index and a value. -/
def Maps (f : Nat → Int32 → Int32) (kernel : Kernel) : Prop :=
  ∀ {v : Invocation} {b : DeviceBuffer} {m : Memory} {values : List Int32} {threads : Nat},
    v.frame[0]? = some (.buffer b) → v.threads = .ok threads → m.contents b.id = .ok (Bytes.ofInt32s values) →
      ∃ m' reports, (kernel v).run v m = ⟨.ok (), m', reports⟩ ∧
        m'.contents b.id = .ok (Bytes.ofInt32s (onThreads f threads v.globalOffset values))

@[simp] theorem length_onThreads (f : Nat → Int32 → Int32) (threads first : Nat) (values : List Int32) :
    (onThreads f threads first values).length = values.length :=
  List.length_mapIdx

/-- Values that there are threads for are all replaced, whatever stands behind them. -/
theorem take_onThreads {threads first : Nat} {rest : List Int32} (enough : values.length ≤ threads) :
    (onThreads f threads first (values ++ rest)).take values.length =
      values.mapIdx fun i value => f (first + i) value := by
  rw [onThreads, List.mapIdx_append, List.take_left' List.length_mapIdx]
  refine List.ext_getElem (by simp) fun i inside _ => ?_
  rw [List.length_mapIdx] at inside
  simp only [List.getElem_mapIdx, if_pos (Nat.lt_of_lt_of_le inside enough)]

/-- With one thread for each value in front, these are replaced and the others are kept. -/
theorem onThreads_append (f : Nat → Int32 → Int32) (front back : List Int32) :
    onThreads f front.length 0 (front ++ back) = front.mapIdx f ++ back := by
  rw [onThreads, List.mapIdx_append]
  congr 1
  · refine List.ext_getElem (by simp) fun i inside _ => ?_
    rw [List.length_mapIdx] at inside
    simp only [List.getElem_mapIdx, if_pos inside, Nat.zero_add]
  · refine List.ext_getElem (by simp) fun i _ _ => ?_
    rw [List.getElem_mapIdx, if_neg (Nat.not_lt.2 (Nat.le_add_left ..))]

theorem onThreads_none (f : Nat → Int32 → Int32) (values : List Int32) : onThreads f 0 0 values = values :=
  onThreads_append f [] values

/-- With a thread for each value all values are changed. -/
theorem onThreads_all (f : Nat → Int32 → Int32) (values : List Int32) :
    onThreads f values.length 0 values = values.mapIdx f := by
  have all := onThreads_append f values []
  rwa [List.append_nil, List.append_nil] at all

/-- Behind the values that were replaced, the next ones are taken out, replaced and put back. -/
theorem onThreads_next {first count : Nat} (fits : first + count ≤ values.length) :
    (onThreads f first 0 values).take first ++
        (((onThreads f first 0 values).drop first).take count).mapIdx (fun i value => f (first + i) value) ++
        (onThreads f first 0 values).drop (first + count) =
      onThreads f (first + count) 0 values := by
  obtain ⟨front, middle, back, rfl, rfl, rfl⟩ :
      ∃ front middle back, values = front ++ (middle ++ back) ∧ front.length = first ∧ middle.length = count := by
    refine ⟨values.take first, (values.drop first).take count, (values.drop first).drop count, ?_, ?_, ?_⟩
    · rw [List.take_append_drop, List.take_append_drop]
    · rw [List.length_take]
      omega
    · rw [List.length_take, List.length_drop]
      omega
  have later := onThreads_append f (front ++ middle) back
  rw [List.length_append, List.append_assoc, List.mapIdx_append] at later
  rw [onThreads_append, later, List.take_left' List.length_mapIdx, List.drop_left' List.length_mapIdx,
    List.take_left, ← List.drop_drop, List.drop_left' List.length_mapIdx, List.drop_left]
  simp only [Nat.add_comm]

/-- A kernel that rewrites the words of its first argument. -/
theorem run_rewrite (argument : v.frame[0]? = some (.buffer b))
    (holds : m.contents b.id = .ok (Bytes.ofInt32s values)) {change : List Nat → List Nat} {after : List Int32}
    (same : after.length = values.length)
    (changed : Bytes.ofWords 4 (change (values.map fun value => value.toUInt32.toNat)) = Bytes.ofInt32s after) :
    ∃ m', (do
        let words ← KernelProgram.elements .i32 0
        KernelProgram.store .i32 0 (change words) : KernelProgram Unit).run v m = ⟨.ok (), m', []⟩ ∧
      m'.contents b.id = .ok (Bytes.ofInt32s after) := by
  have bound : v.bufferId 0 = .ok b.id := by
    simp [Invocation.bufferId, Invocation.arg, argument, bind, Except.bind]
  have level : (Bytes.ofInt32s after).length = (Bytes.ofInt32s values).length := by
    rw [Bytes.length_ofInt32s, Bytes.length_ofInt32s, same]
  obtain ⟨m', written, holds'⟩ := Memory.write_contents holds (Nat.le_of_eq level)
  have read : v.bytes m 0 = .ok (Bytes.ofInt32s values) := by
    simp [Invocation.bytes, bound, holds, bind, Except.bind]
  have wrote : v.overwrite m 0 (Bytes.ofInt32s after) = .ok m' := by
    simp [Invocation.overwrite, bound, written, bind, Except.bind]
  refine ⟨m', ?_, ?_⟩
  · show (KernelProgram.read 0 _).run v m = _
    rw [KernelProgram.run, read]
    show (KernelProgram.write 0 (Bytes.ofWords 4 (change (Bytes.words 4 (Bytes.ofInt32s values)))) _).run v m = _
    rw [Bytes.words_ofInt32s, changed, KernelProgram.run, wrote]
    rfl
  · rw [holds', List.drop_of_length_le (Nat.le_of_eq level.symm), List.append_nil]

/-- A kernel of the catalogue: it adds to each value its global index. -/
theorem maps_addIndex :
    ∃ kernel, find? "add_index" = some kernel ∧ Maps (fun i value => value + (UInt32.ofNat i).toInt32) kernel := by
  refine ⟨_, rfl, fun {v b m values threads} argument counted holds => ?_⟩
  have added : Bytes.ofWords 4 (addIndices threads v.globalOffset
        (values.map fun value => value.toUInt32.toNat)) =
      Bytes.ofInt32s (onThreads (fun i value => value + (UInt32.ofNat i).toInt32) threads v.globalOffset values) := by
    rw [Bytes.ofInt32s, ← Bytes.ofWords_mod, ← Bytes.ofWords_mod (List.map _ (onThreads ..))]
    congr 1
    refine List.ext_getElem (by simp [addIndices]) fun i _ _ => ?_
    simp only [addIndices, onThreads, List.getElem_map, List.getElem_mapIdx]
    split
    · simp [Bytes.capacity, Nat.add_assoc]
    · rfl
  obtain ⟨m', ran, holds'⟩ := run_rewrite argument holds (length_onThreads _ _ _ _) added
  refine ⟨m', [], ?_, holds'⟩
  dsimp only
  rw [counted]
  exact ran

end Kernel
end Offload
