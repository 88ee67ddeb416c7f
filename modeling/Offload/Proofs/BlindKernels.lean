import Mathlib.Data.List.Forall2
import Offload.Kernel.Catalogue
import Offload.Proofs.Anonymous

/-! Kernels that do not look at the numbers of their handles. Two launches of such a kernel that differ in
the numbers only do the same to buffers that hold the same. -/
namespace Offload

/-! ### Programs -/

namespace KernelProgram

variable {α β α' β' : Type} {V : α → β → Prop} {program : KernelProgram α} {program' : KernelProgram β}

/-- Programs that go the same way as long as they get the same answers, up to values that compare. What
they report is not looked at. -/
inductive Alike (V : α → β → Prop) : KernelProgram α → KernelProgram β → Prop where
  | done {a : α} {b : β} (values : V a b) : Alike V (.done a) (.done b)
  | fail {e e' : DeviceError} (alike : e.Alike e') : Alike V (.fail e) (.fail e')
  | read (index : Nat) {next : Except DeviceError Bytes → KernelProgram α}
      {next' : Except DeviceError Bytes → KernelProgram β} (alike : ∀ answer, Alike V (next answer) (next' answer)) :
      Alike V (.read index next) (.read index next')
  | write (index : Nat) (data : Bytes) {next : Except DeviceError Unit → KernelProgram α}
      {next' : Except DeviceError Unit → KernelProgram β} (alike : ∀ answer, Alike V (next answer) (next' answer)) :
      Alike V (.write index data next) (.write index data next')
  | readAtomics {next : Except DeviceError Bytes → KernelProgram α}
      {next' : Except DeviceError Bytes → KernelProgram β} (alike : ∀ answer, Alike V (next answer) (next' answer)) :
      Alike V (.readAtomics next) (.readAtomics next')
  | writeAtomics (data : Bytes) {next : Except DeviceError Unit → KernelProgram α}
      {next' : Except DeviceError Unit → KernelProgram β} (alike : ∀ answer, Alike V (next answer) (next' answer)) :
      Alike V (.writeAtomics data next) (.writeAtomics data next')
  | report (entry entry' : KernelReport) {next : KernelProgram α} {next' : KernelProgram β}
      (alike : Alike V next next') : Alike V (.report entry next) (.report entry' next')

private theorem alike_same (program : KernelProgram α) : Alike Eq program program := by
  induction program with
  | done value => exact .done rfl
  | fail e => exact .fail (.same e)
  | read index next ih => exact .read index ih
  | write index data next ih => exact .write index data ih
  | readAtomics next ih => exact .readAtomics ih
  | writeAtomics data next ih => exact .writeAtomics data ih
  | report entry next ih => exact .report entry entry ih

/-- Programs that go on from values that compare. -/
theorem Alike.andThen {W : α' → β' → Prop} {next : α → KernelProgram α'} {next' : β → KernelProgram β'}
    (alike : Alike V program program') (rest : ∀ a b, V a b → Alike W (next a) (next' b)) :
    Alike W (program.andThen next) (program'.andThen next') := by
  induction alike with
  | done values => exact rest _ _ values
  | fail alike => exact .fail alike
  | read index _ ih => exact .read index ih
  | write index data _ ih => exact .write index data ih
  | readAtomics _ ih => exact .readAtomics ih
  | writeAtomics data _ ih => exact .writeAtomics data ih
  | report entry entry' _ ih => exact .report entry entry' ih

private theorem alike_ofExcept {answer : Except DeviceError α} {answer' : Except DeviceError β}
    (paired : Op.Paired V answer answer') : Alike V (ofExcept answer) (ofExcept answer') := by
  cases paired with
  | ok values => exact .done values
  | error alike => exact .fail alike

end KernelProgram

/-! ### Launches -/

private theorem KernelArg.anonymous_cases {arg arg' : KernelArg} (same : arg.anonymous = arg'.anonymous) :
    arg = arg' ∨ ∃ b b', arg = .buffer b ∧ arg' = .buffer b' ∧ b.size = b'.size := by
  rcases arg with value | b | _ <;> rcases arg' with value' | b' | _ <;> try cases same
  · exact .inl rfl
  · have sizes : b.anonymous = b'.anonymous := KernelArg.buffer.inj same
    exact .inr ⟨b, b', rfl, rfl, (congrArg DeviceBuffer.size sizes :)⟩
  · exact .inl rfl

/-- A launch without the numbers of its handles. -/
def Invocation.anonymous (v : Invocation) : Invocation :=
  { v with frame := v.frame.map KernelArg.anonymous, atomics := v.atomics.map fun _ => 0 }

/-- The kernel goes the same way whatever numbers its handles have. -/
def Kernel.Blind (kernel : Kernel) : Prop :=
  ∀ v v', v.anonymous = v'.anonymous → (kernel v).Alike Eq (kernel v')

/-- Two handles are a pair: they stand for the same thing on either side, and each of them has one partner. -/
structure Pairing (P : BufferId → BufferId → Prop) : Prop where
  right : ∀ {id a b}, P id a → P id b → a = b
  left : ∀ {id a b}, P a id → P b id → a = b

/-- Paired buffers are the same: both gone, or alive with the same bytes. -/
def Memory.Agree (P : BufferId → BufferId → Prop) (m m' : Memory) : Prop :=
  ∀ id id', P id id' → m.buffers.get? id = m'.buffers.get? id'

/-- Paired buffers are alive and hold the same. -/
structure Memory.Matches (P : BufferId → BufferId → Prop) (m m' : Memory) : Prop where
  agree : Agree P m m'
  alive : ∀ id id', P id id' → ∃ held, m.buffers.get? id = some held

/-- The same argument, up to buffers that are a pair. -/
inductive KernelArg.Paired (P : BufferId → BufferId → Prop) : KernelArg → KernelArg → Prop where
  | constant (value : Scalar) : Paired P (.constant value) (.constant value)
  | buffer {b b' : DeviceBuffer} (paired : P b.id b'.id) (size : b.size = b'.size) :
      Paired P (.buffer b) (.buffer b')
  | kernelContext : Paired P .kernelContext .kernelContext

/-- The same launch, up to buffers that are a pair. It has no atomics. -/
structure Invocation.Paired (P : BufferId → BufferId → Prop) (v v' : Invocation) : Prop where
  frame : List.Forall₂ (KernelArg.Paired P) v.frame v'.frame
  atomics : v.atomics = none
  same : v.anonymous = v'.anonymous

namespace Memory

variable {P : BufferId → BufferId → Prop} {m m' : Memory} {id id' : BufferId} {data : Bytes}

private theorem Matches.both (matched : Matches P m m') (paired : P id id') :
    ∃ held, m.buffers.get? id = some held ∧ m'.buffers.get? id' = some held := by
  obtain ⟨held, found⟩ := matched.alive id id' paired
  exact ⟨held, found, (matched.agree id id' paired).symm.trans found⟩

private theorem Matches.contents (matched : Matches P m m') (paired : P id id') : m.contents id = m'.contents id' := by
  obtain ⟨held, found, found'⟩ := matched.both paired
  simp only [Memory.contents, buffer, found, found']

/-- New bytes in both buffers of a pair. -/
theorem Agree.insert (agree : Agree P m m') (pairing : Pairing P) (paired : P id id') (held : Buffer) :
    Agree P { m with buffers := m.buffers.insert id held } { m' with buffers := m'.buffers.insert id' held } := by
  intro other other' paired'
  simp only [Table.get?_insert]
  by_cases here : id = other
  · subst here
    rw [if_pos rfl, if_pos (pairing.right paired paired')]
  · have there : id' ≠ other' := by
      rintro rfl
      exact here (pairing.left paired paired')
    rw [if_neg here, if_neg there]
    exact agree other other' paired'

theorem Agree.read (agree : Agree P m m') (paired : P id id') (count : Nat) :
    Op.Paired Eq (m.read id count) (m'.read id' count) := by
  unfold Memory.read buffer
  rw [agree id id' paired]
  rcases m'.buffers.get? id' with _ | held
  · exact .error (.buffer id id')
  · exact Op.paired_same fun _ _ => rfl

theorem Agree.write (agree : Agree P m m') (pairing : Pairing P) (paired : P id id') (data : Bytes) :
    Op.Paired (Agree P) (m.write id data) (m'.write id' data) := by
  unfold Memory.write buffer
  rw [agree id id' paired]
  rcases m'.buffers.get? id' with _ | held
  · exact .error (.buffer id id')
  · simp only [bind, Except.bind]
    rcases held.overwrite? data with _ | new
    · exact .error (.same _)
    · exact .ok (agree.insert pairing paired new)

/-- The same bytes go to both buffers of a pair, or to neither. -/
theorem Matches.write (matched : Matches P m m') (pairing : Pairing P) (paired : P id id') (data : Bytes) :
    (∃ e, m.write id data = .error e ∧ m'.write id' data = .error e) ∨
      ∃ n n', m.write id data = .ok n ∧ m'.write id' data = .ok n' ∧ Matches P n n' := by
  obtain ⟨held, found, found'⟩ := matched.both paired
  rcases wrote : held.overwrite? data with _ | new <;>
    simp only [Memory.write, buffer, found, found', wrote, bind, Except.bind, pure, Except.pure]
  · exact .inl ⟨_, rfl, rfl⟩
  refine .inr ⟨_, _, rfl, rfl, matched.agree.insert pairing paired new, fun other other' paired' => ?_⟩
  simp only [Table.get?_insert]
  split
  · exact ⟨new, rfl⟩
  · exact matched.alive other other' paired'

end Memory

namespace Invocation

variable {P : BufferId → BufferId → Prop} {v v' : Invocation} {m m' : Memory}

/-- An argument is a buffer on both sides or on neither. -/
theorem Paired.bufferId (paired : Paired P v v') (index : Nat) :
    (∃ e, v.bufferId index = .error e ∧ v'.bufferId index = .error e) ∨
      ∃ id id', v.bufferId index = .ok id ∧ v'.bufferId index = .ok id' ∧ P id id' := by
  unfold Invocation.bufferId arg
  have lengths := paired.frame.length_eq
  rcases inside : v.frame[index]? with _ | arg
  · have outside : v'.frame[index]? = none := by
      rw [List.getElem?_eq_none_iff, ← lengths]
      exact List.getElem?_eq_none_iff.1 inside
    rw [outside, lengths]
    exact .inl ⟨_, rfl, rfl⟩
  · obtain ⟨here, rfl⟩ := List.getElem?_eq_some_iff.1 inside
    rw [List.getElem?_eq_getElem (lengths ▸ here)]
    have args := paired.frame.get here (lengths ▸ here)
    simp only [List.get_eq_getElem] at args
    generalize v.frame[index] = arg at args
    generalize v'.frame[index] = arg' at args
    cases args with
    | constant value => exact .inl ⟨_, rfl, rfl⟩
    | kernelContext => exact .inl ⟨_, rfl, rfl⟩
    | buffer paired size => exact .inr ⟨_, _, rfl, rfl, paired⟩

private theorem Paired.without (paired : Paired P v v') : v'.atomics = none := by
  have same := congrArg Invocation.atomics paired.same
  rw [Invocation.anonymous, Invocation.anonymous, paired.atomics] at same
  exact Option.map_eq_none_iff.1 same.symm

private theorem Paired.bytes (paired : Paired P v v') (matched : m.Matches P m') (index : Nat) :
    v.bytes m index = v'.bytes m' index := by
  unfold Invocation.bytes
  rcases paired.bufferId index with ⟨e, failed, failed'⟩ | ⟨id, id', bound, bound', pair⟩
  · rw [failed, failed']
    rfl
  · rw [bound, bound']
    exact matched.contents pair

private theorem Paired.overwrite (paired : Paired P v v') (pairing : Pairing P) (matched : m.Matches P m')
    (index : Nat) (data : Bytes) :
    (∃ e, v.overwrite m index data = .error e ∧ v'.overwrite m' index data = .error e) ∨
      ∃ n n', v.overwrite m index data = .ok n ∧ v'.overwrite m' index data = .ok n' ∧ n.Matches P n' := by
  unfold Invocation.overwrite
  rcases paired.bufferId index with ⟨e, failed, failed'⟩ | ⟨id, id', bound, bound', pair⟩
  · rw [failed, failed']
    exact .inl ⟨e, rfl, rfl⟩
  · rw [bound, bound']
    exact matched.write pairing pair data

end Invocation

/-- Programs that are alike do the same to buffers that hold the same. -/
theorem KernelProgram.Alike.run {α β : Type} {V : α → β → Prop} {P : BufferId → BufferId → Prop}
    {program : KernelProgram α} {program' : KernelProgram β} {v v' : Invocation} {m m' : Memory}
    (alike : Alike V program program') (pairing : Pairing P) (paired : v.Paired P v')
    (matched : m.Matches P m') :
    Op.Paired V (program.run v m).result (program'.run v' m').result ∧
      (program.run v m).memory.Matches P (program'.run v' m').memory := by
  have same : v'.atomicsId = v.atomicsId := by
    rw [Invocation.atomicsId, Invocation.atomicsId, paired.atomics, paired.without]
  have refused : v.atomicsId = .error (.executionError "launch has no atomics buffer") := by
    rw [Invocation.atomicsId, paired.atomics]
  induction alike generalizing m m' with
  | done values => exact ⟨.ok values, matched⟩
  | fail alike => exact ⟨.error alike, matched⟩
  | read index _ ih =>
    simp only [KernelProgram.run, paired.bytes matched index]
    exact ih _ matched
  | write index data _ ih =>
    simp only [KernelProgram.run]
    rcases paired.overwrite pairing matched index data with ⟨e, failed, failed'⟩ | ⟨n, n', wrote, wrote', later⟩
    · rw [failed, failed']
      exact ih _ matched
    · rw [wrote, wrote']
      exact ih _ later
  | readAtomics _ ih =>
    simp only [KernelProgram.run, Invocation.atomicsBytes, same, refused]
    exact ih _ matched
  | writeAtomics data _ ih =>
    simp only [KernelProgram.run, Invocation.overwriteAtomics, same, refused]
    exact ih _ matched
  | report entry entry' _ ih =>
    simp only [KernelProgram.run]
    exact ih matched

/-! ### The catalogue -/

namespace Kernel
open KernelProgram

variable {v v' : Invocation}

/-- An argument is the same on both sides up to the number of its buffer. -/
theorem alike_arg (same : v.anonymous = v'.anonymous) (index : Nat) :
    Op.Paired (fun arg arg' => arg.anonymous = arg'.anonymous) (v.arg index) (v'.arg index) := by
  have frames : v.frame.map KernelArg.anonymous = v'.frame.map KernelArg.anonymous :=
    congrArg Invocation.frame same
  have sizes : v.frame.length = v'.frame.length := by simpa using congrArg List.length frames
  have args := congrArg (fun frame : List KernelArg => frame[index]?) frames
  simp only [List.getElem?_map] at args
  unfold Invocation.arg
  rcases map_eq_map_cases args with ⟨none, none'⟩ | ⟨arg, arg', found, found', alike⟩
  · rw [none, none', sizes]
    exact .error (.same _)
  · rw [found, found']
    exact .ok alike

private theorem geometry_congr (same : v.anonymous = v'.anonymous) :
    v.threads = v'.threads ∧ v.globalOffset = v'.globalOffset ∧ v.batchNumber = v'.batchNumber ∧
      v.batchSize = v'.batchSize :=
  ⟨(congrArg Invocation.threads same :), (congrArg Invocation.globalOffset same :),
    (congrArg Invocation.batchNumber same :), (congrArg Invocation.batchSize same :)⟩

private theorem alike_constant (same : v.anonymous = v'.anonymous) (index : Nat) :
    Op.Paired Eq (v.constant index) (v'.constant index) := by
  refine Op.paired_bind (alike_arg same index) fun arg arg' alike => ?_
  rcases KernelArg.anonymous_cases alike with rfl | ⟨b, b', rfl, rfl, _⟩
  · exact Op.paired_same fun _ _ => rfl
  · exact .error (.argument index "expected constant, found " alike)

private theorem alike_argumentViews (v v' : Invocation) (count index : Nat) :
    Alike (fun _ _ => True) (argumentViews v count index) (argumentViews v' count index) := by
  induction count generalizing index with
  | zero => exact .done trivial
  | succ count ih =>
    exact .read index fun answer => (ih (index + 1)).andThen fun _ _ _ => .done trivial

private theorem blind_probe : Blind probe := by
  intro v v' same
  have frames := congrArg (fun v : Invocation => v.frame.length) same
  simp only [Invocation.anonymous, List.length_map] at frames
  unfold probe
  rw [frames, (geometry_congr same).1]
  refine (alike_same (KernelProgram.ofExcept v'.threads)).andThen fun threads _ equal => ?_
  subst equal
  refine (alike_argumentViews v v' _ _).andThen fun _ _ _ => ?_
  exact .readAtomics fun _ => .report _ _ (.done rfl)

private theorem alike_factor (same : v.anonymous = v'.anonymous) (index : Nat) :
    Op.Paired Eq (factor v index) (factor v' index) := by
  refine Op.paired_bind (alike_constant same index) fun value value' equal => ?_
  subst equal
  exact Op.paired_same fun _ _ => rfl

/-- A kernel that looks at nothing of its launch in advance. -/
theorem blind_fixed (program : KernelProgram Unit) : Blind fun _ => program := fun _ _ _ => alike_same program

/-- No kernel of the catalogue looks at the numbers of its handles. -/
theorem blind_catalogue : ∀ entry ∈ catalogue, Blind entry.2 := by
  simp only [catalogue, List.forall_mem_cons, List.not_mem_nil, false_imp_iff, implies_true, and_true]
  refine ⟨blind_fixed _, blind_fixed _, ?_, blind_fixed _, blind_fixed _, blind_fixed _, ?_, ?_, blind_fixed _,
    blind_fixed _, ?_, blind_probe, blind_fixed _, ?_, blind_fixed _, blind_fixed _, blind_fixed _, blind_fixed _,
    blind_fixed _, blind_fixed _, blind_fixed _, blind_fixed _⟩
  · intro v v' same
    obtain ⟨threads, offset, _⟩ := geometry_congr same
    dsimp only
    rw [threads, offset]
    exact alike_same _
  · intro v v' same
    obtain ⟨threads, offset, number, size⟩ := geometry_congr same
    dsimp only
    rw [threads, offset, number, size]
    exact alike_same _
  · intro v v' same
    refine (alike_ofExcept (alike_factor same 2)).andThen fun c _ equal => ?_
    subst equal
    exact alike_same _
  · intro v v' same
    refine (alike_same atomicsWords).andThen fun words _ equal => ?_
    subst equal
    exact (alike_same (storeAtomics _)).andThen fun _ _ _ => blind_probe v v' same
  · intro v v' same
    exact (alike_ofExcept (alike_constant same 0)).andThen fun _ _ _ => .done rfl

end Kernel

end Offload
