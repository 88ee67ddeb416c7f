import Offload.Kernel.Catalogue
import Offload.Machine.Error
import Offload.Proofs.Memory

/-! Errors about handles, and kernels that raise none of their own. Such a kernel may still pass on the
error of an access. Where all buffers of its launch are alive no access has an error about a handle,
so the launch has none. Whatever a kernel does, it changes the buffers of its launch only. -/
namespace Offload

/-- The error says that a handle is not good. -/
def DeviceError.aboutHandle : DeviceError → Bool
  | invalidBuffer _ => true
  | invalidEvent _ => true
  | invalidCode .. => true
  | _ => false

/-- The error passes on that a handle is not good. -/
def MachineError.aboutHandle : MachineError → Bool
  | device error => error.aboutHandle
  | _ => false

namespace MachineError

@[simp] theorem aboutHandle_ofDevice (e : DeviceError) : (ofDevice e).aboutHandle = e.aboutHandle := by
  cases e <;> rfl

@[simp] theorem aboutHandle_forTask (task : String) (e : MachineError) :
    (e.forTask task).aboutHandle = e.aboutHandle := by
  cases e <;> rfl

end MachineError

/-- An answer to an access without an error about a handle. -/
def Answered {α : Type} (answer : Except DeviceError α) : Prop :=
  ∀ e, answer = .error e → e.aboutHandle = false

private theorem answered_ok {α : Type} (a : α) : Answered (.ok a) := nofun

/-- A program that does not fail with an error about a handle unless an access had one. -/
def KernelProgram.Honest {α : Type} : KernelProgram α → Prop
  | done _ => True
  | fail error => error.aboutHandle = false
  | read _ next => ∀ answer, Answered answer → (next answer).Honest
  | write _ _ next => ∀ answer, Answered answer → (next answer).Honest
  | readAtomics next => ∀ answer, Answered answer → (next answer).Honest
  | writeAtomics _ next => ∀ answer, Answered answer → (next answer).Honest
  | report _ next => next.Honest

/-- It passes on errors of accesses, and raises none of its own about a handle. -/
def Kernel.Honest (kernel : Kernel) : Prop :=
  ∀ v, (kernel v).Honest

namespace Invocation

variable {v : Invocation} {m m' : Memory} {id : BufferId}

/-- The launch was given this buffer. -/
def Holds (v : Invocation) (id : BufferId) : Prop :=
  (∃ b, .buffer b ∈ v.frame ∧ b.id = id) ∨ v.atomics = some id

/-- The threads are counted, or they are too many for a word. -/
theorem overflows_threads {e : DeviceError} (failed : v.threads = .error e) : e = .overflow := by
  unfold threads Grid.counted at failed
  split at failed
  · cases failed
  · split at failed <;> cases failed
    rfl

/-- All buffers of the launch are alive. -/
def Served (v : Invocation) (m : Memory) : Prop :=
  ∀ id, v.Holds id → ∃ held, m.buffers.get? id = some held

private theorem Served.later (served : v.Served m) (overwrites : m.Overwrites m') : v.Served m' := by
  intro id holds
  obtain ⟨held, found⟩ := served id holds
  have sizes := overwrites.sizes id
  rw [found] at sizes
  obtain ⟨held', found', _⟩ := Option.map_eq_some_iff.1 sizes
  exact ⟨held', found'⟩

private theorem holds_of_bufferId {index : Nat} (bound : v.bufferId index = .ok id) : v.Holds id := by
  unfold bufferId arg at bound
  rcases found : v.frame[index]? with _ | arg <;> rw [found] at bound
  · cases bound
  · cases arg with
    | buffer b =>
      cases bound
      exact .inl ⟨b, List.mem_of_getElem? found, rfl⟩
    | _ => cases bound

private theorem holds_of_atomicsId (bound : v.atomicsId = .ok id) : v.Holds id := by
  unfold atomicsId at bound
  rcases atomics : v.atomics with _ | id' <;> rw [atomics] at bound <;> cases bound
  exact .inr atomics

private theorem answered_bufferId (index : Nat) : Answered (v.bufferId index) := by
  intro e failed
  unfold bufferId arg at failed
  rcases found : v.frame[index]? with _ | arg <;> rw [found] at failed
  · cases failed
    rfl
  · cases arg <;> cases failed <;> rfl

private theorem answered_atomicsId : Answered v.atomicsId := by
  intro e failed
  unfold atomicsId at failed
  split at failed <;> cases failed
  rfl

end Invocation

namespace Memory

variable {m m' : Memory} {id other : BufferId} {data : Bytes} {count : Nat}

private theorem answered_contents {held : Buffer} (found : m.buffers.get? id = some held) :
    Answered (m.contents id) := by
  intro e failed
  simp [contents, buffer, found, bind, Except.bind, pure, Except.pure] at failed

theorem answered_read {held : Buffer} (found : m.buffers.get? id = some held) :
    Answered (m.read id count) := by
  intro e failed
  simp only [read, buffer, found, bind, Except.bind] at failed
  split at failed <;> cases failed
  rfl

theorem answered_write {held : Buffer} (found : m.buffers.get? id = some held) :
    Answered (m.write id data) := by
  intro e failed
  simp only [write, buffer, found, bind, Except.bind] at failed
  split at failed <;> cases failed
  rfl

/-- A write changes the content of one buffer. -/
theorem write_others (ran : m.write id data = .ok m') (differ : id ≠ other) :
    m'.buffers.get? other = m.buffers.get? other := by
  unfold write buffer at ran
  rcases found : m.buffers.get? id with _ | held <;> rw [found] at ran
  · cases ran
  · simp only [bind, Except.bind] at ran
    rcases written : held.overwrite? data with _ | new <;> rw [written] at ran <;> cases ran
    simp only [Table.get?_insert, if_neg differ]

end Memory

/-! ### The accesses of a launch -/

private theorem answered_bind {α : Type} {access : Except DeviceError BufferId}
    {next : BufferId → Except DeviceError α} (start : Answered access)
    (rest : ∀ id, access = .ok id → Answered (next id)) : Answered (access >>= next) := by
  cases access with
  | error e => exact fun e' failed => start e' (by cases failed; rfl)
  | ok id => exact rest id rfl

namespace Invocation

variable {v : Invocation} {m m' : Memory} {data : Bytes} {index : Nat}

private theorem Served.answered_bytes (served : v.Served m) (index : Nat) : Answered (v.bytes m index) := by
  refine answered_bind (answered_bufferId index) fun id bound => ?_
  obtain ⟨held, found⟩ := served id (holds_of_bufferId bound)
  exact Memory.answered_contents found

private theorem Served.answered_atomicsBytes (served : v.Served m) : Answered (v.atomicsBytes m) := by
  refine answered_bind answered_atomicsId fun id bound => ?_
  obtain ⟨held, found⟩ := served id (holds_of_atomicsId bound)
  exact Memory.answered_contents found

private theorem Served.answered_overwrite (served : v.Served m) (index : Nat) (data : Bytes) :
    Answered (v.overwrite m index data) := by
  refine answered_bind (answered_bufferId index) fun id bound => ?_
  obtain ⟨held, found⟩ := served id (holds_of_bufferId bound)
  exact Memory.answered_write found

private theorem Served.answered_overwriteAtomics (served : v.Served m) (data : Bytes) :
    Answered (v.overwriteAtomics m data) := by
  refine answered_bind answered_atomicsId fun id bound => ?_
  obtain ⟨held, found⟩ := served id (holds_of_atomicsId bound)
  exact Memory.answered_write found

private theorem overwrite_ok (ran : v.overwrite m index data = .ok m') :
    ∃ id, v.Holds id ∧ m.write id data = .ok m' := by
  unfold overwrite at ran
  rcases bound : v.bufferId index with e | id <;> rw [bound] at ran
  · cases ran
  · exact ⟨id, holds_of_bufferId bound, ran⟩

private theorem overwriteAtomics_ok (ran : v.overwriteAtomics m data = .ok m') :
    ∃ id, v.Holds id ∧ m.write id data = .ok m' := by
  unfold overwriteAtomics at ran
  rcases bound : v.atomicsId with e | id <;> rw [bound] at ran
  · cases ran
  · exact ⟨id, holds_of_atomicsId bound, ran⟩

end Invocation

namespace KernelProgram

variable {α : Type} {v : Invocation} {m : Memory} {program : KernelProgram α}

/-- Where every buffer of the launch is alive, an honest program has no error about a handle. -/
theorem Honest.run (honest : program.Honest) (served : v.Served m) :
    Answered (program.run v m).result := by
  induction program generalizing m with
  | done value => exact answered_ok value
  | fail error =>
    rintro _ ⟨⟩
    exact honest
  | read index next ih => exact ih _ (honest _ (served.answered_bytes index)) served
  | readAtomics next ih => exact ih _ (honest _ served.answered_atomicsBytes) served
  | report entry next ih => exact ih honest served
  | write index data next ih =>
    have answered := served.answered_overwrite index data
    simp only [KernelProgram.run]
    rcases wrote : v.overwrite m index data with e | m' <;> rw [wrote] at answered
    · exact ih _ (honest _ fun e' same => answered e' (by cases same; rfl)) served
    · obtain ⟨_, _, ran⟩ := Invocation.overwrite_ok wrote
      exact ih _ (honest _ (answered_ok _)) (served.later (Memory.overwrites_write ran))
  | writeAtomics data next ih =>
    have answered := served.answered_overwriteAtomics data
    simp only [KernelProgram.run]
    rcases wrote : v.overwriteAtomics m data with e | m' <;> rw [wrote] at answered
    · exact ih _ (honest _ fun e' same => answered e' (by cases same; rfl)) served
    · obtain ⟨_, _, ran⟩ := Invocation.overwriteAtomics_ok wrote
      exact ih _ (honest _ (answered_ok _)) (served.later (Memory.overwrites_write ran))

private theorem honest_ofExcept {answer : Except DeviceError α} (answered : Answered answer) :
    (ofExcept answer).Honest := by
  cases answer with
  | ok value => trivial
  | error e => exact answered e rfl

/-- To replace elements raises no error of its own. -/
theorem honest_mapElements (e : Element) (source target : Nat) (change : Nat → Nat) :
    (Kernel.mapElements e source target change).Honest := by
  intro answer answered
  cases answer with
  | error failure => exact answered failure rfl
  | ok bytes => exact fun stored answered => honest_ofExcept answered

/-- A program leaves alone what its launch was not given. -/
theorem run_others (program : KernelProgram α) (m : Memory) {id : BufferId} (foreign : ¬ v.Holds id) :
    (program.run v m).memory.buffers.get? id = m.buffers.get? id := by
  have kept {m m' : Memory} {data : Bytes}
      (wrote : ∃ other, v.Holds other ∧ m.write other data = .ok m') :
      m'.buffers.get? id = m.buffers.get? id := by
    obtain ⟨other, holds, ran⟩ := wrote
    exact Memory.write_others ran fun same => foreign (same ▸ holds)
  induction program generalizing m with
  | done value => rfl
  | fail error => rfl
  | read index next ih => exact ih _ m
  | readAtomics next ih => exact ih _ m
  | report entry next ih => exact ih m
  | write index data next ih =>
    simp only [KernelProgram.run]
    rcases wrote : v.overwrite m index data with e | m'
    · exact ih _ m
    · exact (ih _ m').trans (kept (Invocation.overwrite_ok wrote))
  | writeAtomics data next ih =>
    simp only [KernelProgram.run]
    rcases wrote : v.overwriteAtomics m data with e | m'
    · exact ih _ m
    · exact (ih _ m').trans (kept (Invocation.overwriteAtomics_ok wrote))

end KernelProgram
end Offload
