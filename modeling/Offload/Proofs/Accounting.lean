import Offload.Code.Assembly
import Offload.Proofs.History
import Offload.Proofs.Release

/-! The budget is exact. In every history the bytes charged to a context are the bytes that its machines
have bound, failures, resets and other machines in between included; what is taken off was charged
before, so that nothing is lost by stopping at zero. -/
namespace Offload

namespace Workspace

variable {w : Workspace} {seat index : Nat} {s t : Session}

/-- The bytes that the machine at a seat has bound. -/
def seatBytes : Option Seat → Nat
  | none => 0
  | some taken => taken.machine.bindings.boundBytes

/-- The bytes that all machines have bound. -/
def boundBytes (w : Workspace) : Nat :=
  (w.seats.map seatBytes).sum

/-- The budget is charged with what is bound, and each bound buffer comes from the device of its
machine. -/
structure Balanced (w : Workspace) : Prop where
  usage : w.context.memory.usage = w.boundBytes
  issued : ∀ taken, some taken ∈ w.seats → ∀ device, w.devices[taken.device]? = some device →
    taken.machine.bindings.IssuedBy device.memory

/-- For one machine the others are so many bytes besides. -/
theorem books_of_balanced (balanced : w.Balanced) (present : w.session? seat = some (index, s)) :
    ∃ others, s.Books others ∧ w.boundBytes = s.machine.bindings.boundBytes + others := by
  obtain ⟨m, device, seated, found, rfl⟩ := session?_eq_some.1 present
  have parts := sum_map_set seatBytes none seated
  have charged := balanced.usage
  simp only [seatBytes, Nat.add_zero] at parts
  refine ⟨((w.seats.set seat none).map seatBytes).sum, ⟨?_, ?_⟩, ?_⟩
  · show w.context.memory.usage = m.bindings.boundBytes + _
    rw [charged, boundBytes]
    omega
  · exact balanced.issued ⟨index, m⟩ (List.mem_of_getElem? seated) device found
  · show (w.seats.map seatBytes).sum = m.bindings.boundBytes + _
    omega

private theorem balanced_devices (balanced : w.Balanced) {device device' : Device}
    (found : w.devices[index]? = some device) (grows : device.memory.Grows device'.memory) :
    ({ w with devices := w.devices.set index device' } : Workspace).Balanced := by
  have inDevices : index < w.devices.length := (List.getElem?_eq_some_iff.1 found).1
  refine ⟨balanced.usage, ?_⟩
  intro taken member other present
  change (w.devices.set index device')[taken.device]? = some other at present
  by_cases same : index = taken.device
  · rw [← same, List.getElem?_set_self inDevices] at present
    cases present
    exact Bindings.issuedBy_later (balanced.issued taken member device (same ▸ found)) grows
  · rw [List.getElem?_set_ne same] at present
    exact balanced.issued taken member other present

/-- Work that keeps the books of its machine keeps the balance. -/
theorem balanced_update (balanced : w.Balanced) (present : w.session? seat = some (index, s))
    (continues : Machine.Continues s t) : (w.update seat index t).Balanced := by
  obtain ⟨others, books, whole⟩ := books_of_balanced balanced present
  have after := continues.accounts others books
  obtain ⟨m, device, seated, found, rfl⟩ := session?_eq_some.1 present
  have moved := balanced_devices balanced found continues.device.memory
  refine ⟨?_, ?_⟩
  · have parts := sum_map_set seatBytes (some ⟨index, t.machine⟩) seated
    have before : (w.seats.map seatBytes).sum = m.bindings.boundBytes + others := whole
    simp only [seatBytes] at parts
    show t.context.memory.usage = ((w.seats.set seat (some ⟨index, t.machine⟩)).map seatBytes).sum
    rw [after.usage]
    omega
  · intro taken member other present'
    change (w.devices.set index t.device)[taken.device]? = some other at present'
    rcases List.mem_or_eq_of_mem_set member with earlier | new
    · exact moved.issued taken earlier other present'
    · cases new
      rw [List.getElem?_set_self (List.getElem?_eq_some_iff.1 found).1] at present'
      cases present'
      exact after.issued

/-- A seat that holds no bytes and no buffers does not weigh. -/
theorem balanced_seat (balanced : w.Balanced) {context : Context}
    (usage : context.memory.usage = w.context.memory.usage) {entry : Option Seat}
    (unbound : ∀ taken, entry = some taken → ∃ c, taken.machine.bindings = .ofContext c) :
    ({ w with context, seats := w.seats ++ [entry] } : Workspace).Balanced := by
  have empty : seatBytes entry = 0 := by
    rcases entry with _ | taken
    · rfl
    · obtain ⟨c, bindings⟩ := unbound taken rfl
      show taken.machine.bindings.boundBytes = 0
      rw [bindings, Bindings.boundBytes_ofContext]
  refine ⟨?_, ?_⟩
  · show context.memory.usage = ((w.seats ++ [entry]).map seatBytes).sum
    rw [usage, balanced.usage, List.map_append, List.sum_append, List.map_singleton, List.sum_cons, empty]
    rfl
  · intro taken member device found
    rcases List.mem_append.1 member with earlier | new
    · exact balanced.issued taken earlier device found
    · obtain ⟨c, bindings⟩ := unbound taken (List.mem_singleton.1 new).symm
      rw [bindings]
      exact Bindings.issuedBy_of_unbound (Bindings.buffer?_ofContext c)

private theorem balanced_step {before after : Workspace} (balanced : before.Balanced)
    (step : Step before after) : after.Balanced := by
  cases step with
  | build device program config =>
    rcases build_cases before device program config with same | ⟨d, site, found, kept, seat, same, fresh⟩
    · rw [same]
      exact balanced_seat balanced rfl fun taken absent => nomatch absent
    · rw [same]
      refine balanced_seat (balanced_devices balanced found kept.device.memory) kept.usage ?_
      intro taken here
      exact ⟨site.1, (fresh taken here).2.bindings⟩
  | machine seat command =>
    rcases present : before.session? seat with _ | ⟨index, s⟩
    · rw [onMachine_absent present]
      exact balanced
    · rw [onMachine_present present]
      exact balanced_update balanced present (continues_command command s)
  | device index command =>
    rcases present : before.devices[index]? with _ | device
    · rw [onDevice_absent present]
      exact balanced
    · rw [onDevice_present present]
      exact balanced_devices balanced present (command.grows device)
  | setLimit limit => exact ⟨balanced.usage, balanced.issued⟩
  | setObject index object => exact ⟨balanced.usage, balanced.issued⟩

theorem balanced_of_reachable (reachable : w.Reachable) : w.Balanced := by
  induction reachable with
  | start context devices unused => exact ⟨unused, fun _ member => nomatch member⟩
  | step _ step balanced => exact balanced_step balanced step

end Workspace

namespace Machine

/-- A session right after its device was reset. -/
def afterReset (s : Session) : Session :=
  { s with device := (Device.reset s.device).state }

/-- Whatever a machine takes off the budget was on it, and it is taken off once. -/
structure Exact (s : Session) : Prop where
  release : ∀ object freed t, Op.Yields (dealloc object) s freed t → usage t + freed = usage s
  releaseAll : ∀ freed t, Op.Yields freeDeviceMemory s freed t → usage t + freed = usage s
  forget : ∀ bytes t, Op.Yields forgetBuffers s bytes t → usage t + bytes = usage s
  /-- An allocation of unbound objects is undone by their release, and the release goes through. -/
  restore : ∀ batchSize objects t, (∀ o ∈ objects, bufferOf s o.toNat = none) →
    Op.Yields (alloc batchSize objects) s () t →
      ∃ freed u, Op.Yields (deallocAll (objects.map UInt32.toNat)) t freed u ∧ usage u = usage s
  /-- After a reset the bytes are forgotten on request, and the next pass does not forget them again. -/
  reset : ∀ bytes t, Op.Yields forgetBuffers (afterReset s) bytes t →
    usage t + s.machine.bindings.boundBytes = usage s ∧ usage (startPass t).state = usage t

variable {s t : Session} {others : Nat}

/-- When nothing is bound, the notice of a reset takes nothing off. -/
theorem usage_startPass (unbound : s.machine.bindings.boundBytes = 0) :
    usage (startPass s).state = usage s := by
  have emptied : (startPass s).state =
      (syncEpoch { s with machine.lists := s.machine.lists.resetAll }).state := rfl
  rw [emptied]
  by_cases current : s.device.epoch = s.machine.epoch
  · rw [(syncEpoch_current (by exact current)).2]
  rcases finished : s.machine.finishedWarmup with _ | _
  · rw [(syncEpoch_notice (by exact current) (by exact finished)).2]
    show s.context.memory.usage - s.machine.bindings.boundBytes = s.context.memory.usage
    rw [unbound, Nat.sub_zero]
  · rw [(syncEpoch_fatal (by exact current) (by exact finished)).2]

private theorem exact_of_books (books : s.Books others) : Exact s where
  release object freed t ran := (dealloc_exact books ran).1
  releaseAll freed t ran := (freeDeviceMemory_exact books ran).1
  forget bytes t ran := (forgetBuffers_exact books ran).2.1
  restore batchSize objects t unbound ran := alloc_dealloc_restores books unbound ran
  reset bytes t ran := by
    have booksReset : (afterReset s).Books others :=
      ⟨books.usage, Bindings.issuedBy_later books.issued (Memory.grows_clear _)⟩
    obtain ⟨rfl, taken, unbound, _⟩ := forgetBuffers_exact booksReset ran
    exact ⟨taken, usage_startPass unbound⟩

end Machine

namespace Workspace

variable {w : Workspace}

/-- In every history the usage is the sum of what the machines have bound, and each machine takes off
exactly what it has bound. -/
theorem usage_eq_boundBytes (reachable : w.Reachable) :
    w.context.memory.usage = w.boundBytes ∧
      ∀ seat device s, w.session? seat = some (device, s) → Machine.Exact s := by
  have balanced := balanced_of_reachable reachable
  refine ⟨balanced.usage, ?_⟩
  intro seat device s present
  obtain ⟨others, books, _⟩ := books_of_balanced balanced present
  exact Machine.exact_of_books books

/-- Two machines that each allocate 16 bytes on one device, which is then reset; only the first one
forgets its buffers. -/
def sharedDevice : Workspace :=
  let program := Assembly.bytes
    { instructions := [.context 0, .beginPass, .alloc 0 [0], .endPass] }
  let config : Config := { useDependencies := false }
  let start : Workspace :=
    { context := { name := "shared", objects := [{ object := .array (.zeroed .i32 4) }] }
      devices := [{}] }
  let first := (start.build 0 program config).state
  let second := (first.build 0 program config).state
  let third := (second.onMachine 0 (MachineCommand.execute .run).run).state
  let fourth := (third.onMachine 1 (MachineCommand.execute .run).run).state
  let fifth := (fourth.onDevice 0 DeviceCommand.reset.run).state
  (fifth.onMachine 0 MachineCommand.forgetBuffers.run).state

private theorem sharedDevice_reachable : sharedDevice.Reachable := by
  refine .step ?_ (.machine _ 0 .forgetBuffers)
  refine .step ?_ (.device _ 0 .reset)
  refine .step ?_ (.machine _ 1 (.execute .run))
  refine .step ?_ (.machine _ 0 (.execute .run))
  refine .step ?_ (.build _ 0 _ _)
  refine .step ?_ (.build _ 0 _ _)
  exact .start _ _ rfl

/-- After the reset one machine still counts its buffer, and the other one has let go of its own. -/
theorem sharedDevice_boundBytes : sharedDevice.Reachable ∧ sharedDevice.boundBytes = 16 := by
  have exact := usage_eq_boundBytes sharedDevice_reachable
  have usage : sharedDevice.context.memory.usage = 16 := by decide +kernel
  exact ⟨sharedDevice_reachable, exact.1 ▸ usage⟩

end Workspace
end Offload
