import Offload.Proofs.AtomicsSlot
import Offload.Proofs.Binaries
import Offload.Proofs.Commands

/-! Epochs. Only a reset begins a new epoch of a device, ids are given out in ascending order, and a reset
has the device forget where it wrote atomics. A machine knows one epoch; its binaries are of that epoch, and
when it gets to know another one, the binaries that it had are gone. -/
namespace Offload

namespace Memory

/-- The buffer was handed out between the two states of a memory. -/
def Gave (before after : Memory) (b : DeviceBuffer) : Prop :=
  before.nextId ≤ b.id ∧ after.Issued b

variable {before middle after : Memory} {b : DeviceBuffer}

/-- What was given stays given. -/
theorem Gave.later (gave : before.Gave middle b) (grows : middle.Grows after) : before.Gave after b :=
  ⟨gave.1, issued_later gave.2 grows⟩

/-- What was given later was given since any time before. -/
theorem Gave.earlier (gave : middle.Gave after b) (grows : before.Grows middle) : before.Gave after b :=
  ⟨Nat.le_trans grows.nextId gave.1, gave.2⟩

private theorem gave_addBuffer (m : Memory) (size : Nat) : m.Gave (m.addBuffer size).2 (m.addBuffer size).1 := by
  refine ⟨Nat.le_refl _, Nat.lt_succ_self _, fun held found => ?_⟩
  change (m.buffers.insert m.nextId (.zeroed size)).get? m.nextId = some held at found
  rw [Table.get?_insert, if_pos rfl] at found
  cases found
  rfl

end Memory

namespace Device

/-- No epoch comes back and no id is given out again. The buffer that atomics are written to is a new one,
or it is the one from before and the epoch is too. -/
structure Ages (before after : Device) : Prop where
  memory : before.memory.Grows after.memory
  epoch : before.epoch ≤ after.epoch
  atomics : ∀ b, after.atomics = some b →
    before.memory.Gave after.memory b ∨ after.epoch = before.epoch ∧ before.atomics = some b

instance : Op.Transition Ages where
  refl _ := ⟨Op.Transition.refl _, Nat.le_refl _, fun _ remembered => .inr ⟨rfl, remembered⟩⟩
  trans first second := by
    refine ⟨Op.Transition.trans first.memory second.memory, Nat.le_trans first.epoch second.epoch, ?_⟩
    intro b remembered
    rcases second.atomics b remembered with new | ⟨same, earlier⟩
    · exact .inl (new.earlier first.memory)
    · rcases first.atomics b earlier with new | ⟨same', oldest⟩
      · exact .inl (new.later second.memory)
      · exact .inr ⟨same.trans same', oldest⟩

variable {before after : Device}

/-- Within an epoch, the buffer for atomics stays. -/
theorem ages_of_same (memory : before.memory.Grows after.memory) (epoch : after.epoch = before.epoch)
    (atomics : after.atomics = before.atomics) : Ages before after :=
  ⟨memory, Nat.le_of_eq epoch.symm, fun _ remembered => .inr ⟨epoch, atomics ▸ remembered⟩⟩

/-- A new buffer for atomics gets an id that was not given out before, and a reset begins a new epoch without one. -/
instance : Tolerates [] Ages where
  change other change := by
    have grows : Grows _ _ := Tolerates.change other change
    cases change with
    | renew =>
      refine ⟨grows, Nat.le_refl _, ?_⟩
      rintro b ⟨⟩
      exact .inl (Memory.gave_addBuffer _ _)
    | reset => exact ⟨grows, Nat.le_succ _, fun _ remembered => nomatch remembered⟩
    | _ => exact ages_of_same grows rfl rfl

instance survives_ages : Survives Ages := survives_of_allowed (by decide)

end Device

/-- Whatever a device is asked for, no epoch comes back and no id is given out again. -/
theorem DeviceCommand.ages (command : DeviceCommand) : Op.Moves command.run Device.Ages :=
  command.within (by simp)

namespace Session

/-- The device is in the epoch that it was in, the machine knows the epoch that it knew or the one of the
device, and its binaries are of the epoch that it knows if they were so before. -/
structure Tracks (before after : Session) : Prop where
  device : after.device.epoch = before.device.epoch
  machine : after.machine.epoch = before.machine.epoch ∨ after.machine.epoch = before.device.epoch
  dated : before.machine.cache.Dated before.machine.epoch → after.machine.cache.Dated after.machine.epoch

instance : Op.Transition Tracks where
  refl _ := ⟨rfl, .inl rfl, id⟩
  trans first second := by
    refine ⟨second.device.trans first.device, ?_, second.dated ∘ first.dated⟩
    rcases second.machine with same | current
    · rcases first.machine with same' | current
      · exact .inl (same.trans same')
      · exact .inr (same.trans current)
    · exact .inr (current.trans first.device)

/-- Where a session is kept, so are its epochs. -/
theorem tracks_of_keeps (s t : Session) (kept : Keeps s t) : Tracks s t := by
  refine ⟨kept.frames.device.epoch, .inl kept.frames.epoch, ?_⟩
  rw [kept.frames.cache, kept.frames.epoch]
  exact id

/-- Another cache whose binaries are of the same epoch. -/
theorem tracks_cache {change : Machine → Machine} (epoch : ∀ m, (change m).epoch = m.epoch)
    (dated : ∀ m, m.cache.Dated m.epoch → (change m).cache.Dated m.epoch) :
    Op.Moves (modifyMachine change) Tracks := by
  refine Op.moves_modify fun s => ⟨rfl, .inl (epoch _), fun before => ?_⟩
  dsimp only
  rw [epoch]
  exact dated _ before

end Session

namespace Machine
open Session (Tracks tracks_of_keeps tracks_cache)

variable {s : Session} {l : Launch}

private theorem dated_clear (c : CodeCache) (epoch : Nat) : c.clear.Dated epoch := by
  intro slot member code found
  obtain ⟨_, _, rfl⟩ := List.mem_map.1 member
  cases found

/-- A machine without code has none of another epoch. -/
theorem tracks_clearCode : Op.Moves clearCode Tracks :=
  tracks_cache (fun _ => rfl) fun m _ => dated_clear m.cache m.epoch

/-- Forgotten buffers leave the binaries alone. -/
theorem tracks_forgetBuffers : Op.Moves forgetBuffers Tracks := by
  intro s
  rw [(forgetBuffers_yields s).2]
  exact ⟨rfl, .inl rfl, id⟩

private theorem tracks_afterNotice (s : Session) : Tracks s (afterNotice s) :=
  ⟨rfl, .inr rfl, fun _ => dated_clear s.machine.cache s.device.epoch⟩

/-- A machine that gets to know another epoch has lost its binaries. -/
theorem tracks_syncEpoch : Op.Moves syncEpoch Tracks := by
  intro s
  by_cases current : s.device.epoch = s.machine.epoch
  · rw [(syncEpoch_current current).2]
    exact Op.Transition.refl s
  rcases finished : s.machine.finishedWarmup with _ | _
  · rw [(syncEpoch_notice current finished).2]
    exact tracks_afterNotice s
  · rw [(syncEpoch_fatal current finished).2]
    exact Op.Transition.refl s

/-- A new schedule brings in no binary. -/
theorem tracks_setSchedule (schedule : GridSchedule) : Op.Moves (setSchedule schedule) Tracks :=
  moves_setSchedule
    (fun index => tracks_cache (fun _ => rfl) fun _ dated => CodeCache.dated_forceRecompile dated index)
    fun _ => ⟨rfl, .inl rfl, id⟩

/-- A machine that is up to date fits a slot with binaries of the epoch that it knows. -/
theorem tracks_fitCode (current : s.device.epoch = s.machine.epoch) : Tracks s (fitCode l s).state := by
  have prepares (task : Task) : Tracks s (prepared s l task) :=
    ⟨rfl, .inl rfl, fun dated => CodeCache.dated_prepare dated _ _ _⟩
  rcases fitCode_cases l s with ⟨e, _, _, same⟩ | ⟨task, _, ⟨_, _, same⟩ | ⟨_, _, same⟩⟩ <;> rw [same]
  · exact Op.Transition.refl s
  · exact prepares task
  rcases buildCode_cases (prepared s l task) l.task.toNat task with ⟨e, _, _, kept⟩ | ⟨_, _, built⟩
  · rw [kept]
    exact prepares task
  · rw [built]
    refine Op.Transition.trans (prepares task) ⟨rfl, .inl rfl, fun dated => ?_⟩
    exact CodeCache.dated_install dated _ _ current

/-- A compilation brings in binaries of the epoch of the device. -/
theorem tracks_compile (l : Launch) : Op.Moves (compile l) Tracks := by
  intro s
  rcases compile_state l s with ⟨_, _, state⟩ | ⟨_, _, state⟩ | ⟨current, state⟩ <;> rw [state]
  · exact Op.Transition.refl s
  · exact Op.Transition.trans (tracks_afterNotice s) (tracks_fitCode rfl)
  · exact tracks_fitCode current

private theorem respected_tracks : Respected Tracks where
  frame := tracks_of_keeps
  sync := tracks_syncEpoch
  forget := tracks_forgetBuffers
  clear := tracks_clearCode
  schedule := tracks_setSchedule

end Machine

/-- Whatever a machine is asked for, it keeps track of its epoch. -/
theorem Session.tracks_command (command : MachineCommand) (s : Session) : Tracks s (command.run s).state :=
  Machine.respected_tracks.command command s fun l _ => Machine.tracks_compile l

end Offload
