import Offload.Proofs.Binaries
import Offload.Proofs.Commands

/-! The compile log of a device. Ids of binaries are given out one by one, and with each goes a record of
what was asked for. Neither is taken back, not even by a reset, so that the id of a binary leads to the
record of its compilation for as long as the device is there. -/
namespace Offload

namespace Device

variable {d d' : Device} {code : Binary} {id : CodeId} {α : Type}

/-- The device has built more binaries, or none, and has kept a record of each. -/
def Logs (before after : Device) : Prop :=
  ∃ records, after.compileLog = before.compileLog ++ records ∧
    after.nextCode = before.nextCode + records.length

instance : Op.Transition Logs where
  refl _ := ⟨[], by simp⟩
  trans first second := by
    obtain ⟨records, log, next⟩ := first
    obtain ⟨records', log', next'⟩ := second
    refine ⟨records ++ records', ?_, ?_⟩
    · rw [log', log, List.append_assoc]
    · rw [next', next, List.length_append, Nat.add_assoc]

/-- The record that goes with an id, when `next` is the id to be given out next. It is counted from the end
of the log, because nothing is said about the ids that a device starts with. -/
def recordAt? (log : List CompileRecord) (next id : Nat) : Option CompileRecord :=
  if id < next then log.reverse[next - (id + 1)]? else none

def recordOf? (d : Device) (id : CodeId) : Option CompileRecord :=
  recordAt? d.compileLog d.nextCode id

/-- The binary was compiled for the task at an index, from a request with this grid. -/
def BuiltFor (d : Device) (code : Binary) (index : Nat) (grid : Option Grid) : Prop :=
  ∃ forced, d.recordOf? code.id =
    some ⟨code.kernel, index, code.batchThreads, code.batchSize, code.batchNumber, grid, forced⟩

/-- Later records leave it where its id leads. -/
theorem recordAt?_append {log : List CompileRecord} {next id : Nat} {record : CompileRecord}
    (records : List CompileRecord) (recorded : recordAt? log next id = some record) :
    recordAt? (log ++ records) (next + records.length) id = some record := by
  unfold recordAt? at recorded ⊢
  split at recorded
  · have length : records.reverse.length = records.length := List.length_reverse
    rw [if_pos (by omega), List.reverse_append, List.getElem?_append_right (by omega), ← recorded]
    congr 1
    omega
  · cases recorded

private theorem recordOf?_later {record : CompileRecord} (logs : Logs d d')
    (recorded : d.recordOf? id = some record) : d'.recordOf? id = some record := by
  obtain ⟨records, log, next⟩ := logs
  unfold recordOf?
  rw [log, next]
  exact recordAt?_append records recorded

theorem builtFor_later {index : Nat} {grid : Option Grid} (logs : Logs d d')
    (built : d.BuiltFor code index grid) : d'.BuiltFor code index grid := by
  obtain ⟨forced, recorded⟩ := built
  exact ⟨forced, recordOf?_later logs recorded⟩

/-- A new binary has the record of the request that it was built from. -/
theorem builtFor_install (d : Device) (request : CompileRequest) :
    (d.afterInstall request).BuiltFor (d.binaryFor request) request.taskIndex request.grid := by
  refine ⟨request.force, ?_⟩
  show recordAt? (d.compileLog ++ [_]) (d.nextCode + 1) d.nextCode = _
  unfold recordAt?
  rw [if_pos (Nat.lt_succ_self _), List.reverse_append, Nat.sub_self]
  rfl

/-! ### Every operation keeps the records -/

private theorem logs_of_same (log : d'.compileLog = d.compileLog) (next : d'.nextCode = d.nextCode) :
    Logs d d' := ⟨[], by simp [log], by simp [next]⟩

instance : Tolerates [] Logs where
  change _ change := by
    cases change with
    | install d record => exact ⟨[record], rfl, rfl⟩
    | _ => exact logs_of_same rfl rfl

instance survives_logs : Survives Logs := survives_of_allowed (by decide)

end Device

end Offload
