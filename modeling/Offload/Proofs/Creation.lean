import Offload.Proofs.Session

/-! New machines. Building one may load the device and set the limit of the budget, and does nothing
else outside; the machine has bound nothing and compiled nothing. -/
namespace Offload.Machine

variable {site site' : Site} {m : Machine} {bytes : Bytes} {config : Config}

/-- The usage, the tasks and the device are kept, whatever becomes of the machine. -/
structure SiteKeeps (before after : Site) : Prop where
  usage : after.1.memory.usage = before.1.memory.usage
  tasks : after.1.tasks = before.1.tasks
  device : Device.Works before.2 after.2

instance : Op.Transition SiteKeeps where
  refl _ := ⟨rfl, rfl, Op.Transition.refl _⟩
  trans first second :=
    ⟨second.usage.trans first.usage, second.tasks.trans first.tasks,
      Op.Transition.trans first.device second.device⟩

/-- The prologue of a program loads the device at most. -/
theorem moves_prologue {R : Device → Device → Prop} [Op.Transition R] (loads : Op.Moves Device.ensureLoaded R)
    (info : DeviceInfo) (stop : ScanStop) (entries : List Entry) : Op.Moves (prologue info stop entries) R := by
  induction entries with
  | nil => exact Op.moves_fail _
  | cons entry rest ih =>
    obtain ⟨offset, i⟩ := entry
    cases i with
    | context declared =>
      exact Op.moves_ite (Op.moves_bind (Op.moves_mapError loads) fun _ => ih) (Op.moves_fail _)
    | beginPass => exact Op.moves_pure _
    | _ => exact Op.moves_fail _

theorem siteKeeps_create (bytes : Bytes) (config : Config) :
    Op.Moves (create bytes config) SiteKeeps := by
  have loads : Op.Moves Device.ensureLoaded Device.Works := Device.moves_within Device.only_ensureLoaded (by decide)
  unfold create
  split
  · exact Op.moves_fail _
  refine Op.moves_bind Op.moves_get fun site => ?_
  refine Op.moves_bind (Op.moves_onPart (moves_prologue loads _ _ _) fun site device works => ?_) fun _ => ?_
  · exact ⟨rfl, rfl, works⟩
  refine Op.moves_bind (Op.moves_modify fun site => ?_) fun _ => ?_
  · obtain ⟨context, device⟩ := site
    cases config.memoryLimit with
    | none => exact Op.Transition.refl _
    | some limit => exact ⟨rfl, rfl, Op.Transition.refl _⟩
  refine Op.moves_bind Op.moves_get fun site => ?_
  exact Op.moves_bind (Op.moves_emit _) fun _ => Op.moves_pure _

/-- The machine stands behind the BEGIN of its program, with the event lists that the header declares. -/
def Opened (m : Machine) : Prop :=
  ∃ bytes header cursor position, Op.Yields Cursor.readHeader (.ofBytes bytes) header cursor ∧
    m.program = { cursor with position, marked := position } ∧ m.lists.size = header.eventLists ∧
    ∃ info device device',
      Op.Yields (prologue info cursor.scan.stop cursor.scan.entries) device position device'

/-- A machine that has not done anything yet, where it was built. -/
structure Fresh (m : Machine) (site : Site) (config : Config) : Prop where
  epoch : m.epoch = site.2.epoch
  config : m.config = config
  bindings : m.bindings = .ofContext site.1
  cache : m.cache = .create site.1.tasks.length
  finishedWarmup : m.finishedWarmup = false
  sized : m.Sized
  opened : m.Opened

theorem create_fresh (ran : Op.Yields (create bytes config) site m site') : m.Fresh site' config := by
  have kept := siteKeeps_create bytes config site
  rw [ran.2] at kept
  unfold create at ran
  split at ran
  · simp at ran
  next header cursor log read =>
    simp only [onSiteDevice, Op.yields_bind, Op.yields_get, Op.yields_modify, Op.yields_emit, Op.yields_pure,
      Op.yields_onPart] at ran
    obtain ⟨_, _, ⟨rfl, rfl⟩, position, _, ⟨device, declared, _⟩, _, _, _, _, _, ⟨rfl, rfl⟩, _, _, rfl, rfl, rfl⟩ :=
      ran
    have opened : Op.Yields Cursor.readHeader (.ofBytes bytes) header cursor := by
      rw [Op.Yields, read]
      exact ⟨rfl, rfl⟩
    exact ⟨kept.device.epoch.symm, rfl, rfl, rfl, rfl, rfl, bytes, header, cursor, position, opened, rfl,
      List.length_replicate, _, _, _, declared⟩

end Offload.Machine
