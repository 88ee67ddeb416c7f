import Offload.Code.Assembly
import Offload.Kernel.Catalogue
import Offload.Proofs.PlanHistory
import Offload.Proofs.ScheduledGrids

/-! Launches over scheduled grids. What a machine launches was compiled for the grid that is scheduled, and runs
over it: in every history of machines, in which the parts of passes are steps of their own, and for the
machines of plans too. -/
namespace Offload

namespace Machine

variable {s : Session} {l : Launch}

/-- What a fit does to the device is the compilation that it calls for. -/
theorem fitCode_device (l : Launch) (s : Session) :
    (fitCode l s).state.device =
      match compilation? s l with
      | none => s.device
      | some request => (Device.installCode request s.device).state := by
  rcases fitCode_cases l s with ⟨e, unknown, _, same⟩ | ⟨task, known, ⟨fits, _, same⟩ | ⟨due, _, same⟩⟩ <;>
    rw [same]
  · have absent : s.context.tasks[l.task.toNat]? = none := by
      unfold Context.task at unknown
      split at unknown
      · cases unknown
      · assumption
    rw [compilation?, absent]
    rfl
  · rw [compilation?_known (task_ok_iff.1 known), if_neg (by simp [fits])]
    rfl
  · rw [compilation?_known (task_ok_iff.1 known), if_pos due]
    rcases buildCode_cases (prepared s l task) l.task.toNat task with ⟨e, refused, _, kept⟩ | ⟨accepted, built⟩ <;>
      rcases Device.installCode_cases s.device (requestOf (prepared s l task) l.task.toNat task) with
        ⟨e', refused', _, kept'⟩ | ⟨accepted', built'⟩
    · rw [kept]
      exact kept'.symm
    · cases refused.symm.trans accepted'
    · cases accepted.symm.trans refused'
    · rw [built.2]
      exact built'.2.symm

/-- A schedule that says the same about a task as the one before makes no difference to the device: not now, and
not at the next launch of the task. -/
theorem compile_setSchedule {schedule : GridSchedule}
    (same : ∀ task, s.context.tasks[l.task.toNat]? = some task →
      s.machine.schedule.get? task.id = schedule.get? task.id) :
    (compile l (setSchedule schedule s).state).state.device = (compile l s).state.device := by
  have asked := compilation?_setSchedule same
  obtain ⟨cache, scheduled, slots⟩ := setSchedule_slots schedule s
  have slot : cache.slots[l.task.toNat]? = s.machine.cache.slots[l.task.toNat]? := by
    rw [slots]
    rcases known : s.context.tasks[l.task.toNat]? with _ | task
    · exact map_rescheduled_none _ _ _
    · rw [show CacheSlot.rescheduled s.machine.schedule schedule (some task) = id from
        funext fun slot => if_pos (same task known), Option.map_id_apply]
  rw [scheduled] at asked ⊢
  rcases compile_state l s with ⟨reset, finished, state⟩ | ⟨reset, unfinished, state⟩ | ⟨current, state⟩ <;>
    rcases compile_state l ({ s with machine.cache := cache, machine.schedule := schedule } : Session) with
      ⟨reset', finished', state'⟩ | ⟨reset', unfinished', state'⟩ | ⟨current', state'⟩ <;>
    rw [state, state']
  · cases finished.symm.trans unfinished'
  · exact absurd current' reset
  · cases unfinished.symm.trans finished'
  · have noticed : compilation? (afterNotice { s with machine.cache := cache, machine.schedule := schedule }) l =
        compilation? (afterNotice s) l := by
      refine compilation?_congr rfl ?_ fun task known => (same task known).symm
      show cache.clear.slots[_]? = s.machine.cache.clear.slots[_]?
      rw [CodeCache.clear, CodeCache.clear, List.getElem?_map, List.getElem?_map, slot]
    rw [fitCode_device, fitCode_device, noticed]
    rfl
  · exact absurd current' reset
  · exact absurd current reset'
  · exact absurd current reset'
  · rw [fitCode_device, fitCode_device, asked]

end Machine

/-- Where a machine is after it was asked for one thing after the other. -/
def Session.after (s : Session) (commands : List MachineCommand) : Session :=
  commands.foldl (fun s command => (command.run s).state) s

private theorem Session.Scheduled.after {s : Session} (scheduled : s.Scheduled) (commands : List MachineCommand) :
    (s.after commands).Scheduled := by
  induction commands generalizing s with
  | nil => exact scheduled
  | cons command rest ih => exact ih ((command.schedules s).scheduled scheduled)

/-- What the machine of a plan works on, once it has one. -/
def PlanSession.working? (s : PlanSession) : Option Session := do
  let machine ← s.plan.machine
  let device ← s.registry.devices[s.plan.device]?
  some ⟨s.context, device, machine⟩

namespace Planner

variable {permits : DeviceCommand → Prop} {p : Planner} {slot : Nat} {plan : Plan} {u : Session}

/-- A plan finds its machine in a history of machines. -/
theorem working_of_reachable (reachable : p.Reachable permits) (resets : permits .reset)
    (there : p.plan? slot = some plan) (working : (Plan.ensureMachine (p.session plan)).state.working? = some u) :
    ∃ w seat index, Workspace.Requested permits w ∧ w.session? seat = some (index, u) := by
  obtain ⟨w, seats, requested, housed⟩ := housed_of_reachable reachable resets
  obtain ⟨w', held, requested', seated, _⟩ :=
    PlanSession.hosted_ensureMachine (p.session plan) w (seats slot) requested (housed.seated there)
  obtain ⟨m, made, found⟩ := Option.bind_eq_some_iff.1 working
  obtain ⟨d, here, same⟩ := Option.bind_eq_some_iff.1 found
  cases same
  obtain ⟨k, _, seated'⟩ := seated.machine m made
  refine ⟨w', k, _, requested', Workspace.session?_eq_some.2 ⟨m, d, seated', ?_, ?_⟩⟩
  · rw [seated.devices]
    exact here
  · rw [seated.context]

end Planner

namespace Machine

/-- Whatever comes before a launch, its binary was compiled for the grid that is scheduled for its task, and it
runs over that grid or over the declared one, resized to its batch. So it is in every history of machines,
and for the machine of a plan, from its beginning on and at any point of what it is asked for. A schedule
that says the same about a task as the one before is no reason to compile it. -/
theorem launches_as_scheduled :
    (∀ (w : Workspace) (seat index : Nat) (s t : Session) (l : Launch) (code : Binary) (b : BoundLaunch),
        w.Reachable → w.session? seat = some (index, s) →
          Op.Yields (prepareLaunch l) s (code, b) t → s.AsScheduled l code b t.device) ∧
      (∀ (p : Planner) (slot : Nat) (plan : Plan) (u t : Session) (commands : List MachineCommand)
          (l : Launch) (code : Binary) (b : BoundLaunch),
        p.Reachable (fun _ => True) → p.plan? slot = some plan →
          (Plan.ensureMachine (p.session plan)).state.working? = some u →
            Op.Yields (prepareLaunch l) (u.after commands) (code, b) t →
              (u.after commands).AsScheduled l code b t.device) ∧
      ∀ (s : Session) (schedule : GridSchedule) (l : Launch),
        (∀ task, s.context.tasks[l.task.toNat]? = some task →
          s.machine.schedule.get? task.id = schedule.get? task.id) →
          (setSchedule schedule s).state.device = s.device ∧
            (compile l (setSchedule schedule s).state).state.device = (compile l s).state.device := by
  refine ⟨fun w seat index s t l code b reachable present ran => ?_,
    fun p slot plan u t commands l code b reachable there working ran => ?_,
    fun s schedule l same => ⟨?_, compile_setSchedule same⟩⟩
  · exact Session.asScheduled_of_prepareLaunch (Workspace.scheduled_of_reachable reachable present) ran
  · obtain ⟨w, seat, index, requested, present⟩ := Planner.working_of_reachable reachable trivial there working
    have scheduled := Workspace.scheduled_of_reachable requested.reachable present
    exact Session.asScheduled_of_prepareLaunch (scheduled.after commands) ran
  · obtain ⟨cache, scheduled, _⟩ := setSchedule_slots schedule s
    rw [scheduled]

end Machine

namespace Workspace

/-- A machine whose task was compiled for a scheduled grid; the schedule was taken back and set once more
before the next launch. -/
def swapped : Workspace :=
  let program := Assembly.bytes
    { instructions := [.context 0, .beginPass, .launch (launchOf 0), .endPass] }
  let start : Workspace :=
    { context := { name := "swapped", tasks := [{ id := "t", kernel := "noop" }] }
      devices := [Device.registerKernel {} "noop" fun _ => .done ()] }
  let wide : GridSchedule := GridSchedule.setGrid {} "t" { blocks := { x := 2 }, lanes := { x := 8 } }
  let built := (start.build 0 program { useDependencies := false }).state
  let scheduled := (built.onMachine 0 (MachineCommand.setSchedule wide).run).state
  let ran := (scheduled.onMachine 0 (MachineCommand.execute .run).run).state
  let back := (ran.onMachine 0 (MachineCommand.setSchedule {}).run).state
  (back.onMachine 0 (MachineCommand.setSchedule wide).run).state

private theorem swapped_reachable : swapped.Reachable := by
  refine .step ?_ (.machine _ 0 (.setSchedule _))
  refine .step ?_ (.machine _ 0 (.setSchedule _))
  refine .step ?_ (.machine _ 0 (.execute .run))
  refine .step ?_ (.machine _ 0 (.setSchedule _))
  refine .step ?_ (.build _ 0 _ _)
  exact .start _ _ rfl

/-- The launch compiles once more, for the grid that it compiled for before. -/
theorem swapped_as_scheduled : ∃ s t code b, swapped.session? 0 = some (0, s) ∧
    Op.Yields (Machine.prepareLaunch (launchOf 0)) s (code, b) t ∧
    t.device.compileLog.map (·.grid) = [some b.grid, some b.grid] ∧ b.grid.totalThreads? = some 16 ∧
    s.AsScheduled (launchOf 0) code b t.device := by
  have ran : (swapped.session? 0).any (fun seated => seated.1 = 0 ∧
      (Op.success? (Machine.prepareLaunch (launchOf 0)) seated.2).any fun launched =>
        launched.2.device.compileLog.map (·.grid) = [some launched.1.2.grid, some launched.1.2.grid] ∧
          launched.1.2.grid.totalThreads? = some 16) = true := by
    decide +kernel
  obtain ⟨⟨index, s⟩, present, same⟩ := (Option.any_eq_true _ _).1 ran
  obtain ⟨rfl, launches⟩ := of_decide_eq_true same
  obtain ⟨⟨⟨code, b⟩, t⟩, launched, recorded⟩ := (Option.any_eq_true _ _).1 launches
  obtain ⟨grids, threads⟩ := of_decide_eq_true recorded
  have yields : Op.Yields (Machine.prepareLaunch (launchOf 0)) s (code, b) t :=
    Op.yields_iff_success?.2 launched
  exact ⟨s, t, code, b, present, yields, grids, threads,
    Machine.launches_as_scheduled.1 _ _ _ _ _ _ _ _ swapped_reachable present yields⟩

end Workspace
end Offload
