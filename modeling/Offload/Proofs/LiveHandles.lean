import Offload.Code.Assembly
import Offload.Kernel.Catalogue
import Offload.Proofs.Pool

/-! No pass uses a dead handle. Machines share devices that are reset between passes, noticed or not,
and passes stop midway; still, wherever a pass stands, the events it waits for, the buffers it has
bound and the binaries it launches are good on the device as it is at that moment. -/
namespace Offload

namespace DeviceCommand

/-- A kernel that is registered raises no errors about handles of its own. -/
def Honest : DeviceCommand → Prop
  | registerKernel _ kernel => kernel.Honest
  | _ => True

/-- Buffers are given back by their owners only, and kernels are honest. -/
def Harmless (command : DeviceCommand) : Prop :=
  command.Spares ∧ command.Honest

end DeviceCommand

/-- Everything that a machine could hand to its device is good there: the events in its lists and the
latest event, the buffers that are bound, and the binaries that are not marked for a rebuild. -/
structure Session.Live (s : Session) (last : Option EventId) : Prop where
  events : ∀ events ∈ s.machine.lists.lists, ∀ e ∈ events, ∃ r, s.device.events.lookup e = .ok r
  last : ∀ e, last = some e → ∃ r, s.device.events.lookup e = .ok r
  buffers : ∀ object b, s.machine.bindings.buffer? object = some b → s.device.memory.Live b
  binaries : ∀ task code, s.machine.cache.code task = some code →
    code.valid = true ∧ code.epoch = s.device.epoch

namespace Machine

/-- What a launch hands to its device is good there. -/
structure BoundLaunch.Live (b : BoundLaunch) (code : Binary) (d : Device) : Prop where
  code : code.valid = true ∧ code.epoch = d.epoch
  buffers : ∀ buffer, .buffer buffer ∈ b.frame → d.memory.Live buffer
  atomics : b.atomics = none
  wait : ∀ w ∈ b.wait, ∃ r, d.events.lookup w = .ok r

variable {s t u v : Session} {last : Option EventId}

private theorem lookup_of_knows {events : EventTable} {e : EventId} (sound : events.Sound) (known : events.Knows e) :
    ∃ r, events.lookup e = .ok r :=
  ⟨_, (sound.lookup e).trans (if_pos known)⟩

private theorem MidPass.live (passing : MidPass s last) : s.Live last where
  events events listed e member :=
    lookup_of_knows passing.sound (passing.underway.lists events listed e member)
  last e same := lookup_of_knows passing.sound (passing.last e same)
  buffers := passing.tidy.live passing.underway.current
  binaries task code found := by
    obtain ⟨valid, epoch⟩ := CodeCache.dated_code passing.tidy.binaries found
    exact ⟨valid, epoch.trans passing.underway.current.symm⟩

/-- A launch, compiled and bound, has good handles only. -/
theorem MidPass.liveLaunch (passing : MidPass s last) {l : Launch} {code : Binary} {b : BoundLaunch}
    (free : s.context.AtomicFree) (compiled : Op.Yields (compile l) s () t)
    (installed : Op.Yields (installedCode l) t code u) (bound : Op.Yields (bindLaunch l) u b v) :
    b.Live code v.device := by
  obtain ⟨compiling, _⟩ := (serves_compile passing l).yields compiled
  have passing' := passing.later compiling
  obtain ⟨_, rfl, valid, epoch⟩ := (serves_installedCode passing' l).yields installed
  obtain ⟨binding, handed⟩ := (serves_bindLaunch passing' l).yields bound
  have passing'' := passing'.later binding
  refine ⟨⟨valid, epoch.trans (binding.spares passing'.tidy).device.epoch.symm⟩, ?_, ?_, ?_⟩
  · intro buffer member
    obtain ⟨object, held⟩ := handed.frame buffer member
    exact passing''.tidy.live passing''.underway.current object buffer held
  · exact handed.without (binding.atomicFree.2 (compiling.atomicFree.2 free))
  · exact fun w member => lookup_of_knows passing''.sound (handed.wait w member)

end Machine

namespace Pool

variable {p : Pool} {index : Nat} {tenant : Tenant} {s : Session}

private theorem honest_of_reachable (reachable : p.Reachable DeviceCommand.Harmless) :
    ∀ d ∈ p.devices, d.Honest :=
  kernels_of_reachable (fun _ harmless => harmless.1) (fun _ _ harmless => harmless.2) reachable

/-- However a pool came about, the passes of a machine without atomics use good handles only: they do
not fail with an error about one, wherever a pass stands its handles are good, and so is what each
launch hands over. -/
theorem handles_live (reachable : p.Reachable DeviceCommand.Harmless)
    (present : p.session? index = some (tenant, s)) (free : s.context.AtomicFree) :
    (∀ mode e, (Machine.execute mode s).result = .error e → e.aboutHandle = false) ∧
      ∀ warmup done last t,
        Op.Yields (do Machine.startPass; Machine.runPrefix warmup none done) s last t →
          t.Live last ∧
            ∀ l code b u v w, Op.Yields (Machine.compile l) t () u →
              Op.Yields (Machine.installedCode l) u code v → Op.Yields (Machine.bindLaunch l) v b w →
                b.Live code w.device := by
  obtain ⟨seated, _, found, same⟩ := session?_eq_some.1 present
  have orderly := orderly_of_reachable reachable fun _ harmless => harmless.1
  have tidy : s.machine.Tidy s.device := same ▸ orderly.tidy index tenant seated s.device found
  have honest := honest_of_reachable reachable s.device (List.mem_of_getElem? found)
  refine ⟨fun mode e failed => (Machine.serves_execute tidy mode).error e failed ⟨free, honest⟩, ?_⟩
  intro warmup done last t ran
  have serves := Op.serves_bind (Machine.serves_startPass tidy) fun _ _ _ passing =>
    Machine.serves_runPrefix warmup passing done
  obtain ⟨safe, passing⟩ := serves.yields ran
  exact ⟨passing.live, fun l code b u v w compiled installed bound =>
    passing.liveLaunch (safe.atomicFree.2 free) compiled installed bound⟩

/-- A kernel that adds one to each element. -/
def addOne : Kernel := fun _ => Kernel.mapElements .i32 0 0 (· + 1)

/-- Two machines with contexts of their own take turns on a deferred device. Then the device is reset;
the second machine has noticed that and works again, while the first one has not noticed it yet. Only
the first one tracks events from here on. -/
def takingTurns : Pool :=
  let copy : Transfer := { object := 0, list := none, offset := 0, batchSize := 0 }
  let program := Assembly.bytes
    { instructions :=
        [.context 0, .beginPass, .alloc 0 [0], .transfer .inOnce copy,
          .launch
            { wrapper := 0, task := 0, list := none, offset := 0, batchThreads := 0, args := [.reference 0] },
          .addDependency (some 0), .transfer .outAlways { copy with list := some 0 }, .endPass] }
  let context : Context :=
    { name := "turns"
      objects := [{ object := .array (.zeroed .i32 4) }]
      tasks := [{ id := "t", kernel := "add_one" }] }
  let start : Pool := { contexts := [context, context], devices := [.create {} true] }
  let ready := start.onDevice 0 (.registerKernel "add_one" addOne)
  let config : Config := { useDependencies := false }
  let built := (ready.build 0 0 program config).build 1 0 program config
  let run (index : Nat) (p : Pool) : Pool := (onTenant index (MachineCommand.execute .run).run p).state
  let used := run 1 ((run 1 (run 0 built)).onDevice 0 .reset)
  (onTenant 0 (MachineCommand.setConfig {}).run used).state

/-- It takes a reset and one kernel. -/
theorem takingTurns_reached {permits : DeviceCommand → Prop} (reset : permits .reset)
    (registered : permits (.registerKernel "add_one" addOne)) : takingTurns.Reachable permits := by
  refine .step ?_ (.request _ 0 (.setConfig {}) trivial)
  refine .step ?_ (.request _ 1 (.execute .run) trivial)
  refine .step ?_ (.device _ 0 .reset reset)
  refine .step ?_ (.request _ 1 (.execute .run) trivial)
  refine .step ?_ (.request _ 0 (.execute .run) trivial)
  refine .step ?_ (.build _ 1 0 _ _)
  refine .step ?_ (.build _ 0 0 _ _)
  exact .step (.start [_, _] [({}, true)] (by simp)) (.device _ 0 (.registerKernel "add_one" addOne) registered)

theorem takingTurns_reachable : takingTurns.Reachable DeviceCommand.Harmless :=
  takingTurns_reached ⟨trivial, trivial⟩ ⟨trivial, fun _ => KernelProgram.honest_mapElements _ _ _ _⟩

/-- The first machine finds that its buffer and its binary are gone, and goes on with new ones: in front
of the copy to the host it waits for its new launch. -/
theorem takingTurns_live : ∃ tenant s last t, takingTurns.session? 0 = some (tenant, s) ∧
    s.context.AtomicFree ∧ s.machine.epoch = 0 ∧ s.device.epoch = 1 ∧
    Op.Yields (do
      Machine.startPass
      Machine.runPrefix false none (s.machine.program.scan.entries.take 4)) s last t ∧
    t.machine.lists.lists = [[11]] ∧ t.Live last ∧
    ∀ mode e, (Machine.execute mode s).result = .error e → e.aboutHandle = false := by
  have facts : (takingTurns.session? 0).map (fun seated =>
      (seated.2.context.objects.map ObjectEntry.atomic, seated.2.machine.epoch, seated.2.device.epoch)) =
      some ([false], 0, 1) := by decide +kernel
  have ran : (takingTurns.session? 0).map (fun seated =>
      (Op.success? (do
        Machine.startPass
        Machine.runPrefix false none (seated.2.machine.program.scan.entries.take 4)) seated.2).map
        fun arrived => arrived.2.machine.lists.lists) = some (some [[11]]) := by decide +kernel
  obtain ⟨⟨tenant, s⟩, present, same⟩ := Option.map_eq_some_iff.1 facts
  rw [present] at ran
  simp only [Prod.mk.injEq, Option.map_some, Option.some.injEq, Option.map_eq_some_iff] at same ran
  obtain ⟨atomics, known, epoch⟩ := same
  obtain ⟨⟨last, t⟩, arrived, lists⟩ := ran
  have free : s.context.AtomicFree := by
    rw [Machine.atomicFree_iff, atomics]
    simp
  have yields := Op.yields_iff_success?.2 arrived
  have live := handles_live takingTurns_reachable present free
  exact ⟨tenant, s, last, t, present, free, known, epoch, yields, lists, (live.2 _ _ _ _ yields).1, live.1⟩

end Pool
end Offload
