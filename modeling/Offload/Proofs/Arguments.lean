import Offload.Proofs.AtomicsSlot
import Offload.Proofs.Elementwise
import Offload.Proofs.LaunchedBatch
import Offload.Proofs.Shadows

/-! What the arguments of a launch become. Each argument gets one entry of the frame, in its place, and
an atomic one besides puts its values behind those of the atomic arguments before it. So the entry of an
atomic argument is the place of its own values in the atomics buffer. Nothing of an earlier frame is
left. -/
namespace Offload

namespace HostObject

/-- The values of an object of 32-bit integers. -/
def integers : HostObject → List Int32
  | array a => if a.element = .i32 then (Bytes.words 4 a.bytes).map fun word => (UInt32.ofNat word).toInt32 else []
  | scalar (.i32 value) => [value]
  | _ => []

end HostObject

namespace Context

/-- The values that an argument adds to the atomics of its launch. -/
def argumentValues (c : Context) : LaunchArg → List Int32
  | .constant _ => []
  | .reference index =>
    match c.objects[index.toNat]? with
    | some entry => if entry.atomic ∧ entry.object ≠ .kernelContext then entry.object.integers else []
    | none => []

/-- The values of all arguments in their order. -/
def atomicsOf (c : Context) (args : List LaunchArg) : List Int32 :=
  args.flatMap c.argumentValues

/-- How many values the arguments before a position have. -/
def atomicsBase (c : Context) (args : List LaunchArg) (position : Nat) : Nat :=
  (c.atomicsOf (args.take position)).length

variable {c : Context} {args : List LaunchArg} {arg : LaunchArg} {position : Nat}

private theorem atomicsOf_cons (arg : LaunchArg) (rest : List LaunchArg) :
    c.atomicsOf (arg :: rest) = c.argumentValues arg ++ c.atomicsOf rest := List.flatMap_cons

private theorem atomicsBase_succ (arg : LaunchArg) (rest : List LaunchArg) (position : Nat) :
    c.atomicsBase (arg :: rest) (position + 1) =
      (c.argumentValues arg).length + c.atomicsBase rest position := by
  rw [atomicsBase, List.take_succ_cons, atomicsOf_cons, List.length_append, atomicsBase]

private theorem atomicsOf_split (c : Context) (args : List LaunchArg) (position : Nat) :
    c.atomicsOf args = c.atomicsOf (args.take position) ++ c.atomicsOf (args.drop position) := by
  rw [atomicsOf, atomicsOf, atomicsOf, ← List.flatMap_append, List.take_append_drop]

private theorem atomicsBase_le (c : Context) (args : List LaunchArg) (position : Nat) :
    c.atomicsBase args position ≤ (c.atomicsOf args).length := by
  rw [atomicsOf_split c args position, List.length_append]
  exact Nat.le_add_right _ _

/-- The values of an argument stand together from its base on. -/
theorem getElem?_atomicsOf {k : Nat} {value : Int32} (known : args[position]? = some arg)
    (held : (c.argumentValues arg)[k]? = some value) :
    (c.atomicsOf args)[c.atomicsBase args position + k]? = some value := by
  obtain ⟨inside, rfl⟩ := List.getElem?_eq_some_iff.1 known
  rw [atomicsOf_split c args position, atomicsBase, List.getElem?_append_right (Nat.le_add_right _ _),
    Nat.add_sub_cancel_left, List.drop_eq_getElem_cons inside, atomicsOf_cons]
  rw [List.getElem?_append_left (List.getElem?_eq_some_iff.1 held).1, held]

end Context

/-- What the kernel gets for an argument whose values, if it has any, start at `base`. -/
inductive LaunchArg.Becomes (c : Context) (b : Bindings) (base : Nat) : LaunchArg → KernelArg → Prop
  | constant {index : UInt32} {value : Scalar} : c.constants[index.toNat]? = some value →
    Becomes c b base (.constant index) (.constant value)
  | marker {index : UInt32} {entry : ObjectEntry} : c.objects[index.toNat]? = some entry →
    entry.object = .kernelContext → Becomes c b base (.reference index) .kernelContext
  | atomic {index : UInt32} {entry : ObjectEntry} : c.objects[index.toNat]? = some entry →
    entry.object ≠ .kernelContext → entry.atomic = true → entry.object.element? = some .i32 →
    Becomes c b base (.reference index) (.constant (.i32 (UInt32.ofNat base).toInt32))
  | buffer {index : UInt32} {entry : ObjectEntry} {buffer : DeviceBuffer} :
    c.objects[index.toNat]? = some entry → entry.object ≠ .kernelContext → entry.atomic = false →
    b.buffer? index.toNat = some buffer → Becomes c b base (.reference index) (.buffer buffer)

/-- A write of atomics overwrites the start of its buffer. -/
theorem Device.yields_fill {d d' : Device} {b buffer : DeviceBuffer} {values : List Int32}
    {wait written : List EventId} (ran : Op.Yields (fill b values wait) d (buffer, written) d') :
    buffer = b ∧ ∃ old, d.memory.contents b.id = .ok old ∧
      d'.memory.contents b.id = .ok (Bytes.ofInt32s values ++ old.drop (4 * values.length)) := by
  simp only [fill, Op.yields_bind, Op.yields_pure, Prod.mk.injEq] at ran
  obtain ⟨_, _, wrote, event, after, recorded, _, _, counted, ⟨rfl, _⟩, rfl⟩ := ran
  obtain ⟨memory, overwritten, rfl⟩ := yields_writeBuffer.1 wrote
  obtain ⟨old, holds, _, filled⟩ := Memory.write_ok overwritten
  -- Events and counts are no part of the memory.
  have still := Op.Transition.trans ((still_onEvents _).yields recorded) ((still_count _).yields counted)
  rw [view_of_data (fun d => d.memory) (fun _ => rfl) still]
  rw [length_atomics] at filled
  exact ⟨rfl, old, holds, filled⟩

namespace Machine

variable {s t : Session} {m : Machine} {c : Context} {l : Launch} {arg : LaunchArg} {args : List LaunchArg}
  {frame : List KernelArg} {atomics : List Int32} {base : Nat}

private theorem atomicValues_ok {object : HostObject} {index : Nat} {values : List Int32}
    (read : atomicValues object index = .ok values) :
    object.element? = some .i32 ∧ values = object.integers := by
  cases object with
  | array a =>
    by_cases integers : a.element = .i32
    · simp only [atomicValues, if_pos integers, Except.ok.injEq] at read
      exact ⟨congrArg some integers, read.symm.trans (if_pos integers).symm⟩
    · simp [atomicValues, integers] at read
  | scalar value =>
    cases value with
    | i32 value =>
      cases read
      exact ⟨rfl, rfl⟩
    | _ => cases read
  | kernelContext => cases read

/-- One argument is bound behind the others, and its values are put behind theirs. -/
theorem bindArgs_cons {result : List KernelArg × List Int32}
    (ran : bindArgs c m (arg :: args) frame atomics = .ok result) :
    ∃ entry, arg.Becomes c m.bindings atomics.length entry ∧
      bindArgs c m args (frame ++ [entry]) (atomics ++ c.argumentValues arg) = .ok result := by
  cases arg with
  | constant index =>
    rcases known : c.constant index.toNat with e | value <;>
      simp only [bindArgs, known, bind, Except.bind] at ran
    · cases ran
    · refine ⟨_, .constant (Context.constant_ok_iff.1 known), ?_⟩
      rw [Context.argumentValues, List.append_nil]
      exact ran
  | reference index =>
    rcases known : c.object index.toNat with e | entry <;>
      simp only [bindArgs, known, bind, Except.bind] at ran
    · cases ran
    have held := Context.object_ok_iff.1 known
    by_cases marker : entry.object = .kernelContext
    · rw [if_pos (by simp [HostObject.isKernelContext, marker])] at ran
      refine ⟨_, .marker held marker, ?_⟩
      simp only [Context.argumentValues, held, marker]
      simpa using ran
    rw [if_neg (by simp [HostObject.isKernelContext, marker])] at ran
    by_cases atomic : entry.atomic = true
    · rw [if_pos atomic] at ran
      rcases read : atomicValues entry.object index.toNat with e | values <;> rw [read] at ran
      · cases ran
      obtain ⟨integers, rfl⟩ := atomicValues_ok read
      refine ⟨_, .atomic held marker atomic integers, ?_⟩
      simp only [Context.argumentValues, held]
      rw [if_pos ⟨atomic, marker⟩]
      exact ran
    · rw [if_neg atomic] at ran
      rcases found : m.boundBuffer .launchArgument index.toNat with e | buffer <;> rw [found] at ran
      · cases ran
      refine ⟨_, .buffer held marker (by simpa using atomic) (boundBuffer_ok_iff.1 found), ?_⟩
      simp only [Context.argumentValues, held]
      rw [if_neg (fun both => atomic both.1), List.append_nil]
      exact ran

/-- All arguments: each has its entry in its place behind those that are there. -/
theorem bindArgs_ok {bound : List KernelArg} {values : List Int32}
    (ran : bindArgs c m args frame atomics = .ok (bound, values)) :
    ∃ entries, bound = frame ++ entries ∧ entries.length = args.length ∧
      values = atomics ++ c.atomicsOf args ∧
      ∀ position (arg : LaunchArg), args[position]? = some arg → ∃ entry, entries[position]? = some entry ∧
        arg.Becomes c m.bindings (atomics.length + c.atomicsBase args position) entry := by
  induction args generalizing frame atomics with
  | nil =>
    cases ran
    exact ⟨[], (List.append_nil _).symm, rfl, (List.append_nil _).symm, fun _ _ known => by simp at known⟩
  | cons arg args ih =>
    obtain ⟨entry, binds, rest⟩ := bindArgs_cons ran
    obtain ⟨entries, rfl, length, rfl, others⟩ := ih rest
    refine ⟨entry :: entries, by simp, by simp [length], ?_, ?_⟩
    · rw [Context.atomicsOf_cons, List.append_assoc]
    · intro position other known
      cases position with
      | zero =>
        cases known
        exact ⟨entry, rfl, binds⟩
      | succ position =>
        obtain ⟨later, held, binds⟩ := others position other known
        refine ⟨later, held, ?_⟩
        rwa [List.length_append, Nat.add_assoc, ← Context.atomicsBase_succ] at binds

/-! ### The launch -/

/-- A compilation may find out that bindings are gone, but makes no new ones, and leaves the tables of the
context alone. -/
theorem compile_tables {u : Unit} (ran : Op.Yields (compile l) s u t) :
    t.context.objects = s.context.objects ∧ t.context.constants = s.context.constants ∧
      (t.machine.bindings = s.machine.bindings ∨ t.machine.bindings = s.machine.bindings.unbindAll) := by
  have fit (s : Session) : (fitCode l s).state.context = s.context ∧
      (fitCode l s).state.machine.bindings = s.machine.bindings :=
    ⟨(Session.alike_view (fun s => s.context) (fun _ => rfl) (alike_fitCode l s)).symm,
      (Session.alike_view (fun s => s.machine.bindings) (fun _ => rfl) (alike_fitCode l s)).symm⟩
  simp only [compile, Op.yields_bind, yields_syncEpoch] at ran
  obtain ⟨_, _, ⟨_, rfl⟩ | ⟨_, _, rfl⟩, _, rfl⟩ := ran
  · rw [(fit s).1, (fit s).2]
    exact ⟨rfl, rfl, .inl rfl⟩
  · rw [(fit _).1, (fit _).2]
    exact ⟨rfl, rfl, .inr rfl⟩

/-- What is bound after a compilation was bound before it. -/
theorem becomes_before {u : Unit} {entry : KernelArg} (ran : Op.Yields (compile l) s u t)
    (bound : arg.Becomes t.context t.machine.bindings base entry) :
    arg.Becomes s.context s.machine.bindings base entry := by
  obtain ⟨objects, constants, bindings⟩ := compile_tables ran
  cases bound with
  | constant held => exact .constant (constants ▸ held)
  | marker held marker => exact .marker (objects ▸ held) marker
  | atomic held ordinary atomic integers => exact .atomic (objects ▸ held) ordinary atomic integers
  | buffer held ordinary plain present =>
    rcases bindings with same | gone
    · exact .buffer (objects ▸ held) ordinary plain (same ▸ present)
    · rw [gone, Bindings.buffer?_unbindAll] at present
      cases present

private theorem argumentValues_compile {u : Unit} (ran : Op.Yields (compile l) s u t) :
    t.context.argumentValues = s.context.argumentValues := by
  funext arg
  cases arg with
  | constant index => rfl
  | reference index => simp only [Context.argumentValues, (compile_tables ran).1]

theorem atomicsOf_compile {u : Unit} (ran : Op.Yields (compile l) s u t) :
    t.context.atomicsOf = s.context.atomicsOf := by
  funext args
  rw [Context.atomicsOf, Context.atomicsOf, argumentValues_compile ran]

/-- The buffer of a write of atomics starts with them. -/
theorem writeAtomics_contents {d d' : Device} {values : List Int32} {wait written : List EventId}
    {buffer : DeviceBuffer} (ran : Op.Yields (Device.writeAtomics values wait) d (buffer, written) d') :
    ∃ behind, d'.memory.contents buffer.id = .ok (Bytes.ofInt32s values ++ behind) := by
  obtain ⟨b, _, _, filled⟩ := Op.yields_bind.1 ran
  obtain ⟨rfl, _, _, holds⟩ := Device.yields_fill filled
  exact ⟨_, holds⟩

/-- Atomics are sent if there are any, and then the buffer starts with them. -/
theorem sendAtomics_yields {values : List Int32} {sent : Option DeviceBuffer} {written : List EventId}
    (ran : Op.Yields (sendAtomics values) s (sent, written) t) :
    (sent = none ↔ values = []) ∧ ∀ buffer, sent = some buffer →
      ∃ behind, t.device.memory.contents buffer.id = .ok (Bytes.ofInt32s values ++ behind) := by
  unfold sendAtomics at ran
  split at ran
  · next empty =>
    simp only [Op.yields_pure, Prod.mk.injEq] at ran
    obtain ⟨⟨rfl, rfl⟩, rfl⟩ := ran
    exact ⟨by simpa using empty, fun _ none => by cases none⟩
  · next some =>
    simp only [Op.yields_bind, Op.yields_pure, Prod.mk.injEq] at ran
    obtain ⟨⟨buffer, events⟩, after, wrote, ⟨rfl, rfl⟩, rfl⟩ := ran
    obtain ⟨device, sent, rfl⟩ := yields_onDevice.1 wrote
    refine ⟨by simpa using some, fun target same => ?_⟩
    cases same
    exact writeAtomics_contents sent

/-- The frame of a launch, whatever its wrapper was used for before, and the atomics that it sends to its
device. -/
theorem bindLaunch_yields {b : BoundLaunch} (ran : Op.Yields (bindLaunch l) s b t) :
    (b.frame.length = l.args.length ∧
      ∀ position (arg : LaunchArg), l.args[position]? = some arg → ∃ entry, b.frame[position]? = some entry ∧
        arg.Becomes s.context s.machine.bindings (s.context.atomicsBase l.args position) entry) ∧
    ∃ u written, u.device = s.device ∧
      Op.Yields (sendAtomics (s.context.atomicsOf l.args)) u (b.atomics, written) t := by
  simp only [bindLaunch, waitList, Op.yields_bind, Op.yields_get, Op.yields_ofExcept, Op.yields_pure] at ran
  obtain ⟨_, _, ⟨rfl, rfl⟩, task, _, ⟨_, rfl⟩, _, cleared, erased, ⟨frame, values⟩, _, ⟨bound, rfl⟩, wait, _,
    ⟨_, _, ⟨rfl, rfl⟩, _, rfl⟩, ⟨sent, written⟩, after, sending, rfl, rfl⟩ := ran
  obtain rfl := Op.yields_modify.1 erased
  rw [emptyFrame, List.take_zero] at bound
  obtain ⟨entries, framed, length, listed, binds⟩ := bindArgs_ok bound
  rw [List.nil_append] at framed listed
  subst framed listed
  simp only [List.length_nil, Nat.zero_add] at binds
  refine ⟨⟨length, binds⟩, _, written, ?_, sending⟩
  rfl

private theorem bindLaunch_ok {b : BoundLaunch} (ran : Op.Yields (bindLaunch l) s b t) :
    (b.frame.length = l.args.length ∧
      ∀ position (arg : LaunchArg), l.args[position]? = some arg → ∃ entry, b.frame[position]? = some entry ∧
        arg.Becomes s.context s.machine.bindings (s.context.atomicsBase l.args position) entry) ∧
    (b.atomics = none ↔ s.context.atomicsOf l.args = []) ∧
    ∀ buffer, b.atomics = some buffer → ∃ behind,
      t.device.memory.contents buffer.id = .ok (Bytes.ofInt32s (s.context.atomicsOf l.args) ++ behind) := by
  obtain ⟨framed, _, _, _, sending⟩ := bindLaunch_yields ran
  exact ⟨framed, sendAtomics_yields sending⟩

/-- A number that a signed word can hold is itself in the word. -/
theorem toInt_base (small : (base : Int) ≤ Int32.maxValue.toInt) : (UInt32.ofNat base).toInt32.toInt = base := by
  have largest : Int32.maxValue.toInt = 2147483647 := rfl
  rw [largest] at small
  show (UInt32.ofNat base).toBitVec.toInt = base
  have same : (UInt32.ofNat base).toBitVec.toNat = base := by
    show (UInt32.ofNat base).toNat = base
    rw [UInt32.toNat_ofNat', Nat.mod_eq_of_lt (by omega)]
  rw [BitVec.toInt_eq_toNat_of_lt (by omega), same]

/-- A value of an argument stands in the atomics at its index behind the base of the argument. -/
theorem slice_atomics {position k : Nat} {value : Int32} (behind : Bytes)
    (known : args[position]? = some arg) (held : (c.argumentValues arg)[k]? = some value) :
    Bytes.slice (Bytes.ofInt32s (c.atomicsOf args) ++ behind) (4 * (c.atomicsBase args position + k)) 4 =
      Bytes.ofInt32s [value] := by
  have found := Context.getElem?_atomicsOf known held
  obtain ⟨inside, same⟩ := List.getElem?_eq_some_iff.1 found
  have short : 4 * (c.atomicsBase args position + k) ≤ (Bytes.ofInt32s (c.atomicsOf args)).length := by
    rw [Bytes.length_ofInt32s]
    omega
  rw [Bytes.slice, List.drop_append_of_le_length short, Bytes.drop_ofInt32s, List.drop_eq_getElem_cons inside,
    same, ← List.singleton_append, Bytes.ofInt32s_append, List.append_assoc]
  exact List.take_left' Bytes.length_ofInt32s

/-- A launch that reaches the device has one entry in its frame for each argument, in its place: a
constant of the context, the marker of the kernel context, the buffer that the object is bound to, or for
an atomic object the place of its own values among the atomics. The atomics that were written are the
values of the atomic arguments in their order, and there is a buffer for them exactly if there are any. -/
theorem launch_arguments {code : Binary} {b : BoundLaunch} (ran : Op.Yields (prepareLaunch l) s (code, b) t) :
    (b.frame.length = l.args.length ∧
      ∀ position (arg : LaunchArg), l.args[position]? = some arg → ∃ entry, b.frame[position]? = some entry ∧
        arg.Becomes s.context s.machine.bindings (s.context.atomicsBase l.args position) entry) ∧
    (b.atomics = none ↔ s.context.atomicsOf l.args = []) ∧
    (∀ buffer, b.atomics = some buffer → ∃ content, t.device.memory.contents buffer.id = .ok content ∧
      content.take (4 * (s.context.atomicsOf l.args).length) = Bytes.ofInt32s (s.context.atomicsOf l.args) ∧
      ∀ position arg k value, l.args[position]? = some arg → (s.context.argumentValues arg)[k]? = some value →
        Bytes.slice content (4 * (s.context.atomicsBase l.args position + k)) 4 = Bytes.ofInt32s [value]) ∧
    (((s.context.atomicsOf l.args).length : Int) ≤ Int32.maxValue.toInt → ∀ position,
      (UInt32.ofNat (s.context.atomicsBase l.args position)).toInt32.toInt =
        s.context.atomicsBase l.args position) := by
  simp only [prepareLaunch, Op.yields_bind, Op.yields_pure, Prod.mk.injEq] at ran
  obtain ⟨_, fit, compiled, _, _, looked, _, _, binding, ⟨rfl, rfl⟩, rfl⟩ := ran
  rw [installedCode] at looked
  simp only [Op.yields_bind, Op.yields_get, Op.yields_ofExcept] at looked
  obtain ⟨_, _, ⟨rfl, rfl⟩, task, _, ⟨_, rfl⟩, _, rfl⟩ := looked
  obtain ⟨⟨length, binds⟩, none, written⟩ := bindLaunch_ok binding
  have values : fit.context.atomicsOf = s.context.atomicsOf := by
    funext args
    rw [Context.atomicsOf, Context.atomicsOf, argumentValues_compile compiled]
  have bases : fit.context.atomicsBase = s.context.atomicsBase := by
    funext args position
    rw [Context.atomicsBase, Context.atomicsBase, values]
  rw [bases] at binds
  rw [values] at none written
  refine ⟨⟨length, fun position arg known => ?_⟩, none, fun buffer passed => ?_, fun few position => ?_⟩
  · obtain ⟨entry, held, bound⟩ := binds position arg known
    exact ⟨entry, held, becomes_before compiled bound⟩
  · obtain ⟨behind, content⟩ := written buffer passed
    refine ⟨_, content, List.take_left' Bytes.length_ofInt32s, ?_⟩
    intro position arg k value known held
    exact slice_atomics behind known held
  · exact toInt_base (Int.le_trans (Int.ofNat_le.2 (Context.atomicsBase_le _ _ _)) few)

end Machine

namespace Workspace

/-- A launch under wrapper 0 with these arguments. -/
def launchWith (args : List LaunchArg) : Launch :=
  { wrapper := 0, task := 0, list := none, offset := 0, batchThreads := 0, args }

/-- A constant, an atomic object twice, the kernel context, a bound object, and atomic objects with one
value and with none. -/
def mixedArguments : List LaunchArg :=
  [.constant 0, .reference 2, .reference 1, .reference 0, .reference 4, .reference 3, .reference 2]

/-- A machine whose wrapper has the frame of a launch with more arguments than the next one. -/
def reusedWrapper : Workspace :=
  let program := Assembly.bytes
    { instructions := [.context 0, .beginPass, .alloc 0 [0],
        .launch (launchWith (mixedArguments ++ mixedArguments)), .launch (launchWith mixedArguments), .endPass] }
  let task : Task := { id := "t", kernel := "noop", grid := {} }
  let context : Context :=
    { name := "reused wrapper", tasks := [task], constants := [.i32 7]
      objects := [{ object := .ofInt32s [1, 2] }, { object := .kernelContext },
        { object := .ofInt32s [10, 20], atomic := true }, { object := .scalar (.i32 5), atomic := true },
        { object := .ofInt32s [], atomic := true }] }
  let start : Workspace :=
    { context, devices := [Device.registerKernel {} "noop" fun _ => .done ()] }
  let built := (start.build 0 program {}).state
  let begun := (built.onMachine 0 MachineCommand.startPass.run).state
  let allocated := (begun.onMachine 0 (MachineCommand.perform false none 0).run).state
  (allocated.onMachine 0 (MachineCommand.perform false none 1).run).state

/-- A frame of fourteen arguments is reused for seven, and the last base is the third value. -/
theorem reusedWrapper_launches : ∃ s code b t, reusedWrapper.session? 0 = some (0, s) ∧
    Op.Yields (Machine.prepareLaunch (launchWith mixedArguments)) s (code, b) t ∧
    (s.machine.frames.get? 0).map List.length = some 14 ∧ b.frame.length = 7 ∧
    s.context.atomicsOf mixedArguments = [10, 20, 5, 10, 20] ∧
    (UInt32.ofNat (s.context.atomicsBase mixedArguments 6)).toInt32.toInt = 3 := by
  have ran : (reusedWrapper.session? 0).bind (fun seated =>
      (Op.success? (Machine.prepareLaunch (launchWith mixedArguments)) seated.2).map fun _ =>
        (seated.1, (seated.2.machine.frames.get? 0).map List.length,
          seated.2.context.atomicsOf mixedArguments, seated.2.context.atomicsBase mixedArguments 6)) =
      some (0, some 14, [10, 20, 5, 10, 20], 3) := by decide +kernel
  obtain ⟨⟨index, s⟩, present, launched⟩ := Option.bind_eq_some_iff.1 ran
  obtain ⟨⟨⟨code, b⟩, t⟩, prepared, same⟩ := Option.map_eq_some_iff.1 launched
  simp only [Prod.mk.injEq] at same
  obtain ⟨rfl, frame, values, base⟩ := same
  have yields := Op.yields_iff_success?.2 prepared
  obtain ⟨⟨length, _⟩, _, _, exact⟩ := Machine.launch_arguments yields
  refine ⟨s, code, b, t, present, yields, frame, length, values, ?_⟩
  have place := exact (by rw [show (launchWith mixedArguments).args = mixedArguments from rfl, values]; decide) 6
  rw [show (launchWith mixedArguments).args = mixedArguments from rfl, base] at place
  rw [base]
  exact place

end Workspace
end Offload
