import Offload.Device.Types
import Offload.Host.Object
import Offload.Machine.Error

/-!
Contexts: the tables of objects, constants and tasks that operands index, and the budget of device
memory that all machines on a context share. The tables keep their sizes; the objects change when
data comes back from a device.
-/
namespace Offload

/-- The device memory in use, against an optional limit. -/
structure MemoryBudget where
  limit : Option Nat := none
  usage : Nat := 0
  deriving Repr, DecidableEq

namespace MemoryBudget

/-- The largest number of 64 bits stands for no limit. -/
def normalLimit (limit : Option Nat) : Option Nat :=
  limit.filter (· ≠ 0xffffffffffffffff)

def ofLimit (limit : Option Nat) : MemoryBudget :=
  { limit := normalLimit limit }

def setLimit (b : MemoryBudget) (limit : Option Nat) : MemoryBudget :=
  { b with limit := normalLimit limit }

def add (b : MemoryBudget) (bytes : Nat) : MemoryBudget :=
  { b with usage := b.usage + bytes }

/-- Take bytes off; the usage does not go below zero. -/
def sub (b : MemoryBudget) (bytes : Nat) : MemoryBudget :=
  { b with usage := b.usage - bytes }

/-- The usage is above the limit already. -/
def exceeded (b : MemoryBudget) : Bool :=
  b.limit.any (· < b.usage)

/-- Whether `requested` more bytes stay within the limit. -/
def check (b : MemoryBudget) (requested : Nat) : Except MachineError Unit :=
  match b.limit with
  | none => .ok ()
  | some limit =>
    if limit < b.usage + requested then .error (.outOfMemory b.usage requested limit) else .ok ()

end MemoryBudget

structure ObjectEntry where
  object : HostObject
  access : Access := .readWrite
  /-- The values travel with a launch instead of in a buffer of their own. -/
  atomic : Bool := false
  deriving Repr, DecidableEq

structure Context where
  name : String
  objects : List ObjectEntry := []
  constants : List Scalar := []
  tasks : List Task := []
  memory : MemoryBudget := {}
  deriving Repr, DecidableEq

namespace Context

def object (c : Context) (index : Nat) : Except MachineError ObjectEntry :=
  match c.objects[index]? with
  | some entry => .ok entry
  | none => .error (.malformed (.objectOutOfRange index c.objects.length))

def constant (c : Context) (index : Nat) : Except MachineError Scalar :=
  match c.constants[index]? with
  | some value => .ok value
  | none => .error (.malformed (.constantOutOfRange index c.constants.length))

def task (c : Context) (index : Nat) : Except MachineError Task :=
  match c.tasks[index]? with
  | some task => .ok task
  | none => .error (.malformed (.taskOutOfRange index c.tasks.length))

/-- Put another object in the place of the one at an index. -/
def setObject (c : Context) (index : Nat) (object : HostObject) : Context :=
  { c with objects := c.objects.modify index fun entry => { entry with object } }

def addObject (c : Context) (object : HostObject) (access : Access) : Context :=
  { c with objects := c.objects ++ [{ object, access }] }

/-- An object whose values travel with launches. -/
def addAtomic (c : Context) (object : HostObject) : Context :=
  { c with objects := c.objects ++ [{ object, atomic := true }] }

def addKernelContext (c : Context) : Context :=
  { c with objects := c.objects ++ [{ object := .kernelContext, access := .none }] }

def text (c : Context) : String :=
  s!"{c.name} ({c.objects.length} objects, {c.constants.length} constants, {c.tasks.length} tasks)"

variable {c : Context} {index : Nat}

theorem object_ok_iff {entry : ObjectEntry} :
    c.object index = .ok entry ↔ c.objects[index]? = some entry := by
  unfold object
  rcases c.objects[index]? with _ | known <;> simp

theorem constant_ok_iff {value : Scalar} :
    c.constant index = .ok value ↔ c.constants[index]? = some value := by
  unfold constant
  rcases c.constants[index]? with _ | known <;> simp

theorem setObject_same {entry : ObjectEntry} (known : c.objects[index]? = some entry) :
    c.setObject index entry.object = c := by
  have same : c.objects.modify index (fun old => { old with object := entry.object }) = c.objects := by
    refine List.ext_getElem? fun other => ?_
    rw [List.getElem?_modify]
    split
    · next here =>
      rw [← here, known]
      rfl
    · simp
  rw [setObject, same]

theorem setObject_other {other : Nat} {object : HostObject} (different : other ≠ index) :
    (c.setObject index object).objects[other]? = c.objects[other]? := by
  rw [setObject, List.getElem?_modify]
  simp [Ne.symm different]

end Context
end Offload
