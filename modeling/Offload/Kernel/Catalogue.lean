import Offload.Decimal.Binary
import Offload.Kernel.Program

/-!
A catalogue of kernels by name: elementwise arithmetic, copies, atomics, reports on the launch, and
kernels that fail in every way a device knows. Integer arithmetic is modulo the word.
-/
namespace Offload.Kernel

open KernelProgram

/-- Replace the elements of an argument by what `change` makes of them and write them to another
argument. -/
def mapElements (e : Element) (source target : Nat) (change : Nat → Nat) : KernelProgram Unit := do
  let words ← elements e source
  store e target (words.map change)

/-- Add `first`, `first + 1`, … to as many elements as there are threads. -/
def addIndices (threads first : Nat) (words : List Nat) : List Nat :=
  words.mapIdx fun i word => if i < threads then word + first + i else word

def atomicsWords : KernelProgram (List Nat) :=
  readAtomics fun answer => ofExcept (answer.map (Bytes.words 4))

def storeAtomics (words : List Nat) : KernelProgram Unit :=
  writeAtomics (Bytes.ofWords 4 words) ofExcept

def int32s (bytes : Bytes) : List Int32 :=
  (Bytes.words 4 bytes).map fun word => (UInt32.ofNat word).toInt32

/-- The views of the arguments from `index` on, `count` of them. -/
def argumentViews (v : Invocation) : Nat → Nat → KernelProgram (List ArgumentView)
  | 0, _ => pure []
  | count + 1, index =>
    read index fun answer => do
      let others ← argumentViews v count (index + 1)
      pure (⟨v.isKernelContext index, v.constant index, answer⟩ :: others)

/-- Report the launch, each argument and the place behind the last. -/
def probe (v : Invocation) : KernelProgram Unit := do
  let threads ← ofExcept v.threads
  let args ← argumentViews v (v.frame.length + 1) 0
  readAtomics fun answer =>
    report (.launch threads v.batchNumber v.batchSize v.frame.length v.globalOffset v.grid
      args (answer.map int32s)) (done ())

/-- The first argument as elements of each of the types. -/
def readings : List Element → KernelProgram (List (Element × List Scalar))
  | [] => pure []
  | e :: rest => do
    let words ← elements e 0
    let others ← readings rest
    pure ((e, words.map (Scalar.ofWord e)) :: others)

/-- The low 32 bits of an integer argument. -/
def factor (v : Invocation) (index : Nat) : Except DeviceError Nat := do
  let value ← v.constant index
  match value.int? with
  | some n => .ok (n % 0x100000000).toNat
  | none => .error (.executionError "scale needs an integer")

/-- The kernels by their names. -/
def catalogue : List (String × Kernel) :=
  [("add_one", fun _ => mapElements .i32 0 0 (· + 1)),
    ("negate", fun _ => mapElements .i32 0 0 fun word => 0x100000000 - word % 0x100000000),
    ("add_index", fun v => do
      let threads ← ofExcept v.threads
      let words ← elements .i32 0
      store .i32 0 (addIndices threads v.globalOffset words)),
    ("double_into", fun _ => mapElements .f32 0 1 Decimal.binary32.double),
    ("square", fun _ => mapElements .i64 0 1 fun word => word * word),
    ("noop", fun _ => done ()),
    ("threads", fun v => do
      let threads ← ofExcept v.threads
      store .i32 0 [threads, v.batchNumber, v.batchSize, v.globalOffset]),
    ("scale", fun v => do
      let c ← ofExcept (factor v 2)
      mapElements .i32 0 1 (· * c)),
    ("copy_i16", fun _ => mapElements .i16 0 1 id),
    ("overrun", fun _ => do
      let words ← elements .i32 0
      store .i32 0 (words ++ [7])),
    ("bump", fun v => do
      let words ← atomicsWords
      storeAtomics (words.map (· + 1))
      probe v),
    ("probe", probe),
    ("type_probe", fun _ => do
      let seen ← readings [.i8, .char, .i16, .i32, .i64, .f32, .f64]
      report (.elements seen) (done ())),
    ("need_const", fun v => do
      let _ ← ofExcept (v.constant 0)),
    ("fail_unsupported", fun _ => fail (.unsupported "subgroup shuffles")),
    ("fail_oom", fun _ => fail (.outOfMemory 64 3)),
    ("fail_compile", fun _ => fail (.compilationFailed "fail_compile" "late specialization failed")),
    ("fail_exec", fun _ => fail (.executionError "lane 3 trapped")),
    ("fail_type", fun _ => fail (.typeMismatch "i32" "f32")),
    ("fail_handle", fun _ => fail (.invalidBuffer 77)),
    ("fail_event", fun _ => fail (.invalidEvent 88)),
    ("fail_other", fun _ => fail (.other "driver said no"))]

def find? (name : String) : Option Kernel :=
  (catalogue.find? fun entry => entry.1 = name).map (·.2)

end Offload.Kernel
