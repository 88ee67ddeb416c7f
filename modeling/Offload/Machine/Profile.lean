import Offload.Json.Printer
import Offload.Json.Reader
import Offload.Table

/-!
Profiles: times by kind, and metrics by kind and key, all of which add up. A profile has a text form,
which reads back. Machines have no clock, so the times that they add are zero; that a kind of time was
added is kept.
-/
namespace Offload

inductive TimerKind where
  | copyIn
  | copyOut
  | dispatchTransfers
  | dispatch
  | compile
  deriving Repr, DecidableEq

inductive MetricKind where
  | allocationBytes
  | copyInBytes
  | copyOutBytes
  | kernelTime
  deriving Repr, DecidableEq

namespace TimerKind

/-- All kinds in their order. -/
def all : List TimerKind :=
  [copyIn, copyOut, dispatchTransfers, dispatch, compile]

def name : TimerKind → String
  | copyIn => "COPY_IN_TIME"
  | copyOut => "COPY_OUT_TIME"
  | dispatchTransfers => "DISPATCH_DATA_TRANSFERS_TIME"
  | dispatch => "DISPATCH_TIME"
  | compile => "COMPILE_TIME"

def ofName? (name : String) : Option TimerKind :=
  all.find? fun kind => kind.name = name

instance : LT TimerKind := ⟨fun a b => all.idxOf a < all.idxOf b⟩

instance : DecidableLT TimerKind := fun a b =>
  inferInstanceAs (Decidable (all.idxOf a < all.idxOf b))

end TimerKind

namespace MetricKind

/-- All kinds in their order. -/
def all : List MetricKind :=
  [allocationBytes, copyInBytes, copyOutBytes, kernelTime]

def name : MetricKind → String
  | allocationBytes => "ALLOCATION_BYTES"
  | copyInBytes => "COPY_IN_BYTES"
  | copyOutBytes => "COPY_OUT_BYTES"
  | kernelTime => "KERNEL_TIME"

def ofName? (name : String) : Option MetricKind :=
  all.find? fun kind => kind.name = name

instance : LT MetricKind := ⟨fun a b => all.idxOf a < all.idxOf b⟩

instance : DecidableLT MetricKind := fun a b =>
  inferInstanceAs (Decidable (all.idxOf a < all.idxOf b))

end MetricKind

structure Profile where
  timers : Table TimerKind Nat := {}
  metrics : Table MetricKind (Table String Nat) := {}
  deriving Repr, DecidableEq

namespace Profile

def addTimer (p : Profile) (kind : TimerKind) (nanoseconds : Nat) : Profile :=
  { p with timers := p.timers.alter kind fun total => total.getD 0 + nanoseconds }

def addMetric (p : Profile) (kind : MetricKind) (key : String) (value : Nat) : Profile :=
  { p with
    metrics := p.metrics.alter kind fun totals =>
      (totals.getD {}).alter key fun total => total.getD 0 + value }

def timer (p : Profile) (kind : TimerKind) : Nat :=
  (p.timers.get? kind).getD 0

def metric (p : Profile) (kind : MetricKind) (key : String) : Nat :=
  (((p.metrics.get? kind).getD {}).get? key).getD 0

/-- A metric summed over all keys. -/
def metricTotal (p : Profile) (kind : MetricKind) : Nat :=
  ((p.metrics.get? kind).getD {}).values.sum

def toJson (p : Profile) : Json :=
  .obj
    [("timers", .obj (p.timers.entries.map fun (kind, total) => (kind.name, Json.ofNat total))),
      ("metrics", .obj (p.metrics.entries.map fun (kind, totals) =>
        (kind.name, .obj (totals.entries.map fun (key, total) => (key, Json.ofNat total)))))]

/-- The indented text form. -/
def text (p : Profile) : String :=
  p.toJson.pretty 0

def timersOf? : List (String × Json) → Option (Table TimerKind Nat)
  | [] => some {}
  | (name, value) :: rest => do
    let kind ← TimerKind.ofName? name
    let total ← value.nat?
    let others ← timersOf? rest
    pure (if others.contains kind then others else others.insert kind total)

def totalsOf? : List (String × Json) → Option (Table String Nat)
  | [] => some {}
  | (key, value) :: rest => do
    let total ← value.nat?
    let others ← totalsOf? rest
    pure (if others.contains key then others else others.insert key total)

def metricsOf? : List (String × Json) → Option (Table MetricKind (Table String Nat))
  | [] => some {}
  | (name, value) :: rest => do
    let kind ← MetricKind.ofName? name
    let members ← value.object?
    let totals ← totalsOf? members
    let others ← metricsOf? rest
    pure (if others.contains kind then others else others.insert kind totals)

/-- The one member of that name. -/
def onlyMember? (name : String) (members : List (String × Json)) : Option Json :=
  match members.filter fun entry => entry.1 = name with
  | [entry] => some entry.2
  | _ => none

/-- The profile that a value spells: an object with the two members and others beside them, or an
array of the two values. Of repeated keys below them the last counts. -/
def ofJson? (json : Json) : Option Profile := do
  let (timers, metrics) ← match json with
    | .obj members => do pure (← onlyMember? "timers" members, ← onlyMember? "metrics" members)
    | .arr [timers, metrics] => some (timers, metrics)
    | _ => none
  let timers ← timersOf? (← timers.object?)
  let metrics ← metricsOf? (← metrics.object?)
  pure { timers, metrics }

/-- Read the text form. -/
def parse? (text : String) : Option Profile := do
  ofJson? (← Json.parse? text)

end Profile

/-- Where measurements go: nowhere, or into a profile. -/
inductive Profiler where
  | off
  | on (profile : Profile)
  deriving Repr, DecidableEq

namespace Profiler

/-- A profiler that has not measured anything. -/
def create (enabled : Bool) : Profiler :=
  if enabled then on {} else off

def isEnabled : Profiler → Bool
  | off => false
  | on _ => true

def profile : Profiler → Profile
  | off => {}
  | on profile => profile

def addTimer (p : Profiler) (kind : TimerKind) (nanoseconds : Nat) : Profiler :=
  match p with
  | off => off
  | on profile => on (profile.addTimer kind nanoseconds)

def addMetric (p : Profiler) (kind : MetricKind) (key : String) (value : Nat) : Profiler :=
  match p with
  | off => off
  | on profile => on (profile.addMetric kind key value)

def reset : Profiler → Profiler
  | off => off
  | on _ => on {}

end Profiler
end Offload
