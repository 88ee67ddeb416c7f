import Offload.Log

/-!
Events that describe the work of a device: allocations, copies, launches and compilations, and spans
of work. A duration is logged where one is known.
-/
namespace Offload.Performance

/-- The way of a copy. -/
inductive Direction where
  | hostToDevice
  | deviceToHost
  deriving Repr, DecidableEq

def Direction.text : Direction → String
  | hostToDevice => "H2D"
  | deviceToHost => "D2H"

def Direction.ofText? (text : String) : Option Direction :=
  [Direction.hostToDevice, .deviceToHost].find? fun direction => direction.text = text

/-- A number as a double-precision one. -/
def toFloat (n : Nat) : Float :=
  (UInt64.ofNat n).toFloat

def realField (value : Float) : LogValue :=
  .real value.toBits

/-- A duration in microseconds, if it is known. -/
def microseconds (duration : Option Nat) : LogFields :=
  match duration with
  | some us => [("duration_us", us)]
  | none => []

def milliseconds (duration : Option Nat) : LogFields :=
  match duration with
  | some us => [("duration_ms", realField (toFloat us / 1000.0))]
  | none => []

/-- Mebibytes a second; none are counted for a copy that took no time. -/
def bandwidth (bytes us : Nat) : Float :=
  if us = 0 then 0.0 else (toFloat bytes / toFloat us) * 1000000.0 / (1024.0 * 1024.0)

def bandwidthField (bytes : Nat) (duration : Option Nat) : LogFields :=
  match duration with
  | some us => [("bandwidth_mbps", realField (bandwidth bytes us))]
  | none => []

def debugEvent (message : String) (fields : LogFields) : LogEvent :=
  ⟨.debug, some message, fields⟩

def allocation (objects bytes usage : Nat) : LogEvent :=
  debugEvent "device_allocation"
    [("event", "allocation"), ("objects", objects), ("size_bytes", bytes),
      ("size_kb", realField (toFloat bytes / 1024.0)), ("device_usage_bytes", usage)]

def transfer (bytes : Nat) (direction : Direction) (duration : Option Nat) : LogEvent :=
  debugEvent "data_transfer"
    (([("event", "transfer"), ("bytes", bytes), ("direction", direction.text)] : LogFields) ++
      microseconds duration ++ bandwidthField bytes duration)

def launch (task : String) (threads : Nat) (duration : Option Nat) : LogEvent :=
  debugEvent "kernel_launch"
    (([("event", "launch"), ("task", task), ("batch_threads", threads)] : LogFields) ++
      microseconds duration)

def compilation (task : String) (forced : Bool) (duration : Option Nat) : LogEvent :=
  debugEvent "kernel_compilation"
    (([("event", "compilation"), ("task", task), ("forced", forced)] : LogFields) ++
      microseconds duration ++ milliseconds duration)

/-- The end of a block of work whose time is taken. -/
def timedBlock (operation : String) : LogEvent :=
  debugEvent "timed_block_complete" [("operation", operation)]

def spanStart (name : String) (fields : LogFields) : LogEvent :=
  debugEvent "performance_span_start" (("name", name) :: fields)

def spanComplete : LogEvent :=
  debugEvent "performance_span_complete" []

/-- How many microseconds a span takes that ends as soon as it starts: a part of one counts as one. -/
def shortestSpan : Nat := 1

/-- What a span of work logs at its end: nothing when it was shorter than the threshold. -/
def spanEnd (threshold : Option Nat) (elapsed : Nat) : Log :=
  if threshold.all (· ≤ elapsed) then [spanComplete] else []

end Offload.Performance
