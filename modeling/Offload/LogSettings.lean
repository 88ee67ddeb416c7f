import Offload.Log.Directive
import Offload.Machine.Config

/-!
Settings of the log: presets, reading them from named variables, and which filter directives can be
used.
-/
namespace Offload

inductive LogOutput where
  | compact
  | pretty
  | json
  deriving Repr, DecidableEq

namespace LogOutput

def name : LogOutput → String
  | compact => "Compact"
  | pretty => "Pretty"
  | json => "Json"

def ofName? (text : String) : Option LogOutput :=
  [compact, pretty, json].find? fun output => output.name = text

end LogOutput

/-- Which events of a span's life are logged. -/
inductive SpanEvents where
  | none
  | close
  deriving Repr, DecidableEq

def SpanEvents.name : SpanEvents → String
  | none => "NONE"
  | close => "CLOSE"

structure LogSettings where
  /-- The filter directives; without them the default directive holds. -/
  directives : Option String := none
  defaultDirective : String := "info"
  includeTargets : Bool := true
  /-- Whether the text is coloured. -/
  ansi : Bool := false
  spanEvents : SpanEvents := .none
  output : LogOutput := .json
  performance : Bool := false
  /-- Shorter spans of work, in microseconds, are not logged. -/
  threshold : Option Nat := none
  deriving Repr, DecidableEq

namespace LogSettings

/-- Coloured text for a person to read. -/
def forLocal : LogSettings :=
  { ansi := true, output := .pretty }

/-- Plain records for a collector. -/
def forCollection : LogSettings := {}

/-- Records of everything that takes time. -/
def forPerformance : LogSettings :=
  { directives := some "xpuvm_core=debug,xpuvm_backends=debug", spanEvents := .close
    performance := true }

/-- The preset of a profile name, whatever its case. -/
def ofProfile (name : String) : LogSettings :=
  match Text.lowered name.toList with
  | "ci" => forCollection
  | "performance" => forPerformance
  | _ => forLocal

def outputOf? (text : String) : Option LogOutput :=
  match Text.lowered (Text.trim text.toList) with
  | "compact" => some .compact
  | "pretty" => some .pretty
  | "json" => some .json
  | _ => none

def withOutput (s : LogSettings) (output : LogOutput) : LogSettings :=
  { s with output, ansi := s.ansi && output ≠ .json }

def isAffirmative (text : String) : Bool :=
  Text.lowered text.toList ∈ ["true", "1", "yes"]

/-- The preset that the environment names, changed by what else it sets. -/
def ofEnvironment (env : Environment) : LogSettings :=
  let s := ofProfile ((env.get? "XPUVM_TRACING_PROFILE").getD "local")
  let s := match env.get? "XPUVM_TRACING_DIRECTIVES" with
    | some directives =>
      if Text.isAllBlank directives.toList then s else { s with directives := some directives }
    | none => s
  let s := match (env.get? "XPUVM_TRACING_FORMAT").bind outputOf? with
    | some output => s.withOutput output
    | none => s
  let s := match env.get? "XPUVM_PERF_TRACING" with
    | some text => { s with performance := isAffirmative text }
    | none => s
  match (env.get? "XPUVM_PERF_THRESHOLD_US").bind
      (fun text => Text.signedNatural? Text.maxUInt64 text.toList) with
  | some us => { s with threshold := some us }
  | none => s

end LogSettings

/-- Check that a log can be set up: its directives can be used. -/
def LogSettings.check (s : LogSettings) : Except LogDirective.Fault Unit :=
  match s.directives with
  | none => .ok ()
  | some directives => LogDirective.checkAll directives

end Offload
