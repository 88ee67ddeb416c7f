import Offload.Json.Member
import Offload.LogSettings

/-!
Log events, log settings and named variables as JSON.
-/
namespace Offload

def LogValue.toJson : LogValue → Json
  | number n => .int n
  | flag b => .bool b
  | text s => .str s
  | real bits => .ofReal Decimal.binary64 bits.toNat

/-- Level, message and fields. -/
def LogEvent.toJson (e : LogEvent) : Json :=
  .arr [e.level.name, .ofOption .str e.message,
    .obj (e.fields.map fun (name, value) => (name, value.toJson))]

def Log.toJson (log : Log) : Json :=
  .ofList LogEvent.toJson log

def LogSettings.members (s : LogSettings) : List (String × Json) :=
  [("directives", .ofOption .str s.directives), ("default_directive", s.defaultDirective),
    ("include_targets", s.includeTargets), ("ansi", s.ansi), ("span_events", s.spanEvents.name),
    ("output", s.output.name), ("threshold_us", .ofOption .ofNat s.threshold)]

/-- Variables by name; of repeated names the last counts. -/
def Environment.ofJson (j : Json) : Decoded Environment := do
  let members ← Json.orMalformed j.object?
  members.reverse.mapM fun (name, value) => (name, ·) <$> value.string

end Offload
