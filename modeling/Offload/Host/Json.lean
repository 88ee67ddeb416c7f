import Offload.Host.Object
import Offload.Json.Member

/-!
The JSON forms of scalars and host objects. An integer may be written with more bits than its type
has: the lower ones count.
-/
namespace Offload

namespace Scalar

/-- The value alone. -/
def toJson (s : Scalar) : Json :=
  match s with
  | f32 bits => .ofReal Decimal.binary32 bits.toNat
  | f64 bits => .ofReal Decimal.binary64 bits.toNat
  | other => .ofOption .int other.int?

/-- The value with all that is derived from it. -/
def summary (s : Scalar) : Json :=
  .obj [("text", s.text), ("type", s.element.name), ("size", s.element.size),
    ("fp64", s.element.requiresDouble), ("hex", .ofBytes s.bytes), ("i64", .ofOption .int s.int?),
    ("f64", .ofReal Decimal.binary64 s.toFloat.toBits.toNat)]

/-- An object with one member, which is named for the type. -/
def ofJson : Json → Decoded Scalar
  | .obj [(name, value)] => do
    let e ← Json.orMalformed (Element.ofName? name)
    match e with
    | .f32 => ofWord e <$> value.bits 8
    | .f64 => ofWord e <$> value.bits 16
    | _ => ofWord e <$> value.wordOfInteger
  | _ => Json.malformed

end Scalar

namespace HostObject

def ofJson (j : Json) : Decoded HostObject := do
  if (← j.orElse "ctx" false Json.boolean) then pure kernelContext
  else
    match j.given? "scalar" with
    | some value => scalar <$> Scalar.ofJson value
    | none =>
      let e ← j.required "array" (Json.named Element.ofName?)
      match j.given? "zeros", j.given? "values", j.given? "hex" with
      | some length, _, _ => (fun n => array (.zeroed e n)) <$> length.natural
      | none, some values, _ => (fun words => array (.ofWords e words)) <$> values.list Json.wordOfInteger
      | none, none, some bytes => (fun bytes => array ⟨e, bytes⟩) <$> bytes.hexBytes
      | none, none, none => pure (array (.zeroed e 0))

def summary (o : HostObject) : List (String × Json) :=
  let length : Json := match o with
    | array a => .arr [a.length, a.bytes.length, a.bytes.isEmpty]
    | _ => .null
  [("text", o.text), ("bytes", o.byteSize), ("ctx", o.isKernelContext), ("fp64", o.requiresDouble),
    ("type", .ofOption (fun e : Element => e.name) o.element?), ("hex", .ofBytes o.bytes), ("len", length)]

end HostObject
end Offload
