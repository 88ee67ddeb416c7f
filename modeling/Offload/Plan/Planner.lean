import Offload.Machine.Json
import Offload.Plan.Basic

/-!
Several plans on one context and one registry. An option that cannot be applied uses its plan up.
-/
namespace Offload

structure Planner where
  context : Context
  registry : Registry := {}
  /-- The plans by number, or nothing where there is none. -/
  plans : List (Option Plan) := []

namespace Planner

def plan? (p : Planner) (slot : Nat) : Option Plan := do
  let entry ← p.plans[slot]?
  entry

/-- Put a plan, or nothing, into a slot; slots in front of it are made as needed. -/
def setSlot (p : Planner) (slot : Nat) (plan : Option Plan) : Planner :=
  let plans := p.plans ++ List.replicate (slot + 1 - p.plans.length) none
  { p with plans := plans.set slot plan }

/-- Work of the plan in a slot; none when the slot is empty. -/
def onPlan {α : Type} (slot : Nat) (op : PlanOp α) : Op MachineError Planner (Option α) := fun p =>
  match p.plan? slot with
  | none => ⟨.ok none, p, []⟩
  | some plan =>
    match op ⟨p.context, p.registry, plan⟩ with
    | ⟨.ok a, s, log⟩ =>
      ⟨.ok (some a), { p with context := s.context, registry := s.registry }.setSlot slot s.plan, log⟩
    | ⟨.error e, s, log⟩ =>
      ⟨.error e, { p with context := s.context, registry := s.registry }.setSlot slot s.plan, log⟩

/-- Apply an option to the plan in a slot; a failure leaves the slot empty. -/
def applyOption (slot : Nat) (op : PlanOp Unit) : Op MachineError Planner (Option Unit) := fun p =>
  match onPlan slot op p with
  | ⟨.ok result, p, log⟩ => ⟨.ok result, p, log⟩
  | ⟨.error e, p, log⟩ => ⟨.error e, p.setSlot slot none, log⟩

/-- Put a new plan on the default device into a slot. -/
def create (slot : Nat) (program : Bytes) (config : Config) : Op MachineError Planner Unit :=
  Op.modify fun p => p.setSlot slot (some (.create p.registry program config))

/-! ### Plans as JSON -/

def planView (p : Planner) (plan : Plan) : Json :=
  .obj [("trace", plan.trace p.context.name), ("options", plan.options.length), ("device", plan.device),
    ("usage", p.context.memory.usage),
    ("stats", .ofOption (fun m : Machine => m.stats.toJson) plan.machine),
    ("profile", .ofOption Profile.summary plan.profile?)]

/-- The plans; nothing in an empty slot. -/
def view (p : Planner) : Json :=
  .ofList (Json.ofOption p.planView) p.plans

end Planner
end Offload
