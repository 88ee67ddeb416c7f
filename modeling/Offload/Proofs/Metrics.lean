import Offload.Machine.Basic

/-! What measurements add up to. A measurement adds to one number, by its kind and its name, and leaves all others
alone; so the numbers of a kind grow in total by what was measured. -/
namespace Offload

namespace Profile

variable {p : Profile} {kind : MetricKind} {key : String}

/-- The numbers of a kind. -/
def totals (p : Profile) (kind : MetricKind) : Table String Nat :=
  (p.metrics.get? kind).getD {}

/-- Names stand in ascending order, whatever is measured. -/
def Sorted (p : Profile) : Prop :=
  ∀ kind, (p.totals kind).keys.Pairwise (· < ·)

theorem metric_congr {q : Profile} (same : q.totals kind = p.totals kind) : q.metric kind key = p.metric kind key :=
  congrArg (fun totals : Table String Nat => (totals.get? key).getD 0) same

theorem metricTotal_congr {q : Profile} (same : q.totals kind = p.totals kind) :
    q.metricTotal kind = p.metricTotal kind :=
  congrArg (fun totals : Table String Nat => totals.values.sum) same

private theorem totals_addMetric (p : Profile) (kind other : MetricKind) (key : String) (value : Nat) :
    (p.addMetric kind key value).totals other =
      if kind = other then (p.totals kind).alter key fun before => before.getD 0 + value else p.totals other := by
  rw [totals, addMetric, Table.alter, Table.get?_insert]
  split <;> rfl

/-- An empty profile is sorted. -/
theorem sorted_empty : Profile.Sorted {} :=
  fun _ => .nil

private theorem Sorted.addMetric (sorted : p.Sorted) (kind : MetricKind) (key : String) (value : Nat) :
    (p.addMetric kind key value).Sorted := by
  intro other
  rw [totals_addMetric]
  split
  · exact Table.pairwise_keys_insert (sorted kind) _ _
  · exact sorted other

/-- A measurement adds to the number of its kind and name. -/
theorem metric_addMetric (p : Profile) (kind other : MetricKind) (key name : String) (value : Nat) :
    (p.addMetric kind key value).metric other name =
      p.metric other name + if kind = other ∧ key = name then value else 0 := by
  show (((p.addMetric kind key value).totals other).get? name).getD 0 = ((p.totals other).get? name).getD 0 + _
  rw [totals_addMetric]
  by_cases same : kind = other
  · subst same
    rw [if_pos rfl, Table.alter, Table.get?_insert]
    by_cases named : key = name <;> simp [named]
  · simp [same]

/-- A measurement adds to the total of its kind. -/
theorem metricTotal_addMetric (sorted : (p.totals kind).keys.Pairwise (· < ·)) (other : MetricKind)
    (key : String)
    (value : Nat) :
    (p.addMetric kind key value).metricTotal other = p.metricTotal other + if kind = other then value else 0 := by
  show ((p.addMetric kind key value).totals other).values.sum = (p.totals other).values.sum + _
  rw [totals_addMetric]
  by_cases same : kind = other
  · subst same
    have replaced := Table.sum_values_insert sorted id key (((p.totals kind).get? key).getD 0 + value)
    simp only [List.map_id, Option.map_id, id_eq] at replaced
    rw [if_pos rfl, if_pos rfl, Table.alter]
    omega
  · simp [same]

end Profile

namespace Profiler

@[simp] theorem isEnabled_addMetric (p : Profiler) (kind : MetricKind) (key : String) (value : Nat) :
    (p.addMetric kind key value).isEnabled = p.isEnabled := by
  cases p <;> rfl

@[simp] theorem isEnabled_addTimer (p : Profiler) (kind : TimerKind) (nanoseconds : Nat) :
    (p.addTimer kind nanoseconds).isEnabled = p.isEnabled := by
  cases p <;> rfl

@[simp] theorem metrics_addTimer (p : Profiler) (kind : TimerKind) (nanoseconds : Nat) :
    (p.addTimer kind nanoseconds).profile.metrics = p.profile.metrics := by
  cases p <;> rfl

private theorem profile_addMetric {p : Profiler} (enabled : p.isEnabled = true) (kind : MetricKind) (key : String)
    (value : Nat) : (p.addMetric kind key value).profile = p.profile.addMetric kind key value := by
  cases p with
  | off => cases enabled
  | on profile => rfl

/-- A profiler that is on adds a measurement to the number of its kind and name. -/
theorem metric_addMetric {p : Profiler} (enabled : p.isEnabled = true) (kind other : MetricKind) (key name : String)
    (value : Nat) : (p.addMetric kind key value).profile.metric other name =
      p.profile.metric other name + if kind = other ∧ key = name then value else 0 := by
  rw [profile_addMetric enabled]
  exact Profile.metric_addMetric _ _ _ _ _ _

/-- What is added to one metric is added to its total. -/
theorem metricTotal_addMetric {p : Profiler} {kind : MetricKind} (enabled : p.isEnabled = true)
    (sorted : (p.profile.totals kind).keys.Pairwise (· < ·)) (other : MetricKind) (key : String) (value : Nat) :
    (p.addMetric kind key value).profile.metricTotal other =
      p.profile.metricTotal other + if kind = other then value else 0 := by
  rw [profile_addMetric enabled]
  exact Profile.metricTotal_addMetric sorted other key value

/-- Timers are no metrics. -/
theorem totals_addTimer (p : Profiler) (kind : TimerKind) (nanoseconds : Nat) (metric : MetricKind) :
    (p.addTimer kind nanoseconds).profile.totals metric = p.profile.totals metric := by
  rw [Profile.totals, metrics_addTimer, Profile.totals]

/-- What is added to one metric leaves the others alone. -/
theorem totals_addMetric_other {kind other : MetricKind} (p : Profiler) (key : String) (value : Nat)
    (differ : kind ≠ other) : (p.addMetric kind key value).profile.totals other = p.profile.totals other := by
  cases p with
  | off => rfl
  | on profile => exact (Profile.totals_addMetric profile kind other key value).trans (if_neg differ)

/-- A sorted profile stays sorted. -/
theorem sorted_addMetric {p : Profiler} (sorted : p.profile.Sorted) (kind : MetricKind) (key : String)
    (value : Nat) : (p.addMetric kind key value).profile.Sorted := by
  cases p with
  | off => exact sorted
  | on profile => exact Profile.Sorted.addMetric sorted kind key value

end Profiler

/-- Objects have names of their own. -/
theorem Machine.objectKey_inj {object other : Nat} : objectKey object = objectKey other ↔ object = other := by
  refine ⟨fun same => ?_, congrArg objectKey⟩
  have digits : Nat.repr object = Nat.repr other := by
    simpa [objectKey, toString, String.append_assoc] using same
  have values := congrArg (fun text => Nat.ofDigitChars 10 text.toList 0) digits
  simpa [Nat.repr, Nat.ofDigitChars_toDigits] using values

end Offload
