import VectorSeam.Window

/-!
The data contracts of one cohort round: configuration, listed parts, stored
intermediates and the published record. Unsigned counters and timestamps are
naturals, signed values integers, and 64-bit floats are Lean's `Float`, whose `==`
is the IEEE comparison that the source's derived equality uses.
-/

namespace VectorSeam.Model

/-- Ordered maps keyed as in the source. -/
abbrev BTreeMap (κ ν : Type) [Ord κ] := Std.ExtTreeMap κ ν compare

def U64_MAX : Nat := 2 ^ 64 - 1
def I32_MAX : Int := 2 ^ 31 - 1

/-- The bounds of every recommendation. -/
def MIN_EF_SEARCH : Int := 1
def MAX_EF_SEARCH : Int := 1000

/-- Addition on unsigned 64-bit integers, absent on overflow. -/
def checked_add (left right : Nat) : Option Nat := if left + right ≤ U64_MAX then some (left + right) else none
/-- Subtraction on unsigned 64-bit integers, absent on underflow. -/
def checked_sub (left right : Nat) : Option Nat := if right ≤ left then some (left - right) else none

/-- Configuration values needed by one cohort's aggregation. -/
structure AggregationConfig where
  cohort : String
  target_name : String
  index : String
  table : String
  column : String
  key : String
  k : Nat
  value : Float
  percentile : Float
  selection_confidence : Float
  approval_confidence : Float
  window_duration_seconds : Nat
  storage_window_seconds : Nat
  ef_grid : List Int
  train_fraction : Float
  split_seed : Nat
deriving DecidableEq

/-- Header values from one listed segment part. -/
structure ListedPart where
  part_ulid : String
  window_start : Nat
  window_seconds : Nat
  received_frame_count : Nat
  record_count : Nat
deriving DecidableEq

/-- Key-value metadata of one intermediate pair. -/
structure IntermediateMetadata where
  format_version : Nat
  cohort : String
  part_ulid : String
  window_start : Nat
  window_seconds : Nat
  received_frame_count : Nat
  record_count : Nat
  index : String
  table : String
  column : String
  key : String
  k : Nat
  ef_grid : List Int
  failed_count : Nat
  measured_count : Nat
  computed_at_us : Nat
deriving DecidableEq

/-- One stored sweep observation. -/
structure SweepMeasurement where
  «recall» : Float
  latency_ms : Float
deriving BEq, Inhabited

/-- One measured distinct vector within a part. -/
structure MeasuredSample where
  record_index : Int
  vector_hash : UInt64
  dup_count : Int
  ground_truth_latency_ms : Float
  sweeps : BTreeMap Int SweepMeasurement
deriving BEq

/-- One durable truth/sweep pair. -/
structure IntermediatePart where
  metadata : IntermediateMetadata
  samples : List MeasuredSample
deriving BEq

/-- A cohort-level abort of the measuring phase. -/
inductive PhaseAAbort where
  | TableSmallerThanK (error : String)
deriving DecidableEq

def PhaseAAbort.error_text : PhaseAAbort → String
  | .TableSmallerThanK error => error

inductive RoundStatus where
  | Ok
  | TargetUnmet
  | InsufficientSamples
deriving DecidableEq

structure RoundTarget where
  name : String
  k : Nat
  value : Float
  percentile : Float
  selection_confidence : Float
  approval_confidence : Float
deriving DecidableEq

structure RoundWindow where
  start : String
  finish : String
  duration_seconds : Nat
deriving DecidableEq

structure SampleCounts where
  available : Nat
  measured : Nat
  failed : Nat
  unique : Nat
  train : Nat
  test : Nat
deriving DecidableEq

structure Coverage where
  empty_window_fraction : Float
  windows_in_scope : Nat
  windows_with_parts : Nat
deriving DecidableEq

structure PerEfSummary where
  ef : Int
  quantile_recall : Float
  mean_recall : Float
  latency_mean_ms : Float
deriving DecidableEq

/-- The recommendation clients apply until a newer round supersedes it. -/
structure EffectiveRecommendation where
  recommended_ef : Int
  confidence : Float
  source_round : String
  carried : Bool
deriving DecidableEq

/-- The published round record; `window.finish` is its `window.end`. -/
structure RoundOutput where
  format_version : Nat
  cohort : String
  computed_at : String
  window : RoundWindow
  target : RoundTarget
  index : String
  ef_grid : List Int
  status : RoundStatus
  error : Option String
  recommended_ef : Option Int
  confidence : Option Float
  train_confidence : Option Float
  train_compliance : Option Float
  train_quantile_recall : Option Float
  test_compliance : Option Float
  test_quantile_recall : Option Float
  effective : Option EffectiveRecommendation
  samples : SampleCounts
  dropped_frame_fraction : Float
  coverage : Coverage
  parts_used : Nat
  incompatible_parts : Nat
  ground_truth_latency_mean_ms : Option Float
  per_ef : List PerEfSummary
deriving DecidableEq

/-- Everything one aggregation reads. -/
structure AggregationInput where
  config : AggregationConfig
  round_end : Nat
  computed_at : String
  phase_a_abort : Option PhaseAAbort
  phase_a_incompatible_parts : Nat
  previous_round : Option RoundOutput
  listed_parts : List ListedPart
  intermediates : List IntermediatePart

/-! ### Checked arithmetic -/

theorem checked_add_eq_some {left right total : Nat} :
    checked_add left right = some total ↔ total = left + right ∧ left + right ≤ U64_MAX := by
  unfold checked_add
  by_cases fits : left + right ≤ U64_MAX
  · simp [fits, eq_comm]
  · simp [fits]

theorem checked_sub_eq_some {left right rest : Nat} :
    checked_sub left right = some rest ↔ right ≤ left ∧ rest = left - right := by
  unfold checked_sub
  by_cases fits : right ≤ left
  · simp [fits, eq_comm]
  · simp [fits]

end VectorSeam.Model
