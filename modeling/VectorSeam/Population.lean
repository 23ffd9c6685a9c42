import VectorSeam.Accounting

/-!
The deduplicated population of a round: one sample per vector hash, its validation,
its per-ef summaries, and ef selection with the holdout check.
-/

namespace VectorSeam.Population
open VectorSeam.Model VectorSeam.Estimators VectorSeam.Accounting VectorSeam.SortedMaps

/-- A survivor of the window-wide deduplication. -/
structure PopulationSample where
  part_ulid : String
  record_index : Int
  vector_hash : UInt64
  ground_truth_latency_ms : Float
  sweeps : BTreeMap Int SweepMeasurement

/-- The survivor order: part ULID first, record ordinal second. -/
def PopulationSample.rank (sample : PopulationSample) : String ×ₗ Int := toLex (sample.part_ulid, sample.record_index)

def candidate (part_ulid : String) (sample : MeasuredSample) : PopulationSample :=
  { part_ulid, record_index := sample.record_index, vector_hash := sample.vector_hash,
    ground_truth_latency_ms := sample.ground_truth_latency_ms, sweeps := sample.sweeps }

/-- One sample per vector hash, the least by rank, in hash order. -/
def deduplicate_samples (samples : List (String × MeasuredSample)) : List PopulationSample :=
  (keep_least PopulationSample.vector_hash (fun left right => decide (left.rank < right.rank))
    (samples.map fun entry => candidate entry.1 entry.2)).toList.map Prod.snd

/-- There are no more samples than vector hashes. -/
theorem deduplicate_samples_bounded (samples : List (String × MeasuredSample)) :
    (deduplicate_samples samples).length ≤ 2 ^ 64 := by
  generalize filed : keep_least PopulationSample.vector_hash (fun left right => decide (left.rank < right.rank))
    (samples.map fun entry => candidate entry.1 entry.2) = entries
  have distinct : (entries.keys.map UInt64.toNat).Nodup :=
    Std.ExtTreeMap.nodup_keys.map fun left right same => UInt64.toNat_inj.mp same
  have hashes : entries.keys.map UInt64.toNat ⊆ List.range (2 ^ 64) := by
    intro hash member
    obtain ⟨key, _, rfl⟩ := List.mem_map.mp member
    exact List.mem_range.mpr key.toNat_lt
  have bounded := (List.subperm_of_subset distinct hashes).length_le
  rw [List.length_map, ← Std.ExtTreeMap.map_fst_toList_eq_keys, List.length_map, List.length_range] at bounded
  rw [deduplicate_samples, filed, List.length_map]
  exact bounded

def validate_observation (sample : PopulationSample) (ef : Int) : Except AggregateError Unit := do
  let observation ← ok_or sample.sweeps[ef]? (.MissingSweep sample.part_ulid sample.record_index ef)
  if ! observation.recall.isFinite || ! (0.0 ≤ observation.recall && observation.recall ≤ 1.0) ||
      ! observation.latency_ms.isFinite || observation.latency_ms < 0.0 then
    throw (.InvalidObservation sample.part_ulid sample.record_index ef)

def validate_sample (ef_grid : List Int) (sample : PopulationSample) : Except AggregateError Unit := do
  if ! sample.ground_truth_latency_ms.isFinite || sample.ground_truth_latency_ms < 0.0 then
    throw (.InvalidGroundTruthLatency sample.part_ulid sample.record_index)
  ef_grid.forM (validate_observation sample)

def validate_population (population : List PopulationSample) (ef_grid : List Int) : Except AggregateError Unit :=
  population.forM (validate_sample ef_grid)

/-- Calculation errors of the estimators, as aggregation errors. -/
def math {α : Type} : Except MathError α → Except AggregateError α
  | .ok value => .ok value
  | .error error => .error (.Math error)

/-- The sum of 64-bit floats, folded from the left as iterators do. -/
def sum (values : List Float) : Float := values.foldl (· + ·) (-0.0)
def mean (values : List Float) : Float := sum values / Float.ofNat values.length

/-- The stored observation at one ef. Only read after validation has found it;
    the source would panic where it is missing. -/
def PopulationSample.observation (sample : PopulationSample) (ef : Int) : SweepMeasurement := sample.sweeps[ef]!

def per_ef_summary (population : List PopulationSample) (config : AggregationConfig) (ef : Int) :
    Except AggregateError PerEfSummary := do
  let q := 1.0 - config.percentile
  let observations := population.map (·.observation ef)
  let recalls := observations.map (·.recall)
  let latencies := observations.map (·.latency_ms)
  let quantile_recall ← math (quantile_type7 recalls q)
  return { ef, quantile_recall, mean_recall := mean recalls, latency_mean_ms := mean latencies }

def per_ef_summaries (population : List PopulationSample) (config : AggregationConfig) :
    Except AggregateError (List PerEfSummary) :=
  if population = [] then .ok [] else config.ef_grid.mapM (per_ef_summary population config)

/-- The completed selection of a round. -/
structure CompletedSelection where
  recommended_ef : Int
  status : RoundStatus
  train_confidence : Float
  train_compliance : Float
  train_quantile : Float
  confidence : Float
  test_compliance : Float
  test_quantile : Float
deriving DecidableEq

/-- The statistics of one split at one ef. -/
structure SplitEvaluation where
  confidence : Float
  compliance : Float
  quantile : Float

/-- Samples whose stored recall at this ef reaches the required value. -/
def successes (config : AggregationConfig) (samples : List PopulationSample) (ef : Int) : Nat :=
  (samples.map fun sample => (sample.observation ef).recall).countP fun recalled => decide (config.value ≤ recalled)

theorem successes_le_length (config : AggregationConfig) (samples : List PopulationSample) (ef : Int) :
    successes config samples ef ≤ samples.length :=
  List.countP_le_length.trans_eq (List.length_map ..)

section Selection
variable (beta_reg : Float → Float → Float → Float)

def evaluate_split (config : AggregationConfig) (samples : List PopulationSample) (ef : Int) :
    Except AggregateError SplitEvaluation := do
  let recalls := samples.map fun sample => (sample.observation ef).recall
  let successes := successes config samples ef
  let confidence ← math (compliance_confidence beta_reg samples.length successes config.percentile)
  let quantile ← math (quantile_type7 recalls (1.0 - config.percentile))
  return { confidence, compliance := Float.ofNat successes / Float.ofNat samples.length, quantile }

def train_confidence (config : AggregationConfig) (train : List PopulationSample) (ef : Int) :
    Except AggregateError (Int × Float) := do
  let confidence ← math (compliance_confidence beta_reg train.length (successes config train ef) config.percentile)
  return (ef, confidence)

def select_and_validate (config : AggregationConfig) (train test : List PopulationSample) :
    Except AggregateError CompletedSelection := do
  let train_confidences ← config.ef_grid.mapM (train_confidence beta_reg config train)
  let selected ← math (select_ef (Std.ExtTreeMap.ofList train_confidences compare) config.selection_confidence)
  let train_stats ← evaluate_split beta_reg config train selected.recommended_ef
  let holdout ← evaluate_split beta_reg config test selected.recommended_ef
  return {
    recommended_ef := selected.recommended_ef
    status := selected.status
    train_confidence := train_stats.confidence
    train_compliance := train_stats.compliance
    train_quantile := train_stats.quantile
    confidence := holdout.confidence
    test_compliance := holdout.compliance
    test_quantile := holdout.quantile }

end Selection

/-! ### Success of the parts -/

theorem math_ok {α : Type} {result : Except MathError α} {value : α} : math result = .ok value ↔ result = .ok value := by
  cases result with
  | ok found => simp [math]
  | error error => simp [math]

theorem evaluate_split_ok {beta_reg : Float → Float → Float → Float} {config : AggregationConfig}
    {samples : List PopulationSample} {ef : Int} {evaluation : SplitEvaluation}
    (found : evaluate_split beta_reg config samples ef = .ok evaluation) :
    evaluation.confidence = posterior beta_reg samples.length (successes config samples ef) config.percentile ∧
      evaluation.compliance = Float.ofNat (successes config samples ef) / Float.ofNat samples.length := by
  obtain ⟨confidence, computed, rest⟩ := Results.bind_ok.mp found
  obtain ⟨quantile, _, built⟩ := Results.bind_ok.mp rest
  obtain rfl := Except.ok.inj built
  exact ⟨compliance_confidence_ok (math_ok.mp computed), rfl⟩

/-- The scores that selection reads: one posterior for each grid value, in grid order. -/
theorem train_confidences_ok {beta_reg : Float → Float → Float → Float} {config : AggregationConfig}
    {train : List PopulationSample} {grid : List Int} {scores : List (Int × Float)}
    (found : grid.mapM (train_confidence beta_reg config train) = .ok scores) :
    scores = grid.map fun ef =>
      (ef, posterior beta_reg train.length (successes config train ef) config.percentile) := by
  have pairs := Results.mapM_ok.mp found
  induction pairs with
  | nil => rfl
  | cons head _ ih =>
    obtain ⟨confidence, computed, built⟩ := Results.bind_ok.mp head
    obtain rfl := Except.ok.inj built
    rename_i tail
    rw [List.map_cons, ih (Results.mapM_ok.mpr tail), compliance_confidence_ok (math_ok.mp computed)]

end VectorSeam.Population
