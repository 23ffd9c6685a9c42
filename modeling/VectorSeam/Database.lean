import VectorSeam.SweepOrder
import VectorSeam.Identifiers
import VectorSeam.Measure
import VectorSeam.Startup

/-!
The measurement of one sample in one database transaction: settings, the exact query and
one approximate query for each value of the grid. The database may answer an operation
with rows, with an error or not in time. Times are read from a monotonic clock, and how a
span of time is printed is a parameter.
-/

namespace VectorSeam.Database
open VectorSeam.Model VectorSeam.Effects VectorSeam.Programs VectorSeam.Estimators VectorSeam.Durations
open VectorSeam.Cohort VectorSeam.SweepOrder VectorSeam.Identifiers VectorSeam.Configuration VectorSeam.Measure

/-! ### Operations of a connection -/

/-- An error of the database client by its text. -/
structure PostgresError where
  message : String
  is_closed : Bool
deriving DecidableEq

/-- Why an operation gave no result: the client failed, or its time was over. -/
inductive ClientFailure where
  | Failed (error : PostgresError)
  | Elapsed
deriving DecidableEq

inductive KeyType where
  | INT2
  | INT4
  | INT8
  | Other (name : String)
deriving DecidableEq

/-- A row of a result; reading a column may fail. -/
structure Row where
  key_type : KeyType
  key : Except PostgresError Int
  distance : Except PostgresError Float

inductive Operation where
  | begin_transaction
  | batch_execute (sql : String)
  | query (sql : String) (vector : List UInt32)
  | commit
  | rollback

/-- Rows come with the time that the query took. -/
@[reducible] def Answer : Operation → Type
  | .query _ _ => Except ClientFailure (List Row × Duration)
  | _ => Except ClientFailure Unit

abbrev Session (α : Type) := Prog Operation Answer SampleMeasureError α

def error_text : SampleMeasureError → String
  | .Database message => "database sample measurement failed: " ++ message
  | .Connection message => "database connection unavailable: " ++ message
  | .CancelledBeforeTransaction => "sample measurement cancelled before transaction start"
  | .TableSmallerThanK returned k => "table returned " ++ toString returned ++ " rows, fewer than k=" ++ toString k

def database_sample_error (error : PostgresError) : SampleMeasureError :=
  if error.is_closed then .Connection error.message else .Database error.message

/-! ### Results of queries -/

def decode_key (row : Row) : Except SampleMeasureError Int :=
  match row.key_type with
  | .INT2 => row.key.mapError database_sample_error
  | .INT4 => row.key.mapError database_sample_error
  | .INT8 => row.key.mapError database_sample_error
  | .Other observed =>
    .error (.Database ("key column must be int2, int4, or int8; PostgreSQL returned " ++ observed))

def decode_keys (rows : List Row) : Except SampleMeasureError (List Int) := rows.mapM decode_key

def decode_ground_truth (rows : List Row) : Except SampleMeasureError (List Int × List Float) := do
  let keys ← decode_keys rows
  let distances ← rows.mapM fun row => row.distance.mapError database_sample_error
  return (keys, distances)

def math_error_text : MathError → String
  | .ZeroK => "recall k must be at least 1"
  | .EmptyQuantile => "type-7 quantile requires at least one value"
  | .InvalidQuantileProbability => "quantile probability must be finite and in [0, 1]"
  | .NonFiniteQuantileValue => "quantile values must all be finite"
  | .EmptyEfGrid => "ef selection requires a non-empty grid"
  | .InvalidSelectionInput => "ef selection requires finite scores in [0, 1] and threshold in (0, 1]"
  | .InvalidConfidenceInput => "confidence requires m <= n and finite percentile in (0, 1)"
  | .InvalidTrainFraction => "train fraction must round to a split threshold in 1..=9999"

def latency_ms (elapsed : Duration) : Float := elapsed.as_secs_f64 * 1000.0

def statement_timeout_sql (timeout : Duration) : String :=
  let timeout_ms := (timeout.as_nanos + 999999) / 1000000
  "SET LOCAL statement_timeout = \x27" ++ toString timeout_ms ++ "ms\x27"

/-! ### The transaction -/

section Session
variable (debug_duration : Duration → String) (client_timeout : Duration)

/-- The result of an operation, its failure as the error of a sample. -/
def client_operation {α : Type} (operation : String) : Except ClientFailure α → Except SampleMeasureError α
  | .ok value => .ok value
  | .error (.Failed error) => .error (database_sample_error error)
  | .error .Elapsed => .error (.Connection (operation ++ " exceeded client timeout " ++ debug_duration client_timeout))

def begin_sample_transaction : Session Unit := do
  let reply ← Prog.perform .begin_transaction
  Prog.lift (client_operation debug_duration client_timeout "begin transaction" reply)

def execute_counted (sql : String) : Session Unit := do
  let reply ← Prog.perform (.batch_execute sql)
  Prog.lift (client_operation debug_duration client_timeout "execute transaction setting" reply)

def query (operation sql : String) (vector : List UInt32) : Session (List Row × Duration) := do
  let reply ← Prog.perform (.query sql vector)
  Prog.lift (client_operation debug_duration client_timeout operation reply)

def sweep_result (config : AggregationConfig) (gt_keys : List Int) (ef : Int) (rows : List Row) (elapsed : Duration) :
    Except SampleMeasureError SampleSweepResult := do
  let returned_keys ← decode_keys rows
  let recalled ← (recall_at_k gt_keys returned_keys config.k).mapError fun error => .Database (math_error_text error)
  return { ef, returned_keys, «recall» := recalled, latency_ms := latency_ms elapsed }

def measure_sweeps (vector : List UInt32) (config : AggregationConfig) (gt_keys : List Int) :
    List Int → Session (List SampleSweepResult)
  | [] => pure []
  | ef :: rest => do
    execute_counted debug_duration client_timeout ("SET LOCAL hnsw.ef_search = " ++ toString ef)
    let (rows, elapsed) ← query debug_duration client_timeout "ANN query" (ann_sql config) vector
    let sweep ← Prog.lift (sweep_result config gt_keys ef rows elapsed)
    let sweeps ← measure_sweeps vector config gt_keys rest
    return sweep :: sweeps

/-- The order by ef, which leaves open nothing when every ef is there once. -/
def by_ef (left right : SampleSweepResult) : Bool := decide (left.ef ≤ right.ef)

def check_table (config : AggregationConfig) (rows : List Row) : Except SampleMeasureError Unit :=
  if rows.length < config.k then .error (.TableSmallerThanK rows.length config.k) else .ok ()

def measure_in_transaction (statement_timeout : Duration) (vector : List UInt32) (config : AggregationConfig) :
    Session SampleMeasurement := do
  execute_counted debug_duration client_timeout (statement_timeout_sql statement_timeout)
  execute_counted debug_duration client_timeout "SET LOCAL enable_indexscan = off"
  let (truth_rows, ground_truth_elapsed) ←
    query debug_duration client_timeout "ground-truth query" (ground_truth_sql config) vector
  Prog.lift (check_table config truth_rows)
  let (gt_keys, gt_distances) ← Prog.lift (decode_ground_truth truth_rows)
  execute_counted debug_duration client_timeout "SET LOCAL enable_indexscan = on"
  let sweeps ← measure_sweeps debug_duration client_timeout vector config gt_keys (sweep_order vector config.ef_grid)
  return {
    gt_keys
    gt_distances
    ground_truth_latency_ms := latency_ms ground_truth_elapsed
    sweeps := sweeps.mergeSort by_ef }

def finish_transaction {α : Type} : Except SampleMeasureError α → Session α
  | .error (.Connection message) => .fail (.Connection message)
  | .ok value => do
    let reply ← Prog.perform .commit
    match client_operation debug_duration client_timeout "commit transaction" reply with
    | .ok () => pure value
    | .error error => .fail (.Connection ("transaction commit failed: " ++ error_text error))
  | .error primary => do
    let reply ← Prog.perform .rollback
    match client_operation debug_duration client_timeout "rollback transaction" reply with
    | .ok () => .fail primary
    | .error error =>
      .fail (.Connection (error_text primary ++ "; transaction rollback also failed: " ++ error_text error))

def run_sample_transaction (statement_timeout : Duration) (vector : List UInt32) (config : AggregationConfig) :
    Session SampleMeasurement := do
  begin_sample_transaction debug_duration client_timeout
  let result ← (measure_in_transaction debug_duration client_timeout statement_timeout vector config).attempt
  finish_transaction debug_duration client_timeout result

end Session

/-! ### What a measurement contains -/

/-- Any answer of the database and any operation. -/
def anything {operation : Operation} (_ : Answer operation) : Prop := True

section Measured
variable {debug_duration : Duration → String} {client_timeout statement_timeout : Duration} {vector : List UInt32}
  {config : AggregationConfig}

/-- A session whose returned values are as specified, whatever the database answers. -/
def Returns {α : Type} (post : α → Prop) (session : Session α) : Prop :=
  Safe (fun _ => anything) (fun _ => True) post session

theorem execute_counted_returns (sql : String) :
    Returns (fun _ => True) (execute_counted debug_duration client_timeout sql) :=
  safe_perform_bind trivial fun _ _ => safe_lift fun _ _ => trivial

theorem query_returns (operation sql : String) :
    Returns (fun _ => True) (query debug_duration client_timeout operation sql vector) :=
  safe_perform_bind trivial fun _ _ => safe_lift fun _ _ => trivial

private theorem sweep_result_ef {gt_keys : List Int} {ef : Int} {rows : List Row} {elapsed : Duration}
    {sweep : SampleSweepResult} (found : sweep_result config gt_keys ef rows elapsed = .ok sweep) : sweep.ef = ef := by
  obtain ⟨returned_keys, _, found⟩ := Results.bind_ok.mp found
  obtain ⟨recalled, _, built⟩ := Results.bind_ok.mp found
  exact Except.ok.inj built ▸ rfl

/-- One sweep for each value, in the order of the values. -/
theorem measure_sweeps_returns (gt_keys order : List Int) :
    Returns (fun sweeps => sweeps.map (·.ef) = order)
      (measure_sweeps debug_duration client_timeout vector config gt_keys order) := by
  induction order with
  | nil => rfl
  | cons ef rest inductionHypothesis =>
    refine safe_bind (execute_counted_returns _) fun _ _ => ?_
    refine safe_bind (query_returns _ _) fun reply _ => ?_
    refine safe_bind (safe_lift fun sweep found => sweep_result_ef found) fun sweep sameEf => ?_
    refine safe_bind inductionHypothesis fun sweeps sameRest => ?_
    refine safe_pure ?_
    rw [List.map_cons, sameEf, sameRest]

private theorem by_ef_trans (first second third : SampleSweepResult) (le : by_ef first second = true)
    (le' : by_ef second third = true) : by_ef first third = true :=
  decide_eq_true (le_trans (of_decide_eq_true le) (of_decide_eq_true le'))
private theorem by_ef_total (first second : SampleSweepResult) : (by_ef first second || by_ef second first) = true := by
  simpa [by_ef] using le_total first.ef second.ef

/-- Sorted by ef, sweeps of a shuffled grid are in the order of the grid. -/
theorem sorted_sweeps {sweeps : List SampleSweepResult} {grid : List Int} (ascending : grid.IsChain (· < ·))
    (shuffled : (sweeps.map (·.ef)).Perm grid) : (sweeps.mergeSort by_ef).map (·.ef) = grid := by
  have ordered : ((sweeps.mergeSort by_ef).map (·.ef)).Pairwise (· ≤ ·) :=
    List.pairwise_map.mpr ((List.pairwise_mergeSort by_ef_trans by_ef_total sweeps).imp of_decide_eq_true)
  have sorted : grid.Pairwise (· ≤ ·) := ascending.pairwise.imp le_of_lt
  have perm := ((List.mergeSort_perm sweeps by_ef).map (·.ef)).trans shuffled
  exact perm.eq_of_pairwise (fun _ _ _ _ => le_antisymm) ordered sorted

/-- What is known of a returned measurement. -/
structure Complete (config : AggregationConfig) (measured : SampleMeasurement) : Prop where
  grid : measured.sweeps.map (·.ef) = config.ef_grid
  distances : measured.gt_distances.length = measured.gt_keys.length
  enough : config.k ≤ measured.gt_keys.length

private theorem decode_ground_truth_length {rows : List Row} {decoded : List Int × List Float}
    (found : decode_ground_truth rows = .ok decoded) :
    decoded.1.length = rows.length ∧ decoded.2.length = rows.length := by
  obtain ⟨keys, keysFound, found⟩ := Results.bind_ok.mp found
  obtain ⟨distances, distancesFound, built⟩ := Results.bind_ok.mp found
  obtain rfl := Except.ok.inj built
  exact ⟨(Results.mapM_ok.mp keysFound).length_eq.symm, (Results.mapM_ok.mp distancesFound).length_eq.symm⟩

theorem measure_in_transaction_returns (ascending : config.ef_grid.IsChain (· < ·)) :
    Returns (Complete config) (measure_in_transaction debug_duration client_timeout statement_timeout vector config) := by
  refine safe_bind (execute_counted_returns _) fun _ _ => ?_
  refine safe_bind (execute_counted_returns _) fun _ _ => ?_
  refine safe_bind (query_returns _ _) fun truth _ => ?_
  refine safe_bind (safe_lift fun _ checked => show config.k ≤ truth.1.length from ?_) fun _ enough => ?_
  · by_contra short
    rw [check_table, if_pos (Nat.lt_of_not_le short)] at checked
    cases checked
  refine safe_bind (safe_lift fun decoded found => decode_ground_truth_length found) fun decoded lengths => ?_
  refine safe_bind (execute_counted_returns _) fun _ _ => ?_
  refine safe_bind (measure_sweeps_returns _ _) fun sweeps swept => ?_
  refine safe_pure ⟨sorted_sweeps ascending (swept ▸ sweep_order_perm vector config.ef_grid), ?_, ?_⟩
  · exact lengths.2.trans lengths.1.symm
  · exact enough.trans lengths.1.ge

theorem finish_transaction_returns {α : Type} {post : α → Prop} {result : Except SampleMeasureError α}
    (holds : ∀ value, result = .ok value → post value) :
    Returns post (finish_transaction debug_duration client_timeout result) := by
  cases result with
  | ok value =>
    refine safe_perform_bind trivial fun reply _ => ?_
    split
    · exact holds value rfl
    · trivial
  | error primary =>
    cases primary with
    | Connection message => trivial
    | Database message =>
      refine safe_perform_bind trivial fun reply _ => ?_
      split <;> trivial
    | CancelledBeforeTransaction =>
      refine safe_perform_bind trivial fun reply _ => ?_
      split <;> trivial
    | TableSmallerThanK returned k =>
      refine safe_perform_bind trivial fun reply _ => ?_
      split <;> trivial

theorem run_sample_transaction_returns (ascending : config.ef_grid.IsChain (· < ·)) :
    Returns (Complete config) (run_sample_transaction debug_duration client_timeout statement_timeout vector config) := by
  refine safe_bind (safe_perform_bind trivial fun _ _ => safe_lift fun _ _ => trivial) fun _ _ => ?_
  exact safe_bind (safe_attempt (measure_in_transaction_returns ascending)) fun result complete =>
    finish_transaction_returns complete

/-- A complete measurement with `k` rows has the shape that the part asks for. -/
theorem Complete.well_shaped {measured : SampleMeasurement} (complete : Complete config measured)
    (rows : measured.gt_keys.length = config.k) : Measure.well_shaped config measured = true := by
  have sweeps : measured.sweeps.length = config.ef_grid.length := by rw [← complete.grid, List.length_map]
  have same : ∀ pair ∈ measured.sweeps.zip config.ef_grid, pair.1.ef = pair.2 := by
    rw [← complete.grid]
    intro pair member
    obtain ⟨index, inside, rfl⟩ := List.mem_iff_getElem.mp member
    simp
  simp only [Measure.well_shaped, rows, complete.distances, sweeps, beq_self_eq_true, Bool.and_self, Bool.true_and,
    List.all_eq_true, beq_iff_eq]
  exact same

end Measured

/-! ### The sweep of an accepted grid -/

/-- The words that the generator goes through in one turn. -/
def words (state : UInt64) : List UInt64 :=
  [state, xor_shift_right 12 state, xor_shift_left 25 (xor_shift_right 12 state), advance state]

private theorem words_ne_zero {state word : UInt64} (nonzero : state ≠ 0) (member : word ∈ words state) : word ≠ 0 := by
  have first := xor_shift_right_ne_zero nonzero (show 0 < (12 : UInt64).toNat % 64 by decide)
  simp only [words, List.mem_cons, List.not_mem_nil, or_false] at member
  rcases member with rfl | rfl | rfl | rfl
  · exact nonzero
  · exact first
  · exact xor_shift_left_ne_zero first
  · exact advance_ne_zero nonzero

/-- How a grid is shuffled for a vector: no turn meets a zero word or leaves the grid. -/
structure Shuffled (vector : List UInt32) (grid : List Int) : Prop where
  permuted : (sweep_order vector grid).Perm grid
  nonzero : ∀ turns, ∀ word ∈ words (shuffled vector grid turns).state, word ≠ 0
  in_range : ∀ turns index, (indices grid.length)[turns]? = some index →
    index < (shuffled vector grid turns).order.length ∧
      partner (shuffled vector grid turns) index < (shuffled vector grid turns).order.length

theorem shuffles (vector : List UInt32) (grid : List Int) : Shuffled vector grid where
  permuted := sweep_order_perm vector grid
  nonzero := fun turns _ member => words_ne_zero (shuffled_sound vector grid turns).nonzero member
  in_range := fun turns _ here =>
    (shuffled_sound vector grid turns).in_range (mem_indices (List.mem_of_getElem? here))

/-- Every grid value is measured once and recorded in order, and no returned measurement with `k` rows fails its sample. -/
theorem sweeps_cover_grid (debug : String → String) (password_env_exists : String → Bool) (raw : RawConfig) (config : Config)
    (accepted : from_raw debug password_env_exists raw = .ok config) :
    ∀ cohort projected, for_cohort config cohort = some projected → ∀ vector, Shuffled vector projected.ef_grid ∧
      ∀ (S C : Type) (answer : S → C → (operation : Operation) → Answer operation × S) (state state' : S)
        (debug_duration : Duration → String) (client_timeout statement_timeout : Duration) (measured : SampleMeasurement),
        Runs answer (run_sample_transaction debug_duration client_timeout statement_timeout vector projected) state
          (.returned measured) state' →
        measured.sweeps.map (·.ef) = projected.ef_grid ∧
          (measured.gt_keys.length = projected.k → Measure.well_shaped projected measured = true ∧
            ∀ sample receive_time_us measuring measuring',
              take_measurement projected sample receive_time_us measured measuring = .ok measuring' →
              measuring'.failed_count = measuring.failed_count) := by
  intro cohort projected found vector
  have valid := (Startup.projection_valid (from_raw_ok accepted) found).grid_valid
  refine ⟨shuffles vector projected.ef_grid, ?_⟩
  intro S C answer state state' debug_duration client_timeout statement_timeout measured run
  have ascending : projected.ef_grid.IsChain (· < ·) := (of_decide_eq_true valid).2.1
  have complete := ((run_sample_transaction_returns ascending).runs (fun _ _ _ => trivial) (fun _ => True)
    (fun _ _ _ _ _ => trivial) run trivial).2 measured rfl
  refine ⟨complete.grid, fun rows => ⟨complete.well_shaped rows, ?_⟩⟩
  intro sample receive_time_us measuring measuring' taken
  rw [take_measurement, if_neg (by rw [complete.well_shaped rows]; decide)] at taken
  obtain ⟨_, _, built⟩ := Results.bind_ok.mp taken
  exact Except.ok.inj built ▸ rfl

/-! ### A measurement -/

/-- Three values of the grid. -/
def gridRaw : RawConfig := { twinRaw with calibration := { twinRaw.calibration with ef_search := [1, 2, 4] } }

/-- Every operation succeeds; a query has one row. -/
def rowAnswer : Unit → Unit → (operation : Operation) → Answer operation × Unit
  | _, _, .begin_transaction => (.ok (), ())
  | _, _, .batch_execute _ => (.ok (), ())
  | _, _, .query _ _ => (.ok ([⟨.INT8, .ok 1, .ok 0.0⟩], Duration.ZERO), ())
  | _, _, .commit => (.ok (), ())
  | _, _, .rollback => (.ok (), ())

/-- The vector is (1, 0). -/
def gridTransaction (projected : AggregationConfig) : Outcome SampleMeasureError SampleMeasurement × Unit :=
  (run_sample_transaction (fun _ => "") localRaw.budget.client_timeout localRaw.budget.statement_timeout [0x3f800000, 0]
    projected).exec rowAnswer () (List.replicate 13 ())

def gridMeasurement : SampleMeasurement := ⟨[1], [0.0], 0.0, [⟨1, [1], 1.0, 0.0⟩, ⟨2, [1], 1.0, 0.0⟩, ⟨4, [1], 1.0, 0.0⟩]⟩

theorem gridTransaction_commits : ∃ config projected, from_raw id (fun _ => true) gridRaw = .ok config ∧
    for_cohort config ⟨"prod", Pipeline.prod_validates⟩ = some projected ∧ projected.k = 1 ∧
    sweep_order [0x3f800000, 0] projected.ef_grid = [4, 2, 1] ∧
    (gridTransaction projected).1 = .returned gridMeasurement := by
  refine ⟨_, _, rfl, rfl, rfl, by decide, ?_⟩
  unfold gridTransaction run_sample_transaction measure_in_transaction
  simp only [SortedMaps.mergeSort_eq_insertionSort by_ef_trans by_ef_total]
  decide +kernel

theorem local_sweeps_cover_grid : ∃ config projected, from_raw id (fun _ => true) gridRaw = .ok config ∧
    for_cohort config ⟨"prod", Pipeline.prod_validates⟩ = some projected ∧ Shuffled [0x3f800000, 0] projected.ef_grid ∧
    sweep_order [0x3f800000, 0] projected.ef_grid = [4, 2, 1] ∧ gridMeasurement.sweeps.map (·.ef) = projected.ef_grid ∧
    Measure.well_shaped projected gridMeasurement = true := by
  obtain ⟨config, projected, accepted, found, one, swept, committed⟩ := gridTransaction_commits
  have covers := sweeps_cover_grid id (fun _ => true) gridRaw config accepted _ projected found
  obtain ⟨shuffled, measures⟩ := covers [0x3f800000, 0]
  obtain ⟨grid, shaped⟩ := measures Unit Unit rowAnswer () () (fun _ => "") _ _ gridMeasurement
    ⟨List.replicate 13 (), Prod.ext committed rfl⟩
  exact ⟨config, projected, accepted, found, shuffled, swept, grid, (shaped one.symm).1⟩

end VectorSeam.Database
