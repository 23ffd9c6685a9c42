import VectorSeam.Measure
import VectorSeam.Aggregate

/-!
One measure/aggregate round of a cohort over the object store, in the source's order:
list, load the source headers, reuse stored pairs, measure the pending parts, read
the previous round, aggregate, and put the record under its two keys.
-/

namespace VectorSeam.Pipeline
open VectorSeam.Model VectorSeam.Text VectorSeam.ObjectStore VectorSeam.Window VectorSeam.Accounting
open VectorSeam.Aggregate VectorSeam.Intermediate VectorSeam.Measure VectorSeam.Effects VectorSeam.Programs
open VectorSeam.Ulids VectorSeam.LittleEndian VectorSeam.Frame VectorSeam.Segments VectorSeam.Cohort

inductive CohortRoundOutcome where
  | Published (output : RoundOutput)
  | Cancelled

inductive PipelineError where
  | Window (error : WindowError)
  | Aggregate (error : AggregateError)
  | Storage (operation path source : String)
  | DuplicateSourcePart (part_ulid : String)
  | SourceSegment (path : String) (source : PreparePartError)
  | EncodeIntermediate (part_ulid : String) (source : IntermediateError)
  | ReadEncodedIntermediate (part_ulid : String) (source : IntermediateError)
  | ConnectionUnavailable (part_ulid error : String)
  | IncompatibleCounterOverflow

structure SourcePart where
  path : Path
  listed : ListedPart

/-! ### Keys -/

/-- Where the objects of a window lie in one of the trees. -/
def window_path (tree cohort timestamp : String) : Path := Path.from_text (tree ++ "/" ++ cohort ++ "/window=" ++ timestamp)
abbrev source_window (cohort timestamp : String) : Path := window_path "cohorts" cohort timestamp
abbrev measurement_window (cohort timestamp : String) : Path := window_path "measurements" cohort timestamp

theorem cohorts_segment : PlainSegment "cohorts" := ⟨by decide, by decide, by decide, by decide⟩
theorem measurements_segment : PlainSegment "measurements" := ⟨by decide, by decide, by decide, by decide⟩
theorem calibrations_segment : PlainSegment "calibrations" := ⟨by decide, by decide, by decide, by decide⟩

def source_part_ulid (path : Path) : Option String := do
  let filename ← path.filename
  let value ← (strip_start "part-" filename).bind (strip_end ".vseam")
  (Ulid.parse value).map Ulid.to_string

def intermediate_paths (cohort : String) (window_start : Nat) (part_ulid : String) : Except WindowError (Path × Path) := do
  let timestamp ← format_window_timestamp window_start
  let lead := "measurements/" ++ cohort ++ "/window=" ++ timestamp ++ "/part-" ++ part_ulid
  return (Path.from_text (lead ++ ".truth.parquet"), Path.from_text (lead ++ ".sweep.parquet"))

def round_paths (cohort : String) (round_end : Nat) : Except WindowError (Path × Path) := do
  let timestamp ← format_window_timestamp round_end
  return (Path.from_text ("calibrations/" ++ cohort ++ "/round-" ++ timestamp ++ ".json"),
    Path.from_text ("calibrations/" ++ cohort ++ "/latest.json"))

/-! ### Storage requests and renamed errors -/

section Round
variable {B : Type}

/-- A pure step whose error becomes the round's. -/
def wrap {ε α : Type} (rename : ε → PipelineError) (result : Except ε α) : Program B PipelineError α :=
  (Prog.lift result).mapError rename

def list_paths (lead : Path) : Program B PipelineError (List Path) := do
  let reply ← list lead
  wrap (.Storage "list" lead.raw) reply

def get_bytes (path : Path) : Program B PipelineError B := do
  let reply ← get path
  match reply with
  | .found body => pure body
  | .body_failed message => Prog.fail (.Storage "GET body" path.raw message)
  | .not_found => Prog.fail (.Storage "GET" path.raw "not found")
  | .failed message => Prog.fail (.Storage "GET" path.raw message)

def put_bytes (path : Path) (bytes : B) : Program B PipelineError Unit := do
  let reply ← put path bytes
  wrap (.Storage "PUT" path.raw) reply

/-! ### Listing -/

def list_source_windows (cohort : String) : List Nat → Program B PipelineError (List (Nat × Path))
  | [] => pure []
  | window_start :: rest => do
    let timestamp ← wrap .Window (format_window_timestamp window_start)
    let listed ← list_paths (source_window cohort timestamp)
    let objects ← list_source_windows cohort rest
    pure (((listed.filter fun path => path.extension = some "vseam").map fun path => (window_start, path)) ++ objects)

def list_source_objects (cohort : String) (window_starts : List Nat) : Program B PipelineError (List (Nat × Path)) := do
  let objects ← list_source_windows cohort window_starts
  pure (objects.mergeSort fun left right => decide (left.2.raw ≤ right.2.raw))

def list_measurement_objects (cohort : String) : List Nat → Program B PipelineError (List Path)
  | [] => pure []
  | window_start :: rest => do
    let timestamp ← wrap .Window (format_window_timestamp window_start)
    let listed ← list_paths (measurement_window cohort timestamp)
    let objects ← list_measurement_objects cohort rest
    pure (listed ++ objects)

/-! ### Source headers -/

variable (codec : Codec B)

def source_part (path : Path) (part_ulid : String) (prepared : PreparedPart) : SourcePart :=
  { path
    listed := {
      part_ulid
      window_start := prepared.window_start
      window_seconds := prepared.window_seconds
      received_frame_count := prepared.received_frame_count
      record_count := prepared.record_count } }

/-- The loop over listed objects; names without a canonical ULID are skipped. -/
def load_headers (expected_cohort : String) (expected_window_seconds : Nat) : List (Nat × Path) →
    BTreeMap String SourcePart → Program B PipelineError (BTreeMap String SourcePart)
  | [], by_ulid => pure by_ulid
  | (window_start, path) :: rest, by_ulid =>
    match source_part_ulid path with
    | none => load_headers expected_cohort expected_window_seconds rest by_ulid
    | some part_ulid => do
      let bytes ← get_bytes path
      let prepared ← wrap (.SourceSegment path.raw)
        (prepare_segment (codec.content bytes) expected_cohort window_start expected_window_seconds)
      if part_ulid ∈ by_ulid then Prog.fail (.DuplicateSourcePart part_ulid)
      else
        load_headers expected_cohort expected_window_seconds rest
          (by_ulid.insert part_ulid (source_part path part_ulid prepared))

def load_source_headers (expected_cohort : String) (expected_window_seconds : Nat) (objects : List (Nat × Path)) :
    Program B PipelineError (List SourcePart) := do
  let by_ulid ← load_headers codec expected_cohort expected_window_seconds objects ∅
  pure (by_ulid.toList.map Prod.snd)

/-! ### Stored pairs -/

def matches_source_metadata (intermediate : IntermediatePart) (source : SourcePart) (cohort : String) : Bool :=
  let metadata := intermediate.metadata
  metadata.cohort == cohort && metadata.part_ulid == source.listed.part_ulid &&
    metadata.window_start == source.listed.window_start && metadata.window_seconds == source.listed.window_seconds &&
    metadata.received_frame_count == source.listed.received_frame_count &&
    metadata.record_count == source.listed.record_count

/-- The pairs to use, the parts still to measure and the count of outdated pairs. -/
structure Classified where
  compatible : BTreeMap String IntermediatePart
  pending : List SourcePart
  phase_a_incompatible_parts : Nat

/-- Files a source by its stored pair: usable, outdated, or malformed and foreign ones, which are just remeasured. -/
def classify_pair (config : AggregationConfig) (source : SourcePart) (read : Except IntermediateError IntermediatePart)
    (classified : Classified) : Except PipelineError Classified :=
  match read with
  | .ok intermediate =>
    if matches_source_metadata intermediate source config.cohort && is_compatible config intermediate then
      .ok { classified with compatible := classified.compatible.insert source.listed.part_ulid intermediate }
    else if matches_source_metadata intermediate source config.cohort then
      match checked_add classified.phase_a_incompatible_parts 1 with
      | none => .error .IncompatibleCounterOverflow
      | some phase_a_incompatible_parts =>
        .ok { classified with pending := classified.pending ++ [source], phase_a_incompatible_parts }
    else .ok { classified with pending := classified.pending ++ [source] }
  | .error _ => .ok { classified with pending := classified.pending ++ [source] }

def classify (config : AggregationConfig) (measurement_objects : List Path) : List SourcePart → Classified →
    Program B PipelineError Classified
  | [], classified => pure classified
  | source :: rest, classified => do
    let (truth_path, sweep_path) ← wrap .Window
      (intermediate_paths config.cohort source.listed.window_start source.listed.part_ulid)
    if truth_path ∈ measurement_objects ∧ sweep_path ∈ measurement_objects then
      let truth_bytes ← get_bytes truth_path
      let sweep_bytes ← get_bytes sweep_path
      let classified ← wrap id
        (classify_pair config source (read_intermediate_pair_bytes codec truth_bytes sweep_bytes) classified)
      classify config measurement_objects rest classified
    else classify config measurement_objects rest { classified with pending := classified.pending ++ [source] }

/-! ### Measuring the pending parts -/

inductive PendingOutcome where
  | Measured (compatible : BTreeMap String IntermediatePart) (phase_a_abort : Option PhaseAAbort)
  | Cancelled

/-- Puts a measured pair, truth first, and reads it back from the bytes that were put. -/
def store_measured (cohort : String) (source : SourcePart) (measured : MeasuredPart) :
    Program B PipelineError IntermediatePart := do
  let (truth_bytes, sweep_bytes) ← wrap (.EncodeIntermediate source.listed.part_ulid)
    (encode_intermediate_pair codec measured.metadata measured.truth_rows measured.sweep_rows)
  let (truth_path, sweep_path) ← wrap .Window
    (intermediate_paths cohort source.listed.window_start source.listed.part_ulid)
  put_bytes truth_path truth_bytes
  put_bytes sweep_path sweep_bytes
  wrap (.ReadEncodedIntermediate source.listed.part_ulid) (read_intermediate_pair_bytes codec truth_bytes sweep_bytes)

def measure_source (config : AggregationConfig) (computed_at_us : Nat) (source : SourcePart) :
    Program B PipelineError MeasurePartOutcome := do
  let bytes ← get_bytes source.path
  let prepared ← wrap (.SourceSegment source.path.raw)
    (prepare_segment (codec.content bytes) config.cohort source.listed.window_start config.storage_window_seconds)
  (measure_prepared_part prepared source.listed.part_ulid config computed_at_us).mapError
    (.SourceSegment source.path.raw)

def measure_pending (config : AggregationConfig) (computed_at_us : Nat) : List SourcePart →
    BTreeMap String IntermediatePart → Program B PipelineError PendingOutcome
  | [], compatible => pure (.Measured compatible none)
  | source :: rest, compatible => do
    let cancelled ← is_cancelled
    if cancelled then pure .Cancelled
    else do
      let outcome ← measure_source codec config computed_at_us source
      match outcome with
      | .Complete measured => do
        let intermediate ← store_measured codec config.cohort source measured
        measure_pending config computed_at_us rest (compatible.insert source.listed.part_ulid intermediate)
      | .TableSmallerThanK abort => pure (.Measured compatible (some abort))
      | .ConnectionUnavailable error => Prog.fail (.ConnectionUnavailable source.listed.part_ulid error)
      | .Cancelled => pure .Cancelled

/-! ### Publishing -/

/-- The previous round by the answer to its GET; a body that fails or does not parse counts as absent. -/
def previous_of (path : Path) : GetReply B → Except PipelineError (Option RoundOutput)
  | .not_found => .ok none
  | .failed message => .error (.Storage "GET" path.raw message)
  | .body_failed _ => .ok none
  | .found body =>
    match codec.from_slice body with
    | .ok round => .ok (some round)
    | .error _ => .ok none

def load_previous_round (path : Path) : Program B PipelineError (Option RoundOutput) := do
  let reply ← get path
  wrap id (previous_of codec path reply)

def round_json_bytes (output : RoundOutput) : Except AggregateError B :=
  match codec.to_vec output with
  | .ok body => .ok body
  | .error message => .error (.Json message)

variable (beta_reg : Float → Float → Float → Float)

/-- The two final uploads, the record of this round before the latest one. -/
def put_round (paths : Path × Path) (round_bytes : B) (output : RoundOutput) :
    Program B PipelineError CohortRoundOutcome := do
  put_bytes paths.1 round_bytes
  put_bytes paths.2 round_bytes
  pure (.Published output)

def publish (paths : Path × Path) (input : AggregationInput) : Program B PipelineError CohortRoundOutcome := do
  let output ← wrap .Aggregate (aggregate beta_reg input)
  let round_bytes ← wrap .Aggregate (round_json_bytes codec output)
  put_round paths round_bytes output

/-- The aggregation input of a round, but for the previous round. -/
def round_input (config : AggregationConfig) (round_end : Nat) (computed_at : String) (sources : List SourcePart)
    (phase_a_incompatible_parts : Nat) (compatible : BTreeMap String IntermediatePart) (phase_a_abort : Option PhaseAAbort)
    (previous_round : Option RoundOutput) : AggregationInput :=
  { config, round_end, computed_at, phase_a_abort, phase_a_incompatible_parts, previous_round
    listed_parts := sources.map SourcePart.listed
    intermediates := compatible.toList.map Prod.snd }

/-- What follows the measuring: the last poll, the previous round and the record. -/
def finish_round (config : AggregationConfig) (round_end : Nat) (computed_at : String) (sources : List SourcePart)
    (phase_a_incompatible_parts : Nat) (compatible : BTreeMap String IntermediatePart)
    (phase_a_abort : Option PhaseAAbort) : Program B PipelineError CohortRoundOutcome := do
  let cancelled ← is_cancelled
  if cancelled then pure .Cancelled
  else do
    let paths ← wrap .Window (round_paths config.cohort round_end)
    let previous_round ← load_previous_round codec paths.2
    publish codec beta_reg paths
      (round_input config round_end computed_at sources phase_a_incompatible_parts compatible phase_a_abort previous_round)

/-- The sources in scope and their classification by stored pairs. -/
def survey_store (config : AggregationConfig) (round_end : Nat) : Program B PipelineError (List SourcePart × Classified) := do
  let window_starts ← wrap .Aggregate
    (in_scope_window_starts round_end config.window_duration_seconds config.storage_window_seconds)
  let source_objects ← list_source_objects config.cohort window_starts
  let measurement_objects ← list_measurement_objects config.cohort window_starts
  let sources ← load_source_headers codec config.cohort config.storage_window_seconds source_objects
  let classified ← classify codec config measurement_objects sources ⟨∅, [], 0⟩
  pure (sources, classified)

def run_cohort_round (config : AggregationConfig) (round_end : Nat) (computed_at : String) (computed_at_us : Nat) :
    Program B PipelineError CohortRoundOutcome := do
  let (sources, classified) ← survey_store codec config round_end
  let outcome ← measure_pending codec config computed_at_us classified.pending classified.compatible
  match outcome with
  | .Cancelled => pure .Cancelled
  | .Measured compatible phase_a_abort =>
    finish_round codec beta_reg config round_end computed_at sources classified.phase_a_incompatible_parts compatible
      phase_a_abort

end Round

/-! ### A small store -/

def published_record : Outcome PipelineError CohortRoundOutcome → Option RoundOutput
  | .returned (.Published output) => some output
  | _ => none

theorem published_record_some {outcome : Outcome PipelineError CohortRoundOutcome} {output : RoundOutput}
    (published : published_record outcome = some output) : outcome = .returned (.Published output) := by
  unfold published_record at published
  split at published
  · cases published; rfl
  · cases published

/-- A frame of one 32-bit value. -/
def smallFrame (name : String) (vector : Bytes) : Bytes :=
  to_le_bytes 4 (24 + (utf8 name).length + vector.length) ++ FRAME_MAGIC ++ to_le_bytes 4 1 ++ to_le_bytes 4 1 ++
    to_le_bytes 4 (utf8 name).length ++ to_le_bytes 4 1 ++ to_le_bytes 4 vector.length ++ utf8 name ++ vector
/-- Two records, of which the split trains on the second. -/
def smallRecords (name : String) : List SegmentRecord :=
  [⟨61000000, smallFrame name [0, 0, 0, 0]⟩, ⟨62000000, smallFrame name [4, 0, 0, 0]⟩]
def segmentOf (cohort : CohortName) : Bytes :=
  header_bytes ⟨60, 60, 61000000, 62000000, 2, 2, cohort⟩ ++ (smallRecords cohort.name).flatMap record_bytes
theorem prod_validates : validate_cohort_name "prod" = .ok () := by decide
def smallSegment : Bytes := segmentOf ⟨"prod", prod_validates⟩
def smallSource : Path := Path.from_text "cohorts/prod/window=19700101T0001Z/part-01J00000000000000000000000.vseam"
def smallLatest : Path := Path.from_text "calibrations/prod/latest.json"
def smallMeasurement : SampleMeasurement := ⟨[1], [0.0], 1.0, [⟨1, [1], 1.0, 1.0⟩, ⟨2, [1], 1.0, 2.0⟩]⟩
/-- Every request succeeds. -/
def smallChoice : Choice := ⟨.ok [], .intact, .done, .ok smallMeasurement, false⟩
def smallStore : World Body := ⟨[(smallSource, .segment smallSegment)], []⟩
def smallRound (round_end computed_at_us : Nat) (world : World Body) (schedule : List Choice) :
    Outcome PipelineError CohortRoundOutcome × World Body :=
  (run_cohort_round smallCodec smallBeta smallConfig round_end "1970-01-01T00:02:05Z" computed_at_us).exec answer world
    schedule
/-- The first round over the small store. -/
def smallFirst : Outcome PipelineError CohortRoundOutcome × World Body :=
  smallRound 120 1 smallStore (List.replicate 15 smallChoice)

theorem smallRound_runs {round_end computed_at_us : Nat} {world : World Body} {schedule : List Choice} {output : RoundOutput}
    (published : published_record (smallRound round_end computed_at_us world schedule).1 = some output) :
    Runs answer (run_cohort_round smallCodec smallBeta smallConfig round_end "1970-01-01T00:02:05Z" computed_at_us) world
      (.returned (.Published output)) (smallRound round_end computed_at_us world schedule).2 :=
  ⟨schedule, Prod.ext (published_record_some published) rfl⟩

/-- The record that the first round puts is the one aggregated from the small part. -/
theorem smallFirst_published : published_record smallFirst.1 = some smallOutput := by decide +kernel

end VectorSeam.Pipeline
