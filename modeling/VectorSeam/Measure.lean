import VectorSeam.Segments
import VectorSeam.Intermediate
import VectorSeam.Effects
import VectorSeam.Estimators

/-!
Segment preparation and per-part measurement. `prepare_segment` checks a segment
against what its listing promised and deduplicates its records by exact vector
bytes; `measure_prepared_part` asks the measurer for one sample after the other.
-/

namespace VectorSeam.Measure
open VectorSeam.Model VectorSeam.LittleEndian VectorSeam.Frame VectorSeam.Segments VectorSeam.Intermediate
open VectorSeam.Effects VectorSeam.Programs VectorSeam.Estimators

def F32_DTYPE : Nat := 1
def F32_BYTES : Nat := 4

inductive SampleFrameError where
  | CohortMismatch
  | UnsupportedDtype (dtype : Nat)
  | DimensionMismatch
  | ReceiveTimeOutOfRange
deriving DecidableEq

structure PreparedSample where
  record_index : Int
  dup_count : Int
  receive_time_us : Except SampleFrameError Int
  vector_hash : UInt64
  vector : Except SampleFrameError (List UInt32)

/-- One segment after exact-byte deduplication. -/
structure PreparedPart where
  cohort : String
  window_start : Nat
  window_seconds : Nat
  received_frame_count : Nat
  record_count : Nat
  samples : List PreparedSample

inductive PreparePartError where
  | Segment (error : SegmentError)
  | Frame (error : FrameError)
  | Cohort (expected observed : String)
  | WindowStart (expected observed : Nat)
  | WindowSeconds (expected observed : Nat)
  | RecordCount (declared actual : Nat)
  | ReceivedFrameCount (received record_count : Nat)
  | RecordIndex (record_index : Nat)
  | DuplicateCount
  | ResultCount (count : Nat)
deriving DecidableEq

/-! ### Preparing a segment -/

/-- The bit patterns of consecutive 32-bit values; a shorter rest is dropped. -/
def f32_bits : Bytes → List UInt32
  | a :: b :: c :: d :: rest => UInt32.ofNat (from_le_bytes [a, b, c, d]) :: f32_bits rest
  | _ => []

def semantic_error (expected_cohort : String) (header : FrameHeader) (vector_bytes : Bytes) : Option SampleFrameError :=
  if header.name ≠ expected_cohort then some .CohortMismatch
  else if header.dtype ≠ F32_DTYPE then some (.UnsupportedDtype header.dtype)
  else if header.dimension = 0 ∨ header.dimension * F32_BYTES ≠ vector_bytes.length then some .DimensionMismatch
  else none

def receive_time_us (receive_time : Nat) : Except SampleFrameError Int :=
  if receive_time < 2 ^ 63 then .ok receive_time else .error .ReceiveTimeOutOfRange

def prepared_sample (expected_cohort : String) (record_index receive_time : Nat) (header : FrameHeader)
    (vector_bytes : Bytes) : PreparedSample :=
  { record_index
    dup_count := 1
    receive_time_us := receive_time_us receive_time
    vector_hash := fnv1a64 vector_bytes
    vector :=
      match semantic_error expected_cohort header vector_bytes with
      | some error => .error error
      | none => .ok (f32_bits vector_bytes) }

/-- Samples in order of first occurrence, each with the vector bytes it is found by. -/
abbrev Entries := List (Bytes × PreparedSample)

/-- One more occurrence of vector bytes that are already there. -/
def count_duplicate (vector_bytes : Bytes) : Entries → Except PreparePartError Entries
  | [] => .ok []
  | entry :: rest =>
    if entry.1 = vector_bytes then
      if I32_MAX < entry.2.dup_count + 1 then .error .DuplicateCount
      else .ok ((entry.1, { entry.2 with dup_count := entry.2.dup_count + 1 }) :: rest)
    else do
      let rest ← count_duplicate vector_bytes rest
      return entry :: rest

def prepare_record (expected_cohort : String) (record_index : Nat) (record : SegmentRecord) (entries : Entries) :
    Except PreparePartError Entries :=
  match parse_frame_header record.frame with
  | .error error => .error (.Frame error)
  | .ok header =>
    let vector_bytes := record.frame.drop (FIXED_FRAME_HEADER_LEN + header.name_len)
    if ∃ entry ∈ entries, entry.1 = vector_bytes then count_duplicate vector_bytes entries
    else if I32_MAX < record_index then .error (.RecordIndex record_index)
    else .ok (entries ++ [(vector_bytes,
      prepared_sample expected_cohort record_index record.receive_time header vector_bytes)])

def prepare_records (expected_cohort : String) : Nat → List SegmentRecord → Entries → Except PreparePartError Entries
  | _, [], entries => .ok entries
  | record_index, record :: rest, entries => do
    let entries ← prepare_record expected_cohort record_index record entries
    prepare_records expected_cohort (record_index + 1) rest entries

/-- The checks of a segment header against the listing and against its records. -/
def check_header (header : SegmentHeader) (records : Nat) (expected_cohort : String)
    (expected_window_start expected_window_seconds : Nat) : Except PreparePartError Unit :=
  if header.cohort.name ≠ expected_cohort then .error (.Cohort expected_cohort header.cohort.name)
  else if header.window_start ≠ expected_window_start then
    .error (.WindowStart expected_window_start header.window_start)
  else if header.window_seconds ≠ expected_window_seconds then
    .error (.WindowSeconds expected_window_seconds header.window_seconds)
  else if records ≠ header.record_count then .error (.RecordCount header.record_count records)
  else if header.received_frame_count < header.record_count then
    .error (.ReceivedFrameCount header.received_frame_count header.record_count)
  else .ok ()

def prepare_segment (bytes : Bytes) (expected_cohort : String) (expected_window_start expected_window_seconds : Nat) :
    Except PreparePartError PreparedPart :=
  match read_segment bytes with
  | .error error => .error (.Segment error)
  | .ok segment => do
    check_header segment.header segment.records.length expected_cohort expected_window_start expected_window_seconds
    let entries ← prepare_records expected_cohort 0 segment.records []
    return {
      cohort := segment.header.cohort.name
      window_start := segment.header.window_start
      window_seconds := segment.header.window_seconds
      received_frame_count := segment.header.received_frame_count
      record_count := segment.header.record_count
      samples := entries.map Prod.snd }

/-- A prepared part is what its listing promised. -/
theorem prepare_segment_ok {bytes : Bytes} {expected_cohort : String} {expected_window_start expected_window_seconds : Nat}
    {prepared : PreparedPart}
    (found : prepare_segment bytes expected_cohort expected_window_start expected_window_seconds = .ok prepared) :
    prepared.cohort = expected_cohort ∧ prepared.window_start = expected_window_start ∧
      prepared.window_seconds = expected_window_seconds := by
  unfold prepare_segment at found
  cases parsed : read_segment bytes with
  | error error => rw [parsed] at found; cases found
  | ok segment =>
    rw [parsed] at found
    obtain ⟨checked, found⟩ := Results.check_ok.mp found
    obtain ⟨entries, _, built⟩ := Results.bind_ok.mp found
    obtain rfl := Except.ok.inj built
    unfold check_header at checked
    by_cases cohort : segment.header.cohort.name ≠ expected_cohort
    · rw [if_pos cohort] at checked; cases checked
    rw [if_neg cohort] at checked
    by_cases start : segment.header.window_start ≠ expected_window_start
    · rw [if_pos start] at checked; cases checked
    rw [if_neg start] at checked
    by_cases seconds : segment.header.window_seconds ≠ expected_window_seconds
    · rw [if_pos seconds] at checked; cases checked
    exact ⟨not_not.mp cohort, not_not.mp start, not_not.mp seconds⟩

theorem prepare_segment_header {bytes : Bytes} {expected_cohort : String} {expected_window_start expected_window_seconds : Nat}
    {prepared : PreparedPart} {segment : Segment}
    (found : prepare_segment bytes expected_cohort expected_window_start expected_window_seconds = .ok prepared)
    (read : read_segment bytes = .ok segment) :
    segment.header.cohort.name = prepared.cohort ∧ segment.header.window_start = prepared.window_start ∧
      segment.header.window_seconds = prepared.window_seconds := by
  unfold prepare_segment at found
  rw [read] at found
  obtain ⟨_, found⟩ := Results.check_ok.mp found
  obtain ⟨entries, _, built⟩ := Results.bind_ok.mp found
  obtain rfl := Except.ok.inj built
  exact ⟨rfl, rfl, rfl⟩

/-! ### Measuring a prepared part -/

/-- A fully measured part ready to be stored. -/
structure MeasuredPart where
  metadata : IntermediateMetadata
  truth_rows : List TruthMeasurement
  sweep_rows : List SweepMeasurementRow

inductive MeasurePartOutcome where
  | Complete (measured : MeasuredPart)
  | TableSmallerThanK (abort : PhaseAAbort)
  | ConnectionUnavailable (error : String)
  | Cancelled

/-- The counters and rows collected so far. -/
structure Measuring where
  failed_count : Nat
  truth_rows : List TruthMeasurement
  sweep_rows : List SweepMeasurementRow

/-- Whether a measurement has the shape the config asks for. -/
def well_shaped (config : AggregationConfig) (measured : SampleMeasurement) : Bool :=
  measured.gt_keys.length == config.k && measured.gt_distances.length == measured.gt_keys.length &&
    measured.sweeps.length == config.ef_grid.length &&
    (measured.sweeps.zip config.ef_grid).all fun pair => pair.1.ef == pair.2

def truth_row (sample : PreparedSample) (receive_time_us : Int) (measured : SampleMeasurement) : TruthMeasurement :=
  { record_index := sample.record_index
    vector_hash := sample.vector_hash
    dup_count := sample.dup_count
    receive_time_us
    latency_ms := measured.ground_truth_latency_ms
    gt_keys := measured.gt_keys
    gt_distances := measured.gt_distances }

def sweep_row (sample : PreparedSample) (sweep : SampleSweepResult) : Except PreparePartError SweepMeasurementRow :=
  if I32_MAX < sweep.returned_keys.length then .error (.ResultCount sweep.returned_keys.length)
  else .ok {
    record_index := sample.record_index
    ef := sweep.ef
    result_count := sweep.returned_keys.length
    returned_keys := sweep.returned_keys
    «recall» := sweep.recall
    latency_ms := sweep.latency_ms }

/-- Takes one answer of the measurer in; only a database failure or a misshapen answer counts as failed. -/
def take_measurement (config : AggregationConfig) (sample : PreparedSample) (receive_time_us : Int)
    (measured : SampleMeasurement) (measuring : Measuring) : Except PreparePartError Measuring :=
  if ¬well_shaped config measured then .ok { measuring with failed_count := measuring.failed_count + 1 }
  else do
    let rows ← measured.sweeps.mapM (sweep_row sample)
    return { measuring with
      truth_rows := measuring.truth_rows ++ [truth_row sample receive_time_us measured]
      sweep_rows := measuring.sweep_rows ++ rows }

def measured_metadata (part : PreparedPart) (part_ulid : String) (config : AggregationConfig)
    (failed_count measured_count computed_at_us : Nat) : IntermediateMetadata :=
  { format_version := 1
    cohort := part.cohort
    part_ulid
    window_start := part.window_start
    window_seconds := part.window_seconds
    received_frame_count := part.received_frame_count
    record_count := part.record_count
    index := config.index
    table := config.table
    column := config.column
    key := config.key
    k := config.k
    ef_grid := config.ef_grid
    failed_count
    measured_count
    computed_at_us }

def measured_part (part : PreparedPart) (part_ulid : String) (config : AggregationConfig) (computed_at_us : Nat)
    (measuring : Measuring) : MeasuredPart :=
  { metadata := measured_metadata part part_ulid config measuring.failed_count measuring.truth_rows.length computed_at_us
    truth_rows := measuring.truth_rows
    sweep_rows := measuring.sweep_rows }

section Measuring
variable {B : Type} (part : PreparedPart) (part_ulid : String) (config : AggregationConfig) (computed_at_us : Nat)

def measure_samples : List PreparedSample → Measuring → Program B PreparePartError MeasurePartOutcome
  | [], measuring => pure (.Complete (measured_part part part_ulid config computed_at_us measuring))
  | sample :: rest, measuring => do
    let cancelled ← is_cancelled
    if cancelled then pure .Cancelled
    else
      match sample.receive_time_us, sample.vector with
      | .ok receive_time_us, .ok vector => do
        let reply ← measure_sample vector config
        match reply with
        | .ok measured => do
          let measuring ← Prog.lift (take_measurement config sample receive_time_us measured measuring)
          measure_samples rest measuring
        | .error (.Database _) => measure_samples rest { measuring with failed_count := measuring.failed_count + 1 }
        | .error (.Connection error) => pure (.ConnectionUnavailable error)
        | .error .CancelledBeforeTransaction => pure .Cancelled
        | .error (.TableSmallerThanK returned k) =>
          pure (.TableSmallerThanK (.TableSmallerThanK
            ("table returned " ++ toString returned ++ " rows, fewer than required k=" ++ toString k)))
      | _, _ => measure_samples rest { measuring with failed_count := measuring.failed_count + 1 }

def measure_prepared_part : Program B PreparePartError MeasurePartOutcome :=
  measure_samples part part_ulid config computed_at_us part.samples ⟨0, [], []⟩

end Measuring

end VectorSeam.Measure
