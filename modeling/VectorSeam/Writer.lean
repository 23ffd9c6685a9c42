import VectorSeam.Reader
import VectorSeam.Segments
import VectorSeam.Window
import VectorSeam.Tables

/-!
The collector's limits and the writer's buffers. `validate_config` decides which limits
the collector runs with; the buffers of a window are kept for each cohort, beside the
ledger of the frames that connections had to drop. `usize` has 64 bits.
-/

namespace VectorSeam.Writer
open VectorSeam.LittleEndian VectorSeam.Cohort VectorSeam.Frame VectorSeam.Model VectorSeam.Segments VectorSeam.Reader
open VectorSeam.Tables

def MAX_SEGMENT_OVERHEAD_BYTES : Nat := FIXED_PREFIX_LEN + BASE_HEADER_LEN + MAX_COHORT_NAME_BYTES

/-! ### Configuration -/

/-- The numbers of the command line, in the ranges of their types. -/
structure Config where
  window_seconds : Nat
  per_cohort_memory_bytes : Nat
  global_memory_bytes : Nat
  max_frame_size : Nat
  channel_capacity : Nat
  max_connections : Nat
  idle_timeout_seconds : Nat
  put_timeout_seconds : Nat
  window_seconds_lt : window_seconds < 2 ^ 32
  per_cohort_memory_bytes_lt : per_cohort_memory_bytes < 2 ^ 64
  global_memory_bytes_lt : global_memory_bytes < 2 ^ 64
  max_frame_size_lt : max_frame_size < 2 ^ 64

structure WriterConfig where
  window_seconds : Nat
  per_cohort_memory_bytes : Nat
  live_memory_bytes : Nat

def live_memory_bytes (config : Config) : Except String Nat :=
  match checked_add config.per_cohort_memory_bytes MAX_SEGMENT_OVERHEAD_BYTES with
  | none => .error "per-cohort memory cap is too large"
  | some flush_reserve =>
    if config.global_memory_bytes < flush_reserve then
      .error "global memory cap must exceed per-cohort cap plus serialization reserve"
    else .ok (config.global_memory_bytes - flush_reserve)

def validate_config (config : Config) : Except String Unit := do
  if config.window_seconds = 0 then throw "window seconds must be greater than zero"
  if config.per_cohort_memory_bytes = 0 then throw "per-cohort memory cap must be greater than zero"
  if config.global_memory_bytes = 0 then throw "global memory cap must be greater than zero"
  if config.max_frame_size < FIXED_FRAME_HEADER_LEN then throw "max frame size must be at least 28 bytes"
  match checked_add config.max_frame_size 8 with
  | none => throw "max frame size is too large"
  | some max_record_bytes =>
    if config.per_cohort_memory_bytes < max_record_bytes then throw "per-cohort memory cap must fit one max-size record"
    let live_memory_bytes ← live_memory_bytes config
    if live_memory_bytes < max_record_bytes then
      throw "global memory cap must fit one max-size record after serialization reserve"
    if config.channel_capacity = 0 then throw "channel capacity must be greater than zero"
    if config.max_connections = 0 then throw "max connections must be greater than zero"
    if config.idle_timeout_seconds = 0 then throw "idle timeout seconds must be greater than zero"
    if config.put_timeout_seconds = 0 then throw "put timeout seconds must be greater than zero"

/-- What the tasks of the collector are started with. -/
structure Limits where
  reader : ReaderConfig
  writer : WriterConfig
  channel_capacity : Nat
  max_connections : Nat

/-- The settings part of `run_with_store` and `run_with_listener`. -/
def run_with_store (config : Config) : Except String Limits := do
  validate_config config
  let live_memory_bytes ← live_memory_bytes config
  return {
    reader := { max_frame_size := config.max_frame_size, live_memory_bytes }
    writer := {
      window_seconds := config.window_seconds
      per_cohort_memory_bytes := config.per_cohort_memory_bytes
      live_memory_bytes }
    channel_capacity := config.channel_capacity
    max_connections := config.max_connections }

/-- What the limits of a validated configuration promise. -/
structure Validated (config : Config) (limits : Limits) : Prop where
  window_seconds : limits.writer.window_seconds = config.window_seconds
  window_positive : 0 < config.window_seconds
  per_cohort : limits.writer.per_cohort_memory_bytes = config.per_cohort_memory_bytes
  live : limits.writer.live_memory_bytes = limits.reader.live_memory_bytes
  reserve : limits.writer.live_memory_bytes + (config.per_cohort_memory_bytes + MAX_SEGMENT_OVERHEAD_BYTES) =
    config.global_memory_bytes
  max_frame_size : limits.reader.max_frame_size = config.max_frame_size
  fits_cohort : config.max_frame_size + 8 ≤ config.per_cohort_memory_bytes
  fits_live : config.max_frame_size + 8 ≤ limits.writer.live_memory_bytes
  channel_capacity : limits.channel_capacity = config.channel_capacity
  channel_positive : 0 < config.channel_capacity

theorem live_memory_bytes_ok {config : Config} {live : Nat} (found : live_memory_bytes config = .ok live) :
    live + (config.per_cohort_memory_bytes + MAX_SEGMENT_OVERHEAD_BYTES) = config.global_memory_bytes := by
  unfold live_memory_bytes checked_add at found
  by_cases fits : config.per_cohort_memory_bytes + MAX_SEGMENT_OVERHEAD_BYTES ≤ U64_MAX
  · simp only [if_pos fits] at found
    by_cases small : config.global_memory_bytes < config.per_cohort_memory_bytes + MAX_SEGMENT_OVERHEAD_BYTES
    · rw [if_pos small] at found
      cases found
    · rw [if_neg small] at found
      obtain rfl := Except.ok.inj found
      omega
  · simp only [if_neg fits] at found
    cases found

theorem validate_config_ok {config : Config} (valid : validate_config config = .ok ()) :
    0 < config.window_seconds ∧ config.max_frame_size + 8 ≤ config.per_cohort_memory_bytes ∧
      0 < config.channel_capacity ∧
      ∃ live, live_memory_bytes config = .ok live ∧ config.max_frame_size + 8 ≤ live := by
  unfold validate_config checked_add at valid
  obtain ⟨window, valid⟩ := Results.guard_ok.mp valid
  obtain ⟨-, valid⟩ := Results.guard_ok.mp valid
  obtain ⟨-, valid⟩ := Results.guard_ok.mp valid
  obtain ⟨-, valid⟩ := Results.guard_ok.mp valid
  by_cases small : config.max_frame_size + 8 ≤ U64_MAX
  · simp only [if_pos small] at valid
    obtain ⟨cohort, valid⟩ := Results.guard_ok.mp valid
    obtain ⟨live, found, valid⟩ := Results.bind_ok.mp valid
    obtain ⟨room, valid⟩ := Results.guard_ok.mp valid
    obtain ⟨channel, -⟩ := Results.guard_ok.mp valid
    exact ⟨by omega, by omega, by omega, live, found, by omega⟩
  · simp only [if_neg small] at valid
    cases valid

theorem run_with_store_ok {config : Config} {limits : Limits} (started : run_with_store config = .ok limits) :
    Validated config limits := by
  unfold run_with_store at started
  obtain ⟨_, valid, started⟩ := Results.bind_ok.mp started
  obtain ⟨live, found, started⟩ := Results.bind_ok.mp started
  obtain ⟨window, cohort, channel, live', found', room⟩ := validate_config_ok valid
  obtain rfl := Except.ok.inj (found.symm.trans found')
  obtain rfl := Except.ok.inj started
  exact {
    window_seconds := rfl
    window_positive := window
    per_cohort := rfl
    live := rfl
    reserve := live_memory_bytes_ok found
    max_frame_size := rfl
    fits_cohort := cohort
    fits_live := room
    channel_capacity := rfl
    channel_positive := channel }

/-! ### Buffers -/

structure BufferedRecord where
  receive_time : Nat
  frame : Bytes
  /-- The bytes of the record's memory guard. -/
  memory : Nat
deriving DecidableEq

structure CohortState where
  records : List BufferedRecord
  bytes : Nat
  received_frame_count : Nat
deriving DecidableEq

def CohortState.default : CohortState := { records := [], bytes := 0, received_frame_count := 0 }

structure FlushBatch where
  window_start : Nat
  header : SegmentHeader
  records : List BufferedRecord
  record_bytes : Nat
deriving DecidableEq

abbrev States := Table CohortName CohortState

def take_pending_cohort_drops (cohort : CohortName) (drops : Ledger) : Nat × Ledger :=
  ((drops.lookup cohort).getD 0, drops.erase cohort)

/-- The frames dropped for a cohort go into its state, made if there is none. -/
def count_drops (states : States) (cohort : CohortName) (drops : Nat) : States :=
  let state := (states.lookup cohort).getD .default
  states.insert cohort { state with received_frame_count := saturating_add state.received_frame_count drops }

/-- What is left in the ledger, and the states. -/
def fold_pending_drops (cohort : CohortName) (ledger : Ledger) (states : States) : Ledger × States :=
  let (drops, ledger) := take_pending_cohort_drops cohort ledger
  if drops = 0 then (ledger, states) else (ledger, count_drops states cohort drops)

/-- The drops of the cohort leave the ledger; no drops make no state. -/
theorem fold_cases {cohort : CohortName} {ledger ledger' : Ledger} {states states' : States}
    (folded : fold_pending_drops cohort ledger states = (ledger', states')) :
    ledger' = ledger.erase cohort ∧
      ((ledger.lookup cohort).getD 0 = 0 ∧ states' = states ∨
        (ledger.lookup cohort).getD 0 ≠ 0 ∧ states' = count_drops states cohort ((ledger.lookup cohort).getD 0)) := by
  unfold fold_pending_drops take_pending_cohort_drops at folded
  by_cases none : (ledger.lookup cohort).getD 0 = 0
  · simp only [if_pos none] at folded
    obtain ⟨rfl, rfl⟩ := Prod.mk.inj folded
    exact ⟨rfl, .inl ⟨none, rfl⟩⟩
  · simp only [if_neg none] at folded
    obtain ⟨rfl, rfl⟩ := Prod.mk.inj folded
    exact ⟨rfl, .inr ⟨none, rfl⟩⟩

def fold_all_pending_drops (ledger : Ledger) (states : States) : States :=
  ledger.entries.foldl (fun states entry => count_drops states entry.1 entry.2) states

def cohort_would_exceed_cap (config : WriterConfig) (states : States) (cohort : CohortName) (record_bytes : Nat) : Bool :=
  ((states.lookup cohort).bind fun state => checked_add state.bytes record_bytes).any
    fun bytes => config.per_cohort_memory_bytes < bytes

def add_record (states : States) (event : FrameEvent) (record_bytes : Nat) : States :=
  let state := (states.lookup event.cohort).getD .default
  states.insert event.cohort {
    records := state.records ++ [{ receive_time := event.receive_time, frame := event.frame, memory := event.memory }]
    bytes := saturating_add state.bytes record_bytes
    received_frame_count := saturating_add state.received_frame_count 1 }

/-- The cohort has records, and none that has records has more bytes. -/
def is_largest (states : States) (cohort : CohortName) : Bool :=
  (states.lookup cohort).any fun state => !state.records.isEmpty &&
    states.entries.all fun entry => entry.2.records.isEmpty || entry.2.bytes ≤ state.bytes

/-- No cohort has records. -/
def none_largest (states : States) : Bool := states.entries.all fun entry => entry.2.records.isEmpty

/-- What a part of the given state says in its header. -/
def flush_header (config : WriterConfig) (cohort : CohortName) (window_start : Nat) (state : CohortState) : SegmentHeader :=
  { window_start
    window_seconds := config.window_seconds
    first_receive := (state.records.head?.map BufferedRecord.receive_time).getD 0
    last_receive := (state.records.getLast?.map BufferedRecord.receive_time).getD 0
    received_frame_count := state.received_frame_count
    record_count := state.records.length
    cohort }

/-- The batch of a cohort that has something to flush, and the other states. -/
def take_flush_batch (config : WriterConfig) (cohort : CohortName) (window_start : Nat) (states : States) :
    Option FlushBatch × States :=
  match states.lookup cohort with
  | none => (none, states)
  | some state =>
    if state.records = [] ∧ state.received_frame_count = 0 then (none, states.erase cohort)
    else
      (some {
        window_start
        header := flush_header config cohort window_start state
        records := state.records
        record_bytes := state.bytes }, states.erase cohort)

end VectorSeam.Writer
