import VectorSeam.Connections
import VectorSeam.Ticks

/-!
The tuner over its data sources and cohorts, and the daemon that runs its rounds. A round
first replaces the connections that were lost or found closed, then runs every configured
cohort, one after the other in the order of their names, on the data source of its index.
The daemon runs a round at every tick that it does not sleep through, until it is cancelled
by the task that waits for a signal; that task's own end decides on the result.
-/

namespace VectorSeam.Tuner
open VectorSeam.Model VectorSeam.ObjectStore VectorSeam.Cohort VectorSeam.Window VectorSeam.Text VectorSeam.Effects
open VectorSeam.Programs VectorSeam.Durations VectorSeam.Configuration VectorSeam.Intermediate VectorSeam.Pipeline
open VectorSeam.Handlers VectorSeam.Connections

/-- Why a cohort has no record of a round; an aborted one is reported by the text of its error. -/
inductive CohortFailure where
  | Validated (message : String)
  | Aborted (error : PipelineError)

structure RoundRunReport where
  published : BTreeMap String RoundOutput
  failed_cohorts : BTreeMap String CohortFailure
  cancelled : Bool

namespace RoundRunReport

def default : RoundRunReport := ⟨∅, ∅, false⟩
def publish (report : RoundRunReport) (cohort : String) (output : RoundOutput) : RoundRunReport :=
  { report with published := report.published.insert cohort output }
def fail (report : RoundRunReport) (cohort : String) (failure : CohortFailure) : RoundRunReport :=
  { report with failed_cohorts := report.failed_cohorts.insert cohort failure }
def cancel (report : RoundRunReport) : RoundRunReport := { report with cancelled := true }

end RoundRunReport

inductive TunerStartError where
  | CreateStorageRoot (path source : String)
  | OpenLocalStore (path source : String)
  | StartupTask (message : String)
deriving DecidableEq, Repr

abbrev DataSources := BTreeMap String DataSourceRuntime

/-- The runtime of a cohort's data source and the projected configuration for its rounds. -/
structure CohortRuntime where
  config : AggregationConfig
  data_source : String
  runtime : DataSourceRuntime

/-- What a round takes from the tuner for a cohort. -/
def cohort_runtime (config : Config) (data_sources : DataSources) (cohort : CohortName) : Except String CohortRuntime := do
  let some projected := for_cohort config cohort | throw "validated cohort projection unexpectedly failed"
  let some (_, cohort_config) := config.cohorts[cohort.name]? | throw "validated cohort configuration disappeared"
  let some index := config.indexes[cohort_config.index]? | throw "validated index configuration disappeared"
  let some runtime := data_sources[index.data_source]? | throw "validated data source runtime disappeared"
  return ⟨projected, index.data_source, runtime⟩

/-- The time of a round: its end, and the moment at which it is computed. -/
structure RoundTimestamps where
  round_end : Nat
  computed_at : String
  computed_at_us : Nat

section Tuner
variable {B : Type} (debug : String → String) (debug_duration : Duration → String)

/-! ### Data sources -/

/-- The loop of `start_with_store` over the configured data sources. -/
def connect_data_sources (budget : BudgetConfig) : List (String × DataSourceConfig) → DataSources → TunerProgram B DataSources
  | [], data_sources => pure data_sources
  | (name, data_source) :: rest, data_sources => do
    let runtime ← connect_data_source debug debug_duration name data_source budget
    connect_data_sources budget rest (data_sources.insert name runtime)

def start_with_store (config : Config) : TunerProgram B DataSources :=
  connect_data_sources debug debug_duration config.budget config.data_sources.toList ∅

def start_store (root : String) : RootTask → Except TunerStartError Unit
  | .Opened => .ok ()
  | .NotCreated source => .error (.CreateStorageRoot root source)
  | .NotOpened source => .error (.OpenLocalStore root source)
  | .Failed message => .error (.StartupTask message)

def start (config : Config) : TunerProgram B (Except TunerStartError DataSources) := do
  let task ← Prog.perform (.open_store config.storage.root)
  match start_store config.storage.root task with
  | .error error => return .error error
  | .ok () => do
    let data_sources ← start_with_store debug debug_duration config
    return .ok data_sources

/-- Whether a round has to connect the data source again. -/
def must_reconnect (data_sources : DataSources) (name : String) : TunerProgram B Bool :=
  match data_sources[name]? with
  | some (.Connected _) => Prog.perform (TunerEffect.is_closed name)
  | _ => pure true

def reconnect_candidates (data_sources : DataSources) :
    List (String × DataSourceConfig) → TunerProgram B (List (String × DataSourceConfig))
  | [] => pure []
  | (name, config) :: rest => do
    let reconnect ← must_reconnect data_sources name
    let candidates ← reconnect_candidates data_sources rest
    return if reconnect then (name, config) :: candidates else candidates

/-- Abandons what is left of a closed connection. -/
def remove_connection (name : String) : Option DataSourceRuntime → TunerProgram B Unit
  | some (.Connected _) => do
    let _ ← abandon name
    return ()
  | _ => pure ()

def reconnect (budget : BudgetConfig) : List (String × DataSourceConfig) → DataSources → TunerProgram B DataSources
  | [], data_sources => pure data_sources
  | (name, config) :: rest, data_sources => do
    remove_connection name data_sources[name]?
    let runtime ← connect_data_source debug debug_duration name config budget
    reconnect budget rest (data_sources.insert name runtime)

def reconnect_unavailable_data_sources (config : Config) (data_sources : DataSources) : TunerProgram B DataSources := do
  let candidates ← reconnect_candidates data_sources config.data_sources.toList
  reconnect debug debug_duration config.budget candidates data_sources

/-- Dropping the connections that the shutdown did not get to. -/
def drop_all : List (String × DataSourceRuntime) → TunerProgram B Unit
  | [] => pure ()
  | (name, .Connected _) :: rest => do
    let _ ← Prog.perform (.drop name)
    drop_all rest
  | (_, .Unavailable _) :: rest => drop_all rest

def close_all : List (String × DataSourceRuntime) → TunerProgram B Unit
  | [] => pure ()
  | (name, .Connected _) :: rest => do
    let driver : Option DriverEnd ← Prog.perform (TunerEffect.close name)
    match driver with
    | some _ => close_all rest
    | none => drop_all rest
  | (_, .Unavailable _) :: rest => close_all rest

def shutdown (data_sources : DataSources) : TunerProgram B Unit := close_all data_sources.toList

/-! ### Rounds -/

variable (codec : Codec B) (beta_reg : Float → Float → Float → Float)

def run_cohort (timestamps : RoundTimestamps) (cohort : CohortRuntime) :
    TunerProgram B (Except PipelineError CohortRoundOutcome × DataSourceRuntime) :=
  serve (fun runtime effect => request debug_duration cohort.data_source runtime effect)
    (run_cohort_round codec beta_reg cohort.config timestamps.round_end timestamps.computed_at timestamps.computed_at_us)
    cohort.runtime

/-- The loop over the cohorts, which a cancellation ends. -/
def run_cohorts (config : Config) (timestamps : RoundTimestamps) :
    List CohortName → DataSources → RoundRunReport → TunerProgram B (RoundRunReport × DataSources)
  | [], data_sources, report => pure (report, data_sources)
  | cohort :: rest, data_sources, report => do
    let cancelled ← Prog.perform .is_cancelled
    if cancelled then return (report.cancel, data_sources)
    else
      match cohort_runtime config data_sources cohort with
      | .error message => run_cohorts config timestamps rest data_sources (report.fail cohort.name (.Validated message))
      | .ok found => do
        let (result, runtime) ← run_cohort debug_duration codec beta_reg timestamps found
        let data_sources := data_sources.insert found.data_source runtime
        match result with
        | .ok (.Published output) => run_cohorts config timestamps rest data_sources (report.publish cohort.name output)
        | .ok .Cancelled => return (report.cancel, data_sources)
        | .error error => run_cohorts config timestamps rest data_sources (report.fail cohort.name (.Aborted error))

/-- The configured cohorts in the order of their names. -/
def cohort_names (config : Config) : List CohortName := config.cohorts.toList.map fun entry => entry.2.1

def run_round (config : Config) (timestamps : RoundTimestamps) (data_sources : DataSources) :
    TunerProgram B (RoundRunReport × DataSources) := do
  let data_sources ← reconnect_unavailable_data_sources debug debug_duration config data_sources
  run_cohorts debug_duration codec beta_reg config timestamps (cohort_names config) data_sources .default

end Tuner

/-! ### The daemon -/

inductive DaemonError where
  | Start (error : TunerStartError)
  | ClockBeforeUnixEpoch
  | TimestampOverflow
  | ZeroInterval
  | Window (error : WindowError)
  | SignalTask (message : String)
  | Signal (source : String)
deriving DecidableEq, Repr

/-- The characters of an ASCII text from one offset up to another. -/
def characters (text : String) (start finish : Nat) : String := String.ofList ((text.toList.take finish).drop start)

def round_timestamps (since_epoch : Duration) (storage_window_seconds : Nat) : Except DaemonError RoundTimestamps := do
  let unix_seconds := since_epoch.as_secs
  let compact ← (format_window_timestamp unix_seconds).mapError .Window
  let computed_at := characters compact 0 4 ++ "-" ++ characters compact 4 6 ++ "-" ++ characters compact 6 8 ++ "T" ++
    characters compact 9 11 ++ ":" ++ characters compact 11 13 ++ ":" ++ zero_padded 2 (unix_seconds % 60 : Nat) ++ "Z"
  let computed_at_us := unix_seconds * 1000000 + since_epoch.subsec_nanos / 1000
  if U64_BOUND ≤ computed_at_us then throw .TimestampOverflow
  let round_end ← (aligned_window_start unix_seconds storage_window_seconds).mapError .Window
  return { round_end, computed_at, computed_at_us }

/-- The time now, which must not lie before the epoch. -/
def current_round_timestamps (since_epoch : Option Duration) (storage_window_seconds : Nat) :
    Except DaemonError RoundTimestamps :=
  match since_epoch with
  | none => .error .ClockBeforeUnixEpoch
  | some since_epoch => round_timestamps since_epoch storage_window_seconds

section Daemon
variable {B : Type} (debug : String → String) (debug_duration : Duration → String)
  (codec : Codec B) (beta_reg : Float → Float → Float → Float)

/-- Where the loop is: it has stopped, or waits for a tick. -/
inductive Turn where
  | Stopped (result : Except DaemonError Unit)
  | Scheduled (tick : Nat)

/-- What follows a round: the loop stops, or takes the next tick behind it. -/
def next_turn (interval scheduled_tick : Nat) (report : RoundRunReport) : TunerProgram B Turn := do
  let cancelled ← Prog.perform .is_cancelled
  if cancelled || report.cancelled then return .Stopped (.ok ())
  let now : Instant ← Prog.perform TunerEffect.scheduler_clock
  let (next_tick, _) := Ticks.next_tick_after_round scheduled_tick now.nanos interval
  return .Scheduled next_tick

/-- One pass of the loop, with the data sources it leaves. -/
def round_turn (config : Config) (interval scheduled_tick : Nat) (data_sources : DataSources) :
    TunerProgram B (Turn × DataSources) := do
  let woken ← Prog.perform (.tick scheduled_tick)
  if woken then return (.Stopped (.ok ()), data_sources)
  let cancelled ← Prog.perform .is_cancelled
  if cancelled then return (.Stopped (.ok ()), data_sources)
  let since_epoch ← Prog.perform .system_time
  match current_round_timestamps since_epoch config.storage.window_seconds with
  | .error error => return (.Stopped (.error error), data_sources)
  | .ok timestamps => do
    let (report, data_sources) ← run_round debug debug_duration codec beta_reg config timestamps data_sources
    let turn ← next_turn interval scheduled_tick report
    return (turn, data_sources)

/-- The loop for a number of passes, or until it stops. -/
def run_round_loop (config : Config) (interval : Nat) : Nat → Nat → DataSources → TunerProgram B (Turn × DataSources)
  | 0, scheduled_tick, data_sources => return (.Scheduled scheduled_tick, data_sources)
  | passes + 1, scheduled_tick, data_sources => do
    let (turn, data_sources) ← round_turn debug debug_duration codec beta_reg config interval scheduled_tick data_sources
    match turn with
    | .Stopped result => return (.Stopped result, data_sources)
    | .Scheduled tick => run_round_loop config interval passes tick data_sources

/-- Whether the signal task is awaited as it is; only behind a failed loop is it asked first. -/
def signal_finished : Except DaemonError Unit → TunerProgram B Bool
  | .ok () => pure true
  | .error _ => Prog.perform TunerEffect.signal_is_finished

/-- What a signal task leaves that was not aborted; a panic ends the daemon at once. -/
def awaited_signal : SignalTask → Except DaemonError (Except DaemonError Unit)
  | .Cancelled message => .error (.SignalTask message)
  | .Panicked message => .error (.SignalTask message)
  | .Finished result => .ok (result.mapError .Signal)

def aborted_signal : SignalTask → Except DaemonError Unit
  | .Cancelled _ => .ok ()
  | .Panicked message => .error (.SignalTask message)
  | .Finished result => result.mapError .Signal

/-- The result of the daemon behind that of its loop. -/
def join_signal (run_result : Except DaemonError Unit) : TunerProgram B (Except DaemonError Unit) := do
  let finished ← signal_finished run_result
  if finished then
    let task ← Prog.perform (.join_signal false)
    return awaited_signal task >>= fun signal_result => run_result >>= fun _ => signal_result
  else
    let task ← Prog.perform (.join_signal true)
    return run_result >>= fun _ => aborted_signal task

/-- The daemon while its loop makes a number of passes; a loop that has stopped is followed by the shutdown. -/
def run (config : Config) (passes : Nat) : TunerProgram B Turn := do
  if config.calibration.interval.is_zero then return .Stopped (.error .ZeroInterval)
  let started ← start debug debug_duration config
  match started with
  | .error error => return .Stopped (.error (.Start error))
  | .ok data_sources => do
    let now : Instant ← Prog.perform TunerEffect.scheduler_clock
    let (turn, data_sources) ← run_round_loop debug debug_duration codec beta_reg config
      config.calibration.interval.as_nanos passes now.nanos data_sources
    match turn with
    | .Stopped result => do
      shutdown data_sources
      let result ← join_signal result
      return .Stopped result
    | .Scheduled tick => return .Scheduled tick

end Daemon

end VectorSeam.Tuner
