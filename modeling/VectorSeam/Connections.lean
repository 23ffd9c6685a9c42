import VectorSeam.Database
import VectorSeam.Endpoints
import VectorSeam.Pacer
import VectorSeam.Typestates

/-!
The one connection of a data source, and what the tuner has of a data source: a connection
or the error that took it. A lost connection is abandoned at once and stays lost until a
round begins. Everything the tuner asks of its surroundings is one kind of effect; the
requests of a cohort round are among them, its measurements are made of the others.
-/

namespace VectorSeam.Connections
open VectorSeam.Model VectorSeam.ObjectStore VectorSeam.Effects VectorSeam.Programs VectorSeam.Durations
open VectorSeam.Configuration VectorSeam.Database VectorSeam.Endpoints VectorSeam.Pacer VectorSeam.Handlers VectorSeam.Typestates

def APPLICATION_NAME : String := "vectorseam-seam"

/-! ### Effects -/

inductive VarError where
  | NotPresent
  | NotUnicode
deriving DecidableEq

/-- What the client is told of a server and of the session. -/
structure PostgresConfig where
  host : String
  port : Nat
  dbname : String
  user : String
  application_name : String
  connect_timeout : Duration
  password : Option String

/-- How the task ended that drives the socket of a connection. -/
inductive DriverEnd where
  | Cancelled (message : String)
  | Panicked (message : String)
  | Finished (result : Except PostgresError Unit)

/-- How the blocking task ended that creates the storage root and opens the store there. -/
inductive RootTask where
  | Opened
  | NotCreated (source : String)
  | NotOpened (source : String)
  | Failed (message : String)
deriving DecidableEq

/-- How the task ended that waits for the shutdown signal, which cancels the daemon when it is through. -/
inductive SignalTask where
  | Cancelled (message : String)
  | Panicked (message : String)
  | Finished (result : Except String Unit)
deriving DecidableEq

inductive TunerEffect (B : Type) where
  /-- A request of a cohort round to the store, or for the cancellation. -/
  | round (effect : Effect B)
  | env_var (name : String)
  | connect (data_source : String) (config : PostgresConfig)
  | is_closed (data_source : String)
  /-- The driver is aborted and its end awaited. -/
  | abandon (data_source : String)
  /-- The client is dropped and the end of its driver awaited, as long as the shutdown may take. -/
  | close (data_source : String)
  | drop (data_source : String)
  /-- The end of a cooldown, or the cancellation. -/
  | sleep_until (data_source : String) (deadline : Instant)
  | clock (data_source : String)
  | operate (data_source : String) (operation : Operation)
  | is_cancelled
  /-- The next tick of the scheduler, or the cancellation. -/
  | tick (deadline : Nat)
  | scheduler_clock
  | system_time
  | open_store (root : String)
  | signal_is_finished
  /-- The end of the signal task is awaited, after an abort or without one. -/
  | join_signal (aborted : Bool)

@[reducible] def TunerReply {B : Type} : TunerEffect B → Type
  | .round effect => Reply effect
  | .env_var _ => Except VarError String
  | .connect _ _ => Except ClientFailure Unit
  | .is_closed _ => Bool
  | .abandon _ => DriverEnd
  | .close _ => Option DriverEnd
  | .drop _ => Unit
  | .sleep_until _ _ => Bool
  | .clock _ => Instant
  | .operate _ operation => Answer operation
  | .is_cancelled => Bool
  | .tick _ => Bool
  | .scheduler_clock => Instant
  | .system_time => Option Duration
  | .open_store _ => RootTask
  | .signal_is_finished => Bool
  | .join_signal _ => SignalTask

/-- Arithmetic on times that the standard library gives up on. -/
inductive Panic where
  | Overflow
deriving DecidableEq

abbrev TunerProgram (B α : Type) := Prog (TunerEffect B) TunerReply Panic α

/-! ### Connections -/

section Texts
variable (debug : String → String) (debug_duration : Duration → String)

def connection_error_text : DatabaseConnectionError → String
  | .InvalidServer server => "invalid data-source server " ++ debug server ++ "; expected host:port"
  | .MissingPasswordEnvironment name =>
    "password environment variable " ++ debug name ++ " disappeared after startup validation"
  | .NonUnicodePasswordEnvironment name => "password environment variable " ++ debug name ++ " is not valid Unicode"
  | .Pacer .InvalidShare => "invalid database duty-cycle configuration: db_share must be finite and in (0, 1]"
  | .Connect error => "could not connect to PostgreSQL: " ++ error.message
  | .ConnectTimeout timeout => "PostgreSQL connection attempt exceeded client timeout " ++ debug_duration timeout
  | .Driver error => "PostgreSQL connection driver failed: " ++ error.message
  | .DriverTask message => "PostgreSQL connection driver task failed: " ++ message

end Texts

structure DatabaseConnection where
  pacer : DutyCyclePacer
  statement_timeout : Duration
  client_timeout : Duration

inductive DataSourceRuntime where
  | Connected (connection : DatabaseConnection)
  | Unavailable (error : String)

section Connections
variable {B : Type}

/-- The password, when the data source names a variable for it. -/
def password : Option String → Prog (TunerEffect B) TunerReply DatabaseConnectionError (Option String)
  | none => pure none
  | some name => do
    let reply : Except VarError String ← Prog.perform (TunerEffect.env_var name)
    match reply with
    | .ok password => pure (some password)
    | .error .NotPresent => .fail (.MissingPasswordEnvironment name)
    | .error .NotUnicode => .fail (.NonUnicodePasswordEnvironment name)

def connect (name : String) (data_source : DataSourceConfig) (budget : BudgetConfig) :
    Prog (TunerEffect B) TunerReply DatabaseConnectionError DatabaseConnection := do
  let (host, port) ← Prog.lift (parse_server data_source.server)
  let password ← password data_source.password_env
  let config : PostgresConfig :=
    { host, port, dbname := data_source.database, user := data_source.user, application_name := APPLICATION_NAME
      connect_timeout := budget.client_timeout, password }
  let reply : Except ClientFailure Unit ← Prog.perform (TunerEffect.connect name config)
  match reply with
  | .error .Elapsed => .fail (.ConnectTimeout budget.client_timeout)
  | .error (.Failed error) => .fail (.Connect error)
  | .ok () => do
    let now ← Prog.perform (.clock name)
    let pacer ← Prog.lift ((Pacer.new now budget.db_share).mapError .Pacer)
    return { pacer, statement_timeout := budget.statement_timeout, client_timeout := budget.client_timeout }

/-- The end of a driver that was aborted. -/
def abandoned : DriverEnd → Except DatabaseConnectionError Unit
  | .Cancelled _ => .ok ()
  | .Panicked message => .error (.DriverTask message)
  | .Finished result => result.mapError .Driver

def abandon (name : String) : TunerProgram B (Except DatabaseConnectionError Unit) := do
  let driver ← Prog.perform (.abandon name)
  return abandoned driver

/-- The end of a driver that was left to finish. -/
def finished : DriverEnd → Except DatabaseConnectionError Unit
  | .Cancelled message => .error (.DriverTask message)
  | .Panicked message => .error (.DriverTask message)
  | .Finished result => result.mapError .Driver

variable (debug : String → String) (debug_duration : Duration → String)

/-- Operations go to the connection of a data source. -/
def operate (name : String) (_ : Unit) (operation : Operation) : TunerProgram B (Answer operation × Unit) := do
  let reply ← Prog.perform (.operate name operation)
  return (reply, ())

/-- The unit of work of the pacer: a transaction between two readings of the clock. -/
def run_ready (name : String) (connection : DatabaseConnection) (vector : List UInt32) (config : AggregationConfig) :
    TunerProgram B (Except SampleMeasureError SampleMeasurement × DatabaseConnection) := do
  let started ← Prog.perform (.clock name)
  let (result, _) ← serve (operate name)
    (run_sample_transaction debug_duration connection.client_timeout connection.statement_timeout vector config) ()
  let finished ← Prog.perform (.clock name)
  let now ← Prog.perform (.clock name)
  match Pacer.run_ready connection.pacer started finished now with
  | none => .fail .Overflow
  | some pacer => return (result, { connection with pacer })

def measure_connected (name : String) (connection : DatabaseConnection) (vector : List UInt32) (config : AggregationConfig) :
    TunerProgram B (Except SampleMeasureError SampleMeasurement × DatabaseConnection) := do
  let cancelled ← Prog.perform (.sleep_until name connection.pacer.next_allowed)
  if cancelled then return (.error .CancelledBeforeTransaction, connection)
  else run_ready debug_duration name connection vector config

/-- A measurement with what is left of the data source after it. -/
def measure_sample (name : String) (vector : List UInt32) (config : AggregationConfig) :
    DataSourceRuntime → TunerProgram B (Except SampleMeasureError SampleMeasurement × DataSourceRuntime)
  | .Unavailable error => return (.error (.Connection error), .Unavailable error)
  | .Connected connection => do
    let (result, connection) ← measure_connected debug_duration name connection vector config
    match result with
    | .error (.Connection error) => do
      let _ ← abandon name
      return (.error (.Connection error), .Unavailable error)
    | other => return (other, .Connected connection)

def connect_data_source (name : String) (data_source : DataSourceConfig) (budget : BudgetConfig) :
    TunerProgram B DataSourceRuntime := do
  let result ← (connect name data_source budget).attempt
  match result with
  | .ok connection => return .Connected connection
  | .error error => return .Unavailable (connection_error_text debug debug_duration error)

/-- The requests of a cohort round, its measurements made on the data source. -/
def request (name : String) (runtime : DataSourceRuntime) : (effect : Effect B) → TunerProgram B (Reply effect × DataSourceRuntime)
  | .measure_sample vector config => measure_sample debug_duration name vector config runtime
  | .list lead => do
    let reply ← Prog.perform (.round (.list lead))
    return (reply, runtime)
  | .get path => do
    let reply ← Prog.perform (.round (.get path))
    return (reply, runtime)
  | .put path body => do
    let reply ← Prog.perform (.round (.put path body))
    return (reply, runtime)
  | .is_cancelled => do
    let reply ← Prog.perform (.round .is_cancelled)
    return (reply, runtime)

end Connections

/-! ### Surroundings -/

/-- The store, the monotonic clock and every exchange so far. -/
structure TunerWorld (B : Type) where
  objects : Objects B
  clock : Instant
  log : List (Exchange (TunerReply (B := B)))

/-- What the surroundings decide at one effect. -/
structure TunerChoice (B : Type) where
  round : Choice
  /-- The clock moves to here, but never back. -/
  later : Instant
  env_var : Except VarError String
  connected : Except ClientFailure Unit
  driver : DriverEnd
  /-- Whether the shutdown has time left. -/
  in_time : Bool
  operation : (operation : Operation) → Answer operation
  /-- The answer to a question, and whether the cancellation ended a wait. -/
  yes : Bool
  system_time : Option Duration
  /-- Objects that collectors have put since. -/
  collected : List (Path × B)
  root_task : RootTask
  signal_task : SignalTask

section Surroundings
variable {B : Type}

def latest (first second : Instant) : Instant := if first.nanos ≤ second.nanos then second else first

def TunerWorld.tell (world : TunerWorld B) (choice : TunerChoice B) (effect : TunerEffect B) (reply : TunerReply effect) :
    TunerReply effect × TunerWorld B :=
  (reply, { world with clock := latest world.clock choice.later, log := world.log ++ [⟨effect, reply⟩] })

/-- Waiting past a deadline, or until cancelled. -/
def TunerWorld.wait (world : TunerWorld B) (choice : TunerChoice B) (deadline : Instant) : TunerWorld B :=
  { world with clock := if choice.yes then world.clock else latest world.clock deadline }

/-- Collectors put objects below their own tree only. -/
def collect (objects : Objects B) (collected : List (Path × B)) : Objects B :=
  (collected.filter fun entry => entry.1.root = some "cohorts") ++ objects

def tuner_answer (world : TunerWorld B) (choice : TunerChoice B) : (effect : TunerEffect B) → TunerReply effect × TunerWorld B
  | .round effect =>
    let served := answer ⟨world.objects, []⟩ choice.round effect
    { world with objects := served.2.objects }.tell choice (.round effect) served.1
  | .env_var name => world.tell choice (.env_var name) choice.env_var
  | .connect data_source config => world.tell choice (.connect data_source config) choice.connected
  | .is_closed data_source => world.tell choice (.is_closed data_source) choice.yes
  | .abandon data_source => world.tell choice (.abandon data_source) choice.driver
  | .close data_source => world.tell choice (.close data_source) (if choice.in_time then some choice.driver else none)
  | .drop data_source => world.tell choice (.drop data_source) ()
  | .sleep_until data_source deadline =>
    (world.wait choice deadline).tell choice (.sleep_until data_source deadline) choice.yes
  | .clock data_source => world.tell choice (.clock data_source) (latest world.clock choice.later)
  | .operate data_source operation => world.tell choice (.operate data_source operation) (choice.operation operation)
  | .is_cancelled => world.tell choice .is_cancelled choice.yes
  | .tick deadline =>
    { world with objects := collect world.objects choice.collected }.tell choice (.tick deadline) choice.yes
  | .scheduler_clock => world.tell choice .scheduler_clock (latest world.clock choice.later)
  | .system_time => world.tell choice .system_time choice.system_time
  | .open_store root => world.tell choice (.open_store root) choice.root_task
  | .signal_is_finished => world.tell choice .signal_is_finished choice.yes
  | .join_signal aborted => world.tell choice (.join_signal aborted) choice.signal_task

theorem tuner_journaled : Journaled (tuner_answer (B := B)) TunerWorld.log := by
  intro world choice effect
  cases effect <;> rfl

end Surroundings

end VectorSeam.Connections
