import VectorSeam.Serving
import VectorSeam.Conservation

/-!
The main task of the collector, `run_with_listener`: it accepts connections and spawns a task
for each, watches the writer and the recommendation server, and winds everything down. Around
it run the tasks it has spawned; the collector's connections and writer are those of the
collector's own model, and the recommendation server is its accept loop.
-/

namespace VectorSeam.Supervision
open VectorSeam.Reader VectorSeam.Writer VectorSeam.Machines VectorSeam.Collector VectorSeam.Serving

/-! ### Handles -/

/-- An `anyhow::Error`: its message and the messages below it. -/
structure Error where
  chain : List String
deriving DecidableEq

def anyhow (message : String) : Error := { chain := [message] }
def Error.context (error : Error) (message : String) : Error := { chain := message :: error.chain }

structure JoinError where
  is_cancelled : Bool
  text : String
deriving DecidableEq

/-- What a handle knows of its task. -/
inductive JoinHandle (ρ : Type) where
  | Running (aborted : Bool)
  | Over (joined : Except JoinError ρ)
  | Joined
deriving DecidableEq

namespace JoinHandle
variable {ρ : Type}

def start : JoinHandle ρ := .Running false

/-- What joining the task gives, once it is over. -/
def ended : JoinHandle ρ → Option (Except JoinError ρ)
  | .Over joined => some joined
  | _ => none

/-- A task that runs ends. -/
def finish (joined : Except JoinError ρ) : JoinHandle ρ → Option (JoinHandle ρ)
  | .Running _ => some (.Over joined)
  | _ => none

/-- A task that was aborted ends as cancelled. -/
def cancel (text : String) : JoinHandle ρ → Option (JoinHandle ρ)
  | .Running true => some (.Over (.error { is_cancelled := true, text }))
  | _ => none

end JoinHandle

def unexpected_task_result (joined : Except JoinError (Except Error Unit)) (task_name : String) : Except Error Unit :=
  match joined with
  | .ok (.ok ()) => .error (anyhow (task_name ++ " exited unexpectedly"))
  | .ok (.error error) => .error (error.context (task_name ++ " failed"))
  | .error error => .error (anyhow (task_name ++ " task failed: " ++ error.text))

def unexpected_unit_task_result (joined : Except JoinError Unit) (task_name : String) : Except Error Unit :=
  match joined with
  | .ok () => .error (anyhow (task_name ++ " exited unexpectedly"))
  | .error error => .error (anyhow (task_name ++ " task failed: " ++ error.text))

/-- How long a handle is awaited: up to a deadline, and without one when its task was aborted. -/
inductive Wait where
  | Within (deadline : Nat)
  | Aborted
deriving DecidableEq

/-- A poll of `await_task_shutdown`, given what a task that ended by itself makes of its output. -/
def await_shutdown {ρ : Type} (output : ρ → Except Error Unit) (task_name : String) (elapsed : Nat) :
    Wait → JoinHandle ρ → Option (JoinHandle ρ × (Wait ⊕ Except Error Unit))
  | .Within _, .Over (.ok value) => some (.Joined, .inr (output value))
  | .Within _, .Over (.error error) => some (.Joined, .inr (.error (anyhow (task_name ++ " task failed: " ++ error.text))))
  | .Within deadline, .Running _ => if deadline ≤ elapsed then some (.Running true, .inl .Aborted) else none
  | .Aborted, .Over (.ok value) => some (.Joined, .inr (output value))
  | .Aborted, .Over (.error error) =>
    if error.is_cancelled then some (.Joined, .inr (.ok ()))
    else some (.Joined, .inr (.error (anyhow (task_name ++ " task failed after abort: " ++ error.text))))
  | _, _ => none

def await_task_shutdown (task_name : String) (elapsed : Nat) (wait : Wait) (task : JoinHandle (Except Error Unit)) :
    Option (JoinHandle (Except Error Unit) × (Wait ⊕ Except Error Unit)) :=
  await_shutdown id task_name elapsed wait task

def await_unit_task_shutdown (task_name : String) (elapsed : Nat) (wait : Wait) (task : JoinHandle Unit) :
    Option (JoinHandle Unit × (Wait ⊕ Except Error Unit)) :=
  await_shutdown .ok task_name elapsed wait task

/-! ### The main task -/

def CONNECTION_SHUTDOWN_DRAIN : Nat := 250000
def WRITER_SHUTDOWN_TIMEOUT : Nat := 20 * SECOND
def SUMMARY_SHUTDOWN_TIMEOUT : Nat := SECOND

/-- What the collector is started with. -/
structure Setup where
  limits : Limits
  recommendation_server : Option Serving.Config

def Setup.recommendation_shutdown_timeout (setup : Setup) : Nat :=
  match setup.recommendation_server with
  | some config => saturating_add config.shutdown_drain_timeout_seconds 1 * SECOND
  | none => 0

/-- Where `run_with_listener` stands. -/
inductive Control where
  /-- At the head of the loop. -/
  | Loop
  /-- In the `select!` that is entered at the connection limit. -/
  | AtLimit
  | Accepting
  /-- In `handle_accept_error`. -/
  | BackingOff (deadline : Nat)
  | Stopping
  /-- In the loops of `drain_connections`: before the connections are told to stop, after, and after `abort_all`. -/
  | Draining (deadline : Nat)
  | Closing (deadline : Nat)
  | Joining
  | AwaitingWriter (wait : Wait)
  | AwaitingSummary (wait : Wait)
  | AwaitingRecommendation (wait : Wait)
  | CleaningUp
  | Returned (result : Except Error Unit)
deriving DecidableEq

/-- The tasks that the main task watches. -/
inductive Part where
  | Writer
  | Summary
  | Recommendation
deriving DecidableEq

def Part.task_name : Part → String
  | .Writer => "writer"
  | .Summary => "summary"
  | .Recommendation => "recommendation server"

/-- What has happened: panics, aborts with their times, and when the sender of the channel was dropped. -/
structure Journal where
  panics : List (Part × String)
  aborts : List (Part × Nat)
  hung_up : Option Nat
deriving DecidableEq

structure Host where
  /-- The connections and the writer, as long as the writer has not been broken off. -/
  collector : Collector.State
  /-- The writer has panicked or was cancelled. What connections do with their frames after that is not followed. -/
  crashed : Bool
  connections : JoinSet
  connections_accepted : Nat
  connections_joined : Nat
  accept_errors : Nat
  control : Control
  /-- The `select!` has found the shutdown future ready. -/
  requested : Bool
  /-- `shutdown_tx` has sent. -/
  shutdown_sent : Bool
  writer : JoinHandle (Except Error Unit)
  writer_result : Option (Except Error Unit)
  summary : JoinHandle (Except Error Unit)
  summary_result : Option (Except Error Unit)
  /-- The token of the recommendation server. -/
  cancelled : Bool
  server : Server
  recommendation : Option (JoinHandle Unit)
  recommendation_result : Option (Except Error Unit)
  /-- `listener.cleanup` was called. -/
  cleaned : Bool
  journal : Journal

/-- What the main task finds ready. -/
inductive Choice where
  | Proceed
  | Shutdown
  | Join
  | Writer
  | Recommendation
  /-- A connection is accepted; the number is a fresh name for it. -/
  | Accept (connection : Nat)
  | AcceptError
  | Elapsed
deriving DecidableEq

namespace Host

def elapsed (host : Host) : Nat := host.collector.elapsed

/-- One connection is joined. -/
def join (host : Host) (control : Control) : Option Host :=
  host.connections.join_next.map fun connections =>
    { host with connections, control, connections_joined := host.connections_joined + (host.connections.len - connections.len) }

/-- `reap_finished_connections`. -/
def reap_finished_connections (host : Host) : Host :=
  { host with
    connections := host.connections.reap
    connections_joined := host.connections_joined + host.connections.finished }

/-- The accepted connection gets its task; while the writer lives, it is the collector's. -/
def spawn_connection (limits : Limits) (host : Host) (connection : Nat) : Option Host :=
  let host := { host with
    connections := host.connections.spawn, connections_accepted := host.connections_accepted + 1 }
  if host.crashed then some host
  else (Collector.step limits host.collector (.Accept connection)).map fun collector => { host with collector }

/-- The branches that both `select!`s of the loop have. -/
def select (host : Host) : Choice → Option Host
  | .Shutdown => some { host with requested := true, control := .Stopping }
  | .Writer => host.writer.ended.map fun joined =>
    { host with
      writer := .Joined, writer_result := some (unexpected_task_result joined Part.Writer.task_name), control := .Stopping }
  | .Recommendation => (host.recommendation.bind JoinHandle.ended).map fun joined =>
    { host with
      recommendation := none
      recommendation_result := some (unexpected_unit_task_result joined Part.Recommendation.task_name)
      control := .Stopping }
  | _ => none

/-- `shutdown_tx.send(true)`, and the second loop of the drain begins. -/
def close (host : Host) : Host :=
  { host with shutdown_sent := true, control := .Closing (host.elapsed + CONNECTION_SHUTDOWN_DRAIN) }

/-- `drop(writer_tx)`, and the writer is awaited unless it has been joined. -/
def hang_up (limits : Limits) (host : Host) : Option Host :=
  let host := { host with
    journal := { host.journal with hung_up := some host.elapsed }
    control := match host.writer_result with
      | some _ => .AwaitingSummary (.Within (host.elapsed + SUMMARY_SHUTDOWN_TIMEOUT))
      | none => .AwaitingWriter (.Within (host.elapsed + WRITER_SHUTDOWN_TIMEOUT)) }
  if host.crashed then some host
  else (Collector.step limits host.collector .HangUp).map fun collector => { host with collector }

/-- An abort, for the journal. -/
def aborting (host : Host) (part : Part) : Host :=
  { host with journal := { host.journal with aborts := host.journal.aborts ++ [(part, host.elapsed)] } }

/-- The recommendation server is awaited if there is one and it has not been joined. -/
def await_recommendation (setup : Setup) (host : Host) : Host :=
  match host.recommendation_result, host.recommendation with
  | some _, _ => { host with control := .CleaningUp }
  | none, some _ =>
    { host with control := .AwaitingRecommendation (.Within (host.elapsed + setup.recommendation_shutdown_timeout)) }
  | none, none => { host with recommendation_result := some (.ok ()), control := .CleaningUp }

/-- The first of the results that is an error. -/
def result (host : Host) : Except Error Unit := do
  host.writer_result.getD (.ok ())
  host.summary_result.getD (.ok ())
  host.recommendation_result.getD (.ok ())

/-- One step of `run_with_listener`. -/
def main (setup : Setup) (host : Host) (choice : Choice) : Option Host :=
  match host.control with
  | .Loop =>
    match choice with
    | .Proceed =>
      let host := host.reap_finished_connections
      some { host with
        control := if setup.limits.max_connections ≤ host.connections.len then .AtLimit else .Accepting }
    | _ => none
  | .AtLimit =>
    match choice with
    | .Join => host.join .Loop
    | choice => host.select choice
  | .Accepting =>
    match choice with
    | .Accept connection => (host.spawn_connection setup.limits connection).map fun host =>
      { host.reap_finished_connections with control := .Loop }
    | .AcceptError =>
      some { host with
        accept_errors := host.accept_errors + 1, control := .BackingOff (host.elapsed + ACCEPT_ERROR_BACKOFF) }
    | choice => host.select choice
  | .BackingOff deadline =>
    match choice with
    | .Elapsed => if deadline ≤ host.elapsed then some { host with control := .Loop } else none
    | _ => none
  | .Stopping =>
    match choice with
    | .Proceed =>
      some { host with
        cancelled := setup.recommendation_server.isSome
        control := .Draining (host.elapsed + CONNECTION_SHUTDOWN_DRAIN) }
    | _ => none
  | .Draining deadline =>
    match choice with
    | .Proceed => if host.connections.is_empty then some host.close else none
    | .Join => if host.connections.is_empty then none else host.join (.Draining deadline)
    | .Elapsed => if host.connections.is_empty ∨ host.elapsed < deadline then none else some host.close
    | _ => none
  | .Closing deadline =>
    match choice with
    | .Proceed => if host.connections.is_empty then some { host with control := .Joining } else none
    | .Join => if host.connections.is_empty then none else host.join (.Closing deadline)
    | .Elapsed =>
      if host.connections.is_empty ∨ host.elapsed < deadline then none
      else some { host with connections := host.connections.abort_all, control := .Joining }
    | _ => none
  | .Joining =>
    match choice with
    | .Proceed => if host.connections.is_empty then host.hang_up setup.limits else none
    | .Join => if host.connections.is_empty then none else host.join .Joining
    | _ => none
  | .AwaitingWriter wait =>
    match choice with
    | .Proceed => (await_task_shutdown Part.Writer.task_name host.elapsed wait host.writer).map fun (writer, next) =>
      match next with
      | .inl wait => { host.aborting .Writer with writer, control := .AwaitingWriter wait }
      | .inr result =>
        { host with
          writer
          writer_result := some result
          control := .AwaitingSummary (.Within (host.elapsed + SUMMARY_SHUTDOWN_TIMEOUT)) }
    | _ => none
  | .AwaitingSummary wait =>
    match choice with
    | .Proceed => (await_task_shutdown Part.Summary.task_name host.elapsed wait host.summary).map fun (summary, next) =>
      match next with
      | .inl wait => { host.aborting .Summary with summary, control := .AwaitingSummary wait }
      | .inr result => { host with summary, summary_result := some result }.await_recommendation setup
    | _ => none
  | .AwaitingRecommendation wait =>
    match choice with
    | .Proceed => host.recommendation.bind fun task =>
      (await_unit_task_shutdown Part.Recommendation.task_name host.elapsed wait task).map fun (task, next) =>
        match next with
        | .inl wait =>
          { host.aborting .Recommendation with recommendation := some task, control := .AwaitingRecommendation wait }
        | .inr result =>
          { host with recommendation := some task, recommendation_result := some result, control := .CleaningUp }
    | _ => none
  | .CleaningUp =>
    match choice with
    | .Proceed => some { host with cleaned := true, control := .Returned host.result }
    | _ => none
  | .Returned _ => none

end Host

/-! ### The tasks around it -/

inductive Action where
  /-- Time passes, or a connection or the writer does something. -/
  | Work (action : Collector.Action)
  /-- A connection ends after the writer is gone. -/
  | End
  | Serve (action : Serving.Action)
  /-- A task returns, panics, or is dropped after an abort. -/
  | Return (part : Part)
  | Panic (part : Part) (text : String)
  | Cancel (part : Part) (text : String)
  | Main (choice : Choice)
deriving DecidableEq

/-- What is not left to the main task; without the writer only time is followed. -/
def follows (crashed : Bool) : Collector.Action → Bool
  | .Tick _ _ => true
  | .Accept _ | .HangUp => false
  | _ => !crashed

namespace Host

/-- A step of a connection or of the writer; a connection that is gone is a task that is over. -/
def work (limits : Limits) (host : Host) (action : Collector.Action) : Option Host :=
  (Collector.step limits host.collector action).bind fun collector =>
    (if collector.connections.entries.length < host.collector.connections.entries.length then host.connections.finish
      else some host.connections).map fun connections => { host with collector, connections }

/-- A task returns once it has nothing left to do. -/
def returns (host : Host) : Part → Option Host
  | .Writer =>
    if host.crashed = false ∧ host.collector.buffers.control = .Returned then
      (host.writer.finish (.ok (.ok ()))).map fun writer => { host with writer }
    else none
  | .Summary => if host.shutdown_sent then (host.summary.finish (.ok (.ok ()))).map fun summary => { host with summary } else none
  | .Recommendation =>
    if host.server.control = .Stopped then
      (host.recommendation.bind (JoinHandle.finish (.ok ()))).map fun task => { host with recommendation := some task }
    else none

def panics (host : Host) (part : Part) (text : String) : Option Host :=
  let error : JoinError := { is_cancelled := false, text }
  let host := { host with journal := { host.journal with panics := host.journal.panics ++ [(part, text)] } }
  match part with
  | .Writer => (host.writer.finish (.error error)).map fun writer => { host with writer, crashed := true }
  | .Summary => (host.summary.finish (.error error)).map fun summary => { host with summary }
  | .Recommendation =>
    (host.recommendation.bind (JoinHandle.finish (.error error))).map fun task => { host with recommendation := some task }

def cancels (host : Host) (part : Part) (text : String) : Option Host :=
  match part with
  | .Writer => (host.writer.cancel text).map fun writer => { host with writer, crashed := true }
  | .Summary => (host.summary.cancel text).map fun summary => { host with summary }
  | .Recommendation =>
    (host.recommendation.bind (JoinHandle.cancel text)).map fun task => { host with recommendation := some task }

/-- A step of the recommendation server, as long as its task runs. -/
def serves (setup : Setup) (host : Host) (action : Serving.Action) : Option Host :=
  match setup.recommendation_server, host.recommendation with
  | some config, some (.Running _) =>
    (serve config host.cancelled host.elapsed host.server action).map fun server => { host with server }
  | _, _ => none

end Host

def step (setup : Setup) (host : Host) : Action → Option Host
  | .Work action => if follows host.crashed action then host.work setup.limits action else none
  | .End => if host.crashed then host.connections.finish.map fun connections => { host with connections } else none
  | .Serve action => host.serves setup action
  | .Return part => host.returns part
  | .Panic part text => host.panics part text
  | .Cancel part text => host.cancels part text
  | .Main choice => host.main setup choice

def start (setup : Setup) (begun : Collector.State) : Host :=
  { collector := begun
    crashed := false
    connections := .new
    connections_accepted := 0
    connections_joined := 0
    accept_errors := 0
    control := .Loop
    requested := false
    shutdown_sent := false
    writer := .start
    writer_result := none
    summary := .start
    summary_result := none
    cancelled := false
    server := .start
    recommendation := setup.recommendation_server.map fun _ => .start
    recommendation_result := none
    cleaned := false
    journal := { panics := [], aborts := [], hung_up := none } }

end VectorSeam.Supervision
