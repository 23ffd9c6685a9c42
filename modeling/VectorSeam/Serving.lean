import VectorSeam.Machines

/-!
The accept loop of the recommendation server: the limit on its connections, the pause after
a failed accept, and the drain when it is told to stop. What a connection is answered is the
matter of the lookups; here it is a task that runs until it ends.
-/

namespace VectorSeam.Serving
open VectorSeam.Machines

/-! ### Connection tasks -/

/-- The tasks of a `JoinSet`: those that run, and those that are over and not joined. -/
structure JoinSet where
  running : Nat
  finished : Nat
  /-- `abort_all` was called. -/
  aborted : Bool
deriving DecidableEq

namespace JoinSet

def new : JoinSet := { running := 0, finished := 0, aborted := false }
def len (tasks : JoinSet) : Nat := tasks.running + tasks.finished
def is_empty (tasks : JoinSet) : Bool := tasks.len = 0
def spawn (tasks : JoinSet) : JoinSet := { tasks with running := tasks.running + 1 }
def abort_all (tasks : JoinSet) : JoinSet := { tasks with aborted := true }

/-- One of the tasks ends. -/
def finish (tasks : JoinSet) : Option JoinSet :=
  match tasks.running with
  | 0 => none
  | running + 1 => some { tasks with running, finished := tasks.finished + 1 }

/-- A task that is over is joined; an empty set answers at once. -/
def join_next (tasks : JoinSet) : Option JoinSet :=
  match tasks.finished with
  | 0 => if tasks.is_empty then some tasks else none
  | finished + 1 => some { tasks with finished }

/-- `try_join_next` until it has nothing to give. -/
def reap (tasks : JoinSet) : JoinSet := { tasks with finished := 0 }

@[simp] theorem len_new : new.len = 0 := rfl
@[simp] theorem len_spawn (tasks : JoinSet) : tasks.spawn.len = tasks.len + 1 := by
  simp only [len, spawn]
  omega
@[simp] theorem len_abort_all (tasks : JoinSet) : tasks.abort_all.len = tasks.len := rfl
@[simp] theorem len_reap (tasks : JoinSet) : tasks.reap.len = tasks.running := rfl

theorem is_empty_iff {tasks : JoinSet} : tasks.is_empty = true ↔ tasks.len = 0 := by
  simp [is_empty]

theorem finish_some {tasks tasks' : JoinSet} (finished : tasks.finish = some tasks') :
    tasks'.running + 1 = tasks.running ∧ tasks'.len = tasks.len := by
  cases tasks with
  | mk running before aborted =>
    cases running with
    | zero => simp [finish] at finished
    | succ running =>
      simp only [finish, Option.some.injEq] at finished
      subst finished
      refine ⟨rfl, ?_⟩
      simp only [len]
      omega

/-- Joining takes one task out of a set that has any. -/
theorem join_next_some {tasks tasks' : JoinSet} (joined : tasks.join_next = some tasks') :
    tasks'.running = tasks.running ∧ tasks'.len ≤ tasks.len ∧ (tasks.len ≠ 0 → tasks'.len + 1 = tasks.len) := by
  cases tasks with
  | mk running finished aborted =>
    cases finished with
    | zero =>
      obtain ⟨nothing, joined⟩ := Option.ite_none_right_eq_some.mp joined
      obtain rfl := Option.some.inj joined
      exact ⟨rfl, le_rfl, fun left => absurd (is_empty_iff.mp nothing) left⟩
    | succ finished =>
      simp only [join_next, Option.some.injEq] at joined
      subst joined
      exact ⟨rfl, Nat.le_succ _, fun _ => rfl⟩

end JoinSet

/-! ### The server -/

structure Config where
  max_connections : Nat
  shutdown_drain_timeout_seconds : Nat
deriving DecidableEq

/-- A second, in microseconds. -/
def SECOND : Nat := 1000000
def ACCEPT_ERROR_BACKOFF : Nat := 100000

/-- Where `serve` stands. -/
inductive Control where
  /-- At the head of the loop. -/
  | Loop
  /-- In the `select!` that is entered at the connection limit. -/
  | AtLimit
  | Accepting
  | BackingOff (deadline : Nat)
  /-- In the first loop of `drain_connections`, and in the second. -/
  | Draining (deadline : Nat)
  | Joining
  | Stopped
deriving DecidableEq

structure Server where
  control : Control
  connections : JoinSet
deriving DecidableEq

def Server.start : Server := { control := .Loop, connections := .new }

inductive Action where
  | Proceed
  /-- A connection ends: answered, broken, shut down or aborted. -/
  | Finish
  | Shutdown
  | Join
  | Accept
  | AcceptError
  | Elapsed
deriving DecidableEq

/-- The end of the loop: the connections are told, and the drain begins. -/
def stop (config : Config) (elapsed : Nat) (server : Server) : Server :=
  { server with control := .Draining (elapsed + config.shutdown_drain_timeout_seconds * SECOND) }

/-- One step of `serve` or of one of its connections; the flag is the token it was given. -/
def serve (config : Config) (cancelled : Bool) (elapsed : Nat) (server : Server) : Action → Option Server
  | .Finish => server.connections.finish.map fun connections => { server with connections }
  | .Proceed =>
    match server.control with
    | .Loop =>
      let connections := server.connections.reap
      some { connections, control := if config.max_connections ≤ connections.len then .AtLimit else .Accepting }
    | .Draining _ => if server.connections.is_empty then some { server with control := .Joining } else none
    | .Joining => if server.connections.is_empty then some { server with control := .Stopped } else none
    | _ => none
  | .Shutdown =>
    match server.control with
    | .AtLimit | .Accepting | .BackingOff _ => if cancelled then some (stop config elapsed server) else none
    | _ => none
  | .Join =>
    match server.control with
    | .AtLimit => server.connections.join_next.map fun connections => { connections, control := .Loop }
    | .Accepting =>
      if server.connections.is_empty then none
      else server.connections.join_next.map fun connections => { connections, control := .Loop }
    | .Draining _ | .Joining =>
      if server.connections.is_empty then none
      else server.connections.join_next.map fun connections => { server with connections }
    | _ => none
  | .Accept =>
    match server.control with
    | .Accepting => some { connections := server.connections.spawn, control := .Loop }
    | _ => none
  | .AcceptError =>
    match server.control with
    | .Accepting => some { server with control := .BackingOff (elapsed + ACCEPT_ERROR_BACKOFF) }
    | _ => none
  | .Elapsed =>
    match server.control with
    | .BackingOff deadline => if deadline ≤ elapsed then some { server with control := .Loop } else none
    | .Draining deadline =>
      if server.connections.is_empty then none
      else if deadline ≤ elapsed then some { connections := server.connections.abort_all, control := .Joining }
      else none
    | _ => none

/-! ### What holds of it -/

/-- What a step of the server leaves. -/
inductive Served (config : Config) (cancelled : Bool) (elapsed : Nat) (server : Server) : Server → Prop where
  | finish (connections : JoinSet) (finished : server.connections.finish = some connections) :
      Served config cancelled elapsed server { server with connections }
  | limit (full : config.max_connections ≤ server.connections.running) :
      Served config cancelled elapsed server { connections := server.connections.reap, control := .AtLimit }
  | below (room : server.connections.running < config.max_connections) :
      Served config cancelled elapsed server { connections := server.connections.reap, control := .Accepting }
  | told (told : cancelled = true) : Served config cancelled elapsed server (stop config elapsed server)
  | rejoin (connections : JoinSet) (fewer : connections.len ≤ server.connections.len) :
      Served config cancelled elapsed server { connections, control := .Loop }
  | accept (accepting : server.control = .Accepting) :
      Served config cancelled elapsed server { connections := server.connections.spawn, control := .Loop }
  | accept_error (deadline : Nat) : Served config cancelled elapsed server { server with control := .BackingOff deadline }
  | retry : Served config cancelled elapsed server { server with control := .Loop }
  | drain (connections : JoinSet) (draining : (∃ deadline, server.control = .Draining deadline) ∨ server.control = .Joining)
      (fewer : connections.len + 1 = server.connections.len) :
      Served config cancelled elapsed server { server with connections }
  | drained (deadline : Nat) (draining : server.control = .Draining deadline) :
      Served config cancelled elapsed server { server with control := .Joining }
  | abort (deadline : Nat) (draining : server.control = .Draining deadline) :
      Served config cancelled elapsed server { connections := server.connections.abort_all, control := .Joining }
  | stopped (joining : server.control = .Joining) (joined : server.connections.len = 0) :
      Served config cancelled elapsed server { server with control := .Stopped }

theorem serve_cases {config : Config} {cancelled : Bool} {elapsed : Nat} {server server' : Server} {action : Action}
    (served : serve config cancelled elapsed server action = some server') : Served config cancelled elapsed server server' := by
  cases action with
  | Finish =>
    obtain ⟨connections, finished, rfl⟩ := Option.map_eq_some_iff.mp served
    exact .finish connections finished
  | Proceed =>
    simp only [serve] at served
    split at served
    · obtain rfl := Option.some.inj served
      by_cases full : config.max_connections ≤ server.connections.running
      · have limited : Served config cancelled elapsed server { connections := server.connections.reap, control := .AtLimit } :=
          .limit full
        simpa [full] using limited
      · simpa [full] using Served.below (Nat.not_le.mp full)
    · rename_i deadline draining
      obtain ⟨-, served⟩ := Option.ite_none_right_eq_some.mp served
      obtain rfl := Option.some.inj served
      exact .drained deadline draining
    · rename_i joining
      obtain ⟨joined, served⟩ := Option.ite_none_right_eq_some.mp served
      obtain rfl := Option.some.inj served
      exact .stopped joining (JoinSet.is_empty_iff.mp joined)
    · cases served
  | Shutdown =>
    simp only [serve] at served
    split at served
    case h_4 => cases served
    all_goals
      obtain ⟨told, served⟩ := Option.ite_none_right_eq_some.mp served
      obtain rfl := Option.some.inj served
      exact .told told
  | Join =>
    simp only [serve] at served
    split at served
    · obtain ⟨connections, joined, rfl⟩ := Option.map_eq_some_iff.mp served
      exact .rejoin connections ((JoinSet.join_next_some joined).2.1)
    · obtain ⟨-, served⟩ := Option.ite_none_left_eq_some.mp served
      obtain ⟨connections, joined, rfl⟩ := Option.map_eq_some_iff.mp served
      exact .rejoin connections ((JoinSet.join_next_some joined).2.1)
    · rename_i deadline draining
      obtain ⟨left, served⟩ := Option.ite_none_left_eq_some.mp served
      obtain ⟨connections, joined, rfl⟩ := Option.map_eq_some_iff.mp served
      exact .drain connections (.inl ⟨deadline, draining⟩) ((JoinSet.join_next_some joined).2.2 (mt JoinSet.is_empty_iff.mpr left))
    · rename_i joining
      obtain ⟨left, served⟩ := Option.ite_none_left_eq_some.mp served
      obtain ⟨connections, joined, rfl⟩ := Option.map_eq_some_iff.mp served
      exact .drain connections (.inr joining) ((JoinSet.join_next_some joined).2.2 (mt JoinSet.is_empty_iff.mpr left))
    · cases served
  | Accept =>
    simp only [serve] at served
    split at served
    · rename_i accepting
      obtain rfl := Option.some.inj served
      exact .accept accepting
    · cases served
  | AcceptError =>
    simp only [serve] at served
    split at served
    · obtain rfl := Option.some.inj served
      exact .accept_error _
    · cases served
  | Elapsed =>
    simp only [serve] at served
    split at served
    · obtain ⟨-, served⟩ := Option.ite_none_right_eq_some.mp served
      obtain rfl := Option.some.inj served
      exact .retry
    · rename_i deadline draining
      obtain ⟨-, served⟩ := Option.ite_none_left_eq_some.mp served
      obtain ⟨-, served⟩ := Option.ite_none_right_eq_some.mp served
      obtain rfl := Option.some.inj served
      exact .abort deadline draining
    · cases served

/-- The drain has begun. -/
def draining : Control → Bool
  | .Draining _ | .Joining | .Stopped => true
  | _ => false

/-- The server keeps to its limit, drains only when it is told, and stops with every connection joined. -/
structure Orderly (config : Config) (cancelled : Bool) (server : Server) : Prop where
  limit : server.connections.len ≤ config.max_connections
  /-- There is room for one more when it accepts. -/
  room : server.control = .Accepting → server.connections.len < config.max_connections
  told : draining server.control = true → cancelled = true
  joined : server.control = .Stopped → server.connections.len = 0

theorem orderly_start (config : Config) (cancelled : Bool) : Orderly config cancelled .start where
  limit := Nat.zero_le _
  room accepting := by simp [Server.start] at accepting
  told drains := by simp [Server.start, draining] at drains
  joined _ := rfl

theorem Orderly.cancel {config : Config} {cancelled cancelled' : Bool} {server : Server} (orderly : Orderly config cancelled server)
    (later : cancelled = true → cancelled' = true) : Orderly config cancelled' server :=
  { orderly with told := fun drains => later (orderly.told drains) }

theorem Orderly.step {config : Config} {cancelled : Bool} {elapsed : Nat} {server server' : Server}
    (orderly : Orderly config cancelled server) (served : Served config cancelled elapsed server server') :
    Orderly config cancelled server' := by
  obtain ⟨limit, room, told, joined⟩ := orderly
  cases served with
  | finish connections finished =>
    have same := (JoinSet.finish_some finished).2
    exact ⟨same ▸ limit, fun accepting => same ▸ room accepting, told, fun stopped => same ▸ joined stopped⟩
  | limit full =>
    have fewer : server.connections.running ≤ server.connections.len := Nat.le_add_right _ _
    exact ⟨by simpa using fewer.trans limit, by simp, by simp [draining], by simp⟩
  | below free => exact ⟨by simpa using free.le, by simpa using free, by simp [draining], by simp⟩
  | told told => exact ⟨limit, by simp [stop], fun _ => told, by simp [stop]⟩
  | rejoin connections fewer => exact ⟨fewer.trans limit, by simp, by simp [draining], by simp⟩
  | accept accepting =>
    have free := room accepting
    exact ⟨by simpa using free, by simp, by simp [draining], by simp⟩
  | accept_error deadline => exact ⟨limit, by simp, by simp [draining], by simp⟩
  | retry => exact ⟨limit, by simp, by simp [draining], by simp⟩
  | drain connections drains fewer =>
    refine ⟨by dsimp only; omega, fun accepting => ?_, told, fun stopped => ?_⟩
    · have free := room accepting
      dsimp only
      omega
    · have nothing := joined stopped
      omega
  | drained deadline drains => exact ⟨limit, by simp, fun _ => told (by simp [drains, draining]), by simp⟩
  | abort deadline drains => exact ⟨by simpa using limit, by simp, fun _ => told (by simp [drains, draining]), by simp⟩
  | stopped joining nothing => exact ⟨limit, by simp, fun _ => told (by simp [joining, draining]), fun _ => nothing⟩

end VectorSeam.Serving
