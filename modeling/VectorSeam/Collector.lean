import VectorSeam.Machines
import VectorSeam.Writer

/-!
The running collector: connections, the memory tracker, the drop ledger, the channel and
the writer. Each step is one access to what the tasks share; a scheduler chooses who
moves, which ready branch of a `select!` is taken, in which order a hash map yields its
keys, how an upload ends, and how time passes.
-/

namespace VectorSeam.Collector
open VectorSeam.LittleEndian VectorSeam.Cohort VectorSeam.Frame VectorSeam.Window VectorSeam.Ulids VectorSeam.Segments
open VectorSeam.Reader VectorSeam.Writer VectorSeam.Tables VectorSeam.Machines

/-! ### Memory -/

structure MemoryTracker where
  used_bytes : Nat
  /-- A release has found less memory in use than it gives back. -/
  underflow_logged : Bool
deriving DecidableEq

/-- The loop of `release`: the bytes it gives back, and the value it loaded last. -/
structure Release where
  release_bytes : Nat
  current : Option Nat
deriving DecidableEq

namespace Release

def new (bytes : Nat) : Release := { release_bytes := bytes, current := none }

/-- One load or one exchange; nothing is left of a release that is done. -/
def turn (release : Release) (memory : MemoryTracker) : MemoryTracker × Option Release :=
  match release.current with
  | none => (memory, some { release with current := some memory.used_bytes })
  | some current =>
    let underflow_logged := memory.underflow_logged || decide (current < release.release_bytes)
    let release_bytes := min release.release_bytes current
    if memory.used_bytes = current then ({ used_bytes := current - release_bytes, underflow_logged }, none)
    else ({ memory with underflow_logged }, some { release_bytes, current := some memory.used_bytes })

end Release

/-! ### States -/

/-- Where a connection stands in its pass over a frame. -/
inductive Pass where
  /-- Waiting for bytes, the only point at which a connection can end or be aborted. -/
  | Reading
  | Stamped (event : FrameEvent)
  /-- `try_reserve` has loaded the memory in use. -/
  | Loaded (event : FrameEvent) (current : Nat)
  | Refused (event : FrameEvent)
  | Reserved (event : FrameEvent)
  /-- `try_send` has returned the event; the flag says that the channel was closed. -/
  | Unsent (event : FrameEvent) (closed : Bool)
  | Releasing (release : Release) (closed : Bool)
deriving DecidableEq

/-- Where the flush of one cohort stands. -/
inductive FlushStage where
  | Folding
  | Taking
  | Serializing (batch : FlushBatch)
  /-- The records go, guard after guard; the segment is missing if it failed to serialize. -/
  | Dropping (batch : FlushBatch) (guards : List Release) (segment : Option Bytes)
  | Putting (batch : FlushBatch) (segment : Bytes)
deriving DecidableEq

/-- The cohorts that a flush has to go through; the stage is about the first of them. -/
structure Flush where
  window_start : Nat
  cohorts : List CohortName
  stage : FlushStage
deriving DecidableEq

namespace Flush

def new (window_start : Nat) (cohorts : List CohortName) : Flush := { window_start, cohorts, stage := .Folding }
def next (flush : Flush) : Flush := { flush with cohorts := flush.cohorts.tail, stage := .Folding }

end Flush

/-- What the writer does after a flush. -/
inductive After where
  | EnterWindow (event : FrameEvent) (window_start : Nat)
  | Relieve (event : FrameEvent)
  | Add (event : FrameEvent)
  | NextWindow
  | Return
deriving DecidableEq

/-- Where the writer stands in `run`. -/
inductive Control where
  | Select
  | Waiting (deadline : Nat)
  | Advance (event : FrameEvent)
  /-- A later window is about to begin: the old one is closed first. -/
  | Closing (after : After)
  | Fold (event : FrameEvent)
  | Spill (event : FrameEvent)
  | Relieve (event : FrameEvent)
  | Flushing (flush : Flush) (after : After)
  | Add (event : FrameEvent)
  | Returned
deriving DecidableEq

inductive PutOutcome where
  | Ok
  | Err
  | Elapsed
deriving DecidableEq

/-- An object that `put_flush` has handed to the store. -/
structure Upload where
  batch : FlushBatch
  part : Ulid
  key : String
  segment : Bytes
  outcome : PutOutcome
deriving DecidableEq

/-- What the tasks share. -/
structure Shared extends DropCounters where
  memory : MemoryTracker
  channel : List FrameEvent
  valid_frames_received : Nat
deriving DecidableEq

/-- The writer's own fields and counters. -/
structure Buffers where
  states : States
  current_window_start : Nat
  control : Control
  kept_frames : Nat
  flushed_parts : Nat
  flush_failures : Nat
deriving DecidableEq

/-- What has happened: frames received and dropped, batches taken, objects uploaded. -/
structure Journal where
  received : List FrameEvent
  dropped : List FrameEvent
  taken : List FlushBatch
  uploads : List Upload
deriving DecidableEq

structure State where
  /-- Microseconds since the Unix epoch, nothing before it. -/
  clock : Option Nat
  /-- Microseconds of the monotonic clock. -/
  elapsed : Nat
  /-- The accept loop still holds a sender of the channel. -/
  accepting : Bool
  connections : Table Nat Pass
  shared : Shared
  buffers : Buffers
  journal : Journal
deriving DecidableEq

/-! ### Time -/

def unix_seconds_now (clock : Option Nat) : Option Nat := clock.map (· / 1000000)
def unix_micros_now (clock : Option Nat) : Option Nat := clock.filter (· < 2 ^ 64)

/-- In whole seconds. -/
def duration_until_unix_second (clock : Option Nat) (target_second : Nat) : Nat :=
  match unix_seconds_now clock with
  | none => 0
  | some now_seconds => target_second - now_seconds

/-! ### Connections -/

/-- The frame event of a frame that parses, has the name of a cohort and can be given a time. -/
def stamp (limits : Limits) (clock : Option Nat) (frame : Bytes) : Option FrameEvent :=
  if limits.reader.max_frame_size < frame.length then none
  else
    match parse_frame_header frame with
    | .error _ => none
    | .ok parsed =>
      match CohortName.new parsed.name with
      | .error _ => none
      | .ok cohort => (unix_micros_now clock).map fun receive_time =>
        { cohort, receive_time, frame, memory := frame.length + 8 }

/-- One step of a connection on a frame: what is shared, the drops, and where the connection stands. -/
def turn (limits : Limits) (receiver_dropped : Bool) (shared : Shared) (dropped : List FrameEvent) :
    Pass → Option (Shared × List FrameEvent × Option Pass)
  | .Reading => none
  | .Stamped event => some (shared, dropped, some (.Loaded event shared.memory.used_bytes))
  | .Loaded event current =>
    match try_reserve current event.memory limits.reader.live_memory_bytes with
    | none => some (shared, dropped, some (.Refused event))
    | some next =>
      if shared.memory.used_bytes = current then
        some ({ shared with memory := { shared.memory with used_bytes := next } }, dropped, some (.Reserved event))
      else some (shared, dropped, some (.Loaded event shared.memory.used_bytes))
  | .Refused event => some ({ shared with toDropCounters := shared.record_memory_drop event.cohort }, dropped ++ [event], some .Reading)
  | .Reserved event =>
    if receiver_dropped then some (shared, dropped, some (.Unsent event true))
    else if shared.channel.length < limits.channel_capacity then
      some ({ shared with channel := shared.channel ++ [event] }, dropped, some .Reading)
    else some (shared, dropped, some (.Unsent event false))
  | .Unsent event closed =>
    some ({ shared with toDropCounters := shared.record_channel_drop event.cohort }, dropped ++ [event], some (.Releasing (.new event.memory) closed))
  | .Releasing release closed =>
    match release.turn shared.memory with
    | (memory, some release) => some ({ shared with memory }, dropped, some (.Releasing release closed))
    | (memory, none) => some ({ shared with memory }, dropped, if closed then none else some .Reading)

/-! ### The writer -/

/-- What the scheduler chooses in a step of the writer. -/
inductive Choice where
  | Proceed
  /-- The order in which the hash map of the states yields its keys. -/
  | Keys (cohorts : List CohortName)
  | Largest (cohort : CohortName)
  | Receive
  | Sleep
  | Put (part : Ulid) (outcome : PutOutcome)
deriving DecidableEq

def segment_record (record : BufferedRecord) : SegmentRecord := { receive_time := record.receive_time, frame := record.frame }

def fail (buffers : Buffers) : Buffers := { buffers with flush_failures := buffers.flush_failures + 1 }

/-- One step of `flush_cohort` on the first cohort of a flush. -/
def flush_cohort (config : WriterConfig) (cohort : CohortName) (flush : Flush) (choice : Choice) (shared : Shared)
    (buffers : Buffers) (journal : Journal) : Option (Shared × Buffers × Journal × Flush) :=
  match flush.stage with
  | .Folding =>
    let (pending_cohort_drops, states) := fold_pending_drops cohort shared.pending_cohort_drops buffers.states
    some ({ shared with pending_cohort_drops }, { buffers with states }, journal, { flush with stage := .Taking })
  | .Taking =>
    match buffers.states.lookup cohort with
    | none => some (shared, buffers, journal, flush.next)
    | some state =>
      if state.records = [] ∧ state.received_frame_count = 0 then some (shared, buffers, journal, flush.next)
      else
        match take_flush_batch config cohort flush.window_start buffers.states with
        | (none, states) => some (shared, { buffers with states }, journal, flush.next)
        | (some batch, states) =>
          some (shared, { buffers with states }, { journal with taken := journal.taken ++ [batch] },
            { flush with stage := .Serializing batch })
  | .Serializing batch =>
    let guards := batch.records.map fun record => Release.new record.memory
    match write_segment batch.header (batch.records.map segment_record) with
    | .error _ => some (shared, fail buffers, journal, { flush with stage := .Dropping batch guards none })
    | .ok segment => some (shared, buffers, journal, { flush with stage := .Dropping batch guards (some segment) })
  | .Dropping batch (guard :: guards) segment =>
    match guard.turn shared.memory with
    | (memory, some guard) =>
      some ({ shared with memory }, buffers, journal, { flush with stage := .Dropping batch (guard :: guards) segment })
    | (memory, none) =>
      some ({ shared with memory }, buffers, journal, { flush with stage := .Dropping batch guards segment })
  | .Dropping _ [] none => some (shared, buffers, journal, flush.next)
  | .Dropping batch [] (some segment) => some (shared, buffers, journal, { flush with stage := .Putting batch segment })
  | .Putting batch segment =>
    match choice with
    | .Put part outcome =>
      match object_key batch.header.cohort batch.window_start part with
      | .error _ => some (shared, fail buffers, journal, flush.next)
      | .ok key =>
        let journal := { journal with uploads := journal.uploads ++ [{ batch, part, key, segment, outcome }] }
        match outcome with
        | .Ok => some (shared, { buffers with flushed_parts := buffers.flushed_parts + 1 }, journal, flush.next)
        | .Err => some (shared, fail buffers, journal, flush.next)
        | .Elapsed => some (shared, fail buffers, journal, flush.next)
    | _ => none

/-- What follows a flush. -/
def resume (config : WriterConfig) (clock : Option Nat) (buffers : Buffers) : After → Buffers
  | .EnterWindow event window_start =>
    { buffers with current_window_start := window_start, control := .Fold event }
  | .Relieve event => { buffers with control := .Relieve event }
  | .Add event => { buffers with control := .Add event }
  | .NextWindow =>
    let now := (unix_seconds_now clock).bind fun now => (aligned_window_start now config.window_seconds).toOption
    let current_window_start := match now with
      | some window_start => window_start
      | none => saturating_add buffers.current_window_start config.window_seconds
    { buffers with current_window_start, control := .Select }
  | .Return => { buffers with control := .Returned }

/-- One step of the writer. -/
def write (config : WriterConfig) (choice : Choice) (clock : Option Nat) (elapsed : Nat) (senders : Bool)
    (shared : Shared) (buffers : Buffers) (journal : Journal) : Option (Shared × Buffers × Journal) :=
  match buffers.control with
  | .Select =>
    let target := buffers.current_window_start + config.window_seconds
    let deadline := elapsed + duration_until_unix_second clock target * 1000000
    some (shared, { buffers with control := .Waiting deadline }, journal)
  | .Waiting deadline =>
    match choice with
    | .Receive =>
      match shared.channel with
      | event :: channel => some ({ shared with channel }, { buffers with control := .Advance event }, journal)
      | [] => if senders then none else some (shared, { buffers with control := .Closing .Return }, journal)
    | .Sleep => if elapsed < deadline then none else some (shared, { buffers with control := .Closing .NextWindow }, journal)
    | _ => none
  | .Advance event =>
    match aligned_window_start (event.receive_time / 1000000) config.window_seconds with
    | .error _ => some (shared, { buffers with control := .Fold event }, journal)
    | .ok receive_window_start =>
      if receive_window_start ≤ buffers.current_window_start then
        some (shared, { buffers with control := .Fold event }, journal)
      else some (shared, { buffers with control := .Closing (.EnterWindow event receive_window_start) }, journal)
  | .Closing after =>
    match choice with
    | .Keys cohorts =>
      let states := fold_all_pending_drops shared.pending_cohort_drops buffers.states
      if cohorts.Perm states.keys then
        some ({ shared with pending_cohort_drops := ∅ },
          { buffers with states, control := .Flushing (.new buffers.current_window_start cohorts) after }, journal)
      else none
    | _ => none
  | .Fold event =>
    let (pending_cohort_drops, states) := fold_pending_drops event.cohort shared.pending_cohort_drops buffers.states
    some ({ shared with pending_cohort_drops }, { buffers with states, control := .Spill event }, journal)
  | .Spill event =>
    if cohort_would_exceed_cap config buffers.states event.cohort event.memory then
      let flush := Flush.new buffers.current_window_start [event.cohort]
      some (shared, { buffers with control := .Flushing flush (.Relieve event) }, journal)
    else some (shared, { buffers with control := .Relieve event }, journal)
  | .Relieve event =>
    if config.live_memory_bytes ≤ shared.memory.used_bytes then
      match choice with
      | .Largest cohort =>
        if is_largest buffers.states cohort then
          let flush := Flush.new buffers.current_window_start [cohort]
          some (shared, { buffers with control := .Flushing flush (.Add event) }, journal)
        else none
      | .Proceed => if none_largest buffers.states then some (shared, { buffers with control := .Add event }, journal) else none
      | _ => none
    else some (shared, { buffers with control := .Add event }, journal)
  | .Flushing flush after =>
    match flush.cohorts with
    | [] => some (shared, resume config clock buffers after, journal)
    | cohort :: _ =>
      (flush_cohort config cohort flush choice shared buffers journal).map fun (shared, buffers, journal, flush) =>
        (shared, { buffers with control := .Flushing flush after }, journal)
  | .Add event =>
    some (shared, { buffers with
      states := add_record buffers.states event event.memory
      kept_frames := buffers.kept_frames + 1
      control := .Select }, journal)
  | .Returned => none

/-! ### Runs -/

inductive Action where
  /-- Time passes, and the wall clock shows something. -/
  | Tick (micros : Nat) (clock : Option Nat)
  | Accept (connection : Nat)
  /-- A connection ends: closed, idle for too long, broken, shut down or aborted. -/
  | Disconnect (connection : Nat)
  /-- All connections are joined, and the accept loop gives up its sender. -/
  | HangUp
  /-- A whole frame has been read, is valid, and gets its receive time. -/
  | Stamp (connection : Nat) (frame : Bytes)
  | Turn (connection : Nat)
  | Write (choice : Choice)
deriving DecidableEq

def step (limits : Limits) (state : State) : Action → Option State
  | .Tick micros clock => some { state with elapsed := state.elapsed + micros, clock }
  | .Accept connection =>
    if state.accepting ∧ (state.connections.lookup connection).isNone ∧
        state.connections.entries.length < limits.max_connections then
      some { state with connections := state.connections.insert connection .Reading }
    else none
  | .Disconnect connection =>
    if state.connections.lookup connection = some .Reading then
      some { state with connections := state.connections.erase connection }
    else none
  | .HangUp => if state.accepting ∧ state.connections.entries = [] then some { state with accepting := false } else none
  | .Stamp connection frame =>
    if state.connections.lookup connection = some .Reading then
      (stamp limits state.clock frame).map fun event => { state with
        connections := state.connections.insert connection (.Stamped event)
        shared := { state.shared with valid_frames_received := state.shared.valid_frames_received + 1 }
        journal := { state.journal with received := state.journal.received ++ [event] } }
    else none
  | .Turn connection =>
    (state.connections.lookup connection).bind fun pass =>
      (turn limits (state.buffers.control = .Returned) state.shared state.journal.dropped pass).map
        fun (shared, dropped, pass) => { state with
          connections := match pass with
            | some pass => state.connections.insert connection pass
            | none => state.connections.erase connection
          shared
          journal := { state.journal with dropped } }
  | .Write choice =>
    (write limits.writer choice state.clock state.elapsed (state.accepting || !state.connections.entries.isEmpty)
        state.shared state.buffers state.journal).map
      fun (shared, buffers, journal) => { state with shared, buffers, journal }

/-- The collector as it starts up in the window of a Unix second. -/
def start (limits : Limits) (now : Nat) : Except WindowError State := do
  let current_window_start ← aligned_window_start (now / 1000000) limits.writer.window_seconds
  return {
    clock := some now
    elapsed := 0
    accepting := true
    connections := ∅
    shared := {
      memory := { used_bytes := 0, underflow_logged := false }
      pending_cohort_drops := ∅
      channel := []
      valid_frames_received := 0
      channel_dropped_frames := 0
      memory_dropped_frames := 0 }
    buffers := {
      states := ∅
      current_window_start
      control := .Select
      kept_frames := 0
      flushed_parts := 0
      flush_failures := 0 }
    journal := { received := [], dropped := [], taken := [], uploads := [] } }

end VectorSeam.Collector
