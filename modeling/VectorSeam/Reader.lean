import VectorSeam.Blobs
import VectorSeam.Frame
import VectorSeam.Cohort
import VectorSeam.Model
import VectorSeam.Tables

/-!
The collector's end of a connection. `handle_connection` reads one length-prefixed frame
after the other and hands the valid ones to the writer. What happens around it (the clock,
the memory in use, the channel, a shutdown, time-outs and read errors) is given for each
pass of its loop; `usize` has 64 bits, and counters stay below 2^64.
-/

namespace VectorSeam.Reader
open VectorSeam.LittleEndian VectorSeam.Frame VectorSeam.Cohort VectorSeam.Blobs VectorSeam.Model VectorSeam.Tables

structure ReaderConfig where
  max_frame_size : Nat
  live_memory_bytes : Nat

structure FrameEvent where
  cohort : CohortName
  receive_time : Nat
  frame : Bytes
  /-- The bytes of the reservation that travels with the frame. -/
  memory : Nat
deriving DecidableEq

/-! ### Dropped frames -/

def saturating_add (left right : Nat) : Nat := min (left + right) U64_MAX

/-- `HashMap<CohortName, u64>`, the frames dropped for a cohort that no part has counted yet. -/
abbrev Ledger := Table CohortName Nat

def record_pending_cohort_drop (cohort : CohortName) (drops : Ledger) : Ledger :=
  drops.insert cohort (saturating_add ((drops.lookup cohort).getD 0) 1)

/-- What is counted of the frames that a connection had to drop. -/
structure DropCounters where
  channel_dropped_frames : Nat
  memory_dropped_frames : Nat
  pending_cohort_drops : Ledger
deriving DecidableEq

namespace DropCounters

def record_channel_drop (counters : DropCounters) (cohort : CohortName) : DropCounters :=
  { counters with
    channel_dropped_frames := counters.channel_dropped_frames + 1
    pending_cohort_drops := record_pending_cohort_drop cohort counters.pending_cohort_drops }

def record_memory_drop (counters : DropCounters) (cohort : CohortName) : DropCounters :=
  { counters with
    memory_dropped_frames := counters.memory_dropped_frames + 1
    pending_cohort_drops := record_pending_cohort_drop cohort counters.pending_cohort_drops }

end DropCounters

/-- The counters that a connection touches. -/
structure CollectorCounters extends DropCounters where
  frames_read : Nat
  valid_frames_received : Nat
  invalid_frames : Nat
  invalid_names : Nat
  oversized_frames : Nat
  connection_errors : Nat
  idle_connection_timeouts : Nat

/-- The memory in use after a reservation, or none where it would pass the limit. -/
def try_reserve (used_bytes bytes limit : Nat) : Option Nat :=
  if limit < used_bytes + bytes then none else some (used_bytes + bytes)

/-! ### The loop -/

/-- What cuts a read short. -/
inductive Interruption where
  | Shutdown
  | IdleTimeout
  | Error

inductive ReadOutcome where
  | Read (bytes rest : Bytes)
  | Closed
  | Shutdown
  | IdleTimeout
  | Error

/-- Reads exactly so many bytes of what the peer sends before it closes its side. -/
def read_exact_or_shutdown (stream : Bytes) (wanted : Nat) : Option Interruption → ReadOutcome
  | none => if stream.length < wanted then .Closed else .Read (stream.take wanted) (stream.drop wanted)
  | some .Shutdown => .Shutdown
  | some .IdleTimeout => .IdleTimeout
  | some .Error => .Error

inductive TrySend where
  | Ok
  | Full
  | Closed
deriving DecidableEq

/-- What one pass of the loop meets. -/
structure Turn where
  length_read : Option Interruption
  body_read : Option Interruption
  unix_micros_now : Option Nat
  used_bytes : Nat
  try_send : TrySend

/-- What a connection has done: counted, and handed to the writer. -/
structure Connection where
  counters : CollectorCounters
  sent : List FrameEvent

/-- The counters once a read has ended the connection. -/
def read_ended (counters : CollectorCounters) : ReadOutcome → CollectorCounters
  | .IdleTimeout => { counters with idle_connection_timeouts := counters.idle_connection_timeouts + 1 }
  | .Error => { counters with connection_errors := counters.connection_errors + 1 }
  | _ => counters

/-- The rest of a pass, on a frame that has been read; the flag says whether the loop goes on. -/
def receive_frame (config : ReaderConfig) (turn : Turn) (frame : Bytes) (connection : Connection) : Connection × Bool :=
  let counters := connection.counters
  match parse_frame_header frame with
  | .error _ => ({ connection with counters := { counters with invalid_frames := counters.invalid_frames + 1 } }, true)
  | .ok parsed =>
    match CohortName.new parsed.name with
    | .error _ => ({ connection with counters := { counters with invalid_names := counters.invalid_names + 1 } }, true)
    | .ok cohort =>
      match turn.unix_micros_now with
      | none => (connection, true)
      | some receive_time =>
        let counters := { counters with valid_frames_received := counters.valid_frames_received + 1 }
        let memory_bytes := frame.length + 8
        match try_reserve turn.used_bytes memory_bytes config.live_memory_bytes with
        | none => ({ connection with counters := { counters with toDropCounters := counters.record_memory_drop cohort } }, true)
        | some _ =>
          let event := { cohort, receive_time, frame, memory := memory_bytes }
          match turn.try_send with
          | .Ok => ({ counters, sent := connection.sent ++ [event] }, true)
          | .Full => ({ connection with counters := { counters with toDropCounters := counters.record_channel_drop cohort } }, true)
          | .Closed => ({ connection with counters := { counters with toDropCounters := counters.record_channel_drop cohort } }, false)

/-- One pass of the loop, and what is left of the stream if it goes on. -/
def read_frame (config : ReaderConfig) (turn : Turn) (stream : Bytes) (connection : Connection) :
    Connection × Option Bytes :=
  match read_exact_or_shutdown stream 4 turn.length_read with
  | .Read len_buf after =>
    let counters := { connection.counters with frames_read := connection.counters.frames_read + 1 }
    let frame_total_len := from_le_bytes len_buf + 4
    if config.max_frame_size < frame_total_len then
      ({ connection with counters := { counters with oversized_frames := counters.oversized_frames + 1 } }, none)
    else
      match read_exact_or_shutdown after (frame_total_len - 4) turn.body_read with
      | .Read body rest =>
        match receive_frame config turn (len_buf ++ body) { connection with counters } with
        | (connection, true) => (connection, some rest)
        | (connection, false) => (connection, none)
      | outcome => ({ connection with counters := read_ended counters outcome }, none)
  | outcome => ({ connection with counters := read_ended connection.counters outcome }, none)

/-- The loop, as far as the given passes go, and whether it has returned. -/
def handle_connection (config : ReaderConfig) : List Turn → Bytes → Connection → Connection × Bool
  | [], _, connection => (connection, false)
  | turn :: turns, stream, connection =>
    match read_frame config turn stream connection with
    | (connection, none) => (connection, true)
    | (connection, some rest) => handle_connection config turns rest connection

/-! ### Frames and their fates -/

/-- What becomes of a frame that was read. -/
inductive Fate where
  | HandedOn (event : FrameEvent)
  | InvalidFrame
  | InvalidName
  /-- The clock gave no time. -/
  | Unstamped
  | MemoryDrop (cohort : CohortName)
  | ChannelDrop (cohort : CohortName)
deriving DecidableEq

def fate (config : ReaderConfig) (turn : Turn) (frame : Bytes) : Fate :=
  match parse_frame_header frame with
  | .error _ => .InvalidFrame
  | .ok parsed =>
    match CohortName.new parsed.name with
    | .error _ => .InvalidName
    | .ok cohort =>
      match turn.unix_micros_now with
      | none => .Unstamped
      | some receive_time =>
        if config.live_memory_bytes < turn.used_bytes + (frame.length + 8) then .MemoryDrop cohort
        else if turn.try_send = .Ok then .HandedOn { cohort, receive_time, frame, memory := frame.length + 8 }
        else .ChannelDrop cohort

namespace Fate

def event : Fate → Option FrameEvent
  | .HandedOn event => some event
  | _ => none
def dropped : Fate → Option CohortName
  | .MemoryDrop cohort => some cohort
  | .ChannelDrop cohort => some cohort
  | _ => none
def stamped : Fate → Bool
  | .HandedOn _ => true
  | .MemoryDrop _ => true
  | .ChannelDrop _ => true
  | _ => false
def memory_dropped : Fate → Bool
  | .MemoryDrop _ => true
  | _ => false
def channel_dropped : Fate → Bool
  | .ChannelDrop _ => true
  | _ => false

end Fate

/-- A frame is handed on when it parses, its name is a cohort's, and clock, memory and channel allow it. -/
theorem fate_handed_on {config : ReaderConfig} {turn : Turn} {frame : Bytes} {event : FrameEvent} :
    fate config turn frame = .HandedOn event ↔
      (∃ header, parse_frame_header frame = .ok header ∧ CohortName.new header.name = .ok event.cohort) ∧
        turn.unix_micros_now = some event.receive_time ∧
        turn.used_bytes + (frame.length + 8) ≤ config.live_memory_bytes ∧ turn.try_send = .Ok ∧
        event.frame = frame ∧ event.memory = frame.length + 8 := by
  unfold fate
  cases parsed : parse_frame_header frame with
  | error error => simp
  | ok header =>
    cases named : CohortName.new header.name with
    | error error => simp [named]
    | ok cohort =>
      cases now : turn.unix_micros_now with
      | none => simp [named]
      | some receive_time =>
        by_cases full : config.live_memory_bytes < turn.used_bytes + (frame.length + 8)
        · simp [named, full]
        · by_cases sent : turn.try_send = .Ok
          · cases event
            simp [named, full, sent, Nat.not_lt.mp full]
            grind
          · simp [named, full, sent]

end VectorSeam.Reader
