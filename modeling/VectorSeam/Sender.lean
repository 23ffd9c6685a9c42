import VectorSeam.SdkFrames
import VectorSeam.Blobs

/-!
The background sender of the SDK. One sender thread drains the capture queue into batches
and writes them to one socket after the other, while other threads capture frames, stop
the sender, start it again and close its socket at any point. Sockets are numbered in the
order in which they are created; what each has accepted is read off the trace.
-/

namespace VectorSeam.Sender
open VectorSeam.LittleEndian VectorSeam.SdkFrames VectorSeam.Blobs

abbrev Sock := Nat

structure SenderConfig where
  max_batch_bytes : Nat
  max_queue_bytes : Nat

/-- Where the sender thread stands. -/
inductive Place where
  /-- No thread is alive. -/
  | stopped
  | looping
  | ensure_connected
  | connecting (sock : Sock)
  | connected (sock : Sock)
  | drain_initial_frames (sock : Sock)
  | try_dequeue (sock : Sock)
  | flush_wait (sock : Sock) (frames : List Bytes)
  | drain_more (sock : Sock) (frames : List Bytes)
  /-- At the head of the send loop. -/
  | sending (sock : Sock) (batch : Bytes) (sent_bytes : Nat)
  /-- About to call `send`. -/
  | writing (sock : Sock) (batch : Bytes) (sent_bytes : Nat)
  | close_socket (sock : Sock)
  /-- In the `finally` clause. -/
  | finishing

/-- The sender, its producer and the sockets that are being closed. -/
structure State where
  queue : List Bytes
  queued_bytes : Nat
  stop_event : Bool
  sock : Option Sock
  place : Place
  opened : Nat
  closing : List Sock
  closed : List Sock

def initial : State :=
  { queue := [], queued_bytes := 0, stop_event := false, sock := none, place := .stopped, opened := 0, closing := [],
    closed := [] }

/-- What a step does to frames and sockets. -/
inductive Event where
  | captured (frame : Bytes)
  | dequeued (frames : List Bytes)
  | wrote (sock : Sock) (bytes : Bytes)

/-! ### The queue -/

/-- The loop of `drain` over the queue: the frames taken, and those left. -/
def drain_frames (max_bytes : Option Nat) : Nat → List Bytes → List Bytes × List Bytes
  | _, [] => ([], [])
  | drained_bytes, next_frame :: queue =>
    if max_bytes.any fun max_bytes => max_bytes < drained_bytes + next_frame.length then ([], next_frame :: queue)
    else
      let (frames, left) := drain_frames max_bytes (drained_bytes + next_frame.length) queue
      (next_frame :: frames, left)

def drain (max_bytes : Option Nat) (queue : List Bytes) : List Bytes × List Bytes := drain_frames max_bytes 0 queue

/-- The frames added to a batch, within what is left of its budget. -/
def more_frames (config : SenderConfig) (frames queue : List Bytes) : List Bytes × List Bytes :=
  let batch_bytes := (frames.map List.length).sum
  if 0 < config.max_batch_bytes - batch_bytes then drain (some (config.max_batch_bytes - batch_bytes)) queue
  else ([], queue)

/-- The producer after frames have left its queue. -/
def State.dequeue (state : State) (frames queue : List Bytes) (place : Place) : State :=
  { state with queue, queued_bytes := state.queued_bytes - (frames.map List.length).sum, place }
/-- The current socket is given up and will be closed. -/
def State.release (state : State) : State := { state with sock := none, closing := state.closing ++ state.sock.toList }

/-! ### Steps -/

/-- One step of any thread; sections under one lock are one step. -/
inductive Step (config : SenderConfig) : State → Option Event → State → Prop where
  -- application threads
  | capture_vector {state name dtype dimension vector frame}
      (encoded : encode_vector_frame name dtype dimension vector = .ok frame)
      (room : state.queued_bytes + frame.length ≤ config.max_queue_bytes) :
      Step config state (some (.captured frame))
        { state with queue := state.queue ++ [frame], queued_bytes := state.queued_bytes + frame.length }
  | start {state} (dead : state.place = .stopped) :
      Step config state none { state with stop_event := false, place := .looping }
  | stop {state} : Step config state none { state with stop_event := true }
  | stop_close {state} : Step config state none state.release
  | close {state} (sock : Sock) (given : sock ∈ state.closing) :
      Step config state none { state with closed := sock :: state.closed }
  -- the loop of the sender thread
  | leave {state} (here : state.place = .looping) (set : state.stop_event = true) :
      Step config state none { state with place := .finishing }
  | enter {state} (here : state.place = .looping) (clear : state.stop_event = false) :
      Step config state none { state with place := .ensure_connected }
  | reuse {state sock} (here : state.place = .ensure_connected) (current : state.sock = some sock) :
      Step config state none { state with place := .drain_initial_frames sock }
  | create {state} (here : state.place = .ensure_connected) (disconnected : state.sock = none) :
      Step config state none { state with place := .connecting state.opened, opened := state.opened + 1 }
  | refused {state sock} (here : state.place = .connecting sock) :
      Step config state none { state.release with place := .looping, closing := state.release.closing ++ [sock] }
  | accepted {state sock} (here : state.place = .connecting sock) :
      Step config state none { state with place := .connected sock }
  | unwanted {state sock} (here : state.place = .connected sock) (set : state.stop_event = true) :
      Step config state none { state with place := .looping, closing := state.closing ++ [sock] }
  | publish {state sock} (here : state.place = .connected sock) (clear : state.stop_event = false) :
      Step config state none { state with sock := some sock, place := .drain_initial_frames sock }
  | drained {state sock frames queue} (here : state.place = .drain_initial_frames sock)
      (taken : drain (some config.max_batch_bytes) state.queue = (frames, queue)) (nonempty : frames ≠ []) :
      Step config state (some (.dequeued frames)) (state.dequeue frames queue (.flush_wait sock frames))
  | nothing_fits {state sock queue} (here : state.place = .drain_initial_frames sock)
      (taken : drain (some config.max_batch_bytes) state.queue = ([], queue)) :
      Step config state none { state with place := .try_dequeue sock }
  | dequeued {state sock frame queue} (here : state.place = .try_dequeue sock) (waiting : state.queue = frame :: queue) :
      Step config state (some (.dequeued [frame])) (state.dequeue [frame] queue (.flush_wait sock [frame]))
  | idle {state sock} (here : state.place = .try_dequeue sock) (empty : state.queue = []) :
      Step config state none { state with place := .looping }
  | interrupted {state sock frames} (here : state.place = .flush_wait sock frames) (set : state.stop_event = true) :
      Step config state none { state with place := .finishing }
  | flushed {state sock frames} (here : state.place = .flush_wait sock frames) (clear : state.stop_event = false) :
      Step config state none { state with place := .drain_more sock frames }
  | batched {state sock frames more queue} (here : state.place = .drain_more sock frames)
      (taken : more_frames config frames state.queue = (more, queue)) :
      Step config state (some (.dequeued more)) (state.dequeue more queue (.sending sock (frames ++ more).flatten 0))
  | sent {state sock batch sent_bytes} (here : state.place = .sending sock batch sent_bytes)
      (all : batch.length ≤ sent_bytes) : Step config state none { state with place := .looping }
  -- stopped, or past the deadline
  | give_up {state sock batch sent_bytes} (here : state.place = .sending sock batch sent_bytes)
      (unsent : sent_bytes < batch.length) : Step config state none { state with place := .close_socket sock }
  | attempt {state sock batch sent_bytes} (here : state.place = .sending sock batch sent_bytes)
      (unsent : sent_bytes < batch.length) (clear : state.stop_event = false) :
      Step config state none { state with place := .writing sock batch sent_bytes }
  -- `send` raised an OS error or sent nothing
  | failed {state sock batch sent_bytes} (here : state.place = .writing sock batch sent_bytes) :
      Step config state none { state with place := .close_socket sock }
  | wrote {state sock batch sent_bytes} (sent_now : Nat) (here : state.place = .writing sock batch sent_bytes)
      (positive : 0 < sent_now) (fits : sent_bytes + sent_now ≤ batch.length) (usable : sock ∉ state.closed) :
      Step config state (some (.wrote sock ((batch.drop sent_bytes).take sent_now)))
        { state with place := .sending sock batch (sent_bytes + sent_now) }
  | drop_socket {state sock} (here : state.place = .close_socket sock) :
      Step config state none { state with
        place := .looping
        sock := if state.sock = some sock then none else state.sock
        closing := state.closing ++ [sock] }
  -- any other exception in the loop
  | raised {state} (alive : state.place ≠ .stopped) : Step config state none { state with place := .finishing }
  | finish {state} (here : state.place = .finishing) :
      Step config state none { state.release with place := .stopped }

/-- The executions from an unused sender, with their traces. -/
inductive Execution (config : SenderConfig) : List Event → State → Prop where
  | start : Execution config [] initial
  | step {trace state event state'} (run : Execution config trace state) (step : Step config state event state') :
      Execution config (trace ++ event.toList) state'

/-! ### Traces -/

def Event.frames_in : Event → List Bytes
  | .captured frame => [frame]
  | _ => []
def Event.frames_out : Event → List Bytes
  | .dequeued frames => frames
  | _ => []
def Event.bytes_to (sock : Sock) : Event → Bytes
  | .wrote other bytes => if other = sock then bytes else []
  | _ => []

/-- The frames captured, in order. -/
def captured (trace : List Event) : List Bytes := trace.flatMap Event.frames_in
/-- The frames dequeued, in order. -/
def dequeued (trace : List Event) : List Bytes := trace.flatMap Event.frames_out
/-- The bytes that a socket accepted. -/
def written (trace : List Event) (sock : Sock) : Bytes := trace.flatMap (Event.bytes_to sock)

theorem drain_frames_split {max_bytes : Option Nat} {drained_bytes : Nat} {queue frames left : List Bytes}
    (taken : drain_frames max_bytes drained_bytes queue = (frames, left)) : queue = frames ++ left := by
  induction queue generalizing drained_bytes frames left with
  | nil =>
    cases taken
    rfl
  | cons next_frame queue ih =>
    unfold drain_frames at taken
    by_cases full : (max_bytes.any fun max_bytes => decide (max_bytes < drained_bytes + next_frame.length)) = true
    · rw [if_pos full] at taken
      cases taken
      rfl
    · rw [if_neg full] at taken
      cases later : drain_frames max_bytes (drained_bytes + next_frame.length) queue with
      | mk more rest =>
        rw [later] at taken
        cases taken
        rw [ih later]
        rfl

theorem more_frames_split {config : SenderConfig} {frames queue more left : List Bytes}
    (taken : more_frames config frames queue = (more, left)) : queue = more ++ left := by
  unfold more_frames at taken
  by_cases room : 0 < config.max_batch_bytes - (frames.map List.length).sum
  · rw [if_pos room] at taken
    exact drain_frames_split taken
  · rw [if_neg room] at taken
    cases taken
    rfl

end VectorSeam.Sender
