import VectorSeam.Sender

/-!
The capture queue of the SDK. Any number of threads capture vectors and take frames out;
sampling and encoding happen outside the lock, each critical section is one step. The
queue keeps its byte count exact, stays within its capacity and loses no frame.
-/

namespace VectorSeam.CaptureQueue
open VectorSeam.LittleEndian VectorSeam.SdkFrames VectorSeam.SdkNames

inductive CaptureResult where
  | ENQUEUED
  | NOT_SAMPLED
  | QUEUE_FULL
deriving DecidableEq

/-- The capacity that the constructor accepts. -/
structure Capacity where
  max_queue_bytes : Int
  positive : 0 < max_queue_bytes

structure Producer where
  queue : List Bytes
  queued_bytes : Int

/-- The total length of frames. -/
def total (frames : List Bytes) : Nat := (frames.map List.length).sum

namespace Producer

def empty : Producer := { queue := [], queued_bytes := 0 }

/-- The critical section of `capture_vector`. -/
def enqueue (producer : Producer) (capacity : Capacity) (frame : Bytes) : Producer × CaptureResult :=
  if capacity.max_queue_bytes < producer.queued_bytes + frame.length then (producer, .QUEUE_FULL)
  else ({ queue := producer.queue ++ [frame], queued_bytes := producer.queued_bytes + frame.length }, .ENQUEUED)

def try_dequeue (producer : Producer) : Producer × Option Bytes :=
  match producer.queue with
  | [] => (producer, none)
  | frame :: queue => ({ queue, queued_bytes := producer.queued_bytes - frame.length }, some frame)

/-- The loop of `drain`: what is left of the producer, and the frames taken. -/
def drain_loop (max_bytes : Option Int) (drained_bytes queued_bytes : Int) : List Bytes → Producer × List Bytes
  | [] => ({ queue := [], queued_bytes }, [])
  | next_frame :: queue =>
    if max_bytes.any fun max_bytes => max_bytes < drained_bytes + next_frame.length then
      ({ queue := next_frame :: queue, queued_bytes }, [])
    else
      let (producer, frames) :=
        drain_loop max_bytes (drained_bytes + next_frame.length) (queued_bytes - next_frame.length) queue
      (producer, next_frame :: frames)

/-- The frames taken within the budget, if it is one. -/
def drain (producer : Producer) (max_bytes : Option Int) : Option (Producer × List Bytes) :=
  if max_bytes.any fun max_bytes => max_bytes < 0 then none
  else some (drain_loop max_bytes 0 producer.queued_bytes producer.queue)

end Producer

/-! ### Threads -/

abbrev Thread := Nat

/-- Where a thread stands in `capture_vector`. -/
inductive Call where
  | idle
  | sampled (name : String) (dtype : DType) (dimension : Int) (vector : Bytes)
  | encoded (frame : Bytes)

structure State where
  producer : Producer
  calls : Thread → Call

def initial : State := { producer := .empty, calls := fun _ => .idle }

/-- What a call returns or raises. -/
inductive Event where
  | not_sampled
  | rejected (error : EncodeError)
  | captured (frame : Bytes) (result : CaptureResult)
  | dequeued (frame : Option Bytes)
  | drained (max_bytes : Option Int) (frames : List Bytes)
  /-- `drain` was called with a negative budget. -/
  | refused (max_bytes : Option Int)

def State.turn (state : State) (thread : Thread) (call : Call) : State :=
  { state with calls := Function.update state.calls thread call }

/-- One step of one thread. -/
inductive Step (capacity : Capacity) : State → Option Event → State → Prop where
  | not_sampled {state} (thread : Thread) (idle : state.calls thread = .idle) :
      Step capacity state (some .not_sampled) state
  | sampled {state} (thread : Thread) (name : String) (dtype : DType) (dimension : Int) (vector : Bytes)
      (idle : state.calls thread = .idle) :
      Step capacity state none (state.turn thread (.sampled name dtype dimension vector))
  | rejected {state name dtype dimension vector error} (thread : Thread)
      (here : state.calls thread = .sampled name dtype dimension vector)
      (failed : encode_vector_frame name dtype dimension vector = .error error) :
      Step capacity state (some (.rejected error)) (state.turn thread .idle)
  | encoded {state name dtype dimension vector frame} (thread : Thread)
      (here : state.calls thread = .sampled name dtype dimension vector)
      (made : encode_vector_frame name dtype dimension vector = .ok frame) :
      Step capacity state none (state.turn thread (.encoded frame))
  | captured {state frame producer result} (thread : Thread) (here : state.calls thread = .encoded frame)
      (section_done : state.producer.enqueue capacity frame = (producer, result)) :
      Step capacity state (some (.captured frame result)) ({ state with producer }.turn thread .idle)
  | dequeued {state producer frame} (thread : Thread) (idle : state.calls thread = .idle)
      (section_done : state.producer.try_dequeue = (producer, frame)) :
      Step capacity state (some (.dequeued frame)) { state with producer }
  | drained {state producer max_bytes frames} (thread : Thread) (idle : state.calls thread = .idle)
      (section_done : state.producer.drain max_bytes = some (producer, frames)) :
      Step capacity state (some (.drained max_bytes frames)) { state with producer }
  | refused {state max_bytes} (thread : Thread) (idle : state.calls thread = .idle)
      (negative : state.producer.drain max_bytes = none) : Step capacity state (some (.refused max_bytes)) state

/-- The executions from an empty queue, with what their calls returned. -/
inductive Execution (capacity : Capacity) : List Event → State → Prop where
  | start : Execution capacity [] initial
  | step {trace state event state'} (run : Execution capacity trace state) (step : Step capacity state event state') :
      Execution capacity (trace ++ event.toList) state'

/-- The frame that a call reported as enqueued. -/
def Event.enqueued : Event → List Bytes
  | .captured frame .ENQUEUED => [frame]
  | _ => []
/-- The frames that a call returned. -/
def Event.returned : Event → List Bytes
  | .dequeued frame => frame.toList
  | .drained _ frames => frames
  | _ => []

/-! ### Critical sections -/

@[simp] theorem total_nil : total [] = 0 := rfl
@[simp] theorem total_cons (frame : Bytes) (frames : List Bytes) : total (frame :: frames) = frame.length + total frames := by
  simp [total]
@[simp] theorem total_append (left right : List Bytes) : total (left ++ right) = total left + total right := by
  simp [total]

/-- The counter counts the bytes of the queue, and they fit. -/
structure Exact (capacity : Capacity) (producer : Producer) : Prop where
  counted : producer.queued_bytes = total producer.queue
  fits : producer.queued_bytes ≤ capacity.max_queue_bytes

variable {capacity : Capacity} {producer producer' : Producer}

theorem exact_empty : Exact capacity .empty := ⟨rfl, capacity.positive.le⟩

theorem enqueue_cases {frame : Bytes} {result : CaptureResult}
    (done : producer.enqueue capacity frame = (producer', result)) :
    result = .QUEUE_FULL ∧ producer' = producer ∧ capacity.max_queue_bytes < producer.queued_bytes + frame.length ∨
      result = .ENQUEUED ∧ producer'.queue = producer.queue ++ [frame] ∧
        producer'.queued_bytes = producer.queued_bytes + frame.length ∧
        producer.queued_bytes + frame.length ≤ capacity.max_queue_bytes := by
  unfold Producer.enqueue at done
  by_cases full : capacity.max_queue_bytes < producer.queued_bytes + frame.length
  · rw [if_pos full] at done
    obtain ⟨rfl, rfl⟩ := Prod.mk.inj done
    exact .inl ⟨rfl, rfl, full⟩
  · rw [if_neg full] at done
    obtain ⟨rfl, rfl⟩ := Prod.mk.inj done
    exact .inr ⟨rfl, rfl, rfl, not_lt.mp full⟩

theorem try_dequeue_takes {frame : Option Bytes} (done : producer.try_dequeue = (producer', frame)) :
    producer.queue = frame.toList ++ producer'.queue ∧
      producer'.queued_bytes = producer.queued_bytes - total frame.toList := by
  unfold Producer.try_dequeue at done
  cases waiting : producer.queue with
  | nil =>
    rw [waiting] at done
    obtain ⟨rfl, rfl⟩ := Prod.mk.inj done
    exact ⟨waiting.symm, by simp⟩
  | cons first queue =>
    rw [waiting] at done
    obtain ⟨rfl, rfl⟩ := Prod.mk.inj done
    exact ⟨rfl, by simp⟩

/-- The loop splits the queue, and no longer prefix fits the budget. -/
theorem drain_loop_takes {max_bytes : Option Int} {drained_bytes queued_bytes : Int} {queue frames : List Bytes}
    (done : Producer.drain_loop max_bytes drained_bytes queued_bytes queue = (producer', frames)) :
    queue = frames ++ producer'.queue ∧ producer'.queued_bytes = queued_bytes - total frames ∧
      (∀ budget, max_bytes = some budget → drained_bytes ≤ budget → drained_bytes + total frames ≤ budget) ∧
      ∀ longer, longer <+: queue → (∀ budget, max_bytes = some budget → drained_bytes + total longer ≤ budget) →
        longer <+: frames := by
  induction queue generalizing drained_bytes queued_bytes producer' frames with
  | nil =>
    obtain ⟨rfl, rfl⟩ := Prod.mk.inj done
    refine ⟨rfl, by simp, fun budget _ within => by simpa using within, fun longer leads _ => leads⟩
  | cons next_frame queue ih =>
    unfold Producer.drain_loop at done
    by_cases full : max_bytes.any fun max_bytes => decide (max_bytes < drained_bytes + next_frame.length)
    · rw [if_pos full] at done
      obtain ⟨rfl, rfl⟩ := Prod.mk.inj done
      refine ⟨rfl, by simp, fun budget _ within => by simpa using within, fun longer leads fits => ?_⟩
      -- The first frame alone is too long.
      obtain ⟨budget, given, beyond⟩ := (Option.any_eq_true _ _).mp full
      cases longer with
      | nil => exact List.prefix_rfl
      | cons first rest =>
        obtain ⟨rfl, _⟩ := List.cons_prefix_cons.mp leads
        have within := fits budget given
        simp only [decide_eq_true_eq] at beyond
        rw [total_cons] at within
        omega
    · rw [if_neg full] at done
      cases rest : Producer.drain_loop max_bytes (drained_bytes + next_frame.length) (queued_bytes - next_frame.length)
          queue with
      | mk after taken =>
        rw [rest] at done
        obtain ⟨rfl, rfl⟩ := Prod.mk.inj done
        obtain ⟨split, counted, bounded, longest⟩ := ih rest
        refine ⟨by rw [split]; rfl, ?_, ?_, ?_⟩
        · rw [counted, total_cons]
          omega
        · intro budget given within
          subst given
          have fits : ¬budget < drained_bytes + next_frame.length := by simpa using full
          have tail := bounded budget rfl (by omega)
          rw [total_cons]
          omega
        · intro longer leads fits
          cases longer with
          | nil => exact List.nil_prefix
          | cons first others =>
            obtain ⟨rfl, behind⟩ := List.cons_prefix_cons.mp leads
            refine List.cons_prefix_cons.mpr ⟨rfl, longest others behind fun budget given => ?_⟩
            have within := fits budget given
            rw [total_cons] at within
            omega

theorem drain_takes {max_bytes : Option Int} {frames : List Bytes}
    (done : producer.drain max_bytes = some (producer', frames)) :
    producer.queue = frames ++ producer'.queue ∧ producer'.queued_bytes = producer.queued_bytes - total frames ∧
      (∀ budget, max_bytes = some budget → (total frames : Int) ≤ budget) ∧
      ∀ longer, longer <+: producer.queue → (∀ budget, max_bytes = some budget → (total longer : Int) ≤ budget) →
        longer <+: frames := by
  unfold Producer.drain at done
  by_cases negative : max_bytes.any fun max_bytes => decide (max_bytes < 0)
  · rw [if_pos negative] at done
    cases done
  · rw [if_neg negative] at done
    obtain ⟨split, counted, bounded, longest⟩ := drain_loop_takes (Option.some.inj done)
    refine ⟨split, counted, fun budget given => ?_, fun longer leads fits => longest longer leads fun budget given => ?_⟩
    · have nonneg : 0 ≤ budget := by
        subst given
        simpa using negative
      have within := bounded budget given nonneg
      omega
    · have within := fits budget given
      omega

/-- Taking frames off the front keeps the count. -/
theorem Exact.take (exact : Exact capacity producer) {frames : List Bytes}
    (split : producer.queue = frames ++ producer'.queue)
    (counted : producer'.queued_bytes = producer.queued_bytes - total frames) : Exact capacity producer' := by
  have whole := exact.counted
  have fits := exact.fits
  rw [split, total_append] at whole
  exact ⟨by omega, by omega⟩

/-! ### Executions -/

variable {trace : List Event} {state : State}

/-- The count is exact, and no frame is lost. -/
structure Kept (capacity : Capacity) (trace : List Event) (producer : Producer) : Prop where
  exact : Exact capacity producer
  queue : trace.flatMap Event.enqueued = trace.flatMap Event.returned ++ producer.queue

/-- A step that changes no queue and moves no frame. -/
theorem Kept.quiet (kept : Kept capacity trace producer) {event : Option Event}
    (ins : event.toList.flatMap Event.enqueued = []) (outs : event.toList.flatMap Event.returned = []) :
    Kept capacity (trace ++ event.toList) producer := by
  refine ⟨kept.exact, ?_⟩
  rw [List.flatMap_append, List.flatMap_append, ins, outs, List.append_nil, List.append_nil]
  exact kept.queue

theorem Kept.take (kept : Kept capacity trace producer) {event : Event} (ins : event.enqueued = [])
    (split : producer.queue = event.returned ++ producer'.queue)
    (counted : producer'.queued_bytes = producer.queued_bytes - total event.returned) :
    Kept capacity (trace ++ [event]) producer' := by
  refine ⟨kept.exact.take split counted, ?_⟩
  rw [List.flatMap_append, List.flatMap_append, List.flatMap_singleton, List.flatMap_singleton, ins, List.append_nil,
    kept.queue, split, List.append_assoc]

theorem kept_step {event : Option Event} {state' : State} (kept : Kept capacity trace state.producer)
    (step : Step capacity state event state') : Kept capacity (trace ++ event.toList) state'.producer := by
  cases step with
  | not_sampled => exact kept.quiet rfl rfl
  | sampled => exact kept.quiet rfl rfl
  | rejected => exact kept.quiet rfl rfl
  | encoded => exact kept.quiet rfl rfl
  | refused => exact kept.quiet rfl rfl
  | dequeued thread idle done =>
    obtain ⟨split, counted⟩ := try_dequeue_takes done
    exact kept.take rfl split counted
  | drained thread idle done =>
    obtain ⟨split, counted, _⟩ := drain_takes done
    exact kept.take rfl split counted
  | @captured frame producer result thread here done =>
    obtain ⟨rfl, rfl, _⟩ | ⟨rfl, queue, counted, fits⟩ := enqueue_cases done
    · exact kept.quiet rfl rfl
    · refine ⟨⟨?_, ?_⟩, ?_⟩
      · have whole := kept.exact.counted
        change producer.queued_bytes = total producer.queue
        rw [counted, queue, whole, total_append, total_cons, total_nil]
        omega
      · change producer.queued_bytes ≤ _
        rw [counted]
        exact fits
      · change _ = _ ++ producer.queue
        rw [queue, Option.toList_some, List.flatMap_append, List.flatMap_append, kept.queue]
        simp [Event.enqueued, Event.returned]

theorem execution_kept (run : Execution capacity trace state) : Kept capacity trace state.producer := by
  induction run with
  | start => exact ⟨exact_empty, rfl⟩
  | step run step ih => exact kept_step ih step

/-- The queue is an exact bounded first-in first-out queue under every interleaving. -/
theorem queue_exact (capacity : Capacity) :
    (∀ trace state, Execution capacity trace state →
      state.producer.queued_bytes = total state.producer.queue ∧
        state.producer.queued_bytes ≤ capacity.max_queue_bytes ∧
        trace.flatMap Event.enqueued = trace.flatMap Event.returned ++ state.producer.queue) ∧
    (∀ state event state', Step capacity state (some event) state' →
      (event = .not_sampled ∨ ∃ frame, event = .captured frame .QUEUE_FULL) → state'.producer = state.producer) ∧
    (∀ state max_bytes frames state', Step capacity state (some (.drained max_bytes frames)) state' →
      frames <+: state.producer.queue ∧
        (∀ budget, max_bytes = some budget → (total frames : Int) ≤ budget) ∧
        ∀ longer, longer <+: state.producer.queue →
          (∀ budget, max_bytes = some budget → (total longer : Int) ≤ budget) → longer <+: frames) := by
  refine ⟨fun trace state run => ?_, fun state event state' step unchanged => ?_,
    fun state max_bytes frames state' step => ?_⟩
  · have kept := execution_kept run
    exact ⟨kept.exact.counted, kept.exact.fits, kept.queue⟩
  · obtain rfl | ⟨frame, rfl⟩ := unchanged
    · cases step
      rfl
    · cases step with
      | captured thread here done =>
        obtain ⟨_, same, _⟩ | ⟨wrong, _⟩ := enqueue_cases done
        · exact same
        · cases wrong
  · cases step with
    | drained thread idle done =>
      obtain ⟨split, _, bounded, longest⟩ := drain_takes done
      exact ⟨⟨_, split.symm⟩, bounded, longest⟩

/-! ### A full queue -/

/-- A whole call of `capture_vector` by an idle thread. -/
theorem Execution.capture {capacity : Capacity} {trace : List Event} {state : State} {producer : Producer} {name : String}
    {dtype : DType} {dimension : Int} {vector frame : Bytes} {result : CaptureResult} (run : Execution capacity trace state)
    (thread : Thread) (idle : state.calls thread = .idle)
    (made : encode_vector_frame name dtype dimension vector = .ok frame)
    (done : state.producer.enqueue capacity frame = (producer, result)) :
    Execution capacity (trace ++ [.captured frame result]) { state with producer } := by
  have sampled := run.step (.sampled thread name dtype dimension vector idle)
  have encoded := sampled.step (.encoded thread (by simp [State.turn]) made)
  have captured := encoded.step (.captured thread (by simp [State.turn]) done)
  have again : Function.update state.calls thread .idle = state.calls := by rw [← idle, Function.update_eq_self]
  simpa [State.turn, Function.update_idem, again] using captured

/-- Two frames fill a queue of 70 bytes, a third is refused, and a drain of 45 bytes takes only the first one. -/
theorem cut_drain_exact : ∃ (capacity : Capacity) (first second third : Bytes) (trace : List Event) (waiting full state : State),
    trace = [.captured first .ENQUEUED, .captured second .ENQUEUED, .captured third .QUEUE_FULL, .drained (some 45) [first]] ∧
    Execution capacity trace state ∧ [first, second] = [first] ++ state.producer.queue ∧
    state.producer.queued_bytes = total state.producer.queue ∧ state.producer.queued_bytes = 30 ∧
    Step capacity waiting (some (.captured third .QUEUE_FULL)) full ∧ full.producer = waiting.producer ∧
    Step capacity full (some (.drained (some 45) [first])) state ∧ [first] <+: full.producer.queue ∧ (total [first] : Int) ≤ 45 := by
  let capacity : Capacity := ⟨70, by decide⟩
  have grammar : Grammar "a" := validate_cohort_name_iff.mp (by decide)
  have frames : ∀ value : UInt8, ∃ frame, encode_vector_frame "a" .U8 1 [value] = .ok frame ∧ frame.length = 30 := by
    intro value
    have short : Frame.FIXED_FRAME_HEADER_LEN - 4 + (utf8 "a").length + [value].length < 2 ^ 32 := by
      rw [List.length_singleton]
      decide
    exact ⟨_, encode_vector_frame_ok.mpr ⟨grammar, by decide, by decide, rfl, short, rfl⟩, rfl⟩
  obtain ⟨first, firstMade, firstSize⟩ := frames 7
  obtain ⟨second, secondMade, secondSize⟩ := frames 8
  obtain ⟨third, thirdMade, thirdSize⟩ := frames 9
  let half : Producer := ⟨[first], 30⟩
  let whole : Producer := ⟨[first, second], 60⟩
  have one : Producer.empty.enqueue capacity first = (half, .ENQUEUED) := by
    simp [Producer.enqueue, Producer.empty, capacity, half, firstSize]
  have two : half.enqueue capacity second = (whole, .ENQUEUED) := by
    simp [Producer.enqueue, capacity, half, whole, secondSize]
  have refused : whole.enqueue capacity third = (whole, .QUEUE_FULL) := by
    simp [Producer.enqueue, capacity, whole, thirdSize]
  have cut : whole.drain (some 45) = some (⟨[second], 30⟩, [first]) := by
    simp [Producer.drain, Producer.drain_loop, whole, firstSize, secondSize]
  have filled := ((Execution.start.capture 0 rfl firstMade one).capture 1 rfl secondMade two).capture 2 rfl thirdMade refused
  let waiting : State := ⟨whole, Function.update (fun _ => .idle) 2 (.encoded third)⟩
  have full : Step capacity waiting (some (.captured third .QUEUE_FULL)) ⟨whole, fun _ => .idle⟩ := by
    have captured : Step capacity waiting _ _ := .captured 2 (by simp [waiting]) refused
    have idle : Function.update (fun _ : Thread => Call.idle) 2 .idle = fun _ => .idle := Function.update_eq_self 2 _
    simpa [State.turn, waiting, Function.update_idem, idle] using captured
  have drained : Step capacity ⟨whole, fun _ => .idle⟩ (some (.drained (some 45) [first])) ⟨⟨[second], 30⟩, fun _ => .idle⟩ :=
    .drained 3 rfl cut
  obtain ⟨runs, unchanged, drains⟩ := queue_exact capacity
  obtain ⟨leads, fits, _⟩ := drains _ _ _ _ drained
  obtain ⟨counted, _, ordered⟩ := runs _ _ (filled.step drained)
  exact ⟨capacity, first, second, third, _, waiting, _, _, rfl, filled.step drained, ordered, counted, rfl, full,
    unchanged _ _ _ full (.inr ⟨third, rfl⟩), drained, leads, fits 45 rfl⟩

end VectorSeam.CaptureQueue
