import VectorSeam.SenderStreams
import VectorSeam.ReaderStreams

/-!
From the sender to the collector. Whatever happens to the sender, each of its sockets
carries complete frames and at most one cut off at the end; wherever such a stream ends,
the collector's loop reads its complete frames one by one and nothing else.
-/

namespace VectorSeam.ByteStreams
open VectorSeam.LittleEndian VectorSeam.Frame VectorSeam.FrameLayout VectorSeam.Cohort VectorSeam.Blobs VectorSeam.SdkFrames
open VectorSeam.Sender VectorSeam.SenderStreams VectorSeam.Reader VectorSeam.ReaderStreams

/-! ### Frames as blobs -/

theorem framed_blob {frame vector : Bytes} {header : FrameHeader} (framed : Framed frame header vector) : Blob frame := by
  have long := framed.length_min
  rw [FIXED_FRAME_HEADER_LEN] at long
  have whole : frame.take 4 = (frame.drop 0).take 4 := rfl
  have read := framed.reads.frame_len
  rw [read_le, read_exact, if_pos (by omega), ← whole] at read
  have declares : from_le_bytes (frame.take 4) = header.frame_len := Option.some.inj read
  refine ⟨by omega, ?_⟩
  rw [declared, declares, framed.length, FRAME_LEN_FIELD_LEN, Nat.add_comm]

theorem encoded_blob {name : String} {dtype : DType} {dimension : Int} {vector frame : Bytes}
    (encoded : encode_vector_frame name dtype dimension vector = .ok frame) : Blob frame := by
  obtain ⟨header, framed, _⟩ := encoded_framed encoded
  exact framed_blob framed

theorem dequeued_blob {config : SenderConfig} {trace : List Event} {state : State} (run : Execution config trace state)
    {frame : Bytes} (member : frame ∈ dequeued trace) : Blob frame := by
  have captured : frame ∈ captured trace := by
    rw [captured_split run]
    exact List.mem_append_left _ member
  obtain ⟨name, dtype, dimension, vector, encoded⟩ := captured_encoded run captured
  exact encoded_blob encoded

/-- What is cut off on a socket is no blob. -/
theorem carried_reading {settlement : Settlement} {frames : List Bytes} (fair : settlement.Fair frames frames.length)
    (whole : ∀ frame ∈ frames, Blob frame) (sock : Sock) :
    ∃ tail, settlement.carried frames sock = (settlement.frames frames sock).flatten ++ tail ∧ Unfinished tail ∧
      ∀ frame ∈ settlement.frames frames sock, Blob frame := by
  have blob : ∀ number ∈ settlement.touched sock, Blob (frames.getD number []) := by
    intro number member
    have inside := fair.below sock number member
    rw [List.getD_eq_getElem?_getD, List.getElem?_eq_getElem inside]
    exact whole _ (List.getElem_mem inside)
  refine ⟨(settlement.cut sock).toList.flatMap Prod.snd, ?_, ?_, ?_⟩
  · rw [Settlement.carried, Settlement.frames, List.flatMap_def]
  · cases cut : settlement.cut sock with
    | none => exact unfinished_nil
    | some entry =>
      obtain ⟨number, bytes⟩ := entry
      obtain ⟨leads, short⟩ := fair.proper sock number bytes cut
      have own := blob number (by simp [Settlement.touched, cut])
      have stopped := own.unfinished_take short
      rw [← List.prefix_iff_eq_take.mp leads] at stopped
      simpa using stopped
  · intro frame member
    obtain ⟨number, found, rfl⟩ := List.mem_map.mp member
    exact blob number (List.mem_append_left _ found)

/-! ### The stream of a socket -/

/-- The loop receives so many blobs of a stream as it handles, whatever it meets in its passes. -/
def Recovers (config : ReaderConfig) (stream : Bytes) (blobs : List Bytes) : Prop :=
  ∀ (turns : List Turn) (connection : Connection),
    ∃ later returned, handle_connection config turns stream connection = (later, returned) ∧
      Recovered ((handled config (blobs.zip turns)).map fun read => fate config read.2 read.1) connection later ∧
      (blobs.length < turns.length ∨ (∃ read ∈ blobs.zip turns, ¬Passes config read) → returned = true) ∧
      (Oversized config (blobs.zip turns) →
        later.counters.oversized_frames = connection.counters.oversized_frames + 1)

theorem handled_all {config : ReaderConfig} {reads : List (Bytes × Turn)} (pass : ∀ read ∈ reads, Passes config read) :
    handled config reads = reads := by
  induction reads with
  | nil => rfl
  | cons read reads ih =>
    obtain ⟨own, others⟩ := List.forall_mem_cons.mp pass
    rw [handled_cons, if_pos own, ih others]

/-- No socket of the sender is ever out of step, and the collector recovers what it carries. -/
theorem streams_recovered :
    (∀ (config : SenderConfig) (trace : List Event) (state : State), Execution config trace state →
      captured trace = dequeued trace ++ state.queue ∧
      ∃ settlement : Settlement, settlement.Fair (dequeued trace) (dequeued trace).length ∧
        ∀ sock, written trace sock = settlement.carried (dequeued trace) sock ∧
          (∀ frame ∈ settlement.frames (dequeued trace) sock, Blob frame) ∧
          ∀ count, ∃ complete tail, (written trace sock).take count =
              ((settlement.frames (dequeued trace) sock).take complete).flatten ++ tail ∧ Unfinished tail ∧
            ∀ reader, Recovers reader ((written trace sock).take count)
              ((settlement.frames (dequeued trace) sock).take complete)) ∧
    (∀ (reader : ReaderConfig) (blobs : List Bytes) (tail : Bytes), (∀ blob ∈ blobs, Blob blob) → Unfinished tail →
      Recovers reader (blobs.flatten ++ tail) blobs) ∧
    (∀ (reader : ReaderConfig) (reads : List (Bytes × Turn)), (∀ read ∈ reads, Passes reader read) →
      handled reader reads = reads) ∧
    ∀ (reader : ReaderConfig) (turn : Turn) (frame : Bytes) (event : FrameEvent),
      fate reader turn frame = .HandedOn event ↔
        (∃ header, parse_frame_header frame = .ok header ∧ CohortName.new header.name = .ok event.cohort) ∧
          turn.unix_micros_now = some event.receive_time ∧
          turn.used_bytes + (frame.length + 8) ≤ reader.live_memory_bytes ∧ turn.try_send = .Ok ∧
          event.frame = frame ∧ event.memory = frame.length + 8 := by
  have recovers : ∀ (reader : ReaderConfig) (blobs : List Bytes) (tail : Bytes), (∀ blob ∈ blobs, Blob blob) →
      Unfinished tail → Recovers reader (blobs.flatten ++ tail) blobs :=
    fun reader blobs tail whole rest turns connection => handle_connection_blobs whole rest turns connection
  refine ⟨fun config trace state run => ⟨captured_split run, ?_⟩, recovers, fun reader reads => handled_all,
    fun reader turn frame event => fate_handed_on⟩
  obtain ⟨settlement, fair, settled⟩ := written_settled run
  refine ⟨settlement, fair, fun sock => ?_⟩
  obtain ⟨tail, split, rest, blobs⟩ := carried_reading fair (fun frame => dequeued_blob run) sock
  refine ⟨settled sock, blobs, fun count => ?_⟩
  obtain ⟨complete, tail', cut, unfinished⟩ := take_reading blobs rest count
  rw [settled sock, split, cut]
  exact ⟨complete, tail', rfl, unfinished, fun reader =>
    recovers reader _ tail' (fun blob member => blobs blob (List.mem_of_mem_take member)) unfinished⟩

/-! ### Two frames -/

/-- A sender with room for two frames sends them as one batch. -/
theorem two_frames_sent {first second : Bytes}
    (encoded : ∃ name dtype dimension vector, encode_vector_frame name dtype dimension vector = .ok first)
    (encodedToo : ∃ name dtype dimension vector, encode_vector_frame name dtype dimension vector = .ok second) :
    ∃ config trace state, Execution config trace state ∧ dequeued trace = [first, second] ∧
      written trace 0 = first ++ second := by
  obtain ⟨name, dtype, dimension, vector, encoded⟩ := encoded
  obtain ⟨name', dtype', dimension', vector', encodedToo⟩ := encodedToo
  let config : SenderConfig := ⟨first.length + second.length, first.length + second.length⟩
  have positive : 0 < (first ++ second).length := by
    rw [List.length_append]
    have long := (encoded_blob encoded).1
    omega
  have all : drain (some config.max_batch_bytes) [first, second] = ([first, second], []) := by
    simp [drain, drain_frames, config]
  have nothing : more_frames config [first, second] [] = ([], []) := by
    simp [more_frames, config]
  have batch : ([first, second] ++ []).flatten = first ++ second := by simp
  -- with both frames in the queue, and then on their way
  let full (sock : Option Sock) (opened : Nat) (place : Place) : State :=
    ⟨[first, second], 0 + first.length + second.length, false, sock, place, opened, [], []⟩
  let taken (place : Place) : State := (full (some 0) 1 .looping).dequeue [first, second] [] place
  have room : 0 + first.length ≤ config.max_queue_bytes := by
    change 0 + first.length ≤ first.length + second.length
    omega
  have roomToo : 0 + first.length + second.length ≤ config.max_queue_bytes := by
    change 0 + first.length + second.length ≤ first.length + second.length
    omega
  have once : Execution config [.captured first] ⟨[first], 0 + first.length, false, none, .stopped, 0, [], []⟩ :=
    Execution.start.step (.capture_vector encoded room)
  have captures : Execution config [.captured first, .captured second] (full none 0 .stopped) :=
    once.step (.capture_vector encodedToo roomToo)
  have started : Execution config [.captured first, .captured second] (full none 0 .ensure_connected) :=
    (captures.step (.start rfl)).step (.enter rfl rfl)
  have connected : Execution config [.captured first, .captured second] (full (some 0) 1 (.drain_initial_frames 0)) :=
    ((started.step (.create rfl rfl)).step (.accepted rfl)).step (.publish rfl rfl)
  have drained : Execution config [.captured first, .captured second, .dequeued [first, second]]
      (taken (.drain_more 0 [first, second])) :=
    (connected.step (.drained rfl all (by simp))).step (.flushed rfl rfl)
  have batched := drained.step (.batched rfl nothing)
  rw [batch] at batched
  have sent := (batched.step (.attempt rfl positive rfl)).step
    (.wrote (first ++ second).length rfl positive (by omega) (List.not_mem_nil))
  refine ⟨config, _, _, sent, ?_, ?_⟩
  · simp [dequeued, Event.frames_out]
  · simp [written, Event.bytes_to]

/-- A frame of so many bytes, with what the collector makes of it. -/
theorem byte_frame {count : Nat} (positive : 0 < count) (small : count < 2 ^ 31) : ∃ frame header cohort,
    encode_vector_frame "a" .U8 count (List.replicate count 7) = .ok frame ∧ frame.length = 29 + count ∧
      parse_frame_header frame = .ok header ∧ CohortName.new header.name = .ok cohort := by
  have grammar : SdkNames.Grammar "a" := SdkNames.validate_cohort_name_iff.mp (by decide)
  have name : (utf8 "a").length = 1 := by decide
  have encoded : encode_vector_frame "a" .U8 count (List.replicate count 7) =
      .ok (frame_bytes DType.U8.value count (utf8 "a") (List.replicate count 7)) := by
    refine encode_vector_frame_ok.mpr ⟨grammar, by omega, by omega, ?_, ?_, rfl⟩
    · rw [List.length_replicate]
      exact (mul_one _).symm
    · rw [name, List.length_replicate, FIXED_FRAME_HEADER_LEN]
      omega
  obtain ⟨header, framed, named, _⟩ := encoded_framed encoded
  have valid := SdkNames.validate_cohort_name_iff.mpr grammar
  refine ⟨_, header, ⟨"a", valid⟩, encoded, ?_, parse_frame_header_iff.mpr ⟨_, framed⟩, ?_⟩
  · rw [length_frame_bytes, name, List.length_replicate, FIXED_FRAME_HEADER_LEN]
  · rw [named]
    exact CohortName.new_name ⟨"a", valid⟩

/-- Two frames sent as one batch, and the second of them handed on from a stream that breaks off behind it. -/
theorem small_batch_recovered : ∃ config trace state first second, Execution config trace state ∧
    dequeued trace = [first, second] ∧ written trace 0 = first ++ second ∧
      (∃ settlement : Settlement, settlement.Fair (dequeued trace) 2 ∧
        written trace 0 = settlement.carried (dequeued trace) 0) ∧
      (∀ reader, Recovers reader ([first, second].flatten ++ [1, 2, 3]) [first, second]) ∧
      handled ⟨40, 1000⟩ [(second, ⟨none, none, some 5, 0, .Ok⟩)] = [(second, ⟨none, none, some 5, 0, .Ok⟩)] := by
  obtain ⟨first, _, _, encoded, size, _⟩ := byte_frame (show 0 < 9 by decide) (by decide)
  obtain ⟨second, header, cohort, encodedToo, sizeToo, parsed, named⟩ := byte_frame (show 0 < 1 by decide) (by decide)
  obtain ⟨config, trace, state, run, out, sent⟩ := two_frames_sent ⟨_, _, _, _, encoded⟩ ⟨_, _, _, _, encodedToo⟩
  obtain ⟨senders, streams, passing, _⟩ := streams_recovered
  obtain ⟨_, settlement, fair, settled⟩ := senders config trace state run
  have blobs : ∀ frame ∈ [first, second], Blob frame := by
    simp only [List.forall_mem_cons, List.not_mem_nil, false_imp_iff, implies_true, and_true]
    exact ⟨encoded_blob encoded, encoded_blob encodedToo⟩
  have passes : ∀ read ∈ [(second, (⟨none, none, some 5, 0, .Ok⟩ : Turn))], Passes ⟨40, 1000⟩ read := by
    intro read member
    obtain rfl := List.mem_singleton.mp member
    have fits : second.length ≤ 40 := by
      rw [sizeToo]
      decide
    exact ⟨⟨rfl, rfl⟩, fits, Bool.and_false _⟩
  refine ⟨config, trace, state, first, second, run, out, sent, ⟨settlement, ?_, (settled 0).1⟩, fun reader => ?_, ?_⟩
  · rw [out] at fair ⊢
    exact fair
  · exact streams reader _ _ blobs (.inl (by decide))
  · exact passing _ _ passes

/-- A longer frame than the collector takes closes the connection, and the frame behind it is lost. -/
theorem oversized_frame_disconnects : ¬∀ (config : SenderConfig) (trace : List Event) (state : State),
    Execution config trace state → ∀ frames : List Bytes, written trace 0 = frames.flatten →
      (∀ frame ∈ frames, Blob frame) → ∀ (reader : ReaderConfig) (turns : List Turn) (connection : Connection),
        (∀ turn ∈ turns, Turn.Undisturbed turn) → frames.length < turns.length →
          (handle_connection reader turns (written trace 0) connection).1.sent =
            connection.sent ++ (frames.zip turns).filterMap fun read => (fate reader read.2 read.1).event := by
  intro recovered
  obtain ⟨large, _, _, encodedLarge, sizeLarge, _⟩ := byte_frame (show 0 < 9 by decide) (by decide)
  obtain ⟨small, header, cohort, encoded, size, parsed, named⟩ := byte_frame (show 0 < 1 by decide) (by decide)
  obtain ⟨config, trace, state, run, _, sent⟩ := two_frames_sent ⟨_, _, _, _, encodedLarge⟩ ⟨_, _, _, _, encoded⟩
  let reader : ReaderConfig := ⟨35, 1000⟩
  let turn : Turn := ⟨none, none, some 5, 0, .Ok⟩
  let connection : Connection := ⟨⟨⟨0, 0, ∅⟩, 0, 0, 0, 0, 0, 0, 0⟩, []⟩
  let event : FrameEvent := ⟨cohort, 5, small, small.length + 8⟩
  have stream : written trace 0 = [large, small].flatten := by
    rw [sent]
    simp
  have blobs : ∀ frame ∈ [large, small], Blob frame := by
    simp only [List.forall_mem_cons, List.not_mem_nil, false_imp_iff, implies_true, and_true]
    exact ⟨encoded_blob encodedLarge, encoded_blob encoded⟩
  have undisturbed : ∀ each ∈ [turn, turn, turn], Turn.Undisturbed each := by
    intro each member
    obtain rfl : each = turn := by simpa using member
    exact ⟨rfl, rfl⟩
  have handed := recovered config trace state run _ stream blobs reader [turn, turn, turn] connection undisturbed
    (Nat.lt_succ_self 2)
  have taken : fate reader turn small = .HandedOn event :=
    fate_handed_on.mpr ⟨⟨header, parsed, named⟩, rfl, by rw [size]; decide, rfl, rfl, rfl⟩
  have long : reader.max_frame_size < large.length := by
    rw [sizeLarge]
    decide
  obtain ⟨later, closed, nothing, _⟩ := read_oversized (encoded_blob encodedLarge) small (show turn.length_read = none from rfl)
    long connection
  rw [sent, handle_connection, closed] at handed
  have expected : event ∈ later.sent := by
    rw [handed]
    refine List.mem_append_right _ (List.mem_filterMap.mpr ⟨(small, turn), by simp, ?_⟩)
    rw [taken]
    rfl
  rw [nothing.sent] at expected
  cases expected

end VectorSeam.ByteStreams
