import VectorSeam.Reader

/-!
What a connection recovers from its stream. The loop reads the complete blobs one after
the other, from the first on, until it closes the connection; what it hands on and what
it counts follows from the fates of the blobs it read.
-/

namespace VectorSeam.ReaderStreams
open VectorSeam.LittleEndian VectorSeam.Frame VectorSeam.Cohort VectorSeam.Blobs VectorSeam.Reader

variable {config : ReaderConfig} {turn : Turn} {blob tail : Bytes} {blobs : List Bytes}

/-! ### What a connection has counted -/

/-- One connection has become another by the fates of the frames it has read. -/
structure Recovered (fates : List Fate) (before after : Connection) : Prop where
  sent : after.sent = before.sent ++ fates.filterMap Fate.event
  valid_frames_received : after.counters.valid_frames_received =
    before.counters.valid_frames_received + fates.countP Fate.stamped
  invalid_frames : after.counters.invalid_frames = before.counters.invalid_frames + fates.count .InvalidFrame
  invalid_names : after.counters.invalid_names = before.counters.invalid_names + fates.count .InvalidName
  memory_dropped_frames : after.counters.memory_dropped_frames =
    before.counters.memory_dropped_frames + fates.countP Fate.memory_dropped
  channel_dropped_frames : after.counters.channel_dropped_frames =
    before.counters.channel_dropped_frames + fates.countP Fate.channel_dropped
  pending_cohort_drops : after.counters.pending_cohort_drops = (fates.filterMap Fate.dropped).foldl
    (fun drops cohort => record_pending_cohort_drop cohort drops) before.counters.pending_cohort_drops

theorem Recovered.trans {fates later : List Fate} {before middle after : Connection}
    (first : Recovered fates before middle) (second : Recovered later middle after) :
    Recovered (fates ++ later) before after where
  sent := by rw [second.sent, first.sent, List.filterMap_append, List.append_assoc]
  valid_frames_received := by
    rw [second.valid_frames_received, first.valid_frames_received, List.countP_append, Nat.add_assoc]
  invalid_frames := by rw [second.invalid_frames, first.invalid_frames, List.count_append, Nat.add_assoc]
  invalid_names := by rw [second.invalid_names, first.invalid_names, List.count_append, Nat.add_assoc]
  memory_dropped_frames := by
    rw [second.memory_dropped_frames, first.memory_dropped_frames, List.countP_append, Nat.add_assoc]
  channel_dropped_frames := by
    rw [second.channel_dropped_frames, first.channel_dropped_frames, List.countP_append, Nat.add_assoc]
  pending_cohort_drops := by
    rw [second.pending_cohort_drops, first.pending_cohort_drops, List.filterMap_append, List.foldl_append]

/-- Nothing was received; other counters may have changed. -/
theorem Recovered.nothing {before after : Connection} (sent : after.sent = before.sent)
    (counters : { after.counters with
      frames_read := before.counters.frames_read
      oversized_frames := before.counters.oversized_frames
      connection_errors := before.counters.connection_errors
      idle_connection_timeouts := before.counters.idle_connection_timeouts } = before.counters) :
    Recovered [] before after := by
  rw [CollectorCounters.mk.injEq, DropCounters.mk.injEq] at counters
  obtain ⟨⟨channel, memory, pending⟩, -, valid, frames, names, -⟩ := counters
  exact ⟨by simp [sent], valid, frames, names, memory, channel, pending⟩

/-- The channel was found closed. -/
def closes (config : ReaderConfig) (turn : Turn) (blob : Bytes) : Bool :=
  (fate config turn blob).channel_dropped && decide (turn.try_send = .Closed)

theorem receive_frame_recovers (config : ReaderConfig) (turn : Turn) (frame : Bytes) (connection : Connection) :
    Recovered [fate config turn frame] connection (receive_frame config turn frame connection).1 ∧
      (receive_frame config turn frame connection).2 = !closes config turn frame ∧
      (receive_frame config turn frame connection).1.counters.oversized_frames = connection.counters.oversized_frames := by
  unfold receive_frame closes fate
  cases parsed : parse_frame_header frame with
  | error error => exact ⟨⟨(List.append_nil _).symm, rfl, rfl, rfl, rfl, rfl, rfl⟩, rfl, rfl⟩
  | ok header =>
    cases named : CohortName.new header.name with
    | error error =>
      simp only [named]
      exact ⟨⟨(List.append_nil _).symm, rfl, rfl, rfl, rfl, rfl, rfl⟩, rfl, trivial⟩
    | ok cohort =>
      simp only [named]
      cases now : turn.unix_micros_now with
      | none => exact ⟨⟨(List.append_nil _).symm, rfl, rfl, rfl, rfl, rfl, rfl⟩, rfl, rfl⟩
      | some receive_time =>
        by_cases full : config.live_memory_bytes < turn.used_bytes + (frame.length + 8)
        · simp only [try_reserve, full, ↓reduceIte]
          exact ⟨⟨(List.append_nil _).symm, rfl, rfl, rfl, rfl, rfl, rfl⟩, rfl, trivial⟩
        · simp only [try_reserve, full, ↓reduceIte]
          cases sent : turn.try_send with
          | Ok => exact ⟨by constructor <;> rfl, rfl, rfl⟩
          | Full => exact ⟨⟨(List.append_nil _).symm, rfl, rfl, rfl, rfl, rfl, rfl⟩, rfl, rfl⟩
          | Closed => exact ⟨⟨(List.append_nil _).symm, rfl, rfl, rfl, rfl, rfl, rfl⟩, rfl, rfl⟩

/-! ### One pass -/

/-- Neither read of the pass is cut short. -/
def Turn.Undisturbed (turn : Turn) : Prop := turn.length_read = none ∧ turn.body_read = none

theorem read_exact_there {front stream : Bytes} {wanted : Nat} (enough : front.length = wanted) :
    read_exact_or_shutdown (front ++ stream) wanted none = .Read front stream := by
  subst enough
  have some : ¬(front ++ stream).length < front.length := by
    rw [List.length_append]
    omega
  rw [read_exact_or_shutdown, if_neg some, List.take_left, List.drop_left]

theorem read_length {front : Bytes} (enough : 4 ≤ front.length) (after : Bytes) :
    read_exact_or_shutdown (front ++ after) 4 none = .Read (front.take 4) (front.drop 4 ++ after) := by
  have four : (front.take 4).length = 4 := by
    rw [List.length_take]
    omega
  rw [← read_exact_there four, ← List.append_assoc, List.take_append_drop]

theorem counted_frame (connection : Connection) : Recovered [] connection { connection with
    counters := { connection.counters with frames_read := connection.counters.frames_read + 1 } } :=
  Recovered.nothing rfl rfl

/-- A complete blob is read and received as one frame. -/
theorem read_blob (whole : Blob blob) (after : Bytes) (undisturbed : Turn.Undisturbed turn)
    (fits : blob.length ≤ config.max_frame_size) (connection : Connection) :
    ∃ later, read_frame config turn (blob ++ after) connection =
        (later, if closes config turn blob then none else some after) ∧
      Recovered [fate config turn blob] connection later ∧
      later.counters.oversized_frames = connection.counters.oversized_frames := by
  have total : from_le_bytes (blob.take 4) + 4 = blob.length := whole.2.symm
  have body : read_exact_or_shutdown (blob.drop 4 ++ after) (blob.length - 4) none = .Read (blob.drop 4) after :=
    read_exact_there List.length_drop
  obtain ⟨recovered, goesOn, same⟩ := receive_frame_recovers config turn blob { connection with
    counters := { connection.counters with frames_read := connection.counters.frames_read + 1 } }
  unfold read_frame
  rw [undisturbed.1, read_length whole.1, undisturbed.2]
  dsimp only
  rw [total, if_neg (Nat.not_lt.mpr fits), body]
  dsimp only
  rw [List.take_append_drop]
  cases received : receive_frame config turn blob { connection with
    counters := { connection.counters with frames_read := connection.counters.frames_read + 1 } } with
  | mk later resumed =>
    rw [received] at recovered goesOn same
    refine ⟨later, ?_, (counted_frame connection).trans recovered, same⟩
    change resumed = !closes config turn blob at goesOn
    rw [goesOn]
    cases closes config turn blob <;> rfl

/-- A blob that is too long ends the connection. -/
theorem read_oversized (whole : Blob blob) (after : Bytes) (reading : turn.length_read = none)
    (long : config.max_frame_size < blob.length) (connection : Connection) :
    ∃ later, read_frame config turn (blob ++ after) connection = (later, none) ∧ Recovered [] connection later ∧
      later.counters.oversized_frames = connection.counters.oversized_frames + 1 := by
  have total : from_le_bytes (blob.take 4) + 4 = blob.length := whole.2.symm
  unfold read_frame
  rw [reading, read_length whole.1]
  dsimp only
  rw [total, if_pos long]
  exact ⟨_, rfl, Recovered.nothing rfl rfl, rfl⟩

theorem read_ended_nothing (connection : Connection) (counters : CollectorCounters) (outcome : ReadOutcome)
    (same : Recovered [] connection { connection with counters }) :
    Recovered [] connection { connection with counters := read_ended counters outcome } := by
  refine same.trans (Recovered.nothing rfl ?_)
  cases outcome <;> rfl

/-- A pass that reads no complete frame ends the connection and receives nothing. -/
theorem read_cut_short {stream : Bytes} (short : ¬Turn.Undisturbed turn ∨ Unfinished stream) (config : ReaderConfig)
    (connection : Connection) : ∃ later, read_frame config turn stream connection = (later, none) ∧ Recovered [] connection later := by
  unfold read_frame
  cases length_read : turn.length_read with
  | some interruption =>
    cases interruption <;> exact ⟨_, rfl, read_ended_nothing _ _ _ (Recovered.nothing rfl rfl)⟩
  | none =>
    by_cases few : stream.length < 4
    · rw [read_exact_or_shutdown, if_pos few]
      exact ⟨_, rfl, read_ended_nothing _ _ _ (Recovered.nothing rfl rfl)⟩
    rw [read_exact_or_shutdown, if_neg few]
    dsimp only
    by_cases long : config.max_frame_size < from_le_bytes (stream.take 4) + 4
    · rw [if_pos long]
      exact ⟨_, rfl, Recovered.nothing rfl rfl⟩
    rw [if_neg long]
    cases body_read : turn.body_read with
    | some interruption => cases interruption <;> exact ⟨_, rfl, read_ended_nothing _ _ _ (counted_frame connection)⟩
    | none =>
      obtain unfinished | unfinished := short.resolve_left (not_not.mpr ⟨length_read, body_read⟩)
      · exact absurd unfinished few
      have missing : (stream.drop 4).length < from_le_bytes (stream.take 4) + 4 - 4 := by
        rw [declared] at unfinished
        rw [List.length_drop]
        omega
      rw [read_exact_or_shutdown, if_pos missing]
      exact ⟨_, rfl, read_ended_nothing _ _ _ (counted_frame connection)⟩

/-! ### Runs -/

/-- A blob is received and the loop goes on. -/
def Passes (config : ReaderConfig) (read : Bytes × Turn) : Prop :=
  Turn.Undisturbed read.2 ∧ read.1.length ≤ config.max_frame_size ∧ closes config read.2 read.1 = false

/-- A blob is received and the loop ends, as the channel is closed. -/
def PassesLast (config : ReaderConfig) (read : Bytes × Turn) : Prop :=
  Turn.Undisturbed read.2 ∧ read.1.length ≤ config.max_frame_size ∧ closes config read.2 read.1 = true

instance (turn : Turn) : Decidable (Turn.Undisturbed turn) :=
  decidable_of_iff (turn.length_read.isNone ∧ turn.body_read.isNone) (by simp [Turn.Undisturbed])
instance : DecidablePred (Passes config) := fun _ => inferInstanceAs (Decidable (_ ∧ _ ∧ _))
instance : DecidablePred (PassesLast config) := fun _ => inferInstanceAs (Decidable (_ ∧ _ ∧ _))

/-- The blobs that are received, each in its pass: those at the front that pass, and one that passes last. -/
def handled (config : ReaderConfig) (reads : List (Bytes × Turn)) : List (Bytes × Turn) :=
  reads.takeWhile (fun read => Passes config read) ++
    (reads.dropWhile fun read => Passes config read).head?.toList.filter fun read => PassesLast config read

/-- The blob at which the connection is closed is too long. -/
def Oversized (config : ReaderConfig) (reads : List (Bytes × Turn)) : Prop :=
  ∃ read, (reads.dropWhile fun read => Passes config read).head? = some read ∧ read.2.length_read = none ∧
    config.max_frame_size < read.1.length

theorem handled_cons (read : Bytes × Turn) (reads : List (Bytes × Turn)) : handled config (read :: reads) =
    if Passes config read then read :: handled config reads else if PassesLast config read then [read] else [] := by
  unfold handled
  by_cases passes : Passes config read
  · simp [passes]
  · by_cases last : PassesLast config read
    · simp [passes, last]
    · simp [passes, last]

/-- The loop receives its blobs in order up to the one at which it closes the connection. -/
theorem handle_connection_blobs (whole : ∀ blob ∈ blobs, Blob blob) (rest : Unfinished tail) (turns : List Turn)
    (connection : Connection) :
    ∃ later returned, handle_connection config turns (blobs.flatten ++ tail) connection = (later, returned) ∧
      Recovered ((handled config (blobs.zip turns)).map fun read => fate config read.2 read.1) connection later ∧
      (blobs.length < turns.length ∨ (∃ read ∈ blobs.zip turns, ¬Passes config read) → returned = true) ∧
      (Oversized config (blobs.zip turns) →
        later.counters.oversized_frames = connection.counters.oversized_frames + 1) := by
  induction blobs generalizing turns connection with
  | nil =>
    cases turns with
    | nil =>
      refine ⟨connection, false, rfl, Recovered.nothing rfl rfl, ?_, ?_⟩
      · rintro (more | ⟨read, member, _⟩)
        · exact absurd more (Nat.lt_irrefl _)
        · cases member
      · rintro ⟨read, found, _⟩
        cases found
    | cons turn turns =>
      obtain ⟨later, ended, nothing⟩ := read_cut_short (.inr rest) config connection
      refine ⟨later, true, ?_, nothing, fun _ => rfl, ?_⟩
      · rw [handle_connection, List.flatten_nil, List.nil_append, ended]
      · rintro ⟨read, found, _⟩
        cases found
  | cons blob blobs ih =>
    obtain ⟨own, others⟩ := List.forall_mem_cons.mp whole
    cases turns with
    | nil =>
      refine ⟨connection, false, rfl, Recovered.nothing rfl rfl, ?_, ?_⟩
      · rintro (more | ⟨read, member, _⟩)
        · cases more
        · cases member
      · rintro ⟨read, found, _⟩
        cases found
    | cons turn turns =>
      rw [List.flatten_cons, List.append_assoc, List.zip_cons_cons, handle_connection]
      by_cases passes : Passes config (blob, turn)
      · obtain ⟨undisturbed, fits, goesOn⟩ := passes
        obtain ⟨middle, pass, first, counted⟩ := read_blob own (blobs.flatten ++ tail) undisturbed fits
            connection
        change closes config turn blob = false at goesOn
        obtain ⟨later, returned, run, second, ended, oversized⟩ := ih others turns middle
        refine ⟨later, returned, ?_, ?_, ?_, ?_⟩
        · rw [pass, goesOn]
          exact run
        · rw [handled_cons, if_pos ⟨undisturbed, fits, goesOn⟩]
          exact first.trans second
        · rintro (more | ⟨read, member, stops⟩)
          · exact ended (.inl (Nat.lt_of_succ_lt_succ more))
          · rcases List.mem_cons.mp member with rfl | member
            · exact absurd ⟨undisturbed, fits, goesOn⟩ stops
            · exact ended (.inr ⟨read, member, stops⟩)
        · intro long
          rw [← counted]
          refine oversized ?_
          rw [Oversized, List.dropWhile_cons_of_pos (by simpa using ⟨undisturbed, fits, goesOn⟩)] at long
          exact long
      · have stopped : (List.dropWhile (fun read => decide (Passes config read)) ((blob, turn) :: blobs.zip turns)).head? =
            some (blob, turn) := by
          rw [List.dropWhile_cons_of_neg (by simpa using passes)]
          rfl
        by_cases last : PassesLast config (blob, turn)
        · obtain ⟨undisturbed, fits, ends⟩ := last
          change closes config turn blob = true at ends
          obtain ⟨later, pass, first, counted⟩ := read_blob own (blobs.flatten ++ tail) undisturbed fits
            connection
          refine ⟨later, true, ?_, ?_, fun _ => rfl, ?_⟩
          · rw [pass, ends]
            rfl
          · rw [handled_cons, if_neg passes, if_pos ⟨undisturbed, fits, ends⟩]
            exact first
          · rintro ⟨read, found, _, long⟩
            rw [stopped] at found
            cases found
            exact absurd fits (Nat.not_le.mpr long)
        · rw [handled_cons, if_neg passes, if_neg last]
          by_cases long : turn.length_read = none ∧ config.max_frame_size < blob.length
          · obtain ⟨later, pass, nothing, counted⟩ := read_oversized own (blobs.flatten ++ tail) long.1 long.2
              connection
            exact ⟨later, true, by rw [pass], nothing, fun _ => rfl, fun _ => counted⟩
          · have disturbed : ¬Turn.Undisturbed turn := by
              intro undisturbed
              have fits : blob.length ≤ config.max_frame_size := Nat.not_lt.mp fun large => long ⟨undisturbed.1, large⟩
              cases ends : closes config turn blob with
              | false => exact passes ⟨undisturbed, fits, ends⟩
              | true => exact last ⟨undisturbed, fits, ends⟩
            obtain ⟨later, pass, nothing⟩ := read_cut_short (.inl disturbed) config connection
            refine ⟨later, true, by rw [pass], nothing, fun _ => rfl, ?_⟩
            rintro ⟨read, found, reading, large⟩
            rw [stopped] at found
            cases found
            exact absurd ⟨reading, large⟩ long

end VectorSeam.ReaderStreams
