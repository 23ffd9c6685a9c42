import VectorSeam.Budget
import VectorSeam.TornSegments

/-!
Every object that the collector hands to the store is an intact segment. The counts of a
state cover its records, window starts are whole windows or the last representable
second, and so the header of every part says what its segment holds.
-/

namespace VectorSeam.IntactParts
open VectorSeam.LittleEndian VectorSeam.Cohort VectorSeam.Window VectorSeam.Segments VectorSeam.Model VectorSeam.Reader
open VectorSeam.Writer VectorSeam.Tables VectorSeam.Machines VectorSeam.Collector VectorSeam.Transitions VectorSeam.Custody
open VectorSeam.Conservation VectorSeam.Budget VectorSeam.SegmentLayout VectorSeam.TornSegments VectorSeam.Occurrences

variable {limits : Limits} {config : WriterConfig} {shared shared' : Shared} {buffers buffers' : Buffers}
variable {journal journal' : Journal} {cohort : CohortName}

/-! ### Counts -/

/-- The count of a state covers its records, and has 64 bits. -/
def Covers (_ : CohortName) (state : CohortState) : Prop :=
  state.records.length ≤ state.received_frame_count ∧ state.received_frame_count ≤ U64_MAX

theorem saturating_add_le (left right : Nat) : saturating_add left right ≤ U64_MAX := Nat.min_le_right _ _

theorem le_saturating_add {least left right : Nat} (le : least ≤ left + right) (small : least ≤ U64_MAX) :
    least ≤ saturating_add left right := Nat.le_min.mpr ⟨le, small⟩

theorem covers_on_records : OnRecords Covers where
  uncounted _ state drops covers := by
    obtain ⟨counted, small⟩ := covers
    exact ⟨le_saturating_add (counted.trans (Nat.le_add_right _ _)) (counted.trans small), saturating_add_le _ _⟩
  empty _ := ⟨Nat.le_refl 0, Nat.zero_le _⟩

/-- Each record has at least the eight bytes of its receive time. -/
theorem length_le_stored {records : List BufferedRecord}
    (stamped : ∀ event ∈ records.map (event_of cohort), Stamped limits event) : records.length ≤ stored records := by
  induction records with
  | nil => exact Nat.zero_le _
  | cons record records ih =>
    rw [List.map_cons, List.forall_mem_cons] at stamped
    have rest := ih stamped.2
    have memory : record.memory = record.frame.length + 8 := stamped.1.memory
    simp only [stored, List.length_cons, List.map_cons, List.sum_cons] at rest ⊢
    omega

theorem wrote_covers {senders : Bool} (wrote : Wrote config senders shared buffers journal shared' buffers' journal')
    (covers : Every Covers buffers.states)
    (short : ∀ event, buffers.control = .Add event →
      ((buffers.states.lookup event.cohort).getD .default).records.length + 1 ≤ U64_MAX) :
    Every Covers buffers'.states := by
  refine every_wrote covers_on_records covers wrote fun event control state here covered => ?_
  have room := short event control
  rw [here] at room
  refine ⟨?_, saturating_add_le _ _⟩
  simp only [List.length_append, List.length_singleton]
  exact le_saturating_add (Nat.add_le_add_right covered.1 1) room

/-! ### Window starts -/

/-- A whole number of windows, or the last second that a clock can show. -/
def Aligned (config : WriterConfig) (window_start : Nat) : Prop :=
  window_start ≤ U64_MAX ∧ (config.window_seconds ∣ window_start ∨ window_start = U64_MAX)

theorem aligned_of_window {unix_seconds window_start : Nat} (bounded : unix_seconds ≤ U64_MAX)
    (aligned : aligned_window_start unix_seconds config.window_seconds = .ok window_start) : Aligned config window_start := by
  obtain ⟨before, -, whole⟩ := aligned_window_start_le aligned
  exact ⟨before.trans bounded, .inl whole⟩

theorem Aligned.next {window_start : Nat} (aligned : Aligned config window_start) :
    Aligned config (saturating_add window_start config.window_seconds) := by
  refine ⟨saturating_add_le _ _, ?_⟩
  by_cases fits : window_start + config.window_seconds ≤ U64_MAX
  · rw [saturating_add, Nat.min_eq_left fits]
    rcases aligned.2 with whole | rfl
    · exact .inl (whole.add (Nat.dvd_refl _))
    · exact .inr (by omega)
  · exact .inr (Nat.min_eq_right (by omega))

/-- What a clock can show: seconds of 64 bits. -/
def Shown (clock : Option Nat) : Prop := ∀ micros, clock = some micros → micros / 1000000 ≤ U64_MAX

/-- The wall clock never shows more than its seconds can hold. -/
def Readable (_ : State) (action : Action) : Prop := ∀ micros clock, action = .Tick micros clock → Shown clock

theorem aligned_resume {clock : Option Nat} (shown : Shown clock) (aligned : Aligned config buffers.current_window_start)
    (after : After) (entering : ∀ event window_start, after = .EnterWindow event window_start → Aligned config window_start) :
    Aligned config (resume config clock buffers after).current_window_start := by
  cases after with
  | EnterWindow event window_start => exact entering event window_start rfl
  | Relieve event => exact aligned
  | Add event => exact aligned
  | Return => exact aligned
  | NextWindow =>
    cases clock with
    | none => exact aligned.next
    | some micros =>
      simp only [resume, unix_seconds_now, Option.map_some, Option.bind_some]
      cases found : aligned_window_start (micros / 1000000) config.window_seconds with
      | error error => exact aligned.next
      | ok window_start => exact aligned_of_window (shown micros rfl) found

/-- Where the writer has a window start, it is aligned. -/
structure Timed (config : WriterConfig) (buffers : Buffers) (taken : List FlushBatch) : Prop where
  current : Aligned config buffers.current_window_start
  entering : ∀ event window_start, (buffers.control = .Closing (.EnterWindow event window_start) ∨
    ∃ flush, buffers.control = .Flushing flush (.EnterWindow event window_start)) → Aligned config window_start
  flush : ∀ flush after, buffers.control = .Flushing flush after → Aligned config flush.window_start
  taken : ∀ batch ∈ taken, Aligned config batch.window_start ∧ batch.header.window_start = batch.window_start ∧
    batch.header.window_seconds = config.window_seconds

theorem timed_of_idle {taken : List FlushBatch} (current : Aligned config buffers.current_window_start)
    (closing : ∀ after, buffers.control ≠ .Closing after) (flushing : ∀ flush after, buffers.control ≠ .Flushing flush after)
    (before : ∀ batch ∈ taken, Aligned config batch.window_start ∧ batch.header.window_start = batch.window_start ∧
      batch.header.window_seconds = config.window_seconds) : Timed config buffers taken := by
  refine ⟨current, fun event window_start here => ?_, fun flush after here => absurd here (flushing flush after), before⟩
  rcases here with here | ⟨flush, here⟩
  · exact absurd here (closing _)
  · exact absurd here (flushing flush _)

theorem Timed.flushed {flush flush' : Flush} {after : After} (timed : Timed config buffers journal.taken)
    (control : buffers.control = .Flushing flush after)
    (flushed : Flushed config cohort flush shared buffers journal shared' buffers' journal' flush') :
    Timed config { buffers' with control := .Flushing flush' after } journal'.taken := by
  have start := timed.flush flush after control
  have window : flush'.window_start = flush.window_start ∧ buffers'.current_window_start = buffers.current_window_start := by
    cases flushed <;> exact ⟨rfl, rfl⟩
  have batches : ∀ batch ∈ journal'.taken, Aligned config batch.window_start ∧
      batch.header.window_start = batch.window_start ∧ batch.header.window_seconds = config.window_seconds := by
    cases flushed with
    | take state stage found something =>
      intro batch member
      rcases List.mem_append.mp member with old | new
      · exact timed.taken batch old
      · obtain rfl := List.mem_singleton.mp new
        exact ⟨start, rfl, rfl⟩
    | _ => exact timed.taken
  refine ⟨?_, fun event window_start here => ?_, fun other after' here => ?_, batches⟩
  · show Aligned config buffers'.current_window_start
    rw [window.2]
    exact timed.current
  · rcases here with here | ⟨other, here⟩
    · cases here
    · obtain ⟨-, rfl⟩ := Control.Flushing.inj here
      exact timed.entering event window_start (.inr ⟨flush, control⟩)
  · obtain ⟨rfl, -⟩ := Control.Flushing.inj here
    rw [window.1]
    exact start

theorem Timed.wrote {choice : Choice} {clock : Option Nat} {elapsed : Nat} {senders : Bool}
    (timed : Timed config buffers journal.taken) (shown : Shown clock)
    (read : ∀ event ∈ hand buffers.control, event.receive_time ≤ U64_MAX)
    (written : write config choice clock elapsed senders shared buffers journal = some (shared', buffers', journal')) :
    Timed config buffers' journal'.taken := by
  by_cases through : ∃ flush after, buffers.control = .Flushing flush after ∧ flush.cohorts = []
  · obtain ⟨flush, after, control, none⟩ := through
    have resumed : resume config clock buffers after = buffers' ∧ journal = journal' := by
      unfold write at written
      simp only [control, none, Option.some.injEq, Prod.mk.injEq] at written
      exact written.2
    obtain ⟨rfl, rfl⟩ := resumed
    refine timed_of_idle (aligned_resume shown timed.current after fun event window_start same => ?_) ?_ ?_ timed.taken
    · exact timed.entering event window_start (.inr ⟨flush, same ▸ control⟩)
    · cases after <;> simp [resume]
    · cases after <;> simp [resume]
  · cases write_cases written with
    | resume flush after control none resumed => exact absurd ⟨flush, after, control, none⟩ through
    | flush flush after cohort cohorts control first flushed => exact timed.flushed control flushed
    | woke deadline control =>
      exact ⟨timed.current, by simp, by simp, timed.taken⟩
    | drained deadline control empty gone =>
      exact ⟨timed.current, by simp, by simp, timed.taken⟩
    | advance event window_start control aligned later =>
      have bounded := read event (by rw [control]; exact List.mem_singleton.mpr rfl)
      refine ⟨timed.current, fun other start here => ?_, by simp, timed.taken⟩
      obtain ⟨rfl, rfl⟩ : event = other ∧ window_start = start := by simpa using here
      exact aligned_of_window ((Nat.div_le_self _ _).trans bounded) aligned
    | close after cohorts control keys =>
      refine ⟨timed.current, fun event window_start here => ?_, fun flush after' here => ?_, timed.taken⟩
      · obtain ⟨other, here⟩ := here.resolve_left (by simp)
        obtain ⟨-, rfl⟩ := Control.Flushing.inj here
        exact timed.entering event window_start (.inl control)
      · obtain ⟨rfl, -⟩ := Control.Flushing.inj here
        exact timed.current
    | spill event control exceeds =>
      refine ⟨timed.current, by simp, fun flush after here => ?_, timed.taken⟩
      obtain ⟨rfl, -⟩ := Control.Flushing.inj here
      exact timed.current
    | relieve event cohort control pressure largest =>
      refine ⟨timed.current, by simp, fun flush after here => ?_, timed.taken⟩
      obtain ⟨rfl, -⟩ := Control.Flushing.inj here
      exact timed.current
    | _ => exact timed_of_idle timed.current (by simp) (by simp) timed.taken

/-! ### Runs -/

/-- What the header of a part says of its records. -/
def TrueCounts (batch : FlushBatch) : Prop :=
  batch.header.record_count = batch.records.length ∧ batch.records.length ≤ batch.header.received_frame_count ∧
    batch.header.received_frame_count ≤ U64_MAX

/-- Everything about the parts that a step keeps. -/
structure Counted (limits : Limits) (state : State) : Prop where
  shown : Shown state.clock
  timed : Timed limits.writer state.buffers state.journal.taken
  covers : Every Covers state.buffers.states
  taken : ∀ batch ∈ state.journal.taken, TrueCounts batch

theorem flushed_true_counts {flush flush' : Flush}
    (flushed : Flushed config cohort flush shared buffers journal shared' buffers' journal' flush')
    (covers : Every Covers buffers.states) (taken : ∀ batch ∈ journal.taken, TrueCounts batch) :
    ∀ batch ∈ journal'.taken, TrueCounts batch := by
  cases flushed with
  | take state stage found something =>
    intro batch member
    rcases List.mem_append.mp member with old | new
    · exact taken batch old
    · obtain rfl := List.mem_singleton.mp new
      exact ⟨rfl, covers cohort state found⟩
  | _ => exact taken

theorem wrote_true_counts {senders : Bool} (wrote : Wrote config senders shared buffers journal shared' buffers' journal')
    (covers : Every Covers buffers.states) (taken : ∀ batch ∈ journal.taken, TrueCounts batch) :
    ∀ batch ∈ journal'.taken, TrueCounts batch := by
  cases wrote with
  | flush flush after cohort cohorts control first flushed => exact flushed_true_counts flushed covers taken
  | _ => exact taken

/-- Connections leave the clock, the buffers and the parts alone. -/
theorem step_elsewhere {state state' : State} {action : Action} (taken : step limits state action = some state')
    (no_tick : ∀ micros clock, action ≠ .Tick micros clock) (no_write : ∀ choice, action ≠ .Write choice) :
    state'.clock = state.clock ∧ state'.buffers = state.buffers ∧ state'.journal.taken = state.journal.taken := by
  cases action with
  | Tick micros clock => exact absurd rfl (no_tick micros clock)
  | Write choice => exact absurd rfl (no_write choice)
  | Accept connection =>
    obtain ⟨-, taken⟩ := Option.ite_none_right_eq_some.mp taken
    exact Option.some.inj taken ▸ ⟨rfl, rfl, rfl⟩
  | Disconnect connection =>
    obtain ⟨-, taken⟩ := Option.ite_none_right_eq_some.mp taken
    exact Option.some.inj taken ▸ ⟨rfl, rfl, rfl⟩
  | HangUp =>
    obtain ⟨-, taken⟩ := Option.ite_none_right_eq_some.mp taken
    exact Option.some.inj taken ▸ ⟨rfl, rfl, rfl⟩
  | Stamp connection frame =>
    obtain ⟨-, taken⟩ := Option.ite_none_right_eq_some.mp taken
    obtain ⟨event, -, rfl⟩ := Option.map_eq_some_iff.mp taken
    exact ⟨rfl, rfl, rfl⟩
  | Turn connection =>
    obtain ⟨pass, -, taken⟩ := Option.bind_eq_some_iff.mp taken
    obtain ⟨turned, -, rfl⟩ := Option.map_eq_some_iff.mp taken
    exact ⟨rfl, rfl, rfl⟩

theorem reached_counted {configured : Config} {now : Nat} {begun state : State}
    (validated : run_with_store configured = .ok limits) (shown : now / 1000000 ≤ U64_MAX)
    (started : start limits now = .ok begun) (reached : Reached (step limits) Readable begun state) :
    Counted limits state := by
  have initial : Counted limits begun := by
    obtain ⟨window_start, aligned, started⟩ := Results.bind_ok.mp started
    obtain rfl := Except.ok.inj started
    refine ⟨fun micros same => Option.some.inj same ▸ shown, ?_, every_empty, by simp⟩
    exact timed_of_idle (aligned_of_window shown aligned) (by simp) (by simp) (by simp)
  refine reached.invariant initial fun before action later earlier counted readable taken => ?_
  have budgeted := reached_budgeted (run_with_store_ok validated) started earlier.any
  cases action with
  | Write choice =>
    obtain ⟨⟨shared, buffers, journal⟩, written, rfl⟩ := Option.map_eq_some_iff.mp taken
    have wrote := write_cases written
    refine ⟨counted.shown, ?_, ?_, wrote_true_counts wrote counted.covers counted.taken⟩
    · refine counted.timed.wrote counted.shown (fun event member => ?_) written
      exact Nat.le_sub_one_of_lt (budgeted.everywhere.hand event member).time
    · refine wrote_covers wrote counted.covers fun event control => ?_
      have fits := budgeted.spilled.fits event (.inr (.inl control))
      have memory := (budgeted.everywhere.hand event (by rw [control]; exact List.mem_singleton.mpr rfl)).memory
      have cap : limits.writer.per_cohort_memory_bytes ≤ U64_MAX := by
        rw [(run_with_store_ok validated).per_cohort]
        exact Nat.le_sub_one_of_lt configured.per_cohort_memory_bytes_lt
      cases found : before.buffers.states.lookup event.cohort with
      | none =>
        rw [Option.getD_none]
        decide
      | some state =>
        have records := length_le_stored (budgeted.everywhere.buffered _ state found)
        have bytes := (budgeted.capped _ state found).1
        rw [open_bytes, found, Option.getD_some, bytes] at fits
        rw [Option.getD_some]
        omega
  | Tick micros clock =>
    obtain rfl := Option.some.inj taken
    exact ⟨readable micros clock rfl, counted.timed, counted.covers, counted.taken⟩
  | _ =>
    obtain ⟨clock, buffers, parts⟩ := step_elsewhere taken (by simp) (by simp)
    exact ⟨clock ▸ counted.shown, buffers ▸ parts ▸ counted.timed, buffers ▸ counted.covers, parts ▸ counted.taken⟩

/-! ### Segments -/

theorem receive_time_lt {batch : FlushBatch} (stamped : ∀ event ∈ part_frames batch, Stamped limits event) :
    ∀ record ∈ batch.records, record.receive_time < 2 ^ 64 :=
  fun _ member => (stamped _ (List.mem_map_of_mem member)).time

theorem batch_receives {batch : FlushBatch} (made : FromState config batch)
    (times : ∀ record ∈ batch.records, record.receive_time < 2 ^ 64) :
    batch.header.first_receive < 2 ^ 64 ∧ batch.header.last_receive < 2 ^ 64 := by
  obtain ⟨cohort, window_start, state, rfl⟩ := made
  constructor
  · cases first : state.records.head? with
    | none => simp [batch_of, flush_header, first]
    | some record => simpa [batch_of, flush_header, first] using times record (List.mem_of_head? first)
  · cases last : state.records.getLast? with
    | none => simp [batch_of, flush_header, last]
    | some record => simpa [batch_of, flush_header, last] using times record (List.mem_of_getLast? last)

/-- What is known of an object that the collector has handed to the store. -/
structure Delivered (limits : Limits) (upload : Upload) : Prop where
  intact : Intact upload.batch.header (upload.batch.records.map segment_record) upload.segment
  named : object_key upload.batch.header.cohort upload.batch.header.window_start upload.part = .ok upload.key
  aligned : Aligned limits.writer upload.batch.header.window_start
  window_seconds : upload.batch.header.window_seconds = limits.writer.window_seconds
  records : upload.batch.records.length * (Frame.FIXED_FRAME_HEADER_LEN + 8) ≤ limits.writer.per_cohort_memory_bytes

/-- A frame that parses has at least its fixed header. -/
theorem record_bytes_le {batch : FlushBatch} (stamped : ∀ event ∈ part_frames batch, Stamped limits event) :
    batch.records.length * (Frame.FIXED_FRAME_HEADER_LEN + 8) ≤ stored batch.records := by
  have each : ∀ record ∈ batch.records, Frame.FIXED_FRAME_HEADER_LEN + 8 ≤ record.memory := by
    intro record member
    have here := stamped _ (List.mem_map_of_mem member)
    obtain ⟨header, parsed, -⟩ := here.parsed
    obtain ⟨vector, -, laid⟩ := FrameLayout.parse_frame_header_iff.mp parsed
    have memory : record.memory = record.frame.length + 8 := here.memory
    have long : record.frame.length = _ := congrArg List.length laid
    rw [FrameLayout.length_frame_bytes] at long
    omega
  have bound := List.card_nsmul_le_sum (batch.records.map BufferedRecord.memory) (Frame.FIXED_FRAME_HEADER_LEN + 8)
    (by simpa using each)
  rwa [List.length_map, smul_eq_mul] at bound

theorem uploads_delivered {configured : Config} {now : Nat} {begun state : State}
    (validated : run_with_store configured = .ok limits) (shown : now / 1000000 ≤ U64_MAX)
    (started : start limits now = .ok begun) (reached : Reached (step limits) Readable begun state) :
    ∀ upload ∈ state.journal.uploads, Delivered limits upload := by
  intro upload member
  have counted := reached_counted validated shown started reached
  have budgeted := reached_budgeted (run_with_store_ok validated) started reached.any
  have sent := budgeted.traced.uploads upload member
  obtain ⟨record_count, covered, small⟩ := counted.taken _ sent.taken
  obtain ⟨aligned, same, seconds⟩ := counted.timed.taken _ sent.taken
  have stamped := budgeted.everywhere.taken _ sent.taken
  have times := receive_time_lt stamped
  obtain ⟨first, last⟩ := batch_receives (budgeted.traced.taken _ sent.taken) times
  have width : limits.writer.window_seconds < 2 ^ 32 := by
    rw [(run_with_store_ok validated).window_seconds]
    exact configured.window_seconds_lt
  have big : U64_MAX < 2 ^ 64 := by decide
  refine ⟨⟨⟨?_, seconds ▸ width, first, last, ?_, ?_⟩, ?_, sent.serialized, ?_, ?_⟩, same ▸ sent.named, same ▸ aligned, seconds,
    (record_bytes_le stamped).trans (budgeted.batches _ sent.taken)⟩
  · exact same ▸ Nat.lt_of_le_of_lt aligned.1 big
  · exact Nat.lt_of_le_of_lt small big
  · exact Nat.lt_of_le_of_lt ((record_count ▸ covered).trans small) big
  · exact fun record there => by
      obtain ⟨buffered, here, rfl⟩ := List.mem_map.mp there
      exact times buffered here
  · rw [record_count, List.length_map]
  · rw [record_count]
    exact covered

end VectorSeam.IntactParts
