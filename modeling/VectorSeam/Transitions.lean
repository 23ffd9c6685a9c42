import VectorSeam.Collector

/-!
What a step of the collector can do, branch by branch. Connections touch what is shared
and their own place; the writer touches what is shared, its buffers and the journal.
-/

namespace VectorSeam.Transitions
open VectorSeam.LittleEndian VectorSeam.Cohort VectorSeam.Window VectorSeam.Ulids VectorSeam.Segments VectorSeam.Reader
open VectorSeam.Writer VectorSeam.Tables VectorSeam.Machines VectorSeam.Collector

/-! ### Memory -/

/-- One step of a release, on the memory in use. -/
inductive Released (memory : MemoryTracker) : Release → MemoryTracker → Option Release → Prop where
  | load {release : Release} (fresh : release.current = none) :
      Released memory release memory (some { release with current := some memory.used_bytes })
  | done {release : Release} (loaded : release.current = some memory.used_bytes)
      (enough : release.release_bytes ≤ memory.used_bytes) :
      Released memory release { memory with used_bytes := memory.used_bytes - release.release_bytes } none
  | again {release : Release} (current : Nat) (loaded : release.current = some current)
      (enough : release.release_bytes ≤ current) (moved : memory.used_bytes ≠ current) :
      Released memory release memory (some { release with current := some memory.used_bytes })
  | clamped {release : Release} {memory' : MemoryTracker} {release' : Option Release} (current : Nat)
      (loaded : release.current = some current) (short : current < release.release_bytes) :
      Released memory release memory' release'

theorem release_cases {memory memory' : MemoryTracker} {release : Release} {release' : Option Release}
    (turned : release.turn memory = (memory', release')) : Released memory release memory' release' := by
  unfold Release.turn at turned
  cases loaded : release.current with
  | none =>
    rw [loaded] at turned
    obtain ⟨rfl, rfl⟩ := Prod.mk.inj turned
    exact .load loaded
  | some current =>
    by_cases short : current < release.release_bytes
    · exact .clamped current loaded short
    have enough := Nat.not_lt.mp short
    simp only [loaded, Nat.min_eq_left enough, short, decide_false, Bool.or_false] at turned
    by_cases same : memory.used_bytes = current
    · rw [if_pos same] at turned
      obtain ⟨rfl, rfl⟩ := Prod.mk.inj turned
      subst same
      exact .done loaded enough
    · rw [if_neg same] at turned
      obtain ⟨rfl, rfl⟩ := Prod.mk.inj turned
      exact .again current loaded enough same

/-! ### Connections -/

/-- One step of a connection on a frame. -/
inductive Turned (limits : Limits) (receiver_dropped : Bool) (shared : Shared) (dropped : List FrameEvent) :
    Pass → Shared → List FrameEvent → Option Pass → Prop where
  | load (event : FrameEvent) :
      Turned limits receiver_dropped shared dropped (.Stamped event) shared dropped
        (some (.Loaded event shared.memory.used_bytes))
  | refuse (event : FrameEvent) (current : Nat) (full : limits.reader.live_memory_bytes < current + event.memory) :
      Turned limits receiver_dropped shared dropped (.Loaded event current) shared dropped (some (.Refused event))
  | again (event : FrameEvent) (current : Nat) (moved : shared.memory.used_bytes ≠ current) :
      Turned limits receiver_dropped shared dropped (.Loaded event current) shared dropped
        (some (.Loaded event shared.memory.used_bytes))
  | reserve (event : FrameEvent) (fits : shared.memory.used_bytes + event.memory ≤ limits.reader.live_memory_bytes) :
      Turned limits receiver_dropped shared dropped (.Loaded event shared.memory.used_bytes)
        { shared with memory := { shared.memory with used_bytes := shared.memory.used_bytes + event.memory } } dropped
        (some (.Reserved event))
  | memory_drop (event : FrameEvent) :
      Turned limits receiver_dropped shared dropped (.Refused event) { shared with toDropCounters := shared.record_memory_drop event.cohort }
        (dropped ++ [event]) (some .Reading)
  | closed (event : FrameEvent) (gone : receiver_dropped = true) :
      Turned limits receiver_dropped shared dropped (.Reserved event) shared dropped (some (.Unsent event true))
  | full (event : FrameEvent) (waiting : limits.channel_capacity ≤ shared.channel.length) :
      Turned limits receiver_dropped shared dropped (.Reserved event) shared dropped (some (.Unsent event false))
  | send (event : FrameEvent) (waiting : shared.channel.length < limits.channel_capacity) (here : receiver_dropped = false) :
      Turned limits receiver_dropped shared dropped (.Reserved event)
        { shared with channel := shared.channel ++ [event] } dropped (some .Reading)
  | channel_drop (event : FrameEvent) (closed : Bool) :
      Turned limits receiver_dropped shared dropped (.Unsent event closed) { shared with toDropCounters := shared.record_channel_drop event.cohort }
        (dropped ++ [event]) (some (.Releasing (.new event.memory) closed))
  | release {release release' : Release} {memory : MemoryTracker} (closed : Bool)
      (turned : Released shared.memory release memory (some release')) :
      Turned limits receiver_dropped shared dropped (.Releasing release closed) { shared with memory } dropped
        (some (.Releasing release' closed))
  | released {release : Release} {memory : MemoryTracker} (closed : Bool)
      (turned : Released shared.memory release memory none) :
      Turned limits receiver_dropped shared dropped (.Releasing release closed) { shared with memory } dropped
        (if closed then none else some .Reading)

theorem turn_cases {limits : Limits} {receiver_dropped : Bool} {shared shared' : Shared} {dropped dropped' : List FrameEvent}
    {pass : Pass} {pass' : Option Pass}
    (turned : turn limits receiver_dropped shared dropped pass = some (shared', dropped', pass')) :
    Turned limits receiver_dropped shared dropped pass shared' dropped' pass' := by
  cases pass with
  | Reading => cases turned
  | Stamped event =>
    obtain ⟨rfl, rfl, rfl⟩ := by simpa [turn] using turned
    exact .load event
  | Loaded event current =>
    by_cases full : limits.reader.live_memory_bytes < current + event.memory
    · obtain ⟨rfl, rfl, rfl⟩ := by simpa [turn, try_reserve, full] using turned
      exact .refuse event current full
    · by_cases same : shared.memory.used_bytes = current
      · obtain ⟨rfl, rfl, rfl⟩ := by simpa [turn, try_reserve, full, same] using turned
        subst same
        exact .reserve event (Nat.not_lt.mp full)
      · obtain ⟨rfl, rfl, rfl⟩ := by simpa [turn, try_reserve, full, same] using turned
        exact .again event current same
  | Refused event =>
    obtain ⟨rfl, rfl, rfl⟩ := by simpa [turn] using turned
    exact .memory_drop event
  | Reserved event =>
    cases gone : receiver_dropped with
    | true =>
      obtain ⟨rfl, rfl, rfl⟩ := by simpa [turn, gone] using turned
      exact .closed event rfl
    | false =>
      by_cases waiting : shared.channel.length < limits.channel_capacity
      · obtain ⟨rfl, rfl, rfl⟩ := by simpa [turn, gone, waiting] using turned
        exact .send event waiting rfl
      · obtain ⟨rfl, rfl, rfl⟩ := by simpa [turn, gone, waiting] using turned
        exact .full event (Nat.not_lt.mp waiting)
  | Unsent event closed =>
    obtain ⟨rfl, rfl, rfl⟩ := by simpa [turn] using turned
    exact .channel_drop event closed
  | Releasing release closed =>
    cases done : release.turn shared.memory with
    | mk memory left =>
      cases left with
      | none =>
        obtain ⟨rfl, rfl, rfl⟩ := by simpa [turn, done] using turned
        exact .released closed (release_cases done)
      | some release' =>
        obtain ⟨rfl, rfl, rfl⟩ := by simpa [turn, done] using turned
        exact .release closed (release_cases done)

/-! ### The flush of a cohort -/

/-- The batch of a state that has something to flush. -/
def batch_of (config : WriterConfig) (cohort : CohortName) (window_start : Nat) (state : CohortState) : FlushBatch :=
  { window_start
    header := flush_header config cohort window_start state
    records := state.records
    record_bytes := state.bytes }

/-- One step of the flush of a cohort. -/
inductive Flushed (config : WriterConfig) (cohort : CohortName) (flush : Flush) (shared : Shared) (buffers : Buffers)
    (journal : Journal) : Shared → Buffers → Journal → Flush → Prop where
  | fold {pending_cohort_drops : Ledger} {states : States} (stage : flush.stage = .Folding)
      (folded : fold_pending_drops cohort shared.pending_cohort_drops buffers.states = (pending_cohort_drops, states)) :
      Flushed config cohort flush shared buffers journal { shared with pending_cohort_drops } { buffers with states }
        journal { flush with stage := .Taking }
  | missing (stage : flush.stage = .Taking) (none : buffers.states.lookup cohort = none) :
      Flushed config cohort flush shared buffers journal shared buffers journal flush.next
  | nothing (state : CohortState) (stage : flush.stage = .Taking) (found : buffers.states.lookup cohort = some state)
      (no_records : state.records = []) (uncounted : state.received_frame_count = 0) :
      Flushed config cohort flush shared buffers journal shared buffers journal flush.next
  | take (state : CohortState) (stage : flush.stage = .Taking) (found : buffers.states.lookup cohort = some state)
      (something : ¬(state.records = [] ∧ state.received_frame_count = 0)) :
      Flushed config cohort flush shared buffers journal shared { buffers with states := buffers.states.erase cohort }
        { journal with taken := journal.taken ++ [batch_of config cohort flush.window_start state] }
        { flush with stage := .Serializing (batch_of config cohort flush.window_start state) }
  | serialize (batch : FlushBatch) (segment : Option Bytes) (flush_failures : Nat)
      (stage : flush.stage = .Serializing batch)
      (written : ∀ bytes, segment = some bytes → write_segment batch.header (batch.records.map segment_record) = .ok bytes) :
      Flushed config cohort flush shared buffers journal shared { buffers with flush_failures } journal
        { flush with stage := .Dropping batch (batch.records.map fun record => .new record.memory) segment }
  | release {guard guard' : Release} {memory : MemoryTracker} (batch : FlushBatch) (guards : List Release)
      (segment : Option Bytes) (stage : flush.stage = .Dropping batch (guard :: guards) segment)
      (turned : Released shared.memory guard memory (some guard')) :
      Flushed config cohort flush shared buffers journal { shared with memory } buffers journal
        { flush with stage := .Dropping batch (guard' :: guards) segment }
  | released {guard : Release} {memory : MemoryTracker} (batch : FlushBatch) (guards : List Release)
      (segment : Option Bytes) (stage : flush.stage = .Dropping batch (guard :: guards) segment)
      (turned : Released shared.memory guard memory none) :
      Flushed config cohort flush shared buffers journal { shared with memory } buffers journal
        { flush with stage := .Dropping batch guards segment }
  | give_up (batch : FlushBatch) (stage : flush.stage = .Dropping batch [] none) :
      Flushed config cohort flush shared buffers journal shared buffers journal flush.next
  | dropped (batch : FlushBatch) (segment : Bytes) (stage : flush.stage = .Dropping batch [] (some segment)) :
      Flushed config cohort flush shared buffers journal shared buffers journal
        { flush with stage := .Putting batch segment }
  | no_key (batch : FlushBatch) (segment : Bytes) (part : Ulid) (error : WindowError)
      (stage : flush.stage = .Putting batch segment)
      (failed : object_key batch.header.cohort batch.window_start part = .error error) :
      Flushed config cohort flush shared buffers journal shared (fail buffers) journal flush.next
  | put (batch : FlushBatch) (segment : Bytes) (part : Ulid) (outcome : PutOutcome) (key : String)
      (flushed_parts flush_failures : Nat) (stage : flush.stage = .Putting batch segment)
      (named : object_key batch.header.cohort batch.window_start part = .ok key) :
      Flushed config cohort flush shared buffers journal shared { buffers with flushed_parts, flush_failures }
        { journal with uploads := journal.uploads ++ [{ batch, part, key, segment, outcome }] } flush.next

theorem flush_cases {config : WriterConfig} {cohort : CohortName} {flush flush' : Flush} {choice : Choice}
    {shared shared' : Shared} {buffers buffers' : Buffers} {journal journal' : Journal}
    (flushed : flush_cohort config cohort flush choice shared buffers journal = some (shared', buffers', journal', flush')) :
    Flushed config cohort flush shared buffers journal shared' buffers' journal' flush' := by
  unfold flush_cohort at flushed
  cases stage : flush.stage with
  | Folding =>
    cases folded : fold_pending_drops cohort shared.pending_cohort_drops buffers.states with
    | mk ledger states =>
      obtain ⟨rfl, rfl, rfl, rfl⟩ := by simpa [stage, folded] using flushed
      exact .fold stage folded
  | Taking =>
    cases found : buffers.states.lookup cohort with
    | none =>
      obtain ⟨rfl, rfl, rfl, rfl⟩ := by simpa [stage, found] using flushed
      exact .missing stage found
    | some state =>
      by_cases nothing : state.records = [] ∧ state.received_frame_count = 0
      · obtain ⟨rfl, rfl, rfl, rfl⟩ := by simpa [stage, found, nothing] using flushed
        exact .nothing state stage found nothing.1 nothing.2
      · have taken : take_flush_batch config cohort flush.window_start buffers.states =
            (some (batch_of config cohort flush.window_start state), buffers.states.erase cohort) := by
          simp only [take_flush_batch, found, if_neg nothing, batch_of]
        simp only [stage, found, if_neg nothing, taken, Option.some.injEq, Prod.mk.injEq] at flushed
        obtain ⟨rfl, rfl, rfl, rfl⟩ := flushed
        exact .take state stage found nothing
  | Serializing batch =>
    cases written : write_segment batch.header (batch.records.map segment_record) with
    | error error =>
      obtain ⟨rfl, rfl, rfl, rfl⟩ := by simpa [stage, written] using flushed
      exact .serialize batch none _ stage fun bytes absurd => by cases absurd
    | ok segment =>
      obtain ⟨rfl, rfl, rfl, rfl⟩ := by simpa [stage, written] using flushed
      exact .serialize batch (some segment) buffers.flush_failures stage fun bytes same => by
        rw [written, Option.some.inj same]
  | Dropping batch guards segment =>
    cases guards with
    | nil =>
      cases segment with
      | none =>
        obtain ⟨rfl, rfl, rfl, rfl⟩ := by simpa [stage] using flushed
        exact .give_up batch stage
      | some segment =>
        obtain ⟨rfl, rfl, rfl, rfl⟩ := by simpa [stage] using flushed
        exact .dropped batch segment stage
    | cons guard guards =>
      cases turned : guard.turn shared.memory with
      | mk memory left =>
        cases left with
        | none =>
          obtain ⟨rfl, rfl, rfl, rfl⟩ := by simpa [stage, turned] using flushed
          exact .released batch guards segment stage (release_cases turned)
        | some guard' =>
          obtain ⟨rfl, rfl, rfl, rfl⟩ := by simpa [stage, turned] using flushed
          exact .release batch guards segment stage (release_cases turned)
  | Putting batch segment =>
    cases choice with
    | Put part outcome =>
      cases named : object_key batch.header.cohort batch.window_start part with
      | error error =>
        obtain ⟨rfl, rfl, rfl, rfl⟩ := by simpa [stage, named] using flushed
        exact .no_key batch segment part error stage named
      | ok key =>
        cases outcome with
        | Ok =>
          obtain ⟨rfl, rfl, rfl, rfl⟩ := by simpa [stage, named] using flushed
          exact .put batch segment part .Ok key _ buffers.flush_failures stage named
        | Err =>
          obtain ⟨rfl, rfl, rfl, rfl⟩ := by simpa [stage, named] using flushed
          exact .put batch segment part .Err key buffers.flushed_parts _ stage named
        | Elapsed =>
          obtain ⟨rfl, rfl, rfl, rfl⟩ := by simpa [stage, named] using flushed
          exact .put batch segment part .Elapsed key buffers.flushed_parts _ stage named
    | Proceed => simp [stage] at flushed
    | Keys cohorts => simp [stage] at flushed
    | Largest cohort => simp [stage] at flushed
    | Receive => simp [stage] at flushed
    | Sleep => simp [stage] at flushed

/-! ### The writer -/

/-- Where the writer goes on after a flush, and in which window. -/
inductive Resumed (config : WriterConfig) (buffers : Buffers) : After → Buffers → Prop where
  | enter_window (event : FrameEvent) (window_start : Nat) :
      Resumed config buffers (.EnterWindow event window_start)
        { buffers with current_window_start := window_start, control := .Fold event }
  | relieve (event : FrameEvent) : Resumed config buffers (.Relieve event) { buffers with control := .Relieve event }
  | add (event : FrameEvent) : Resumed config buffers (.Add event) { buffers with control := .Add event }
  | next_window (current_window_start : Nat) :
      Resumed config buffers .NextWindow { buffers with current_window_start, control := .Select }
  | returned : Resumed config buffers .Return { buffers with control := .Returned }

theorem resume_cases (config : WriterConfig) (clock : Option Nat) (buffers : Buffers) (after : After) :
    Resumed config buffers after (resume config clock buffers after) := by
  cases after with
  | EnterWindow event window_start => exact .enter_window event window_start
  | Relieve event => exact .relieve event
  | Add event => exact .add event
  | NextWindow => exact .next_window _
  | Return => exact .returned

/-- One step of the writer. -/
inductive Wrote (config : WriterConfig) (senders : Bool) (shared : Shared) (buffers : Buffers) (journal : Journal) :
    Shared → Buffers → Journal → Prop where
  | select (deadline : Nat) (control : buffers.control = .Select) :
      Wrote config senders shared buffers journal shared { buffers with control := .Waiting deadline } journal
  | receive (event : FrameEvent) (channel : List FrameEvent) (deadline : Nat) (control : buffers.control = .Waiting deadline)
      (first : shared.channel = event :: channel) :
      Wrote config senders shared buffers journal { shared with channel } { buffers with control := .Advance event } journal
  | drained (deadline : Nat) (control : buffers.control = .Waiting deadline) (empty : shared.channel = [])
      (gone : senders = false) :
      Wrote config senders shared buffers journal shared { buffers with control := .Closing .Return } journal
  | woke (deadline : Nat) (control : buffers.control = .Waiting deadline) :
      Wrote config senders shared buffers journal shared { buffers with control := .Closing .NextWindow } journal
  | stay (event : FrameEvent) (control : buffers.control = .Advance event)
      (early : ∀ window_start, aligned_window_start (event.receive_time / 1000000) config.window_seconds = .ok window_start →
        window_start ≤ buffers.current_window_start) :
      Wrote config senders shared buffers journal shared { buffers with control := .Fold event } journal
  | advance (event : FrameEvent) (window_start : Nat) (control : buffers.control = .Advance event)
      (aligned : aligned_window_start (event.receive_time / 1000000) config.window_seconds = .ok window_start)
      (later : buffers.current_window_start < window_start) :
      Wrote config senders shared buffers journal shared
        { buffers with control := .Closing (.EnterWindow event window_start) } journal
  | close (after : After) (cohorts : List CohortName) (control : buffers.control = .Closing after)
      (keys : cohorts.Perm (fold_all_pending_drops shared.pending_cohort_drops buffers.states).keys) :
      Wrote config senders shared buffers journal { shared with pending_cohort_drops := ∅ }
        { buffers with
          states := fold_all_pending_drops shared.pending_cohort_drops buffers.states
          control := .Flushing (.new buffers.current_window_start cohorts) after } journal
  | fold (event : FrameEvent) {pending_cohort_drops : Ledger} {states : States} (control : buffers.control = .Fold event)
      (folded : fold_pending_drops event.cohort shared.pending_cohort_drops buffers.states = (pending_cohort_drops, states)) :
      Wrote config senders shared buffers journal { shared with pending_cohort_drops }
        { buffers with states, control := .Spill event } journal
  | spill (event : FrameEvent) (control : buffers.control = .Spill event)
      (exceeds : cohort_would_exceed_cap config buffers.states event.cohort event.memory = true) :
      Wrote config senders shared buffers journal shared
        { buffers with control := .Flushing (.new buffers.current_window_start [event.cohort]) (.Relieve event) } journal
  | within (event : FrameEvent) (control : buffers.control = .Spill event)
      (fits : cohort_would_exceed_cap config buffers.states event.cohort event.memory = false) :
      Wrote config senders shared buffers journal shared { buffers with control := .Relieve event } journal
  | relieve (event : FrameEvent) (cohort : CohortName) (control : buffers.control = .Relieve event)
      (pressure : config.live_memory_bytes ≤ shared.memory.used_bytes) (largest : is_largest buffers.states cohort = true) :
      Wrote config senders shared buffers journal shared
        { buffers with control := .Flushing (.new buffers.current_window_start [cohort]) (.Add event) } journal
  | relieved (event : FrameEvent) (control : buffers.control = .Relieve event)
      (free : shared.memory.used_bytes < config.live_memory_bytes ∨ none_largest buffers.states = true) :
      Wrote config senders shared buffers journal shared { buffers with control := .Add event } journal
  | resume {buffers' : Buffers} (flush : Flush) (after : After) (control : buffers.control = .Flushing flush after)
      (through : flush.cohorts = []) (resumed : Resumed config buffers after buffers') :
      Wrote config senders shared buffers journal shared buffers' journal
  | flush {shared' : Shared} {buffers' : Buffers} {journal' : Journal} {flush' : Flush} (flush : Flush) (after : After)
      (cohort : CohortName) (cohorts : List CohortName) (control : buffers.control = .Flushing flush after)
      (first : flush.cohorts = cohort :: cohorts)
      (flushed : Flushed config cohort flush shared buffers journal shared' buffers' journal' flush') :
      Wrote config senders shared buffers journal shared' { buffers' with control := .Flushing flush' after } journal'
  | add (event : FrameEvent) (control : buffers.control = .Add event) :
      Wrote config senders shared buffers journal shared
        { buffers with
          states := add_record buffers.states event event.memory
          kept_frames := buffers.kept_frames + 1
          control := .Select } journal

theorem write_cases {config : WriterConfig} {choice : Choice} {clock : Option Nat} {elapsed : Nat} {senders : Bool}
    {shared shared' : Shared} {buffers buffers' : Buffers} {journal journal' : Journal}
    (written : write config choice clock elapsed senders shared buffers journal = some (shared', buffers', journal')) :
    Wrote config senders shared buffers journal shared' buffers' journal' := by
  unfold write at written
  cases control : buffers.control with
  | Select =>
    obtain ⟨rfl, rfl, rfl⟩ := by simpa [control] using written
    exact .select _ control
  | Waiting deadline =>
    cases choice with
    | Receive =>
      cases waiting : shared.channel with
      | nil =>
        cases senders with
        | true => simp [control, waiting] at written
        | false =>
          obtain ⟨rfl, rfl, rfl⟩ := by simpa [control, waiting] using written
          exact .drained deadline control waiting rfl
      | cons event channel =>
        obtain ⟨rfl, rfl, rfl⟩ := by simpa [control, waiting] using written
        exact .receive event channel deadline control waiting
    | Sleep =>
      by_cases early : elapsed < deadline
      · simp [control, early] at written
      · obtain ⟨rfl, rfl, rfl⟩ := by simpa [control, early] using written
        exact .woke deadline control
    | Proceed => simp [control] at written
    | Keys cohorts => simp [control] at written
    | Largest cohort => simp [control] at written
    | Put part outcome => simp [control] at written
  | Advance event =>
    cases aligned : aligned_window_start (event.receive_time / 1000000) config.window_seconds with
    | error error =>
      obtain ⟨rfl, rfl, rfl⟩ := by simpa [control, aligned] using written
      exact .stay event control fun window_start ok => by rw [aligned] at ok; cases ok
    | ok window_start =>
      by_cases early : window_start ≤ buffers.current_window_start
      · obtain ⟨rfl, rfl, rfl⟩ := by simpa [control, aligned, early] using written
        exact .stay event control fun window_start' ok => by
          obtain rfl := Except.ok.inj (aligned.symm.trans ok)
          exact early
      · obtain ⟨rfl, rfl, rfl⟩ := by simpa [control, aligned, early] using written
        exact .advance event window_start control aligned (Nat.not_le.mp early)
  | Closing after =>
    cases choice with
    | Keys cohorts =>
      by_cases keys : cohorts.Perm (fold_all_pending_drops shared.pending_cohort_drops buffers.states).keys
      · simp only [control, if_pos keys, Option.some.injEq, Prod.mk.injEq] at written
        obtain ⟨rfl, rfl, rfl⟩ := written
        exact .close after cohorts control keys
      · simp only [control, if_neg keys] at written
        cases written
    | Proceed => simp [control] at written
    | Largest cohort => simp [control] at written
    | Receive => simp [control] at written
    | Sleep => simp [control] at written
    | Put part outcome => simp [control] at written
  | Fold event =>
    cases folded : fold_pending_drops event.cohort shared.pending_cohort_drops buffers.states with
    | mk ledger states =>
      obtain ⟨rfl, rfl, rfl⟩ := by simpa [control, folded] using written
      exact .fold event control folded
  | Spill event =>
    cases exceeds : cohort_would_exceed_cap config buffers.states event.cohort event.memory with
    | true =>
      obtain ⟨rfl, rfl, rfl⟩ := by simpa [control, exceeds] using written
      exact .spill event control exceeds
    | false =>
      obtain ⟨rfl, rfl, rfl⟩ := by simpa [control, exceeds] using written
      exact .within event control exceeds
  | Relieve event =>
    by_cases pressure : config.live_memory_bytes ≤ shared.memory.used_bytes
    · cases choice with
      | Largest cohort =>
        cases largest : is_largest buffers.states cohort with
        | false => simp [control, pressure, largest] at written
        | true =>
          obtain ⟨rfl, rfl, rfl⟩ := by simpa [control, pressure, largest] using written
          exact .relieve event cohort control pressure largest
      | Proceed =>
        cases none : none_largest buffers.states with
        | false => simp [control, pressure, none] at written
        | true =>
          obtain ⟨rfl, rfl, rfl⟩ := by simpa [control, pressure, none] using written
          exact .relieved event control (.inr none)
      | Keys cohorts => simp [control, pressure] at written
      | Receive => simp [control, pressure] at written
      | Sleep => simp [control, pressure] at written
      | Put part outcome => simp [control, pressure] at written
    · obtain ⟨rfl, rfl, rfl⟩ := by simpa [control, pressure] using written
      exact .relieved event control (.inl (Nat.not_le.mp pressure))
  | Flushing flush after =>
    cases first : flush.cohorts with
    | nil =>
      obtain ⟨rfl, rfl, rfl⟩ := by simpa [control, first] using written
      exact .resume flush after control first (resume_cases config clock buffers after)
    | cons cohort cohorts =>
      cases done : flush_cohort config cohort flush choice shared buffers journal with
      | none => simp [control, first, done] at written
      | some result =>
        obtain ⟨shared'', buffers'', journal'', flush'⟩ := result
        obtain ⟨rfl, rfl, rfl⟩ := by simpa [control, first, done] using written
        exact .flush flush after cohort cohorts control first (flush_cases done)
  | Add event =>
    obtain ⟨rfl, rfl, rfl⟩ := by simpa [control] using written
    exact .add event control
  | Returned => simp [control] at written

/-! ### The collector -/

/-- A step of the collector is a step of the writer, one of a connection, or touches no frame that was received. -/
inductive Moved (limits : Limits) (state : State) : State → Prop where
  | tick (elapsed : Nat) (clock : Option Nat) : Moved limits state { state with elapsed, clock }
  | accept (connection : Nat) (open_ : state.accepting = true) (fresh : state.connections.lookup connection = none) :
      Moved limits state { state with connections := state.connections.insert connection .Reading }
  | disconnect (connection : Nat) (reading : state.connections.lookup connection = some .Reading) :
      Moved limits state { state with connections := state.connections.erase connection }
  | hang_up (joined : state.connections.entries = []) : Moved limits state { state with accepting := false }
  | stamp (connection : Nat) (frame : Bytes) (event : FrameEvent)
      (reading : state.connections.lookup connection = some .Reading)
      (stamped : stamp limits state.clock frame = some event) :
      Moved limits state { state with
        connections := state.connections.insert connection (.Stamped event)
        shared := { state.shared with valid_frames_received := state.shared.valid_frames_received + 1 }
        journal := { state.journal with received := state.journal.received ++ [event] } }
  | turn {shared : Shared} {dropped : List FrameEvent} (connection : Nat) (pass pass' : Pass)
      (here : state.connections.lookup connection = some pass)
      (turned : Turned limits (decide (state.buffers.control = .Returned)) state.shared state.journal.dropped pass shared
        dropped (some pass')) :
      Moved limits state { state with
        connections := state.connections.insert connection pass', shared, journal := { state.journal with dropped } }
  | last_turn {shared : Shared} {dropped : List FrameEvent} (connection : Nat) (pass : Pass)
      (here : state.connections.lookup connection = some pass)
      (turned : Turned limits (decide (state.buffers.control = .Returned)) state.shared state.journal.dropped pass shared
        dropped none) :
      Moved limits state { state with
        connections := state.connections.erase connection, shared, journal := { state.journal with dropped } }
  | write {shared : Shared} {buffers : Buffers} {journal : Journal}
      (wrote : Wrote limits.writer (state.accepting || !state.connections.entries.isEmpty) state.shared state.buffers
        state.journal shared buffers journal) :
      Moved limits state { state with shared, buffers, journal }

theorem step_cases {limits : Limits} {state state' : State} {action : Action} (taken : step limits state action = some state') :
    Moved limits state state' := by
  cases action with
  | Tick micros clock =>
    obtain rfl := Option.some.inj taken
    exact .tick _ clock
  | Accept connection =>
    obtain ⟨may, taken⟩ := Option.ite_none_right_eq_some.mp taken
    obtain rfl := Option.some.inj taken
    exact .accept connection may.1 (Option.isNone_iff_eq_none.mp may.2.1)
  | Disconnect connection =>
    obtain ⟨reading, taken⟩ := Option.ite_none_right_eq_some.mp taken
    obtain rfl := Option.some.inj taken
    exact .disconnect connection reading
  | HangUp =>
    obtain ⟨joined, taken⟩ := Option.ite_none_right_eq_some.mp taken
    obtain rfl := Option.some.inj taken
    exact .hang_up joined.2
  | Stamp connection frame =>
    obtain ⟨reading, taken⟩ := Option.ite_none_right_eq_some.mp taken
    obtain ⟨event, stamped, rfl⟩ := Option.map_eq_some_iff.mp taken
    exact .stamp connection frame event reading stamped
  | Turn connection =>
    obtain ⟨pass, here, taken⟩ := Option.bind_eq_some_iff.mp taken
    obtain ⟨⟨shared, dropped, pass'⟩, turned, rfl⟩ := Option.map_eq_some_iff.mp taken
    cases pass' with
    | none => exact .last_turn connection pass here (turn_cases turned)
    | some pass' => exact .turn connection pass pass' here (turn_cases turned)
  | Write choice =>
    obtain ⟨⟨shared, buffers, journal⟩, written, rfl⟩ := Option.map_eq_some_iff.mp taken
    exact .write (write_cases written)

/-- Outside a connection's turn and the writer's, the records, the memory and the ledger stay. -/
theorem quiet_step {limits : Limits} {state state' : State} {action : Action} (taken : step limits state action = some state')
    (no_turn : ∀ connection, action ≠ .Turn connection) (no_write : ∀ choice, action ≠ .Write choice) :
    state'.buffers = state.buffers ∧ state'.shared.channel = state.shared.channel ∧
      state'.shared.memory = state.shared.memory ∧
      state'.shared.pending_cohort_drops = state.shared.pending_cohort_drops := by
  cases action with
  | Tick micros clock =>
    obtain rfl := Option.some.inj taken
    exact ⟨rfl, rfl, rfl, rfl⟩
  | Accept connection =>
    obtain ⟨_, taken⟩ := Option.ite_none_right_eq_some.mp taken
    obtain rfl := Option.some.inj taken
    exact ⟨rfl, rfl, rfl, rfl⟩
  | Disconnect connection =>
    obtain ⟨_, taken⟩ := Option.ite_none_right_eq_some.mp taken
    obtain rfl := Option.some.inj taken
    exact ⟨rfl, rfl, rfl, rfl⟩
  | HangUp =>
    obtain ⟨_, taken⟩ := Option.ite_none_right_eq_some.mp taken
    obtain rfl := Option.some.inj taken
    exact ⟨rfl, rfl, rfl, rfl⟩
  | Stamp connection frame =>
    obtain ⟨_, taken⟩ := Option.ite_none_right_eq_some.mp taken
    obtain ⟨event, _, rfl⟩ := Option.map_eq_some_iff.mp taken
    exact ⟨rfl, rfl, rfl, rfl⟩
  | Turn connection => exact absurd rfl (no_turn connection)
  | Write choice => exact absurd rfl (no_write choice)

end VectorSeam.Transitions
