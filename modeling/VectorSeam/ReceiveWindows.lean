import VectorSeam.Budget

/-!
The windows of records. A record is buffered in the window that the writer is in, and a
window is left with no record behind. The timer may leave it before a frame that was
received in it has come through the channel; if none comes late, every record of a part
lies in the window of the part.
-/

namespace VectorSeam.ReceiveWindows
open VectorSeam.LittleEndian VectorSeam.Cohort VectorSeam.Window VectorSeam.Segments VectorSeam.Model VectorSeam.Reader
open VectorSeam.Writer VectorSeam.Tables VectorSeam.Machines VectorSeam.Collector VectorSeam.Transitions VectorSeam.Custody
open VectorSeam.Conservation VectorSeam.Budget

/-- A receive time, in microseconds, within a window. -/
def Within (window_start window_seconds receive_time : Nat) : Prop :=
  window_start ≤ receive_time / 1000000 ∧ receive_time / 1000000 < window_start + window_seconds

instance (window_start window_seconds receive_time : Nat) : Decidable (Within window_start window_seconds receive_time) :=
  inferInstanceAs (Decidable (_ ∧ _))

/-- The writer never takes on a frame that was received before its window began. -/
def OnTime (state : State) (_ : Action) : Prop :=
  ∀ event, state.buffers.control = .Advance event → state.buffers.current_window_start ≤ event.receive_time / 1000000

def RecordsWithin (window_start window_seconds : Nat) (_ : CohortName) (state : CohortState) : Prop :=
  ∀ record ∈ state.records, Within window_start window_seconds record.receive_time

theorem within_on_records (window_start window_seconds : Nat) : OnRecords (RecordsWithin window_start window_seconds) where
  uncounted _ _ _ within := within
  empty _ := nofun

/-- Leaving a window. -/
def Leaves : After → Prop
  | .EnterWindow _ _ => True
  | .NextWindow => True
  | _ => False

/-- A frame that the writer has in hand and has brought its window up to. -/
def settled_in : Control → Nat → List (FrameEvent × Nat)
  | .Fold event, current => [(event, current)]
  | .Spill event, current => [(event, current)]
  | .Relieve event, current => [(event, current)]
  | .Add event, current => [(event, current)]
  | .Closing (.EnterWindow event window_start), _ => [(event, window_start)]
  | .Flushing _ (.EnterWindow event window_start), _ => [(event, window_start)]
  | .Flushing _ (.Relieve event), current => [(event, current)]
  | .Flushing _ (.Add event), current => [(event, current)]
  | _, _ => []

/-- Records are in the window they are kept or were taken in, and a flush that leaves a window takes them all. -/
structure Sorted (config : WriterConfig) (buffers : Buffers) (taken : List FlushBatch) : Prop where
  buffered : Every (RecordsWithin buffers.current_window_start config.window_seconds) buffers.states
  hand : ∀ event window_start, (event, window_start) ∈ settled_in buffers.control buffers.current_window_start →
    Within window_start config.window_seconds event.receive_time
  flush : ∀ flush after, buffers.control = .Flushing flush after → flush.window_start = buffers.current_window_start
  leaving : ∀ flush after, buffers.control = .Flushing flush after → Leaves after →
    ∀ cohort, Filled HasRecords buffers.states cohort → cohort ∈ left flush
  unrelieved : ∀ event, buffers.control ≠ .Closing (.Relieve event)
  unadded : ∀ event, buffers.control ≠ .Closing (.Add event)
  taken : ∀ batch ∈ taken, ∀ record ∈ batch.records,
    Within batch.header.window_start batch.header.window_seconds record.receive_time

variable {limits : Limits} {config : WriterConfig} {shared shared' : Shared} {buffers buffers' : Buffers}
variable {journal journal' : Journal} {cohort : CohortName}

theorem flushed_window {flush flush' : Flush}
    (flushed : Flushed config cohort flush shared buffers journal shared' buffers' journal' flush') :
    flush'.window_start = flush.window_start ∧ buffers'.current_window_start = buffers.current_window_start := by
  cases flushed <;> exact ⟨rfl, rfl⟩

theorem flushed_taken {flush flush' : Flush}
    (flushed : Flushed config cohort flush shared buffers journal shared' buffers' journal' flush')
    (buffered : Every (RecordsWithin flush.window_start config.window_seconds) buffers.states)
    (taken : ∀ batch ∈ journal.taken, ∀ record ∈ batch.records,
      Within batch.header.window_start batch.header.window_seconds record.receive_time) :
    ∀ batch ∈ journal'.taken, ∀ record ∈ batch.records,
      Within batch.header.window_start batch.header.window_seconds record.receive_time := by
  cases flushed with
  | take state stage found something =>
    intro batch member
    rcases List.mem_append.mp member with old | new
    · exact taken batch old
    · obtain rfl := List.mem_singleton.mp new
      exact buffered cohort state found
  | _ => exact taken

theorem nothing_left {flush : Flush} (through : flush.cohorts = []) : left flush = [] := by
  unfold left
  split <;> simp [through]

/-- With no records in any state, all of them are in any window. -/
theorem every_empty_within {states : States} (nothing : ∀ cohort, ¬Filled HasRecords states cohort)
    (window_start window_seconds : Nat) : Every (RecordsWithin window_start window_seconds) states := by
  intro cohort state found record member
  exact absurd ⟨state, found, List.ne_nil_of_mem member⟩ (nothing cohort)

theorem Sorted.wrote {senders : Bool} (sorted : Sorted config buffers journal.taken)
    (wrote : Wrote config senders shared buffers journal shared' buffers' journal')
    (on_time : ∀ event, buffers.control = .Advance event → buffers.current_window_start ≤ event.receive_time / 1000000)
    (positive : 0 < config.window_seconds) : Sorted config buffers' journal'.taken := by
  obtain ⟨buffered, hand, flushing, leaving, unrelieved, unadded, taken⟩ := sorted
  cases wrote with
  | select deadline control => exact ⟨buffered, nofun, nofun, nofun, nofun, nofun, taken⟩
  | receive event channel deadline control first => exact ⟨buffered, nofun, nofun, nofun, nofun, nofun, taken⟩
  | drained deadline control empty gone => exact ⟨buffered, nofun, nofun, nofun, nofun, nofun, taken⟩
  | woke deadline control => exact ⟨buffered, nofun, nofun, nofun, nofun, nofun, taken⟩
  | stay event control early =>
    refine ⟨buffered, fun other window_start member => ?_, nofun, nofun, nofun, nofun, taken⟩
    obtain ⟨rfl, rfl⟩ := Prod.mk.inj (List.mem_singleton.mp member)
    have late := on_time other control
    have aligned : aligned_window_start (other.receive_time / 1000000) config.window_seconds =
        .ok (other.receive_time / 1000000 - other.receive_time / 1000000 % config.window_seconds) := by
      rw [aligned_window_start, if_neg positive.ne']
    obtain ⟨_, inside, _⟩ := aligned_window_start_le aligned
    have before := early _ aligned
    exact ⟨late, inside.trans_le (Nat.add_le_add_right before _)⟩
  | advance event window_start control aligned later =>
    refine ⟨buffered, fun other start member => ?_, nofun, nofun, nofun, nofun, taken⟩
    obtain ⟨rfl, rfl⟩ := Prod.mk.inj (List.mem_singleton.mp member)
    obtain ⟨before, inside, _⟩ := aligned_window_start_le aligned
    exact ⟨before, inside⟩
  | close after cohorts control keys =>
    refine ⟨every_fold_all (within_on_records _ _) buffered, fun event window_start member => ?_, fun flush after' same => ?_,
      fun flush after' same _ cohort filled => ?_, nofun, nofun, taken⟩
    · cases after with
      | EnterWindow other start => exact hand event window_start (by rw [control]; exact member)
      | Relieve other => exact absurd control (unrelieved other)
      | Add other => exact absurd control (unadded other)
      | NextWindow => cases member
      | Return => cases member
    · obtain ⟨rfl, rfl⟩ := Control.Flushing.inj same
      rfl
    · obtain ⟨rfl, rfl⟩ := Control.Flushing.inj same
      obtain ⟨state, found, -⟩ := filled
      exact keys.mem_iff.mpr (AList.lookup_isSome.mp (by rw [found]; rfl))
  | fold event control folded =>
    refine ⟨every_fold (within_on_records _ _) buffered folded, fun other window_start member => ?_, nofun, nofun, nofun, nofun, taken⟩
    exact hand other window_start (by rw [control]; exact member)
  | spill event control exceeds =>
    refine ⟨buffered, fun other window_start member => ?_, fun flush after same => ?_, fun flush after same leaves => ?_, nofun, nofun,
      taken⟩
    · exact hand other window_start (by rw [control]; exact member)
    · obtain ⟨rfl, rfl⟩ := Control.Flushing.inj same
      rfl
    · obtain ⟨rfl, rfl⟩ := Control.Flushing.inj same
      cases leaves
  | within event control fits =>
    refine ⟨buffered, fun other window_start member => ?_, nofun, nofun, nofun, nofun, taken⟩
    exact hand other window_start (by rw [control]; exact member)
  | relieve event cohort control pressure largest =>
    refine ⟨buffered, fun other window_start member => ?_, fun flush after same => ?_, fun flush after same leaves => ?_, nofun, nofun,
      taken⟩
    · exact hand other window_start (by rw [control]; exact member)
    · obtain ⟨rfl, rfl⟩ := Control.Flushing.inj same
      rfl
    · obtain ⟨rfl, rfl⟩ := Control.Flushing.inj same
      cases leaves
  | relieved event control free =>
    refine ⟨buffered, fun other window_start member => ?_, nofun, nofun, nofun, nofun, taken⟩
    exact hand other window_start (by rw [control]; exact member)
  | resume flush after control through resumed =>
    have emptied : Leaves after → ∀ cohort, ¬Filled HasRecords buffers.states cohort := fun leaves cohort filled => by
      have member := leaving flush after control leaves cohort filled
      rw [nothing_left through] at member
      cases member
    cases resumed with
    | enter_window event window_start =>
      refine ⟨every_empty_within (emptied trivial) _ _, fun other start member => ?_, nofun, nofun, nofun, nofun, taken⟩
      exact hand other start (by rw [control]; exact member)
    | relieve event =>
      refine ⟨buffered, fun other start member => ?_, nofun, nofun, nofun, nofun, taken⟩
      exact hand other start (by rw [control]; exact member)
    | add event =>
      refine ⟨buffered, fun other start member => ?_, nofun, nofun, nofun, nofun, taken⟩
      exact hand other start (by rw [control]; exact member)
    | next_window current_window_start =>
      exact ⟨every_empty_within (emptied trivial) _ _, nofun, nofun, nofun, nofun, nofun, taken⟩
    | returned => exact ⟨buffered, nofun, nofun, nofun, nofun, nofun, taken⟩
  | flush flush after cohort cohorts control first flushed =>
    obtain ⟨same_window, same_current⟩ := flushed_window flushed
    have here := flushing flush after control
    refine ⟨?_, fun event window_start member => ?_, fun flush' after' same => ?_, fun flush' after' same leaves other => ?_, nofun, nofun,
      flushed_taken flushed (here ▸ buffered) taken⟩
    · have kept := every_flushed (within_on_records _ _) buffered flushed
      rw [← same_current] at kept
      exact kept
    · refine hand event window_start ?_
      rw [control, ← same_current]
      cases after <;> exact member
    · obtain ⟨rfl, rfl⟩ := Control.Flushing.inj same
      exact same_window.trans (here.trans same_current.symm)
    · obtain ⟨rfl, rfl⟩ := Control.Flushing.inj same
      have fewer : Filled HasRecords _ other → other ∈ left _ :=
        flushed_left first flushed (fun state records empty => records empty.1)
          (fun ledger states folded => fold_no_records folded) (leaving flush after control leaves other)
      exact fewer
  | add event control =>
    refine ⟨?_, nofun, nofun, nofun, nofun, nofun, taken⟩
    have wrote : Wrote config senders shared buffers journal shared _ journal := .add event control
    refine every_wrote (within_on_records _ _) buffered wrote fun other same state _ kept record member => ?_
    rcases List.mem_append.mp member with old | new
    · exact kept record old
    · obtain rfl := List.mem_singleton.mp new
      exact hand other _ (by rw [same]; exact List.mem_singleton.mpr rfl)

theorem Sorted.step {state state' : State} (sorted : Sorted limits.writer state.buffers state.journal.taken)
    (moved : Moved limits state state')
    (on_time : ∀ event, state.buffers.control = .Advance event →
      state.buffers.current_window_start ≤ event.receive_time / 1000000) (positive : 0 < limits.writer.window_seconds) :
    Sorted limits.writer state'.buffers state'.journal.taken := by
  cases moved with
  | write wrote => exact sorted.wrote wrote on_time positive
  | _ => exact sorted

theorem start_sorted {now : Nat} {begun : State} (started : start limits now = .ok begun) :
    Sorted limits.writer begun.buffers begun.journal.taken ∧ 0 < limits.writer.window_seconds := by
  obtain ⟨-, -, -, -, -, states, control, journal⟩ := start_ok started
  constructor
  · refine ⟨?_, ?_, ?_, ?_, ?_, ?_, ?_⟩
    · rw [states]
      exact every_empty
    · rw [control]
      nofun
    · rw [control]
      nofun
    · rw [control]
      nofun
    · rw [control]
      nofun
    · rw [control]
      nofun
    · rw [journal]
      nofun
  · obtain ⟨window_start, aligned, -⟩ := Results.bind_ok.mp started
    obtain ⟨-, inside, -⟩ := aligned_window_start_le aligned
    by_contra zero
    obtain ⟨before, -, -⟩ := aligned_window_start_le aligned
    omega

/-- In every run in which no frame reaches the writer after its window was left, each record of each part, and of each
    object made of one, lies in the window of the part. -/
theorem records_within_window (limits : Limits) (now : Nat) (begun : State) (started : start limits now = .ok begun)
    (state : State) (reached : Reached (step limits) OnTime begun state) :
    (∀ batch ∈ state.journal.taken, ∀ record ∈ batch.records,
      Within batch.header.window_start batch.header.window_seconds record.receive_time) ∧
      ∀ upload ∈ state.journal.uploads, Serialized upload.batch upload.segment ∧ ∀ record ∈ upload.batch.records,
        Within upload.batch.header.window_start upload.batch.header.window_seconds record.receive_time := by
  obtain ⟨initial, positive⟩ := start_sorted started
  have kept : ∀ before action later, Reached (step limits) OnTime begun before →
      Sorted limits.writer before.buffers before.journal.taken → OnTime before action →
      step limits before action = some later → Sorted limits.writer later.buffers later.journal.taken :=
    fun before action later _ sorted on_time taken => sorted.step (step_cases taken) on_time positive
  have sorted : Sorted limits.writer state.buffers state.journal.taken := reached.invariant initial kept
  refine ⟨sorted.taken, fun upload member => ?_⟩
  have sent := (reached_traced started reached.any).uploads upload member
  exact ⟨sent.serialized, sorted.taken _ sent.taken⟩

/-- Whether the frame that the writer takes on, if it takes one on, comes in time. -/
def on_time (state : State) (_ : Action) : Bool :=
  match state.buffers.control with
  | .Advance event => state.buffers.current_window_start ≤ event.receive_time / 1000000
  | _ => true

theorem on_time_iff {state : State} {action : Action} : on_time state action = true ↔ OnTime state action := by
  unfold on_time OnTime
  cases state.buffers.control <;> simp

theorem whole_run_within : ∃ begun state, start tightLimits 0 = .ok begun ∧ Reached (step tightLimits) OnTime begun state ∧
    state.journal.uploads.map (fun upload => upload.batch.records.length) = [1] ∧
    ∀ upload ∈ state.journal.uploads, ∀ record ∈ upload.batch.records,
      Within upload.batch.header.window_start upload.batch.header.window_seconds record.receive_time := by
  have outcome : (checked tightLimits on_time 0 wholeRun).map (fun state =>
      state.journal.uploads.map fun upload => upload.batch.records.length) = some [1] := by
    decide
  obtain ⟨state, ran, uploads⟩ := Option.map_eq_some_iff.mp outcome
  obtain ⟨begun, started, reached⟩ := checked_reached ran
  have reached : Reached (step tightLimits) OnTime begun state := reached.mono fun _ _ passes => on_time_iff.mp passes
  exact ⟨begun, state, started, reached, uploads, fun upload member =>
    ((records_within_window tightLimits 0 begun started state reached).2 upload member).2⟩

/-! ### A frame that comes late -/

/-- The wall clock is read, and never goes back. -/
def Forward (state : State) (action : Action) : Prop :=
  ∀ micros clock, action = .Tick micros clock → ∃ before after, state.clock = some before ∧ clock = some after ∧ before ≤ after

def forward (state : State) : Action → Bool
  | .Tick _ clock => state.clock.any fun before => clock.any fun after => before ≤ after
  | _ => true

theorem forward_ok {state : State} {action : Action} (passes : forward state action = true) : Forward state action := by
  rintro micros clock rfl
  obtain ⟨before, read, passes⟩ := (Option.any_eq_true _ _).mp passes
  obtain ⟨after, later, ordered⟩ := (Option.any_eq_true _ _).mp passes
  exact ⟨before, after, read, later, of_decide_eq_true ordered⟩

/-- A frame waits in the channel when the timer closes its window, and goes into a part of the next one. -/
def lateRun : List Action :=
  [.Write .Proceed, .Accept 0, .Stamp 0 (bareFrame "a"), .Turn 0, .Turn 0, .Turn 0, .Tick 1000000 (some 60900000),
    .Write .Sleep, .Write (.Keys []), .Write .Proceed, .Write .Proceed, .Write .Receive, .Write .Proceed, .Write .Proceed,
    .Write .Proceed, .Write .Proceed, .Write .Proceed, .Disconnect 0, .HangUp, .Write .Proceed, .Write .Receive,
    .Write (.Keys [a]), .Write .Proceed, .Write .Proceed, .Write .Proceed, .Write .Proceed, .Write .Proceed, .Write .Proceed,
    .Write (.Put ⟨0, zero_fits⟩ .Ok), .Write .Proceed]

theorem late_frame_outside : ∃ begun, start tightLimits 59900000 = .ok begun ∧
    ¬∀ state, Reached (step tightLimits) Forward begun state → ∀ upload ∈ state.journal.uploads, ∀ record ∈ upload.batch.records,
      Within upload.batch.header.window_start upload.batch.header.window_seconds record.receive_time := by
  have outcome : (checked tightLimits forward 59900000 lateRun).map (fun state =>
      state.journal.uploads.map fun upload => (upload.batch.header.window_start,
        upload.batch.records.map BufferedRecord.receive_time)) = some [(60, [59900000])] := by
    decide
  obtain ⟨state, ran, uploads⟩ := Option.map_eq_some_iff.mp outcome
  obtain ⟨begun, started, reached⟩ := checked_reached ran
  have reached : Reached (step tightLimits) Forward begun state := reached.mono fun _ _ passes => forward_ok passes
  refine ⟨begun, started, fun all => ?_⟩
  obtain ⟨upload, one, values⟩ := List.map_eq_singleton_iff.mp uploads
  obtain ⟨window, times⟩ := Prod.mk.inj values
  obtain ⟨record, records, time⟩ := List.map_eq_singleton_iff.mp times
  have within := (all state reached upload (by rw [one]; exact List.mem_singleton.mpr rfl) record
    (by rw [records]; exact List.mem_singleton.mpr rfl)).1
  rw [window, time] at within
  exact absurd within (by decide)

end VectorSeam.ReceiveWindows
