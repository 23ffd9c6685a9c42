import VectorSeam.Transitions

/-!
Where the frames of the collector are. Every frame that got a receive time is in one
place: with a connection, in the channel, in the writer's hand, in an open buffer, in a
part that was taken, or among the dropped ones; and every drop is counted once, in the
ledger, in an open buffer or in the header of a part.
-/

namespace VectorSeam.Custody
open VectorSeam.LittleEndian VectorSeam.Cohort VectorSeam.Window VectorSeam.Segments VectorSeam.Model VectorSeam.Reader VectorSeam.Writer
open VectorSeam.Tables VectorSeam.Machines VectorSeam.Collector VectorSeam.Transitions

/-- The frame that a connection has neither passed on nor counted as dropped. -/
def held : Pass → List FrameEvent
  | .Reading => []
  | .Stamped event => [event]
  | .Loaded event _ => [event]
  | .Refused event => [event]
  | .Reserved event => [event]
  | .Unsent event _ => [event]
  | .Releasing _ _ => []

def after_hand : After → List FrameEvent
  | .EnterWindow event _ => [event]
  | .Relieve event => [event]
  | .Add event => [event]
  | .NextWindow => []
  | .Return => []

/-- The frame that the writer has received and not yet buffered. -/
def hand : Control → List FrameEvent
  | .Select => []
  | .Waiting _ => []
  | .Advance event => [event]
  | .Closing after => after_hand after
  | .Fold event => [event]
  | .Spill event => [event]
  | .Relieve event => [event]
  | .Flushing _ after => after_hand after
  | .Add event => [event]
  | .Returned => []

/-- The frame that a record was made of. -/
def event_of (cohort : CohortName) (record : BufferedRecord) : FrameEvent :=
  { cohort, receive_time := record.receive_time, frame := record.frame, memory := record.memory }

def buffered (cohort : CohortName) (state : CohortState) : List FrameEvent := state.records.map (event_of cohort)
def part_frames (batch : FlushBatch) : List FrameEvent := batch.records.map (event_of batch.header.cohort)

/-- How many chosen frames a connection and a state have. -/
def carries (chosen : FrameEvent → Bool) (_ : Nat) (pass : Pass) : Nat := (held pass).countP chosen
def keeps (chosen : FrameEvent → Bool) (cohort : CohortName) (state : CohortState) : Nat := (buffered cohort state).countP chosen

/-! ### Weights of states -/

/-- A weight that looks at the records of a state only. -/
structure OfRecords (weight : CohortName → CohortState → Nat) : Prop where
  uncounted : ∀ cohort state count, weight cohort { state with received_frame_count := count } = weight cohort state
  empty : ∀ cohort, weight cohort .default = 0

theorem keeps_of_records (chosen : FrameEvent → Bool) : OfRecords (keeps chosen) where
  uncounted _ _ _ := rfl
  empty _ := rfl

variable {weight : CohortName → CohortState → Nat} {states states' : States} {ledger ledger' : Ledger} {cohort : CohortName}

/-- The state of a cohort, made if there is none, weighs what the table holds for it. -/
theorem weight_getD (empty : ∀ cohort, weight cohort .default = 0) :
    weight cohort ((states.lookup cohort).getD .default) = share weight cohort states := by
  cases found : states.lookup cohort with
  | none => rw [share_none found, Option.getD_none, empty]
  | some state => rw [share_eq found, Option.getD_some]

theorem total_count_drops (records : OfRecords weight) (drops : Nat) :
    total weight (count_drops states cohort drops) = total weight states := by
  have inserted := total_insert weight cohort { (states.lookup cohort).getD .default with
    received_frame_count := saturating_add ((states.lookup cohort).getD .default).received_frame_count drops } states
  rw [records.uncounted, weight_getD records.empty] at inserted
  exact Nat.add_right_cancel inserted

theorem total_fold_pending_drops (records : OfRecords weight)
    (folded : fold_pending_drops cohort ledger states = (ledger', states')) : total weight states' = total weight states := by
  obtain ⟨-, ⟨-, rfl⟩ | ⟨-, rfl⟩⟩ := fold_cases folded
  · rfl
  · exact total_count_drops records _

theorem total_fold_all_pending_drops (records : OfRecords weight) :
    total weight (fold_all_pending_drops ledger states) = total weight states := by
  unfold fold_all_pending_drops
  induction ledger.entries generalizing states with
  | nil => rfl
  | cons entry entries ih => rw [List.foldl_cons, ih, total_count_drops records]

/-- What a new record adds to the weight of a table. -/
theorem total_add_record (weight : CohortName → CohortState → Nat) (states : States) (event : FrameEvent) (bytes added : Nat)
    (empty : ∀ cohort, weight cohort .default = 0)
    (adds : ∀ state, (states.lookup event.cohort).getD .default = state → weight event.cohort {
        records := state.records ++ [{ receive_time := event.receive_time, frame := event.frame, memory := event.memory }]
        bytes := saturating_add state.bytes bytes
        received_frame_count := saturating_add state.received_frame_count 1 } = weight event.cohort state + added) :
    total weight (add_record states event bytes) = total weight states + added := by
  have inserted := total_insert weight event.cohort {
    records := ((states.lookup event.cohort).getD .default).records ++
      [{ receive_time := event.receive_time, frame := event.frame, memory := event.memory }]
    bytes := saturating_add ((states.lookup event.cohort).getD .default).bytes bytes
    received_frame_count := saturating_add ((states.lookup event.cohort).getD .default).received_frame_count 1 } states
  rw [adds _ rfl, weight_getD empty] at inserted
  simp only [add_record]
  omega

/-! ### Facts about all states -/

/-- A fact that stays when drops are counted, as one does that looks at the records of a state only. -/
structure OnRecords (holds : CohortName → CohortState → Prop) : Prop where
  uncounted : ∀ cohort state drops, holds cohort state →
    holds cohort { state with received_frame_count := saturating_add state.received_frame_count drops }
  empty : ∀ cohort, holds cohort .default

theorem every_count_drops {holds : CohortName → CohortState → Prop} (rule : OnRecords holds) (every : Every holds states)
    (drops : Nat) : Every holds (count_drops states cohort drops) :=
  every.insert (rule.uncounted _ _ _ (every.getD (rule.empty _)))

theorem every_fold {holds : CohortName → CohortState → Prop} (rule : OnRecords holds) (every : Every holds states)
    (folded : fold_pending_drops cohort ledger states = (ledger', states')) : Every holds states' := by
  obtain ⟨-, ⟨-, rfl⟩ | ⟨-, rfl⟩⟩ := fold_cases folded
  · exact every
  · exact every_count_drops rule every _

theorem every_fold_all {holds : CohortName → CohortState → Prop} (rule : OnRecords holds) (every : Every holds states) :
    Every holds (fold_all_pending_drops ledger states) := by
  unfold fold_all_pending_drops
  induction ledger.entries generalizing states with
  | nil => exact every
  | cons entry entries ih => exact ih (every_count_drops rule every _)

theorem every_flushed {holds : CohortName → CohortState → Prop} {config : WriterConfig} {flush flush' : Flush}
    {shared shared' : Shared} {buffers buffers' : Buffers} {journal journal' : Journal} (rule : OnRecords holds)
    (every : Every holds buffers.states)
    (flushed : Flushed config cohort flush shared buffers journal shared' buffers' journal' flush') :
    Every holds buffers'.states := by
  cases flushed with
  | fold stage folded => exact every_fold rule every folded
  | take state stage found something => exact every.erase
  | _ => exact every

/-- A fact about all states is kept if the state with a new record has it. -/
theorem every_wrote {holds : CohortName → CohortState → Prop} {config : WriterConfig} {senders : Bool}
    {shared shared' : Shared} {buffers buffers' : Buffers} {journal journal' : Journal} (rule : OnRecords holds)
    (every : Every holds buffers.states)
    (wrote : Wrote config senders shared buffers journal shared' buffers' journal')
    (adds : ∀ event, buffers.control = .Add event → ∀ state, (buffers.states.lookup event.cohort).getD .default = state →
      holds event.cohort state → holds event.cohort {
        records := state.records ++ [{ receive_time := event.receive_time, frame := event.frame, memory := event.memory }]
        bytes := saturating_add state.bytes event.memory
        received_frame_count := saturating_add state.received_frame_count 1 }) : Every holds buffers'.states := by
  cases wrote with
  | close after cohorts control keys => exact every_fold_all rule every
  | fold event control folded => exact every_fold rule every folded
  | resume flush after control through resumed => cases resumed <;> exact every
  | flush flush after cohort cohorts control first flushed =>
    have kept := every_flushed rule every flushed
    exact kept
  | add event control => exact every.insert (adds event control _ rfl (every.getD (rule.empty _)))
  | _ => exact every

/-! ### Every frame is in one place -/

/-- The frames of the collector, wherever they are, by a property of theirs. -/
def located (state : State) (chosen : FrameEvent → Bool) : Nat :=
  total (carries chosen) state.connections + state.shared.channel.countP chosen +
    (hand state.buffers.control).countP chosen +
    total (keeps chosen) state.buffers.states +
    (state.journal.taken.flatMap part_frames).countP chosen + state.journal.dropped.countP chosen

variable {limits : Limits} {config : WriterConfig} {shared shared' : Shared} {buffers buffers' : Buffers}
variable {journal journal' : Journal} {chosen : FrameEvent → Bool}

theorem turned_located (chosen : FrameEvent → Bool) {gone : Bool} {dropped dropped' : List FrameEvent} {pass : Pass} {pass' : Option Pass}
    (turned : Turned limits gone shared dropped pass shared' dropped' pass') :
    ∀ connection, carries chosen connection pass + shared.channel.countP chosen + dropped.countP chosen =
      pass'.elim 0 (carries chosen connection) + shared'.channel.countP chosen + dropped'.countP chosen := by
  intro connection
  cases turned with
  | load event => rfl
  | refuse event current full => rfl
  | again event current moved => rfl
  | reserve event fits => rfl
  | memory_drop event =>
    simp [carries, held, List.countP_append]
    omega
  | closed event gone => rfl
  | full event waiting => rfl
  | send event waiting here =>
    simp [carries, held, List.countP_append]
    omega
  | channel_drop event closed =>
    simp [carries, held, List.countP_append]
    omega
  | release closed turned => rfl
  | released closed turned => cases closed <;> rfl

theorem flushed_located (chosen : FrameEvent → Bool) {flush flush' : Flush}
    (flushed : Flushed config cohort flush shared buffers journal shared' buffers' journal' flush') :
    total (keeps chosen) buffers'.states +
        (journal'.taken.flatMap part_frames).countP chosen =
      total (keeps chosen) buffers.states +
        (journal.taken.flatMap part_frames).countP chosen ∧
      shared'.channel = shared.channel ∧ journal'.received = journal.received ∧ journal'.dropped = journal.dropped := by
  cases flushed with
  | fold stage folded => exact ⟨by rw [total_fold_pending_drops (keeps_of_records chosen) folded], rfl, rfl, rfl⟩
  | missing stage none => exact ⟨rfl, rfl, rfl, rfl⟩
  | nothing state stage found no_records uncounted => exact ⟨rfl, rfl, rfl, rfl⟩
  | take state stage found something =>
    have erased := total_erase (keeps chosen) cohort buffers.states
    rw [share_eq found] at erased
    have part : (part_frames (batch_of config cohort flush.window_start state)).countP chosen = keeps chosen cohort state := rfl
    refine ⟨?_, rfl, rfl, rfl⟩
    simp only [List.flatMap_append, List.countP_append, List.flatMap_cons, List.flatMap_nil, List.append_nil, part]
    omega
  | serialize batch segment flush_failures stage written => exact ⟨rfl, rfl, rfl, rfl⟩
  | release batch guards segment stage turned => exact ⟨rfl, rfl, rfl, rfl⟩
  | released batch guards segment stage turned => exact ⟨rfl, rfl, rfl, rfl⟩
  | give_up batch stage => exact ⟨rfl, rfl, rfl, rfl⟩
  | dropped batch segment stage => exact ⟨rfl, rfl, rfl, rfl⟩
  | no_key batch segment part error stage failed => exact ⟨rfl, rfl, rfl, rfl⟩
  | put batch segment part outcome key flushed_parts flush_failures stage named => exact ⟨rfl, rfl, rfl, rfl⟩

theorem resumed_keeps {after : After} (resumed : Resumed config buffers after buffers') :
    hand buffers'.control = after_hand after ∧ buffers'.states = buffers.states := by
  cases resumed <;> exact ⟨rfl, rfl⟩

theorem wrote_located (chosen : FrameEvent → Bool) {senders : Bool} (wrote : Wrote config senders shared buffers journal shared' buffers' journal') :
    shared'.channel.countP chosen + (hand buffers'.control).countP chosen +
        total (keeps chosen) buffers'.states +
        (journal'.taken.flatMap part_frames).countP chosen =
      shared.channel.countP chosen + (hand buffers.control).countP chosen +
        total (keeps chosen) buffers.states +
        (journal.taken.flatMap part_frames).countP chosen ∧
      journal'.received = journal.received ∧ journal'.dropped = journal.dropped := by
  cases wrote with
  | select deadline control => exact ⟨by simp only [control, hand], rfl, rfl⟩
  | receive event channel deadline control first =>
    refine ⟨?_, rfl, rfl⟩
    simp only [control, hand, first, List.countP_cons, List.countP_nil]
    omega
  | drained deadline control empty gone => exact ⟨by simp only [control, hand, after_hand], rfl, rfl⟩
  | woke deadline control => exact ⟨by simp only [control, hand, after_hand], rfl, rfl⟩
  | stay event control early => exact ⟨by simp only [control, hand], rfl, rfl⟩
  | advance event window_start control aligned later => exact ⟨by simp only [control, hand, after_hand], rfl, rfl⟩
  | close after cohorts control keys =>
    exact ⟨by simp only [control, hand, total_fold_all_pending_drops (keeps_of_records chosen)], rfl, rfl⟩
  | fold event control folded =>
    exact ⟨by simp only [control, hand, total_fold_pending_drops (keeps_of_records chosen) folded], rfl, rfl⟩
  | spill event control exceeds => exact ⟨by simp only [control, hand, after_hand], rfl, rfl⟩
  | within event control fits => exact ⟨by simp only [control, hand], rfl, rfl⟩
  | relieve event cohort control pressure largest => exact ⟨by simp only [control, hand, after_hand], rfl, rfl⟩
  | relieved event control free => exact ⟨by simp only [control, hand], rfl, rfl⟩
  | resume flush after control through resumed =>
    obtain ⟨same_hand, same_states⟩ := resumed_keeps resumed
    exact ⟨by rw [same_hand, same_states, control]; rfl, rfl, rfl⟩
  | flush flush after cohort cohorts control first flushed =>
    obtain ⟨moved, channel, received, dropped⟩ := flushed_located chosen flushed
    refine ⟨?_, received, dropped⟩
    simp only [control, hand, channel]
    omega
  | add event control =>
    have added := total_add_record (keeps chosen) buffers.states event event.memory ([event].countP chosen)
      (fun _ => rfl) fun state _ => by
        simp only [keeps, buffered, List.map_append, List.countP_append, List.map_cons, List.map_nil]
        rfl
    refine ⟨?_, rfl, rfl⟩
    simp only [control, hand, List.countP_nil, added]
    omega

/-- A new place of a connection, in a sum over all connections. -/
theorem total_moved (weight : Nat → Pass → Nat) {connections : Table Nat Pass} {connection : Nat} {pass : Pass} (pass' : Pass)
    (here : connections.lookup connection = some pass) :
    total weight (connections.insert connection pass') + weight connection pass =
      total weight connections + weight connection pass' := by
  have inserted := total_insert weight connection pass' connections
  rwa [share_eq here] at inserted

theorem total_ended (weight : Nat → Pass → Nat) {connections : Table Nat Pass} {connection : Nat} {pass : Pass}
    (here : connections.lookup connection = some pass) :
    total weight (connections.erase connection) + weight connection pass = total weight connections := by
  have erased := total_erase weight connection connections
  rwa [share_eq here] at erased

theorem moved_located {state state' : State} (moved : Moved limits state state') :
    located state' chosen + state.journal.received.countP chosen =
      located state chosen + state'.journal.received.countP chosen := by
  have reading : ∀ connection, carries chosen connection .Reading = 0 := fun _ => rfl
  unfold located
  cases moved with
  | tick elapsed clock => rfl
  | accept connection open_ fresh =>
    have inserted := total_insert (carries chosen) connection .Reading state.connections
    rw [share_none fresh, reading] at inserted
    dsimp only
    omega
  | disconnect connection here =>
    have ended := total_ended (carries chosen) here
    rw [reading] at ended
    dsimp only
    omega
  | hang_up joined => rfl
  | stamp connection frame event here stamped =>
    have placed := total_moved (carries chosen) (.Stamped event) here
    have stamped : carries chosen connection (.Stamped event) = [event].countP chosen := rfl
    rw [reading] at placed
    dsimp only
    rw [List.countP_append]
    omega
  | turn connection pass pass' here turned =>
    have placed := total_moved (carries chosen) pass' here
    have balance := turned_located chosen turned connection
    rw [Option.elim_some] at balance
    dsimp only
    omega
  | last_turn connection pass here turned =>
    have ended := total_ended (carries chosen) here
    have balance := turned_located chosen turned connection
    rw [Option.elim_none] at balance
    dsimp only
    omega
  | write wrote =>
    obtain ⟨balance, received, dropped⟩ := wrote_located chosen wrote
    dsimp only
    rw [received, dropped]
    omega

/-! ### What a flush has still to take -/

/-- The state of a cohort, if there is one, is of a kind. -/
def Filled (full : CohortState → Prop) (states : States) (cohort : CohortName) : Prop :=
  ∃ state, states.lookup cohort = some state ∧ full state

/-- The cohorts whose states a flush has still to take. -/
def left (flush : Flush) : List CohortName :=
  match flush.stage with
  | .Folding => flush.cohorts
  | .Taking => flush.cohorts
  | _ => flush.cohorts.tail

theorem Filled.erased {full : CohortState → Prop} {other : CohortName} (filled : Filled full (states.erase cohort) other) :
    other ≠ cohort ∧ Filled full states other := by
  obtain ⟨state, found, holds⟩ := filled
  by_cases same : other = cohort
  · subst same
    rw [AList.lookup_erase] at found
    cases found
  · exact ⟨same, state, by rwa [AList.lookup_erase_ne same] at found, holds⟩

/-- If folding does not fill a state, a flush does not, and it takes the first cohort's before it goes on to the next. -/
theorem flushed_left {full : CohortState → Prop} {other : CohortName} {cohorts : List CohortName} {flush flush' : Flush}
    (first : flush.cohorts = cohort :: cohorts)
    (flushed : Flushed config cohort flush shared buffers journal shared' buffers' journal' flush')
    (fills : ∀ state, full state → ¬(state.records = [] ∧ state.received_frame_count = 0))
    (folds : ∀ ledger states, fold_pending_drops cohort shared.pending_cohort_drops buffers.states = (ledger, states) →
      Filled full states other → Filled full buffers.states other)
    (remaining : Filled full buffers.states other → other ∈ left flush) (filled : Filled full buffers'.states other) :
    other ∈ left flush' := by
  have behind : ∀ stage, flush.stage = stage → (stage ≠ .Folding ∧ stage ≠ .Taking) → Filled full buffers.states other →
      other ∈ cohorts := by
    rintro stage same ⟨folded, taken⟩ filled
    have member := remaining filled
    subst same
    unfold left at member
    split at member
    · rename_i stage
      exact absurd stage folded
    · rename_i stage
      exact absurd stage taken
    · rwa [first] at member
  have rest : left flush.next = cohorts := by
    simp [left, Flush.next, first]
  have later : ∀ stage, (stage ≠ .Folding ∧ stage ≠ .Taking) → left { flush with stage } = cohorts := by
    rintro stage ⟨folded, taken⟩
    cases stage with
    | Folding => exact absurd rfl folded
    | Taking => exact absurd rfl taken
    | _ => exact congrArg List.tail first
  cases flushed with
  | fold stage folded =>
    have member := remaining (folds _ _ folded filled)
    rwa [left, stage] at member
  | missing stage none =>
    have member := remaining filled
    rw [left, stage, first] at member
    rw [rest]
    refine (List.mem_cons.mp member).resolve_left fun same => ?_
    obtain ⟨state, found, -⟩ := filled
    rw [same, none] at found
    cases found
  | nothing state stage found no_records uncounted =>
    have member := remaining filled
    rw [left, stage, first] at member
    rw [rest]
    refine (List.mem_cons.mp member).resolve_left fun same => ?_
    obtain ⟨state', found', holds⟩ := filled
    rw [same, found] at found'
    obtain rfl := Option.some.inj found'
    exact fills _ holds ⟨no_records, uncounted⟩
  | take state stage found something =>
    obtain ⟨different, filled⟩ := filled.erased
    have member := remaining filled
    rw [left, stage, first] at member
    rw [later (.Serializing _) ⟨nofun, nofun⟩]
    exact (List.mem_cons.mp member).resolve_left different
  | serialize batch segment flush_failures stage written =>
    rw [later (.Dropping _ _ _) ⟨nofun, nofun⟩]
    exact behind _ stage ⟨nofun, nofun⟩ filled
  | release batch guards segment stage turned =>
    rw [later (.Dropping _ _ _) ⟨nofun, nofun⟩]
    exact behind _ stage ⟨nofun, nofun⟩ filled
  | released batch guards segment stage turned =>
    rw [later (.Dropping _ _ _) ⟨nofun, nofun⟩]
    exact behind _ stage ⟨nofun, nofun⟩ filled
  | give_up batch stage => exact rest ▸ behind _ stage ⟨nofun, nofun⟩ filled
  | dropped batch segment stage =>
    rw [later (.Putting _ _) ⟨nofun, nofun⟩]
    exact behind _ stage ⟨nofun, nofun⟩ filled
  | no_key batch segment part error stage failed => exact rest ▸ behind _ stage ⟨nofun, nofun⟩ filled
  | put batch segment part outcome key flushed_parts flush_failures stage named =>
    exact rest ▸ behind _ stage ⟨nofun, nofun⟩ filled

/-! ### From states to objects -/

def Serialized (batch : FlushBatch) (segment : Bytes) : Prop :=
  write_segment batch.header (batch.records.map segment_record) = .ok segment

/-- A batch that was made of the state of a cohort. -/
def FromState (config : WriterConfig) (batch : FlushBatch) : Prop :=
  ∃ cohort window_start state, batch = batch_of config cohort window_start state

/-- A stage of the flush of a batch that was taken. -/
def StageOf (taken : List FlushBatch) : FlushStage → Prop
  | .Folding => True
  | .Taking => True
  | .Serializing batch => batch ∈ taken
  | .Dropping batch _ segment => batch ∈ taken ∧ ∀ bytes, segment = some bytes → Serialized batch bytes
  | .Putting batch segment => batch ∈ taken ∧ Serialized batch segment

def stage_of : Control → FlushStage
  | .Flushing flush _ => flush.stage
  | _ => .Folding

/-- An object that was made of a batch. -/
structure Sent (taken : List FlushBatch) (upload : Upload) : Prop where
  taken : upload.batch ∈ taken
  serialized : Serialized upload.batch upload.segment
  named : object_key upload.batch.header.cohort upload.batch.window_start upload.part = .ok upload.key

/-- Batches come from states, and objects from batches. -/
structure Traced (config : WriterConfig) (control : Control) (journal : Journal) : Prop where
  taken : ∀ batch ∈ journal.taken, FromState config batch
  stage : StageOf journal.taken (stage_of control)
  uploads : ∀ upload ∈ journal.uploads, Sent journal.taken upload

theorem StageOf.more {taken : List FlushBatch} {stage : FlushStage} (before : StageOf taken stage) (batch : FlushBatch) :
    StageOf (taken ++ [batch]) stage := by
  cases stage with
  | Folding => trivial
  | Taking => trivial
  | Serializing other => exact List.mem_append_left _ before
  | Dropping other guards segment => exact ⟨List.mem_append_left _ before.1, before.2⟩
  | Putting other segment => exact ⟨List.mem_append_left _ before.1, before.2⟩

theorem Sent.more {taken : List FlushBatch} {upload : Upload} (sent : Sent taken upload) (batch : FlushBatch) :
    Sent (taken ++ [batch]) upload :=
  ⟨List.mem_append_left _ sent.taken, sent.serialized, sent.named⟩

theorem flushed_traced {flush flush' : Flush}
    (flushed : Flushed config cohort flush shared buffers journal shared' buffers' journal' flush')
    (taken : ∀ batch ∈ journal.taken, FromState config batch) (stage : StageOf journal.taken flush.stage)
    (uploads : ∀ upload ∈ journal.uploads, Sent journal.taken upload) :
    (∀ batch ∈ journal'.taken, FromState config batch) ∧ StageOf journal'.taken flush'.stage ∧
      ∀ upload ∈ journal'.uploads, Sent journal'.taken upload := by
  cases flushed with
  | fold here folded => exact ⟨taken, trivial, uploads⟩
  | missing here none => exact ⟨taken, trivial, uploads⟩
  | nothing state here found no_records uncounted => exact ⟨taken, trivial, uploads⟩
  | take state here found something =>
    refine ⟨fun batch member => ?_, List.mem_append_right _ (List.mem_singleton.mpr rfl), fun upload member =>
      (uploads upload member).more _⟩
    rcases List.mem_append.mp member with old | new
    · exact taken batch old
    · exact ⟨cohort, flush.window_start, state, List.mem_singleton.mp new⟩
  | serialize batch segment flush_failures here written =>
    rw [here] at stage
    exact ⟨taken, ⟨stage, written⟩, uploads⟩
  | release batch guards segment here turned =>
    rw [here] at stage
    exact ⟨taken, stage, uploads⟩
  | released batch guards segment here turned =>
    rw [here] at stage
    exact ⟨taken, stage, uploads⟩
  | give_up batch here => exact ⟨taken, trivial, uploads⟩
  | dropped batch segment here =>
    rw [here] at stage
    exact ⟨taken, ⟨stage.1, stage.2 segment rfl⟩, uploads⟩
  | no_key batch segment part error here failed => exact ⟨taken, trivial, uploads⟩
  | put batch segment part outcome key flushed_parts flush_failures here named =>
    rw [here] at stage
    refine ⟨taken, trivial, fun upload member => ?_⟩
    rcases List.mem_append.mp member with old | new
    · exact uploads upload old
    · obtain rfl := List.mem_singleton.mp new
      exact ⟨stage.1, stage.2, named⟩

theorem Traced.wrote {senders : Bool} (traced : Traced config buffers.control journal)
    (wrote : Wrote config senders shared buffers journal shared' buffers' journal') :
    Traced config buffers'.control journal' := by
  obtain ⟨taken, stage, uploads⟩ := traced
  cases wrote with
  | resume flush after control through resumed => cases resumed <;> exact ⟨taken, trivial, uploads⟩
  | flush flush after cohort cohorts control first flushed =>
    rw [control] at stage
    obtain ⟨taken, stage, uploads⟩ := flushed_traced flushed taken stage uploads
    exact ⟨taken, stage, uploads⟩
  | _ => exact ⟨taken, trivial, uploads⟩

theorem Traced.step {state state' : State} (traced : Traced limits.writer state.buffers.control state.journal)
    (moved : Moved limits state state') : Traced limits.writer state'.buffers.control state'.journal := by
  cases moved with
  | write wrote => exact traced.wrote wrote
  | _ => exact ⟨traced.taken, traced.stage, traced.uploads⟩

end VectorSeam.Custody
