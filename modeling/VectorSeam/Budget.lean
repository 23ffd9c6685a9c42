import VectorSeam.Conservation

/-!
The memory of the frames. What the tracker counts is what the guards hold: those of
connections, of the channel, of the writer's hand, of open buffers and of the batch being
flushed. A release never finds less in use than it gives back, and nothing is reserved
past the limit.
-/

namespace VectorSeam.Budget
open VectorSeam.LittleEndian VectorSeam.Cohort VectorSeam.Window VectorSeam.Segments VectorSeam.Model VectorSeam.Reader
open VectorSeam.Writer VectorSeam.Tables VectorSeam.Machines VectorSeam.Collector VectorSeam.Transitions VectorSeam.Custody
open VectorSeam.Conservation

/-! ### Guards -/

def reserved : Pass → Nat
  | .Reading => 0
  | .Stamped _ => 0
  | .Loaded _ _ => 0
  | .Refused _ => 0
  | .Reserved event => event.memory
  | .Unsent event _ => event.memory
  | .Releasing release _ => release.release_bytes

def memories (events : List FrameEvent) : Nat := (events.map FrameEvent.memory).sum
def stored (records : List BufferedRecord) : Nat := (records.map BufferedRecord.memory).sum
def buffers_memory (_ : CohortName) (state : CohortState) : Nat := stored state.records

def stage_memory : FlushStage → Nat
  | .Folding => 0
  | .Taking => 0
  | .Serializing batch => stored batch.records
  | .Dropping _ guards _ => (guards.map Release.release_bytes).sum
  | .Putting _ _ => 0

/-- What the batch being flushed holds. -/
def flush_memory : Control → Nat
  | .Flushing flush _ => stage_memory flush.stage
  | _ => 0

/-- What all guards hold. -/
def alive (state : State) : Nat :=
  total (fun _ => reserved) state.connections + memories state.shared.channel + memories (hand state.buffers.control) +
    total buffers_memory state.buffers.states + flush_memory state.buffers.control

theorem buffers_of_records : OfRecords buffers_memory where
  uncounted _ _ _ := rfl
  empty _ := rfl

theorem memories_append (front back : List FrameEvent) : memories (front ++ back) = memories front + memories back := by
  simp [memories]

/-- A release gives back no more than it found in use. -/
def Sound (release : Release) : Prop := ∀ current, release.current = some current → release.release_bytes ≤ current

def SoundPass : Pass → Prop
  | .Releasing release _ => Sound release
  | _ => True

def SoundStage : FlushStage → Prop
  | .Dropping _ guards _ => ∀ guard ∈ guards, Sound guard
  | _ => True

theorem new_sound (bytes : Nat) : Sound (.new bytes) := nofun

variable {limits : Limits} {config : WriterConfig} {shared shared' : Shared} {buffers buffers' : Buffers}
variable {journal journal' : Journal} {cohort : CohortName} {states states' : States}

/-- A step of a sound release takes its bytes off at its end, and nothing else. -/
theorem released_memory {memory memory' : MemoryTracker} {release : Release} {release' : Option Release}
    (turned : Released memory release memory' release') (sound : Sound release)
    (held : release.release_bytes ≤ memory.used_bytes) :
    memory'.used_bytes + release.release_bytes = memory.used_bytes + release'.elim 0 Release.release_bytes ∧
      memory'.used_bytes ≤ memory.used_bytes ∧ memory'.underflow_logged = memory.underflow_logged ∧
      ∀ later, release' = some later → Sound later := by
  cases turned with
  | load fresh =>
    refine ⟨rfl, le_rfl, rfl, fun later same current loaded => ?_⟩
    obtain rfl := Option.some.inj same
    obtain rfl := Option.some.inj loaded
    exact held
  | done loaded enough => exact ⟨Nat.sub_add_cancel enough, Nat.sub_le _ _, rfl, nofun⟩
  | again current loaded enough moved =>
    refine ⟨rfl, le_rfl, rfl, fun later same current loaded => ?_⟩
    obtain rfl := Option.some.inj same
    obtain rfl := Option.some.inj loaded
    exact held
  | clamped current loaded short => exact absurd (sound current loaded) (Nat.not_le.mpr short)

/-! ### Steps -/

theorem turned_memory {gone : Bool} {dropped dropped' : List FrameEvent} {pass : Pass} {pass' : Option Pass}
    (turned : Turned limits gone shared dropped pass shared' dropped' pass') (sound : SoundPass pass)
    (held : reserved pass ≤ shared.memory.used_bytes)
    (within : shared.memory.used_bytes ≤ limits.reader.live_memory_bytes) :
    shared'.memory.used_bytes + reserved pass + memories shared.channel =
        shared.memory.used_bytes + pass'.elim 0 reserved + memories shared'.channel ∧
      shared'.memory.used_bytes ≤ limits.reader.live_memory_bytes ∧
      shared'.memory.underflow_logged = shared.memory.underflow_logged ∧ ∀ later, pass' = some later → SoundPass later := by
  cases turned with
  | load event => exact ⟨rfl, within, rfl, fun later same => Option.some.inj same ▸ trivial⟩
  | refuse event current full => exact ⟨rfl, within, rfl, fun later same => Option.some.inj same ▸ trivial⟩
  | again event current moved => exact ⟨rfl, within, rfl, fun later same => Option.some.inj same ▸ trivial⟩
  | reserve event fits =>
    refine ⟨?_, fits, rfl, fun later same => Option.some.inj same ▸ trivial⟩
    simp only [reserved, Option.elim_some]
    omega
  | memory_drop event => exact ⟨rfl, within, rfl, fun later same => Option.some.inj same ▸ trivial⟩
  | closed event gone => exact ⟨rfl, within, rfl, fun later same => Option.some.inj same ▸ trivial⟩
  | full event waiting => exact ⟨rfl, within, rfl, fun later same => Option.some.inj same ▸ trivial⟩
  | send event waiting here =>
    refine ⟨?_, within, rfl, fun later same => Option.some.inj same ▸ trivial⟩
    have sent : memories [event] = event.memory := by simp [memories]
    simp only [reserved, Option.elim_some, memories_append, sent]
    omega
  | channel_drop event closed => exact ⟨rfl, within, rfl, fun later same => Option.some.inj same ▸ new_sound _⟩
  | @release release release' memory closed turned =>
    obtain ⟨balance, less, logged, sound⟩ := released_memory turned sound held
    rw [Option.elim_some] at balance
    refine ⟨?_, less.trans within, logged, fun later same => Option.some.inj same ▸ sound _ rfl⟩
    simp only [reserved, Option.elim_some]
    omega
  | @released release memory closed turned =>
    obtain ⟨balance, less, logged, -⟩ := released_memory turned sound held
    rw [Option.elim_none] at balance
    refine ⟨?_, less.trans within, logged, fun later same => ?_⟩
    · cases closed <;> simp only [reserved, Bool.false_eq_true, ↓reduceIte, Option.elim_some, Option.elim_none] <;> omega
    · cases closed with
      | true => cases same
      | false => exact Option.some.inj same ▸ trivial

theorem flushed_memory {flush flush' : Flush}
    (flushed : Flushed config cohort flush shared buffers journal shared' buffers' journal' flush')
    (sound : SoundStage flush.stage) (held : stage_memory flush.stage ≤ shared.memory.used_bytes) :
    shared'.memory.used_bytes + (total buffers_memory buffers.states + stage_memory flush.stage) =
        shared.memory.used_bytes + (total buffers_memory buffers'.states + stage_memory flush'.stage) ∧
      shared'.channel = shared.channel ∧ shared'.memory.used_bytes ≤ shared.memory.used_bytes ∧
      shared'.memory.underflow_logged = shared.memory.underflow_logged ∧ SoundStage flush'.stage := by
  cases flushed with
  | fold stage folded =>
    refine ⟨?_, rfl, le_rfl, rfl, trivial⟩
    simp only [stage, stage_memory, total_fold_pending_drops buffers_of_records folded]
  | missing stage none => exact ⟨by rw [stage]; rfl, rfl, le_rfl, rfl, trivial⟩
  | nothing state stage found no_records uncounted => exact ⟨by rw [stage]; rfl, rfl, le_rfl, rfl, trivial⟩
  | take state stage found something =>
    have erased := total_erase buffers_memory cohort buffers.states
    rw [share_eq found] at erased
    refine ⟨?_, rfl, le_rfl, rfl, trivial⟩
    simp only [stage, stage_memory, batch_of, buffers_memory] at erased ⊢
    omega
  | serialize batch segment flush_failures stage written =>
    refine ⟨?_, rfl, le_rfl, rfl, ?_⟩
    · simp only [stage, stage_memory, List.map_map]
      rfl
    · intro guard member
      obtain ⟨record, -, rfl⟩ := List.mem_map.mp member
      exact new_sound _
  | @release guard guard' memory batch guards segment stage turned =>
    rw [stage] at sound held
    simp only [stage_memory, List.map_cons, List.sum_cons] at held
    obtain ⟨balance, less, logged, later⟩ := released_memory turned (sound guard List.mem_cons_self) (by omega)
    rw [Option.elim_some] at balance
    refine ⟨?_, rfl, less, logged, ?_⟩
    · simp only [stage, stage_memory, List.map_cons, List.sum_cons]
      omega
    · intro other member
      rcases List.mem_cons.mp member with rfl | member
      · exact later _ rfl
      · exact sound other (List.mem_cons_of_mem _ member)
  | @released guard memory batch guards segment stage turned =>
    rw [stage] at sound held
    simp only [stage_memory, List.map_cons, List.sum_cons] at held
    obtain ⟨balance, less, logged, -⟩ := released_memory turned (sound guard List.mem_cons_self) (by omega)
    rw [Option.elim_none] at balance
    refine ⟨?_, rfl, less, logged, fun other member => sound other (List.mem_cons_of_mem _ member)⟩
    simp only [stage, stage_memory, List.map_cons, List.sum_cons]
    omega
  | give_up batch stage => exact ⟨by rw [stage]; rfl, rfl, le_rfl, rfl, trivial⟩
  | dropped batch segment stage => exact ⟨by rw [stage]; rfl, rfl, le_rfl, rfl, trivial⟩
  | no_key batch segment part error stage failed => exact ⟨by rw [stage]; rfl, rfl, le_rfl, rfl, trivial⟩
  | put batch segment part outcome key flushed_parts flush_failures stage named =>
    exact ⟨by rw [stage]; rfl, rfl, le_rfl, rfl, trivial⟩

/-- A flush that is through holds nothing. -/
def Through (control : Control) : Prop :=
  ∀ flush after, control = .Flushing flush after → flush.cohorts = [] → flush.stage = .Folding

theorem not_flushing_through {control : Control} (other : ∀ flush after, control ≠ .Flushing flush after) : Through control :=
  fun flush after here => absurd here (other flush after)

def SoundControl : Control → Prop
  | .Flushing flush _ => SoundStage flush.stage
  | _ => True

theorem flushed_through {cohorts : List CohortName} {flush flush' : Flush} (first : flush.cohorts = cohort :: cohorts)
    (flushed : Flushed config cohort flush shared buffers journal shared' buffers' journal' flush')
    (empty : flush'.cohorts = []) : flush'.stage = .Folding := by
  have more : flush.cohorts ≠ [] := by rw [first]; exact List.cons_ne_nil _ _
  cases flushed with
  | missing stage none => rfl
  | nothing state stage found no_records uncounted => rfl
  | give_up batch stage => rfl
  | no_key batch segment part error stage failed => rfl
  | put batch segment part outcome key flushed_parts flush_failures stage named => rfl
  | _ => exact absurd empty more

theorem wrote_memory {senders : Bool} (wrote : Wrote config senders shared buffers journal shared' buffers' journal')
    (through : Through buffers.control) (sound : SoundControl buffers.control)
    (held : flush_memory buffers.control ≤ shared.memory.used_bytes) :
    shared'.memory.used_bytes + (memories shared.channel + memories (hand buffers.control) +
          total buffers_memory buffers.states + flush_memory buffers.control) =
        shared.memory.used_bytes + (memories shared'.channel + memories (hand buffers'.control) +
          total buffers_memory buffers'.states + flush_memory buffers'.control) ∧
      shared'.memory.used_bytes ≤ shared.memory.used_bytes ∧
      shared'.memory.underflow_logged = shared.memory.underflow_logged ∧ Through buffers'.control ∧
      SoundControl buffers'.control := by
  have opened : ∀ window_start (cohorts : List CohortName) after, Through (.Flushing (.new window_start cohorts) after) := by
    intro window_start cohorts after flush after' same _
    obtain ⟨rfl, rfl⟩ := Control.Flushing.inj same
    rfl
  cases wrote with
  | select deadline control => exact ⟨by simp only [control, hand, flush_memory], le_rfl, rfl, not_flushing_through (by simp), trivial⟩
  | receive event channel deadline control first =>
    refine ⟨?_, le_rfl, rfl, not_flushing_through (by simp), trivial⟩
    simp only [control, hand, first, memories, flush_memory, List.map_cons, List.sum_cons, List.map_nil, List.sum_nil]
    omega
  | drained deadline control empty gone =>
    exact ⟨by simp only [control, hand, after_hand, flush_memory], le_rfl, rfl, not_flushing_through (by simp), trivial⟩
  | woke deadline control => exact ⟨by simp only [control, hand, after_hand, flush_memory], le_rfl, rfl, not_flushing_through (by simp), trivial⟩
  | stay event control early => exact ⟨by simp only [control, hand, flush_memory], le_rfl, rfl, not_flushing_through (by simp), trivial⟩
  | advance event window_start control aligned later =>
    exact ⟨by simp only [control, hand, after_hand, flush_memory], le_rfl, rfl, not_flushing_through (by simp), trivial⟩
  | close after cohorts control keys =>
    refine ⟨?_, le_rfl, rfl, opened _ _ _, trivial⟩
    simp only [control, hand, flush_memory, Flush.new, stage_memory, total_fold_all_pending_drops buffers_of_records]
  | fold event control folded =>
    refine ⟨?_, le_rfl, rfl, not_flushing_through (by simp), trivial⟩
    simp only [control, hand, flush_memory, total_fold_pending_drops buffers_of_records folded]
  | spill event control exceeds =>
    exact ⟨by simp only [control, hand, after_hand, flush_memory, Flush.new, stage_memory], le_rfl, rfl, opened _ _ _, trivial⟩
  | within event control fits => exact ⟨by simp only [control, hand, flush_memory], le_rfl, rfl, not_flushing_through (by simp), trivial⟩
  | relieve event cohort control pressure largest =>
    exact ⟨by simp only [control, hand, after_hand, flush_memory, Flush.new, stage_memory], le_rfl, rfl, opened _ _ _, trivial⟩
  | relieved event control free => exact ⟨by simp only [control, hand, flush_memory], le_rfl, rfl, not_flushing_through (by simp), trivial⟩
  | resume flush after control through_ resumed =>
    have folding := through flush after control through_
    cases resumed <;>
      exact ⟨by simp only [control, hand, after_hand, flush_memory, folding, stage_memory], le_rfl, rfl, not_flushing_through (by simp), trivial⟩
  | flush flush after cohort cohorts control first flushed =>
    rw [control] at sound held
    obtain ⟨balance, channel, less, logged, sound⟩ := flushed_memory flushed sound held
    refine ⟨?_, less, logged, ?_, sound⟩
    · simp only [control, hand, flush_memory, channel]
      omega
    · intro flush' after' same empty
      obtain ⟨rfl, rfl⟩ := Control.Flushing.inj same
      exact flushed_through first flushed empty
  | add event control =>
    have added := total_add_record buffers_memory buffers.states event event.memory event.memory (fun _ => rfl)
      fun state _ => by simp [buffers_memory, stored]
    refine ⟨?_, le_rfl, rfl, not_flushing_through (by simp), trivial⟩
    simp only [control, hand, memories, flush_memory, added, List.map_cons, List.sum_cons, List.map_nil, List.sum_nil]
    omega

/-! ### Runs -/

/-- What the tracker counts, and that no release is about to find less. -/
structure Tracked (limits : Limits) (state : State) : Prop where
  used : state.shared.memory.used_bytes = alive state
  within : state.shared.memory.used_bytes ≤ limits.reader.live_memory_bytes
  unclamped : state.shared.memory.underflow_logged = false
  passes : Every (fun _ => SoundPass) state.connections
  through : Through state.buffers.control
  flushing : SoundControl state.buffers.control

theorem Tracked.step {state state' : State} (tracked : Tracked limits state) (moved : Moved limits state state') :
    Tracked limits state' := by
  obtain ⟨used, within, unclamped, passes, through, flushing⟩ := tracked
  have room : ∀ {connection pass}, state.connections.lookup connection = some pass →
      reserved pass ≤ state.shared.memory.used_bytes := by
    intro connection pass here
    have share := share_le_total (fun _ => reserved) connection state.connections
    rw [share_eq here] at share
    rw [used, alive]
    omega
  cases moved with
  | tick elapsed clock => exact ⟨used, within, unclamped, passes, through, flushing⟩
  | accept connection open_ fresh =>
    refine ⟨?_, within, unclamped, passes.insert trivial, through, flushing⟩
    have inserted := total_insert (fun _ => reserved) connection .Reading state.connections
    rw [share_none fresh] at inserted
    have nothing : reserved .Reading = 0 := rfl
    simp only [alive] at used ⊢
    omega
  | disconnect connection reading =>
    refine ⟨?_, within, unclamped, passes.erase, through, flushing⟩
    have erased := total_ended (fun _ => reserved) reading
    have nothing : reserved .Reading = 0 := rfl
    simp only [alive] at used ⊢
    omega
  | hang_up joined => exact ⟨used, within, unclamped, passes, through, flushing⟩
  | stamp connection frame event reading stamped =>
    refine ⟨?_, within, unclamped, passes.insert trivial, through, flushing⟩
    have placed := total_moved (fun _ => reserved) (.Stamped event) reading
    have nothing : reserved .Reading = 0 ∧ reserved (.Stamped event) = 0 := ⟨rfl, rfl⟩
    simp only [alive] at used ⊢
    omega
  | turn connection pass pass' here turned =>
    obtain ⟨balance, within, logged, sound⟩ := turned_memory turned (passes _ _ here) (room here) within
    refine ⟨?_, within, logged.trans unclamped, passes.insert (sound _ rfl), through, flushing⟩
    have placed := total_moved (fun _ => reserved) pass' here
    simp only [alive, Option.elim_some] at used balance ⊢
    omega
  | last_turn connection pass here turned =>
    obtain ⟨balance, within, logged, -⟩ := turned_memory turned (passes _ _ here) (room here) within
    refine ⟨?_, within, logged.trans unclamped, passes.erase, through, flushing⟩
    have ended := total_ended (fun _ => reserved) here
    simp only [alive, Option.elim_none] at used balance ⊢
    omega
  | write wrote =>
    have held : flush_memory state.buffers.control ≤ state.shared.memory.used_bytes := by
      rw [used, alive]
      omega
    obtain ⟨balance, less, logged, through, flushing⟩ := wrote_memory wrote through flushing held
    refine ⟨?_, less.trans within, logged.trans unclamped, passes, through, flushing⟩
    simp only [alive] at used ⊢
    omega

theorem reached_tracked {now : Nat} {begun state : State} (started : start limits now = .ok begun)
    (reached : Reached (step limits) Any begun state) : Tracked limits state := by
  refine reached.invariant ?_ fun _ _ _ _ tracked _ taken => tracked.step (step_cases taken)
  obtain ⟨connections, channel, ledger, memory, counter, states, control, journal⟩ := start_ok started
  refine ⟨?_, ?_, ?_, ?_, ?_, ?_⟩
  · rw [alive, connections, channel, memory, states, control]
    rfl
  · rw [memory]
    exact Nat.zero_le _
  · rw [memory]
  · rw [connections]
    exact every_empty
  · rw [control]
    nofun
  · rw [control]
    trivial

/-! ### Caps -/

def open_bytes (cohort : CohortName) (states : States) : Nat := ((states.lookup cohort).getD .default).bytes

/-- The bytes of a state are those of its records, and within the cap of a cohort. -/
def Capped (cap : Nat) (_ : CohortName) (state : CohortState) : Prop := state.bytes = stored state.records ∧ state.bytes ≤ cap

theorem capped_on_records (cap : Nat) : OnRecords (Capped cap) where
  uncounted _ _ _ capped := capped
  empty _ := ⟨rfl, Nat.zero_le _⟩

def HasRecords (state : CohortState) : Prop := state.records ≠ []

/-- Where the writer is about to buffer a frame, the frame fits; a spilled cohort's state is taken first. -/
structure Spilled (cap : Nat) (states : States) (control : Control) : Prop where
  fits : ∀ event, control = .Relieve event ∨ control = .Add event ∨ (∃ flush, control = .Flushing flush (.Add event)) →
    open_bytes event.cohort states + event.memory ≤ cap
  spilling : ∀ flush event, control = .Flushing flush (.Relieve event) → Filled HasRecords states event.cohort →
    event.cohort ∈ left flush
  closing : ∀ event, control ≠ .Closing (.Add event)

theorem open_bytes_count_drops {other : CohortName} {drops : Nat} :
    open_bytes other (count_drops states cohort drops) = open_bytes other states := by
  by_cases same : other = cohort
  · subst same
    rw [open_bytes, lookup_count_drops, Option.getD_some, open_bytes]
  · rw [open_bytes, lookup_count_drops_ne same, open_bytes]

theorem flushed_open_bytes {flush flush' : Flush} (other : CohortName)
    (flushed : Flushed config cohort flush shared buffers journal shared' buffers' journal' flush') :
    open_bytes other buffers'.states ≤ open_bytes other buffers.states := by
  cases flushed with
  | fold stage folded =>
    obtain ⟨-, ⟨-, rfl⟩ | ⟨-, rfl⟩⟩ := fold_cases folded
    · exact le_rfl
    · exact open_bytes_count_drops.le
  | take state stage found something =>
    dsimp only
    by_cases same : other = cohort
    · subst same
      rw [open_bytes, AList.lookup_erase]
      exact Nat.zero_le _
    · rw [open_bytes, AList.lookup_erase_ne same, open_bytes]
  | _ => exact le_rfl

/-- Folding drops into a state fills it with no record. -/
theorem fold_no_records {ledger ledger' : Ledger} {other : CohortName}
    (folded : fold_pending_drops cohort ledger states = (ledger', states')) (filled : Filled HasRecords states' other) :
    Filled HasRecords states other := by
  obtain ⟨-, ⟨-, rfl⟩ | ⟨-, rfl⟩⟩ := fold_cases folded
  · exact filled
  · obtain ⟨state, found, records⟩ := filled
    by_cases same : other = cohort
    · subst same
      rw [lookup_count_drops] at found
      obtain rfl := Option.some.inj found
      cases here : states.lookup other with
      | none => exact absurd (by rw [here]; rfl) records
      | some state =>
        rw [here] at records
        exact ⟨state, here, records⟩
    · rw [lookup_count_drops_ne same] at found
      exact ⟨state, found, records⟩

theorem spilled_of_busy {cap : Nat} {control : Control} (relieve : ∀ event, control ≠ .Relieve event)
    (add : ∀ event, control ≠ .Add event) (flush : ∀ flush event, control ≠ .Flushing flush (.Add event))
    (spill : ∀ flush event, control ≠ .Flushing flush (.Relieve event)) (close : ∀ event, control ≠ .Closing (.Add event)) :
    Spilled cap states control := by
  refine ⟨fun event here => ?_, fun flush event here => absurd here (spill flush event), close⟩
  rcases here with here | here | ⟨flush', here⟩
  · exact absurd here (relieve event)
  · exact absurd here (add event)
  · exact absurd here (flush flush' event)

/-- The caps are kept when the frame in hand fits a cohort, and an empty state with it the tracker. -/
theorem wrote_spilled {senders : Bool} (wrote : Wrote config senders shared buffers journal shared' buffers' journal')
    (capped : Every (Capped config.per_cohort_memory_bytes) buffers.states)
    (spilled : Spilled config.per_cohort_memory_bytes buffers.states buffers.control)
    (alone : ∀ event ∈ hand buffers.control, event.memory ≤ config.per_cohort_memory_bytes)
    (together : ∀ event ∈ hand buffers.control, open_bytes event.cohort buffers.states + event.memory ≤ U64_MAX) :
    Every (Capped config.per_cohort_memory_bytes) buffers'.states ∧
      Spilled config.per_cohort_memory_bytes buffers'.states buffers'.control := by
  constructor
  · refine every_wrote (capped_on_records _) capped wrote fun event control state here kept => ?_
    have fits := spilled.fits event (.inr (.inl control))
    have bounded := together event (by rw [control]; exact List.mem_singleton.mpr rfl)
    have bytes : open_bytes event.cohort buffers.states = state.bytes := by rw [open_bytes, here]
    rw [bytes] at fits bounded
    have added : saturating_add state.bytes event.memory = state.bytes + event.memory := Nat.min_eq_left bounded
    refine ⟨?_, added ▸ fits⟩
    simp only [added, stored, List.map_append, List.sum_append, List.map_cons, List.map_nil, List.sum_cons, List.sum_nil]
    rw [kept.1, stored, Nat.add_zero]
  · cases wrote with
    | within event control fits =>
      refine ⟨fun other here => ?_, by simp, by simp⟩
      obtain rfl : event = other := by
        rcases here with here | here | ⟨flush, here⟩
        · exact Control.Relieve.inj here
        · cases here
        · cases here
      have bounded := together event (by rw [control]; exact List.mem_singleton.mpr rfl)
      have small := alone event (by rw [control]; exact List.mem_singleton.mpr rfl)
      rw [open_bytes] at bounded ⊢
      cases found : buffers.states.lookup event.cohort with
      | none =>
        rw [found] at bounded
        exact (Nat.zero_add _).le.trans small
      | some state =>
        rw [found, Option.getD_some] at bounded
        simp only [cohort_would_exceed_cap, found, Option.bind_some, checked_add, if_pos bounded, Option.any_some,
          decide_eq_false_iff_not, Nat.not_lt] at fits
        exact fits
    | relieve event cohort control pressure largest =>
      refine ⟨fun other here => ?_, by simp, by simp⟩
      rcases here with here | here | ⟨flush, here⟩
      · cases here
      · cases here
      · obtain ⟨-, same⟩ := Control.Flushing.inj here
        obtain rfl := After.Add.inj same
        exact spilled.fits event (.inl control)
    | relieved event control free =>
      refine ⟨fun other here => ?_, by simp, by simp⟩
      rcases here with here | here | ⟨flush, here⟩
      · cases here
      · obtain rfl := Control.Add.inj here
        exact spilled.fits event (.inl control)
      · cases here
    | spill event control exceeds =>
      refine ⟨fun other here => ?_, fun flush other here _ => ?_, by simp⟩
      · rcases here with here | here | ⟨flush, here⟩ <;> cases here
      · obtain ⟨rfl, same⟩ := Control.Flushing.inj here
        obtain rfl := After.Relieve.inj same
        exact List.mem_singleton.mpr rfl
    | resume flush after control through resumed =>
      cases resumed with
      | relieve event =>
        refine ⟨fun other here => ?_, by simp, by simp⟩
        obtain rfl : event = other := by
          rcases here with here | here | ⟨flush, here⟩
          · exact Control.Relieve.inj here
          · cases here
          · cases here
        have small := alone event (by rw [control]; exact List.mem_singleton.mpr rfl)
        have emptied : ¬Filled HasRecords buffers.states event.cohort := fun filled => by
          have member := spilled.spilling flush event control filled
          unfold left at member
          split at member <;> simp [through] at member
        have nothing : open_bytes event.cohort buffers.states = 0 := by
          rw [open_bytes]
          cases found : buffers.states.lookup event.cohort with
          | none => rfl
          | some state =>
            have empty : state.records = [] := by
              by_contra records
              exact emptied ⟨state, found, records⟩
            rw [Option.getD_some, (capped _ _ found).1, empty]
            rfl
        dsimp only
        rw [nothing, Nat.zero_add]
        exact small
      | add event =>
        refine ⟨fun other here => ?_, by simp, by simp⟩
        rcases here with here | here | ⟨flush', here⟩
        · cases here
        · obtain rfl := Control.Add.inj here
          exact spilled.fits event (.inr (.inr ⟨flush, control⟩))
        · cases here
      | _ => exact spilled_of_busy (by simp) (by simp) (by simp) (by simp) (by simp)
    | flush flush after cohort cohorts control first flushed =>
      refine ⟨fun event here => ?_, fun flush' event here filled => ?_, by simp⟩
      · rcases here with here | here | ⟨flush', here⟩
        · cases here
        · cases here
        · obtain ⟨-, rfl⟩ := Control.Flushing.inj here
          have fits := spilled.fits event (.inr (.inr ⟨flush, control⟩))
          have less := flushed_open_bytes event.cohort flushed
          dsimp only
          omega
      · obtain ⟨rfl, rfl⟩ := Control.Flushing.inj here
        exact flushed_left first flushed (fun state records empty => records empty.1)
          (fun ledger states folded => fold_no_records folded) (spilled.spilling flush event control) filled
    | close after cohorts control keys =>
      refine ⟨fun event here => ?_, fun flush event here filled => ?_, by simp⟩
      · rcases here with here | here | ⟨flush', here⟩
        · cases here
        · cases here
        · obtain ⟨-, rfl⟩ := Control.Flushing.inj here
          exact absurd control (spilled.closing event)
      · obtain ⟨rfl, rfl⟩ := Control.Flushing.inj here
        obtain ⟨state, found, -⟩ := filled
        exact keys.mem_iff.mpr (AList.lookup_isSome.mp (by rw [found]; rfl))
    | _ => exact spilled_of_busy (by simp) (by simp) (by simp) (by simp) (by simp)

theorem moved_spilled {state state' : State} (moved : Moved limits state state')
    (capped : Every (Capped limits.writer.per_cohort_memory_bytes) state.buffers.states)
    (spilled : Spilled limits.writer.per_cohort_memory_bytes state.buffers.states state.buffers.control)
    (alone : ∀ event ∈ hand state.buffers.control, event.memory ≤ limits.writer.per_cohort_memory_bytes)
    (together : ∀ event ∈ hand state.buffers.control,
      open_bytes event.cohort state.buffers.states + event.memory ≤ U64_MAX) :
    Every (Capped limits.writer.per_cohort_memory_bytes) state'.buffers.states ∧
      Spilled limits.writer.per_cohort_memory_bytes state'.buffers.states state'.buffers.control := by
  cases moved with
  | write wrote => exact wrote_spilled wrote capped spilled alone together
  | _ => exact ⟨capped, spilled⟩

/-- The batches taken were capped. -/
theorem moved_batches {cap : Nat} {state state' : State} (moved : Moved limits state state')
    (capped : Every (Capped cap) state.buffers.states) (batches : ∀ batch ∈ state.journal.taken, stored batch.records ≤ cap) :
    ∀ batch ∈ state'.journal.taken, stored batch.records ≤ cap := by
  cases moved with
  | write wrote =>
    cases wrote with
    | flush flush after cohort cohorts control first flushed =>
      cases flushed with
      | take state stage found something =>
        intro batch member
        rcases List.mem_append.mp member with old | new
        · exact batches batch old
        · obtain rfl := List.mem_singleton.mp new
          obtain ⟨bytes, within⟩ := capped _ _ found
          exact bytes.symm.le.trans within
      | _ => exact batches
    | _ => exact batches
  | _ => exact batches

/-- The guards of a batch being flushed are the last ones of its records. -/
def Guarded : FlushStage → Prop
  | .Dropping batch guards _ => guards.map Release.release_bytes <:+ batch.records.map BufferedRecord.memory
  | _ => True

theorem flushed_guarded {flush flush' : Flush}
    (flushed : Flushed config cohort flush shared buffers journal shared' buffers' journal' flush')
    (sound : SoundStage flush.stage) (held : stage_memory flush.stage ≤ shared.memory.used_bytes)
    (guarded : Guarded flush.stage) : Guarded flush'.stage := by
  cases flushed with
  | serialize batch segment flush_failures stage written =>
    have same : (batch.records.map fun record => Release.new record.memory).map Release.release_bytes =
        batch.records.map BufferedRecord.memory := by rw [List.map_map]; rfl
    show (batch.records.map fun record => Release.new record.memory).map Release.release_bytes <:+ _
    rw [same]
  | @release guard guard' memory batch guards segment stage turned =>
    rw [stage] at sound held guarded
    simp only [stage_memory, List.map_cons, List.sum_cons] at held
    have kept : guard'.release_bytes = guard.release_bytes := by
      obtain ⟨balance, less, -, -⟩ := released_memory turned (sound guard List.mem_cons_self) (by omega)
      cases turned with
      | load fresh => rfl
      | again current loaded enough moved => rfl
      | clamped current loaded short => exact absurd (sound guard List.mem_cons_self current loaded) (Nat.not_le.mpr short)
    show (guard' :: guards).map Release.release_bytes <:+ _
    rw [List.map_cons, kept]
    exact guarded
  | @released guard memory batch guards segment stage turned =>
    rw [stage] at guarded
    exact (List.suffix_cons _ _).trans guarded
  | _ => trivial

theorem wrote_guarded {senders : Bool} (wrote : Wrote config senders shared buffers journal shared' buffers' journal')
    (sound : SoundControl buffers.control) (held : flush_memory buffers.control ≤ shared.memory.used_bytes)
    (guarded : Guarded (stage_of buffers.control)) : Guarded (stage_of buffers'.control) := by
  cases wrote with
  | resume flush after control through resumed => cases resumed <;> trivial
  | flush flush after cohort cohorts control first flushed =>
    rw [control] at sound held guarded
    exact flushed_guarded flushed sound held guarded
  | _ => trivial

/-! ### Segments -/

theorem length_flatMap_record_bytes (records : List SegmentRecord) :
    (records.flatMap record_bytes).length = (records.map fun record => record.frame.length + 8).sum := by
  induction records with
  | nil => rfl
  | cons record records ih =>
    rw [List.flatMap_cons, List.length_append, SegmentLayout.length_record_bytes, ih, List.map_cons, List.sum_cons]
    omega

theorem length_serialized {batch : FlushBatch} {segment : Bytes} (serialized : Serialized batch segment) :
    segment.length ≤ (batch.records.map fun record => record.frame.length + 8).sum + MAX_SEGMENT_OVERHEAD_BYTES := by
  obtain ⟨-, rfl, -⟩ := SegmentLayout.write_segment_ok.mp serialized
  have name := SegmentLayout.cohort_length batch.header.cohort
  rw [SegmentLayout.segment_bytes, List.length_append, SegmentLayout.length_head_bytes, length_flatMap_record_bytes,
    List.map_map, List.length_nil]
  have same : (batch.records.map ((fun record : SegmentRecord => record.frame.length + 8) ∘ segment_record)) =
      batch.records.map fun record => record.frame.length + 8 := rfl
  rw [same, MAX_SEGMENT_OVERHEAD_BYTES]
  omega

/-! ### All of it -/

/-- Everything about the memory that a step keeps. -/
structure Budgeted (limits : Limits) (state : State) : Prop where
  tracked : Tracked limits state
  everywhere : Everywhere (Stamped limits) state
  capped : Every (Capped limits.writer.per_cohort_memory_bytes) state.buffers.states
  spilled : Spilled limits.writer.per_cohort_memory_bytes state.buffers.states state.buffers.control
  batches : ∀ batch ∈ state.journal.taken, stored batch.records ≤ limits.writer.per_cohort_memory_bytes
  guarded : Guarded (stage_of state.buffers.control)
  traced : Traced limits.writer state.buffers.control state.journal

theorem reached_budgeted {configured : Config} {now : Nat} {begun state : State} (validated : Validated configured limits)
    (started : start limits now = .ok begun) (reached : Reached (step limits) Any begun state) : Budgeted limits state := by
  have live : limits.reader.live_memory_bytes ≤ U64_MAX := by
    have reserve := validated.reserve
    have bounded := configured.global_memory_bytes_lt
    rw [← validated.live]
    simp only [U64_MAX]
    omega
  have initial : Budgeted limits begun := by
    obtain ⟨connections, channel, ledger, memory, counter, states, control, journal⟩ := start_ok started
    refine ⟨reached_tracked started .start, reached_everywhere started .start, ?_, ?_, ?_, ?_, ?_, ?_, ?_⟩
    · rw [states]
      exact every_empty
    · rw [control]
      exact spilled_of_busy (by simp) (by simp) (by simp) (by simp) (by simp)
    · rw [journal]
      exact fun _ none => absurd none List.not_mem_nil
    · rw [control]
      trivial
    · rw [journal]
      exact fun _ none => absurd none List.not_mem_nil
    · rw [control]
      trivial
    · rw [journal]
      exact fun _ none => absurd none List.not_mem_nil
  refine reached.invariant initial fun before action later earlier budgeted _ taken => ?_
  have moved := step_cases taken
  obtain ⟨tracked, everywhere, capped, spilled, batches, guarded, traced⟩ := budgeted
  have alone : ∀ event ∈ hand before.buffers.control, event.memory ≤ limits.writer.per_cohort_memory_bytes := by
    intro event member
    have stamped := everywhere.hand event member
    have short := stamped.short
    have fits := validated.fits_cohort
    rw [stamped.memory, validated.per_cohort]
    rw [validated.max_frame_size] at short
    omega
  have together : ∀ event ∈ hand before.buffers.control,
      open_bytes event.cohort before.buffers.states + event.memory ≤ U64_MAX := by
    intro event member
    have used := tracked.used
    have within := tracked.within
    have here : event.memory ≤ memories (hand before.buffers.control) :=
      List.single_le_sum (fun _ _ => Nat.zero_le _) _ (List.mem_map_of_mem member)
    have state_bytes : open_bytes event.cohort before.buffers.states ≤ total buffers_memory before.buffers.states := by
      rw [open_bytes]
      cases found : before.buffers.states.lookup event.cohort with
      | none => exact Nat.zero_le _
      | some state =>
        rw [Option.getD_some, (capped _ _ found).1]
        have share := share_le_total buffers_memory event.cohort before.buffers.states
        rwa [share_eq found] at share
    rw [alive] at used
    omega
  obtain ⟨capped', spilled'⟩ := moved_spilled moved capped spilled alone together
  refine ⟨tracked.step moved, reached_everywhere started (.step action earlier trivial taken), capped', spilled',
    moved_batches moved capped batches, ?_, traced.step moved⟩
  cases moved with
  | write wrote =>
    have held : flush_memory before.buffers.control ≤ before.shared.memory.used_bytes := by
      rw [tracked.used, alive]
      omega
    exact wrote_guarded wrote tracked.flushing held guarded
  | _ => exact guarded

/-! ### In bytes of frames -/

/-- What a connection has reserved and not given back. -/
def held_bytes : Pass → Nat
  | .Reserved event => event.frame.length + 8
  | .Unsent event _ => event.frame.length + 8
  | .Releasing release _ => release.release_bytes
  | _ => 0

def frames_size (events : List FrameEvent) : Nat := (events.map fun event => event.frame.length + 8).sum
def records_size (records : List BufferedRecord) : Nat := (records.map fun record => record.frame.length + 8).sum

/-- The records of the batch being flushed whose guards are still there. -/
def unreleased : FlushStage → List BufferedRecord
  | .Serializing batch => batch.records
  | .Dropping batch guards _ => batch.records.drop (batch.records.length - guards.length)
  | _ => []

/-- The length of the segment that the writer holds. -/
def in_flight : FlushStage → Nat
  | .Dropping _ _ (some segment) => segment.length
  | .Putting _ segment => segment.length
  | _ => 0

theorem frames_size_eq {events : List FrameEvent} (stamped : ∀ event ∈ events, Stamped limits event) :
    memories events = frames_size events :=
  congrArg List.sum (List.map_congr_left fun event member => (stamped event member).memory)

theorem records_size_eq {records : List BufferedRecord}
    (stamped : ∀ event ∈ records.map (event_of cohort), Stamped limits event) : stored records = records_size records :=
  congrArg List.sum (List.map_congr_left fun _ member => (stamped _ (List.mem_map_of_mem member)).memory)

section Sizes
variable {state : State}

theorem Budgeted.batch_size (budgeted : Budgeted limits state) {batch : FlushBatch} (taken : batch ∈ state.journal.taken) :
    stored batch.records = records_size batch.records :=
  records_size_eq (budgeted.everywhere.taken batch taken)

theorem Budgeted.flush_size (budgeted : Budgeted limits state) :
    flush_memory state.buffers.control = records_size (unreleased (stage_of state.buffers.control)) := by
  have stage := budgeted.traced.stage
  have guarded := budgeted.guarded
  cases control : state.buffers.control with
  | Flushing flush after =>
    rw [control] at stage guarded
    simp only [stage_of, flush_memory] at stage guarded ⊢
    cases here : flush.stage with
    | Serializing batch =>
      rw [here] at stage
      exact budgeted.batch_size stage
    | Dropping batch guards segment =>
      rw [here] at stage guarded
      have suffix := List.suffix_iff_eq_drop.mp guarded
      rw [List.length_map, List.length_map, ← List.map_drop] at suffix
      rw [stage_memory, suffix]
      exact records_size_eq fun event member => budgeted.everywhere.taken batch stage.1 event
        (List.map_subset _ (List.drop_subset _ _) member)
    | Folding => rfl
    | Taking => rfl
    | Putting batch segment => rfl
  | _ => rfl

theorem Budgeted.used_size (budgeted : Budgeted limits state) : state.shared.memory.used_bytes =
    total (fun _ => held_bytes) state.connections + frames_size state.shared.channel +
      frames_size (hand state.buffers.control) +
      total (fun _ cohort_state => records_size cohort_state.records) state.buffers.states +
      records_size (unreleased (stage_of state.buffers.control)) := by
  have passes : total (fun _ => reserved) state.connections = total (fun _ => held_bytes) state.connections := by
    refine total_congr fun connection pass here => ?_
    have stamped := budgeted.everywhere.held connection pass here
    cases pass with
    | Reserved event => exact (stamped event (List.mem_singleton.mpr rfl)).memory
    | Unsent event closed => exact (stamped event (List.mem_singleton.mpr rfl)).memory
    | _ => rfl
  have states : total buffers_memory state.buffers.states =
      total (fun _ cohort_state => records_size cohort_state.records) state.buffers.states :=
    total_congr fun cohort cohort_state found => records_size_eq (budgeted.everywhere.buffered cohort cohort_state found)
  rw [budgeted.tracked.used, alive, passes, frames_size_eq budgeted.everywhere.channel,
    frames_size_eq budgeted.everywhere.hand, states, budgeted.flush_size]

theorem Budgeted.segment_size (budgeted : Budgeted limits state) {batch : FlushBatch} {segment : Bytes}
    (taken : batch ∈ state.journal.taken) (serialized : Serialized batch segment) :
    segment.length ≤ limits.writer.per_cohort_memory_bytes + MAX_SEGMENT_OVERHEAD_BYTES := by
  have capped := budgeted.batches batch taken
  have bound := length_serialized serialized
  rw [budgeted.batch_size taken, records_size] at capped
  omega

theorem Budgeted.in_flight_size (budgeted : Budgeted limits state) : in_flight (stage_of state.buffers.control) ≤
    limits.writer.per_cohort_memory_bytes + MAX_SEGMENT_OVERHEAD_BYTES := by
  have stage := budgeted.traced.stage
  cases here : stage_of state.buffers.control with
  | Dropping batch guards segment =>
    rw [here] at stage
    cases segment with
    | none => exact Nat.zero_le _
    | some segment => exact budgeted.segment_size stage.1 (stage.2 segment rfl)
  | Putting batch segment =>
    rw [here] at stage
    exact budgeted.segment_size stage.1 stage.2
  | _ => exact Nat.zero_le _

end Sizes

/-- In every state of every run, the memory in use is the bytes of the frames alive and within the budget, open buffers and
    segments are within theirs, and both together within the memory of the collector. -/
theorem memory_within_budget (configured : Config) (limits : Limits) (validated : run_with_store configured = .ok limits)
    (now : Nat) (begun : State) (started : start limits now = .ok begun) (state : State)
    (reached : Reached (step limits) Any begun state) :
    state.shared.memory.used_bytes =
        total (fun _ => held_bytes) state.connections + frames_size state.shared.channel +
          frames_size (hand state.buffers.control) +
          total (fun _ cohort_state => records_size cohort_state.records) state.buffers.states +
          records_size (unreleased (stage_of state.buffers.control)) ∧
      state.shared.memory.used_bytes ≤ limits.writer.live_memory_bytes ∧
      (∀ cohort cohort_state, state.buffers.states.lookup cohort = some cohort_state →
        cohort_state.bytes = records_size cohort_state.records ∧ cohort_state.bytes ≤ configured.per_cohort_memory_bytes) ∧
      (∀ batch ∈ state.journal.taken, ∀ segment, Serialized batch segment →
        segment.length ≤ configured.per_cohort_memory_bytes + MAX_SEGMENT_OVERHEAD_BYTES) ∧
      (∀ upload ∈ state.journal.uploads,
        upload.segment.length ≤ configured.per_cohort_memory_bytes + MAX_SEGMENT_OVERHEAD_BYTES) ∧
      state.shared.memory.used_bytes + in_flight (stage_of state.buffers.control) ≤ configured.global_memory_bytes ∧
      state.shared.memory.underflow_logged = false ∧
      ((∀ connection pass, state.connections.lookup connection = some pass → held_bytes pass = 0) →
        state.shared.channel = [] → hand state.buffers.control = [] →
        (∀ cohort cohort_state, state.buffers.states.lookup cohort = some cohort_state → cohort_state.records = []) →
        unreleased (stage_of state.buffers.control) = [] → state.shared.memory.used_bytes = 0) := by
  have validated := run_with_store_ok validated
  have budgeted := reached_budgeted validated started reached
  have within := budgeted.tracked.within
  rw [← validated.live] at within
  refine ⟨budgeted.used_size, within, fun cohort cohort_state found => ?_, fun batch taken segment serialized => ?_,
    fun upload member => ?_, ?_, budgeted.tracked.unclamped, fun idle channel hand states unreleased => ?_⟩
  · obtain ⟨bytes, capped⟩ := budgeted.capped _ _ found
    rw [validated.per_cohort] at capped
    exact ⟨bytes.trans (records_size_eq (budgeted.everywhere.buffered cohort cohort_state found)), capped⟩
  · exact validated.per_cohort ▸ budgeted.segment_size taken serialized
  · have sent := budgeted.traced.uploads upload member
    exact validated.per_cohort ▸ budgeted.segment_size sent.taken sent.serialized
  · have flight := budgeted.in_flight_size
    have reserve := validated.reserve
    rw [validated.per_cohort] at flight
    omega
  · have none : total (fun _ => held_bytes) state.connections = total (fun _ _ => 0) state.connections := total_congr idle
    have empty : total (fun _ cohort_state => records_size cohort_state.records) state.buffers.states =
        total (fun _ _ => 0) state.buffers.states :=
      total_congr fun cohort cohort_state found => by rw [states cohort cohort_state found]; rfl
    have zero : ∀ {K V : Type} [DecidableEq K] (table : Table K V), total (fun _ _ => 0) table = 0 := fun table => by
      simp [total]
    rw [budgeted.used_size, none, zero, channel, hand, empty, zero, unreleased]
    rfl

/-- The run that ends with a part leaves nothing in use. -/
theorem whole_run_frees : ∃ begun state, start tightLimits 0 = .ok begun ∧ Reached (step tightLimits) Any begun state ∧
    state.buffers.control = .Returned ∧ state.journal.uploads.length = 1 ∧ state.shared.memory.used_bytes ≤ 37 := by
  have outcome : (after tightLimits 0 wholeRun).map (fun state =>
      (state.buffers.control, state.journal.uploads.length)) = some (.Returned, 1) := by
    decide
  obtain ⟨state, ran, values⟩ := Option.map_eq_some_iff.mp outcome
  obtain ⟨begun, started, reached⟩ := after_reached ran
  obtain ⟨returned, uploads⟩ := by simpa only [Prod.mk.injEq] using values
  exact ⟨begun, state, started, reached, returned, uploads,
    (memory_within_budget tightConfig tightLimits tight_started 0 begun started state reached).2.1⟩

/-! ### The frame in the writer's hand -/

/-- Between the channel and a buffer a frame is in the writer's hand only, and its memory is still in use. -/
theorem received_frame_counted : ∃ begun, start tightLimits 0 = .ok begun ∧
    ¬∀ state, Reached (step tightLimits) Any begun state → state.shared.memory.used_bytes =
      total (fun _ => held_bytes) state.connections + frames_size state.shared.channel +
        total (fun _ cohort_state => records_size cohort_state.records) state.buffers.states +
        records_size (unreleased (stage_of state.buffers.control)) := by
  have outcome : (after tightLimits 0 [.Accept 0, .Stamp 0 (bareFrame "a"), .Turn 0, .Turn 0, .Turn 0, .Write .Proceed,
      .Write .Receive]).map (fun state => (state.shared.memory.used_bytes,
        total (fun _ => held_bytes) state.connections + frames_size state.shared.channel +
          total (fun _ cohort_state => records_size cohort_state.records) state.buffers.states +
          records_size (unreleased (stage_of state.buffers.control)))) = some (37, 0) := by
    decide
  obtain ⟨state, ran, values⟩ := Option.map_eq_some_iff.mp outcome
  obtain ⟨begun, started, reached⟩ := after_reached ran
  obtain ⟨used, none⟩ := by simpa only [Prod.mk.injEq] using values
  refine ⟨begun, started, fun all => ?_⟩
  have same := all state reached
  rw [used, none] at same
  cases same

end VectorSeam.Budget
