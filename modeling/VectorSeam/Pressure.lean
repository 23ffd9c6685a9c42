import VectorSeam.Budget

/-!
Admission and pressure. Connections refuse a frame that does not fit in what is left of the
memory; the writer relieves pressure only when a frame reaches it and nothing at all is
left. Between the two, frames are refused and nothing is flushed, unless what the test of the
last frame leaves behind has room for another one.
-/

namespace VectorSeam.Pressure
open VectorSeam.LittleEndian VectorSeam.Cohort VectorSeam.Model VectorSeam.Reader VectorSeam.Writer VectorSeam.Tables
open VectorSeam.Machines VectorSeam.Collector VectorSeam.Transitions VectorSeam.Custody VectorSeam.Conservation VectorSeam.Budget

/-- Some cohort has records. -/
def Buffering (states : States) : Prop := ∃ cohort, Filled HasRecords states cohort

/-- The writer waits, nothing is in the channel, and some cohort has records. -/
structure Idle (state : State) : Prop where
  waiting : ∃ deadline, state.buffers.control = .Waiting deadline
  drained : state.shared.channel = []
  buffering : Buffering state.buffers.states

/-- A frame of any size that the collector takes gets its memory. -/
def Admits (limits : Limits) (state : State) : Prop :=
  ∀ frame_len ≤ limits.reader.max_frame_size,
    (try_reserve state.shared.memory.used_bytes (frame_len + 8) limits.reader.live_memory_bytes).isSome

/-- The bytes in use leave room for a record of the largest size. -/
def Room (limits : Limits) (used : Nat) : Prop := used + (limits.reader.max_frame_size + 8) ≤ limits.reader.live_memory_bytes

instance (limits : Limits) (used : Nat) : Decidable (Room limits used) := inferInstanceAs (Decidable (_ ≤ _))

/-- No frame is too large exactly when a frame of the largest size is not. -/
theorem admits_iff {limits : Limits} {state : State} : Admits limits state ↔ Room limits state.shared.memory.used_bytes := by
  have some_iff : ∀ frame_len, (try_reserve state.shared.memory.used_bytes (frame_len + 8)
      limits.reader.live_memory_bytes).isSome ↔
      state.shared.memory.used_bytes + (frame_len + 8) ≤ limits.reader.live_memory_bytes := by
    intro frame_len
    unfold try_reserve
    split <;> simp <;> omega
  constructor
  · intro admits
    exact (some_iff _).mp (admits _ le_rfl)
  · intro room frame_len small
    unfold Room at room
    exact (some_iff _).mpr (by omega)

/-! ### What stays buffered -/

/-- The bytes of a state, unless its cohort is one that goes. -/
def staying (gone : List CohortName) (cohort : CohortName) (state : CohortState) : Nat :=
  if cohort ∈ gone then 0 else stored state.records

/-- The bytes that the pressure test leaves buffered, with those of the frame in hand. -/
def behind_test (config : WriterConfig) (used : Nat) (states : States) (event : FrameEvent) : Choice → Nat
  | .Largest cohort =>
    if config.live_memory_bytes ≤ used then total (staying [cohort]) states + event.memory
    else total (staying []) states + event.memory
  | _ => total (staying []) states + event.memory

/-- Where the pressure test is behind the writer, the bytes that will be buffered when it waits for the next frame. -/
def outlook (buffers : Buffers) : Option Nat :=
  match buffers.control with
  | .Select => some (total (staying []) buffers.states)
  | .Waiting _ => some (total (staying []) buffers.states)
  | .Flushing flush (.Add event) => some (total (staying (left flush)) buffers.states + event.memory)
  | .Flushing flush .NextWindow => some (total (staying (left flush)) buffers.states)
  | .Add event => some (total (staying []) buffers.states + event.memory)
  | _ => none

/-- What connections have reserved and not sent. -/
def held_back (state : State) : Nat := total (fun _ => reserved) state.connections

/-- The test for the last frame leaves room; so does a reservation while the writer is idle, and so do the reservations with
    which it goes to wait. -/
structure LeavesRoom (limits : Limits) (state : State) (action : Action) : Prop where
  test : ∀ choice event, action = .Write choice → state.buffers.control = .Relieve event → state.shared.channel = [] →
    Room limits (behind_test limits.writer state.shared.memory.used_bytes state.buffers.states event choice)
  reservation : ∀ connection event, action = .Turn connection → Idle state →
    state.connections.lookup connection = some (.Loaded event state.shared.memory.used_bytes) →
    state.shared.memory.used_bytes + event.memory ≤ limits.reader.live_memory_bytes →
    Room limits (state.shared.memory.used_bytes + event.memory)
  wait : ∀ choice, action = .Write choice → state.buffers.control = .Select → state.shared.channel = [] →
    Buffering state.buffers.states → held_back state ≠ 0 → Room limits state.shared.memory.used_bytes

theorem staying_of_records (gone : List CohortName) : OfRecords (staying gone) where
  uncounted _ _ _ := rfl
  empty _ := by simp [staying, CohortState.default, stored]

theorem total_staying_none (states : States) : total (staying []) states = total buffers_memory states :=
  total_congr fun _ _ _ => if_neg List.not_mem_nil

/-- A cohort that has nothing, or is named already, may be named among those that go. -/
theorem total_staying_cons {cohort : CohortName} {gone : List CohortName} {states : States}
    (nothing : ∀ state, states.lookup cohort = some state → state.records = []) :
    total (staying (cohort :: gone)) states = total (staying gone) states := by
  refine total_congr fun other state found => ?_
  unfold staying
  by_cases same : other = cohort
  · subst same
    rw [if_pos List.mem_cons_self, nothing state found]
    simp [stored]
  · simp only [List.mem_cons, same, false_or]

/-- All cohorts go. -/
theorem total_staying_all {cohorts : List CohortName} {states : States} (keys : cohorts.Perm states.keys) :
    total (staying cohorts) states = 0 := by
  refine List.sum_eq_zero fun part member => ?_
  obtain ⟨entry, inside, rfl⟩ := List.mem_map.mp member
  exact if_pos (keys.mem_iff.mpr (List.mem_map_of_mem inside))

section Steps
variable {limits : Limits} {config : WriterConfig} {shared shared' : Shared} {buffers buffers' : Buffers}
  {journal journal' : Journal} {state state' : State}

/-- A flush leaves of the states what it does not have to take. -/
theorem flushed_staying {cohort : CohortName} {cohorts : List CohortName} {flush flush' : Flush}
    (first : flush.cohorts = cohort :: cohorts)
    (flushed : Flushed config cohort flush shared buffers journal shared' buffers' journal' flush') :
    total (staying (left flush')) buffers'.states = total (staying (left flush)) buffers.states := by
  have rest : left flush.next = cohorts := by simp [left, Flush.next, first]
  have taken : flush.stage = .Taking → left flush = cohort :: cohorts := fun stage => by rw [left, stage, first]
  cases flushed with
  | fold stage folded =>
    have same : left { flush with stage := .Taking } = left flush := by simp only [left, stage]
    rw [same]
    exact total_fold_pending_drops (staying_of_records _) folded
  | missing stage none =>
    rw [rest, taken stage, total_staying_cons fun state found => ?_]
    rw [none] at found
    cases found
  | nothing state stage found no_records uncounted =>
    rw [rest, taken stage, total_staying_cons fun state' found' => ?_]
    obtain rfl := Option.some.inj (found.symm.trans found')
    exact no_records
  | take state stage found something =>
    have later : left { flush with stage := .Serializing (batch_of config cohort flush.window_start state) } = cohorts :=
      congrArg List.tail first
    have erased := total_erase (staying (cohort :: cohorts)) cohort buffers.states
    rw [share_eq found, staying, if_pos List.mem_cons_self] at erased
    rw [later, taken stage, ← erased, Nat.add_zero]
    refine (total_staying_cons fun state' found' => ?_).symm
    rw [AList.lookup_erase] at found'
    cases found'
  | serialize batch segment flush_failures stage written => simp only [left, stage]
  | release batch guards segment stage turned => simp only [left, stage]
  | released batch guards segment stage turned => simp only [left, stage]
  | give_up batch stage => simp only [left, stage, Flush.next]
  | dropped batch segment stage => simp only [left, stage]
  | no_key batch segment part error stage failed => simp only [left, stage, Flush.next, fail]
  | put batch segment part outcome key flushed_parts flush_failures stage named => simp only [left, stage, Flush.next]

/-- A step of the writer away from the pressure test keeps the outlook, waits no longer, or closes the window. -/
theorem wrote_outlook {senders : Bool} (wrote : Wrote config senders shared buffers journal shared' buffers' journal')
    (through : Through buffers.control) (elsewhere : ∀ event, buffers.control ≠ .Relieve event)
    (closing : ∀ event, buffers.control ≠ .Closing (.Add event)) :
    (∃ deadline, buffers.control = .Waiting deadline) ∧ outlook buffers' = none ∨
      buffers.control = .Closing .NextWindow ∧ shared'.channel = shared.channel ∧ outlook buffers' = some 0 ∨
      shared'.channel = shared.channel ∧ outlook buffers' = outlook buffers := by
  cases wrote with
  | select deadline control => exact .inr (.inr ⟨rfl, by simp only [outlook, control]⟩)
  | receive event channel deadline control first => exact .inl ⟨⟨deadline, control⟩, rfl⟩
  | drained deadline control empty gone => exact .inl ⟨⟨deadline, control⟩, rfl⟩
  | woke deadline control => exact .inl ⟨⟨deadline, control⟩, rfl⟩
  | stay event control early => exact .inr (.inr ⟨rfl, by simp only [outlook, control]⟩)
  | advance event window_start control aligned later => exact .inr (.inr ⟨rfl, by simp only [outlook, control]⟩)
  | close after cohorts control keys =>
    cases after with
    | NextWindow => exact .inr (.inl ⟨control, rfl, congrArg some (total_staying_all keys)⟩)
    | Add event => exact absurd control (closing event)
    | _ => exact .inr (.inr ⟨rfl, by simp only [outlook, control]⟩)
  | fold event control folded => exact .inr (.inr ⟨rfl, by simp only [outlook, control]⟩)
  | spill event control exceeds => exact .inr (.inr ⟨rfl, by simp only [outlook, control]⟩)
  | within event control fits => exact .inr (.inr ⟨rfl, by simp only [outlook, control]⟩)
  | relieve event cohort control pressure largest => exact absurd control (elsewhere event)
  | relieved event control free => exact absurd control (elsewhere event)
  | resume flush after control through_ resumed =>
    have nothing : left flush = [] := by rw [left, through flush after control through_, through_]
    refine .inr (.inr ⟨rfl, ?_⟩)
    cases resumed <;> simp only [outlook, control, nothing]
  | flush flush after cohort cohorts control first flushed =>
    refine .inr (.inr ⟨(flushed_channel flushed).1, ?_⟩)
    have kept := flushed_staying first flushed
    cases after <;> simp only [outlook, control, kept]
  | add event control =>
    refine .inr (.inr ⟨rfl, ?_⟩)
    have added := total_add_record (staying []) buffers.states event event.memory event.memory (staying_of_records _).empty
      fun state _ => by simp [staying, stored]
    simp only [outlook, control, added]

/-- Since the pressure test the writer has been about to buffer the frame in hand, or has buffered it. -/
def Settling (buffers : Buffers) : Prop :=
  (∃ flush event, buffers.control = .Flushing flush (.Add event)) ∨ (∃ event, buffers.control = .Add event) ∨
    Buffering buffers.states ∧ (buffers.control = .Select ∨ ∃ deadline, buffers.control = .Waiting deadline)

/-- The pressure test decides the outlook. -/
theorem tested_outlook {choice : Choice} {clock : Option Nat} {elapsed : Nat} {senders : Bool} {event : FrameEvent}
    (written : write config choice clock elapsed senders shared buffers journal = some (shared', buffers', journal'))
    (control : buffers.control = .Relieve event) :
    shared' = shared ∧ Settling buffers' ∧
      outlook buffers' = some (behind_test config shared.memory.used_bytes buffers.states event choice) := by
  unfold write at written
  by_cases pressure : config.live_memory_bytes ≤ shared.memory.used_bytes
  · simp only [control, if_pos pressure] at written
    cases choice with
    | Largest cohort =>
      obtain ⟨_, written⟩ := Option.ite_none_right_eq_some.mp written
      obtain ⟨rfl, rfl, rfl⟩ := by simpa only [Option.some.injEq, Prod.mk.injEq] using written
      refine ⟨rfl, .inl ⟨_, event, rfl⟩, ?_⟩
      rw [behind_test, if_pos pressure]
      rfl
    | Proceed =>
      obtain ⟨_, written⟩ := Option.ite_none_right_eq_some.mp written
      obtain ⟨rfl, rfl, rfl⟩ := by simpa only [Option.some.injEq, Prod.mk.injEq] using written
      exact ⟨rfl, .inr (.inl ⟨event, rfl⟩), rfl⟩
    | _ => cases written
  · simp only [control, if_neg pressure] at written
    obtain ⟨rfl, rfl, rfl⟩ := by simpa only [Option.some.injEq, Prod.mk.injEq] using written
    refine ⟨rfl, .inr (.inl ⟨event, rfl⟩), ?_⟩
    cases choice with
    | Largest cohort =>
      rw [behind_test, if_neg pressure]
      rfl
    | _ => rfl

/-- Up to the next wait a step of the writer leaves it settling. -/
theorem wrote_settling {senders : Bool} (wrote : Wrote config senders shared buffers journal shared' buffers' journal')
    (busy : ∀ deadline, buffers.control ≠ .Waiting deadline) (settling : Settling buffers) : Settling buffers' := by
  have held : (∃ flush event, buffers.control = .Flushing flush (.Add event)) ∨ (∃ event, buffers.control = .Add event) ∨
      Buffering buffers.states ∧ buffers.control = .Select :=
    settling.imp_right fun later => later.imp_right fun ⟨buffering, control⟩ =>
      ⟨buffering, control.resolve_right fun ⟨deadline, waiting⟩ => busy deadline waiting⟩
  clear settling busy
  cases wrote with
  | select deadline control =>
    simp only [control, reduceCtorEq, exists_false, false_or, and_true] at held
    exact .inr (.inr ⟨held, .inr ⟨deadline, rfl⟩⟩)
  | resume flush after control through resumed =>
    simp only [control, reduceCtorEq, and_false, exists_false, or_false, Control.Flushing.injEq] at held
    obtain ⟨flush', event, -, rfl⟩ := held
    cases resumed with
    | add event => exact .inr (.inl ⟨event, rfl⟩)
  | flush flush after cohort cohorts control first flushed =>
    simp only [control, reduceCtorEq, and_false, exists_false, or_false, Control.Flushing.injEq] at held
    obtain ⟨_, event, -, rfl⟩ := held
    exact .inl ⟨_, event, rfl⟩
  | add event control =>
    refine .inr (.inr ⟨⟨event.cohort, _, AList.lookup_insert _, ?_⟩, .inl rfl⟩)
    exact List.append_ne_nil_of_right_ne_nil _ (List.cons_ne_nil _ _)
  | _ => simp [*] at held

/-- The writer comes to wait from the top of its loop only. -/
theorem wrote_waiting {senders : Bool} {deadline : Nat}
    (wrote : Wrote config senders shared buffers journal shared' buffers' journal')
    (waiting : buffers'.control = .Waiting deadline) :
    buffers.control = .Select ∧ shared' = shared ∧ buffers'.states = buffers.states := by
  cases wrote with
  | select deadline control => exact ⟨control, rfl, rfl⟩
  | resume flush after control through resumed => cases resumed <;> cases waiting
  | _ => cases waiting

/-- Where the writer is at the top of its loop or waits, the bytes in use are those buffered and those reserved. -/
theorem used_outlook (tracked : Tracked limits state) (drained : state.shared.channel = [])
    (top : state.buffers.control = .Select ∨ ∃ deadline, state.buffers.control = .Waiting deadline) :
    outlook state.buffers = some (total (staying []) state.buffers.states) ∧
      state.shared.memory.used_bytes = held_back state + total (staying []) state.buffers.states := by
  have used := tracked.used
  rw [alive, drained, ← total_staying_none] at used
  rcases top with top | ⟨deadline, top⟩ <;> rw [top] at used <;>
    refine ⟨by simp only [outlook, top], ?_⟩ <;>
    simpa only [held_back, hand, memories, flush_memory, List.map_nil, List.sum_nil, Nat.add_zero] using used

/-- What the test left has room unless more is on its way, and so does an idle collector. -/
structure Roomy (limits : Limits) (state : State) : Prop where
  behind : ∀ left, outlook state.buffers = some left → state.shared.channel = [] → Room limits left
  idle : Idle state → Room limits state.shared.memory.used_bytes

/-- A step that touches neither the buffers, the channel nor the memory. -/
theorem Roomy.quiet (roomy : Roomy limits state) (buffers : state'.buffers = state.buffers)
    (channel : state'.shared.channel = state.shared.channel) (memory : state'.shared.memory = state.shared.memory) :
    Roomy limits state' := by
  constructor
  · intro left looks drained
    exact roomy.behind left (buffers ▸ looks) (channel ▸ drained)
  · rintro ⟨waiting, drained, buffering⟩
    exact memory ▸ roomy.idle ⟨buffers ▸ waiting, channel ▸ drained, buffers ▸ buffering⟩

/-- Connections do not take from the channel. -/
theorem turned_channel {gone : Bool} {dropped dropped' : List FrameEvent} {pass : Pass} {pass' : Option Pass}
    (turned : Turned limits gone shared dropped pass shared' dropped' pass') (drained : shared'.channel = []) :
    shared.channel = [] := by
  cases turned with
  | send event waiting here => exact absurd drained (List.append_ne_nil_of_right_ne_nil _ (List.cons_ne_nil _ _))
  | _ => exact drained

/-- Only a reservation raises the memory in use. -/
theorem turned_used {gone : Bool} {dropped dropped' : List FrameEvent} {pass : Pass}
    {pass' : Option Pass} (turned : Turned limits gone shared dropped pass shared' dropped' pass') (sound : SoundPass pass)
    (held : reserved pass ≤ shared.memory.used_bytes) :
    shared'.memory.used_bytes ≤ shared.memory.used_bytes ∨
      ∃ event, pass = .Loaded event shared.memory.used_bytes ∧
        shared.memory.used_bytes + event.memory ≤ limits.reader.live_memory_bytes ∧
        shared'.memory.used_bytes = shared.memory.used_bytes + event.memory := by
  cases turned with
  | reserve event fits => exact .inr ⟨event, rfl, fits, rfl⟩
  | release closed turned => exact .inl (released_memory turned sound held).2.1
  | released closed turned => exact .inl (released_memory turned sound held).2.1
  | _ => exact .inl le_rfl

theorem Roomy.turn {connection : Nat} (roomy : Roomy limits state) (tracked : Tracked limits state)
    (leaves : LeavesRoom limits state (.Turn connection)) (taken : step limits state (.Turn connection) = some state') :
    Roomy limits state' := by
  obtain ⟨pass, here, taken⟩ := Option.bind_eq_some_iff.mp taken
  obtain ⟨⟨shared, dropped, pass'⟩, turned, rfl⟩ := Option.map_eq_some_iff.mp taken
  have turned := turn_cases turned
  have held : reserved pass ≤ state.shared.memory.used_bytes := by
    have share := share_le_total (fun _ => reserved) connection state.connections
    rw [share_eq here] at share
    rw [tracked.used, alive]
    omega
  constructor
  · intro left looks drained
    exact roomy.behind left looks (turned_channel turned drained)
  · rintro ⟨waiting, drained, buffering⟩
    have idle : Idle state := ⟨waiting, turned_channel turned drained, buffering⟩
    rcases turned_used turned (tracked.passes _ _ here) held with less | ⟨event, rfl, fits, raised⟩
    · have room := roomy.idle idle
      unfold Room at room ⊢
      dsimp only
      omega
    · exact raised.symm ▸ leaves.reservation connection event rfl idle here fits

theorem Roomy.write {choice : Choice} (roomy : Roomy limits state) (tracked : Tracked limits state)
    (closing : ∀ event, state.buffers.control ≠ .Closing (.Add event)) (empty : Room limits 0)
    (leaves : LeavesRoom limits state (.Write choice)) (taken : step limits state (.Write choice) = some state') :
    Roomy limits state' := by
  obtain ⟨⟨shared, buffers, journal⟩, written, rfl⟩ := Option.map_eq_some_iff.mp taken
  have wrote := write_cases written
  constructor
  · intro left looks drained
    by_cases testing : ∃ event, state.buffers.control = .Relieve event
    · obtain ⟨event, control⟩ := testing
      obtain ⟨rfl, -, looked⟩ := tested_outlook written control
      obtain rfl := Option.some.inj (looked.symm.trans looks)
      exact leaves.test choice event rfl control drained
    · rcases wrote_outlook wrote tracked.through (fun event control => testing ⟨event, control⟩) closing with
        ⟨-, nothing⟩ | ⟨-, -, closed⟩ | ⟨channel, kept⟩
      · exact absurd (nothing.symm.trans looks) nofun
      · obtain rfl := Option.some.inj (closed.symm.trans looks)
        exact empty
      · exact roomy.behind left (kept.symm.trans looks) (channel.symm.trans drained)
  · rintro ⟨⟨deadline, waiting⟩, drained, buffering⟩
    obtain ⟨control, rfl, same⟩ := wrote_waiting wrote waiting
    obtain ⟨looks, used⟩ := used_outlook tracked drained (.inl control)
    by_cases alone : held_back state = 0
    · have room := roomy.behind _ looks drained
      dsimp only
      rwa [used, alone, Nat.zero_add]
    · exact leaves.wait choice rfl control drained (same ▸ buffering) alone

theorem Roomy.step {action : Action} (roomy : Roomy limits state) (tracked : Tracked limits state)
    (closing : ∀ event, state.buffers.control ≠ .Closing (.Add event)) (empty : Room limits 0)
    (leaves : LeavesRoom limits state action) (taken : step limits state action = some state') : Roomy limits state' := by
  by_cases turning : ∃ connection, action = .Turn connection
  · obtain ⟨connection, rfl⟩ := turning
    exact roomy.turn tracked leaves taken
  by_cases writing : ∃ choice, action = .Write choice
  · obtain ⟨choice, rfl⟩ := writing
    exact roomy.write tracked closing empty leaves taken
  obtain ⟨buffers, channel, memory, -⟩ := quiet_step taken (not_exists.mp turning) (not_exists.mp writing)
  exact roomy.quiet buffers channel memory

/-! ### From the test to the wait -/

/-- Only the writer moves, and not from where it waits. -/
def UpToWait (state : State) (action : Action) : Prop :=
  (∃ choice, action = .Write choice) ∧ ∀ deadline, state.buffers.control ≠ .Waiting deadline

/-- Nothing is under way but the writer, and the test left so much. -/
structure Settled (limits : Limits) (left : Nat) (state : State) : Prop where
  tracked : Tracked limits state
  drained : state.shared.channel = []
  alone : held_back state = 0
  settling : Settling state.buffers
  looks : outlook state.buffers = some left

theorem Settled.step {left : Nat} {action : Action} (settled : Settled limits left state) (only : UpToWait state action)
    (taken : step limits state action = some state') : Settled limits left state' := by
  obtain ⟨⟨choice, rfl⟩, busy⟩ := only
  have tracked := settled.tracked.step (step_cases taken)
  obtain ⟨⟨shared, buffers, journal⟩, written, rfl⟩ := Option.map_eq_some_iff.mp taken
  have wrote := write_cases written
  have elsewhere : ∀ event, state.buffers.control ≠ .Relieve event := fun event control => by
    have looks := settled.looks
    simp [outlook, control] at looks
  have closing : ∀ after, state.buffers.control ≠ .Closing after := fun after control => by
    have looks := settled.looks
    simp [outlook, control] at looks
  rcases wrote_outlook wrote settled.tracked.through elsewhere (fun event => closing (.Add event)) with
    ⟨⟨deadline, waiting⟩, -⟩ | ⟨closed, -⟩ | ⟨channel, kept⟩
  · exact absurd waiting (busy deadline)
  · exact absurd closed (closing _)
  · exact ⟨tracked, channel.trans settled.drained, settled.alone, wrote_settling wrote busy settled.settling,
      kept.trans settled.looks⟩

/-- Where it comes to wait, the collector is idle, and the bytes in use are those that the test left. -/
theorem Settled.waits {left deadline : Nat} (settled : Settled limits left state)
    (waiting : state.buffers.control = .Waiting deadline) : Idle state ∧ state.shared.memory.used_bytes = left := by
  obtain ⟨looks, used⟩ := used_outlook settled.tracked settled.drained (.inr ⟨deadline, waiting⟩)
  obtain rfl := Option.some.inj (settled.looks.symm.trans looks)
  rw [settled.alone, Nat.zero_add] at used
  refine ⟨⟨⟨deadline, waiting⟩, settled.drained, ?_⟩, used⟩
  have settling := settled.settling
  simp only [Settling, waiting, reduceCtorEq, exists_false, false_or] at settling
  exact settling.1

end Steps

/-! ### Room -/

/-- In every run whose steps meet the condition, an idle collector admits every frame. From a pressure test with nothing in
    the channel and nothing reserved the writer comes, alone, to an idle state that admits every frame exactly where the test
    leaves the room; and a reservation or a wait without the condition makes an idle state that does not. -/
theorem pressure_leaves_room (configured : Config) (limits : Limits) (validated : run_with_store configured = .ok limits)
    (now : Nat) (begun : State) (started : start limits now = .ok begun) :
    (∀ state, Reached (step limits) (LeavesRoom limits) begun state → Idle state → Admits limits state) ∧
      (∀ state, Reached (step limits) Any begun state → ∀ choice event, state.buffers.control = .Relieve event →
        state.shared.channel = [] → held_back state = 0 → ∀ next, step limits state (.Write choice) = some next →
        ∀ last deadline, Reached (step limits) UpToWait next last → last.buffers.control = .Waiting deadline →
        Idle last ∧ (Admits limits last ↔
          Room limits (behind_test limits.writer state.shared.memory.used_bytes state.buffers.states event choice))) ∧
      (∀ state connection event next, Idle state →
        state.connections.lookup connection = some (.Loaded event state.shared.memory.used_bytes) →
        state.shared.memory.used_bytes + event.memory ≤ limits.reader.live_memory_bytes →
        step limits state (.Turn connection) = some next →
        Idle next ∧ (Admits limits next ↔ Room limits (state.shared.memory.used_bytes + event.memory))) ∧
      ∀ state choice next, state.buffers.control = .Select → state.shared.channel = [] → Buffering state.buffers.states →
        step limits state (.Write choice) = some next →
        Idle next ∧ (Admits limits next ↔ Room limits state.shared.memory.used_bytes) := by
  have validated := run_with_store_ok validated
  have empty : Room limits 0 := by
    have fits := validated.fits_live
    rw [validated.live] at fits
    unfold Room
    rw [validated.max_frame_size, Nat.zero_add]
    exact fits
  refine ⟨fun state reached idle => ?_, ?_, ?_, ?_⟩
  · have initial : Roomy limits begun := by
      obtain ⟨-, -, -, -, -, states, control, -⟩ := start_ok started
      refine ⟨fun left looks _ => ?_, fun ⟨⟨deadline, waiting⟩, _, _⟩ => ?_⟩
      · rw [outlook, control, states] at looks
        exact Option.some.inj looks ▸ empty
      · rw [control] at waiting
        cases waiting
    have kept : ∀ before action later, Reached (step limits) (LeavesRoom limits) begun before → Roomy limits before →
        LeavesRoom limits before action → step limits before action = some later → Roomy limits later := by
      intro before action later earlier roomy leaves taken
      have budgeted := reached_budgeted validated started earlier.any
      exact roomy.step budgeted.tracked budgeted.spilled.closing empty leaves taken
    exact admits_iff.mpr ((reached.invariant initial kept).idle idle)
  · intro state reached choice event control drained alone next tested last deadline further waiting
    have tracked := reached_tracked started reached
    have first : Settled limits (behind_test limits.writer state.shared.memory.used_bytes state.buffers.states event choice)
        next := by
      have tracked := tracked.step (step_cases tested)
      obtain ⟨⟨shared, buffers, journal⟩, written, rfl⟩ := Option.map_eq_some_iff.mp tested
      obtain ⟨rfl, settling, looks⟩ := tested_outlook written control
      exact ⟨tracked, drained, alone, settling, looks⟩
    have settled := further.invariant first fun _ _ _ _ settled only taken => settled.step only taken
    obtain ⟨idle, used⟩ := settled.waits waiting
    exact ⟨idle, used ▸ admits_iff⟩
  · intro state connection event next idle here fits taken
    have reserved : step limits state (.Turn connection) = some { state with
        connections := state.connections.insert connection (.Reserved event)
        shared := { state.shared with memory := { state.shared.memory with
          used_bytes := state.shared.memory.used_bytes + event.memory } } } := by
      simp [step, here, turn, try_reserve, Nat.not_lt.mpr fits]
    obtain rfl := Option.some.inj (reserved.symm.trans taken)
    exact ⟨⟨idle.waiting, idle.drained, idle.buffering⟩, admits_iff⟩
  · intro state choice next control drained buffering taken
    obtain ⟨⟨shared, buffers, journal⟩, written, rfl⟩ := Option.map_eq_some_iff.mp taken
    obtain ⟨rfl, rfl, rfl⟩ := by simpa [write, control] using written
    exact ⟨⟨⟨_, rfl⟩, drained, buffering⟩, admits_iff⟩

/-! ### A run under pressure -/

def waits : Control → Bool
  | .Waiting _ => true
  | _ => false

/-- A check for steps that leave room. -/
def leaves_room (limits : Limits) (state : State) : Action → Bool
  | .Turn connection =>
    match state.connections.lookup connection with
    | some (.Loaded event current) =>
      !waits state.buffers.control || !state.shared.channel.isEmpty || Room limits (current + event.memory)
    | _ => true
  | .Write choice =>
    match state.buffers.control with
    | .Relieve event => !state.shared.channel.isEmpty ||
        Room limits (behind_test limits.writer state.shared.memory.used_bytes state.buffers.states event choice)
    | .Select => !state.shared.channel.isEmpty || held_back state = 0
    | _ => true
  | _ => true

theorem leaves_room_ok {limits : Limits} {state : State} {action : Action}
    (passes : leaves_room limits state action = true) : LeavesRoom limits state action where
  test choice event chosen control drained := by
    subst chosen
    simpa [leaves_room, control, drained] using passes
  reservation connection event chosen idle here _ := by
    subst chosen
    obtain ⟨deadline, waiting⟩ := idle.waiting
    simpa [leaves_room, here, waiting, waits, idle.drained] using passes
  wait choice chosen control drained _ held := by
    subst chosen
    have none : held_back state = 0 := by simpa [leaves_room, control, drained] using passes
    exact absurd none held

/-- One frame is buffered, and the writer waits. -/
def bufferedRun : List Action :=
  [.Accept 0, .Stamp 0 (bareFrame "a"), .Turn 0, .Turn 0, .Turn 0, .Write .Proceed, .Write .Receive, .Write .Proceed,
    .Write .Proceed, .Write .Proceed, .Write .Proceed, .Write .Proceed, .Write .Proceed]

/-- While the writer buffers the first of two frames, the second takes the rest of the memory, and comes to the test. -/
def raisedRun : List Action :=
  [.Accept 0, .Stamp 0 (bareFrame "a"), .Turn 0, .Turn 0, .Turn 0, .Write .Proceed, .Write .Receive,
    .Stamp 0 (bareFrame "b"), .Turn 0, .Turn 0, .Turn 0, .Write .Proceed, .Write .Proceed, .Write .Proceed, .Write .Proceed,
    .Write .Proceed, .Write .Proceed, .Write .Receive, .Write .Proceed, .Write .Proceed, .Write .Proceed]

/-- The first is flushed, and the second buffered. -/
def settlingRun : List Action :=
  [.Write .Proceed, .Write .Proceed, .Write .Proceed, .Write .Proceed, .Write .Proceed, .Write .Proceed,
    .Write (.Put ⟨0, zero_fits⟩ .Ok), .Write .Proceed, .Write .Proceed, .Write .Proceed]

def pressedRun : List Action := raisedRun ++ [.Write (.Largest a)] ++ settlingRun

/-- A check for steps of the writer up to where it waits. -/
def up_to_wait (state : State) : Action → Bool
  | .Write _ => !waits state.buffers.control
  | _ => false

theorem up_to_wait_ok {state : State} {action : Action} (passes : up_to_wait state action = true) : UpToWait state action := by
  cases action with
  | Write choice =>
    refine ⟨⟨choice, rfl⟩, fun deadline waiting => ?_⟩
    simp [up_to_wait, waiting, waits] at passes
  | _ => cases passes

/-- What makes a state idle, as values. -/
def standing (state : State) : Control × List FrameEvent × Bool :=
  (state.buffers.control, state.shared.channel, state.buffers.states.entries.any fun entry => !entry.2.records.isEmpty)

theorem idle_of {state : State} {deadline : Nat} (stands : standing state = (.Waiting deadline, [], true)) : Idle state := by
  simp only [standing, Prod.mk.injEq, List.any_eq_true] at stands
  obtain ⟨waiting, drained, entry, member, records⟩ := stands
  refine ⟨⟨deadline, waiting⟩, drained, entry.1, entry.2, AList.mem_lookup_iff.mpr member, ?_⟩
  simpa [HasRecords] using records

/-- The idle collector admits every frame, and the test behind which it came to wait says so. -/
theorem pressed_run_admits : ∃ begun state tested last, start pairLimits 0 = .ok begun ∧
    Reached (step pairLimits) (LeavesRoom pairLimits) begun state ∧ state.journal.uploads.length = 1 ∧ Idle state ∧
    Admits pairLimits state ∧ Reached (step pairLimits) Any begun tested ∧ Idle last ∧
    (Admits pairLimits last ↔ Room pairLimits (behind_test pairLimits.writer tested.shared.memory.used_bytes
      tested.buffers.states ⟨b, 0, bareFrame "b", 37⟩ (.Largest a))) := by
  have outcome : (checked pairLimits (leaves_room pairLimits) 0 pressedRun).map (fun state =>
      (standing state, state.journal.uploads.length)) = some ((.Waiting 60000000, [], true), 1) := by
    decide
  obtain ⟨state, ran, values⟩ := Option.map_eq_some_iff.mp outcome
  obtain ⟨begun, started, reached⟩ := checked_reached ran
  have reached : Reached (step pairLimits) (LeavesRoom pairLimits) begun state :=
    reached.mono fun _ _ passes => leaves_room_ok passes
  obtain ⟨stands, uploads⟩ := Prod.mk.inj values
  have idle := idle_of stands
  have outcome : (after pairLimits 0 raisedRun).bind (fun tested =>
      (step pairLimits tested (.Write (.Largest a))).bind fun next =>
        (run (guarded (step pairLimits) up_to_wait) next settlingRun).map fun last =>
          (tested.buffers.control, tested.shared.channel, held_back tested, last.buffers.control)) =
      some (.Relieve ⟨b, 0, bareFrame "b", 37⟩, [], 0, .Waiting 60000000) := by
    decide
  obtain ⟨tested, ran, rest⟩ := Option.bind_eq_some_iff.mp outcome
  obtain ⟨next, chose, rest⟩ := Option.bind_eq_some_iff.mp rest
  obtain ⟨last, settled, values⟩ := Option.map_eq_some_iff.mp rest
  obtain ⟨control, drained, alone, waiting⟩ := by simpa only [Prod.mk.injEq] using values
  obtain ⟨begun', started', earlier⟩ := after_reached ran
  obtain rfl := Except.ok.inj (started.symm.trans started')
  have settled : Reached (step pairLimits) UpToWait next last :=
    (guarded_reaches settled).mono fun _ _ passes => up_to_wait_ok passes
  obtain ⟨leaving, exact_test, -, -⟩ := pressure_leaves_room pairConfig pairLimits pair_started 0 begun started
  exact ⟨begun, state, tested, last, started, reached, uploads, idle, leaving state reached idle, earlier,
    exact_test tested earlier _ _ control drained alone next chose last _ settled waiting⟩

/-! ### Starved by one record -/

/-- With all memory in one buffered record, the waiting collector takes no frame. -/
theorem buffered_record_starves : ∃ begun, start tightLimits 0 = .ok begun ∧
    ¬∀ state, Reached (step tightLimits) Any begun state → Idle state → Admits tightLimits state := by
  have outcome : (after tightLimits 0 bufferedRun).map (fun state => (standing state, state.shared.memory.used_bytes)) =
      some ((.Waiting 60000000, [], true), 37) := by
    decide
  obtain ⟨state, ran, values⟩ := Option.map_eq_some_iff.mp outcome
  obtain ⟨begun, started, reached⟩ := after_reached ran
  obtain ⟨stands, used⟩ := Prod.mk.inj values
  refine ⟨begun, started, fun all => ?_⟩
  have room := admits_iff.mp (all state reached (idle_of stands))
  rw [used] at room
  exact absurd room (by decide)

end VectorSeam.Pressure
