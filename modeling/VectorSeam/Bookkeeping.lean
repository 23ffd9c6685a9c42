import VectorSeam.Pressure

/-!
The size of the books. A state with records is paid for by memory. What is left, the ledger
and the states without records, grows only where a frame is dropped under a name that the
ledger has not; there it grows by one entry, and nothing limits it.
-/

namespace VectorSeam.Bookkeeping
open VectorSeam.LittleEndian VectorSeam.Cohort VectorSeam.Model VectorSeam.Reader VectorSeam.Writer VectorSeam.Tables
open VectorSeam.Machines VectorSeam.Collector VectorSeam.Transitions VectorSeam.Custody VectorSeam.Conservation VectorSeam.Budget

/-- States with records, and states without, as weights. -/
def recorded (_ : CohortName) (state : CohortState) : Nat := if state.records = [] then 0 else 1
def bare (_ : CohortName) (state : CohortState) : Nat := if state.records = [] then 1 else 0

/-- The entries that only drops account for. -/
def drop_entries (ledger : Ledger) (states : States) : Nat := ledger.entries.length + total bare states

/-- All entries of the books. -/
def book_entries (state : State) : Nat :=
  state.shared.pending_cohort_drops.entries.length + state.buffers.states.entries.length

/-- The bound that the limits of the collector give. -/
def book_limit (config : Config) : Nat := config.global_memory_bytes / 36 + config.channel_capacity

/-- What the bound leaves beside the states that the memory has room for; a record takes 37 bytes at least. -/
def spare (config : Config) (limits : Limits) : Nat := book_limit config - limits.reader.live_memory_bytes / 37

/-- The connection is about to count its frame as dropped. -/
def Dropping (pass : Pass) (event : FrameEvent) : Prop := pass = .Refused event ∨ ∃ closed, pass = .Unsent event closed

/-- A drop under a name that the ledger has not finds less than the given number of entries that only drops account for. -/
def WithinSpare (room : Nat) (state : State) (action : Action) : Prop :=
  ∀ connection pass event, action = .Turn connection → state.connections.lookup connection = some pass → Dropping pass event →
    state.shared.pending_cohort_drops.lookup event.cohort = none →
    drop_entries state.shared.pending_cohort_drops state.buffers.states < room

variable {cohort : CohortName} {ledger ledger' : Ledger} {states states' : States}

theorem total_recorded_bare (states : States) : total recorded states + total bare states = states.entries.length := by
  unfold total recorded bare
  induction states.entries with
  | nil => rfl
  | cons entry entries ih =>
    by_cases empty : entry.2.records = [] <;> simp [empty] <;> omega

/-! ### What a step adds -/

theorem length_insert_of_some {drops drops' : Nat} (found : ledger.lookup cohort = some drops) :
    (ledger.insert cohort drops').entries.length = ledger.entries.length := by
  have inserted := total_insert (fun _ _ => 1) cohort drops' ledger
  rw [share_eq found, total_one, total_one] at inserted
  exact Nat.add_right_cancel inserted

theorem length_insert_of_none {drops : Nat} (missing : ledger.lookup cohort = none) :
    (ledger.insert cohort drops).entries.length = ledger.entries.length + 1 := by
  have inserted := total_insert (fun _ _ => 1) cohort drops ledger
  rwa [share_none missing, total_one, total_one] at inserted

theorem length_erase_of_some {drops : Nat} (found : ledger.lookup cohort = some drops) :
    (ledger.erase cohort).entries.length + 1 = ledger.entries.length := by
  have erased := total_erase (fun _ _ => 1) cohort ledger
  rwa [share_eq found, total_one, total_one] at erased

theorem length_erase_le : (ledger.erase cohort).entries.length ≤ ledger.entries.length := by
  have erased := total_erase (fun _ _ => 1) cohort ledger
  rw [total_one, total_one] at erased
  omega

/-- The drops of one cohort take at most one state of their own. -/
theorem bare_count_drops {drops : Nat} : total bare (count_drops states cohort drops) ≤ total bare states + 1 := by
  have one : ∀ state, bare cohort state ≤ 1 := fun state => by
    unfold bare
    split <;> omega
  calc total bare (count_drops states cohort drops)
      ≤ total bare (count_drops states cohort drops) + share bare cohort states := Nat.le_add_right _ _
    _ = total bare states + bare cohort _ := total_insert bare cohort _ states
    _ ≤ total bare states + 1 := Nat.add_le_add_left (one _) _

theorem drop_entries_fold (folded : fold_pending_drops cohort ledger states = (ledger', states')) :
    drop_entries ledger' states' ≤ drop_entries ledger states := by
  unfold drop_entries
  obtain ⟨rfl, ⟨-, rfl⟩ | ⟨some_drops, rfl⟩⟩ := fold_cases folded
  · exact Nat.add_le_add_right length_erase_le _
  · cases found : ledger.lookup cohort with
    | none =>
      rw [found] at some_drops
      exact absurd rfl some_drops
    | some drops =>
      have fewer := length_erase_of_some found
      have more : total bare (count_drops states cohort drops) ≤ total bare states + 1 := bare_count_drops
      rw [Option.getD_some]
      omega

theorem drop_entries_fold_all : drop_entries ∅ (fold_all_pending_drops ledger states) ≤ drop_entries ledger states := by
  unfold drop_entries fold_all_pending_drops
  have each : ∀ entries : List (Sigma fun _ : CohortName => Nat), ∀ states,
      total bare (entries.foldl (fun states entry => count_drops states entry.1 entry.2) states) ≤
        entries.length + total bare states := by
    intro entries
    induction entries with
    | nil =>
      intro states
      simp
    | cons entry entries ih =>
      intro states
      have rest := ih (count_drops states entry.1 entry.2)
      have one : total bare (count_drops states entry.1 entry.2) ≤ total bare states + 1 := bare_count_drops
      rw [List.foldl_cons, List.length_cons]
      omega
  exact (Nat.zero_add _).trans_le (each ledger.entries states)

/-- A record goes into a state that is bare no longer. -/
theorem bare_add_record {event : FrameEvent} {bytes : Nat} : total bare (add_record states event bytes) ≤ total bare states := by
  have inserted := total_insert bare event.cohort {
    records := ((states.lookup event.cohort).getD .default).records ++
      [{ receive_time := event.receive_time, frame := event.frame, memory := event.memory }]
    bytes := saturating_add ((states.lookup event.cohort).getD .default).bytes bytes
    received_frame_count := saturating_add ((states.lookup event.cohort).getD .default).received_frame_count 1 } states
  rw [bare, if_neg (List.append_ne_nil_of_right_ne_nil _ (List.cons_ne_nil _ _))] at inserted
  simp only [add_record]
  omega

/-- A drop adds an entry under a new name only. -/
theorem drop_entries_drop : drop_entries (record_pending_cohort_drop cohort ledger) states ≤ drop_entries ledger states ∨
    ledger.lookup cohort = none ∧
      drop_entries (record_pending_cohort_drop cohort ledger) states = drop_entries ledger states + 1 := by
  unfold drop_entries record_pending_cohort_drop
  cases found : ledger.lookup cohort with
  | none =>
    refine .inr ⟨rfl, ?_⟩
    rw [length_insert_of_none found]
    omega
  | some drops =>
    refine .inl ?_
    rw [length_insert_of_some found]

variable {limits : Limits} {config : WriterConfig} {shared shared' : Shared} {buffers buffers' : Buffers}
variable {journal journal' : Journal} {dropped dropped' : List FrameEvent}

theorem turned_drop_entries (states : States) {gone : Bool} {pass : Pass} {pass' : Option Pass}
    (turned : Turned limits gone shared dropped pass shared' dropped' pass') :
    drop_entries shared'.pending_cohort_drops states ≤ drop_entries shared.pending_cohort_drops states ∨
      ∃ event, Dropping pass event ∧ shared.pending_cohort_drops.lookup event.cohort = none ∧
        drop_entries shared'.pending_cohort_drops states = drop_entries shared.pending_cohort_drops states + 1 := by
  cases turned with
  | memory_drop event => exact drop_entries_drop.imp_right fun more => ⟨event, .inl rfl, more⟩
  | channel_drop event closed => exact drop_entries_drop.imp_right fun more => ⟨event, .inr ⟨closed, rfl⟩, more⟩
  | _ => exact .inl le_rfl

theorem flushed_drop_entries {flush flush' : Flush}
    (flushed : Flushed config cohort flush shared buffers journal shared' buffers' journal' flush') :
    drop_entries shared'.pending_cohort_drops buffers'.states ≤ drop_entries shared.pending_cohort_drops buffers.states := by
  cases flushed with
  | fold stage folded => exact drop_entries_fold folded
  | take state stage found something =>
    have erased := total_erase bare cohort buffers.states
    unfold drop_entries
    dsimp only
    omega
  | _ => exact le_rfl

theorem wrote_drop_entries {senders : Bool} (wrote : Wrote config senders shared buffers journal shared' buffers' journal') :
    drop_entries shared'.pending_cohort_drops buffers'.states ≤ drop_entries shared.pending_cohort_drops buffers.states := by
  cases wrote with
  | close after cohorts control keys => exact drop_entries_fold_all
  | fold event control folded => exact drop_entries_fold folded
  | resume flush after control through resumed =>
    rw [(resumed_keeps resumed).2]
  | flush flush after cohort cohorts control first flushed =>
    have kept := flushed_drop_entries flushed
    exact kept
  | add event control => exact Nat.add_le_add_left bare_add_record _
  | _ => exact le_rfl

/-- A step that meets the condition leaves no more entries to drops than the condition gives them. -/
theorem step_drop_entries {room : Nat} {state state' : State} {action : Action}
    (within : drop_entries state.shared.pending_cohort_drops state.buffers.states ≤ room)
    (fits : WithinSpare room state action) (taken : step limits state action = some state') :
    drop_entries state'.shared.pending_cohort_drops state'.buffers.states ≤ room := by
  by_cases turning : ∃ connection, action = .Turn connection
  · obtain ⟨connection, rfl⟩ := turning
    obtain ⟨pass, here, taken⟩ := Option.bind_eq_some_iff.mp taken
    obtain ⟨⟨shared, dropped, pass'⟩, turned, rfl⟩ := Option.map_eq_some_iff.mp taken
    rcases turned_drop_entries state.buffers.states (turn_cases turned) with less | ⟨event, dropping, new, one_more⟩
    · exact less.trans within
    · have room := fits connection pass event rfl here dropping new
      dsimp only
      omega
  by_cases writing : ∃ choice, action = .Write choice
  · obtain ⟨choice, rfl⟩ := writing
    obtain ⟨⟨shared, buffers, journal⟩, written, rfl⟩ := Option.map_eq_some_iff.mp taken
    exact (wrote_drop_entries (write_cases written)).trans within
  obtain ⟨buffers, -, -, drops⟩ := quiet_step taken (not_exists.mp turning) (not_exists.mp writing)
  rw [buffers, drops]
  exact within

/-! ### What memory pays for -/

/-- A name has a byte, and a frame its header and its name. -/
theorem stamped_memory_min {event : FrameEvent} (stamped : Stamped limits event) : 37 ≤ event.memory := by
  obtain ⟨header, parsed, named⟩ := stamped.parsed
  obtain ⟨vector, framed⟩ := FrameLayout.parse_frame_header_iff.mp parsed
  have long := framed.length_min
  have some_byte : 0 < (utf8 header.name).length := by
    have some_char : event.cohort.name ≠ "" := fun empty => event.cohort.nameValid.nonempty (by rw [empty]; rfl)
    refine Nat.pos_of_ne_zero fun none => some_char ?_
    rw [named]
    exact String.utf8ByteSize_eq_zero_iff.mp none
  rw [framed.1.name_len] at long
  rw [stamped.memory]
  simp only [Frame.FIXED_FRAME_HEADER_LEN] at long
  omega

/-- The states with records fit in the memory. -/
theorem recorded_le {state : State} (tracked : Tracked limits state) (everywhere : Everywhere (Stamped limits) state) :
    total recorded state.buffers.states ≤ limits.reader.live_memory_bytes / 37 := by
  have paid : 37 * total recorded state.buffers.states ≤ total buffers_memory state.buffers.states := by
    rw [← total_mul]
    refine total_mono fun cohort cohort_state found => ?_
    cases here : cohort_state.records with
    | nil => simp [recorded, here]
    | cons record records =>
      have stamped := everywhere.buffered cohort cohort_state found (event_of cohort record)
        (List.mem_map_of_mem (by rw [here]; exact List.mem_cons_self))
      have enough : 37 ≤ record.memory := stamped_memory_min stamped
      simp only [recorded, buffers_memory, stored, here, List.map_cons, List.sum_cons, reduceCtorEq, if_false]
      omega
  have used := tracked.used
  have within := tracked.within
  rw [alive] at used
  refine (Nat.le_div_iff_mul_le (by decide)).mpr ?_
  omega

/-! ### Refused under new names -/

/-- Frames of new names, each of which the memory has no room for. -/
structure Unwelcome (limits : Limits) (state : State) (events : List FrameEvent) : Prop where
  sent : ∀ event ∈ events, ∃ frame, stamp limits state.clock frame = some event
  full : ∀ event ∈ events, limits.reader.live_memory_bytes < state.shared.memory.used_bytes + event.memory
  new : ∀ event ∈ events, state.shared.pending_cohort_drops.lookup event.cohort = none
  apart : (events.map FrameEvent.cohort).Nodup

/-- A connection reads a frame, finds no room for it, and counts it. -/
theorem refused_frame {state : State} {connection : Nat} {event : FrameEvent}
    (reading : state.connections.lookup connection = some .Reading)
    (sent : ∃ frame, stamp limits state.clock frame = some event)
    (full : limits.reader.live_memory_bytes < state.shared.memory.used_bytes + event.memory) :
    ∃ later, Reached (step limits) Any state later ∧ later.connections.lookup connection = some .Reading ∧
      later.clock = state.clock ∧ later.shared.memory = state.shared.memory ∧ later.buffers = state.buffers ∧
      later.shared.pending_cohort_drops = record_pending_cohort_drop event.cohort state.shared.pending_cohort_drops := by
  obtain ⟨frame, stamped⟩ := sent
  have ran : ∃ later, run (step limits) state
      [.Stamp connection frame, .Turn connection, .Turn connection, .Turn connection] = some later ∧
        later.connections.lookup connection = some .Reading ∧ later.clock = state.clock ∧
        later.shared.memory = state.shared.memory ∧ later.buffers = state.buffers ∧
        later.shared.pending_cohort_drops = record_pending_cohort_drop event.cohort state.shared.pending_cohort_drops := by
    simp [run, step, reading, stamped, turn, try_reserve, full, DropCounters.record_memory_drop]
  obtain ⟨later, ran, kept⟩ := ran
  exact ⟨later, run_reaches ran, kept⟩

/-- Each of them makes an entry, however many there are. -/
theorem unwelcome_booked {state : State} {connection : Nat} {events : List FrameEvent}
    (reading : state.connections.lookup connection = some .Reading) (unwelcome : Unwelcome limits state events) :
    ∃ later, Reached (step limits) Any state later ∧ book_entries later = book_entries state + events.length := by
  induction events generalizing state with
  | nil => exact ⟨state, .start, rfl⟩
  | cons event events ih =>
    obtain ⟨sent, full, new, apart⟩ := unwelcome
    obtain ⟨other, rest⟩ := List.nodup_cons.mp apart
    obtain ⟨middle, reached, still, clock, memory, buffers, ledger⟩ := refused_frame reading
      (sent event List.mem_cons_self) (full event List.mem_cons_self)
    have unwelcome : Unwelcome limits middle events := by
      refine ⟨fun later member => ?_, fun later member => ?_, fun later member => ?_, rest⟩
      · exact clock ▸ sent later (List.mem_cons_of_mem _ member)
      · exact memory ▸ full later (List.mem_cons_of_mem _ member)
      · have different : later.cohort ≠ event.cohort := fun same => other (same ▸ List.mem_map_of_mem member)
        rw [ledger, record_pending_cohort_drop, AList.lookup_insert_ne different]
        exact new later (List.mem_cons_of_mem _ member)
    obtain ⟨last, further, more⟩ := ih still unwelcome
    refine ⟨last, reached.trans further, more.trans ?_⟩
    rw [book_entries, book_entries, ledger, buffers, record_pending_cohort_drop,
      length_insert_of_none (new event List.mem_cons_self), List.length_cons]
    omega

/-- In every run whose drops under new names stay within what the bound leaves beside the memory, the books keep the bound; and
    wherever a connection reads and the memory has no room, frames of so many new names make so many entries more. -/
theorem books_bounded (configured : Config) (limits : Limits) (validated : run_with_store configured = .ok limits)
    (now : Nat) (begun : State) (started : start limits now = .ok begun) :
    (∀ state, Reached (step limits) (WithinSpare (spare configured limits)) begun state →
      book_entries state ≤ book_limit configured) ∧
      ∀ state, Reached (step limits) Any begun state → ∀ connection events,
        state.connections.lookup connection = some .Reading → Unwelcome limits state events →
        ∃ later, Reached (step limits) Any begun later ∧ book_entries later = book_entries state + events.length := by
  have validated := run_with_store_ok validated
  constructor
  · intro state reached
    have within : drop_entries state.shared.pending_cohort_drops state.buffers.states ≤ spare configured limits := by
      refine reached.invariant ?_ fun _ _ _ _ within fits taken => step_drop_entries within fits taken
      obtain ⟨-, -, ledger, -, -, states, -, -⟩ := start_ok started
      rw [ledger, states]
      exact Nat.zero_le _
    have budgeted := reached_budgeted validated started reached.any
    have recorded := recorded_le budgeted.tracked budgeted.everywhere
    have all := total_recorded_bare state.buffers.states
    have room : limits.reader.live_memory_bytes / 37 ≤ book_limit configured := by
      have reserve := validated.reserve
      have live := validated.live
      unfold book_limit
      omega
    unfold drop_entries at within
    unfold spare at within
    unfold book_entries
    omega
  · intro state reached connection events reading unwelcome
    obtain ⟨later, further, more⟩ := unwelcome_booked reading unwelcome
    exact ⟨later, reached.trans further.any, more⟩

/-! ### A run with drops -/

def dropping : Pass → Option FrameEvent
  | .Refused event => some event
  | .Unsent event _ => some event
  | _ => none

/-- A check for steps within the spare room. -/
def within_spare (room : Nat) (state : State) : Action → Bool
  | .Turn connection => ((state.connections.lookup connection).bind dropping).all fun event =>
      (state.shared.pending_cohort_drops.lookup event.cohort).isSome ||
        decide (drop_entries state.shared.pending_cohort_drops state.buffers.states < room)
  | _ => true

theorem within_spare_ok {room : Nat} {state : State} {action : Action} (passes : within_spare room state action = true) :
    WithinSpare room state action := by
  rintro connection pass event rfl here counts new
  have dropped : dropping pass = some event := by
    rcases counts with rfl | ⟨closed, rfl⟩ <;> rfl
  simpa [within_spare, here, dropped, new] using passes

def c : CohortName := ⟨"c", by decide⟩

/-- All memory is in use by a frame in the channel. -/
def fullRun : List Action := [.Accept 0, .Stamp 0 (bareFrame "a"), .Turn 0, .Turn 0, .Turn 0]

/-- The connection reads a frame and drops it. -/
def refused (name : String) : List Action := [.Stamp 0 (bareFrame name), .Turn 0, .Turn 0, .Turn 0]

/-- Frames of two cohorts are refused before the writer buffers the first frame and closes the window, and one after it. -/
def droppingRun : List Action :=
  fullRun ++ refused "b" ++ refused "c" ++
    [.Write .Proceed, .Write .Receive, .Write .Proceed, .Write .Proceed, .Write .Proceed, .Write .Proceed, .Write .Proceed,
      .Write .Proceed, .Tick 60000000 (some 60000000), .Write .Sleep, .Write (.Keys [a, b, c])] ++ refused "b"

/-- Frames for a dozen cohorts. -/
def dozen : List String := ["b", "c", "d", "e", "f", "g", "h", "i", "j", "k", "l", "m"]
def dozenEvents : List FrameEvent := dozen.filterMap fun name => stamp tightLimits (some 0) (bareFrame name)

theorem dozen_apart : dozenEvents.length = 12 ∧ (dozenEvents.map FrameEvent.cohort).Nodup ∧
    ∀ event ∈ dozenEvents, 0 < event.memory := by
  decide

theorem dozen_unwelcome {state : State} (clock : state.clock = some 0) (used : state.shared.memory.used_bytes = 37)
    (empty : state.shared.pending_cohort_drops.entries.length = 0) : Unwelcome tightLimits state dozenEvents where
  sent event member := by
    obtain ⟨name, -, stamped⟩ := List.mem_filterMap.mp member
    exact ⟨bareFrame name, clock ▸ stamped⟩
  full event member := by
    rw [used]
    exact Nat.lt_add_of_pos_right (dozen_apart.2.2 event member)
  new event _ := by
    have none : state.shared.pending_cohort_drops = ∅ := AList.ext (List.length_eq_zero_iff.mp empty)
    rw [none]
    exact AList.lookup_empty _
  apart := dozen_apart.2.1

theorem dropping_run_booked : ∃ begun state later, start tightLimits 0 = .ok begun ∧
    Reached (step tightLimits) (WithinSpare (spare tightConfig tightLimits)) begun state ∧
    state.journal.dropped.length = 3 ∧ book_entries state = 4 ∧ book_entries state ≤ book_limit tightConfig ∧
    Reached (step tightLimits) Any begun later ∧ book_entries later = 12 := by
  have outcome : (checked tightLimits (within_spare (spare tightConfig tightLimits)) 0 droppingRun).map (fun state =>
      (state.journal.dropped.length, book_entries state)) = some (3, 4) := by
    decide
  obtain ⟨state, ran, values⟩ := Option.map_eq_some_iff.mp outcome
  obtain ⟨begun, started, reached⟩ := checked_reached ran
  obtain ⟨drops, entries⟩ := Prod.mk.inj values
  have reached : Reached (step tightLimits) (WithinSpare (spare tightConfig tightLimits)) begun state :=
    reached.mono fun _ _ passes => within_spare_ok passes
  have outcome : (after tightLimits 0 fullRun).map (fun state => (state.connections.lookup 0, state.clock,
      state.shared.memory.used_bytes, state.shared.pending_cohort_drops.entries.length, book_entries state)) =
      some (some .Reading, some 0, 37, 0, 0) := by
    decide
  obtain ⟨middle, ran, values⟩ := Option.map_eq_some_iff.mp outcome
  obtain ⟨begun', started', earlier⟩ := after_reached ran
  obtain rfl := Except.ok.inj (started.symm.trans started')
  obtain ⟨reading, clock, used, ledger, none⟩ := by simpa only [Prod.mk.injEq] using values
  obtain ⟨bounded, grows⟩ := books_bounded tightConfig tightLimits tight_started 0 begun started
  obtain ⟨later, further, more⟩ := grows middle earlier 0 dozenEvents reading (dozen_unwelcome clock used ledger)
  rw [none, dozen_apart.1] at more
  exact ⟨begun, state, later, started, reached, drops, entries, bounded state reached, further, more⟩

/-! ### Many names -/

/-- All memory is in use when frames for a dozen cohorts come and are refused. -/
theorem dozen_names_exceed : ∃ begun, start tightLimits 0 = .ok begun ∧
    ¬∀ state, Reached (step tightLimits) Any begun state → book_entries state ≤ book_limit tightConfig := by
  have outcome : (after tightLimits 0 (fullRun ++ dozen.flatMap refused)).map book_entries = some 12 := by
    decide
  obtain ⟨state, ran, entries⟩ := Option.map_eq_some_iff.mp outcome
  obtain ⟨begun, started, reached⟩ := after_reached ran
  refine ⟨begun, started, fun all => ?_⟩
  have bounded := all state reached
  rw [entries] at bounded
  exact absurd bounded (by decide)

end VectorSeam.Bookkeeping
