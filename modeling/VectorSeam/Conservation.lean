import VectorSeam.Custody
import VectorSeam.SegmentFormat

/-!
The accounts of a cohort. Each frame received is with a connection, in the channel, in the
writer's hand or counted once: in the header of a part, in the open state of its cohort or
in the ledger. What is counted but not stored has been dropped.
-/

namespace VectorSeam.Conservation
open VectorSeam.LittleEndian VectorSeam.Cohort VectorSeam.Window VectorSeam.Segments VectorSeam.Model VectorSeam.Reader
open VectorSeam.Writer VectorSeam.Tables VectorSeam.Machines VectorSeam.Collector VectorSeam.Transitions VectorSeam.Custody

/-! ### Accounts -/

def of_cohort (cohort : CohortName) (event : FrameEvent) : Bool := event.cohort = cohort

def open_count (cohort : CohortName) (states : States) : Nat := ((states.lookup cohort).getD .default).received_frame_count
def pending (cohort : CohortName) (ledger : Ledger) : Nat := (ledger.lookup cohort).getD 0

/-- What the header of a part of the cohort counts. -/
def part_count (cohort : CohortName) (batch : FlushBatch) : Nat :=
  if batch.header.cohort = cohort then batch.header.received_frame_count else 0

def taken_count (cohort : CohortName) (taken : List FlushBatch) : Nat := (taken.map (part_count cohort)).sum

/-- The frames of a cohort that a header, an open state or the ledger counts. -/
def counted (cohort : CohortName) (states : States) (ledger : Ledger) (taken : List FlushBatch) : Nat :=
  taken_count cohort taken + open_count cohort states + pending cohort ledger

/-- The frames of a cohort in parts, in open buffers, or dropped. -/
def settled (cohort : CohortName) (states : States) (taken : List FlushBatch) (dropped : List FrameEvent) : Nat :=
  (taken.flatMap part_frames).countP (of_cohort cohort) + total (keeps (of_cohort cohort)) states +
    dropped.countP (of_cohort cohort)

theorem countP_of_cohort (cohort other : CohortName) (records : List BufferedRecord) :
    (records.map (event_of other)).countP (of_cohort cohort) = if other = cohort then records.length else 0 := by
  rw [List.countP_map]
  by_cases same : other = cohort
  · rw [if_pos same]
    exact List.countP_eq_length.mpr fun record _ => decide_eq_true same
  · rw [if_neg same]
    exact List.countP_eq_zero.mpr fun record _ chosen => same (of_decide_eq_true chosen)

theorem countP_own (event : FrameEvent) : [event].countP (of_cohort event.cohort) = 1 :=
  List.countP_eq_length.mpr fun _ member => decide_eq_true (by rw [List.mem_singleton.mp member])

theorem countP_other {cohort : CohortName} {event : FrameEvent} (different : cohort ≠ event.cohort) :
    [event].countP (of_cohort cohort) = 0 :=
  List.countP_eq_zero.mpr fun _ member chosen => different (by rw [← of_decide_eq_true chosen, List.mem_singleton.mp member])

theorem total_keeps (cohort : CohortName) (states : States) :
    total (keeps (of_cohort cohort)) states = ((states.lookup cohort).getD .default).records.length := by
  have at_cohort : total (keeps (of_cohort cohort)) states =
      total (fun other state => if other = cohort then state.records.length else 0) states :=
    total_congr fun other state _ => countP_of_cohort cohort other state.records
  rw [at_cohort, total_at fun state : CohortState => state.records.length]
  cases states.lookup cohort with
  | none => rfl
  | some state => rfl

theorem taken_count_append (cohort : CohortName) (taken : List FlushBatch) (batch : FlushBatch) :
    taken_count cohort (taken ++ [batch]) = taken_count cohort taken + part_count cohort batch := by
  simp [taken_count]

theorem saturating_add_eq {left right : Nat} (fits : left + right < 2 ^ 64) : saturating_add left right = left + right :=
  Nat.min_eq_left (Nat.le_sub_one_of_lt fits)

/-! ### Drops move from the ledger into the states -/

variable {cohort other : CohortName} {states states' : States} {ledger ledger' : Ledger} {drops : Nat}

theorem lookup_count_drops : (count_drops states cohort drops).lookup cohort =
    some { (states.lookup cohort).getD .default with
      received_frame_count := saturating_add (open_count cohort states) drops } := AList.lookup_insert states

theorem lookup_count_drops_ne (different : other ≠ cohort) :
    (count_drops states cohort drops).lookup other = states.lookup other := AList.lookup_insert_ne different

theorem open_count_count_drops : open_count cohort (count_drops states cohort drops) =
    saturating_add (open_count cohort states) drops := by
  rw [open_count, lookup_count_drops, Option.getD_some]

theorem open_count_count_drops_ne (different : other ≠ cohort) :
    open_count other (count_drops states cohort drops) = open_count other states := by
  rw [open_count, lookup_count_drops_ne different, open_count]

theorem pending_erase : pending cohort (ledger.erase cohort) = 0 := by
  rw [pending, AList.lookup_erase, Option.getD_none]

theorem pending_erase_ne (different : other ≠ cohort) : pending other (ledger.erase cohort) = pending other ledger := by
  rw [pending, AList.lookup_erase_ne different, pending]

/-- Folding the drops of one cohort leaves the sum of its open count and its ledger entry as it is. -/
theorem open_count_fold (folded : fold_pending_drops cohort ledger states = (ledger', states'))
    (fits : open_count cohort states + pending cohort ledger < 2 ^ 64) (other : CohortName) :
    open_count other states' + pending other ledger' = open_count other states + pending other ledger := by
  obtain ⟨rfl, change⟩ := fold_cases folded
  by_cases same : other = cohort
  · subst same
    rw [pending_erase]
    rcases change with ⟨nothing, rfl⟩ | ⟨-, rfl⟩
    · rw [show pending other ledger = 0 from nothing]
    · rw [open_count_count_drops]
      exact saturating_add_eq fits
  · rw [pending_erase_ne same]
    rcases change with ⟨-, rfl⟩ | ⟨-, rfl⟩
    · rfl
    · rw [open_count_count_drops_ne same]

/-- The states after the drops of some entries of the ledger were counted. -/
def count_entries (entries : List (Sigma fun _ : CohortName => Nat)) (states : States) : States :=
  entries.foldl (fun states entry => count_drops states entry.1 entry.2) states

theorem open_count_count_entries {entries : List (Sigma fun _ : CohortName => Nat)} (keys : entries.NodupKeys)
    (fits : open_count cohort states + (entries.dlookup cohort).getD 0 < 2 ^ 64) :
    open_count cohort (count_entries entries states) = open_count cohort states + (entries.dlookup cohort).getD 0 := by
  induction entries generalizing states with
  | nil => rfl
  | cons entry entries ih =>
    obtain ⟨other, drops⟩ := entry
    obtain ⟨fresh, rest⟩ := List.nodupKeys_cons.mp keys
    have later : count_entries (⟨other, drops⟩ :: entries) states = count_entries entries (count_drops states other drops) := rfl
    by_cases same : cohort = other
    · subst same
      rw [List.dlookup_cons_eq, Option.getD_some] at fits ⊢
      have absent : entries.dlookup cohort = none := List.dlookup_eq_none.mpr fresh
      have start : open_count cohort (count_drops states cohort drops) = open_count cohort states + drops :=
        open_count_count_drops.trans (saturating_add_eq fits)
      rw [later, ih rest (by rw [start, absent]; exact fits), start, absent]
      rfl
    · have elsewhere : List.dlookup cohort (⟨other, drops⟩ :: entries) = entries.dlookup cohort :=
        List.dlookup_cons_ne entries ⟨other, drops⟩ same
      rw [elsewhere] at fits ⊢
      have start : open_count cohort (count_drops states other drops) = open_count cohort states := open_count_count_drops_ne same
      rw [later, ih rest (by rw [start]; exact fits), start]

theorem open_count_fold_all (fits : open_count cohort states + pending cohort ledger < 2 ^ 64) :
    open_count cohort (fold_all_pending_drops ledger states) = open_count cohort states + pending cohort ledger :=
  open_count_count_entries ledger.nodupKeys fits

/-! ### The accounts balance -/

/-- What the headers, the states and the ledger count is settled, and no state or part has more records than it counts. -/
structure Balanced (states : States) (ledger : Ledger) (taken : List FlushBatch) (dropped : List FrameEvent) : Prop where
  balance : ∀ cohort, counted cohort states ledger taken = settled cohort states taken dropped
  covered : ∀ cohort, total (keeps (of_cohort cohort)) states ≤ open_count cohort states
  parts : ∀ batch ∈ taken, batch.header.record_count = batch.records.length ∧
    batch.records.length ≤ batch.header.received_frame_count

section Balanced
variable {taken : List FlushBatch} {dropped : List FrameEvent} {event : FrameEvent}

theorem Balanced.fits (balanced : Balanced states ledger taken dropped) (room : settled cohort states taken dropped < 2 ^ 64) :
    open_count cohort states + pending cohort ledger < 2 ^ 64 := by
  have balance := balanced.balance cohort
  rw [counted] at balance
  omega

theorem Balanced.fold (balanced : Balanced states ledger taken dropped)
    (room : ∀ cohort, settled cohort states taken dropped < 2 ^ 64)
    (folded : fold_pending_drops cohort ledger states = (ledger', states')) : Balanced states' ledger' taken dropped := by
  have kept : ∀ other, total (keeps (of_cohort other)) states' = total (keeps (of_cohort other)) states := fun other =>
    total_fold_pending_drops (keeps_of_records _) folded
  have moved := open_count_fold folded (balanced.fits (room cohort))
  refine ⟨fun other => ?_, fun other => ?_, balanced.parts⟩
  · have balance := balanced.balance other
    simp only [counted, settled, kept] at balance ⊢
    have same := moved other
    omega
  · have covered := balanced.covered other
    rw [kept]
    obtain ⟨rfl, ⟨-, rfl⟩ | ⟨-, rfl⟩⟩ := fold_cases folded
    · exact covered
    · by_cases here : other = cohort
      · subst here
        have fits := balanced.fits (room other)
        rw [open_count_count_drops]
        exact (covered.trans (Nat.le_add_right _ _)).trans (saturating_add_eq fits).ge
      · rwa [open_count_count_drops_ne here]

theorem Balanced.fold_all (balanced : Balanced states ledger taken dropped)
    (room : ∀ cohort, settled cohort states taken dropped < 2 ^ 64) :
    Balanced (fold_all_pending_drops ledger states) ∅ taken dropped := by
  have kept : ∀ cohort, total (keeps (of_cohort cohort)) (fold_all_pending_drops ledger states) =
      total (keeps (of_cohort cohort)) states := fun cohort => total_fold_all_pending_drops (keeps_of_records _)
  have moved : ∀ cohort, open_count cohort (fold_all_pending_drops ledger states) =
      open_count cohort states + pending cohort ledger := fun cohort => open_count_fold_all (balanced.fits (room cohort))
  have empty : ∀ cohort, pending cohort (∅ : Ledger) = 0 := fun _ => rfl
  refine ⟨fun cohort => ?_, fun cohort => ?_, balanced.parts⟩
  · have balance := balanced.balance cohort
    simp only [counted, settled, kept, moved, empty] at balance ⊢
    omega
  · have covered := balanced.covered cohort
    rw [kept, moved]
    omega

theorem Balanced.take (balanced : Balanced states ledger taken dropped) {config : WriterConfig} {window_start : Nat}
    {state : CohortState} (found : states.lookup cohort = some state) :
    Balanced (states.erase cohort) ledger (taken ++ [batch_of config cohort window_start state]) dropped := by
  have emptied : open_count cohort (states.erase cohort) = 0 := by
    rw [open_count, AList.lookup_erase]
    rfl
  have counts : open_count cohort states = state.received_frame_count := by
    rw [open_count, found, Option.getD_some]
  have holds : total (keeps (of_cohort cohort)) states = state.records.length := by
    rw [total_keeps, found, Option.getD_some]
  have others : ∀ other, other ≠ cohort → open_count other (states.erase cohort) = open_count other states := fun other different => by
    rw [open_count, AList.lookup_erase_ne different, open_count]
  have erased : ∀ other, total (keeps (of_cohort other)) (states.erase cohort) +
      (part_frames (batch_of config cohort window_start state)).countP (of_cohort other) =
      total (keeps (of_cohort other)) states := fun other => by
    have whole := total_erase (keeps (of_cohort other)) cohort states
    rwa [share_eq found] at whole
  have part : ∀ other, part_count other (batch_of config cohort window_start state) =
      if cohort = other then state.received_frame_count else 0 := fun _ => rfl
  refine ⟨fun other => ?_, fun other => ?_, fun batch member => ?_⟩
  · have balance := balanced.balance other
    have moved := erased other
    simp only [counted, settled, taken_count_append, part, List.flatMap_append, List.countP_append, List.flatMap_cons,
      List.flatMap_nil, List.append_nil] at balance ⊢
    by_cases same : cohort = other
    · subst same
      rw [if_pos rfl, emptied]
      omega
    · rw [if_neg same, others other (Ne.symm same)]
      omega
  · have covered := balanced.covered other
    have moved := erased other
    by_cases same : other = cohort
    · subst same
      have taken : (part_frames (batch_of config other window_start state)).countP (of_cohort other) = state.records.length := by
        rw [part_frames, countP_of_cohort]
        exact if_pos rfl
      omega
    · rw [others other same]
      omega
  · rcases List.mem_append.mp member with old | new
    · exact balanced.parts batch old
    · obtain rfl := List.mem_singleton.mp new
      have covered := balanced.covered cohort
      rw [counts, holds] at covered
      exact ⟨rfl, covered⟩

theorem Balanced.add (balanced : Balanced states ledger taken dropped) {bytes : Nat}
    (room : settled event.cohort states taken dropped + 1 < 2 ^ 64) :
    Balanced (add_record states event bytes) ledger taken dropped := by
  have fits : open_count event.cohort states + 1 < 2 ^ 64 := by
    have balance := balanced.balance event.cohort
    rw [counted] at balance
    omega
  have counts : open_count event.cohort (add_record states event bytes) = open_count event.cohort states + 1 := by
    rw [← saturating_add_eq fits, open_count, add_record, AList.lookup_insert, Option.getD_some, open_count]
  have others : ∀ other, other ≠ event.cohort → open_count other (add_record states event bytes) = open_count other states :=
    fun other different => by rw [open_count, add_record, AList.lookup_insert_ne different, open_count]
  have kept : ∀ other, total (keeps (of_cohort other)) (add_record states event bytes) =
      total (keeps (of_cohort other)) states + [event].countP (of_cohort other) := fun other =>
    total_add_record (keeps (of_cohort other)) states event bytes _ (fun _ => rfl) fun state _ => by
      simp only [keeps, buffered, List.map_append, List.countP_append, List.map_cons, List.map_nil]
      rfl
  have one := countP_own event
  refine ⟨fun other => ?_, fun other => ?_, balanced.parts⟩
  · have balance := balanced.balance other
    simp only [counted, settled, kept] at balance ⊢
    by_cases same : other = event.cohort
    · subst same
      omega
    · rw [others other same, countP_other same]
      omega
  · have covered := balanced.covered other
    rw [kept]
    by_cases same : other = event.cohort
    · subst same
      omega
    · rw [others other same, countP_other same]
      omega

theorem Balanced.drop (balanced : Balanced states ledger taken dropped)
    (room : settled event.cohort states taken dropped + 1 < 2 ^ 64) :
    Balanced states (record_pending_cohort_drop event.cohort ledger) taken (dropped ++ [event]) := by
  have fits : pending event.cohort ledger + 1 < 2 ^ 64 := by
    have balance := balanced.balance event.cohort
    rw [counted] at balance
    omega
  have counts : pending event.cohort (record_pending_cohort_drop event.cohort ledger) = pending event.cohort ledger + 1 := by
    rw [← saturating_add_eq fits, pending, record_pending_cohort_drop, AList.lookup_insert, Option.getD_some, pending]
  refine ⟨fun other => ?_, balanced.covered, balanced.parts⟩
  have balance := balanced.balance other
  simp only [counted, settled, List.countP_append] at balance ⊢
  by_cases same : other = event.cohort
  · subst same
    have one := countP_own event
    omega
  · have none := countP_other same
    have others : pending other (record_pending_cohort_drop event.cohort ledger) = pending other ledger := by
      rw [pending, record_pending_cohort_drop, AList.lookup_insert_ne same, pending]
    omega

end Balanced

/-! ### Runs -/

section Runs
variable {limits : Limits} {config : WriterConfig} {shared shared' : Shared} {buffers buffers' : Buffers}
variable {journal journal' : Journal} {dropped dropped' : List FrameEvent}

/-- A connection changes the ledger only together with the drops. -/
theorem turned_balanced {gone : Bool} {pass : Pass} {pass' : Option Pass}
    (turned : Turned limits gone shared dropped pass shared' dropped' pass') {taken : List FlushBatch}
    (balanced : Balanced states shared.pending_cohort_drops taken dropped)
    (room : ∀ cohort, (held pass).countP (of_cohort cohort) + settled cohort states taken dropped < 2 ^ 64) :
    Balanced states shared'.pending_cohort_drops taken dropped' := by
  have spare : ∀ event : FrameEvent, held pass = [event] → settled event.cohort states taken dropped + 1 < 2 ^ 64 := by
    intro event same
    have here := room event.cohort
    rw [same, countP_own] at here
    omega
  cases turned with
  | load event => exact balanced
  | refuse event current full => exact balanced
  | again event current moved => exact balanced
  | reserve event fits => exact balanced
  | memory_drop event => exact balanced.drop (spare event rfl)
  | closed event gone => exact balanced
  | full event waiting => exact balanced
  | send event waiting here => exact balanced
  | channel_drop event closed => exact balanced.drop (spare event rfl)
  | release closed turned => exact balanced
  | released closed turned => exact balanced

theorem flushed_balanced {flush flush' : Flush}
    (flushed : Flushed config cohort flush shared buffers journal shared' buffers' journal' flush')
    (balanced : Balanced buffers.states shared.pending_cohort_drops journal.taken journal.dropped)
    (room : ∀ cohort, settled cohort buffers.states journal.taken journal.dropped < 2 ^ 64) :
    Balanced buffers'.states shared'.pending_cohort_drops journal'.taken journal'.dropped := by
  cases flushed with
  | fold stage folded => exact balanced.fold room folded
  | missing stage none => exact balanced
  | nothing state stage found no_records uncounted => exact balanced
  | take state stage found something => exact balanced.take found
  | serialize batch segment flush_failures stage written => exact balanced
  | release batch guards segment stage turned => exact balanced
  | released batch guards segment stage turned => exact balanced
  | give_up batch stage => exact balanced
  | dropped batch segment stage => exact balanced
  | no_key batch segment part error stage failed => exact balanced
  | put batch segment part outcome key flushed_parts flush_failures stage named => exact balanced

theorem wrote_balanced {senders : Bool} (wrote : Wrote config senders shared buffers journal shared' buffers' journal')
    (balanced : Balanced buffers.states shared.pending_cohort_drops journal.taken journal.dropped)
    (room : ∀ cohort, (hand buffers.control).countP (of_cohort cohort) +
      settled cohort buffers.states journal.taken journal.dropped < 2 ^ 64) :
    Balanced buffers'.states shared'.pending_cohort_drops journal'.taken journal'.dropped := by
  have less : ∀ cohort, settled cohort buffers.states journal.taken journal.dropped < 2 ^ 64 := fun cohort =>
    Nat.lt_of_le_of_lt (Nat.le_add_left _ _) (room cohort)
  cases wrote with
  | select deadline control => exact balanced
  | receive event channel deadline control first => exact balanced
  | drained deadline control empty gone => exact balanced
  | woke deadline control => exact balanced
  | stay event control early => exact balanced
  | advance event window_start control aligned later => exact balanced
  | close after cohorts control keys => exact balanced.fold_all less
  | fold event control folded => exact balanced.fold less folded
  | spill event control exceeds => exact balanced
  | within event control fits => exact balanced
  | relieve event cohort control pressure largest => exact balanced
  | relieved event control free => exact balanced
  | resume flush after control through resumed =>
    rw [(resumed_keeps resumed).2]
    exact balanced
  | flush flush after cohort cohorts control first flushed =>
    have kept := flushed_balanced flushed balanced less
    exact kept
  | add event control =>
    refine balanced.add ?_
    have here := room event.cohort
    rw [control, hand, countP_own] at here
    omega

/-- The frames of a cohort that connections have neither passed on nor counted as dropped. -/
def carried (cohort : CohortName) (connections : Table Nat Pass) : Nat := total (carries (of_cohort cohort)) connections

/-- The accounts of a state: the counter of the connections, where the frames are, and what counts them. -/
structure Accounts (state : State) : Prop where
  counter : state.shared.valid_frames_received = state.journal.received.length
  located : ∀ chosen, located state chosen = state.journal.received.countP chosen
  balanced : state.journal.received.length < 2 ^ 64 →
    Balanced state.buffers.states state.shared.pending_cohort_drops state.journal.taken state.journal.dropped

theorem located_settled (state : State) (cohort : CohortName) : Custody.located state (of_cohort cohort) =
    carried cohort state.connections + state.shared.channel.countP (of_cohort cohort) +
      (hand state.buffers.control).countP (of_cohort cohort) +
      settled cohort state.buffers.states state.journal.taken state.journal.dropped := by
  simp only [Custody.located, carried, settled]
  omega

theorem Accounts.room {state : State} (accounts : Accounts state) (few : state.journal.received.length < 2 ^ 64)
    (cohort : CohortName) : carried cohort state.connections + (hand state.buffers.control).countP (of_cohort cohort) +
      settled cohort state.buffers.states state.journal.taken state.journal.dropped < 2 ^ 64 := by
  have all := accounts.located (of_cohort cohort)
  have bound := List.countP_le_length (p := of_cohort cohort) (l := state.journal.received)
  rw [located_settled] at all
  omega

theorem turned_counter {gone : Bool} {pass : Pass} {pass' : Option Pass}
    (turned : Turned limits gone shared dropped pass shared' dropped' pass') :
    shared'.valid_frames_received = shared.valid_frames_received := by
  cases turned <;> rfl

theorem wrote_counter {senders : Bool} (wrote : Wrote config senders shared buffers journal shared' buffers' journal') :
    shared'.valid_frames_received = shared.valid_frames_received := by
  cases wrote with
  | flush flush after cohort cohorts control first flushed => cases flushed <;> rfl
  | _ => rfl

theorem moved_counter {state state' : State} (moved : Moved limits state state')
    (counter : state.shared.valid_frames_received = state.journal.received.length) :
    state'.shared.valid_frames_received = state'.journal.received.length ∧
      state.journal.received.length ≤ state'.journal.received.length := by
  cases moved with
  | tick elapsed clock => exact ⟨counter, le_rfl⟩
  | accept connection open_ fresh => exact ⟨counter, le_rfl⟩
  | disconnect connection reading => exact ⟨counter, le_rfl⟩
  | hang_up joined => exact ⟨counter, le_rfl⟩
  | stamp connection frame event reading stamped => exact ⟨by simp [counter], by simp⟩
  | turn connection pass pass' here turned =>
    exact ⟨(turned_counter turned).trans counter, le_rfl⟩
  | last_turn connection pass here turned => exact ⟨(turned_counter turned).trans counter, le_rfl⟩
  | write wrote =>
    obtain ⟨-, received, -⟩ := wrote_located (fun _ => true) wrote
    dsimp only
    rw [wrote_counter wrote, received]
    exact ⟨counter, le_rfl⟩

theorem Accounts.step {state state' : State} (accounts : Accounts state) (moved : Moved limits state state') :
    Accounts state' := by
  obtain ⟨counter, grows⟩ := moved_counter moved accounts.counter
  refine ⟨counter, fun chosen => ?_, fun few => ?_⟩
  · have balance : Custody.located state' chosen + state.journal.received.countP chosen =
        Custody.located state chosen + state'.journal.received.countP chosen := moved_located moved
    have before := accounts.located chosen
    omega
  have few := Nat.lt_of_le_of_lt grows few
  have balanced := accounts.balanced few
  have room := accounts.room few
  have passing : ∀ {connection pass}, state.connections.lookup connection = some pass → ∀ cohort,
      (held pass).countP (of_cohort cohort) +
        settled cohort state.buffers.states state.journal.taken state.journal.dropped < 2 ^ 64 := by
    intro connection pass here cohort
    have share : carries (of_cohort cohort) connection pass ≤ total (carries (of_cohort cohort)) state.connections := le_total here
    have all := room cohort
    simp only [carried, carries] at share all
    omega
  cases moved with
  | tick elapsed clock => exact balanced
  | accept connection open_ fresh => exact balanced
  | disconnect connection reading => exact balanced
  | hang_up joined => exact balanced
  | stamp connection frame event reading stamped => exact balanced
  | turn connection pass pass' here turned => exact turned_balanced turned balanced (passing here)
  | last_turn connection pass here turned => exact turned_balanced turned balanced (passing here)
  | write wrote => exact wrote_balanced wrote balanced fun cohort => Nat.lt_of_le_of_lt (by omega) (room cohort)

theorem start_ok {now : Nat} {begun : State} (started : start limits now = .ok begun) :
    begun.connections = ∅ ∧ begun.shared.channel = [] ∧ begun.shared.pending_cohort_drops = ∅ ∧
      begun.shared.memory = { used_bytes := 0, underflow_logged := false } ∧ begun.shared.valid_frames_received = 0 ∧
      begun.buffers.states = ∅ ∧ begun.buffers.control = .Select ∧
      begun.journal = { received := [], dropped := [], taken := [], uploads := [] } := by
  obtain ⟨window_start, aligned, started⟩ := Results.bind_ok.mp started
  obtain rfl := Except.ok.inj started
  exact ⟨rfl, rfl, rfl, rfl, rfl, rfl, rfl, rfl⟩

theorem start_accounts {now : Nat} {begun : State} (started : start limits now = .ok begun) : Accounts begun := by
  obtain ⟨connections, channel, ledger, memory, counter, states, control, journal⟩ := start_ok started
  refine ⟨by rw [counter, journal]; rfl, fun chosen => ?_, fun _ => ⟨fun cohort => ?_, fun cohort => ?_, fun batch member => ?_⟩⟩
  · rw [located, connections, channel, states, control, journal]
    rfl
  · rw [states, ledger, journal]
    rfl
  · rw [states]
    exact Nat.zero_le _
  · rw [journal] at member
    cases member

theorem reached_accounts {now : Nat} {begun state : State} (started : start limits now = .ok begun)
    (reached : Reached (step limits) Any begun state) : Accounts state :=
  reached.invariant (start_accounts started) fun _ _ _ _ accounts _ taken => accounts.step (step_cases taken)

/-! ### Where the frames came from -/

/-- A property of all frames, wherever they are. -/
structure Everywhere (fine : FrameEvent → Prop) (state : State) : Prop where
  held : ∀ connection pass, state.connections.lookup connection = some pass → ∀ event ∈ held pass, fine event
  channel : ∀ event ∈ state.shared.channel, fine event
  hand : ∀ event ∈ hand state.buffers.control, fine event
  buffered : ∀ cohort cohort_state, state.buffers.states.lookup cohort = some cohort_state →
    ∀ event ∈ buffered cohort cohort_state, fine event
  taken : ∀ batch ∈ state.journal.taken, ∀ event ∈ part_frames batch, fine event
  dropped : ∀ event ∈ state.journal.dropped, fine event

open scoped Classical in
/-- What holds of the frames received holds of all frames there are. -/
theorem Accounts.everywhere {state : State} {fine : FrameEvent → Prop} (accounts : Accounts state)
    (all : ∀ event ∈ state.journal.received, fine event) : Everywhere fine state := by
  have none := accounts.located fun event => !decide (fine event)
  have received : state.journal.received.countP (fun event => !decide (fine event)) = 0 :=
    List.countP_eq_zero.mpr fun event member => by simp [all event member]
  have apart : ∀ {events : List FrameEvent}, events.countP (fun event => !decide (fine event)) = 0 →
      ∀ event ∈ events, fine event := fun nothing event member => by
    simpa using List.countP_eq_zero.mp nothing event member
  rw [received, Custody.located] at none
  refine ⟨fun connection pass here => apart ?_, apart (by omega), apart (by omega), fun cohort cohort_state found => apart ?_,
    fun batch member event inside => ?_, apart (by omega)⟩
  · have share : carries (fun event => !decide (fine event)) connection pass ≤ total (carries _) state.connections := le_total here
    simp only [carries] at share none
    omega
  · have share : keeps (fun event => !decide (fine event)) cohort cohort_state ≤ total (keeps _) state.buffers.states := le_total found
    simp only [keeps] at share none
    omega
  · have nothing : (state.journal.taken.flatMap part_frames).countP (fun event => !decide (fine event)) = 0 := by omega
    exact apart nothing event (List.mem_flatMap.mpr ⟨batch, member, inside⟩)

/-- What `stamp` has checked about a frame. -/
structure Stamped (limits : Limits) (event : FrameEvent) : Prop where
  short : event.frame.length ≤ limits.reader.max_frame_size
  memory : event.memory = event.frame.length + 8
  parsed : ∃ header, Frame.parse_frame_header event.frame = .ok header ∧ event.cohort.name = header.name
  time : event.receive_time < 2 ^ 64

theorem stamp_some {clock : Option Nat} {frame : Bytes} {event : FrameEvent}
    (stamped : stamp limits clock frame = some event) : Stamped limits event ∧ clock = some event.receive_time := by
  unfold stamp at stamped
  split at stamped
  · cases stamped
  · rename_i short
    cases parsed : Frame.parse_frame_header frame with
    | error error => simp [parsed] at stamped
    | ok header =>
      cases named : CohortName.new header.name with
      | error error => simp [parsed, named] at stamped
      | ok cohort =>
        obtain ⟨receive_time, timed, rfl⟩ := by simpa [parsed, named, Option.map_eq_some_iff] using stamped
        obtain ⟨read, fits⟩ := Option.filter_eq_some_iff.mp timed
        exact ⟨⟨Nat.not_lt.mp short, rfl, ⟨header, parsed, CohortName.name_of_new named⟩, of_decide_eq_true fits⟩, read⟩

theorem reached_stamped {now : Nat} {begun state : State} (started : start limits now = .ok begun)
    (reached : Reached (step limits) Any begun state) : ∀ event ∈ state.journal.received, Stamped limits event := by
  have initial : ∀ event ∈ begun.journal.received, Stamped limits event := by
    obtain ⟨-, -, -, -, -, -, -, journal⟩ := start_ok started
    rw [journal]
    nofun
  have kept : ∀ state action state', Reached (step limits) Any begun state → (∀ event ∈ state.journal.received, Stamped limits event) →
      Any state action → step limits state action = some state' → ∀ event ∈ state'.journal.received, Stamped limits event := by
    intro state action state' _ all _ taken
    have moved := step_cases taken
    cases moved with
    | stamp connection frame event reading stamped =>
      intro other member
      rcases List.mem_append.mp member with old | new
      · exact all other old
      · obtain rfl := List.mem_singleton.mp new
        exact (stamp_some stamped).1
    | write wrote =>
      obtain ⟨-, received, -⟩ := wrote_located (fun _ => true) wrote
      dsimp only
      rwa [received]
    | _ => exact all
  exact reached.invariant initial kept

theorem reached_everywhere {now : Nat} {begun state : State} (started : start limits now = .ok begun)
    (reached : Reached (step limits) Any begun state) : Everywhere (Stamped limits) state :=
  (reached_accounts started reached).everywhere (reached_stamped started reached)

theorem reached_traced {now : Nat} {begun state : State} (started : start limits now = .ok begun)
    (reached : Reached (step limits) Any begun state) : Traced limits.writer state.buffers.control state.journal := by
  have initial : Traced limits.writer begun.buffers.control begun.journal := by
    obtain ⟨-, -, -, -, -, -, control, journal⟩ := start_ok started
    rw [control, journal]
    exact ⟨nofun, trivial, nofun⟩
  have kept : ∀ before action later, Reached (step limits) Any begun before →
      Traced limits.writer before.buffers.control before.journal → Any before action →
      step limits before action = some later → Traced limits.writer later.buffers.control later.journal :=
    fun before action later _ traced _ taken => traced.step (step_cases taken)
  exact reached.invariant initial kept

/-! ### Shutdown -/

/-- The state has records, or counts frames. -/
def Something (state : CohortState) : Prop := ¬(state.records = [] ∧ state.received_frame_count = 0)

/-- Every sender is gone, and the channel is drained. -/
structure Drained (state : State) : Prop where
  hung_up : state.accepting = false
  joined : state.connections.entries = []
  drained : state.shared.channel = []

/-- How far the last flush has come. -/
structure Ending (state : State) : Prop where
  closing : state.buffers.control = .Closing .Return → Drained state
  flushing : ∀ flush, state.buffers.control = .Flushing flush .Return → Drained state ∧
    state.shared.pending_cohort_drops = ∅ ∧ ∀ cohort, Filled Something state.buffers.states cohort → cohort ∈ left flush
  returned : state.buffers.control = .Returned → Drained state ∧ state.shared.pending_cohort_drops = ∅ ∧
    ∀ cohort, ¬Filled Something state.buffers.states cohort

theorem not_joined {connections : Table Nat Pass} {connection : Nat} {pass : Pass}
    (here : connections.lookup connection = some pass) : connections.entries ≠ [] := by
  intro joined
  have member := AList.mem_lookup_iff.mp here
  rw [joined] at member
  cases member

theorem fold_empty (cohort : CohortName) (states : States) :
    fold_pending_drops cohort (∅ : Ledger) states = ((∅ : Ledger).erase cohort, states) := rfl

theorem ending_of_busy {state : State} (closing : state.buffers.control ≠ .Closing .Return)
    (flushing : ∀ flush, state.buffers.control ≠ .Flushing flush .Return) (running : state.buffers.control ≠ .Returned) :
    Ending state :=
  ⟨fun same => absurd same closing, fun flush same => absurd same (flushing flush), fun same => absurd same running⟩

/-- Nothing but the writer moves once every sender is gone. -/
theorem Ending.quiet {state state' : State} (ending : Ending state)
    (control : state'.buffers.control = state.buffers.control) (states : state'.buffers.states = state.buffers.states)
    (still : Drained state → Drained state' ∧ state'.shared.pending_cohort_drops = state.shared.pending_cohort_drops) :
    Ending state' := by
  refine ⟨fun closing => ?_, fun flush flushing => ?_, fun returned => ?_⟩
  · rw [control] at closing
    exact (still (ending.closing closing)).1
  · rw [control] at flushing
    obtain ⟨drained, empty, remaining⟩ := ending.flushing flush flushing
    obtain ⟨drained, same⟩ := still drained
    exact ⟨drained, same.trans empty, states ▸ remaining⟩
  · rw [control] at returned
    obtain ⟨drained, empty, nothing⟩ := ending.returned returned
    obtain ⟨drained, same⟩ := still drained
    exact ⟨drained, same.trans empty, states ▸ nothing⟩

theorem flushed_channel {flush flush' : Flush}
    (flushed : Flushed config cohort flush shared buffers journal shared' buffers' journal' flush') :
    shared'.channel = shared.channel ∧
      (shared.pending_cohort_drops = ∅ → shared'.pending_cohort_drops = ∅) := by
  cases flushed with
  | fold stage folded =>
    refine ⟨rfl, fun empty => ?_⟩
    rw [empty, fold_empty] at folded
    exact (Prod.mk.inj folded).1.symm
  | _ => exact ⟨rfl, id⟩

theorem Ending.step {state state' : State} (ending : Ending state) (moved : Moved limits state state') : Ending state' := by
  cases moved with
  | tick elapsed clock => exact ending.quiet rfl rfl fun drained => ⟨⟨drained.1, drained.2, drained.3⟩, rfl⟩
  | accept connection open_ fresh =>
    refine ending.quiet rfl rfl fun drained => ?_
    rw [drained.hung_up] at open_
    cases open_
  | disconnect connection reading => exact ending.quiet rfl rfl fun drained => absurd drained.joined (not_joined reading)
  | hang_up joined => exact ending.quiet rfl rfl fun drained => ⟨⟨rfl, joined, drained.drained⟩, rfl⟩
  | stamp connection frame event reading stamped =>
    exact ending.quiet rfl rfl fun drained => absurd drained.joined (not_joined reading)
  | turn connection pass pass' here turned =>
    exact ending.quiet rfl rfl fun drained => absurd drained.joined (not_joined here)
  | last_turn connection pass here turned =>
    exact ending.quiet rfl rfl fun drained => absurd drained.joined (not_joined here)
  | write wrote =>
    cases wrote with
    | drained deadline control empty gone =>
      obtain ⟨hung_up, joined⟩ := Bool.or_eq_false_iff.mp gone
      have joined : state.connections.entries = [] := List.isEmpty_iff.mp (by simpa using joined)
      exact ⟨fun _ => ⟨hung_up, joined, empty⟩, nofun, nofun⟩
    | close after cohorts control keys =>
      refine ⟨nofun, fun flush flushing => ?_, nofun⟩
      obtain ⟨rfl, rfl⟩ := Control.Flushing.inj flushing
      obtain ⟨hung_up, joined, drained⟩ := ending.closing control
      refine ⟨⟨hung_up, joined, drained⟩, rfl, fun cohort filled => ?_⟩
      obtain ⟨cohort_state, found, -⟩ := filled
      exact keys.mem_iff.mpr (AList.lookup_isSome.mp (by rw [found]; rfl))
    | resume flush after control through resumed =>
      cases resumed with
      | returned =>
        obtain ⟨⟨hung_up, joined, drained⟩, empty, remaining⟩ := ending.flushing flush control
        refine ⟨nofun, nofun, fun _ => ⟨⟨hung_up, joined, drained⟩, empty, fun cohort filled => ?_⟩⟩
        have member := remaining cohort filled
        unfold left at member
        split at member <;> simp [through] at member
      | _ => exact ending_of_busy nofun nofun nofun
    | flush flush after cohort cohorts control first flushed =>
      refine ⟨nofun, fun flush' flushing => ?_, nofun⟩
      obtain ⟨rfl, rfl⟩ := Control.Flushing.inj flushing
      obtain ⟨⟨hung_up, joined, drained⟩, empty, remaining⟩ := ending.flushing flush control
      obtain ⟨channel, ledger⟩ := flushed_channel flushed
      have fewer : ∀ other, Filled Something _ other → other ∈ left _ := fun other =>
        flushed_left first flushed (fun _ => id) (fun ledger states folded filled => by
          rw [empty, fold_empty] at folded
          rwa [(Prod.mk.inj folded).2]) (remaining other)
      exact ⟨⟨hung_up, joined, channel.trans drained⟩, ledger empty, fewer⟩
    | woke deadline control => exact ending_of_busy nofun nofun nofun
    | advance event window_start control aligned later => exact ending_of_busy nofun nofun nofun
    | spill event control exceeds => exact ending_of_busy nofun nofun nofun
    | relieve event cohort control pressure largest => exact ending_of_busy nofun nofun nofun
    | _ => exact ending_of_busy nofun nofun nofun

theorem reached_ending {now : Nat} {begun state : State} (started : start limits now = .ok begun)
    (reached : Reached (step limits) Any begun state) : Ending state := by
  refine reached.invariant ?_ fun _ _ _ _ ending _ taken => ending.step (step_cases taken)
  obtain ⟨-, -, -, -, -, -, control, -⟩ := start_ok started
  exact ending_of_busy (by rw [control]; nofun) (by rw [control]; nofun) (by rw [control]; nofun)

theorem nothing_open (nothing : ¬Filled Something states cohort) : open_count cohort states = 0 := by
  rw [open_count]
  cases found : states.lookup cohort with
  | none => rfl
  | some state =>
    by_contra counts
    exact nothing ⟨state, found, fun empty => counts empty.2⟩

end Runs

/-! ### Small collectors -/

/-- The least limits of a collector that takes frames of 29 bytes. -/
def tightConfig : Config where
  window_seconds := 60
  per_cohort_memory_bytes := 37
  global_memory_bytes := 37 + MAX_SEGMENT_OVERHEAD_BYTES + 37
  max_frame_size := 29
  channel_capacity := 1
  max_connections := 1
  idle_timeout_seconds := 1
  put_timeout_seconds := 1
  window_seconds_lt := by decide
  per_cohort_memory_bytes_lt := by decide
  global_memory_bytes_lt := by decide
  max_frame_size_lt := by decide

def tightLimits : Limits where
  reader := { max_frame_size := 29, live_memory_bytes := 37 }
  writer := { window_seconds := 60, per_cohort_memory_bytes := 37, live_memory_bytes := 37 }
  channel_capacity := 1
  max_connections := 1

theorem tight_started : run_with_store tightConfig = .ok tightLimits := by
  simp [run_with_store, validate_config, live_memory_bytes, checked_add, tightConfig, tightLimits, MAX_SEGMENT_OVERHEAD_BYTES,
    FIXED_PREFIX_LEN, BASE_HEADER_LEN, MAX_COHORT_NAME_BYTES, Frame.FIXED_FRAME_HEADER_LEN, U64_MAX, Bind.bind, Except.bind, Pure.pure, Except.pure]

/-- Limits with room for two frames of 29 bytes. -/
def pairConfig : Config :=
  { tightConfig with
    global_memory_bytes := 37 + MAX_SEGMENT_OVERHEAD_BYTES + 74
    global_memory_bytes_lt := by decide }

def pairLimits : Limits :=
  { tightLimits with
    reader := { max_frame_size := 29, live_memory_bytes := 74 }
    writer := { window_seconds := 60, per_cohort_memory_bytes := 37, live_memory_bytes := 74 } }

theorem pair_started : run_with_store pairConfig = .ok pairLimits := by
  simp [run_with_store, validate_config, live_memory_bytes, checked_add, pairConfig, tightConfig, pairLimits, tightLimits,
    MAX_SEGMENT_OVERHEAD_BYTES, FIXED_PREFIX_LEN, BASE_HEADER_LEN, MAX_COHORT_NAME_BYTES, Frame.FIXED_FRAME_HEADER_LEN, U64_MAX,
    Bind.bind, Except.bind, Pure.pure, Except.pure]

/-- A frame with no vector, for the cohort of the given name. -/
def bareFrame (name : String) : Bytes := FrameLayout.frame_bytes 1 1 (utf8 name) []

def a : CohortName := ⟨"a", SegmentFormat.a_validates⟩
def b : CohortName := ⟨"b", by decide⟩

theorem toOption_started {limits : Limits} {now : Nat} {begun : State} (started : (start limits now).toOption = some begun) :
    start limits now = .ok begun := by
  cases same : start limits now with
  | error error =>
    rw [same] at started
    cases started
  | ok other =>
    rw [same] at started
    rw [Option.some.inj started]

/-- The state of a run from a start, if each of its actions can be taken. -/
def after (limits : Limits) (now : Nat) (actions : List Action) : Option State :=
  (start limits now).toOption.bind fun begun => run (step limits) begun actions

theorem after_reached {limits : Limits} {now : Nat} {actions : List Action} {state : State}
    (ran : after limits now actions = some state) :
    ∃ begun, start limits now = .ok begun ∧ Reached (step limits) Any begun state := by
  obtain ⟨begun, started, ran⟩ := Option.bind_eq_some_iff.mp ran
  exact ⟨begun, toOption_started started, run_reaches ran⟩

/-- The same for actions that also pass a check. -/
def checked (limits : Limits) (check : State → Action → Bool) (now : Nat) (actions : List Action) : Option State :=
  (start limits now).toOption.bind fun begun => run (guarded (step limits) check) begun actions

theorem checked_reached {limits : Limits} {check : State → Action → Bool} {now : Nat} {actions : List Action} {state : State}
    (ran : checked limits check now actions = some state) : ∃ begun, start limits now = .ok begun ∧
      Reached (step limits) (fun state action => check state action = true) begun state := by
  obtain ⟨begun, started, ran⟩ := Option.bind_eq_some_iff.mp ran
  exact ⟨begun, toOption_started started, guarded_reaches ran⟩

/-! ### What is conserved -/

/-- In every state of every run, every frame received is in one place, those of a cohort are with connections, in the
    channel, in the writer's hand or counted once, and after a shutdown all of them are in parts or dropped. -/
theorem frames_conserved (limits : Limits) (now : Nat) (begun : State) (started : start limits now = .ok begun) (state : State)
    (reached : Reached (step limits) Any begun state) (few : state.journal.received.length < 2 ^ 64) :
    state.shared.valid_frames_received = state.journal.received.length ∧
      (∀ cohort, state.journal.received.countP (of_cohort cohort) =
        carried cohort state.connections + state.shared.channel.countP (of_cohort cohort) +
          (hand state.buffers.control).countP (of_cohort cohort) + taken_count cohort state.journal.taken +
          open_count cohort state.buffers.states + pending cohort state.shared.pending_cohort_drops) ∧
      (∀ chosen, located state chosen = state.journal.received.countP chosen) ∧
      (∀ cohort, counted cohort state.buffers.states state.shared.pending_cohort_drops state.journal.taken =
        settled cohort state.buffers.states state.journal.taken state.journal.dropped) ∧
      (∀ batch ∈ state.journal.taken, batch.header.record_count = batch.records.length ∧
        batch.records.length ≤ batch.header.received_frame_count) ∧
      (state.buffers.control = .Returned → state.connections.entries = [] ∧ state.shared.channel = [] ∧
        ∀ cohort, open_count cohort state.buffers.states = 0 ∧ pending cohort state.shared.pending_cohort_drops = 0) := by
  obtain ⟨counter, all, balanced⟩ := reached_accounts started reached
  have balanced := balanced few
  refine ⟨counter, fun cohort => ?_, all, balanced.balance, balanced.parts, fun returned => ?_⟩
  · have here := all (of_cohort cohort)
    have balance := balanced.balance cohort
    rw [located_settled] at here
    rw [counted] at balance
    omega
  · obtain ⟨drained, empty, nothing⟩ := (reached_ending started reached).returned returned
    refine ⟨drained.joined, drained.drained, fun cohort => ⟨nothing_open (nothing cohort), ?_⟩⟩
    rw [empty]
    rfl

theorem zero_fits : 0 < 2 ^ 128 := Nat.two_pow_pos 128

/-- One frame goes into a part, and the collector shuts down. -/
def wholeRun : List Action :=
  [.Accept 0, .Stamp 0 (bareFrame "a"), .Turn 0, .Turn 0, .Turn 0, .Disconnect 0, .HangUp, .Write .Proceed, .Write .Receive,
    .Write .Proceed, .Write .Proceed, .Write .Proceed, .Write .Proceed, .Write .Proceed, .Write .Proceed, .Write .Receive,
    .Write (.Keys [a]), .Write .Proceed, .Write .Proceed, .Write .Proceed, .Write .Proceed, .Write .Proceed, .Write .Proceed,
    .Write (.Put ⟨0, zero_fits⟩ .Ok), .Write .Proceed]

theorem whole_run_conserved : ∃ begun state, start tightLimits 0 = .ok begun ∧
    Reached (step tightLimits) Any begun state ∧ state.buffers.control = .Returned ∧ state.journal.taken.length = 1 ∧
    state.journal.received.countP (of_cohort a) = taken_count a state.journal.taken := by
  have outcome : (after tightLimits 0 wholeRun).map (fun state =>
      (state.journal.received.length, state.buffers.control, state.journal.taken.length)) = some (1, .Returned, 1) := by
    decide
  obtain ⟨state, ran, values⟩ := Option.map_eq_some_iff.mp outcome
  obtain ⟨begun, started, reached⟩ := after_reached ran
  obtain ⟨received, returned, taken⟩ := by simpa only [Prod.mk.injEq] using values
  obtain ⟨-, accounts, -, -, -, ended⟩ := frames_conserved tightLimits 0 begun started state reached (by rw [received]; decide)
  obtain ⟨joined, drained, nothing⟩ := ended returned
  refine ⟨begun, state, started, reached, returned, taken, ?_⟩
  have here := accounts a
  have none : carried a state.connections = 0 := by rw [carried, total, joined]; rfl
  rw [none, drained, returned, (nothing a).1, (nothing a).2] at here
  simpa [hand] using here

/-! ### A frame on its way -/

/-- Between its receive time and the channel a frame is counted with its connection only. -/
theorem stamped_frame_uncounted : ∃ begun, start tightLimits 0 = .ok begun ∧
    ¬∀ state, Reached (step tightLimits) Any begun state → state.journal.received.length < 2 ^ 64 → ∀ cohort,
      state.journal.received.countP (of_cohort cohort) =
        state.shared.channel.countP (of_cohort cohort) + (hand state.buffers.control).countP (of_cohort cohort) +
          taken_count cohort state.journal.taken + open_count cohort state.buffers.states +
          pending cohort state.shared.pending_cohort_drops := by
  have outcome : (after tightLimits 0 [.Accept 0, .Stamp 0 (bareFrame "a")]).map (fun state =>
      (state.journal.received.length, state.journal.received.countP (of_cohort a),
        state.shared.channel.countP (of_cohort a) +
          (hand state.buffers.control).countP (of_cohort a) +
          taken_count a state.journal.taken +
          open_count a state.buffers.states +
          pending a state.shared.pending_cohort_drops)) = some (1, 1, 0) := by
    decide
  obtain ⟨state, ran, values⟩ := Option.map_eq_some_iff.mp outcome
  obtain ⟨begun, started, reached⟩ := after_reached ran
  obtain ⟨few, one, none⟩ := by simpa only [Prod.mk.injEq] using values
  refine ⟨begun, started, fun all => ?_⟩
  have same := all state reached (by rw [few]; decide) a
  rw [one, none] at same
  cases same

end VectorSeam.Conservation
