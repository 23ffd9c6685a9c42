import VectorSeam.SdkRecommendations
import VectorSeam.Machines

/-!
Calls of `ef_search` from several threads. Every access to the cache is a step of its
own, so between the length check of one call and its store others may pass the same
check. The cap holds in every run in which the check is passed with nothing else on its
way into the cache, or with room for all that is; where it is passed otherwise, the run
can go on beyond the cap.
-/

namespace VectorSeam.SdkCapacity
open VectorSeam.Tables VectorSeam.Machines VectorSeam.SdkRecommendations

/-! ### Threads -/

/-- Where a thread stands in its call; calls are numbered. -/
inductive Thread where
  | Got (call : Nat) (cohort : PyStr) (cached : Option Entry)
  | Checking (call : Nat) (cohort : PyStr) (now : Float)
  | Fetching (call : Nat) (cohort : PyStr) (fallback : Int) (now : Float)
  | Storing (call : Nat) (cohort : PyStr) (entry : Entry)

def Thread.call : Thread → Nat
  | .Got call _ _ => call
  | .Checking call _ _ => call
  | .Fetching call _ _ _ => call
  | .Storing call _ _ => call

/-- The cohort that a thread may yet store; one without a URL ends with an exception. -/
def Thread.in_flight : Thread → Option PyStr
  | .Fetching _ cohort _ _ => if encodable cohort then some cohort else none
  | .Storing _ cohort _ => some cohort
  | _ => none

/-- The cache and the threads in a call, with the calls that were refused and those that stored. -/
structure State where
  cache : Cache
  threads : Table Nat Thread
  calls : Nat
  refused : List Nat
  stored : List (Nat × PyStr)

def start : State := { cache := ∅, threads := ∅, calls := 0, refused := [], stored := [] }

inductive Action where
  | Get (thread : Nat) (cohort : PyStr)
  | Clock (thread : Nat) (now : Float)
  | Check (thread : Nat)
  | Answer (thread : Nat) (exchange : Exchange)
  | Store (thread : Nat)

def State.goes (state : State) (thread : Nat) (phase : Thread) : State :=
  { state with threads := state.threads.insert thread phase }
def State.returns (state : State) (thread : Nat) : State := { state with threads := state.threads.erase thread }

section Steps
variable (client : RecommendationClient)

def clock (state : State) (thread call : Nat) (cohort : PyStr) (cached : Option Entry) (now : Float) : State :=
  match look cached now with
  | .Fresh _ => state.returns thread
  | .Stale ef_search => state.goes thread (.Fetching call cohort ef_search now)
  | .Missing => state.goes thread (.Checking call cohort now)

def check (state : State) (thread call : Nat) (cohort : PyStr) (now : Float) : State :=
  if full client state.cache then { state.returns thread with refused := call :: state.refused }
  else state.goes thread (.Fetching call cohort client.default_ef_search now)

def answer (state : State) (thread call : Nat) (cohort : PyStr) (fallback : Int) (now : Float) (exchange : Exchange) : State :=
  match fetch cohort exchange with
  | .error _ => state.returns thread
  | .ok fetched => state.goes thread (.Storing call cohort (renewed client fallback now fetched))

def store (state : State) (thread call : Nat) (cohort : PyStr) (entry : Entry) : State :=
  { state.returns thread with cache := state.cache.insert cohort entry, stored := (call, cohort) :: state.stored }

/-- One step of one thread; a thread outside of a call may start one. -/
def step (state : State) : Action → Option State
  | .Get thread cohort =>
    match state.threads.lookup thread with
    | none => some { state.goes thread (.Got state.calls cohort (state.cache.lookup cohort)) with calls := state.calls + 1 }
    | some _ => none
  | .Clock thread now =>
    match state.threads.lookup thread with
    | some (.Got call cohort cached) => some (clock state thread call cohort cached now)
    | _ => none
  | .Check thread =>
    match state.threads.lookup thread with
    | some (.Checking call cohort now) => some (check client state thread call cohort now)
    | _ => none
  | .Answer thread exchange =>
    match state.threads.lookup thread with
    | some (.Fetching call cohort fallback now) => some (answer client state thread call cohort fallback now exchange)
    | _ => none
  | .Store thread =>
    match state.threads.lookup thread with
    | some (.Storing call cohort entry) => some (store state thread call cohort entry)
    | _ => none

end Steps

/-! ### Cohorts on their way into the cache -/

/-- The cohorts that are cached, and those that calls in flight may add. -/
def reserved (state : State) : Finset PyStr :=
  (state.cache.keys ++ state.threads.entries.filterMap fun entry => entry.2.in_flight).toFinset

/-- The cohorts on their way into the cache that are not there yet. -/
def newcomers (state : State) : Finset PyStr := reserved state \ state.cache.keys.toFinset

/-- Where a check is passed for a cohort that may be stored, no other one is on its way, or the cache has room for all. -/
def Spaced (client : RecommendationClient) (state : State) : Action → Prop
  | .Check thread => ∀ call cohort now, state.threads.lookup thread = some (.Checking call cohort now) →
      full client state.cache = false → encodable cohort = true →
      newcomers state ⊆ {cohort} ∨ ((insert cohort (reserved state)).card : Int) ≤ client.max_cohorts
  | _ => True

theorem mem_reserved {state : State} {cohort : PyStr} : cohort ∈ reserved state ↔
    cohort ∈ state.cache ∨ ∃ thread phase, state.threads.lookup thread = some phase ∧ phase.in_flight = some cohort := by
  rw [reserved, List.mem_toFinset, List.mem_append, List.mem_filterMap, AList.mem_keys]
  refine or_congr_right ⟨?_, ?_⟩
  · rintro ⟨⟨thread, phase⟩, member, flies⟩
    exact ⟨thread, phase, AList.mem_lookup_iff.mpr member, flies⟩
  · rintro ⟨thread, phase, found, flies⟩
    exact ⟨⟨thread, phase⟩, AList.mem_lookup_iff.mp found, flies⟩

theorem reserved_subset {state : State} : reserved state ⊆ newcomers state ∪ state.cache.keys.toFinset := by
  rw [newcomers, Finset.sdiff_union_self_eq_union]
  exact Finset.subset_union_left

/-- The cached cohorts are counted by their keys. -/
theorem card_keys (cache : Cache) : (cache.keys.toFinset.card : Int) = len cache := by
  have distinct : cache.keys.Nodup := cache.nodupKeys
  rw [List.toFinset_card_of_nodup distinct, AList.keys, List.keys, List.length_map]
  rfl

theorem fetch_encodable {cohort : PyStr} {exchange : Exchange} {fetched : Option Int}
    (found : fetch cohort exchange = .ok fetched) : encodable cohort = true := by
  rw [← quote_isSome]
  unfold fetch at found
  split at found
  · cases found
  · simp_all

/-! ### Steps -/

/-- What a step can do. -/
inductive Moved (client : RecommendationClient) (state : State) : Action → State → Prop where
  | Get (thread : Nat) (cohort : PyStr) (idle : state.threads.lookup thread = none) : Moved client state (.Get thread cohort)
      { state.goes thread (.Got state.calls cohort (state.cache.lookup cohort)) with calls := state.calls + 1 }
  | Clock (thread call : Nat) (cohort : PyStr) (cached : Option Entry) (now : Float)
      (stands : state.threads.lookup thread = some (.Got call cohort cached)) :
      Moved client state (.Clock thread now) (clock state thread call cohort cached now)
  | Check (thread call : Nat) (cohort : PyStr) (now : Float)
      (stands : state.threads.lookup thread = some (.Checking call cohort now)) :
      Moved client state (.Check thread) (check client state thread call cohort now)
  | Answer (thread call : Nat) (cohort : PyStr) (fallback : Int) (now : Float) (exchange : Exchange)
      (stands : state.threads.lookup thread = some (.Fetching call cohort fallback now)) :
      Moved client state (.Answer thread exchange) (answer client state thread call cohort fallback now exchange)
  | Store (thread call : Nat) (cohort : PyStr) (entry : Entry)
      (stands : state.threads.lookup thread = some (.Storing call cohort entry)) :
      Moved client state (.Store thread) (store state thread call cohort entry)

section Run
variable {client : RecommendationClient} {state state' : State} {action : Action}

theorem step_cases (taken : step client state action = some state') : Moved client state action state' := by
  cases action with
  | Get thread cohort =>
    simp only [step] at taken
    split at taken
    · obtain rfl := Option.some.inj taken
      exact .Get thread cohort ‹_›
    · cases taken
  | Clock thread now =>
    simp only [step] at taken
    split at taken
    · obtain rfl := Option.some.inj taken
      exact .Clock thread _ _ _ now ‹_›
    · cases taken
  | Check thread =>
    simp only [step] at taken
    split at taken
    · obtain rfl := Option.some.inj taken
      exact .Check thread _ _ _ ‹_›
    · cases taken
  | Answer thread exchange =>
    simp only [step] at taken
    split at taken
    · obtain rfl := Option.some.inj taken
      exact .Answer thread _ _ _ _ exchange ‹_›
    · cases taken
  | Store thread =>
    simp only [step] at taken
    split at taken
    · obtain rfl := Option.some.inj taken
      exact .Store thread _ _ _ ‹_›
    · cases taken

/-! ### The cap -/

/-- What a thread found in the cache is still there. -/
def Finds (cache : Cache) (_ : Nat) (phase : Thread) : Prop :=
  ∀ call cohort entry, phase = .Got call cohort (some entry) → cohort ∈ cache

structure Bounded (client : RecommendationClient) (state : State) : Prop where
  finds : Every (Finds state.cache) state.threads
  room : ((reserved state).card : Int) ≤ client.max_cohorts

theorem reserved_goes {thread : Nat} {phase : Thread} {cohort : PyStr}
    (member : cohort ∈ reserved (state.goes thread phase)) : cohort ∈ reserved state ∨ phase.in_flight = some cohort := by
  rcases mem_reserved.mp member with cached | ⟨other, phase', found, flies⟩
  · exact .inl (mem_reserved.mpr (.inl cached))
  · by_cases same : other = thread
    · subst same
      rw [State.goes, AList.lookup_insert] at found
      obtain rfl := Option.some.inj found
      exact .inr flies
    · rw [State.goes, AList.lookup_insert_ne same] at found
      exact .inl (mem_reserved.mpr (.inr ⟨other, phase', found, flies⟩))

theorem reserved_returns (state : State) (thread : Nat) : reserved (state.returns thread) ⊆ reserved state := by
  intro cohort member
  rcases mem_reserved.mp member with cached | ⟨other, phase, found, flies⟩
  · exact mem_reserved.mpr (.inl cached)
  · by_cases same : other = thread
    · subst same
      rw [State.returns, AList.lookup_erase] at found
      cases found
    · rw [State.returns, AList.lookup_erase_ne same] at found
      exact mem_reserved.mpr (.inr ⟨other, phase, found, flies⟩)

/-- A thread that goes on with a reserved cohort, or with none, reserves no more. -/
theorem reserved_goes_subset {thread : Nat} {phase : Thread}
    (known : ∀ cohort, phase.in_flight = some cohort → cohort ∈ reserved state) :
    reserved (state.goes thread phase) ⊆ reserved state :=
  fun cohort member => (reserved_goes member).elim id (known cohort)

theorem Bounded.goes (bounded : Bounded client state) {thread : Nat} {phase : Thread}
    (finds : Finds state.cache thread phase) (known : ∀ cohort, phase.in_flight = some cohort → cohort ∈ reserved state) :
    Bounded client (state.goes thread phase) :=
  ⟨bounded.finds.insert finds,
    (Int.ofNat_le.mpr (Finset.card_le_card (reserved_goes_subset known))).trans bounded.room⟩

theorem Bounded.returns (bounded : Bounded client state) (thread : Nat) : Bounded client (state.returns thread) :=
  ⟨bounded.finds.erase, (Int.ofNat_le.mpr (Finset.card_le_card (reserved_returns state thread))).trans bounded.room⟩

theorem flying_reserved {thread : Nat} {phase : Thread} {cohort : PyStr} (found : state.threads.lookup thread = some phase)
    (flies : phase.in_flight = some cohort) : cohort ∈ reserved state := mem_reserved.mpr (.inr ⟨thread, phase, found, flies⟩)

/-- A cohort on its way is stored in the place reserved for it. -/
theorem Bounded.store (bounded : Bounded client state) {thread call : Nat} {cohort : PyStr} {entry : Entry}
    (stands : state.threads.lookup thread = some (.Storing call cohort entry)) :
    Bounded client (store state thread call cohort entry) := by
  have subset : reserved (SdkCapacity.store state thread call cohort entry) ⊆ reserved state := by
    intro other member
    rcases mem_reserved.mp member with cached | ⟨elsewhere, phase, found, flies⟩
    · rcases (AList.mem_insert _).mp cached with rfl | earlier
      · exact flying_reserved stands rfl
      · exact mem_reserved.mpr (.inl earlier)
    · exact reserved_returns state thread (mem_reserved.mpr (.inr ⟨elsewhere, phase, found, flies⟩))
  refine ⟨?_, (Int.ofNat_le.mpr (Finset.card_le_card subset)).trans bounded.room⟩
  refine bounded.finds.erase.mono fun _ phase _ finds call' cohort' entry' same => ?_
  exact (AList.mem_insert _).mpr (.inr (finds call' cohort' entry' same))

/-- A check that is passed adds its cohort to those on their way. -/
theorem reserved_admitted (state : State) (thread call : Nat) (cohort : PyStr) (fallback : Int) (now : Float) :
    reserved (state.goes thread (.Fetching call cohort fallback now)) ⊆ insert cohort (reserved state) := by
  intro other member
  rcases reserved_goes member with earlier | flies
  · exact Finset.mem_insert_of_mem earlier
  · obtain ⟨_, same⟩ := Option.ite_none_right_eq_some.mp flies
    obtain rfl := Option.some.inj same
    exact Finset.mem_insert_self _ _

/-- With nothing else on its way, the length of the cache says what room there is. -/
theorem admitted_card {cohort : PyStr} (admitted : full client state.cache = false) (alone : newcomers state ⊆ {cohort}) :
    ((insert cohort (reserved state)).card : Int) ≤ client.max_cohorts := by
  have subset : insert cohort (reserved state) ⊆ insert cohort state.cache.keys.toFinset := by
    refine Finset.insert_subset (Finset.mem_insert_self _ _) (reserved_subset.trans (Finset.union_subset ?_ ?_))
    · exact alone.trans (Finset.singleton_subset_iff.mpr (Finset.mem_insert_self _ _))
    · exact Finset.subset_insert _ _
  have count := (Finset.card_le_card subset).trans (Finset.card_insert_le _ _)
  have short : len state.cache < client.max_cohorts := by simpa [full] using admitted
  have keys := card_keys state.cache
  omega

theorem Bounded.step (bounded : Bounded client state) (spaced : Spaced client state action)
    (moved : Moved client state action state') : Bounded client state' := by
  cases moved with
  | Get thread cohort idle =>
    have found : ∀ entry, state.cache.lookup cohort = some entry → cohort ∈ state.cache := fun entry found =>
      AList.lookup_isSome.mp (by rw [found]; rfl)
    have goes := bounded.goes (show Finds state.cache thread (.Got state.calls cohort (state.cache.lookup cohort)) from fun call cohort' entry same => by
        obtain ⟨_, rfl, cached⟩ := Thread.Got.inj same
        exact found entry cached) (fun cohort' flies => nomatch flies)
    exact ⟨goes.finds, goes.room⟩
  | Clock thread call cohort cached now stands =>
    unfold clock
    split
    · exact bounded.returns thread
    · rename_i value looked
      refine bounded.goes (fun call' cohort' entry' same => nomatch same) fun cohort' flies => ?_
      obtain ⟨_, same⟩ := Option.ite_none_right_eq_some.mp flies
      obtain rfl := Option.some.inj same
      cases cached with
      | none => cases looked
      | some entry => exact mem_reserved.mpr (.inl (bounded.finds _ _ stands _ _ _ rfl))
    · exact bounded.goes (fun call' cohort' entry' same => nomatch same) fun cohort' flies => nomatch flies
  | Check thread call cohort now stands =>
    unfold check
    split
    · have returns := bounded.returns thread
      exact ⟨returns.finds, returns.room⟩
    · rename_i passed
      have admitted : full client state.cache = false := by simpa using passed
      by_cases encoded : encodable cohort = true
      · have room : ((insert cohort (reserved state)).card : Int) ≤ client.max_cohorts :=
          (spaced call cohort now stands admitted encoded).elim (admitted_card admitted) id
        refine ⟨bounded.finds.insert (fun call' cohort' entry' same => nomatch same), ?_⟩
        exact (Int.ofNat_le.mpr (Finset.card_le_card (reserved_admitted state thread call cohort _ now))).trans room
      · refine bounded.goes (fun call' cohort' entry' same => nomatch same) fun cohort' flies => ?_
        exact absurd (Option.ite_none_right_eq_some.mp flies).1 encoded
  | Answer thread call cohort fallback now exchange stands =>
    unfold answer
    split
    · exact bounded.returns thread
    · rename_i fetched found
      refine bounded.goes (fun call' cohort' entry' same => nomatch same) fun cohort' flies => ?_
      obtain rfl := Option.some.inj flies
      exact flying_reserved stands (if_pos (fetch_encodable found))
  | Store thread call cohort entry stands => exact bounded.store stands

/-! ### The overflow -/

/-- A check that is passed otherwise reserves more than the cap. -/
theorem crowded_overflows {thread : Nat} (moved : Moved client state (.Check thread) state')
    (crowded : ¬Spaced client state (.Check thread)) : client.max_cohorts < (reserved state').card := by
  cases moved with
  | Check thread call cohort now stands =>
    have violated : full client state.cache = false ∧ encodable cohort = true ∧
        client.max_cohorts < ((insert cohort (reserved state)).card : Int) := by
      by_contra kept
      refine crowded fun call' cohort' now' stands' admitted encoded => .inr ?_
      obtain ⟨rfl, rfl, rfl⟩ := Thread.Checking.inj (Option.some.inj (stands.symm.trans stands'))
      by_contra exceeds
      exact kept ⟨admitted, encoded, not_le.mp exceeds⟩
    obtain ⟨admitted, encoded, exceeds⟩ := violated
    refine exceeds.trans_le (Int.ofNat_le.mpr (Finset.card_le_card ?_))
    rw [check, if_neg (by rw [admitted]; decide)]
    intro other member
    rcases Finset.mem_insert.mp member with rfl | earlier
    · exact mem_reserved.mpr (.inr ⟨thread, _, AList.lookup_insert _, if_pos encoded⟩)
    · rcases mem_reserved.mp earlier with cached | ⟨elsewhere, phase, found, flies⟩
      · exact mem_reserved.mpr (.inl cached)
      · have apart : elsewhere ≠ thread := by
          rintro rfl
          obtain rfl := Option.some.inj (found.symm.trans stands)
          cases flies
        exact mem_reserved.mpr (.inr ⟨elsewhere, phase, (AList.lookup_insert_ne apart).trans found, flies⟩)

/-- A thread on its way can store its cohort; all else stays. -/
theorem flight_lands (client : RecommendationClient) {thread : Nat} {phase : Thread} {cohort : PyStr}
    (stands : state.threads.lookup thread = some phase) (flies : phase.in_flight = some cohort) :
    ∃ landed, Reached (step client) Any state landed ∧ cohort ∈ landed.cache ∧
      (∀ other ∈ state.cache, other ∈ landed.cache) ∧
      ∀ other ≠ thread, landed.threads.lookup other = state.threads.lookup other := by
  have stores : ∀ {before : State} {call entry}, before.threads.lookup thread = some (.Storing call cohort entry) →
      Reached (step client) Any before (store before thread call cohort entry) := by
    intro before call entry storing
    exact .step (.Store thread) .start trivial (by simp only [step, storing])
  cases phase with
  | Got call other cached => cases flies
  | Checking call other now => cases flies
  | Storing call other entry =>
    obtain rfl := Option.some.inj flies
    exact ⟨_, stores stands, (AList.mem_insert _).mpr (.inl rfl), fun other member => (AList.mem_insert _).mpr (.inr member),
      fun other apart => AList.lookup_erase_ne apart⟩
  | Fetching call other fallback now =>
    obtain ⟨encoded, same⟩ := Option.ite_none_right_eq_some.mp flies
    obtain rfl := Option.some.inj same
    -- a timeout falls back on the value at hand, which is stored like a fetched one
    have timed_out : fetch other (.Raised .TimeoutError) = .ok none := by
      obtain ⟨path, quoted⟩ := Option.isSome_iff_exists.mp ((quote_isSome other).trans encoded)
      rw [fetch, quoted]
      rfl
    have answered : step client state (.Answer thread (.Raised .TimeoutError)) =
        some (state.goes thread (.Storing call other (renewed client fallback now none))) := by
      simp only [step, stands, answer, timed_out]
    have storing : (state.goes thread (.Storing call other (renewed client fallback now none))).threads.lookup thread =
        some (.Storing call other (renewed client fallback now none)) := AList.lookup_insert _
    refine ⟨_, (Reached.step _ .start trivial answered).trans (stores storing), (AList.mem_insert _).mpr (.inl rfl),
      fun other member => (AList.mem_insert _).mpr (.inr member), fun other apart => ?_⟩
    exact (AList.lookup_erase_ne apart).trans (AList.lookup_insert_ne apart)

/-- One after the other, all threads on their way can store their cohorts. -/
theorem flights_land (client : RecommendationClient) (state : State) (threads : List Nat) :
    ∃ landed, Reached (step client) Any state landed ∧
    (∀ other ∈ state.cache, other ∈ landed.cache) ∧
    ∀ thread ∈ threads, ∀ phase cohort, state.threads.lookup thread = some phase → phase.in_flight = some cohort →
      cohort ∈ landed.cache := by
  induction threads generalizing state with
  | nil => exact ⟨state, .start, fun _ => id, fun thread member => absurd member List.not_mem_nil⟩
  | cons thread rest ih =>
    by_cases flying : ∃ phase cohort, state.threads.lookup thread = some phase ∧ phase.in_flight = some cohort
    · obtain ⟨phase, cohort, stands, flies⟩ := flying
      obtain ⟨middle, first, stored, kept, others⟩ := flight_lands client stands flies
      obtain ⟨landed, later, keeps, all⟩ := ih middle
      refine ⟨landed, first.trans later, fun other member => keeps other (kept other member), ?_⟩
      intro thread' member phase' cohort' stands' flies'
      by_cases same : thread' = thread
      · subst same
        obtain rfl := Option.some.inj (stands.symm.trans stands')
        obtain rfl := Option.some.inj (flies.symm.trans flies')
        exact keeps _ stored
      · exact all thread' ((List.mem_cons.mp member).resolve_left same) phase' cohort' ((others thread' same).trans stands') flies'
    · obtain ⟨landed, reached, keeps, all⟩ := ih state
      refine ⟨landed, reached, keeps, ?_⟩
      intro thread' member phase' cohort' stands' flies'
      rcases List.mem_cons.mp member with rfl | later
      · exact absurd ⟨phase', cohort', stands', flies'⟩ flying
      · exact all thread' later phase' cohort' stands' flies'

/-- Whatever is reserved can come to be cached. -/
theorem reserved_lands (client : RecommendationClient) (state : State) :
    ∃ landed, Reached (step client) Any state landed ∧ ((reserved state).card : Int) ≤ len landed.cache := by
  obtain ⟨landed, reached, keeps, all⟩ := flights_land client state state.threads.keys
  refine ⟨landed, reached, ?_⟩
  rw [← card_keys]
  refine Int.ofNat_le.mpr (Finset.card_le_card fun cohort member => List.mem_toFinset.mpr ?_)
  rcases mem_reserved.mp member with cached | ⟨thread, phase, found, flies⟩
  · exact keeps cohort cached
  · have listed : thread ∈ state.threads.keys := AList.lookup_isSome.mp (by rw [found]; rfl)
    exact all thread listed phase cohort found flies

/-! ### Refused calls -/

/-- The calls that were numbered, refused and stored, and the one of each thread. -/
structure Numbered (state : State) : Prop where
  begun : Every (fun _ phase => phase.call < state.calls) state.threads
  alone : ∀ thread other phase phase', state.threads.lookup thread = some phase → state.threads.lookup other = some phase' →
    phase.call = phase'.call → thread = other
  pending : Every (fun _ phase => phase.call ∉ state.refused ∧ ∀ entry ∈ state.stored, entry.1 ≠ phase.call) state.threads
  refused : ∀ call ∈ state.refused, call < state.calls
  stored : ∀ entry ∈ state.stored, entry.1 < state.calls
  apart : ∀ entry ∈ state.stored, entry.1 ∉ state.refused

theorem start_numbered : Numbered start := by
  refine ⟨every_empty, ?_, every_empty, ?_, ?_, ?_⟩
  · intro thread other phase phase' found
    rw [start, AList.lookup_empty] at found
    cases found
  all_goals
    intro item member
    cases member

/-- A thread goes on within its call. -/
theorem Numbered.goes (numbered : Numbered state) {thread : Nat} {phase phase' : Thread}
    (stands : state.threads.lookup thread = some phase) (same : phase'.call = phase.call) :
    Numbered (state.goes thread phase') := by
  refine ⟨numbered.begun.insert (same ▸ numbered.begun _ _ stands), ?_, numbered.pending.insert (same ▸ numbered.pending _ _ stands),
    numbered.refused, numbered.stored, numbered.apart⟩
  -- Every phase of the new table has the call of a phase that its thread had before.
  have before : ∀ other phase'', (state.goes thread phase').threads.lookup other = some phase'' →
      ∃ earlier, state.threads.lookup other = some earlier ∧ earlier.call = phase''.call := by
    intro other phase'' found
    by_cases here : other = thread
    · subst here
      rw [State.goes, AList.lookup_insert] at found
      obtain rfl := Option.some.inj found
      exact ⟨phase, stands, same.symm⟩
    · rw [State.goes, AList.lookup_insert_ne here] at found
      exact ⟨phase'', found, rfl⟩
  intro left right _ _ foundLeft foundRight equal
  obtain ⟨earlier, there, callLeft⟩ := before left _ foundLeft
  obtain ⟨earlier', there', callRight⟩ := before right _ foundRight
  exact numbered.alone _ _ _ _ there there' (callLeft.trans (equal.trans callRight.symm))

theorem Numbered.returns (numbered : Numbered state) (thread : Nat) : Numbered (state.returns thread) := by
  refine ⟨numbered.begun.erase, ?_, numbered.pending.erase, numbered.refused, numbered.stored, numbered.apart⟩
  have before : ∀ other phase, (state.returns thread).threads.lookup other = some phase → state.threads.lookup other = some phase := by
    intro other phase found
    by_cases here : other = thread
    · subst here
      rw [State.returns, AList.lookup_erase] at found
      cases found
    · rwa [State.returns, AList.lookup_erase_ne here] at found
  intro left right _ _ foundLeft foundRight equal
  exact numbered.alone _ _ _ _ (before left _ foundLeft) (before right _ foundRight) equal

/-- Another thread is in another call. -/
theorem Numbered.other_call (numbered : Numbered state) {thread other : Nat} {phase phase' : Thread}
    (stands : state.threads.lookup thread = some phase) (found : (state.returns thread).threads.lookup other = some phase') :
    phase'.call ≠ phase.call := by
  intro same
  by_cases here : other = thread
  · subst here
    rw [State.returns, AList.lookup_erase] at found
    cases found
  · rw [State.returns, AList.lookup_erase_ne here] at found
    exact here (numbered.alone _ _ _ _ found stands same)

theorem Numbered.step (numbered : Numbered state) (moved : Moved client state action state') : Numbered state' := by
  cases moved with
  | Get thread cohort idle =>
    refine ⟨?_, ?_, ?_, fun call member => Nat.lt_succ_of_lt (numbered.refused call member),
      fun entry member => Nat.lt_succ_of_lt (numbered.stored entry member), numbered.apart⟩
    · exact (numbered.begun.mono fun _ _ _ begun => Nat.lt_succ_of_lt begun).insert (Nat.lt_succ_self _)
    · intro left right phase phase' foundLeft foundRight equal
      by_cases hereLeft : left = thread
      · by_cases hereRight : right = thread
        · exact hereLeft.trans hereRight.symm
        · subst hereLeft
          rw [State.goes, AList.lookup_insert] at foundLeft
          rw [State.goes, AList.lookup_insert_ne hereRight] at foundRight
          obtain rfl := Option.some.inj foundLeft
          exact absurd equal (numbered.begun _ _ foundRight).ne'
      · by_cases hereRight : right = thread
        · subst hereRight
          rw [State.goes, AList.lookup_insert_ne hereLeft] at foundLeft
          rw [State.goes, AList.lookup_insert] at foundRight
          obtain rfl := Option.some.inj foundRight
          exact absurd equal (numbered.begun _ _ foundLeft).ne
        · rw [State.goes, AList.lookup_insert_ne hereLeft] at foundLeft
          rw [State.goes, AList.lookup_insert_ne hereRight] at foundRight
          exact numbered.alone _ _ _ _ foundLeft foundRight equal
    · exact numbered.pending.insert ⟨fun member => lt_irrefl _ (numbered.refused _ member),
        fun entry member => (numbered.stored entry member).ne⟩
  | Clock thread call cohort cached now stands =>
    unfold clock
    split
    · exact numbered.returns thread
    · exact numbered.goes stands rfl
    · exact numbered.goes stands rfl
  | Check thread call cohort now stands =>
    unfold check
    split
    · have returns := numbered.returns thread
      have pending := numbered.pending _ _ stands
      refine ⟨returns.begun, returns.alone, ?_, ?_, returns.stored, ?_⟩
      · refine returns.pending.mono fun other phase found apart => ⟨fun member => ?_, apart.2⟩
        rcases List.mem_cons.mp member with same | earlier
        · exact numbered.other_call stands found same
        · exact apart.1 earlier
      · exact List.forall_mem_cons.mpr ⟨numbered.begun _ _ stands, numbered.refused⟩
      · intro entry member refused
        rcases List.mem_cons.mp refused with same | earlier
        · exact pending.2 entry member same
        · exact numbered.apart entry member earlier
    · exact numbered.goes stands rfl
  | Answer thread call cohort fallback now exchange stands =>
    unfold answer
    split
    · exact numbered.returns thread
    · exact numbered.goes stands rfl
  | Store thread call cohort entry stands =>
    have returns := numbered.returns thread
    have pending := numbered.pending _ _ stands
    refine ⟨returns.begun, returns.alone, ?_, returns.refused, ?_, ?_⟩
    · refine returns.pending.mono fun other phase found apart => ⟨apart.1, List.forall_mem_cons.mpr ⟨?_, apart.2⟩⟩
      exact (numbered.other_call stands found).symm
    · exact List.forall_mem_cons.mpr ⟨numbered.begun _ _ stands, numbered.stored⟩
    · exact List.forall_mem_cons.mpr ⟨pending.1, numbered.apart⟩

/-! ### Runs -/

/-- A cohort that was refused is not stored by the same call. -/
def NeverStored (state : State) : Prop := ∀ call ∈ state.refused, ∀ cohort, (call, cohort) ∉ state.stored

theorem reached_numbered (reached : Reached (step client) Any start state) : Numbered state :=
  reached.invariant start_numbered fun _ _ _ _ numbered _ taken => numbered.step (step_cases taken)

theorem Numbered.never_stored (numbered : Numbered state) : NeverStored state :=
  fun _ refused _ stored => numbered.apart _ stored refused

theorem start_bounded (room : 1 ≤ client.max_cohorts) : Bounded client start :=
  ⟨every_empty, show (0 : Int) ≤ client.max_cohorts by omega⟩

theorem Bounded.len_le (bounded : Bounded client state) : len state.cache ≤ client.max_cohorts := by
  have keys : state.cache.keys.toFinset ⊆ reserved state := fun cohort member =>
    mem_reserved.mpr (.inl (List.mem_toFinset.mp member))
  rw [← card_keys]
  exact (Int.ofNat_le.mpr (Finset.card_le_card keys)).trans bounded.room

end Run

/-- In every run whose checks are passed one by one, or with room for all calls in flight, the cache holds at most
    `max_cohorts` cohorts; in every run a refused cohort is not stored by the call that was refused; and from every check
    that is passed otherwise the run can go on to a cache beyond the cap. -/
theorem cap_respected (host : String) (port default_ef_search : Int) (ttl_seconds timeout_seconds : Float) (max_cohorts : Int)
    (client : RecommendationClient)
    (made : new host port default_ef_search ttl_seconds timeout_seconds max_cohorts = .ok client) :
    (∀ state, Reached (step client) (Spaced client) start state → len state.cache ≤ client.max_cohorts) ∧
    (∀ state, Reached (step client) Any start state → NeverStored state) ∧
    ∀ state thread state', Reached (step client) Any start state → step client state (.Check thread) = some state' →
      ¬Spaced client state (.Check thread) →
      ∃ later, Reached (step client) Any state' later ∧ client.max_cohorts < len later.cache := by
  refine ⟨fun state reached => ?_, fun state reached => (reached_numbered reached).never_stored, ?_⟩
  · refine Bounded.len_le (reached.invariant (start_bounded (new_ok made).2) ?_)
    exact fun _ _ _ _ bounded spaced taken => bounded.step spaced (step_cases taken)
  · intro state thread state' _ taken crowded
    have exceeds := crowded_overflows (step_cases taken) crowded
    obtain ⟨later, reached, lands⟩ := reserved_lands client state'
    exact ⟨later, reached, exceeds.trans_le lands⟩

/-! ### Two caches -/

/-- The decision on `Spaced`. -/
def spaced (client : RecommendationClient) (state : State) : Action → Bool
  | .Check thread =>
    match state.threads.lookup thread with
    | some (.Checking _ cohort _) => full client state.cache || !encodable cohort || decide (newcomers state ⊆ {cohort}) ||
        decide (((insert cohort (reserved state)).card : Int) ≤ client.max_cohorts)
    | _ => true
  | _ => true

theorem spaced_of {client : RecommendationClient} {state : State} {action : Action} (holds : spaced client state action = true) :
    Spaced client state action := by
  cases action with
  | Check thread =>
    intro call cohort now stands admitted encoded
    simpa [spaced, stands, admitted, encoded] using holds
  | _ => trivial

/-- Two calls overlap in a cache for two, and a third one is refused. -/
def shared : List Action :=
  [.Get 0 [97], .Clock 0 0.0, .Get 1 [98], .Clock 1 0.0, .Check 0, .Check 1, .Answer 0 (.Raised .TimeoutError),
    .Answer 1 (.Raised .TimeoutError), .Store 0, .Store 1, .Get 0 [99], .Clock 0 1.0, .Check 0]

theorem shared_cache_capped : ∃ client state, new "127.0.0.1" 7738 100 60.0 1.0 2 = .ok client ∧
    Reached (step client) (Spaced client) start state ∧ state.cache.keys = [[98], [97]] ∧ state.refused = [2] ∧
    len state.cache ≤ client.max_cohorts ∧ NeverStored state := by
  have ran : (run (guarded (step ⟨"http://127.0.0.1:7738/v1/ef-search/", 100, 60.0, 1.0, 2⟩)
      (spaced ⟨"http://127.0.0.1:7738/v1/ef-search/", 100, 60.0, 1.0, 2⟩)) start shared).map
      (fun state => (state.cache.keys, state.refused)) = some ([[98], [97]], [2]) := by decide +kernel
  obtain ⟨state, ran, same⟩ := Option.map_eq_some_iff.mp ran
  obtain ⟨keys, refused⟩ := Prod.mk.inj same
  have reached := (guarded_reaches ran).mono fun _ _ => spaced_of
  obtain ⟨capped, apart, _⟩ := cap_respected "127.0.0.1" 7738 100 60.0 1.0 2 _ rfl
  exact ⟨_, state, rfl, reached, keys, refused, capped state reached, apart state reached.any⟩

/-- Two calls that miss on different cohorts pass the check of a cache for one. -/
def race : List Action :=
  [.Get 0 [97], .Clock 0 0.0, .Get 1 [98], .Clock 1 0.0, .Check 0, .Check 1, .Answer 0 (.Raised .TimeoutError),
    .Answer 1 (.Raised .TimeoutError), .Store 0, .Store 1]

theorem race_exceeds_cap : ∃ client state, new "127.0.0.1" 7738 100 60.0 1.0 1 = .ok client ∧
    Reached (step client) Any start state ∧ ¬len state.cache ≤ client.max_cohorts := by
  refine ⟨_, _, rfl, run_reaches (show run _ start race = some _ from rfl), ?_⟩
  decide

end VectorSeam.SdkCapacity
