import VectorSeam.Lookups
import VectorSeam.Tables
import VectorSeam.Machines

/-!
The recommendation server: requests that run concurrently, three caches, loads that are
shared by the requests for a cohort, and permits for them. Every await of a handler ends
a step; between steps the tuner may write, entries of a cache may expire or be evicted,
and a request may be dropped with its connection. GETs, acquired permits and answers are
kept in a journal.
-/

namespace VectorSeam.RecommendationServer
open VectorSeam.Model VectorSeam.Cohort VectorSeam.ObjectStore VectorSeam.LittleEndian VectorSeam.Durations VectorSeam.Tables
open VectorSeam.Machines VectorSeam.Lookups

/-! ### Requests -/

abbrev LoadResult := Except TransientLookupError CachedLookup

/-- Where a handler stands. -/
inductive Phase where
  | Positive
  | Negative
  | Acquire
  | Join
  | Waiting (leader : Nat)
  | Get
  | Body (bytes : Bytes)
  | Loaded (result : LoadResult)
  | Kept (result : LoadResult)

structure Request where
  cohort : CohortName
  phase : Phase

structure Response where
  status : Nat
  body : String
deriving DecidableEq

/-- What an answer was taken from. -/
inductive Source where
  | Invalid
  | Positive
  | Negative
  | Refused
  | Load (result : LoadResult)

/-- The path of a GET with the object that it found. -/
abbrev Observation := Path × Option Bytes

/-- An answer, with the GETs before it. -/
structure Answer where
  request : Nat
  cohort : Option CohortName
  source : Source
  response : Response
  gets : List Observation

structure Journal where
  gets : List Observation
  acquired : List Nat
  answers : List Answer

structure State where
  objects : Objects Bytes
  recommendations : Table CohortName Int
  negative_recommendations : Table CohortName NegativeLookup
  coalesced_loads : Table CohortName CachedLookup
  /-- The request whose load others for its cohort wait for. -/
  loading : Table CohortName Nat
  /-- How loads ended, for the requests that waited. -/
  results : Table (CohortName × Nat) LoadResult
  load_permits : Nat
  requests : Table Nat Request
  next : Nat
  journal : Journal

structure Config where
  max_concurrent_requests : Nat
  lookup_timeout : Duration

def start (config : Config) (objects : Objects Bytes) : State :=
  { objects, recommendations := ∅, negative_recommendations := ∅, coalesced_loads := ∅, loading := ∅, results := ∅
    load_permits := config.max_concurrent_requests, requests := ∅, next := 0
    journal := { gets := [], acquired := [], answers := [] } }

/-! ### Responses -/

def ok_response (ef_search : Int) : Response := { status := 200, body := toString ef_search }
def bad_request : Response := { status := 400, body := "" }
def service_unavailable : Response := { status := 503, body := "" }

def negative_response : NegativeLookup → Response
  | .Missing => { status := 404, body := "" }
  | .Defect _ => { status := 500, body := "" }

def load_response : LoadResult → Response
  | .ok (.Found ef_search) => ok_response ef_search
  | .ok (.Negative negative) => negative_response negative
  | .error _ => service_unavailable

namespace State

def goes (state : State) (id : Nat) (cohort : CohortName) (phase : Phase) : State :=
  { state with requests := state.requests.insert id { cohort, phase } }

/-- The handler of a request returns. -/
def answers (state : State) (id : Nat) (cohort : Option CohortName) (source : Source) (response : Response) : State :=
  { state with
    requests := state.requests.erase id
    journal := { state.journal with
      answers := { request := id, cohort, source, response, gets := state.journal.gets } :: state.journal.answers } }

def acquires (state : State) (id : Nat) : State :=
  { state with
    load_permits := state.load_permits - 1
    journal := { state.journal with acquired := id :: state.journal.acquired } }

def releases (state : State) : State := { state with load_permits := state.load_permits + 1 }

def observes (state : State) (path : Path) : State :=
  { state with
    journal := { state.journal with gets := (path, lookup state.objects path) :: state.journal.gets } }

/-- What a load that ended leaves in the two caches; an error leaves nothing. -/
def keeps (state : State) (cohort : CohortName) : LoadResult → State
  | .ok (.Found ef_search) => { state with recommendations := state.recommendations.insert cohort ef_search }
  | .ok (.Negative negative) =>
    { state with negative_recommendations := state.negative_recommendations.insert cohort negative }
  | .error _ => state

end State

/-! ### Loads -/

/-- The load of a request ends, for itself and for those that wait for it; only a value is kept. -/
def finish_load (state : State) (id : Nat) (cohort : CohortName) (result : LoadResult) : State :=
  { state.goes id cohort (.Loaded result) with
    coalesced_loads :=
      match result with
      | .ok looked => state.coalesced_loads.insert cohort looked
      | .error _ => state.coalesced_loads
    loading := state.loading.erase cohort
    results := state.results.insert (cohort, id) result }

/-- `try_get_with`: a value in the cache, the load in progress, or a load of its own. -/
def join (state : State) (id : Nat) (cohort : CohortName) : State :=
  match state.coalesced_loads.lookup cohort with
  | some looked => state.goes id cohort (.Loaded (.ok looked))
  | none =>
    match state.loading.lookup cohort with
    | some leader => state.goes id cohort (.Waiting leader)
    | none => { state.goes id cohort .Get with loading := state.loading.insert cohort id }

/-- A GET found an object, or none. -/
def got (state : State) (id : Nat) (cohort : CohortName) : State :=
  let path := latest_path cohort
  match lookup state.objects path with
  | none => finish_load (state.observes path) id cohort (.ok (.Negative .Missing))
  | some bytes =>
    match check_size cohort bytes.length with
    | some looked => finish_load (state.observes path) id cohort (.ok looked)
    | none => (state.observes path).goes id cohort (.Body bytes)

/-! ### Steps -/

/-- What a handler does up to its next await, if nothing that it waits for is missing. -/
def resume (state : State) (id : Nat) (cohort : CohortName) : Phase → Option State
  | .Positive =>
    match state.recommendations.lookup cohort with
    | some ef_search => some (state.answers id (some cohort) .Positive (ok_response ef_search))
    | none => some (state.goes id cohort .Negative)
  | .Negative =>
    match state.negative_recommendations.lookup cohort with
    | some negative => some (state.answers id (some cohort) .Negative (negative_response negative))
    | none => some (state.goes id cohort .Acquire)
  | .Acquire =>
    if state.load_permits = 0 then some (state.answers id (some cohort) .Refused service_unavailable)
    else some ((state.acquires id).goes id cohort .Join)
  | .Join => some (join state id cohort)
  | .Waiting leader =>
    match state.results.lookup (cohort, leader) with
    | some result => some (state.goes id cohort (.Loaded result))
    | none => if state.loading.lookup cohort = some leader then none else some (state.goes id cohort .Join)
  | .Loaded result => some ((state.keeps cohort result).goes id cohort (.Kept result))
  | .Kept result => some ((state.answers id (some cohort) (.Load result) (load_response result)).releases)
  | .Get => none
  | .Body _ => none

/-- Whether a handler holds a permit. -/
def Phase.holds : Phase → Bool
  | .Positive => false
  | .Negative => false
  | .Acquire => false
  | _ => true

/-- Whether others may wait for the load of a handler. -/
def Phase.leads : Phase → Bool
  | .Get => true
  | .Body _ => true
  | _ => false

/-- A request is dropped where it stands. -/
def cancel (state : State) (id : Nat) (request : Request) : State :=
  { state with
    requests := state.requests.erase id
    load_permits := state.load_permits + if request.phase.holds then 1 else 0
    loading := if request.phase.leads then state.loading.erase request.cohort else state.loading }

inductive Action where
  | Arrive (raw_cohort : String)
  | Resume (id : Nat)
  | Reply (id : Nat) (failure : Option String)
  | Read (id : Nat) (failure : Option String)
  | Elapse (id : Nat)
  | Cancel (id : Nat)
  | EvictRecommendation (cohort : CohortName)
  | EvictNegative (cohort : CohortName)
  | EvictLoad (cohort : CohortName)
  | Write (path : Path) (bytes : Bytes)
  | Delete (path : Path)

section Step
variable (from_slice : Bytes → Except String LatestRound) (config : Config)

def step (state : State) : Action → Option State
  | .Arrive raw_cohort =>
    match CohortName.new raw_cohort with
    | .error _ => some { state.answers state.next none .Invalid bad_request with next := state.next + 1 }
    | .ok cohort => some { state.goes state.next cohort .Positive with next := state.next + 1 }
  | .Resume id =>
    match state.requests.lookup id with
    | some request => resume state id request.cohort request.phase
    | none => none
  | .Reply id failure =>
    match state.requests.lookup id, failure with
    | some ⟨cohort, .Get⟩, none => some (got state id cohort)
    | some ⟨cohort, .Get⟩, some source =>
      some (finish_load state id cohort (.error (.Get (latest_path cohort).raw source)))
    | _, _ => none
  | .Read id failure =>
    match state.requests.lookup id, failure with
    | some ⟨cohort, .Body bytes⟩, none => some (finish_load state id cohort (.ok (read_latest from_slice cohort bytes)))
    | some ⟨cohort, .Body _⟩, some source =>
      some (finish_load state id cohort (.error (.Body (latest_path cohort).raw source)))
    | _, _ => none
  | .Elapse id =>
    match state.requests.lookup id with
    | some request =>
      if request.phase.leads then
        some (finish_load state id request.cohort
          (.error (.Timeout (latest_path request.cohort).raw config.lookup_timeout.as_secs_f64)))
      else none
    | none => none
  | .Cancel id =>
    match state.requests.lookup id with
    | some request => some (cancel state id request)
    | none => none
  | .EvictRecommendation cohort => some { state with recommendations := state.recommendations.erase cohort }
  | .EvictNegative cohort => some { state with negative_recommendations := state.negative_recommendations.erase cohort }
  | .EvictLoad cohort => some { state with coalesced_loads := state.coalesced_loads.erase cohort }
  | .Write path bytes => some { state with objects := store state.objects path bytes }
  | .Delete path => some { state with objects := state.objects.filter fun object => object.1 ≠ path }

end Step

/-! ### Evidence -/

section Evidence
variable (from_slice : Bytes → Except String LatestRound)

/-- A GET of the cohort's latest round found what the lookup says. -/
def Observed (gets : List Observation) (cohort : CohortName) (looked : CachedLookup) : Prop :=
  ∃ observed, (latest_path cohort, observed) ∈ gets ∧ assess from_slice cohort observed = looked

/-- Where a handler stands rests on the GETs so far. -/
def Grounded (gets : List Observation) (request : Request) : Prop :=
  match request.phase with
  | .Body bytes => (latest_path request.cohort, some bytes) ∈ gets ∧ check_size request.cohort bytes.length = none
  | .Loaded (.ok looked) => Observed from_slice gets request.cohort looked
  | .Kept (.ok looked) => Observed from_slice gets request.cohort looked
  | _ => True

/-- What an answer says of the GETs before it. -/
def Justified (answer : Answer) : Prop :=
  match answer.source with
  | .Invalid => answer.response = bad_request
  | .Positive => ∃ cohort ef_search, answer.cohort = some cohort ∧ answer.response = ok_response ef_search ∧
      Observed from_slice answer.gets cohort (.Found ef_search)
  | .Negative => ∃ cohort negative, answer.cohort = some cohort ∧ answer.response = negative_response negative ∧
      Observed from_slice answer.gets cohort (.Negative negative)
  | .Refused => answer.response = service_unavailable
  | .Load result => answer.response = load_response result ∧ ∀ looked, result = .ok looked →
      ∃ cohort, answer.cohort = some cohort ∧ Observed from_slice answer.gets cohort looked

/-- Everything that the server keeps rests on a GET that was answered. -/
structure Sound (state : State) : Prop where
  positive : Every (fun cohort ef_search => Observed from_slice state.journal.gets cohort (.Found ef_search)) state.recommendations
  negative : Every (fun cohort negative => Observed from_slice state.journal.gets cohort (.Negative negative))
    state.negative_recommendations
  coalesced : Every (fun cohort looked => Observed from_slice state.journal.gets cohort looked) state.coalesced_loads
  results : Every (fun key result => ∀ looked, result = .ok looked → Observed from_slice state.journal.gets key.1 looked)
    state.results
  requests : Every (fun _ request => Grounded from_slice state.journal.gets request) state.requests
  answers : ∀ answer ∈ state.journal.answers, answer.gets <:+ state.journal.gets ∧ Justified from_slice answer

end Evidence

section Sound
variable {from_slice : Bytes → Except String LatestRound} {config : Config} {state state' : State} {id : Nat}
  {cohort : CohortName} {gets gets' : List Observation}

theorem Observed.mono {looked : CachedLookup} (observed : Observed from_slice gets cohort looked) (more : gets ⊆ gets') :
    Observed from_slice gets' cohort looked := by
  obtain ⟨found, member, same⟩ := observed
  exact ⟨found, more member, same⟩

theorem Grounded.mono {request : Request} (grounded : Grounded from_slice gets request) (more : gets ⊆ gets') :
    Grounded from_slice gets' request := by
  unfold Grounded at grounded ⊢
  split
  · rename_i standing
    rw [standing] at grounded
    exact ⟨more grounded.1, grounded.2⟩
  · rename_i standing
    rw [standing] at grounded
    exact Observed.mono grounded more
  · rename_i standing
    rw [standing] at grounded
    exact Observed.mono grounded more
  · trivial

theorem start_sound (config : Config) (objects : Objects Bytes) : Sound from_slice (start config objects) where
  positive := every_empty
  negative := every_empty
  coalesced := every_empty
  results := every_empty
  requests := every_empty
  answers := fun _ member => by cases member

theorem Sound.goes (sound : Sound from_slice state) {phase : Phase}
    (grounded : Grounded from_slice state.journal.gets { cohort, phase }) : Sound from_slice (state.goes id cohort phase) :=
  { sound with requests := sound.requests.insert grounded }

theorem Sound.answers_with (sound : Sound from_slice state) {named : Option CohortName} {source : Source} {response : Response}
    (justified : Justified from_slice { request := id, cohort := named, source, response, gets := state.journal.gets }) :
    Sound from_slice (state.answers id named source response) :=
  { sound with
    requests := sound.requests.erase
    answers := List.forall_mem_cons.mpr ⟨⟨List.suffix_refl _, justified⟩, sound.answers⟩ }

theorem Sound.observes (sound : Sound from_slice state) (path : Path) : Sound from_slice (state.observes path) := by
  have more : state.journal.gets ⊆ (state.observes path).journal.gets := List.subset_cons_self _ _
  exact {
    positive := sound.positive.mono fun _ _ _ observed => observed.mono more
    negative := sound.negative.mono fun _ _ _ observed => observed.mono more
    coalesced := sound.coalesced.mono fun _ _ _ observed => observed.mono more
    results := sound.results.mono fun _ _ _ observed looked same => (observed looked same).mono more
    requests := sound.requests.mono fun _ _ _ grounded => grounded.mono more
    answers := fun answer member => ⟨(sound.answers answer member).1.trans (List.suffix_cons _ _), (sound.answers answer member).2⟩ }

theorem Sound.keeps (sound : Sound from_slice state) {result : LoadResult}
    (observed : ∀ looked, result = .ok looked → Observed from_slice state.journal.gets cohort looked) :
    Sound from_slice (state.keeps cohort result) := by
  match result with
  | .ok (.Found ef_search) => exact { sound with positive := sound.positive.insert (observed _ rfl) }
  | .ok (.Negative negative) => exact { sound with negative := sound.negative.insert (observed _ rfl) }
  | .error _ => exact sound

theorem Sound.finish_load (sound : Sound from_slice state) {result : LoadResult}
    (observed : ∀ looked, result = .ok looked → Observed from_slice state.journal.gets cohort looked) :
    Sound from_slice (finish_load state id cohort result) := by
  have grounded : Grounded from_slice state.journal.gets { cohort, phase := .Loaded result } := by
    cases result with
    | ok looked => exact observed looked rfl
    | error _ => trivial
  have coalesced : Every (fun cohort looked => Observed from_slice state.journal.gets cohort looked)
      (RecommendationServer.finish_load state id cohort result).coalesced_loads := by
    cases result with
    | ok looked => exact sound.coalesced.insert (observed looked rfl)
    | error _ => exact sound.coalesced
  exact { sound.goes grounded with coalesced, results := sound.results.insert observed }

/-- The three ways into a load rest on nothing, or on an entry of the cache. -/
theorem Sound.join (sound : Sound from_slice state) : Sound from_slice (join state id cohort) := by
  unfold RecommendationServer.join
  split
  · rename_i looked cached
    exact sound.goes (show Grounded from_slice _ { cohort, phase := .Loaded (.ok looked) } from sound.coalesced _ _ cached)
  · split
    · exact sound.goes trivial
    · have after : Sound from_slice (state.goes id cohort .Get) := sound.goes trivial
      exact { after with }

theorem Sound.got (sound : Sound from_slice state) : Sound from_slice (got state id cohort) := by
  have after := sound.observes (latest_path cohort)
  have seen : (latest_path cohort, lookup state.objects (latest_path cohort)) ∈
      (state.observes (latest_path cohort)).journal.gets := List.mem_cons_self
  simp only [RecommendationServer.got]
  split
  · rename_i missing
    rw [missing] at seen
    refine after.finish_load fun looked same => ⟨none, seen, ?_⟩
    exact Except.ok.inj same
  · rename_i bytes found
    rw [found] at seen
    split
    · rename_i looked large
      refine after.finish_load fun other same => ⟨some bytes, seen, ?_⟩
      obtain rfl := Except.ok.inj same
      rw [assess, large]
      rfl
    · rename_i small
      exact after.goes ⟨seen, small⟩

theorem Sound.resume (sound : Sound from_slice state) {phase : Phase}
    (grounded : Grounded from_slice state.journal.gets { cohort, phase })
    (taken : resume state id cohort phase = some state') : Sound from_slice state' := by
  cases phase with
  | Positive =>
    simp only [RecommendationServer.resume] at taken
    split at taken
    · rename_i ef_search cached
      obtain rfl := Option.some.inj taken
      exact sound.answers_with ⟨cohort, ef_search, rfl, rfl, sound.positive _ _ cached⟩
    · obtain rfl := Option.some.inj taken
      exact sound.goes trivial
  | Negative =>
    simp only [RecommendationServer.resume] at taken
    split at taken
    · rename_i negative cached
      obtain rfl := Option.some.inj taken
      exact sound.answers_with ⟨cohort, negative, rfl, rfl, sound.negative _ _ cached⟩
    · obtain rfl := Option.some.inj taken
      exact sound.goes trivial
  | Acquire =>
    simp only [RecommendationServer.resume] at taken
    split at taken
    · obtain rfl := Option.some.inj taken
      exact sound.answers_with rfl
    · obtain rfl := Option.some.inj taken
      have after : Sound from_slice (state.goes id cohort .Join) := sound.goes trivial
      exact { after with }
  | Join =>
    obtain rfl := Option.some.inj taken
    exact sound.join
  | Waiting leader =>
    simp only [RecommendationServer.resume] at taken
    split at taken
    · rename_i result ended
      obtain rfl := Option.some.inj taken
      refine sound.goes ?_
      cases result with
      | ok looked => exact sound.results _ _ ended looked rfl
      | error _ => trivial
    · split at taken
      · cases taken
      · obtain rfl := Option.some.inj taken
        exact sound.goes trivial
  | Get => cases taken
  | Body bytes => cases taken
  | Loaded result =>
    obtain rfl := Option.some.inj taken
    have observed : ∀ looked, result = .ok looked → Observed from_slice state.journal.gets cohort looked := by
      rintro looked rfl
      exact grounded
    have same : (state.keeps cohort result).journal = state.journal := by
      unfold State.keeps
      split <;> rfl
    refine (sound.keeps observed).goes ?_
    rw [same]
    cases result with
    | ok looked => exact grounded
    | error _ => trivial
  | Kept result =>
    obtain rfl := Option.some.inj taken
    have after : Sound from_slice (state.answers id (some cohort) (.Load result) (load_response result)) := by
      refine sound.answers_with ⟨rfl, fun looked same => ⟨cohort, rfl, ?_⟩⟩
      subst same
      exact grounded
    exact { after with }

theorem Sound.cancel (sound : Sound from_slice state) (request : Request) : Sound from_slice (cancel state id request) :=
  { sound with requests := sound.requests.erase }

theorem Sound.step (sound : Sound from_slice state) {action : Action}
    (taken : step from_slice config state action = some state') : Sound from_slice state' := by
  cases action with
  | Arrive raw_cohort =>
    simp only [RecommendationServer.step] at taken
    split at taken
    · obtain rfl := Option.some.inj taken
      have after : Sound from_slice (state.answers state.next none .Invalid bad_request) := sound.answers_with rfl
      exact { after with }
    · rename_i cohort _
      obtain rfl := Option.some.inj taken
      have after : Sound from_slice (state.goes state.next cohort .Positive) := sound.goes trivial
      exact { after with }
  | Resume id =>
    simp only [RecommendationServer.step] at taken
    split at taken
    · rename_i request found
      exact sound.resume (sound.requests _ _ found) taken
    · cases taken
  | Reply id failure =>
    simp only [RecommendationServer.step] at taken
    split at taken
    · obtain rfl := Option.some.inj taken
      exact sound.got
    · obtain rfl := Option.some.inj taken
      exact sound.finish_load fun _ same => by cases same
    · cases taken
  | Read id failure =>
    simp only [RecommendationServer.step] at taken
    split at taken
    · rename_i cohort bytes found
      obtain ⟨seen, small⟩ := sound.requests _ _ found
      obtain rfl := Option.some.inj taken
      refine sound.finish_load fun looked same => ⟨some bytes, seen, ?_⟩
      obtain rfl := Except.ok.inj same
      rw [assess, small]
      rfl
    · obtain rfl := Option.some.inj taken
      exact sound.finish_load fun _ same => by cases same
    · cases taken
  | Elapse id =>
    simp only [RecommendationServer.step] at taken
    split at taken
    · split at taken
      · obtain rfl := Option.some.inj taken
        exact sound.finish_load fun _ same => by cases same
      · cases taken
    · cases taken
  | Cancel id =>
    simp only [RecommendationServer.step] at taken
    split at taken
    · rename_i request _
      obtain rfl := Option.some.inj taken
      exact sound.cancel request
    · cases taken
  | EvictRecommendation cohort =>
    obtain rfl := Option.some.inj taken
    exact { sound with positive := sound.positive.erase }
  | EvictNegative cohort =>
    obtain rfl := Option.some.inj taken
    exact { sound with negative := sound.negative.erase }
  | EvictLoad cohort =>
    obtain rfl := Option.some.inj taken
    exact { sound with coalesced := sound.coalesced.erase }
  | Write path bytes =>
    obtain rfl := Option.some.inj taken
    exact { sound with }
  | Delete path =>
    obtain rfl := Option.some.inj taken
    exact { sound with }

end Sound

/-! ### Permits -/

/-- An answer from one of the two caches. -/
def Source.cached : Source → Bool
  | .Positive => true
  | .Negative => true
  | _ => false

def held (_ : Nat) (request : Request) : Nat := if request.phase.holds then 1 else 0

/-- Requests are numbered, permits are those of the handlers that hold one, and cached answers never took one. -/
structure Tracked (config : Config) (state : State) : Prop where
  begun : Every (fun id _ => id < state.next) state.requests
  early : Every (fun id request => request.phase.holds = false → id ∉ state.journal.acquired) state.requests
  acquired : ∀ id ∈ state.journal.acquired, id < state.next
  answered : ∀ answer ∈ state.journal.answers, answer.request < state.next ∧ state.requests.lookup answer.request = none
  cached : ∀ answer ∈ state.journal.answers, answer.source.cached = true → answer.request ∉ state.journal.acquired
  balance : state.load_permits + total held state.requests = config.max_concurrent_requests

section Tracked
variable {from_slice : Bytes → Except String LatestRound} {config : Config} {state state' : State} {id : Nat}
  {cohort : CohortName} {request : Request}

theorem start_tracked (config : Config) (objects : Objects Bytes) : Tracked config (start config objects) where
  begun := every_empty
  early := every_empty
  acquired := fun _ member => by cases member
  answered := fun _ member => by cases member
  cached := fun _ member => by cases member
  balance := Nat.add_zero _

/-- A request that was answered is not the one that goes on. -/
private theorem Tracked.other (tracked : Tracked config state) (found : state.requests.lookup id = some request) :
    ∀ answer ∈ state.journal.answers, answer.request ≠ id := by
  rintro answer member rfl
  rw [(tracked.answered answer member).2] at found
  cases found

theorem Tracked.goes (tracked : Tracked config state) (found : state.requests.lookup id = some request) {phase : Phase}
    (same : phase.holds = request.phase.holds) : Tracked config (state.goes id cohort phase) := by
  refine { tracked with
    begun := tracked.begun.insert (tracked.begun _ _ found)
    early := tracked.early.insert fun early => tracked.early _ _ found (same ▸ early)
    answered := fun answer member => ⟨(tracked.answered answer member).1, ?_⟩
    balance := ?_ }
  · rw [State.goes, AList.lookup_insert_ne (tracked.other found answer member)]
    exact (tracked.answered answer member).2
  · have sum := total_insert held id { cohort, phase } state.requests
    rw [share_eq found, held, held, same] at sum
    have balance := tracked.balance
    simp only [State.goes]
    omega

theorem Tracked.finish_load (tracked : Tracked config state) (found : state.requests.lookup id = some request)
    (leads : request.phase.leads = true) (result : LoadResult) :
    Tracked config (RecommendationServer.finish_load state id cohort result) := by
  have holds : request.phase.holds = true := by
    cases standing : request.phase <;> rw [standing] at leads <;> first | rfl | cases leads
  have after : Tracked config (state.goes id cohort (.Loaded result)) := tracked.goes found holds.symm
  exact { after with }

/-- A handler returns, with its permit if it held one. -/
theorem Tracked.answers_with (tracked : Tracked config state) (found : state.requests.lookup id = some request)
    {named : Option CohortName} {source : Source} {response : Response} {permits : Nat}
    (returned : permits = state.load_permits + held id request) (early : source.cached = true → request.phase.holds = false) :
    Tracked config { state.answers id named source response with load_permits := permits } := by
  refine {
    begun := tracked.begun.erase
    early := tracked.early.erase
    acquired := tracked.acquired
    answered := List.forall_mem_cons.mpr ⟨⟨tracked.begun _ _ found, AList.lookup_erase _ _⟩, fun answer member => ?_⟩
    cached := List.forall_mem_cons.mpr ⟨fun cached => tracked.early _ _ found (early cached), tracked.cached⟩
    balance := ?_ }
  · refine ⟨(tracked.answered answer member).1, ?_⟩
    rw [State.answers, AList.lookup_erase_ne (tracked.other found answer member)]
    exact (tracked.answered answer member).2
  · have sum := total_erase held id state.requests
    rw [share_eq found] at sum
    have balance := tracked.balance
    simp only [State.answers]
    omega

theorem Tracked.acquires (tracked : Tracked config state) (found : state.requests.lookup id = some ⟨cohort, .Acquire⟩)
    (free : state.load_permits ≠ 0) : Tracked config ((state.acquires id).goes id cohort .Join) := by
  refine {
    begun := tracked.begun.insert (tracked.begun _ _ found)
    early := ?_
    acquired := List.forall_mem_cons.mpr ⟨tracked.begun _ _ found, tracked.acquired⟩
    answered := fun answer member => ⟨(tracked.answered answer member).1, ?_⟩
    cached := fun answer member cached acquired => ?_
    balance := ?_ }
  · intro other request there early member
    by_cases here : other = id
    · subst here
      rw [State.goes, AList.lookup_insert] at there
      obtain rfl := Option.some.inj there
      cases early
    · rw [State.goes, AList.lookup_insert_ne here] at there
      rcases List.mem_cons.mp member with same | earlier
      · exact here same
      · exact tracked.early _ _ there early earlier
  · rw [State.goes, AList.lookup_insert_ne (tracked.other found answer member)]
    exact (tracked.answered answer member).2
  · rcases List.mem_cons.mp acquired with same | earlier
    · exact tracked.other found answer member same
    · exact tracked.cached answer member cached earlier
  · have sum := total_insert held id { cohort, phase := .Join } state.requests
    rw [share_eq found] at sum
    have balance := tracked.balance
    simp only [State.goes, State.acquires, held, Phase.holds] at sum ⊢
    simp only [if_true, Bool.false_eq_true, if_false] at sum
    omega

theorem Tracked.resume (tracked : Tracked config state) {phase : Phase}
    (found : state.requests.lookup id = some ⟨cohort, phase⟩)
    (taken : resume state id cohort phase = some state') : Tracked config state' := by
  cases phase with
  | Positive =>
    simp only [RecommendationServer.resume] at taken
    split at taken
    · obtain rfl := Option.some.inj taken
      exact tracked.answers_with found rfl fun _ => rfl
    · obtain rfl := Option.some.inj taken
      exact tracked.goes found rfl
  | Negative =>
    simp only [RecommendationServer.resume] at taken
    split at taken
    · obtain rfl := Option.some.inj taken
      exact tracked.answers_with found rfl fun _ => rfl
    · obtain rfl := Option.some.inj taken
      exact tracked.goes found rfl
  | Acquire =>
    simp only [RecommendationServer.resume] at taken
    split at taken
    · obtain rfl := Option.some.inj taken
      exact tracked.answers_with found rfl fun _ => rfl
    · rename_i free
      obtain rfl := Option.some.inj taken
      exact tracked.acquires found free
  | Join =>
    obtain rfl := Option.some.inj taken
    unfold join
    split
    · exact tracked.goes found rfl
    · split
      · exact tracked.goes found rfl
      · have after : Tracked config (state.goes id cohort .Get) := tracked.goes found rfl
        exact { after with }
  | Waiting leader =>
    simp only [RecommendationServer.resume] at taken
    split at taken
    · obtain rfl := Option.some.inj taken
      exact tracked.goes found rfl
    · split at taken
      · cases taken
      · obtain rfl := Option.some.inj taken
        exact tracked.goes found rfl
  | Get => cases taken
  | Body bytes => cases taken
  | Loaded result =>
    obtain rfl := Option.some.inj taken
    have kept : Tracked config (state.keeps cohort result) ∧ (state.keeps cohort result).requests = state.requests := by
      unfold State.keeps
      split
      · exact ⟨{ tracked with }, rfl⟩
      · exact ⟨{ tracked with }, rfl⟩
      · exact ⟨tracked, rfl⟩
    exact kept.1.goes (kept.2 ▸ found) rfl
  | Kept result =>
    obtain rfl := Option.some.inj taken
    exact tracked.answers_with found rfl fun cached => by cases cached

theorem Tracked.arrives (tracked : Tracked config state) (cohort : CohortName) :
    Tracked config { state.goes state.next cohort .Positive with next := state.next + 1 } := by
  have fresh : state.requests.lookup state.next = none := by
    cases found : state.requests.lookup state.next with
    | none => rfl
    | some request => exact absurd (tracked.begun _ _ found) (lt_irrefl _)
  refine {
    begun := (tracked.begun.mono fun _ _ _ begun => Nat.lt_succ_of_lt begun).insert (Nat.lt_succ_self _)
    early := tracked.early.insert fun _ member => lt_irrefl _ (tracked.acquired _ member)
    acquired := fun id member => Nat.lt_succ_of_lt (tracked.acquired id member)
    answered := fun answer member => ⟨Nat.lt_succ_of_lt (tracked.answered answer member).1, ?_⟩
    cached := tracked.cached
    balance := ?_ }
  · rw [State.goes, AList.lookup_insert_ne (tracked.answered answer member).1.ne]
    exact (tracked.answered answer member).2
  · have sum := total_insert held state.next { cohort, phase := .Positive } state.requests
    rw [share_none fresh] at sum
    have balance := tracked.balance
    simp only [State.goes]
    simp only [held, Phase.holds, Bool.false_eq_true, if_false] at sum
    omega

theorem Tracked.rejects (tracked : Tracked config state) :
    Tracked config { state.answers state.next none .Invalid bad_request with next := state.next + 1 } := by
  have fresh : state.requests.lookup state.next = none := by
    cases found : state.requests.lookup state.next with
    | none => rfl
    | some request => exact absurd (tracked.begun _ _ found) (lt_irrefl _)
  refine {
    begun := (tracked.begun.mono fun _ _ _ begun => Nat.lt_succ_of_lt begun).erase
    early := tracked.early.erase
    acquired := fun id member => Nat.lt_succ_of_lt (tracked.acquired id member)
    answered := List.forall_mem_cons.mpr ⟨⟨Nat.lt_succ_self _, AList.lookup_erase _ _⟩, fun answer member => ?_⟩
    cached := List.forall_mem_cons.mpr ⟨(fun cached => by cases cached), tracked.cached⟩
    balance := ?_ }
  · refine ⟨Nat.lt_succ_of_lt (tracked.answered answer member).1, ?_⟩
    rw [State.answers, AList.lookup_erase_ne (tracked.answered answer member).1.ne]
    exact (tracked.answered answer member).2
  · have sum := total_erase held state.next state.requests
    rw [share_none fresh] at sum
    have balance := tracked.balance
    simp only [State.answers]
    omega

theorem Tracked.cancel (tracked : Tracked config state) (found : state.requests.lookup id = some request) :
    Tracked config (cancel state id request) := by
  refine { tracked with
    begun := tracked.begun.erase
    early := tracked.early.erase
    answered := fun answer member => ⟨(tracked.answered answer member).1, ?_⟩
    balance := ?_ }
  · rw [RecommendationServer.cancel, AList.lookup_erase_ne (tracked.other found answer member)]
    exact (tracked.answered answer member).2
  · have sum := total_erase held id state.requests
    rw [share_eq found, held] at sum
    have balance := tracked.balance
    simp only [RecommendationServer.cancel]
    omega

theorem Tracked.step (tracked : Tracked config state) {action : Action}
    (taken : step from_slice config state action = some state') : Tracked config state' := by
  cases action with
  | Arrive raw_cohort =>
    simp only [RecommendationServer.step] at taken
    split at taken
    · obtain rfl := Option.some.inj taken
      exact tracked.rejects
    · obtain rfl := Option.some.inj taken
      exact tracked.arrives _
  | Resume id =>
    simp only [RecommendationServer.step] at taken
    split at taken
    · rename_i request found
      exact tracked.resume found taken
    · cases taken
  | Reply id failure =>
    simp only [RecommendationServer.step] at taken
    split at taken
    · rename_i cohort found
      obtain rfl := Option.some.inj taken
      have seen : Tracked config (state.observes (latest_path cohort)) := { tracked with }
      simp only [got]
      split
      · exact seen.finish_load found rfl _
      · split
        · exact seen.finish_load found rfl _
        · exact seen.goes found rfl
    · rename_i found
      obtain rfl := Option.some.inj taken
      exact tracked.finish_load found rfl _
    · cases taken
  | Read id failure =>
    simp only [RecommendationServer.step] at taken
    split at taken
    · rename_i found
      obtain rfl := Option.some.inj taken
      exact tracked.finish_load found rfl _
    · rename_i found
      obtain rfl := Option.some.inj taken
      exact tracked.finish_load found rfl _
    · cases taken
  | Elapse id =>
    simp only [RecommendationServer.step] at taken
    split at taken
    · rename_i request found
      split at taken
      · rename_i leads
        obtain rfl := Option.some.inj taken
        exact tracked.finish_load found leads _
      · cases taken
    · cases taken
  | Cancel id =>
    simp only [RecommendationServer.step] at taken
    split at taken
    · rename_i request found
      obtain rfl := Option.some.inj taken
      exact tracked.cancel found
    · cases taken
  | EvictRecommendation cohort =>
    obtain rfl := Option.some.inj taken
    exact { tracked with }
  | EvictNegative cohort =>
    obtain rfl := Option.some.inj taken
    exact { tracked with }
  | EvictLoad cohort =>
    obtain rfl := Option.some.inj taken
    exact { tracked with }
  | Write path bytes =>
    obtain rfl := Option.some.inj taken
    exact { tracked with }
  | Delete path =>
    obtain rfl := Option.some.inj taken
    exact { tracked with }

end Tracked

/-! ### Positive entries -/

section Positive
variable {from_slice : Bytes → Except String LatestRound} {config : Config} {state state' : State} {action : Action}

private theorem resume_recommendations {id : Nat} {cohort : CohortName} {phase : Phase}
    (taken : resume state id cohort phase = some state') : state'.recommendations = state.recommendations ∨
      ∃ cohort ef_search, state'.recommendations = state.recommendations.insert cohort ef_search := by
  cases phase with
  | Positive =>
    simp only [resume] at taken
    split at taken <;> obtain rfl := Option.some.inj taken <;> exact .inl rfl
  | Negative =>
    simp only [resume] at taken
    split at taken <;> obtain rfl := Option.some.inj taken <;> exact .inl rfl
  | Acquire =>
    simp only [resume] at taken
    split at taken <;> obtain rfl := Option.some.inj taken <;> exact .inl rfl
  | Join =>
    obtain rfl := Option.some.inj taken
    unfold join
    repeat' split
    all_goals exact .inl rfl
  | Waiting leader =>
    simp only [resume] at taken
    split at taken
    · obtain rfl := Option.some.inj taken
      exact .inl rfl
    · split at taken
      · cases taken
      · obtain rfl := Option.some.inj taken
        exact .inl rfl
  | Get => cases taken
  | Body bytes => cases taken
  | Loaded result =>
    obtain rfl := Option.some.inj taken
    match result with
    | .ok (.Found ef_search) => exact .inr ⟨cohort, ef_search, rfl⟩
    | .ok (.Negative _) => exact .inl rfl
    | .error _ => exact .inl rfl
  | Kept result =>
    obtain rfl := Option.some.inj taken
    exact .inl rfl

/-- The cache of recommendations is written by its own insertions and evictions only. -/
theorem step_recommendations (taken : step from_slice config state action = some state') :
    state'.recommendations = state.recommendations ∨
    (∃ cohort ef_search, state'.recommendations = state.recommendations.insert cohort ef_search) ∨
    ∃ cohort, action = .EvictRecommendation cohort := by
  cases action with
  | Arrive raw_cohort =>
    simp only [step] at taken
    split at taken <;> obtain rfl := Option.some.inj taken <;> exact .inl rfl
  | Resume id =>
    simp only [step] at taken
    split at taken
    · exact (resume_recommendations taken).imp_right .inl
    · cases taken
  | Reply id failure =>
    simp only [step] at taken
    split at taken
    · obtain rfl := Option.some.inj taken
      simp only [got]
      repeat' split
      all_goals exact .inl rfl
    · obtain rfl := Option.some.inj taken
      exact .inl rfl
    · cases taken
  | Read id failure =>
    simp only [step] at taken
    split at taken
    · obtain rfl := Option.some.inj taken
      exact .inl rfl
    · obtain rfl := Option.some.inj taken
      exact .inl rfl
    · cases taken
  | Elapse id =>
    simp only [step] at taken
    split at taken
    · split at taken
      · obtain rfl := Option.some.inj taken
        exact .inl rfl
      · cases taken
    · cases taken
  | Cancel id =>
    simp only [step] at taken
    split at taken
    · obtain rfl := Option.some.inj taken
      exact .inl rfl
    · cases taken
  | EvictRecommendation cohort => exact .inr (.inr ⟨cohort, rfl⟩)
  | EvictNegative cohort =>
    obtain rfl := Option.some.inj taken
    exact .inl rfl
  | EvictLoad cohort =>
    obtain rfl := Option.some.inj taken
    exact .inl rfl
  | Write path bytes =>
    obtain rfl := Option.some.inj taken
    exact .inl rfl
  | Delete path =>
    obtain rfl := Option.some.inj taken
    exact .inl rfl

/-- No entry of the cache of recommendations expires or is evicted. -/
def KeepsPositive (_ : State) (action : Action) : Prop := ∀ cohort, action ≠ .EvictRecommendation cohort

/-- Whatever else happens, and whatever the negative cache takes in, positive entries stay. -/
theorem positive_stays (reached : Reached (step from_slice config) KeepsPositive state state') {cohort : CohortName}
    (cached : cohort ∈ state.recommendations) : cohort ∈ state'.recommendations := by
  have kept : ∀ earlier action later, Reached (step from_slice config) KeepsPositive state earlier →
      cohort ∈ earlier.recommendations → KeepsPositive earlier action →
      step from_slice config earlier action = some later → cohort ∈ later.recommendations := by
    intro earlier action later _ here keeps taken
    rcases step_recommendations taken with same | ⟨other, ef_search, inserted⟩ | ⟨other, evicts⟩
    · rw [same]
      exact here
    · rw [inserted]
      exact (AList.mem_insert _).mpr (.inr here)
    · exact absurd evicts (keeps other)
  exact reached.invariant cached kept

end Positive

/-! ### What answers mean -/

section Answers
variable {from_slice : Bytes → Except String LatestRound} {config : Config} {objects : Objects Bytes} {state : State}

/-- What a status says of the GETs before the answer. -/
structure Backed (from_slice : Bytes → Except String LatestRound) (answer : Answer) : Prop where
  found : answer.response.status = 200 → ∃ cohort bytes latest ef_search, answer.cohort = some cohort ∧
    answer.response.body = toString ef_search ∧ (latest_path cohort, some bytes) ∈ answer.gets ∧
    Legible from_slice cohort bytes latest ∧ latest.effective = some ⟨ef_search⟩ ∧
    (MIN_EF_SEARCH ≤ ef_search ∧ ef_search ≤ MAX_EF_SEARCH)
  missing : answer.response.status = 404 → ∃ cohort, answer.cohort = some cohort ∧
    ((latest_path cohort, none) ∈ answer.gets ∨ ∃ bytes latest, (latest_path cohort, some bytes) ∈ answer.gets ∧
      Legible from_slice cohort bytes latest ∧ latest.effective = none)
  defective : answer.response.status = 500 → ∃ cohort bytes, answer.cohort = some cohort ∧
    (latest_path cohort, some bytes) ∈ answer.gets ∧ Defective from_slice cohort bytes
  transient : ∀ error, answer.source = .Load (.error error) → answer.response.status = 503

/-- A value that a GET found is served with the status that the GET backs. -/
private theorem backed_of_observed {answer : Answer} {cohort : CohortName} {looked : CachedLookup}
    (named : answer.cohort = some cohort) (response : answer.response = load_response (.ok looked))
    (observed : Observed from_slice answer.gets cohort looked)
    (loaded : ∀ error, answer.source ≠ .Load (.error error)) : Backed from_slice answer := by
  obtain ⟨seen, member, assessed⟩ := observed
  match looked with
  | .Found ef_search =>
    obtain ⟨bytes, latest, rfl, legible, present, range⟩ := assess_found assessed
    refine ⟨fun _ => ⟨cohort, bytes, latest, ef_search, named, by rw [response]; rfl, member, legible, present, range⟩, ?_, ?_,
      fun error same => absurd same (loaded error)⟩
    all_goals
      intro status
      rw [response] at status
      cases status
  | .Negative .Missing =>
    refine ⟨?_, fun _ => ⟨cohort, named, ?_⟩, ?_, fun error same => absurd same (loaded error)⟩
    · intro status
      rw [response] at status
      cases status
    · rcases assess_missing assessed with rfl | ⟨bytes, latest, rfl, legible, absent⟩
      · exact .inl member
      · exact .inr ⟨bytes, latest, member, legible, absent⟩
    · intro status
      rw [response] at status
      cases status
  | .Negative (.Defect defect) =>
    obtain ⟨bytes, rfl, defective⟩ := assess_defect assessed
    refine ⟨?_, ?_, fun _ => ⟨cohort, bytes, named, member, defective⟩, fun error same => absurd same (loaded error)⟩
    all_goals
      intro status
      rw [response] at status
      cases status

private theorem backed_of_status {answer : Answer} (ok : answer.response.status ≠ 200) (missing : answer.response.status ≠ 404)
    (defective : answer.response.status ≠ 500)
    (transient : ∀ error, answer.source = .Load (.error error) → answer.response.status = 503) : Backed from_slice answer :=
  ⟨fun status => absurd status ok, fun status => absurd status missing, fun status => absurd status defective, transient⟩

theorem Justified.backed {answer : Answer} (justified : Justified from_slice answer) : Backed from_slice answer := by
  unfold Justified at justified
  split at justified
  · rename_i source
    exact backed_of_status (by rw [justified]; decide) (by rw [justified]; decide) (by rw [justified]; decide)
      fun error same => by rw [source] at same; cases same
  · rename_i source
    obtain ⟨cohort, ef_search, named, response, observed⟩ := justified
    have loaded : answer.response = load_response (.ok (.Found ef_search)) := response
    exact backed_of_observed named loaded observed fun error same => by rw [source] at same; cases same
  · rename_i source
    obtain ⟨cohort, negative, named, response, observed⟩ := justified
    have loaded : answer.response = load_response (.ok (.Negative negative)) := response
    exact backed_of_observed named loaded observed fun error same => by rw [source] at same; cases same
  · rename_i source
    exact backed_of_status (by rw [justified]; decide) (by rw [justified]; decide) (by rw [justified]; decide)
      fun error same => by rw [source] at same; cases same
  · rename_i result source
    obtain ⟨response, observed⟩ := justified
    cases result with
    | ok looked =>
      obtain ⟨cohort, named, observed⟩ := observed looked rfl
      exact backed_of_observed named response observed fun error same => by rw [source] at same; cases same
    | error error =>
      have unavailable : answer.response.status = 503 := by rw [response]; rfl
      exact backed_of_status (by rw [unavailable]; decide) (by rw [unavailable]; decide) (by rw [unavailable]; decide)
        fun _ _ => unavailable

theorem reached_sound (reached : Reached (step from_slice config) Any (start config objects) state) : Sound from_slice state :=
  reached.invariant (start_sound config objects) fun _ _ _ _ sound _ taken => sound.step taken

theorem reached_tracked (reached : Reached (step from_slice config) Any (start config objects) state) : Tracked config state :=
  reached.invariant (start_tracked config objects) fun _ _ _ _ tracked _ taken => tracked.step taken

end Answers

/-- In every run, answers are backed by GETs that came before them, everything in a cache was
    observed by a GET, cached answers took no permit, and positive entries outlast all negative ones. -/
theorem serves_only_storage (from_slice : Bytes → Except String LatestRound) (config : Config) (objects : Objects Bytes) :
    ∀ state, Reached (step from_slice config) Any (start config objects) state →
      (∀ answer ∈ state.journal.answers, answer.gets <:+ state.journal.gets ∧ Backed from_slice answer ∧
        (answer.source.cached = true → answer.request ∉ state.journal.acquired)) ∧
      Every (fun cohort ef_search => Observed from_slice state.journal.gets cohort (.Found ef_search)) state.recommendations ∧
      Every (fun cohort negative => Observed from_slice state.journal.gets cohort (.Negative negative))
        state.negative_recommendations ∧
      Every (fun cohort looked => Observed from_slice state.journal.gets cohort looked) state.coalesced_loads ∧
      state.load_permits + total held state.requests = config.max_concurrent_requests ∧
      ∀ state', Reached (step from_slice config) KeepsPositive state state' →
        ∀ cohort ∈ state.recommendations, cohort ∈ state'.recommendations := by
  intro state reached
  have sound := reached_sound reached
  have tracked := reached_tracked reached
  refine ⟨fun answer member => ?_, sound.positive, sound.negative, sound.coalesced, tracked.balance,
    fun state' later cohort cached => positive_stays later cached⟩
  obtain ⟨earlier, justified⟩ := sound.answers answer member
  exact ⟨earlier, justified.backed, tracked.cached answer member⟩

/-! ### A run -/

def smallConfig : Config := { max_concurrent_requests := 1, lookup_timeout := ⟨3, 0, by decide, no_nanos⟩ }
def smallRound : LatestRound := { format_version := 1, cohort := "prod", effective := some ⟨20⟩ }
def smallJson : Bytes := utf8 "\x7b\"format_version\":1,\"cohort\":\"prod\",\"effective\":\x7b\"recommended_ef\":20\x7d\x7d"
def small_from_slice (bytes : Bytes) : Except String LatestRound :=
  if bytes = smallJson then .ok smallRound else .error "expected value at line 1 column 1"
def smallObjects : Objects Bytes := [(Path.from_text "calibrations/prod/latest.json", smallJson)]
/-- A miss that loads, a hit, and a missing cohort. -/
def smallRun : List Action :=
  [.Arrive "prod", .Resume 0, .Resume 0, .Resume 0, .Resume 0, .Reply 0 none, .Read 0 none, .Resume 0, .Resume 0,
    .Arrive "prod", .Resume 1,
    .Arrive "shadow", .Resume 2, .Resume 2, .Resume 2, .Resume 2, .Reply 2 none, .Resume 2, .Resume 2]

theorem small_run_backed : ∃ state, Reached (step small_from_slice smallConfig) Any (start smallConfig smallObjects) state ∧
    state.journal.answers.map (·.response) = [negative_response .Missing, ok_response 20, ok_response 20] ∧
    ∀ answer ∈ state.journal.answers, Backed small_from_slice answer := by
  have responses : (run (step small_from_slice smallConfig) (start smallConfig smallObjects) smallRun).map
      (fun state => state.journal.answers.map (·.response)) =
        some [negative_response .Missing, ok_response 20, ok_response 20] := by
    decide +kernel
  obtain ⟨state, ran, responses⟩ := Option.map_eq_some_iff.mp responses
  have reached := run_reaches ran
  refine ⟨state, reached, responses, fun answer member => ?_⟩
  exact ((serves_only_storage small_from_slice smallConfig smallObjects state reached).1 answer member).2.1

end VectorSeam.RecommendationServer
