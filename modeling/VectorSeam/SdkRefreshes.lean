import VectorSeam.SdkRecommendations

/-!
Histories of calls from one thread. The cache remembers, for every cohort whose request
ever returned, the last usable value and when the last such request expires. What a call
returns is then the value that the history promises, unless an exchange ends in an
exception that the client does not handle.
-/

namespace VectorSeam.SdkRefreshes
open VectorSeam.Tables VectorSeam.SdkRecommendations

/-! ### Histories -/

/-- A call with the cache it found. -/
structure Turn where
  call : Call
  before : Cache
  finished : Finished

section Turns
variable (client : RecommendationClient)

def turn (cache : Cache) (call : Call) : Turn := { call, before := cache, finished := ef_search client cache call }

def turns : Cache → List Call → List Turn
  | _, [] => []
  | cache, call :: rest => turn client cache call :: turns (ef_search client cache call).cache rest

end Turns

/-- The usable value that an exchange brings. -/
def answer_value : Exchange → Option Int
  | .Answered status body => if 200 ≤ status ∧ status < 300 then usable_body body else none
  | _ => none
/-- The usable value that was fetched in a turn. -/
def Turn.usable (turn : Turn) : Option Int :=
  if turn.finished.request.isSome then answer_value turn.call.exchange else none

/-- Whether a turn made a request and returned. -/
def Turn.kept (turn : Turn) : Bool := turn.finished.request.isSome && turn.finished.result.isOk

def last_usable (cohort : PyStr) (past : List Turn) : Option Int :=
  (past.filterMap fun turn => if turn.call.cohort = cohort then turn.usable else none).getLast?

/-- The last request for a cohort that returned. -/
def last_kept (cohort : PyStr) (past : List Turn) : Option Turn :=
  (past.filter fun turn => turn.call.cohort = cohort && turn.kept).getLast?

section Snoc
variable {cohort : PyStr} {past : List Turn} {last : Turn}

theorem last_usable_snoc : last_usable cohort (past ++ [last]) =
    ((if last.call.cohort = cohort then last.usable else none).or (last_usable cohort past)) := by
  unfold last_usable
  rw [List.filterMap_append, List.getLast?_append]
  cases found : (if last.call.cohort = cohort then last.usable else none) <;> simp [found]

theorem last_kept_snoc : last_kept cohort (past ++ [last]) =
    if last.call.cohort = cohort ∧ last.kept = true then some last else last_kept cohort past := by
  unfold last_kept
  rw [List.filter_append, List.getLast?_append]
  by_cases here : last.call.cohort = cohort ∧ last.kept = true
  · simp [here]
  · have none : [last].filter (fun turn => turn.call.cohort = cohort && turn.kept) = [] := by
      simpa using here
    rw [none, if_neg here]
    rfl

end Snoc

/-! ### What is promised of a call -/

section Promise
variable (client : RecommendationClient)

/-- The last usable value of a cohort, or the configured default. -/
def promised (cohort : PyStr) (past : List Turn) : Int := (last_usable cohort past).getD client.default_ef_search

/-- How a call may end. -/
def Ends (past : List Turn) (turn : Turn) : Except Raised Int → Prop
  | .ok ef_search => (MIN_EF_SEARCH ≤ ef_search ∧ ef_search ≤ MAX_EF_SEARCH) ∧
      ef_search = promised client turn.call.cohort (past ++ [turn])
  | .error raised => raised = .ValueError turn.call.cohort ∧ turn.finished.request.isSome ∧
      (∃ body, turn.call.exchange = .Answered BAD_REQUEST body) ∧ turn.finished.cache = turn.before

structure Promised (past : List Turn) (turn : Turn) : Prop where
  ends : Ends client past turn turn.finished.result
  /-- A request that returned is the only one of its cohort until it expires. -/
  spaced : turn.finished.request.isSome → ∀ earlier, last_kept turn.call.cohort past = some earlier →
    ¬turn.call.now < earlier.call.now + client.ttl_seconds

/-- A call goes to the server. -/
def Misses (cache : Cache) (call : Call) : Prop :=
  match look (cache.lookup call.cohort) call.now with
  | .Fresh _ => False
  | .Stale _ => True
  | .Missing => full client cache = false

/-- The cohort of a call has a URL, and its exchange ends with no exception other than an `OSError`. -/
def Expected (call : Call) : Prop :=
  encodable call.cohort = true ∧ ∀ exception, call.exchange = .Raised exception → is_os_error exception = true

/-- If a call goes to the server, its exchange ends as the client expects. -/
def Handled (cache : Cache) (call : Call) : Prop := Misses client cache call → Expected call

end Promise

/-! ### What the cache remembers -/

/-- The cache after a history. -/
structure Remembers (client : RecommendationClient) (past : List Turn) (cache : Cache) : Prop where
  entries : ∀ cohort, cache.lookup cohort =
    (last_kept cohort past).map fun turn => (promised client cohort past, turn.call.now + client.ttl_seconds)
  usable : ∀ cohort, last_kept cohort past = none → last_usable cohort past = none
  range : ∀ cohort ef_search, last_usable cohort past = some ef_search → MIN_EF_SEARCH ≤ ef_search ∧ ef_search ≤ MAX_EF_SEARCH

section Step
variable {client : RecommendationClient} {past : List Turn} {cache : Cache} {call : Call}

theorem remembers_empty : Remembers client [] ∅ := by
  refine ⟨fun cohort => ?_, fun cohort _ => rfl, fun cohort ef_search found => ?_⟩
  · rw [AList.lookup_empty]
    rfl
  · cases found

theorem answer_value_range {exchange : Exchange} {value : Int} (found : answer_value exchange = some value) :
    MIN_EF_SEARCH ≤ value ∧ value ≤ MAX_EF_SEARCH := by
  cases exchange with
  | Answered status body =>
    simp only [answer_value] at found
    by_cases success : 200 ≤ status ∧ status < 300
    · rw [if_pos success] at found
      exact usable_body_range found
    · rw [if_neg success] at found
      cases found
  | _ => cases found

theorem request_isSome (client : RecommendationClient) (cohort : PyStr) :
    (request client cohort).isSome = encodable cohort := by
  rw [request, Option.isSome_map, quote_isSome]

/-- How a fetch ends: as the client expects, rejected by the server, or with an exception of another kind. -/
theorem fetch_cases (call : Call) :
    Expected call ∧ fetch call.cohort call.exchange = .ok (answer_value call.exchange) ∨
    Expected call ∧ (∃ body, call.exchange = .Answered BAD_REQUEST body) ∧
      fetch call.cohort call.exchange = .error (.ValueError call.cohort) ∨
    ¬Expected call ∧ (encodable call.cohort = true → answer_value call.exchange = none) ∧
      ∃ raised, fetch call.cohort call.exchange = .error raised ∧ raised ≠ .ValueError call.cohort := by
  obtain ⟨cohort, now, exchange⟩ := call
  have encodes := quote_isSome cohort
  unfold fetch Expected
  cases quoted : quote cohort with
  | none =>
    rw [quoted] at encodes
    refine .inr (.inr ⟨fun expected => ?_, fun encodable => ?_, _, rfl, by simp⟩)
    · exact absurd (encodes.trans expected.1) (by simp)
    · exact absurd (encodes.trans encodable) (by simp)
  | some path =>
    rw [quoted] at encodes
    cases exchange with
    | Answered status body =>
      have expected : encodable cohort = true ∧ ∀ exception, Exchange.Answered status body = .Raised exception →
          is_os_error exception = true := by
        refine ⟨encodes.symm, ?_⟩
        rintro exception same
        cases same
      by_cases success : 200 ≤ status ∧ status < 300
      · exact .inl ⟨expected, by simp only [answer_value, if_pos success]⟩
      · by_cases rejected : status = BAD_REQUEST
        · subst rejected
          exact .inr (.inl ⟨expected, ⟨body, rfl⟩, rfl⟩)
        · exact .inl ⟨expected, by simp only [answer_value, if_neg success, if_neg rejected]⟩
    | Raised exception =>
      simp only [catches_os_errors]
      cases caught : is_os_error exception with
      | true =>
        refine .inl ⟨⟨encodes.symm, ?_⟩, rfl⟩
        rintro other same
        cases same
        exact caught
      | false =>
        refine .inr (.inr ⟨fun expected => ?_, fun _ => rfl, _, rfl, by simp⟩)
        exact absurd ((expected.2 exception rfl).symm.trans caught) (by simp)

/-- What a call does without going to the server, and what it falls back on when it goes there. -/
theorem ef_search_cases (client : RecommendationClient) (cache : Cache) (call : Call) :
    (∃ value expiry, cache.lookup call.cohort = some (value, expiry) ∧ ¬Misses client cache call ∧
      ef_search client cache call = { result := .ok value, cache, request := none }) ∨
    (cache.lookup call.cohort = none ∧ ¬Misses client cache call ∧
      ef_search client cache call = { result := .ok client.default_ef_search, cache, request := none }) ∨
    (Misses client cache call ∧ (∀ value expiry, cache.lookup call.cohort = some (value, expiry) → ¬call.now < expiry) ∧
      ef_search client cache call =
        refresh client cache call (((cache.lookup call.cohort).map Prod.fst).getD client.default_ef_search)) := by
  unfold ef_search Misses
  cases cached : cache.lookup call.cohort with
  | none =>
    by_cases refused : full client cache = true
    · exact .inr (.inl ⟨rfl, by simp [look, refused], by simp only [look, if_pos refused]⟩)
    · refine .inr (.inr ⟨by simpa [look] using refused, ?_, ?_⟩)
      · rintro _ _ found
        cases found
      · simp only [look, if_neg refused]
        rfl
  | some entry =>
    obtain ⟨value, expiry⟩ := entry
    by_cases fresh : call.now < expiry
    · exact .inl ⟨value, expiry, rfl, by simp [look, fresh], by simp only [look, if_pos fresh]⟩
    · refine .inr (.inr ⟨by simp [look, fresh], ?_, by simp only [look, if_neg fresh]; rfl⟩)
      rintro _ _ same
      obtain ⟨_, rfl⟩ := Prod.mk.inj (Option.some.inj same)
      exact fresh

/-- A turn that made no request, or whose request raised, leaves the memory as it is. -/
theorem Remembers.unchanged {last : Turn} (remembers : Remembers client past cache) (notKept : last.kept = false)
    (unusable : last.usable = none) : Remembers client (past ++ [last]) cache := by
  have kept : ∀ cohort, last_kept cohort (past ++ [last]) = last_kept cohort past := by
    intro cohort
    rw [last_kept_snoc, if_neg]
    rintro ⟨_, isKept⟩
    rw [notKept] at isKept
    cases isKept
  have usable : ∀ cohort, last_usable cohort (past ++ [last]) = last_usable cohort past := by
    intro cohort
    rw [last_usable_snoc, unusable, ite_self, Option.none_or]
  refine ⟨fun cohort => ?_, fun cohort none => ?_, fun cohort value found => ?_⟩
  · rw [remembers.entries cohort, kept cohort, promised, promised, usable cohort]
  · rw [kept] at none
    rw [usable, remembers.usable cohort none]
  · rw [usable] at found
    exact remembers.range cohort value found

/-- A turn whose request returned is remembered. -/
theorem Remembers.renewed {last : Turn} (remembers : Remembers client past cache) (kept : last.kept = true)
    (stored : last.finished.cache = cache.insert last.call.cohort
      (promised client last.call.cohort (past ++ [last]), last.call.now + client.ttl_seconds)) :
    Remembers client (past ++ [last]) last.finished.cache := by
  refine ⟨fun cohort => ?_, fun cohort none => ?_, fun cohort value found => ?_⟩
  · rw [stored, last_kept_snoc]
    by_cases here : last.call.cohort = cohort
    · subst here
      rw [AList.lookup_insert, if_pos ⟨rfl, kept⟩]
      rfl
    · rw [AList.lookup_insert_ne (Ne.symm here), if_neg fun both => here both.1, remembers.entries cohort, promised, promised,
        last_usable_snoc, if_neg here, Option.none_or]
  · rw [last_kept_snoc] at none
    have elsewhere : last.call.cohort ≠ cohort := fun here => by
      rw [if_pos ⟨here, kept⟩] at none
      cases none
    rw [if_neg fun both => elsewhere both.1] at none
    rw [last_usable_snoc, if_neg elsewhere, Option.none_or, remembers.usable cohort none]
  · rw [last_usable_snoc] at found
    rcases Option.or_eq_some_iff.mp found with fetched | ⟨_, earlier⟩
    · split at fetched
      · unfold Turn.usable at fetched
        split at fetched
        · exact answer_value_range fetched
        · cases fetched
      · cases fetched
    · exact remembers.range cohort value earlier

/-- The value that a call falls back on is the one promised before it. -/
theorem Remembers.fallback (remembers : Remembers client past cache) (cohort : PyStr) :
    ((cache.lookup cohort).map Prod.fst).getD client.default_ef_search = promised client cohort past := by
  rw [remembers.entries cohort]
  cases kept : last_kept cohort past with
  | none =>
    rw [promised, remembers.usable cohort kept]
    rfl
  | some earlier => rfl

theorem Remembers.promised_range (remembers : Remembers client past cache)
    (default : MIN_EF_SEARCH ≤ client.default_ef_search ∧ client.default_ef_search ≤ MAX_EF_SEARCH) (cohort : PyStr) :
    MIN_EF_SEARCH ≤ promised client cohort past ∧ promised client cohort past ≤ MAX_EF_SEARCH := by
  unfold promised
  cases found : last_usable cohort past with
  | none => exact default
  | some value => exact remembers.range cohort value found

/-- A call that makes no request serves what is promised, and changes nothing. -/
private theorem served {value : Int} (remembers : Remembers client past cache)
    (default : MIN_EF_SEARCH ≤ client.default_ef_search ∧ client.default_ef_search ≤ MAX_EF_SEARCH)
    (same : value = promised client call.cohort past)
    (ended : ef_search client cache call = { result := .ok value, cache, request := none }) :
    Promised client past (turn client cache call) ∧
      Remembers client (past ++ [turn client cache call]) (ef_search client cache call).cache := by
  have unusable : (turn client cache call).usable = none := by simp [Turn.usable, turn, ended]
  have notKept : (turn client cache call).kept = false := by simp [Turn.kept, turn, ended]
  have after := remembers.unchanged notKept unusable
  have still : promised client call.cohort (past ++ [turn client cache call]) = promised client call.cohort past := by
    rw [promised, last_usable_snoc, unusable, ite_self, Option.none_or, promised]
  refine ⟨⟨?_, ?_⟩, by rw [ended]; exact after⟩
  · simp only [turn, ended, Ends]
    rw [← ended]
    exact ⟨same ▸ remembers.promised_range default call.cohort, same.trans still.symm⟩
  · intro requested
    simp [turn, ended] at requested

/-- A turn that goes to the server is as promised exactly if the client expects how it ends; the memory is kept anyway. -/
private theorem refreshed (remembers : Remembers client past cache)
    (default : MIN_EF_SEARCH ≤ client.default_ef_search ∧ client.default_ef_search ≤ MAX_EF_SEARCH)
    (expired : ∀ value expiry, cache.lookup call.cohort = some (value, expiry) → ¬call.now < expiry)
    (ended : ef_search client cache call = refresh client cache call (promised client call.cohort past)) :
    (Promised client past (turn client cache call) ↔ Expected call) ∧
      Remembers client (past ++ [turn client cache call]) (ef_search client cache call).cache := by
  have spaced : ∀ earlier, last_kept call.cohort past = some earlier →
      ¬call.now < earlier.call.now + client.ttl_seconds := by
    intro earlier kept
    exact expired _ _ (by rw [remembers.entries, kept]; rfl)
  rcases fetch_cases call with ⟨expected, fetched⟩ | ⟨expected, rejected, fetched⟩ |
    ⟨unexpected, unanswered, raised, fetched, other⟩
  · have requested := (request_isSome client call.cohort).trans expected.1
    have finished : ef_search client cache call =
        { result := .ok ((answer_value call.exchange).getD (promised client call.cohort past))
          cache := cache.insert call.cohort (renewed client (promised client call.cohort past) call.now (answer_value call.exchange))
          request := request client call.cohort } := by
      rw [ended, refresh, fetched]
      rfl
    have value : (answer_value call.exchange).getD (promised client call.cohort past) =
        promised client call.cohort (past ++ [turn client cache call]) := by
      rw [promised, promised, last_usable_snoc, if_pos (show (turn client cache call).call.cohort = call.cohort from rfl),
        Turn.usable]
      simp only [turn, finished, requested, if_true]
      cases answer_value call.exchange <;> rfl
    have kept : (turn client cache call).kept = true := by
      simp [Turn.kept, turn, finished, requested, Except.isOk, Except.toBool]
    have after : Remembers client (past ++ [turn client cache call]) (turn client cache call).finished.cache := by
      refine remembers.renewed kept ?_
      rw [← show (turn client cache call).call.cohort = call.cohort from rfl] at value
      rw [← value]
      simp only [turn, finished]
      rfl
    refine ⟨⟨fun _ => expected, fun _ => ⟨?_, fun _ => spaced⟩⟩, after⟩
    have range := after.promised_range default call.cohort
    rw [← value] at range
    have result : (turn client cache call).finished.result =
        .ok ((answer_value call.exchange).getD (promised client call.cohort past)) := by rw [turn, finished]
    rw [result]
    exact ⟨range, value⟩
  · have requested := (request_isSome client call.cohort).trans expected.1
    have finished : ef_search client cache call =
        { result := .error (.ValueError call.cohort), cache, request := request client call.cohort } := by
      rw [ended, refresh, fetched]
    obtain ⟨body, answered⟩ := rejected
    have unusable : (turn client cache call).usable = none := by
      simp only [Turn.usable, turn, answered]
      split
      · rfl
      · rfl
    have notKept : (turn client cache call).kept = false := by
      simp [Turn.kept, turn, finished, Except.isOk, Except.toBool]
    have after := remembers.unchanged notKept unusable
    refine ⟨⟨fun _ => expected, fun _ => ⟨?_, fun _ => spaced⟩⟩, by rw [finished]; exact after⟩
    have result : (turn client cache call).finished = { result := .error (.ValueError call.cohort), cache, request := request client call.cohort } :=
      finished
    rw [result]
    exact ⟨rfl, by rw [result]; exact requested, ⟨body, answered⟩, by rw [result]; rfl⟩
  · have finished : ef_search client cache call = { result := .error raised, cache, request := request client call.cohort } := by
      rw [ended, refresh, fetched]
    have unusable : (turn client cache call).usable = none := by
      unfold Turn.usable
      split
      · rename_i requested
        rw [turn, finished] at requested
        rw [request_isSome] at requested
        exact unanswered requested
      · rfl
    have notKept : (turn client cache call).kept = false := by
      simp [Turn.kept, turn, finished, Except.isOk, Except.toBool]
    have after := remembers.unchanged notKept unusable
    refine ⟨⟨fun promise => ?_, fun expected => absurd expected unexpected⟩, by rw [finished]; exact after⟩
    have ends := promise.ends
    have result : (turn client cache call).finished.result = .error raised := by rw [turn, finished]
    rw [result] at ends
    exact absurd ends.1 other

/-- One call: it is as promised exactly if it is handled, and the memory is kept in any case. -/
theorem turn_promised_iff (remembers : Remembers client past cache)
    (default : MIN_EF_SEARCH ≤ client.default_ef_search ∧ client.default_ef_search ≤ MAX_EF_SEARCH) (call : Call) :
    (Promised client past (turn client cache call) ↔ Handled client cache call) ∧
      Remembers client (past ++ [turn client cache call]) (ef_search client cache call).cache := by
  have fallback := remembers.fallback call.cohort
  rcases ef_search_cases client cache call with ⟨value, expiry, cached, hit, ended⟩ | ⟨cached, hit, ended⟩ |
    ⟨miss, expired, ended⟩
  · rw [cached] at fallback
    obtain ⟨promise, after⟩ := served remembers default fallback ended
    exact ⟨⟨fun _ miss => absurd miss hit, fun _ => promise⟩, after⟩
  · rw [cached] at fallback
    obtain ⟨promise, after⟩ := served remembers default fallback ended
    exact ⟨⟨fun _ miss => absurd miss hit, fun _ => promise⟩, after⟩
  · rw [fallback] at ended
    obtain ⟨promise, after⟩ := refreshed remembers default expired ended
    exact ⟨promise.trans ⟨fun expected _ => expected, fun handled => handled miss⟩, after⟩

end Step

/-! ### Whole histories -/

/-- Every turn of a history, with the turns before it. -/
def Throughout (client : RecommendationClient) (cache : Cache) (history : List Call)
    (holds : List Turn → Turn → Prop) : Prop :=
  ∀ past turn future, turns client cache history = past ++ turn :: future → holds past turn

/-- A turn of a history is a call made on a cache that remembers the turns before it. -/
theorem turns_remember {client : RecommendationClient}
    (default : MIN_EF_SEARCH ≤ client.default_ef_search ∧ client.default_ef_search ≤ MAX_EF_SEARCH) {done : List Turn}
    {cache : Cache} {history : List Call} (remembers : Remembers client done cache) {past future : List Turn} {here : Turn}
    (split : turns client cache history = past ++ here :: future) :
    here = turn client here.before here.call ∧ Remembers client (done ++ past) here.before := by
  induction history generalizing done cache past with
  | nil => simp [turns] at split
  | cons call rest inductionHypothesis =>
    cases past with
    | nil =>
      obtain ⟨rfl, _⟩ := List.cons.inj split
      exact ⟨rfl, by rw [List.append_nil]; exact remembers⟩
    | cons first past =>
      obtain ⟨rfl, later⟩ := List.cons.inj split
      have step := inductionHypothesis (turn_promised_iff remembers default call).2 later
      rw [List.append_assoc] at step
      exact step

theorem turns_calls (client : RecommendationClient) (cache : Cache) (history : List Call) :
    (turns client cache history).map (·.call) = history := by
  induction history generalizing cache with
  | nil => rfl
  | cons call rest inductionHypothesis => exact congrArg (call :: ·) (inductionHypothesis _)

/-- Exchanges that the client expects are handled wherever they come. -/
theorem handled_throughout {client : RecommendationClient} {history : List Call}
    (expected : ∀ call ∈ history, Expected call) :
    Throughout client ∅ history fun _ turn => Handled client turn.before turn.call := by
  intro past here future split _
  refine expected here.call ?_
  rw [← turns_calls client ∅ history, split]
  simp

/-- Every call of a history returns what the history promises, or raises because the server
    rejected the cohort, exactly if every call that goes to the server ends as the client expects. -/
theorem history_promised_iff (host : String) (port default_ef_search : Int) (ttl_seconds timeout_seconds : Float)
    (max_cohorts : Int) (client : RecommendationClient)
    (made : new host port default_ef_search ttl_seconds timeout_seconds max_cohorts = .ok client) (history : List Call) :
    Throughout client ∅ history (Promised client) ↔
      Throughout client ∅ history fun _ turn => Handled client turn.before turn.call := by
  have default := (new_ok made).1
  constructor
  · intro promised past here future split
    obtain ⟨same, remembers⟩ := turns_remember default remembers_empty split
    have promise := promised past here future split
    rw [same] at promise
    exact (turn_promised_iff remembers default here.call).1.mp promise
  · intro handled past here future split
    obtain ⟨same, remembers⟩ := turns_remember default remembers_empty split
    rw [same]
    exact (turn_promised_iff remembers default here.call).1.mpr (handled past here future split)

/-- A connection that is closed without an answer counts as a failed refresh, although it is an `HTTPException` too. -/
theorem failed_refresh_serves_last_value : ∃ client, new "127.0.0.1" 7738 100 60.0 1.0 10000 = .ok client ∧
    Throughout client ∅ [⟨[97], 0.0, .Answered 200 "60".toUTF8.data.toList⟩, ⟨[97], 61.0, .Answered 503 []⟩,
      ⟨[97], 122.0, .Raised .RemoteDisconnected⟩] (Promised client) := by
  refine ⟨_, rfl, (history_promised_iff "127.0.0.1" 7738 100 60.0 1.0 10000 _ rfl _).mpr (handled_throughout ?_)⟩
  intro call member
  simp only [List.mem_cons, List.not_mem_nil, or_false] at member
  rcases member with rfl | rfl | rfl
  · exact ⟨by decide, fun exception same => by cases same⟩
  · exact ⟨by decide, fun exception same => by cases same⟩
  · exact ⟨by decide, fun exception same => by cases same; decide⟩

/-- A malformed status line reaches the caller as an exception of its own. -/
theorem malformed_answer_escapes : ∃ client, new "127.0.0.1" 7738 100 60.0 1.0 10000 = .ok client ∧
    ¬Throughout client ∅ [⟨[97], 0.0, .Raised .BadStatusLine⟩] (Promised client) := by
  refine ⟨_, rfl, fun promised => ?_⟩
  have ends := (promised [] _ [] rfl).ends
  have raised := ends.1
  cases raised

end VectorSeam.SdkRefreshes
