import Mathlib

/-!
The adaptive sampler of the SDK. Its state is advanced only when a cohort is called, over
all buckets that have passed; `folded` says what folding the buckets one by one gives.
Times and rates are rational numbers, the random draw of a call is its parameter.
-/

namespace VectorSeam.AdaptiveSampling

def RATE_BUCKET_SECONDS : ℚ := 5
def RATE_EWMA_ALPHA : ℚ := 1 / 2
def MAX_IDLE_ZERO_UPDATES : Int := 10

structure CohortState where
  bucket_start : ℚ
  bucket_count : Nat
  rate_estimate : ℚ
  probability : ℚ

def CohortState.new (bucket_start : ℚ) : CohortState :=
  { bucket_start, bucket_count := 0, rate_estimate := 0, probability := 1 }

def updated_rate_estimate (estimate bucket_rate : ℚ) : ℚ :=
  RATE_EWMA_ALPHA * bucket_rate + (1 - RATE_EWMA_ALPHA) * estimate

def probability_for_rate (target_samples_per_second rate_estimate : ℚ) : ℚ :=
  if rate_estimate ≤ target_samples_per_second then 1 else target_samples_per_second / rate_estimate

def roll_over_if_needed (target_samples_per_second : ℚ) (state : CohortState) (now : ℚ) : CohortState :=
  let elapsed_buckets := ⌊(now - state.bucket_start) / RATE_BUCKET_SECONDS⌋
  if elapsed_buckets ≤ 0 then state
  else
    let bucket_rate := state.bucket_count / RATE_BUCKET_SECONDS
    let folded_rate := updated_rate_estimate state.rate_estimate bucket_rate
    let empty_buckets := elapsed_buckets - 1
    let rate_estimate :=
      if MAX_IDLE_ZERO_UPDATES < empty_buckets then 0
      else (fun estimate => updated_rate_estimate estimate 0)^[empty_buckets.toNat] folded_rate
    { bucket_start := state.bucket_start + elapsed_buckets * RATE_BUCKET_SECONDS
      bucket_count := 0
      rate_estimate
      probability := probability_for_rate target_samples_per_second rate_estimate }

/-- What a call makes of the state of its cohort. -/
def visited (target_samples_per_second : ℚ) (state : Option CohortState) (now : ℚ) : CohortState :=
  let state := roll_over_if_needed target_samples_per_second (state.getD (.new now)) now
  { state with bucket_count := state.bucket_count + 1 }

abbrev Cohorts := String → Option CohortState

/-- The critical section of a call: the new states, the probability used and the decision. -/
def should_sample (target_samples_per_second : ℚ) (cohorts : Cohorts) (name : String) (now draw : ℚ) :
    Cohorts × ℚ × Bool :=
  let state := visited target_samples_per_second (cohorts name) now
  (Function.update cohorts name (some state), state.probability, state.probability = 1 ∨ draw < state.probability)

/-- One call of `should_sample`, with the reading of the clock and the draw. -/
structure Call where
  name : String
  now : ℚ
  draw : ℚ

/-- The states after calls from any threads, in the order of their critical sections. -/
def states (target_samples_per_second : ℚ) (calls : List Call) : Cohorts :=
  calls.foldl (fun cohorts call => (should_sample target_samples_per_second cohorts call.name call.now call.draw).1)
    fun _ => none

/-- The probability used for a call that comes after others. -/
def probability_used (target_samples_per_second : ℚ) (before : List Call) (call : Call) : ℚ :=
  (should_sample target_samples_per_second (states target_samples_per_second before) call.name call.now call.draw).2.1

/-! ### Folding bucket by bucket -/

section Folding
variable (counts : Nat → Nat)

/-- The estimate after so many buckets, and the number of empty ones at the end. -/
def folded : Nat → ℚ × Nat
  | 0 => (0, 0)
  | bucket + 1 =>
    let (estimate, empty) := folded bucket
    if counts bucket = 0 then (if 10 < empty + 1 then 0 else estimate / 2, empty + 1)
    else ((counts bucket / 5 + estimate) / 2, 0)

/-- The moving average without the shortcut. -/
def ewma : Nat → ℚ
  | 0 => 0
  | bucket + 1 => (counts bucket / 5 + ewma bucket) / 2

variable {counts}

theorem folded_zero : folded counts 0 = (0, 0) := rfl
theorem folded_succ (bucket : Nat) : folded counts (bucket + 1) =
    if counts bucket = 0 then
      (if 10 < (folded counts bucket).2 + 1 then 0 else (folded counts bucket).1 / 2, (folded counts bucket).2 + 1)
    else ((counts bucket / 5 + (folded counts bucket).1) / 2, 0) := rfl

theorem ewma_succ (bucket : Nat) : ewma counts (bucket + 1) = (counts bucket / 5 + ewma counts bucket) / 2 := rfl

theorem folded_congr {others : Nat → Nat} {buckets : Nat} (same : ∀ bucket < buckets, counts bucket = others bucket) :
    folded counts buckets = folded others buckets := by
  induction buckets with
  | zero => rfl
  | succ bucket ih =>
    rw [folded_succ, folded_succ, ih fun earlier less => same earlier (by omega), same bucket (by omega)]

theorem folded_nonneg (buckets : Nat) : 0 ≤ (folded counts buckets).1 := by
  induction buckets with
  | zero => exact le_rfl
  | succ bucket ih =>
    rw [folded_succ]
    by_cases empty : counts bucket = 0
    · simp only [empty, ↓reduceIte]
      by_cases idle : 10 < (folded counts bucket).2 + 1
      · rw [if_pos idle]
      · rw [if_neg idle]
        positivity
    · simp only [empty, ↓reduceIte]
      positivity

theorem folded_le_ewma (buckets : Nat) : (folded counts buckets).1 ≤ ewma counts buckets := by
  induction buckets with
  | zero => exact le_rfl
  | succ bucket ih =>
    have nonneg : 0 ≤ (folded counts bucket).1 := folded_nonneg bucket
    rw [folded_succ, ewma_succ]
    by_cases empty : counts bucket = 0
    · simp only [empty, ↓reduceIte]
      by_cases idle : 10 < (folded counts bucket).2 + 1
      · rw [if_pos idle]
        simp only [Nat.cast_zero]
        linarith
      · rw [if_neg idle]
        simp only [Nat.cast_zero]
        linarith
    · simp only [empty, ↓reduceIte]
      linarith

/-- Empty buckets halve the moving average. -/
theorem ewma_idle {largest : ℚ} {buckets : Nat} (bound : ∀ bucket ≤ buckets, ewma counts bucket ≤ largest) :
    ewma counts buckets ≤ largest / 2 ^ (folded counts buckets).2 := by
  induction buckets with
  | zero => simpa [folded_zero] using bound 0 le_rfl
  | succ bucket ih =>
    have before := ih fun earlier less => bound earlier (by omega)
    have now := bound (bucket + 1) le_rfl
    rw [folded_succ]
    by_cases empty : counts bucket = 0
    · simp only [empty, ↓reduceIte]
      rw [ewma_succ, empty, pow_succ, ← div_div]
      simp only [Nat.cast_zero]
      linarith
    · simp only [empty, ↓reduceIte]
      simpa using now

theorem ewma_shortfall {largest : ℚ} {buckets : Nat} (bound : ∀ bucket ≤ buckets, ewma counts bucket ≤ largest) :
    ewma counts buckets - (folded counts buckets).1 ≤ largest / 2 ^ 11 := by
  have positive : 0 ≤ largest := bound 0 (Nat.zero_le _)
  induction buckets with
  | zero =>
    rw [folded_zero, ewma, sub_zero]
    positivity
  | succ bucket ih =>
    have before := ih fun earlier less => bound earlier (by omega)
    by_cases empty : counts bucket = 0
    · by_cases idle : 10 < (folded counts bucket).2 + 1
      · -- The estimate is reset: by now the moving average itself is small.
        have small := ewma_idle bound
        simp only [folded_succ, empty, ↓reduceIte, idle] at small ⊢
        have many : (2 : ℚ) ^ 11 ≤ 2 ^ ((folded counts bucket).2 + 1) := pow_le_pow_right₀ (by norm_num) (by omega)
        have less : largest / 2 ^ ((folded counts bucket).2 + 1) ≤ largest / 2 ^ 11 :=
          div_le_div_of_nonneg_left positive (by positivity) many
        linarith
      · simp only [folded_succ, ewma_succ, empty, ↓reduceIte, idle, Nat.cast_zero]
        have room : 0 ≤ largest / 2 ^ 11 := by positivity
        linarith
    · simp only [folded_succ, ewma_succ, empty, ↓reduceIte]
      have room : 0 ≤ largest / 2 ^ 11 := by positivity
      linarith

/-- Empty buckets behind one with calls, all at once. -/
theorem folded_idle {bucket empty : Nat} {estimate : ℚ} (start : folded counts bucket = (estimate, 0))
    (idle : ∀ later < empty, counts (bucket + later) = 0) : folded counts (bucket + empty) =
      (if 10 < empty then 0 else (fun estimate => updated_rate_estimate estimate 0)^[empty] estimate, empty) := by
  induction empty with
  | zero => simpa using start
  | succ empty ih =>
    rw [Nat.add_succ, folded_succ, ih fun later less => idle later (by omega), idle empty (by omega)]
    simp only [↓reduceIte, Function.iterate_succ_apply', Prod.mk.injEq, and_true]
    by_cases many : 10 < empty + 1
    · rw [if_pos many, if_pos many]
    · rw [if_neg many, if_neg many, if_neg (by omega), updated_rate_estimate, RATE_EWMA_ALPHA]
      ring

end Folding

theorem probability_for_rate_eq {target rate : ℚ} (positive : 0 < target) (nonneg : 0 ≤ rate) :
    probability_for_rate target rate = if rate = 0 then 1 else min 1 (target / rate) := by
  unfold probability_for_rate
  by_cases none : rate = 0
  · rw [if_pos none, if_pos (by rw [none]; exact positive.le)]
  · have more : 0 < rate := lt_of_le_of_ne nonneg (Ne.symm none)
    rw [if_neg none]
    by_cases low : rate ≤ target
    · rw [if_pos low, min_eq_left ((one_le_div more).mpr low)]
    · rw [if_neg low, min_eq_right ((div_le_one more).mpr (not_le.mp low).le)]

theorem probability_for_rate_bounds {target rate : ℚ} (positive : 0 < target) (nonneg : 0 ≤ rate) :
    0 < probability_for_rate target rate ∧ probability_for_rate target rate ≤ 1 := by
  rw [probability_for_rate_eq positive nonneg]
  by_cases none : rate = 0
  · rw [if_pos none]
    exact ⟨one_pos, le_rfl⟩
  · have more : 0 < rate := lt_of_le_of_ne nonneg (Ne.symm none)
    rw [if_neg none]
    exact ⟨lt_min one_pos (div_pos positive more), min_le_left _ _⟩

/-! ### One cohort -/

/-- The bucket of a time, counted from that of the first call. -/
def bucket (first time : ℚ) : Nat := ⌊(time - first) / RATE_BUCKET_SECONDS⌋.toNat

/-- How many of the times fall into a bucket. -/
def calls_in (first : ℚ) (times : List ℚ) (index : Nat) : Nat := times.countP fun time => bucket first time = index

theorem bucket_mono {first earlier later : ℚ} (le : earlier ≤ later) : bucket first earlier ≤ bucket first later := by
  refine Int.toNat_le_toNat (Int.floor_le_floor ?_)
  rw [RATE_BUCKET_SECONDS]
  linarith

/-- A time lies in its bucket. -/
theorem bucket_bounds {first time : ℚ} (le : first ≤ time) :
    first + bucket first time * RATE_BUCKET_SECONDS ≤ time ∧
      time < first + (bucket first time + 1) * RATE_BUCKET_SECONDS := by
  have nonneg : 0 ≤ ⌊(time - first) / RATE_BUCKET_SECONDS⌋ := Int.floor_nonneg.mpr (by rw [RATE_BUCKET_SECONDS]; linarith)
  have whole : ((bucket first time : Nat) : ℚ) = ⌊(time - first) / RATE_BUCKET_SECONDS⌋ := by
    rw [bucket, ← Int.cast_natCast, Int.toNat_of_nonneg nonneg]
  have below := Int.floor_le ((time - first) / RATE_BUCKET_SECONDS)
  have above := Int.lt_floor_add_one ((time - first) / RATE_BUCKET_SECONDS)
  rw [whole, RATE_BUCKET_SECONDS] at *
  constructor <;> linarith

/-- The elapsed buckets lie between the bucket of the last call and that of this one. -/
theorem elapsed_buckets {first now : ℚ} {last : Nat} (le : first ≤ now) :
    ⌊(now - (first + last * RATE_BUCKET_SECONDS)) / RATE_BUCKET_SECONDS⌋ = (bucket first now : Int) - last := by
  have nonneg : 0 ≤ ⌊(now - first) / RATE_BUCKET_SECONDS⌋ := Int.floor_nonneg.mpr (by rw [RATE_BUCKET_SECONDS]; linarith)
  have shifted : (now - (first + last * RATE_BUCKET_SECONDS)) / RATE_BUCKET_SECONDS =
      (now - first) / RATE_BUCKET_SECONDS - (last : Int) := by
    rw [RATE_BUCKET_SECONDS, Int.cast_natCast]
    ring
  rw [shifted, Int.floor_sub_intCast, bucket, Int.toNat_of_nonneg nonneg]

/-- The probability after so many folded buckets. -/
def specified (target_samples_per_second : ℚ) (counts : Nat → Nat) (buckets : Nat) : ℚ :=
  if buckets = 0 then 1 else probability_for_rate target_samples_per_second (folded counts buckets).1

/-- The state says where the buckets of the cohort stand after its calls. -/
structure Tracks (target_samples_per_second first : ℚ) (times : List ℚ) (latest : Nat) (state : CohortState) : Prop where
  bucket_start : state.bucket_start = first + latest * RATE_BUCKET_SECONDS
  bucket_count : state.bucket_count = calls_in first times latest
  rate_estimate : state.rate_estimate = (folded (calls_in first times) latest).1
  probability : state.probability = specified target_samples_per_second (calls_in first times) latest
  reached : ∀ time ∈ times, bucket first time ≤ latest
  called : 0 < calls_in first times latest

theorem calls_in_snoc (first now : ℚ) (times : List ℚ) (index : Nat) : calls_in first (times ++ [now]) index =
    calls_in first times index + if bucket first now = index then 1 else 0 := by
  simp [calls_in, List.countP_append, List.countP_singleton]

variable {target first now : ℚ} {times : List ℚ}

theorem tracks_first (target first : ℚ) : Tracks target first [first] 0 (visited target none first) := by
  have start : bucket first first = 0 := by simp [bucket]
  have same : visited target none first = { CohortState.new first with bucket_count := 1 } := by
    simp [visited, roll_over_if_needed, CohortState.new]
  rw [same]
  have one : calls_in first [first] 0 = 1 := by simp [calls_in, start]
  exact ⟨by simp [CohortState.new], one.symm, rfl, rfl, by simp [start], by rw [one]; exact one_pos⟩

theorem Tracks.next {latest : Nat} {state : CohortState} (tracks : Tracks target first times latest state)
    (le : first ≤ now) (ordered : latest ≤ bucket first now) :
    Tracks target first (times ++ [now]) (bucket first now) (visited target (some state) now) := by
  have earlier : ∀ index < bucket first now, calls_in first (times ++ [now]) index = calls_in first times index := by
    intro index less
    rw [calls_in_snoc, if_neg (by omega), Nat.add_zero]
  have reached : ∀ time ∈ times ++ [now], bucket first time ≤ bucket first now := by
    intro time member
    rcases List.mem_append.mp member with old | new
    · exact (tracks.reached time old).trans ordered
    · exact (congrArg (bucket first) (List.mem_singleton.mp new)).le
  have here : calls_in first (times ++ [now]) (bucket first now) = calls_in first times (bucket first now) + 1 := by
    rw [calls_in_snoc, if_pos rfl]
  have passed : ⌊(now - (first + latest * RATE_BUCKET_SECONDS)) / RATE_BUCKET_SECONDS⌋ = (bucket first now : Int) - latest :=
    elapsed_buckets le
  rw [← tracks.bucket_start] at passed
  by_cases stays : bucket first now = latest
  · have same : roll_over_if_needed target state now = state := by
      rw [roll_over_if_needed, if_pos (by rw [passed]; omega)]
    subst stays
    have counts : folded (calls_in first (times ++ [now])) (bucket first now) =
        folded (calls_in first times) (bucket first now) := folded_congr earlier
    refine ⟨?_, ?_, ?_, ?_, reached, by omega⟩
    · simp only [visited, Option.getD_some, same]
      exact tracks.bucket_start
    · simp only [visited, Option.getD_some, same]
      rw [here, tracks.bucket_count]
    · simp only [visited, Option.getD_some, same]
      rw [counts, tracks.rate_estimate]
    · simp only [visited, Option.getD_some, same]
      rw [specified, counts, tracks.probability, specified]
  · have later : latest < bucket first now := by omega
    obtain ⟨empty, split⟩ : ∃ empty, bucket first now = latest + 1 + empty := ⟨bucket first now - (latest + 1), by omega⟩
    have idle : ∀ index < empty, calls_in first times (latest + 1 + index) = 0 := by
      intro index less
      refine List.countP_eq_zero.mpr fun time member => ?_
      have before := tracks.reached time member
      simp only [decide_eq_true_eq]
      omega
    have start : folded (calls_in first times) (latest + 1) =
        (updated_rate_estimate state.rate_estimate (state.bucket_count / RATE_BUCKET_SECONDS), 0) := by
      rw [folded_succ, tracks.rate_estimate, tracks.bucket_count, updated_rate_estimate, RATE_EWMA_ALPHA,
        RATE_BUCKET_SECONDS]
      simp only [Nat.pos_iff_ne_zero.mp tracks.called, ↓reduceIte, Prod.mk.injEq, and_true]
      ring
    have rate : (folded (calls_in first (times ++ [now])) (bucket first now)).1 =
        if 10 < empty then 0 else (fun estimate => updated_rate_estimate estimate 0)^[empty]
          (updated_rate_estimate state.rate_estimate (state.bucket_count / RATE_BUCKET_SECONDS)) := by
      rw [folded_congr earlier, split, folded_idle start idle]
    have elapsed : ⌊(now - state.bucket_start) / RATE_BUCKET_SECONDS⌋ = (empty + 1 : Nat) := by
      rw [passed, split]
      omega
    have rolled : roll_over_if_needed target state now =
        { bucket_start := state.bucket_start + ((empty + 1 : Nat) : Int) * RATE_BUCKET_SECONDS
          bucket_count := 0
          rate_estimate := (folded (calls_in first (times ++ [now])) (bucket first now)).1
          probability :=
            probability_for_rate target (folded (calls_in first (times ++ [now])) (bucket first now)).1 } := by
      have count : (((empty + 1 : Nat) : Int) - 1).toNat = empty := by omega
      have many : MAX_IDLE_ZERO_UPDATES < ((empty + 1 : Nat) : Int) - 1 ↔ 10 < empty := by
        rw [MAX_IDLE_ZERO_UPDATES]
        omega
      rw [roll_over_if_needed, elapsed, if_neg (by omega), rate]
      simp only [count, many]
    have called : calls_in first times (bucket first now) = 0 := by
      refine List.countP_eq_zero.mpr fun time member => ?_
      have before := tracks.reached time member
      simp only [decide_eq_true_eq]
      omega
    refine ⟨?_, ?_, ?_, ?_, reached, by omega⟩
    · simp only [visited, Option.getD_some, rolled]
      rw [tracks.bucket_start, split]
      push_cast
      ring
    · simp only [visited, Option.getD_some, rolled]
      rw [here, called]
    · simp only [visited, Option.getD_some, rolled]
    · simp only [visited, Option.getD_some, rolled]
      rw [specified, if_neg (by omega)]

/-! ### All calls -/

/-- The times of the calls of one cohort. -/
def own (name : String) (calls : List Call) : List ℚ := (calls.filter fun call => call.name = name).map Call.now

/-- The clock did not go back. -/
def Ordered (calls : List Call) : Prop := calls.Pairwise fun earlier later => earlier.now ≤ later.now

theorem states_snoc (target : ℚ) (calls : List Call) (call : Call) (name : String) :
    states target (calls ++ [call]) name =
      if name = call.name then some (visited target (states target calls call.name) call.now)
      else states target calls name := by
  rw [states, List.foldl_append]
  simp only [List.foldl_cons, List.foldl_nil, should_sample, Function.update_apply]
  rfl

theorem own_append (name : String) (calls more : List Call) : own name (calls ++ more) = own name calls ++ own name more := by
  rw [own, own, own, List.filter_append, List.map_append]

theorem own_snoc (name : String) (calls : List Call) (call : Call) :
    own name (calls ++ [call]) = own name calls ++ if call.name = name then [call.now] else [] := by
  rw [own_append]
  congr 1
  by_cases same : call.name = name
  · simp [own, same]
  · simp [own, same]

/-- Only the calls of a cohort count for it. -/
theorem states_own (target : ℚ) (calls : List Call) (name : String) :
    states target calls name = states target (calls.filter fun call => call.name = name) name := by
  induction calls using List.reverseRecOn with
  | nil => rfl
  | append_singleton calls call ih =>
    rw [states_snoc, List.filter_append]
    by_cases same : name = call.name
    · subst same
      simp only [decide_true, List.filter_cons_of_pos, List.filter_nil]
      rw [states_snoc, ih, if_pos trivial, if_pos rfl]
    · have other : ¬call.name = name := fun eq => same eq.symm
      simp only [other, decide_false, Bool.false_eq_true, not_false_eq_true, List.filter_cons_of_neg, List.filter_nil,
        List.append_nil, if_neg same]
      exact ih

theorem states_track (target : ℚ) {calls : List Call} (ordered : Ordered calls) (name : String) :
    states target calls name = none ∧ own name calls = [] ∨
      ∃ state first rest latest, states target calls name = some state ∧ own name calls = first :: rest ∧
        Tracks target first (first :: rest) (bucket first latest) state ∧ first ≤ latest ∧
        ∃ call ∈ calls, call.now = latest := by
  induction calls using List.reverseRecOn with
  | nil => exact .inl ⟨rfl, rfl⟩
  | append_singleton calls call ih =>
    obtain ⟨before, _, last⟩ := List.pairwise_append.mp ordered
    have le : ∀ earlier ∈ calls, earlier.now ≤ call.now := fun earlier member => last earlier member call (by simp)
    rw [states_snoc, own_snoc]
    by_cases same : name = call.name
    · subst same
      rw [if_pos rfl, if_pos rfl]
      right
      obtain ⟨absent, none⟩ | ⟨state, first, rest, latest, present, times, tracks, started, earlier, member, rfl⟩ := ih before
      · rw [absent, none]
        refine ⟨_, call.now, [], call.now, rfl, rfl, ?_, le_rfl, call, by simp, rfl⟩
        have start : bucket call.now call.now = 0 := by simp [bucket]
        rw [start]
        exact tracks_first target call.now
      · rw [present, times]
        have forward := le earlier member
        exact ⟨_, first, rest ++ [call.now], call.now, rfl, rfl,
          tracks.next (started.trans forward) (bucket_mono forward), started.trans forward, call, by simp, rfl⟩
    · have other : ¬call.name = name := fun eq => same eq.symm
      rw [if_neg same, if_neg other, List.append_nil]
      obtain none | ⟨state, first, rest, latest, present, times, tracks, started, earlier, member, found⟩ := ih before
      · exact .inl none
      · exact .inr ⟨state, first, rest, latest, present, times, tracks, started, earlier,
          List.mem_append_left _ member, found⟩

/-- What a call finds: the bucket it falls into, counted from the first call of its cohort, and the state after it. -/
theorem call_tracks (target : ℚ) {before : List Call} {call : Call} (ordered : Ordered (before ++ [call])) :
    ∃ first rest, own call.name (before ++ [call]) = first :: rest ∧ first ≤ call.now ∧
      Tracks target first (first :: rest) (bucket first call.now)
        (visited target (states target before call.name) call.now) := by
  obtain ⟨earlier, _, last⟩ := List.pairwise_append.mp ordered
  have le : ∀ each ∈ before, each.now ≤ call.now := fun each member => last each member call (by simp)
  rw [own_snoc, if_pos rfl]
  obtain ⟨absent, none⟩ | ⟨state, first, rest, latest, present, times, tracks, started, each, member, rfl⟩ :=
    states_track target earlier call.name
  · rw [absent, none]
    have start : bucket call.now call.now = 0 := by simp [bucket]
    refine ⟨call.now, [], rfl, le_rfl, ?_⟩
    rw [start]
    exact tracks_first target call.now
  · rw [present, times]
    have forward := le each member
    exact ⟨first, rest ++ [call.now], rfl, started.trans forward,
      tracks.next (started.trans forward) (bucket_mono forward)⟩

/-- The sampler uses what folding the completed buckets of the cohort one by one gives. -/
theorem sampling_specified {target : ℚ} (positive : 0 < target) :
    (∀ (before : List Call) (call : Call), probability_used target before call =
      probability_used target (before.filter fun earlier => earlier.name = call.name) call) ∧
    (∀ (before : List Call) (call : Call), Ordered (before ++ [call]) →
      ∃ first rest, own call.name (before ++ [call]) = first :: rest ∧
        ∃ counts buckets rate, counts = calls_in first (first :: rest) ∧ buckets = bucket first call.now ∧
          rate = (folded counts buckets).1 ∧
          (probability_used target before call =
            if buckets = 0 then 1 else if rate = 0 then 1 else min 1 (target / rate)) ∧
          0 < probability_used target before call ∧ probability_used target before call ≤ 1 ∧
          (∃ state, states target (before ++ [call]) call.name = some state ∧ state.rate_estimate = rate ∧
            state.bucket_start = first + buckets * RATE_BUCKET_SECONDS ∧ state.bucket_start ≤ call.now ∧
            call.now < state.bucket_start + RATE_BUCKET_SECONDS) ∧
          rate ≤ ewma counts buckets ∧
          ∀ largest, (∀ earlier ≤ buckets, ewma counts earlier ≤ largest) →
            ewma counts buckets - rate ≤ largest / 2 ^ 11) ∧
    ∀ (before between : List Call) (call later : Call), Ordered (before ++ [call] ++ between ++ [later]) →
      later.name = call.name → ∀ first rest, own call.name (before ++ [call]) = first :: rest →
        bucket first later.now = bucket first call.now →
          probability_used target (before ++ [call] ++ between) later = probability_used target before call := by
  have used : ∀ before call, probability_used target before call =
      (visited target (states target before call.name) call.now).probability := fun _ _ => rfl
  refine ⟨fun before call => ?_, fun before call ordered => ?_, ?_⟩
  · rw [used, used, states_own]
  · obtain ⟨first, rest, times, started, tracks⟩ := call_tracks target ordered
    have nonneg : 0 ≤ (folded (calls_in first (first :: rest)) (bucket first call.now)).1 := folded_nonneg _
    obtain ⟨low, high⟩ := bucket_bounds started
    refine ⟨first, rest, times, _, _, _, rfl, rfl, rfl, ?_, ?_, ?_, ⟨_, ?_, tracks.rate_estimate, tracks.bucket_start,
      ?_, ?_⟩, folded_le_ewma _, fun largest bound => ewma_shortfall bound⟩
    · rw [used, tracks.probability, specified]
      by_cases cold : bucket first call.now = 0
      · rw [if_pos cold, if_pos cold]
      · rw [if_neg cold, if_neg cold, probability_for_rate_eq positive nonneg]
    · rw [used, tracks.probability, specified]
      by_cases cold : bucket first call.now = 0
      · rw [if_pos cold]
        exact one_pos
      · rw [if_neg cold]
        exact (probability_for_rate_bounds positive nonneg).1
    · rw [used, tracks.probability, specified]
      by_cases cold : bucket first call.now = 0
      · rw [if_pos cold]
      · rw [if_neg cold]
        exact (probability_for_rate_bounds positive nonneg).2
    · rw [states_snoc, if_pos rfl]
    · rw [tracks.bucket_start]
      exact low
    · rw [tracks.bucket_start]
      linarith
  · intro before between call later ordered same first rest times together
    obtain ⟨beforehand, _, _⟩ := List.pairwise_append.mp (List.pairwise_append.mp ordered).1
    obtain ⟨first', rest', times', _, tracks⟩ := call_tracks target beforehand
    obtain ⟨rfl, rfl⟩ := List.cons.inj (times.symm.trans times')
    obtain ⟨first'', rest'', times'', _, tracksLater⟩ := call_tracks target ordered
    -- What came after the call lies in its bucket or behind it.
    obtain ⟨more, follow, behind⟩ : ∃ more, first'' :: rest'' = first :: (rest ++ more) ∧
        ∀ time ∈ more, bucket first call.now ≤ bucket first time := by
      refine ⟨own call.name (between ++ [later]), ?_, fun time member => bucket_mono ?_⟩
      · rw [← times'', same, List.append_assoc, own_append, times, List.cons_append]
      · obtain ⟨each, among, rfl⟩ := List.mem_map.mp member
        rw [List.append_assoc] at ordered
        exact (List.pairwise_append.mp ordered).2.2 call (by simp) each (List.mem_filter.mp among).1
    obtain ⟨rfl, rfl⟩ := List.cons.inj follow
    have counts : ∀ index < bucket first'' call.now,
        calls_in first'' (first'' :: (rest ++ more)) index = calls_in first'' (first'' :: rest) index := by
      intro index less
      rw [← List.cons_append, calls_in, List.countP_append, calls_in]
      have none : more.countP (fun time => decide (bucket first'' time = index)) = 0 := by
        refine List.countP_eq_zero.mpr fun time member => ?_
        have far := behind time member
        simp only [decide_eq_true_eq]
        omega
      rw [none, Nat.add_zero]
    rw [used, used, tracks.probability, tracksLater.probability, together, specified, specified, folded_congr counts]

/-- Two calls of one cohort in its second bucket, after one call in the first. -/
theorem small_sampling : probability_used (1 / 100) [⟨"a", 0, 0⟩, ⟨"b", 1, 0⟩] ⟨"a", 6, 0⟩ = 1 / 10 ∧
    probability_used (1 / 100) [⟨"a", 0, 0⟩, ⟨"b", 1, 0⟩, ⟨"a", 6, 0⟩] ⟨"a", 7, 0⟩ = 1 / 10 := by
  have positive : (0 : ℚ) < 1 / 100 := by norm_num
  obtain ⟨_, specifies, constant⟩ := sampling_specified positive
  have ordered : Ordered [⟨"a", 0, 0⟩, ⟨"b", 1, 0⟩, ⟨"a", 6, 0⟩, ⟨"a", 7, 0⟩] := by
    norm_num [Ordered]
  have earlier : Ordered [⟨"a", 0, 0⟩, ⟨"b", 1, 0⟩, ⟨"a", 6, 0⟩] := by
    norm_num [Ordered]
  have times : own "a" [⟨"a", 0, 0⟩, ⟨"b", 1, 0⟩, ⟨"a", 6, 0⟩] = [0, 6] := by
    simp [own]
  have zero : bucket 0 0 = 0 := by
    norm_num [bucket, RATE_BUCKET_SECONDS]
  have one : bucket 0 6 = 1 := by
    norm_num [bucket, RATE_BUCKET_SECONDS]
  have oneToo : bucket 0 7 = 1 := by
    norm_num [bucket, RATE_BUCKET_SECONDS]
  obtain ⟨first, rest, found, counts, buckets, rate, rfl, rfl, rfl, used, _⟩ :=
    specifies [⟨"a", 0, 0⟩, ⟨"b", 1, 0⟩] ⟨"a", 6, 0⟩ earlier
  obtain ⟨rfl, rfl⟩ := List.cons.inj (found.symm.trans times)
  have rate : (folded (calls_in 0 [0, 6]) 1).1 = 1 / 10 := by
    norm_num [folded, calls_in, zero, one]
  rw [one, rate] at used
  have tenth : probability_used (1 / 100) [⟨"a", 0, 0⟩, ⟨"b", 1, 0⟩] ⟨"a", 6, 0⟩ = 1 / 10 := by
    rw [used]
    norm_num
  refine ⟨tenth, ?_⟩
  rw [← tenth]
  exact constant [⟨"a", 0, 0⟩, ⟨"b", 1, 0⟩] [] ⟨"a", 6, 0⟩ ⟨"a", 7, 0⟩ ordered rfl 0 [6] times (oneToo.trans one.symm)

end VectorSeam.AdaptiveSampling
