import VectorSeam.Generations
import VectorSeam.RecommendationServer

/-!
What clients are told of a cohort, from the tuner's records to the answers of the server. The
two read the JSON of a record with types of their own; over any store that daemons have left,
an ef that is served is the effective one of a record of the cohort, and no record that the
tuner has put is defective to the server unless it is too large.
-/

namespace VectorSeam.Served
open VectorSeam.Model VectorSeam.Cohort VectorSeam.ObjectStore VectorSeam.Aggregate VectorSeam.Effects VectorSeam.LittleEndian
open VectorSeam.Intermediate VectorSeam.Pipeline VectorSeam.Records VectorSeam.Provenance VectorSeam.Isolation
open VectorSeam.Rereadings VectorSeam.Portions VectorSeam.Generations VectorSeam.Machines VectorSeam.Lookups VectorSeam.RecommendationServer

/-! ### Records as the server reads them -/

/-- The fields of a record that the server knows. -/
def latest_round (output : RoundOutput) : LatestRound :=
  { format_version := output.format_version, cohort := output.cohort
    effective := output.effective.map fun effective => ⟨effective.recommended_ef⟩ }

/-- The server finds the fields that it knows in the JSON that the tuner writes. -/
def Reads (codec : Codec Bytes) (from_slice : Bytes → Except String LatestRound) : Prop :=
  ∀ output body, codec.to_vec output = .ok body → from_slice body = .ok (latest_round output)

theorem grid_in_range {config : AggregationConfig} (valid : ConfigValid config) {ef : Int} (member : ef ∈ config.ef_grid) :
    MIN_EF_SEARCH ≤ ef ∧ ef ≤ MAX_EF_SEARCH := by
  have grid := valid.grid_valid
  simp only [ef_grid_valid, decide_eq_true_eq] at grid
  obtain ⟨_, _, least, most⟩ := grid
  refine ⟨?_, most ef member⟩
  have positive := valid.k_positive
  cases listed : config.ef_grid with
  | nil => rw [listed] at member; cases member
  | cons first rest =>
    have increasing := valid.grid_chain.2
    rw [listed] at least member increasing
    have first_positive : MIN_EF_SEARCH ≤ first := by
      refine le_trans ?_ least
      unfold MIN_EF_SEARCH
      split
      · omega
      · decide
    rcases List.mem_cons.mp member with rfl | later
    · exact first_positive
    · exact first_positive.trans (List.rel_of_pairwise_cons increasing later).le

section Records
variable {beta_reg : Float → Float → Float → Float} {cohort : CohortName} {output : RoundOutput}

theorem made_cohort (made : Made beta_reg cohort output) : output.cohort = cohort.name := by
  obtain ⟨input, of, aggregated⟩ := made
  exact (aggregate_recorded aggregated).under.cohort.trans of

theorem made_format_version (made : Made beta_reg cohort output) : output.format_version = 1 := by
  obtain ⟨input, _, aggregated⟩ := made
  obtain ⟨surveyed, _, concluded⟩ := Results.bind_ok.mp aggregated
  obtain ⟨per_ef, selection, window_start, window_end, _, _, _, rfl⟩ := conclude_ok concluded
  rfl

theorem made_ef_range (made : Made beta_reg cohort output) {ef : Int} (member : ef ∈ output.ef_grid) :
    MIN_EF_SEARCH ≤ ef ∧ ef ≤ MAX_EF_SEARCH := by
  obtain ⟨input, _, aggregated⟩ := made
  have recorded := aggregate_recorded aggregated
  rw [recorded.under.ef_grid] at member
  exact grid_in_range recorded.valid member

end Records

/-! ### The latest round of a cohort -/

theorem latest_named (cohort : CohortName) : ∃ paths, round_paths cohort.name 0 = .ok paths ∧ paths.2 = latest_path cohort :=
  ⟨_, rfl, by simp [latest_path, String.append_assoc]⟩

theorem latest_owned (cohort : CohortName) : Owned cohort (latest_path cohort) := by
  obtain ⟨paths, named, same⟩ := latest_named cohort
  obtain ⟨_, _, _, parts⟩ := Keys.round_paths_parts named
  exact same ▸ .inr ⟨_, parts⟩

theorem latest_root (cohort : CohortName) : (latest_path cohort).root = some "calibrations" := by
  obtain ⟨paths, named, same⟩ := latest_named cohort
  exact same ▸ (Publishing.round_paths_root named).2

/-- The ef is the effective one of a record of the cohort that daemons have left as its latest, and has its origin in the
    history of the cohort. -/
structure Vouched (codec : Codec Bytes) (beta_reg : Float → Float → Float → Float) (reread : Float → Float → Prop)
    (cohort : CohortName) (ef : Int) (objects : Objects Bytes) (image : World Bytes) (output : RoundOutput) (effective : Model.EffectiveRecommendation) : Prop where
  left : Generation codec beta_reg objects
  history : Reachable codec beta_reg cohort.name image
  portion : Agrees cohort image.objects objects
  latest : ∃ body, lookup objects (latest_path cohort) = some body ∧ codec.to_vec output = .ok body
  made : Made beta_reg cohort output
  block : output.effective = some effective
  carried : Carried codec reread image.log output effective
  same : effective.recommended_ef = ef

/-- What the server may make of the latest round that daemons have left. -/
inductive Assessed (codec : Codec Bytes) (beta_reg : Float → Float → Float → Float) (reread : Float → Float → Prop)
    (cohort : CohortName) : CachedLookup → Prop where
  | Found {ef objects image output effective} (vouched : Vouched codec beta_reg reread cohort ef objects image output effective) :
      Assessed codec beta_reg reread cohort (.Found ef)
  | Missing : Assessed codec beta_reg reread cohort (.Negative .Missing)
  | TooLarge {output body} (made : Made beta_reg cohort output) (serialised : codec.to_vec output = .ok body)
      (large : LATEST_JSON_MAX_BYTES < body.length) :
      Assessed codec beta_reg reread cohort (.Negative (.Defect (.TooLarge (latest_path cohort).raw body.length)))

section Lookup
variable {codec : Codec Bytes} {beta_reg : Float → Float → Float → Float} {from_slice : Bytes → Except String LatestRound}
  {reread : Float → Float → Prop} {objects : Objects Bytes}

/-- Over a store that daemons have left, a lookup finds a vouched ef, none, or a record that is too large. -/
theorem generation_assessed (back : ReadsBack codec reread) (reads : Reads codec from_slice)
    (generation : Generation codec beta_reg objects) (cohort : CohortName) :
    Assessed codec beta_reg reread cohort (assess from_slice cohort (lookup objects (latest_path cohort))) := by
  cases found : lookup objects (latest_path cohort) with
  | none => exact .Missing
  | some body =>
    obtain ⟨image, history, portion, records⟩ := calibrations_from_history back generation cohort
    obtain ⟨output, serialised, made, carried⟩ := records _ body (latest_owned cohort) (latest_root cohort) found
    by_cases large : LATEST_JSON_MAX_BYTES < body.length
    · rw [assess, check_size, if_pos large]
      exact .TooLarge made serialised large
    rw [assess, check_size, if_neg large, Option.getD_none, read_latest, reads output body serialised]
    have version : (latest_round output).format_version = 1 := made_format_version made
    have named : (latest_round output).cohort = cohort.name := made_cohort made
    dsimp only
    rw [if_neg (not_not.mpr version), if_neg (not_not.mpr named)]
    cases present : output.effective with
    | none =>
      simp only [latest_round, present, Option.map_none]
      exact .Missing
    | some effective =>
      have origin := carried effective present
      simp only [latest_round, present, Option.map_some]
      rw [if_neg (not_not.mpr (made_ef_range made origin.in_grid))]
      exact .Found ⟨generation, history, portion, ⟨body, found, serialised⟩, made, present, origin, rfl⟩

end Lookup

/-! ### The server beside the tuners -/

section Gets
variable {from_slice : Bytes → Except String LatestRound} {config : Config} {state state' : State} {action : Action}

/-- An action of the tuner, or of whoever else has the store. -/
def writes : Action → Bool
  | .Write _ _ => true
  | .Delete _ => true
  | _ => false

/-- The store is the same, and the journal has no new GET or the one of a path as it is stored. -/
def Looks (state state' : State) : Prop :=
  state'.objects = state.objects ∧ (state'.journal.gets = state.journal.gets ∨
    ∃ path, state'.journal.gets = (path, lookup state.objects path) :: state.journal.gets)

theorem resume_looks {id : Nat} {cohort : CohortName} {phase : Phase} (taken : resume state id cohort phase = some state') :
    Looks state state' := by
  cases phase with
  | Positive =>
    simp only [resume] at taken
    split at taken <;> obtain rfl := Option.some.inj taken <;> exact ⟨rfl, .inl rfl⟩
  | Negative =>
    simp only [resume] at taken
    split at taken <;> obtain rfl := Option.some.inj taken <;> exact ⟨rfl, .inl rfl⟩
  | Acquire =>
    simp only [resume] at taken
    split at taken <;> obtain rfl := Option.some.inj taken <;> exact ⟨rfl, .inl rfl⟩
  | Join =>
    obtain rfl := Option.some.inj taken
    unfold join
    repeat' split
    all_goals exact ⟨rfl, .inl rfl⟩
  | Waiting leader =>
    simp only [resume] at taken
    split at taken
    · obtain rfl := Option.some.inj taken
      exact ⟨rfl, .inl rfl⟩
    · split at taken
      · cases taken
      · obtain rfl := Option.some.inj taken
        exact ⟨rfl, .inl rfl⟩
  | Get => cases taken
  | Body bytes => cases taken
  | Loaded result =>
    obtain rfl := Option.some.inj taken
    cases result with
    | error error => exact ⟨rfl, .inl rfl⟩
    | ok lookup => cases lookup <;> exact ⟨rfl, .inl rfl⟩
  | Kept result =>
    obtain rfl := Option.some.inj taken
    exact ⟨rfl, .inl rfl⟩

/-- The server leaves the store alone, and adds a GET to its journal only as the store answers it. -/
theorem step_looks (reading : writes action = false) (taken : step from_slice config state action = some state') :
    Looks state state' := by
  cases action with
  | Arrive raw_cohort =>
    simp only [step] at taken
    split at taken <;> obtain rfl := Option.some.inj taken <;> exact ⟨rfl, .inl rfl⟩
  | Resume id =>
    simp only [step] at taken
    split at taken
    · exact resume_looks taken
    · cases taken
  | Reply id failure =>
    simp only [step] at taken
    split at taken
    · rename_i cohort _
      obtain rfl := Option.some.inj taken
      refine ⟨?_, .inr ⟨latest_path cohort, ?_⟩⟩
      · simp only [got]
        repeat' split
        all_goals rfl
      · simp only [got]
        repeat' split
        all_goals rfl
    · obtain rfl := Option.some.inj taken
      exact ⟨rfl, .inl rfl⟩
    · cases taken
  | Read id failure =>
    simp only [step] at taken
    split at taken
    · obtain rfl := Option.some.inj taken
      exact ⟨rfl, .inl rfl⟩
    · obtain rfl := Option.some.inj taken
      exact ⟨rfl, .inl rfl⟩
    · cases taken
  | Elapse id =>
    simp only [step] at taken
    split at taken
    · split at taken
      · obtain rfl := Option.some.inj taken
        exact ⟨rfl, .inl rfl⟩
      · cases taken
    · cases taken
  | Cancel id =>
    simp only [step] at taken
    split at taken
    · obtain rfl := Option.some.inj taken
      exact ⟨rfl, .inl rfl⟩
    · cases taken
  | EvictRecommendation cohort =>
    obtain rfl := Option.some.inj taken
    exact ⟨rfl, .inl rfl⟩
  | EvictNegative cohort =>
    obtain rfl := Option.some.inj taken
    exact ⟨rfl, .inl rfl⟩
  | EvictLoad cohort =>
    obtain rfl := Option.some.inj taken
    exact ⟨rfl, .inl rfl⟩
  | Write path bytes => cases reading
  | Delete path => cases reading

/-- A write is no GET. -/
theorem step_writes (writing : writes action = true) (taken : step from_slice config state action = some state') :
    state'.journal.gets = state.journal.gets := by
  cases action with
  | Write path bytes =>
    obtain rfl := Option.some.inj taken
    rfl
  | Delete path =>
    obtain rfl := Option.some.inj taken
    rfl
  | _ => cases writing

end Gets

/-- The store is at all times one that daemons have left; they may write to it while the server runs. -/
def Tuned (codec : Codec Bytes) (beta_reg : Float → Float → Float → Float) (from_slice : Bytes → Except String LatestRound)
    (config : Config) (state : State) (action : Action) : Prop :=
  ∀ state', step from_slice config state action = some state' → Generation codec beta_reg state'.objects

/-- Every GET of the server has seen a store that daemons have left. -/
structure Watched (codec : Codec Bytes) (beta_reg : Float → Float → Float → Float) (state : State) : Prop where
  left : Generation codec beta_reg state.objects
  gets : ∀ seen ∈ state.journal.gets, ∃ objects, Generation codec beta_reg objects ∧ seen.2 = lookup objects seen.1

section Server
variable {codec : Codec Bytes} {beta_reg : Float → Float → Float → Float} {from_slice : Bytes → Except String LatestRound}
  {reread : Float → Float → Prop} {config : Config} {objects : Objects Bytes} {state : State}

theorem reached_watched (left : Generation codec beta_reg objects)
    (reached : Reached (step from_slice config) (Tuned codec beta_reg from_slice config) (start config objects) state) :
    Watched codec beta_reg state := by
  refine reached.invariant ⟨left, fun seen member => by cases member⟩ ?_
  intro state action state' _ watched tuned taken
  refine ⟨tuned state' taken, fun seen member => ?_⟩
  cases writing : writes action with
  | true => exact watched.gets seen (step_writes writing taken ▸ member)
  | false =>
    rcases (step_looks writing taken).2 with same | ⟨path, more⟩
    · exact watched.gets seen (same ▸ member)
    · rw [more] at member
      rcases List.mem_cons.mp member with rfl | earlier
      · exact ⟨state.objects, watched.left, rfl⟩
      · exact watched.gets seen earlier

/-- A run of the server alone. -/
theorem run_tuned {actions : List Action} {first : State} (left : Generation codec beta_reg first.objects)
    (reading : actions.all fun action => !writes action)
    (ran : run (step from_slice config) first actions = some state) :
    Reached (step from_slice config) (Tuned codec beta_reg from_slice config) first state := by
  induction actions generalizing first with
  | nil =>
    obtain rfl := Option.some.inj ran
    exact .start
  | cons action rest ih =>
    rw [List.all_cons, Bool.and_eq_true, Bool.not_eq_true'] at reading
    cases taken : step from_slice config first action with
    | none =>
      rw [run, taken] at ran
      cases ran
    | some next =>
      rw [run, taken] at ran
      have same := (step_looks reading.1 taken).1
      have tuned : Tuned codec beta_reg from_slice config first action := by
        intro other taken'
        obtain rfl := Option.some.inj (taken.symm.trans taken')
        exact same ▸ left
      exact Reached.trans (.step action .start tuned taken) (ih (same ▸ left) reading.2 ran)

/-- A lookup that rests on a GET of such a run is one of the three. -/
theorem observed_assessed (back : ReadsBack codec reread) (reads : Reads codec from_slice)
    (watched : Watched codec beta_reg state) {gets : List Observation} (among : gets <:+ state.journal.gets) {cohort : CohortName} {looked : CachedLookup}
    (observed : Observed from_slice gets cohort looked) : Assessed codec beta_reg reread cohort looked := by
  obtain ⟨found, member, rfl⟩ := observed
  obtain ⟨objects, left, same⟩ := watched.gets _ (among.subset member)
  dsimp only at same
  rw [same]
  exact generation_assessed back reads left cohort

end Server

/-- The answer names no cohort, or gives up for lack of permits or after a failed GET, or says what the store was seen to
    say of the cohort. -/
inductive Answered (codec : Codec Bytes) (beta_reg : Float → Float → Float → Float) (reread : Float → Float → Prop)
    (answer : Answer) : Prop where
  | Invalid (response : answer.response = bad_request)
  | Unavailable (response : answer.response = service_unavailable)
  | Found (cohort : CohortName) (ef : Int) (named : answer.cohort = some cohort) (response : answer.response = ok_response ef)
      (assessed : Assessed codec beta_reg reread cohort (.Found ef))
  | Negative (cohort : CohortName) (negative : NegativeLookup) (named : answer.cohort = some cohort)
      (response : answer.response = negative_response negative) (assessed : Assessed codec beta_reg reread cohort (.Negative negative))

/-- While daemons come and go, every answer of the server is one about a record of theirs: an ef that it serves is the
    effective one of a record of that cohort, traced to an approved record of the cohort's history, and it finds no
    defect in their records but their size. Numbers with a fraction may change when JSON is read; what is served is none. -/
theorem answers_vouched (codec : Codec Bytes) (beta_reg : Float → Float → Float → Float) (reread : Float → Float → Prop)
    (back : ReadsBack codec reread) (from_slice : Bytes → Except String LatestRound) (reads : Reads codec from_slice) (config : Config)
    (objects : Objects Bytes) (left : Generation codec beta_reg objects) (state : State)
    (reached : Reached (step from_slice config) (Tuned codec beta_reg from_slice config) (start config objects) state) :
    ∀ answer ∈ state.journal.answers, Answered codec beta_reg reread answer := by
  intro answer member
  have watched := reached_watched left reached
  obtain ⟨among, justified⟩ := (reached_sound reached.any).answers answer member
  have assessed : ∀ {cohort looked}, Observed from_slice answer.gets cohort looked → Assessed codec beta_reg reread cohort looked :=
    fun observed => observed_assessed back reads watched among observed
  unfold Justified at justified
  split at justified
  · exact .Invalid justified
  · obtain ⟨cohort, ef, named, response, observed⟩ := justified
    exact .Found cohort ef named response (assessed observed)
  · obtain ⟨cohort, negative, named, response, observed⟩ := justified
    exact .Negative cohort negative named response (assessed observed)
  · exact .Unavailable justified
  · rename_i result _
    obtain ⟨response, observed⟩ := justified
    match result with
    | .error error => exact .Unavailable response
    | .ok (.Found ef) =>
      obtain ⟨cohort, named, seen⟩ := observed _ rfl
      exact .Found cohort ef named response (assessed seen)
    | .ok (.Negative negative) =>
      obtain ⟨cohort, named, seen⟩ := observed _ rfl
      exact .Negative cohort negative named response (assessed seen)

/-! ### A recommendation that is served -/

/-- The record of the first round over the shadow segment. -/
def localRecord : RoundOutput where
  format_version := 1
  cohort := "shadow"
  computed_at := "1970-01-01T00:02:05Z"
  window := { start := "1970-01-01T00:01:00Z", finish := "1970-01-01T00:02:00Z", duration_seconds := 60 }
  target :=
    { name := "recall", k := 1, value := 0.5, percentile := 0.5, selection_confidence := 0.5
      approval_confidence := 0.5 }
  index := "items"
  ef_grid := [1]
  status := .Ok
  error := none
  recommended_ef := some 1
  confidence := some 0.75
  train_confidence := some 0.75
  train_compliance := some 1.0
  train_quantile_recall := some 1.0
  test_compliance := some 1.0
  test_quantile_recall := some 1.0
  effective := some ⟨1, 0.75, "1970-01-01T00:02:00Z", false⟩
  samples := { available := 2, measured := 2, failed := 0, unique := 2, train := 1, test := 1 }
  dropped_frame_fraction := 0.0
  coverage := { empty_window_fraction := 0.0, windows_in_scope := 1, windows_with_parts := 1 }
  parts_used := 1
  incompatible_parts := 0
  ground_truth_latency_mean_ms := some 0.0
  per_ef := [⟨1, 1.0, 1.0, 0.0⟩]

/-- Its JSON, in which absent values are null. -/
def localJson : Bytes :=
  utf8 ("\x7b\"format_version\":1,\"cohort\":\"shadow\",\"computed_at\":\"1970-01-01T00:02:05Z\"," ++
    "\"window\":\x7b\"start\":\"1970-01-01T00:01:00Z\",\"end\":\"1970-01-01T00:02:00Z\",\"duration_seconds\":60\x7d," ++
    "\"target\":\x7b\"name\":\"recall\",\"k\":1,\"value\":0.5,\"percentile\":0.5,\"selection_confidence\":0.5," ++
    "\"approval_confidence\":0.5\x7d,\"index\":\"items\",\"ef_grid\":[1],\"status\":\"ok\",\"error\":null," ++
    "\"recommended_ef\":1,\"confidence\":0.75,\"train_confidence\":0.75,\"train_compliance\":1.0," ++
    "\"train_quantile_recall\":1.0,\"test_compliance\":1.0,\"test_quantile_recall\":1.0," ++
    "\"effective\":\x7b\"recommended_ef\":1,\"confidence\":0.75,\"source_round\":\"1970-01-01T00:02:00Z\"," ++
    "\"carried\":false\x7d,\"samples\":\x7b\"available\":2,\"measured\":2,\"failed\":0,\"unique\":2,\"train\":1," ++
    "\"test\":1\x7d,\"dropped_frame_fraction\":0.0,\"coverage\":\x7b\"empty_window_fraction\":0.0," ++
    "\"windows_in_scope\":1,\"windows_with_parts\":1\x7d,\"parts_used\":1,\"incompatible_parts\":0," ++
    "\"ground_truth_latency_mean_ms\":0.0,\"per_ef\":[\x7b\"ef\":1,\"quantile_recall\":1.0,\"mean_recall\":1.0," ++
    "\"latency_mean_ms\":0.0\x7d]\x7d")

def localMetadata : IntermediateMetadata :=
  { format_version := 1, cohort := "shadow", part_ulid := "01J00000000000000000000000", window_start := 60,
    window_seconds := 60, received_frame_count := 2, record_count := 2, index := "items", table := "items",
    column := "embedding", key := "doc_id", k := 1, ef_grid := [1], failed_count := 0, measured_count := 2,
    computed_at_us := 125000000 }
def localTruth : ParquetFile :=
  truth_file localMetadata
    [⟨0, 5558979605539197941, 1, 61000000, 0.0, [1], [0.0]⟩, ⟨1, 14788350434610717105, 1, 62000000, 0.0, [1], [0.0]⟩]
def localSweep : ParquetFile := sweep_file localMetadata [⟨0, 1, [1], 1.0, 0.0, 1⟩, ⟨1, 1, [1], 1.0, 0.0, 1⟩]

/-- A codec for that record and the pair that it rests on; marks stand for the bytes of the two Parquet files. -/
def localCodec : Codec Bytes where
  content := id
  to_vec output := if output = localRecord then .ok localJson else .error "another record"
  from_slice bytes := if bytes = localJson then .ok localRecord else .error "expected value at line 1 column 1"
  write_parquet file :=
    if file = localTruth then .ok (utf8 "truth")
    else if file = localSweep then .ok (utf8 "sweep")
    else .error "another file"
  read_key_values bytes :=
    if bytes = utf8 "truth" then .ok (localTruth.key_values ++ [("ARROW:schema", some "")])
    else if bytes = utf8 "sweep" then .ok (localSweep.key_values ++ [("ARROW:schema", some "")])
    else .error "Invalid Parquet file. Corrupt footer"
  read_table bytes :=
    if bytes = utf8 "truth" then .ok localTruth.table
    else if bytes = utf8 "sweep" then .ok localSweep.table
    else .error "Invalid Parquet file. Corrupt footer"

def local_from_slice (bytes : Bytes) : Except String LatestRound :=
  if bytes = localJson then .ok (latest_round localRecord) else .error "expected value at line 1 column 1"

theorem localCodec_to_vec {output : RoundOutput} {body : Bytes} (serialised : localCodec.to_vec output = .ok body) :
    output = localRecord ∧ body = localJson := by
  simp only [localCodec] at serialised
  split at serialised
  · rename_i same
    exact ⟨same, (Except.ok.inj serialised).symm⟩
  · cases serialised

theorem localCodec_back : ReadsBack localCodec (· = ·) := by
  intro round body again serialised parsed
  obtain ⟨rfl, rfl⟩ := localCodec_to_vec serialised
  simp only [localCodec, ↓reduceIte] at parsed
  obtain rfl := Except.ok.inj parsed
  exact ⟨rfl, rfl, rfl, rfl, rfl, rfl, rfl, rfl, fun block found => ⟨block, found, rfl, rfl, rfl⟩⟩

theorem local_reads : Reads localCodec local_from_slice := by
  intro output body serialised
  obtain ⟨rfl, rfl⟩ := localCodec_to_vec serialised
  simp only [local_from_slice, ↓reduceIte]

open VectorSeam.Programs VectorSeam.Connections VectorSeam.Tuner VectorSeam.Lines VectorSeam.Serial in
/-- A daemon that measures the segment of the shadow cohort, with one round. -/
def localDaemon (config : Configuration.Config) : Outcome Panic Turn × TunerWorld Bytes :=
  (Tuner.run id (fun _ => "") localCodec smallBeta config 1).exec tuner_answer
    (twinWorld [(⟨["cohorts", "shadow", "window=19700101T0001Z", "part-01J00000000000000000000000.vseam"]⟩, segmentOf shadow)])
    (List.replicate 53 calmChoice)

open VectorSeam.Configuration VectorSeam.Lines VectorSeam.Serial in
theorem localDaemon_generation {config : Configuration.Config}
    (accepted : from_raw id (fun _ => true) shadowRaw = .ok config) :
    Generation localCodec smallBeta (localDaemon config).2.objects := by
  have begun : Generation localCodec smallBeta (twinWorld [((⟨["cohorts", "shadow", "window=19700101T0001Z",
      "part-01J00000000000000000000000.vseam"]⟩ : Path), segmentOf shadow)]).objects := by
    refine .empty _ fun path root => if_neg ?_
    rintro rfl
    exact absurd root (by decide)
  exact .daemon begun accepted ⟨_, rfl⟩

/-- A request for the cohort loads its latest round; one for another cohort finds none. -/
def localActions : List Action :=
  [.Arrive "shadow", .Resume 0, .Resume 0, .Resume 0, .Resume 0, .Reply 0 none, .Read 0 none, .Resume 0, .Resume 0,
    .Arrive "prod", .Resume 1, .Resume 1, .Resume 1, .Resume 1, .Reply 1 none, .Resume 1, .Resume 1]

def localServer (config : Configuration.Config) : Option State :=
  run (step local_from_slice smallConfig) (start smallConfig (localDaemon config).2.objects) localActions

open VectorSeam.Configuration in
theorem localServer_answers : ∃ config, from_raw id (fun _ => true) shadowRaw = .ok config ∧
    (localServer config).map (fun state => state.journal.answers.map (·.response)) =
      some [negative_response .Missing, ok_response 1] :=
  ⟨_, rfl, by decide +kernel⟩

open VectorSeam.Configuration in
theorem local_answers_vouched : ∃ config state, from_raw id (fun _ => true) shadowRaw = .ok config ∧
    localServer config = some state ∧
    state.journal.answers.map (·.response) = [negative_response .Missing, ok_response 1] ∧
    ∀ answer ∈ state.journal.answers, Answered localCodec smallBeta (· = ·) answer := by
  obtain ⟨config, accepted, responses⟩ := localServer_answers
  obtain ⟨state, ran, responses⟩ := Option.map_eq_some_iff.mp responses
  have left := localDaemon_generation accepted
  exact ⟨config, state, accepted, ran, responses, answers_vouched localCodec smallBeta (· = ·) localCodec_back local_from_slice
    local_reads smallConfig _ left state (run_tuned left (by decide) ran)⟩

end VectorSeam.Served
