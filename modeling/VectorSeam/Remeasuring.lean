import VectorSeam.Failures
import VectorSeam.Healing
import VectorSeam.Fixpoints

/-!
Stored pairs and the rounds that find them. A rejected pair leaves its part to be measured
again in the same round. A round whose accepted pairs are all wholesome does not fail in
its aggregation because of a stored pair: the error is about none of them.
-/

namespace VectorSeam.Remeasuring
open VectorSeam.Model VectorSeam.ObjectStore VectorSeam.Window VectorSeam.Accounting VectorSeam.Population
open VectorSeam.Aggregate VectorSeam.Intermediate VectorSeam.Measure VectorSeam.Effects VectorSeam.Programs
open VectorSeam.Pipeline VectorSeam.Requests VectorSeam.SortedMaps VectorSeam.SourceParts VectorSeam.PendingParts
open VectorSeam.Publishing VectorSeam.Rounds VectorSeam.Deposits VectorSeam.Pairs VectorSeam.Tallies VectorSeam.Healing
open VectorSeam.Blame VectorSeam.Failures VectorSeam.Results

variable {B : Type} {codec : Codec B} {beta_reg : Float → Float → Float → Float} {config : AggregationConfig}
  {round_end computed_at_us : Nat} {computed_at : String} {world world' middle : World B}

/-! ### Listed sources and their stored pairs -/

/-- The source is a listed segment in the rolling window. -/
def ListedSource (codec : Codec B) (objects : Objects B) (config : AggregationConfig) (round_end : Nat) (source : SourcePart) :
    Prop :=
  ∃ window_starts, in_scope_window_starts round_end config.window_duration_seconds config.storage_window_seconds =
      .ok window_starts ∧
    ∃ window_start ∈ window_starts, source.path ∈ source_paths objects config.cohort window_start ∧
      Loaded codec objects config.cohort config.storage_window_seconds window_start source

/-- The files of the source's pair are in the store. -/
def StoredPair (objects : Objects B) (config : AggregationConfig) (source : SourcePart) (truth sweep : B) : Prop :=
  ∃ paths, pair_paths config source = .ok paths ∧ lookup objects paths.1 = some truth ∧ lookup objects paths.2 = some sweep

theorem listed_in_window {objects : Objects B} {source : SourcePart}
    (listed : ListedSource codec objects config round_end source) : InWindow config round_end source := by
  obtain ⟨window_starts, scope, window_start, inside, _, loaded⟩ := listed
  obtain ⟨_, above, below⟩ := (mem_in_scope_window_starts scope window_start).mp inside
  obtain ⟨_, start, seconds⟩ := loaded.listed
  obtain ⟨part_ulid, body, prepared, _, _, checked, same⟩ := loaded
  obtain ⟨_, _, received, _⟩ := Survival.prepared_fits checked
  obtain ⟨_, _, _, _, ordered⟩ := prepare_segment_samples checked
  have limit : U64_MAX = 2 ^ 64 - 1 := rfl
  refine ⟨⟨window_starts, scope⟩, by rw [start]; exact above, by rw [start, seconds]; exact below, ?_, ?_⟩
  · rw [same]
    exact ordered
  · rw [same]
    exact (by omega : prepared.received_frame_count ≤ U64_MAX)

/-- The pair is rejected and its source left to be measured again, or it is read and harmless. -/
def Heals (codec : Codec B) (beta_reg : Float → Float → Float → Float) (config : AggregationConfig) (source : SourcePart)
    (truth sweep : B) : Prop :=
  (∀ before after, classify_pair config source (read_intermediate_pair_bytes codec truth sweep) before = .ok after →
      after.pending = before.pending ++ [source] ∧ after.compatible = before.compatible) ∨
    ∃ part, read_intermediate_pair_bytes codec truth sweep = .ok part ∧ Harmless beta_reg config source part

/-- If the pair is accepted, its rows are wholesome. -/
def Acceptable (codec : Codec B) (config : AggregationConfig) (source : SourcePart) (truth sweep : B) : Prop :=
  ∀ part truth_rows sweep_rows, read_intermediate_pair_bytes codec truth sweep = .ok part → Usable config source part →
    codec.read_table truth = .ok (.truth truth_rows) → codec.read_table sweep = .ok (.sweep sweep_rows) →
      Wholesome config part.metadata truth_rows sweep_rows

theorem acceptable_iff {source : SourcePart} {truth sweep : B} {part : IntermediatePart}
    (read : read_intermediate_pair_bytes codec truth sweep = .ok part) (usable : Usable config source part) :
    Acceptable codec config source truth sweep ↔ WithinReceived part ∧ FirstsValid config (ulid_of source) part := by
  obtain ⟨truth_rows, sweep_rows, truthRead, sweepRead, rows⟩ := read_pair_rows read
  constructor
  · intro acceptable
    exact (wholesome_iff rows _).mp (acceptable part truth_rows sweep_rows read usable truthRead sweepRead)
  · rintro sound part' truth_rows' sweep_rows' read' _ truthRead' sweepRead'
    obtain rfl := Except.ok.inj (read.symm.trans read')
    cases Except.ok.inj (truthRead.symm.trans truthRead')
    cases Except.ok.inj (sweepRead.symm.trans sweepRead')
    exact (wholesome_iff rows _).mpr sound

theorem heals_iff {objects : Objects B} {source : SourcePart} {truth sweep : B}
    (accepted : validate_aggregation_config config = .ok ()) (clock : round_end ≤ U64_MAX)
    (listed : ListedSource codec objects config round_end source) :
    Heals codec beta_reg config source truth sweep ↔ Acceptable codec config source truth sweep := by
  by_cases usable : ∃ part, read_intermediate_pair_bytes codec truth sweep = .ok part ∧ Usable config source part
  · obtain ⟨part, read, usable⟩ := usable
    rw [acceptable_iff read usable]
    obtain ⟨_, _, _, _, rows⟩ := read_pair_rows read
    constructor
    · rintro (remeasured | ⟨part', read', harmless⟩)
      · -- an accepted pair leaves nothing pending
        have filed : classify_pair config source (.ok part) ⟨∅, [], 0⟩ = .ok ⟨_, [], 0⟩ :=
          Fixpoints.classify_pair_usable usable.matching usable.compatible
        rw [← read] at filed
        obtain ⟨pending, _⟩ := remeasured _ _ filed
        cases pending
      · obtain rfl := Except.ok.inj (read.symm.trans read')
        exact valid_of_harmless accepted clock (listed_in_window listed) usable
          (fun sample member other present same => rows.sample_unique member present same) harmless
    · rintro ⟨within, valid⟩
      exact .inr ⟨part, read, harmless_of_valid within valid⟩
  · refine ⟨fun _ part _ _ read accepted _ _ => absurd ⟨part, read, accepted⟩ usable, fun _ => .inl ?_⟩
    intro before after filed
    rcases classify_pair_ok filed with ⟨part, read, matching, compatible, _, _⟩ | pended
    · exact absurd ⟨part, read, matching, compatible⟩ usable
    · exact pended

/-! ### Rounds over acceptable pairs -/

/-- A pair measured in the round declares what its segment holds. -/
theorem fresh_within (laws : ParquetLaws codec) {source : SourcePart} {part : IntermediatePart}
    (fresh : Fresh codec config computed_at_us world middle source part) : WithinReceived part := by
  obtain ⟨before, after, measured, truth, sweep, _, run, _, encoded, read⟩ := fresh
  obtain ⟨body, prepared, _, _, checked, inner, _, _⟩ := runs_measure_source run
  obtain ⟨segment, _, distinct, few, received⟩ := prepare_segment_samples checked
  obtain ⟨finish, rfl, truths, sweeps, truthRows, _, counts, _⟩ := measure_samples_tallied inner
  obtain ⟨truthWritten, sweepWritten⟩ := encode_ok.mp encoded
  obtain ⟨_, metadata, _⟩ := read_pair_written laws truthWritten sweepWritten read
  rw [List.nil_append] at truthRows
  have each : finish.failed_count + truths.length = prepared.samples.length := by simpa using counts
  refine ⟨?_, ?_⟩
  · rw [metadata]
    show finish.truth_rows.length ≤ prepared.received_frame_count
    rw [truthRows]
    omega
  · rw [metadata]
    show finish.failed_count ≤ prepared.received_frame_count
    omega

theorem supplied_composed (laws : ParquetLaws codec) {ending : Ending}
    (supplied : Supplied codec computed_at_us world middle ending) (previous_round : Option RoundOutput) :
    Composed (ending.input previous_round) ending.compatible := by
  obtain ⟨window_starts, scope, found⟩ := supplied.sources
  obtain ⟨used, sub, filled, _⟩ := supplied.pairs
  have each : ∀ (part_ulid : String) part, ending.compatible[part_ulid]? = some part →
      ∃ source ∈ ending.sources, ulid_of source = part_ulid ∧ Usable ending.config source part := by
    intro part_ulid part there
    obtain ⟨source, inside, key, pair⟩ := filled.values part_ulid part there
    exact ⟨source, sub.subset inside, key, pair_usable laws found (sub.subset inside) pair⟩
  refine ⟨rfl, fun part_ulid part there => ?_, fun part_ulid part there => ?_, fun part_ulid part there => ?_⟩
  · obtain ⟨source, _, rfl, usable⟩ := each part_ulid part there
    exact usable.metadata.2.1
  · obtain ⟨source, _, _, usable⟩ := each part_ulid part there
    exact usable.compatible
  · obtain ⟨source, member, rfl, usable⟩ := each part_ulid part there
    exact ⟨source.listed, List.mem_map_of_mem member, rfl, found_in_scope scope found member,
      usable.metadata.2.2.2.2.1.symm⟩

/-- A sample of a part measured in this round is at fault, or no pair is. -/
def SparesStored (codec : Codec B) (config : AggregationConfig) (round_end computed_at_us : Nat) (world : World B)
    (error : AggregateError) : Prop :=
  Neutral error ∨ ∃ source part middle, ListedSource codec world.objects config round_end source ∧
    Fresh codec config computed_at_us world middle source part ∧ named_part error = some (ulid_of source)

theorem acceptable_round_spares (laws : ParquetLaws codec) {error : AggregateError}
    (acceptable : ∀ source truth sweep, ListedSource codec world.objects config round_end source →
      StoredPair world.objects config source truth sweep → Acceptable codec config source truth sweep)
    (run : Runs answer (run_cohort_round codec beta_reg config round_end computed_at computed_at_us) world
      (.failed (.Aggregate error)) world') : SparesStored codec config round_end computed_at_us world error := by
  rcases round_fails run with elsewhere | ⟨ending, middle, previous_round, rfl, rfl, supplied, failed⟩
  · exact .inl elsewhere.neutral
  obtain ⟨window_starts, scope, found⟩ := supplied.sources
  obtain ⟨used, sub, filled, _⟩ := supplied.pairs
  have listed : ∀ source ∈ used, ListedSource codec world.objects ending.config ending.round_end source :=
    fun source member => ⟨window_starts, scope, found.loaded source (sub.subset member)⟩
  have reused : ∀ source ∈ used, ∀ part, Reusable codec ending.config world.objects source part →
      WithinReceived part ∧ FirstsValid ending.config (ulid_of source) part := by
    rintro source member part ⟨paths, truth, sweep, named, truthFound, sweepFound, read, matching, compatible⟩
    exact (acceptable_iff read ⟨matching, compatible⟩).mp
      (acceptable source truth sweep (listed source member) ⟨paths, named, truthFound, sweepFound⟩)
  have composed := supplied_composed laws supplied previous_round
  rcases aggregate_fails composed error failed with neutral | ⟨headers, accounted, overflowed | invalid⟩
  · exact .inl neutral
  · -- the counts of reused and fresh pairs alike stay within the frames received
    obtain ⟨gathered, fits⟩ := gather_within composed accounted fun part_ulid part there => by
      obtain ⟨source, member, _, reusable | fresh⟩ := filled.values part_ulid part there
      · exact (reused source member part reusable).1
      · exact fresh_within laws fresh
    rw [fits] at overflowed
    cases overflowed
  · obtain ⟨survivor, member, named, refused⟩ := validate_population_names _ _ error invalid
    obtain ⟨part, inUse, sample, first, rfl⟩ := survivor_first member
    obtain ⟨part_ulid, there⟩ := mem_values.mp inUse
    obtain ⟨source, inside, rfl, reusable | fresh⟩ := filled.values part_ulid part there
    · have own : part.metadata.part_ulid = ulid_of source := composed.keyed _ part there
      rw [own] at refused
      exact absurd ((reused source inside part reusable).2 sample first) refused
    · exact .inr ⟨source, part, middle, listed source inside, fresh, named.trans (congrArg some (composed.keyed _ part there))⟩

/-- Which stored pairs heal, and what they spare a round. A pair of a listed source is rejected and its part measured
    again, or can make no aggregation fail, exactly when it is not accepted or its rows are wholesome; in a
    round over such pairs no aggregation error is due to a stored pair. -/
theorem stored_pairs_heal_iff (laws : ParquetLaws codec) (accepted : validate_aggregation_config config = .ok ())
    (clock : round_end < 2 ^ 64) :
    (∀ source truth sweep, ListedSource codec world.objects config round_end source →
      (Heals codec beta_reg config source truth sweep ↔ Acceptable codec config source truth sweep)) ∧
    ∀ computed_at computed_at_us error world',
      (∀ source truth sweep, ListedSource codec world.objects config round_end source →
        StoredPair world.objects config source truth sweep → Acceptable codec config source truth sweep) →
      Runs answer (run_cohort_round codec beta_reg config round_end computed_at computed_at_us) world
        (.failed (.Aggregate error)) world' → SparesStored codec config round_end computed_at_us world error := by
  refine ⟨fun source truth sweep listed => ?_, fun computed_at computed_at_us error world' acceptable run => ?_⟩
  · have limit : U64_MAX = 2 ^ 64 - 1 := rfl
    exact heals_iff accepted (by omega) listed
  · exact acceptable_round_spares laws acceptable run

/-! ### A pair without its sweeps -/

def aggregate_failure : Outcome PipelineError CohortRoundOutcome → Option AggregateError
  | .failed (.Aggregate error) => some error
  | _ => none

theorem aggregate_failure_some {outcome : Outcome PipelineError CohortRoundOutcome} {error : AggregateError}
    (failed : aggregate_failure outcome = some error) : outcome = .failed (.Aggregate error) := by
  unfold aggregate_failure at failed
  split at failed
  · cases failed
    rfl
  · cases failed

/-- Metadata of the small part, for one measured sample. -/
def sweeplessMetadata : IntermediateMetadata :=
  { smallMetadata with part_ulid := "01J00000000000000000000000", measured_count := 1 }
def sweeplessTruth : Body := .parquet (truth_file sweeplessMetadata [⟨0, 0, 1, 61000000, 1.0, [1], [0.0]⟩])
def sweeplessSweep : Body := .parquet (sweep_file sweeplessMetadata [])
def smallPairPath (finish : String) : Path :=
  ⟨["measurements", "prod", "window=19700101T0001Z", "part-01J00000000000000000000000" ++ finish]⟩
/-- The small segment beside a stored pair that has a truth row and no sweep row. -/
def sweeplessStore : World Body :=
  ⟨[(smallSource, .segment smallSegment), (smallPairPath ".truth.parquet", sweeplessTruth),
    (smallPairPath ".sweep.parquet", sweeplessSweep)], []⟩
def sweeplessRound : Outcome PipelineError CohortRoundOutcome × World Body :=
  smallRound 120 1 sweeplessStore (List.replicate 15 smallChoice)

def uploads (log : List (Event B)) : List Path :=
  log.filterMap fun
    | .uploaded path _ _ _ => some path
    | _ => none

/-- The pair is accepted, and the round over it fails although every request succeeds; nothing is uploaded that would heal it. -/
theorem sweepless_pair_wedges : (read_intermediate_pair_bytes smallCodec sweeplessTruth sweeplessSweep).toOption.map
      (fun part => (is_compatible smallConfig part, part.samples.length)) = some (true, 1) ∧
    aggregate_failure sweeplessRound.1 = some (.MissingSweep "01J00000000000000000000000" 0 1) ∧
    uploads sweeplessRound.2.log = [] := by
  have ran : (aggregate_failure sweeplessRound.1, uploads sweeplessRound.2.log) =
      (some (.MissingSweep "01J00000000000000000000000" 0 1), []) := by decide +kernel
  exact ⟨by decide +kernel, congrArg Prod.fst ran, congrArg Prod.snd ran⟩

/-! ### A measurement that is at fault itself -/

/-- Metadata of the small part, for its two samples. -/
def wholesomeMetadata : IntermediateMetadata := { smallMetadata with part_ulid := "01J00000000000000000000000" }
def wholesomeTruths : List TruthMeasurement := [⟨0, 10, 1, 61000000, 1.0, [1], [0.0]⟩, ⟨1, 11, 1, 62000000, 1.0, [1], [0.0]⟩]
def wholesomeSweeps : List SweepMeasurementRow :=
  [⟨0, 1, [1], 1.0, 1.0, 1⟩, ⟨0, 2, [1], 1.0, 2.0, 1⟩, ⟨1, 1, [1], 1.0, 1.0, 1⟩, ⟨1, 2, [1], 1.0, 2.0, 1⟩]
def wholesomeTruth : Body := .parquet (truth_file wholesomeMetadata wholesomeTruths)
def wholesomeSweep : Body := .parquet (sweep_file wholesomeMetadata wholesomeSweeps)
def otherSource : Path := Path.from_text "cohorts/prod/window=19700101T0001Z/part-01J00000000000000000000001.vseam"
/-- The small segment with a wholesome pair, and another segment that is still to be measured. -/
def pairedStore : World Body :=
  ⟨[(smallSource, .segment smallSegment), (smallPairPath ".truth.parquet", wholesomeTruth),
    (smallPairPath ".sweep.parquet", wholesomeSweep), (otherSource, .segment smallSegment)], []⟩

/-- Every request succeeds, and the ground truth of every sample took less than no time. -/
def negativeChoice : Choice := ⟨.ok [], .intact, .done, .ok { smallMeasurement with ground_truth_latency_ms := -1.0 }, false⟩
def negativeRound : Outcome PipelineError CohortRoundOutcome × World Body :=
  smallRound 120 1 pairedStore (List.replicate 25 negativeChoice)

/-- The pair is reused, and the part without one is at fault. -/
theorem negative_round_fails :
    aggregate_failure negativeRound.1 = some (.InvalidGroundTruthLatency "01J00000000000000000000001" 0) := by
  unfold negativeRound smallRound run_cohort_round survey_store
  simp only [list_source_objects_inserts]
  decide +kernel

theorem wholesome_pair_read : ∃ part, read_intermediate_pair_bytes smallCodec wholesomeTruth wholesomeSweep = .ok part ∧
    part.metadata.received_frame_count = 2 ∧ part.metadata.failed_count = 0 := by
  have counts : (read_intermediate_pair_bytes smallCodec wholesomeTruth wholesomeSweep).toOption.map
      (fun part => (part.metadata.received_frame_count, part.metadata.failed_count)) = some (2, 0) := by decide +kernel
  cases read : read_intermediate_pair_bytes smallCodec wholesomeTruth wholesomeSweep with
  | error error =>
    rw [read] at counts
    cases counts
  | ok part =>
    rw [read] at counts
    obtain ⟨received, failed⟩ := Prod.mk.inj (Option.some.inj counts)
    exact ⟨part, rfl, received, failed⟩

theorem wholesome_pair_acceptable (source : SourcePart) :
    Acceptable smallCodec smallConfig source wholesomeTruth wholesomeSweep := by
  intro part truth_rows sweep_rows read _ truths sweeps
  obtain ⟨own, ownRead, received, failed⟩ := wholesome_pair_read
  obtain rfl := Except.ok.inj (ownRead.symm.trans read)
  cases Except.ok.inj truths
  cases Except.ok.inj sweeps
  refine ⟨?_, ?_, fun row member _ => ?_⟩
  · rw [received]
    decide
  · rw [received, failed]
    decide
  · have sound : ∀ row ∈ wholesomeTruths, (row.latency_ms.isFinite = true ∧ 0.0 ≤ row.latency_ms) ∧
        ∀ ef ∈ smallConfig.ef_grid, ∃ sweep ∈ wholesomeSweeps, sweep.record_index = row.record_index ∧ sweep.ef = ef ∧
          (0.0 ≤ sweep.recall ∧ sweep.recall ≤ 1.0) ∧ sweep.latency_ms.isFinite = true ∧ 0.0 ≤ sweep.latency_ms := by
      decide +kernel
    exact sound row member

theorem unread_acceptable {source : SourcePart} {truth sweep : Body}
    (unread : (read_intermediate_pair_bytes smallCodec truth sweep).toOption.isNone) :
    Acceptable smallCodec smallConfig source truth sweep := by
  intro part _ _ read
  rw [read] at unread
  cases unread

/-- What the paired store has under a name of a pair is one of the two files. -/
theorem paired_file {path : Path} {body : Body} (root : path.root = some "measurements")
    (found : lookup pairedStore.objects path = some body) : body = wholesomeTruth ∨ body = wholesomeSweep := by
  have first : smallSource ≠ path := by
    rintro rfl
    exact absurd root (by decide)
  have last : otherSource ≠ path := by
    rintro rfl
    exact absurd root (by decide)
  simp only [pairedStore, lookup, first, last, ↓reduceIte] at found
  split at found
  · exact .inl (Option.some.inj found).symm
  split at found
  · exact .inr (Option.some.inj found).symm
  · cases found

theorem small_round_spares : StoredPair pairedStore.objects smallConfig
      ⟨smallSource, ⟨"01J00000000000000000000000", 60, 60, 2, 2⟩⟩ wholesomeTruth wholesomeSweep ∧
    SparesStored smallCodec smallConfig 120 1 pairedStore (.InvalidGroundTruthLatency "01J00000000000000000000001" 0) := by
  have outcome := aggregate_failure_some negative_round_fails
  refine ⟨?_, (stored_pairs_heal_iff smallCodec_laws.toParquetLaws (by decide) (by decide)).2 "1970-01-01T00:02:05Z" 1 _
    negativeRound.2 (fun source truth sweep _ stored => ?_)
    (⟨_, Prod.ext outcome rfl⟩ : Runs answer (run_cohort_round smallCodec smallBeta smallConfig 120 _ 1) _ _ _)⟩
  · exact ⟨(smallPairPath ".truth.parquet", smallPairPath ".sweep.parquet"), by decide, rfl, rfl⟩
  · obtain ⟨paths, named, truthFound, sweepFound⟩ := stored
    obtain ⟨truthRoot, sweepRoot⟩ := intermediate_paths_root named
    -- no other two of the files make a pair
    have unread : ∀ files ∈ [(wholesomeTruth, wholesomeTruth), (wholesomeSweep, wholesomeTruth),
        (wholesomeSweep, wholesomeSweep)], (read_intermediate_pair_bytes smallCodec files.1 files.2).toOption.isNone := by
      decide +kernel
    rcases paired_file truthRoot truthFound with rfl | rfl <;> rcases paired_file sweepRoot sweepFound with rfl | rfl
    · exact unread_acceptable (unread (wholesomeTruth, wholesomeTruth) (by simp))
    · exact wholesome_pair_acceptable source
    · exact unread_acceptable (unread (wholesomeSweep, wholesomeTruth) (by simp))
    · exact unread_acceptable (unread (wholesomeSweep, wholesomeSweep) (by simp))

end VectorSeam.Remeasuring
