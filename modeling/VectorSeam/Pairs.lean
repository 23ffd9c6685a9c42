import VectorSeam.Rounds
import VectorSeam.Deposits
import VectorSeam.Tallies

/-!
The pairs that a round may use for its sources. Reused or fresh, a pair is one of its
source under the round's settings, so that aggregation uses every one of them.
-/

namespace VectorSeam.Pairs
open VectorSeam.Model VectorSeam.ObjectStore VectorSeam.Window VectorSeam.Accounting VectorSeam.Aggregate
open VectorSeam.Intermediate VectorSeam.Measure VectorSeam.Effects VectorSeam.Programs VectorSeam.Pipeline
open VectorSeam.Requests VectorSeam.SortedMaps VectorSeam.SourceParts VectorSeam.Publishing VectorSeam.PendingParts
open VectorSeam.Rounds VectorSeam.Deposits VectorSeam.Tallies

variable {B : Type} {codec : Codec B} {beta_reg : Float → Float → Float → Float} {config : AggregationConfig}
  {computed_at_us : Nat} {world world' middle : World B} {window_starts : List Nat} {sources : List SourcePart}

/-! ### Sources -/

theorem source_paths_root {objects : Objects B} {cohort : String} {window_start : Nat} {path : Path}
    (member : path ∈ source_paths objects cohort window_start) : path.root = some "cohorts" := by
  unfold source_paths at member
  cases formatted : format_window_timestamp window_start with
  | error error => rw [formatted] at member; cases member
  | ok timestamp =>
    rw [formatted] at member
    obtain ⟨_, below⟩ := mem_listing.mp (List.mem_filter.mp member).1
    exact root_of_below below (window_path_root cohorts_segment cohort timestamp)

theorem found_root {objects : Objects B} (found : SourcesFound codec objects config window_starts sources) {source : SourcePart}
    (member : source ∈ sources) : source.path.root = some "cohorts" := by
  obtain ⟨window_start, _, listed, _⟩ := found.loaded source member
  exact source_paths_root listed

theorem found_named {objects : Objects B} (found : SourcesFound codec objects config window_starts sources) : Named sources := by
  refine ⟨fun source member => ?_, found.distinct⟩
  obtain ⟨_, _, _, loaded⟩ := found.loaded source member
  exact loaded.listed.1

/-! ### Usable pairs -/

/-- The pair is one of the source, under the settings of the config. -/
structure Usable (config : AggregationConfig) (source : SourcePart) (part : IntermediatePart) : Prop where
  matching : matches_source_metadata part source config.cohort = true
  compatible : is_compatible config part = true

theorem Usable.metadata {source : SourcePart} {part : IntermediatePart} (usable : Usable config source part) :
    part.metadata.cohort = config.cohort ∧ part.metadata.part_ulid = ulid_of source ∧
      part.metadata.window_start = source.listed.window_start ∧ part.metadata.window_seconds = source.listed.window_seconds ∧
      part.metadata.received_frame_count = source.listed.received_frame_count ∧
      part.metadata.record_count = source.listed.record_count := by
  have matching := usable.matching
  simp only [matches_source_metadata, Bool.and_eq_true, beq_iff_eq, and_assoc] at matching
  exact matching

theorem encode_ok {metadata : IntermediateMetadata} {truth_rows : List TruthMeasurement}
    {sweep_rows : List SweepMeasurementRow} {truth sweep : B} :
    encode_intermediate_pair codec metadata truth_rows sweep_rows = .ok (truth, sweep) ↔
      codec.write_parquet (truth_file metadata truth_rows) = .ok truth ∧
        codec.write_parquet (sweep_file metadata sweep_rows) = .ok sweep := by
  unfold encode_intermediate_pair
  simp only [Results.bind_ok, parquet_ok]
  constructor
  · rintro ⟨first, truthWritten, second, sweepWritten, built⟩
    cases built
    exact ⟨truthWritten, sweepWritten⟩
  · rintro ⟨truthWritten, sweepWritten⟩
    exact ⟨truth, truthWritten, sweep, sweepWritten, rfl⟩

/-- A part that was measured under the config is compatible with it. -/
theorem is_compatible_measured {prepared : PreparedPart} {part_ulid : String} {failed_count measured_count : Nat}
    {part : IntermediatePart}
    (same : part.metadata = measured_metadata prepared part_ulid config failed_count measured_count computed_at_us) :
    is_compatible config part = true := by
  simp [is_compatible, same, measured_metadata]

theorem fresh_usable (laws : ParquetLaws codec) {source : SourcePart} {part : IntermediatePart}
    (found : SourcesFound codec world.objects config window_starts sources) (member : source ∈ sources)
    (fresh : Fresh codec config computed_at_us world middle source part) : Usable config source part := by
  obtain ⟨before, after, measured, truth, sweep, kept, run, _, encoded, read⟩ := fresh
  obtain ⟨body, prepared, _, present, checked, inner, _, _⟩ := runs_measure_source run
  obtain ⟨window_start, _, listed, loaded⟩ := found.loaded source member
  obtain ⟨part_ulid, stored, prepared', named, storedFound, checked', same⟩ := loaded
  -- The object that was measured is the one that was listed: rounds leave it alone.
  have root := source_paths_root listed
  rw [kept source.path (by rw [root]; decide), storedFound] at present
  obtain rfl := Option.some.inj present
  obtain ⟨cohort, start, seconds⟩ := prepare_segment_ok checked'
  have listedStart : source.listed.window_start = window_start := by rw [same]; exact start
  rw [listedStart] at checked
  obtain rfl := Except.ok.inj (checked.symm.trans checked')
  obtain ⟨finish, rfl, _⟩ := measure_samples_tallied inner
  obtain ⟨truthWritten, sweepWritten⟩ := encode_ok.mp encoded
  obtain ⟨_, metadata, _⟩ := read_pair_written laws truthWritten sweepWritten read
  refine ⟨?_, is_compatible_measured metadata⟩
  have received : source.listed.received_frame_count = prepared.received_frame_count := by rw [same]; rfl
  have records : source.listed.record_count = prepared.record_count := by rw [same]; rfl
  have width : source.listed.window_seconds = prepared.window_seconds := by rw [same]; rfl
  simp [matches_source_metadata, metadata, measured_part, measured_metadata, cohort, start, listedStart, received, records,
    width]

theorem pair_usable (laws : ParquetLaws codec) {source : SourcePart} {part : IntermediatePart}
    (found : SourcesFound codec world.objects config window_starts sources) (member : source ∈ sources)
    (pair : Pair codec config computed_at_us world middle source part) : Usable config source part := by
  rcases pair with ⟨_, _, _, _, _, _, _, matching, compatible⟩ | fresh
  · exact ⟨matching, compatible⟩
  · exact fresh_usable laws found member fresh

/-! ### Aggregating pairs -/

/-- The windows in scope lie inside the rolling window. -/
theorem found_in_scope {ending : Ending} {previous_round : Option RoundOutput}
    (scope : in_scope_window_starts ending.round_end ending.config.window_duration_seconds
      ending.config.storage_window_seconds = .ok window_starts)
    (found : SourcesFound codec world.objects ending.config window_starts ending.sources) {source : SourcePart}
    (member : source ∈ ending.sources) : InScope (ending.input previous_round) source.listed := by
  obtain ⟨window_start, inside, _, loaded⟩ := found.loaded source member
  obtain ⟨_, start, seconds⟩ := loaded.listed
  obtain ⟨_, above, below⟩ := (mem_in_scope_window_starts scope window_start).mp inside
  rw [InScope, start, seconds]
  exact ⟨above, below⟩

/-- What aggregation makes of the pairs of a round: it uses all of them and finds none incompatible. -/
structure AllUsed (ending : Ending) (previous_round : Option RoundOutput) (surveyed : Survey) (used : List SourcePart) :
    Prop where
  survey : survey (ending.input previous_round) = .ok surveyed
  parts : surveyed.gathered.used = ending.compatible.toList.map Prod.snd
  ulids : (surveyed.gathered.used.map (·.metadata.part_ulid)).Perm (used.map ulid_of)
  incompatible : surveyed.gathered.incompatible_parts = ending.phase_a_incompatible_parts

theorem aggregate_pairs (laws : ParquetLaws codec) {ending : Ending} {previous_round : Option RoundOutput}
    {output : RoundOutput} {used : List SourcePart}
    (scope : in_scope_window_starts ending.round_end ending.config.window_duration_seconds
      ending.config.storage_window_seconds = .ok window_starts)
    (found : SourcesFound codec world.objects ending.config window_starts ending.sources)
    (sub : used.Sublist ending.sources)
    (filled : Filled ulid_of (Pair codec ending.config computed_at_us world middle) used ending.compatible)
    (published : aggregate beta_reg (ending.input previous_round) = .ok output) :
    ∃ surveyed, AllUsed ending previous_round surveyed used ∧ output.parts_used = surveyed.gathered.used.length ∧
      output.incompatible_parts = surveyed.gathered.incompatible_parts := by
  obtain ⟨surveyed, surveyFound, concluded⟩ := Results.bind_ok.mp published
  have keyed : ∀ entry ∈ ending.compatible.toList, ∃ source ∈ ending.sources, ulid_of source = entry.1 ∧
      Usable ending.config source entry.2 := by
    intro entry member
    obtain ⟨source, inside, key, pair⟩ := filled.mem_toList member
    exact ⟨source, sub.subset inside, key, pair_usable laws found (sub.subset inside) pair⟩
  have ulidOf : ∀ entry ∈ ending.compatible.toList, entry.2.metadata.part_ulid = entry.1 := by
    intro entry member
    obtain ⟨source, _, key, usable⟩ := keyed entry member
    rw [usable.metadata.2.1, key]
  have all : surveyed.gathered.used = ending.compatible.toList.map Prod.snd ∧
      surveyed.gathered.incompatible_parts = ending.phase_a_incompatible_parts := by
    refine survey_all_used surveyFound rfl ulidOf (fun entry member => ?_) fun entry member => ?_
    · obtain ⟨source, _, _, usable⟩ := keyed entry member
      exact usable.compatible
    · obtain ⟨source, inside, key, _⟩ := keyed entry member
      exact ⟨source.listed, List.mem_map_of_mem inside, key, found_in_scope scope found inside⟩
  refine ⟨surveyed, ⟨surveyFound, all.1, ?_, all.2⟩, ?_⟩
  · have keys : (ending.compatible.toList.map Prod.snd).map (·.metadata.part_ulid) = ending.compatible.toList.map Prod.fst := by
      rw [List.map_map]
      exact List.map_congr_left ulidOf
    rw [all.1, keys]
    exact filled.keys_perm (found.distinct.sublist (sub.map ulid_of))
  · obtain ⟨per_ef, selection, window_start, window_end, _, _, _, rfl⟩ := conclude_ok concluded
    exact ⟨rfl, rfl⟩

end VectorSeam.Pairs
