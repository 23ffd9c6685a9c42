import VectorSeam.Storage
import VectorSeam.Pairs
import VectorSeam.Occurrences

/-!
A measured part survives storage. What a completed measurement returns is written, read
back with the same metadata and joined to one sample for each truth row; the pair read
back belongs to its source, fits the config and passes the checks of the aggregation.
-/

namespace VectorSeam.Survival
open VectorSeam.Model VectorSeam.Binary64 VectorSeam.LittleEndian VectorSeam.Segments VectorSeam.SegmentLayout
open VectorSeam.Measure VectorSeam.Measurements VectorSeam.Effects VectorSeam.Programs VectorSeam.ObjectStore
open VectorSeam.Population VectorSeam.Aggregate VectorSeam.Accounting VectorSeam.Intermediate VectorSeam.Tallies
open VectorSeam.Storage VectorSeam.Occurrences VectorSeam.Pipeline VectorSeam.Pairs

variable {B : Type} {config : AggregationConfig} {world world' : World B}

/-! ### Sound answers -/

/-- A finite duration that is not negative. -/
def Duration (latency : Float) : Prop := latency.isFinite = true ∧ 0.0 ≤ latency
/-- A share between zero and one. -/
def Share (share : Float) : Prop := 0.0 ≤ share ∧ share ≤ 1.0

/-- A measurement with recalls in [0, 1] and finite latencies that are not negative. -/
structure Sound (measured : SampleMeasurement) : Prop where
  ground_truth : Duration measured.ground_truth_latency_ms
  sweeps : ∀ sweep ∈ measured.sweeps, Share sweep.recall ∧ Duration sweep.latency_ms

/-- Every measurement answered in a log is sound. -/
def AllSound (log : List (Event B)) : Prop :=
  ∀ vector config measured, Event.measured vector config (.ok measured) ∈ log → Sound measured

theorem AllSound.tail {event : Event B} {log : List (Event B)} (sound : AllSound (event :: log)) : AllSound log :=
  fun vector config measured member => sound vector config measured (List.mem_cons_of_mem _ member)

/-- Rows with sound values. -/
structure SoundRows (measuring : Measuring) : Prop where
  truth : ∀ row ∈ measuring.truth_rows, Duration row.latency_ms
  sweep : ∀ row ∈ measuring.sweep_rows, Share row.recall ∧ Duration row.latency_ms

theorem sweep_row_sound {sample : PreparedSample} {sweep : SampleSweepResult} {row : SweepMeasurementRow}
    (found : sweep_row sample sweep = .ok row) : row.recall = sweep.recall ∧ row.latency_ms = sweep.latency_ms := by
  unfold sweep_row at found
  obtain ⟨_, built⟩ := Results.guard_ok.mp found
  obtain rfl := Except.ok.inj built
  exact ⟨rfl, rfl⟩

theorem take_measurement_sound {sample : PreparedSample} {receive_time_us : Int} {measured : SampleMeasurement}
    {measuring taken : Measuring} (found : take_measurement config sample receive_time_us measured measuring = .ok taken)
    (sound : Sound measured) (rows : SoundRows measuring) : SoundRows taken := by
  unfold take_measurement at found
  by_cases shaped : well_shaped config measured
  · rw [if_neg (not_not.mpr shaped)] at found
    obtain ⟨sweeps, made, built⟩ := Results.bind_ok.mp found
    obtain rfl := Except.ok.inj built
    refine ⟨fun row member => ?_, fun row member => ?_⟩
    · rcases List.mem_append.mp member with earlier | own
      · exact rows.truth row earlier
      · obtain rfl := List.mem_singleton.mp own
        exact sound.ground_truth
    · rcases List.mem_append.mp member with earlier | own
      · exact rows.sweep row earlier
      · obtain ⟨sweep, present, same⟩ := Results.mem_of_mapM made own
        obtain ⟨shares, latencies⟩ := sweep_row_sound same
        rw [shares, latencies]
        exact sound.sweeps sweep present
  · rw [if_pos shaped] at found
    obtain rfl := Except.ok.inj found
    exact ⟨rows.truth, rows.sweep⟩

/-- Sound answers make sound rows. -/
theorem measures_sound {samples : List PreparedSample} {measuring finish : Measuring} {block : List (Event B)}
    (measures : Taken config samples measuring block finish) (sound : AllSound block) (rows : SoundRows measuring) :
    SoundRows finish := by
  induction measures with
  | done => exact rows
  | unasked _ _ ih => exact ih sound.tail ⟨rows.truth, rows.sweep⟩
  | failed _ _ _ _ ih => exact ih sound.tail.tail ⟨rows.truth, rows.sweep⟩
  | answered _ _ took _ ih =>
    have own := sound _ _ _ (List.mem_cons_of_mem _ List.mem_cons_self)
    exact ih sound.tail.tail (take_measurement_sound took own rows)

/-! ### Rows that join -/

theorem tallied_joinable {samples : List PreparedSample} {finish : Measuring}
    (ordered : samples.Pairwise fun left right => left.record_index < right.record_index) (chain : config.ef_grid.Pairwise (· < ·))
    (tallied : Tallied config samples ⟨0, [], []⟩ finish) : Joinable finish.truth_rows finish.sweep_rows := by
  obtain ⟨truths, sweeps, truthRows, sweepRows, _, ordinals, keys⟩ := tallied
  rw [List.nil_append] at truthRows sweepRows
  rw [truthRows, sweepRows]
  have ordinalsOrdered : (samples.map (·.record_index)).Pairwise (· < ·) := List.pairwise_map.mpr ordered
  have increasing : truths.Pairwise fun left right => left.record_index < right.record_index :=
    List.pairwise_map.mp (ordinalsOrdered.sublist ordinals)
  rw [grid_keys_product] at keys
  refine ⟨increasing, ?_, fun row member => ?_⟩
  · rw [keys]
    have distinctOrdinals : (truths.map (·.record_index)).Nodup :=
      List.pairwise_map.mpr (increasing.imp fun less => ne_of_lt less)
    have distinctEfs : config.ef_grid.Nodup := chain.imp fun less => ne_of_lt less
    exact distinctOrdinals.product distinctEfs
  · have key : (row.record_index, row.ef) ∈ sweep_keys sweeps := List.mem_map_of_mem member
    rw [keys, List.pair_mem_product] at key
    exact key.1

/-- Every grid value of a truth row has its sweep row. -/
theorem tallied_swept {samples : List PreparedSample} {finish : Measuring} (tallied : Tallied config samples ⟨0, [], []⟩ finish)
    {row : TruthMeasurement} (member : row ∈ finish.truth_rows) {ef : Int} (inGrid : ef ∈ config.ef_grid) :
    ∃ sweep ∈ finish.sweep_rows, sweep.record_index = row.record_index ∧ sweep.ef = ef := by
  obtain ⟨truths, sweeps, truthRows, sweepRows, _, _, keys⟩ := tallied
  rw [List.nil_append] at truthRows sweepRows
  rw [truthRows] at member
  rw [sweepRows]
  have key : (row.record_index, ef) ∈ sweep_keys sweeps := by
    rw [keys, grid_keys_product, List.pair_mem_product]
    exact ⟨List.mem_map_of_mem member, inGrid⟩
  obtain ⟨sweep, present, same⟩ := List.mem_map.mp key
  exact ⟨sweep, present, congrArg Prod.fst same, congrArg Prod.snd same⟩

/-! ### Numbers that fit -/

theorem grid_fits (valid : ConfigValid config) :
    (∀ ef ∈ config.ef_grid, -(2 ^ 31 : Int) ≤ ef ∧ ef < 2 ^ 31) ∧ config.k < 2 ^ 32 := by
  obtain ⟨some, chain, least, most⟩ := of_decide_eq_true valid.grid_valid
  obtain ⟨first, rest, same⟩ := List.exists_cons_of_ne_nil some
  have firstHigh := most first (by rw [same]; exact List.mem_cons_self)
  have ordered := valid.grid_chain.2
  rw [same, List.headD_cons] at least
  have limits : MAX_EF_SEARCH = 1000 ∧ I32_MAX = 2 ^ 31 - 1 := ⟨rfl, rfl⟩
  have bounds : 0 ≤ first ∧ config.k < 2 ^ 32 := by
    by_cases small : (config.k : Int) ≤ I32_MAX
    · rw [if_pos small] at least
      omega
    · rw [if_neg small] at least
      omega
  refine ⟨fun ef member => ?_, ?_⟩
  · have high := most ef member
    have low : first ≤ ef := by
      rw [same] at member ordered
      rcases List.mem_cons.mp member with rfl | later
      · exact le_refl _
      · exact le_of_lt ((List.pairwise_cons.mp ordered).1 ef later)
    omega
  · exact bounds.2

theorem prepared_fits {bytes : Bytes} {expected_cohort : String} {expected_window_start expected_window_seconds : Nat}
    {prepared : PreparedPart}
    (found : prepare_segment bytes expected_cohort expected_window_start expected_window_seconds = .ok prepared) :
    prepared.window_start < 2 ^ 64 ∧ prepared.window_seconds < 2 ^ 32 ∧ prepared.received_frame_count < 2 ^ 64 ∧
      prepared.record_count < 2 ^ 64 := by
  unfold prepare_segment at found
  cases read : read_segment bytes with
  | error error => rw [read] at found; cases found
  | ok segment =>
    rw [read] at found
    obtain ⟨_, found⟩ := Results.check_ok.mp found
    obtain ⟨entries, _, built⟩ := Results.bind_ok.mp found
    obtain rfl := Except.ok.inj built
    obtain ⟨extra, fits, _⟩ := read_segment_iff.mp read
    exact ⟨fits.header.window_start, fits.header.window_seconds, fits.header.received_frame_count, fits.header.record_count⟩

theorem metadata_fits {bytes : Bytes} {expected_cohort part_ulid : String}
    {expected_window_start expected_window_seconds computed_at_us : Nat} {prepared : PreparedPart} {finish : Measuring}
    (found : prepare_segment bytes expected_cohort expected_window_start expected_window_seconds = .ok prepared)
    (valid : ConfigValid config) (clock : computed_at_us < 2 ^ 64) (tallied : Tallied config prepared.samples ⟨0, [], []⟩ finish) :
    MetadataFits (measured_part prepared part_ulid config computed_at_us finish).metadata := by
  obtain ⟨start, seconds, received, records⟩ := prepared_fits found
  obtain ⟨grid, k⟩ := grid_fits valid
  obtain ⟨segment, _, samples, few, _⟩ := prepare_segment_samples found
  obtain ⟨truths, _, truthRows, _, counts, _, _⟩ := tallied
  rw [List.nil_append] at truthRows
  have each : finish.failed_count + truths.length = prepared.samples.length := by simpa using counts
  exact {
    format_version := by show 1 < 2 ^ 32; omega
    window_start := start
    window_seconds := seconds
    received_frame_count := received
    record_count := records
    k := k
    ef_grid := grid
    failed_count := by show finish.failed_count < 2 ^ 64; omega
    measured_count := by show finish.truth_rows.length < 2 ^ 64; rw [truthRows]; omega
    computed_at_us := clock }

/-! ### Acceptance -/

theorem written_pair_reads {codec : Codec B} (laws : ParquetLaws codec) {metadata : IntermediateMetadata}
    {truth_rows : List TruthMeasurement} {sweep_rows : List SweepMeasurementRow} {truth sweep : B}
    (encoded : encode_intermediate_pair codec metadata truth_rows sweep_rows = .ok (truth, sweep))
    (fits : MetadataFits metadata) (counted : metadata.measured_count = truth_rows.length)
    (joinable : Joinable truth_rows sweep_rows) :
    ∃ part, read_intermediate_pair_bytes codec truth sweep = .ok part ∧ part.metadata = metadata ∧
      List.Forall₂ (Restored sweep_rows) truth_rows part.samples := by
  obtain ⟨truthWritten, sweepWritten⟩ := encode_ok.mp encoded
  obtain ⟨truthSchema, truthEntries⟩ := laws.key_values truthWritten
  obtain ⟨sweepSchema, sweepEntries⟩ := laws.key_values sweepWritten
  obtain ⟨truths, samples, inserted, size, joined, restored⟩ := joined_again joinable
  refine ⟨⟨metadata, samples.toList.map Prod.snd⟩, ?_, rfl, restored⟩
  refine Results.bind_ok.mpr ⟨_, parquet_ok.mpr truthEntries, ?_⟩
  refine Results.bind_ok.mpr ⟨_, written_metadata_reads fits truthSchema, ?_⟩
  refine Results.bind_ok.mpr ⟨_, parquet_ok.mpr sweepEntries, ?_⟩
  refine Results.bind_ok.mpr ⟨_, written_metadata_reads fits sweepSchema, ?_⟩
  refine Results.guard_ok.mpr ⟨not_not.mpr rfl, ?_⟩
  refine Results.bind_ok.mpr ⟨_, parquet_ok.mpr (laws.table truthWritten), ?_⟩
  refine Results.bind_ok.mpr ⟨_, inserted, ?_⟩
  refine Results.guard_ok.mpr ⟨not_not.mpr (counted.trans size.symm), ?_⟩
  refine Results.bind_ok.mpr ⟨_, parquet_ok.mpr (laws.table sweepWritten), ?_⟩
  exact Results.bind_ok.mpr ⟨_, joined, rfl⟩

/-- The aggregation accepts a sample that was restored from sound rows. -/
theorem restored_validates {samples : List PreparedSample} {finish : Measuring} {row : TruthMeasurement} {sample : MeasuredSample}
    (tallied : Tallied config samples ⟨0, [], []⟩ finish) (sound : SoundRows finish) (member : row ∈ finish.truth_rows)
    (restored : Restored finish.sweep_rows row sample) (part_ulid : String) :
    validate_sample config.ef_grid (candidate part_ulid sample) = .ok () := by
  obtain ⟨finite, nonnegative⟩ := sound.truth row member
  refine Results.guard_ok.mpr ⟨?_, Results.forM_ok.mpr fun ef inGrid => ?_⟩
  · simp [candidate, restored.latency, finite, not_lt_of_le nonnegative]
  · obtain ⟨sweep, present, sameRecord, sameEf⟩ := tallied_swept tallied member inGrid
    have stored := (restored.sweeps ef (observation sweep)).mpr ⟨sweep, present, sameRecord, sameEf, rfl⟩
    obtain ⟨share, latencyFinite, latencyNonnegative⟩ := sound.sweep sweep present
    have recallFinite : sweep.recall.isFinite = true := isFinite_of_between share.1 share.2 (by decide) (by decide)
    refine Results.bind_ok.mpr ⟨observation sweep, ?_, Results.guard_ok.mpr ⟨?_, rfl⟩⟩
    · rw [show (candidate part_ulid sample).sweeps[ef]? = some (observation sweep) from stored]
      rfl
    · simp [observation, recallFinite, latencyFinite, share.1, share.2, not_lt_of_le latencyNonnegative]

/-- What is read back of a measured part, for the source it was measured from. -/
structure Survives (config : AggregationConfig) (source : SourcePart) (measured : MeasuredPart) (part : IntermediatePart) :
    Prop where
  metadata : part.metadata = measured.metadata
  samples : List.Forall₂ (Restored measured.sweep_rows) measured.truth_rows part.samples
  ordered : part.samples.Pairwise fun left right => left.record_index < right.record_index
  matching : matches_source_metadata part source config.cohort = true
  compatible : is_compatible config part = true
  validated : validate_population (part.samples.map (candidate source.listed.part_ulid)) config.ef_grid = .ok ()

theorem restored_ordered {sweep_rows : List SweepMeasurementRow} {truth_rows : List TruthMeasurement} {samples : List MeasuredSample}
    (restored : List.Forall₂ (Restored sweep_rows) truth_rows samples)
    (ordered : truth_rows.Pairwise fun left right => left.record_index < right.record_index) :
    samples.Pairwise fun left right => left.record_index < right.record_index := by
  have same : truth_rows.map (·.record_index) = samples.map (·.record_index) := by
    rw [← List.forall₂_eq_eq_eq, List.forall₂_map_left_iff, List.forall₂_map_right_iff]
    exact restored.imp fun _ _ one => one.record_index.symm
  have ordinals : (truth_rows.map (·.record_index)).Pairwise (· < ·) := List.pairwise_map.mpr ordered
  rw [same] at ordinals
  exact List.pairwise_map.mp ordinals

theorem restored_from {sweep_rows : List SweepMeasurementRow} {truth_rows : List TruthMeasurement} {samples : List MeasuredSample}
    (restored : List.Forall₂ (Restored sweep_rows) truth_rows samples) {sample : MeasuredSample} (member : sample ∈ samples) :
    ∃ row ∈ truth_rows, Restored sweep_rows row sample := by
  induction restored with
  | nil => cases member
  | cons head _ ih =>
    rcases List.mem_cons.mp member with rfl | later
    · exact ⟨_, List.mem_cons_self, head⟩
    · obtain ⟨row, present, own⟩ := ih later
      exact ⟨row, List.mem_cons_of_mem _ present, own⟩

/-- A part measured with sound answers survives storage: its pair is read back as it was measured, and
    the next round under the same config uses it. -/
theorem measured_part_survives {codec : Codec B} (laws : ParquetLaws codec) {bytes : Bytes} {part_ulid : String} {path : Path}
    {expected_window_start expected_window_seconds computed_at_us : Nat} {prepared : PreparedPart} {measured : MeasuredPart}
    {truth sweep : B}
    (found : prepare_segment bytes config.cohort expected_window_start expected_window_seconds = .ok prepared)
    (accepted : validate_aggregation_config config = .ok ()) (clock : computed_at_us < 2 ^ 64)
    (run : Runs answer (measure_prepared_part prepared part_ulid config computed_at_us) world
      (.returned (.Complete measured)) world')
    (sound : AllSound (world'.log.drop world.log.length))
    (encoded : encode_intermediate_pair codec measured.metadata measured.truth_rows measured.sweep_rows = .ok (truth, sweep)) :
    ∃ part, read_intermediate_pair_bytes codec truth sweep = .ok part ∧
      Survives config (source_part path part_ulid prepared) measured part ∧
      ∀ classified, classify_pair config (source_part path part_ulid prepared) (read_intermediate_pair_bytes codec truth sweep)
        classified = .ok { classified with compatible := classified.compatible.insert part_ulid part } := by
  have valid := validate_aggregation_config_ok.mp accepted
  obtain ⟨segment, entries, _, _, _, entered, held⟩ := prepared_records found
  have ordered := held.partitioned.ordered
  rw [← entered] at ordered
  obtain ⟨block, finish, logged, rfl, measures⟩ := measure_samples_complete run
  have tallied := measures_tallied measures
  have own : world'.log.drop world.log.length = block := by rw [logged, List.drop_left]
  rw [own] at sound
  have rows := measures_sound measures sound ⟨nofun, nofun⟩
  have joinable := tallied_joinable ordered valid.grid_chain.2 tallied
  obtain ⟨part, read, metadata, samples⟩ :=
    written_pair_reads laws encoded (metadata_fits found valid clock tallied) rfl joinable
  have cohort := (prepare_segment_ok found).1
  have survives : Survives config (source_part path part_ulid prepared)
      (measured_part prepared part_ulid config computed_at_us finish) part := {
    metadata
    samples
    ordered := restored_ordered samples joinable.ordered
    matching := by simp [matches_source_metadata, metadata, measured_part, measured_metadata, source_part, cohort]
    compatible := is_compatible_measured metadata
    validated := by
      refine Results.forM_ok.mpr fun sample member => ?_
      obtain ⟨original, present, rfl⟩ := List.mem_map.mp member
      obtain ⟨row, rowPresent, restored⟩ := restored_from samples present
      exact restored_validates tallied rows rowPresent restored part_ulid }
  refine ⟨part, read, survives, fun classified => ?_⟩
  rw [read, classify_pair]
  simp only [survives.matching, survives.compatible, Bool.and_self, ↓reduceIte]
  rfl

/-! ### The small part -/

def completed {ε : Type} : Outcome ε MeasurePartOutcome → Option MeasuredPart
  | .returned (.Complete measured) => some measured
  | _ => none
def answers (log : List (Event B)) : List SampleMeasurement :=
  log.filterMap fun
    | .measured _ _ (.ok measured) => some measured
    | _ => none

/-- The small part, measured with the small measurer. -/
def smallAttempt (prepared : PreparedPart) : Outcome PreparePartError MeasurePartOutcome × World Body :=
  (measure_prepared_part prepared "01J00000000000000000000000" smallConfig 1).exec answer smallStore
    (List.replicate 4 smallChoice)

theorem small_part_completed : ∃ prepared measured, prepare_segment smallSegment smallConfig.cohort 60 60 = .ok prepared ∧
    completed (smallAttempt prepared).1 = some measured ∧
    answers (smallAttempt prepared).2.log = [smallMeasurement, smallMeasurement] := by
  have answered : ((prepare_segment smallSegment smallConfig.cohort 60 60).toOption.map fun prepared =>
      ((completed (smallAttempt prepared).1).isSome, answers (smallAttempt prepared).2.log)) =
      some (true, [smallMeasurement, smallMeasurement]) := by decide +kernel
  cases outcome : prepare_segment smallSegment smallConfig.cohort 60 60 with
  | error error => rw [outcome] at answered; cases answered
  | ok prepared =>
    rw [outcome] at answered
    obtain ⟨ends, logged⟩ := Prod.mk.inj (Option.some.inj answered)
    obtain ⟨measured, same⟩ := Option.isSome_iff_exists.mp ends
    exact ⟨prepared, measured, rfl, same, logged⟩

theorem small_measurement_sound : Sound smallMeasurement where
  ground_truth := ⟨by decide, by decide⟩
  sweeps := by
    intro sweep member
    have either : sweep = ⟨1, [1], 1.0, 1.0⟩ ∨ sweep = ⟨2, [1], 1.0, 2.0⟩ := by simpa [smallMeasurement] using member
    rcases either with rfl | rfl
    · exact ⟨⟨by decide, by decide⟩, by decide, by decide⟩
    · exact ⟨⟨by decide, by decide⟩, by decide, by decide⟩

theorem small_part_survives : ∃ prepared measured truth sweep part,
    prepare_segment smallSegment smallConfig.cohort 60 60 = .ok prepared ∧
      read_intermediate_pair_bytes smallCodec truth sweep = .ok part ∧
      Survives smallConfig (source_part smallSource "01J00000000000000000000000" prepared) measured part := by
  obtain ⟨prepared, measured, found, ends, logged⟩ := small_part_completed
  have outcome : (smallAttempt prepared).1 = .returned (.Complete measured) := by
    unfold completed at ends
    split at ends
    · rename_i same
      cases ends
      exact same
    · cases ends
  have sound : AllSound ((smallAttempt prepared).2.log.drop smallStore.log.length) := by
    intro vector config answered member
    have given : answered ∈ answers (smallAttempt prepared).2.log :=
      List.mem_filterMap.mpr ⟨_, List.mem_of_mem_drop member, rfl⟩
    rw [logged] at given
    have same : answered = smallMeasurement := by simpa using given
    rw [same]
    exact small_measurement_sound
  obtain ⟨part, read, survives, _⟩ := measured_part_survives smallCodec_laws.toParquetLaws found (by decide) (by decide)
    ⟨_, Prod.ext outcome rfl⟩ sound rfl
  exact ⟨prepared, measured, _, _, part, found, read, survives⟩

end VectorSeam.Survival
