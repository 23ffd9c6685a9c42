import VectorSeam.PendingParts
import VectorSeam.Measurements

/-!
What the rows of a measured part add up to. Every sample of a segment is counted once,
as failed or as a truth row, and a truth row comes with one sweep row for each value of
the grid. The samples of a segment are its distinct vectors.
-/

namespace VectorSeam.Tallies
open VectorSeam.Model VectorSeam.LittleEndian VectorSeam.Frame VectorSeam.Segments VectorSeam.Intermediate
open VectorSeam.Measure VectorSeam.Measurements VectorSeam.Effects VectorSeam.Programs VectorSeam.Pipeline VectorSeam.Requests VectorSeam.ObjectStore

variable {B : Type} {config : AggregationConfig} {world world' : World B}

/-! ### Rows of measured samples -/

/-- The record ordinals and grid values that sweep rows are identified by. -/
def sweep_keys (rows : List SweepMeasurementRow) : List (Int × Int) := rows.map fun row => (row.record_index, row.ef)
/-- One key for every truth row and grid value. -/
def grid_keys (grid : List Int) (rows : List TruthMeasurement) : List (Int × Int) :=
  rows.flatMap fun row => grid.map fun ef => (row.record_index, ef)

/-- The samples were counted once each, between two states of the counters and rows. -/
def Tallied (config : AggregationConfig) (samples : List PreparedSample) (start finish : Measuring) : Prop :=
  ∃ truths sweeps, finish.truth_rows = start.truth_rows ++ truths ∧ finish.sweep_rows = start.sweep_rows ++ sweeps ∧
    finish.failed_count + truths.length = start.failed_count + samples.length ∧
    (truths.map (·.record_index)).Sublist (samples.map (·.record_index)) ∧
    sweep_keys sweeps = grid_keys config.ef_grid truths

theorem Tallied.refl (measuring : Measuring) : Tallied config [] measuring measuring :=
  ⟨[], [], by simp, by simp, by simp, by simp, rfl⟩

/-- One more sample that failed. -/
theorem Tallied.failed {sample : PreparedSample} {rest : List PreparedSample} {measuring finish : Measuring}
    (tallied : Tallied config rest { measuring with failed_count := measuring.failed_count + 1 } finish) :
    Tallied config (sample :: rest) measuring finish := by
  obtain ⟨truths, sweeps, truthRows, sweepRows, count, ordinals, keys⟩ := tallied
  refine ⟨truths, sweeps, truthRows, sweepRows, ?_, ordinals.cons _, keys⟩
  simp only [List.length_cons] at count ⊢
  omega

/-- One more sample with its rows. -/
theorem Tallied.measured {sample : PreparedSample} {rest : List PreparedSample} {measuring finish : Measuring}
    {truth : TruthMeasurement} {sweeps : List SweepMeasurementRow} (ordinal : truth.record_index = sample.record_index)
    (keys : sweep_keys sweeps = config.ef_grid.map fun ef => (sample.record_index, ef))
    (tallied : Tallied config rest { measuring with
      truth_rows := measuring.truth_rows ++ [truth], sweep_rows := measuring.sweep_rows ++ sweeps } finish) :
    Tallied config (sample :: rest) measuring finish := by
  obtain ⟨truths, later, truthRows, sweepRows, count, ordinals, laterKeys⟩ := tallied
  refine ⟨truth :: truths, sweeps ++ later, by simpa using truthRows, by simpa using sweepRows, ?_, ?_, ?_⟩
  · simp only [List.length_cons] at count ⊢
    omega
  · rw [List.map_cons, List.map_cons, ordinal]
    exact ordinals.cons_cons _
  · rw [sweep_keys, List.map_append, grid_keys, List.flatMap_cons, ordinal]
    exact congrArg₂ (· ++ ·) keys laterKeys

/-- Sweeps of the requested shape are one for each grid value, in grid order. -/
theorem well_shaped_efs {measured : SampleMeasurement} (shaped : well_shaped config measured = true) :
    measured.sweeps.map (·.ef) = config.ef_grid := by
  simp only [well_shaped, Bool.and_eq_true, beq_iff_eq, List.all_eq_true] at shaped
  obtain ⟨⟨_, lengths⟩, each⟩ := shaped
  have pairwise : ∀ (sweeps : List SampleSweepResult) (grid : List Int), sweeps.length = grid.length →
      (∀ pair ∈ sweeps.zip grid, pair.1.ef = pair.2) → sweeps.map (·.ef) = grid := by
    intro sweeps
    induction sweeps with
    | nil =>
      intro grid same _
      exact (List.length_eq_zero_iff.mp same.symm).symm
    | cons sweep rest ih =>
      intro grid same agree
      cases grid with
      | nil => cases same
      | cons ef others =>
        rw [List.map_cons, ih others (Nat.succ.inj same) fun pair member => agree pair (List.mem_cons_of_mem _ member)]
        exact congrArg (· :: others) (agree (sweep, ef) (by simp))
  exact pairwise measured.sweeps config.ef_grid lengths each

private theorem sweep_row_key {sample : PreparedSample} {sweep : SampleSweepResult} {row : SweepMeasurementRow}
    (found : sweep_row sample sweep = .ok row) : (row.record_index, row.ef) = (sample.record_index, sweep.ef) := by
  unfold sweep_row at found
  by_cases large : I32_MAX < sweep.returned_keys.length
  · rw [if_pos large] at found
    cases found
  · rw [if_neg large] at found
    obtain rfl := Except.ok.inj found
    rfl

/-- Rows made from sweeps are keyed by the record ordinal and the sweeps' values. -/
theorem sweep_rows_keys {sample : PreparedSample} {sweeps : List SampleSweepResult} {rows : List SweepMeasurementRow}
    (made : List.Forall₂ (fun sweep row => sweep_row sample sweep = .ok row) sweeps rows) :
    sweep_keys rows = sweeps.map fun sweep => (sample.record_index, sweep.ef) := by
  induction made with
  | nil => rfl
  | cons found _ ih => exact congrArg₂ List.cons (sweep_row_key found) ih

theorem take_measurement_tallied {sample : PreparedSample} {rest : List PreparedSample} {receive_time_us : Int}
    {measured : SampleMeasurement} {measuring taken finish : Measuring}
    (found : take_measurement config sample receive_time_us measured measuring = .ok taken)
    (tallied : Tallied config rest taken finish) : Tallied config (sample :: rest) measuring finish := by
  unfold take_measurement at found
  by_cases misshapen : ¬well_shaped config measured
  · rw [if_pos misshapen] at found
    obtain rfl := Except.ok.inj found
    exact tallied.failed
  · rw [if_neg misshapen] at found
    obtain ⟨rows, mapped, built⟩ := Results.bind_ok.mp found
    obtain rfl := Except.ok.inj built
    refine tallied.measured rfl ?_
    rw [sweep_rows_keys (Results.mapM_ok.mp mapped), ← well_shaped_efs (not_not.mp misshapen), List.map_map]
    rfl

/-- A measurement that completed has counted every sample once. -/
theorem measures_tallied {samples : List PreparedSample} {measuring finish : Measuring} {block : List (Event B)}
    (measures : Taken config samples measuring block finish) : Tallied config samples measuring finish := by
  induction measures with
  | done measuring => exact .refl measuring
  | unasked _ _ tallied => exact tallied.failed
  | failed _ _ _ _ tallied => exact tallied.failed
  | answered _ _ took _ tallied => exact take_measurement_tallied took tallied

theorem measure_samples_tallied {part : PreparedPart} {part_ulid : String} {computed_at_us : Nat}
    {samples : List PreparedSample} {measuring : Measuring} {measured : MeasuredPart}
    (run : Runs answer (measure_samples part part_ulid config computed_at_us samples measuring) world
      (.returned (.Complete measured)) world') :
    ∃ finish, measured = measured_part part part_ulid config computed_at_us finish ∧
      Tallied config samples measuring finish := by
  obtain ⟨block, finish, -, same, measures⟩ := measure_samples_complete run
  exact ⟨finish, same, measures_tallied measures⟩

/-! ### Distinct vectors of a segment -/

/-- The vector bytes of a record, when its frame header parses. -/
def record_vector (record : SegmentRecord) : Option Bytes :=
  match parse_frame_header record.frame with
  | .ok header => some (record.frame.drop (FIXED_FRAME_HEADER_LEN + header.name_len))
  | .error _ => none
/-- The number of distinct vector byte strings in a list of records. -/
def distinct_vectors (records : List SegmentRecord) : Nat := (records.filterMap record_vector).dedup.length

/-- The entries are the vectors seen, each once. -/
structure Entered (entries : Entries) (seen : List Bytes) : Prop where
  member : ∀ vector, vector ∈ entries.map Prod.fst ↔ vector ∈ seen
  distinct : (entries.map Prod.fst).Nodup

private theorem count_duplicate_keys {vector_bytes : Bytes} {entries result : Entries}
    (found : count_duplicate vector_bytes entries = .ok result) : result.map Prod.fst = entries.map Prod.fst := by
  induction entries generalizing result with
  | nil =>
    obtain rfl := Except.ok.inj found
    rfl
  | cons entry rest ih =>
    unfold count_duplicate at found
    by_cases here : entry.1 = vector_bytes
    · rw [if_pos here] at found
      by_cases full : I32_MAX < entry.2.dup_count + 1
      · rw [if_pos full] at found
        cases found
      · rw [if_neg full] at found
        obtain rfl := Except.ok.inj found
        rfl
    · rw [if_neg here] at found
      obtain ⟨others, later, built⟩ := Results.bind_ok.mp found
      obtain rfl := Except.ok.inj built
      rw [List.map_cons, List.map_cons, ih later]

theorem prepare_record_entered {expected_cohort : String} {record_index : Nat} {record : SegmentRecord}
    {entries result : Entries} {seen : List Bytes}
    (found : prepare_record expected_cohort record_index record entries = .ok result) (entered : Entered entries seen) :
    ∃ vector, record_vector record = some vector ∧ Entered result (seen ++ [vector]) := by
  unfold prepare_record at found
  unfold record_vector
  cases parsed : parse_frame_header record.frame with
  | error error => rw [parsed] at found; cases found
  | ok header =>
    rw [parsed] at found
    refine ⟨_, rfl, ?_⟩
    obtain ⟨vector, vectorSame⟩ : ∃ vector, vector = record.frame.drop (FIXED_FRAME_HEADER_LEN + header.name_len) := ⟨_, rfl⟩
    simp only [← vectorSame] at found ⊢
    by_cases present : ∃ entry ∈ entries, entry.1 = vector
    · rw [if_pos present] at found
      have keys := count_duplicate_keys found
      refine ⟨fun other => ?_, keys ▸ entered.distinct⟩
      obtain ⟨entry, member, same⟩ := present
      have already : vector ∈ seen := (entered.member vector).mp (List.mem_map.mpr ⟨entry, member, same⟩)
      rw [keys, entered.member, List.mem_append, List.mem_singleton]
      exact ⟨.inl, fun either => either.elim id fun here => here ▸ already⟩
    · rw [if_neg present] at found
      by_cases large : I32_MAX < record_index
      · rw [if_pos large] at found
        cases found
      · rw [if_neg large] at found
        obtain rfl := Except.ok.inj found
        refine ⟨fun other => ?_, ?_⟩
        · rw [List.map_append, List.mem_append, List.mem_append, entered.member]
          rfl
        · rw [List.map_append, List.nodup_append]
          refine ⟨entered.distinct, by simp, fun left memberLeft right memberRight same => ?_⟩
          obtain ⟨entry, member, rfl⟩ := List.mem_map.mp memberLeft
          exact present ⟨entry, member, same.trans (List.mem_singleton.mp memberRight)⟩

theorem prepare_records_entered {expected_cohort : String} {record_index : Nat} {records : List SegmentRecord}
    {entries result : Entries} {seen : List Bytes}
    (found : prepare_records expected_cohort record_index records entries = .ok result) (entered : Entered entries seen) :
    Entered result (seen ++ records.filterMap record_vector) := by
  induction records generalizing record_index entries seen with
  | nil =>
    obtain rfl := Except.ok.inj found
    simpa using entered
  | cons record rest ih =>
    obtain ⟨middle, first, later⟩ := Results.bind_ok.mp found
    obtain ⟨vector, same, enteredFirst⟩ := prepare_record_entered first entered
    have all := ih later enteredFirst
    rw [List.filterMap_cons, same]
    simpa using all

/-- The samples of a prepared segment are its distinct vectors, and not more than its records. -/
theorem prepare_segment_samples {bytes : Bytes} {expected_cohort : String}
    {expected_window_start expected_window_seconds : Nat} {prepared : PreparedPart}
    (found : prepare_segment bytes expected_cohort expected_window_start expected_window_seconds = .ok prepared) :
    ∃ segment, read_segment bytes = .ok segment ∧ prepared.samples.length = distinct_vectors segment.records ∧
      distinct_vectors segment.records ≤ prepared.record_count ∧
      prepared.record_count ≤ prepared.received_frame_count := by
  unfold prepare_segment at found
  cases parsed : read_segment bytes with
  | error error => rw [parsed] at found; cases found
  | ok segment =>
    rw [parsed] at found
    obtain ⟨checked, found⟩ := Results.check_ok.mp found
    obtain ⟨entries, entriesFound, built⟩ := Results.bind_ok.mp found
    obtain rfl := Except.ok.inj built
    have entered := prepare_records_entered entriesFound (⟨by simp, by simp⟩ : Entered [] [])
    rw [List.nil_append] at entered
    have samples : entries.length = distinct_vectors segment.records := by
      have perm : (entries.map Prod.fst).Perm (segment.records.filterMap record_vector).dedup :=
        (List.perm_ext_iff_of_nodup entered.distinct (List.nodup_dedup _)).mpr fun vector => by
          rw [entered.member, List.mem_dedup]
      rw [distinct_vectors, ← perm.length_eq, List.length_map]
    have bound : distinct_vectors segment.records ≤ segment.records.length :=
      ((List.dedup_sublist _).length_le).trans (List.length_filterMap_le _ _)
    unfold check_header at checked
    split at checked <;> try cases checked
    split at checked <;> try cases checked
    split at checked <;> try cases checked
    split at checked <;> try cases checked
    rename_i counted
    split at checked <;> try cases checked
    rename_i received
    refine ⟨segment, rfl, by rw [List.length_map]; exact samples, ?_, not_lt.mp received⟩
    change distinct_vectors segment.records ≤ segment.header.record_count
    exact not_not.mp counted ▸ bound

/-! ### Rows read back -/

/-- A sample has a sweep row under the key. -/
def Occupied (samples : BTreeMap Int MeasuredSample) (key : Int × Int) : Prop :=
  ∃ sample, samples[key.1]? = some sample ∧ key.2 ∈ sample.sweeps

theorem insert_truth_rows_ok {rows : List TruthMeasurement} {samples result : BTreeMap Int MeasuredSample}
    (found : insert_truth_rows rows samples = .ok result) :
    (rows.map (·.record_index)).Nodup ∧ (∀ row ∈ rows, row.record_index ∉ samples) ∧
      (∀ key, key ∈ result ↔ key ∈ samples ∨ key ∈ rows.map (·.record_index)) ∧
      (∀ key, Occupied result key → Occupied samples key) ∧ result.size = samples.size + rows.length := by
  induction rows generalizing samples with
  | nil =>
    obtain rfl := Except.ok.inj found
    simp
  | cons row rest ih =>
    unfold insert_truth_rows at found
    by_cases repeated : row.record_index ∈ samples
    · rw [if_pos repeated] at found
      cases found
    rw [if_neg repeated] at found
    obtain ⟨distinct, fresh, keys, occupied, size⟩ := ih found
    have fresher : ∀ other ∈ rest, row.record_index ≠ other.record_index ∧ other.record_index ∉ samples := by
      intro other member
      have absent := fresh other member
      rw [Std.ExtTreeMap.mem_insert] at absent
      refine ⟨fun same => absent (.inl ?_), fun present => absent (.inr present)⟩
      rw [same]
      exact Std.LawfulEqCmp.compare_eq_iff_eq.mpr rfl
    refine ⟨?_, ?_, fun key => ?_, fun key taken => ?_, ?_⟩
    · rw [List.map_cons, List.nodup_cons]
      refine ⟨fun again => ?_, distinct⟩
      obtain ⟨other, member, same⟩ := List.mem_map.mp again
      exact (fresher other member).1 same.symm
    · intro other member
      rcases List.mem_cons.mp member with rfl | later
      · exact repeated
      · exact (fresher other later).2
    · rw [keys, Std.ExtTreeMap.mem_insert, Std.LawfulEqCmp.compare_eq_iff_eq, List.map_cons, List.mem_cons, eq_comm]
      tauto
    · obtain ⟨sample, held, inside⟩ := occupied key taken
      rw [SortedMaps.lookup_insert] at held
      by_cases here : row.record_index = key.1
      · rw [if_pos here] at held
        obtain rfl := Option.some.inj held
        exact absurd inside Std.ExtTreeMap.not_mem_empty
      · rw [if_neg here] at held
        exact ⟨sample, held, inside⟩
    · rw [size, Std.ExtTreeMap.size_insert, if_neg (by simpa using repeated), List.length_cons]
      omega

theorem insert_sweep_rows_ok {rows : List SweepMeasurementRow} {samples result : BTreeMap Int MeasuredSample}
    (found : insert_sweep_rows rows samples = .ok result) :
    (sweep_keys rows).Nodup ∧ (∀ key ∈ sweep_keys rows, ¬Occupied samples key ∧ key.1 ∈ samples) ∧
      (∀ key, key ∈ result ↔ key ∈ samples) ∧ (∀ key, Occupied result key ↔ Occupied samples key ∨ key ∈ sweep_keys rows) ∧
      result.size = samples.size := by
  induction rows generalizing samples with
  | nil =>
    obtain rfl := Except.ok.inj found
    simp [sweep_keys]
  | cons row rest ih =>
    unfold insert_sweep_rows at found
    cases held : samples[row.record_index]? with
    | none => rw [held] at found; cases found
    | some sample =>
      simp only [held] at found
      by_cases repeated : row.ef ∈ sample.sweeps
      · rw [if_pos repeated] at found
        cases found
      rw [if_neg repeated] at found
      obtain ⟨distinct, fresh, keys, occupied, size⟩ := ih found
      have present : row.record_index ∈ samples := Std.ExtTreeMap.mem_iff_isSome_getElem?.mpr (by rw [held]; rfl)
      have kept : ∀ key, key ∈ samples.insert row.record_index
          { sample with sweeps := sample.sweeps.insert row.ef ⟨row.recall, row.latency_ms⟩ } ↔ key ∈ samples := by
        intro key
        rw [Std.ExtTreeMap.mem_insert, Std.LawfulEqCmp.compare_eq_iff_eq]
        exact ⟨fun either => either.elim (fun same => same ▸ present) id, .inr⟩
      -- The row's own key is taken for the rows after it, and no other key is freed.
      have own : Occupied (samples.insert row.record_index
          { sample with sweeps := sample.sweeps.insert row.ef ⟨row.recall, row.latency_ms⟩ }) (row.record_index, row.ef) :=
        ⟨_, by rw [SortedMaps.lookup_insert, if_pos rfl], Std.ExtTreeMap.mem_insert_self⟩
      have others : ∀ key, Occupied samples key → Occupied (samples.insert row.record_index
          { sample with sweeps := sample.sweeps.insert row.ef ⟨row.recall, row.latency_ms⟩ }) key := by
        rintro key ⟨other, there, taken⟩
        by_cases same : row.record_index = key.1
        · rw [← same, held] at there
          obtain rfl := Option.some.inj there
          exact ⟨_, by rw [SortedMaps.lookup_insert, if_pos same], Std.ExtTreeMap.mem_insert.mpr (.inr taken)⟩
        · exact ⟨other, by rw [SortedMaps.lookup_insert, if_neg same, there], taken⟩
      have only : ∀ key, Occupied (samples.insert row.record_index
          { sample with sweeps := sample.sweeps.insert row.ef ⟨row.recall, row.latency_ms⟩ }) key →
          Occupied samples key ∨ key = (row.record_index, row.ef) := by
        rintro ⟨index, ef⟩ ⟨other, there, taken⟩
        rw [SortedMaps.lookup_insert] at there
        by_cases same : row.record_index = index
        · rw [if_pos same] at there
          obtain rfl := Option.some.inj there
          rw [Std.ExtTreeMap.mem_insert, Std.LawfulEqCmp.compare_eq_iff_eq] at taken
          rcases taken with rfl | earlier
          · exact .inr (by rw [same])
          · exact .inl ⟨sample, same ▸ held, earlier⟩
        · rw [if_neg same] at there
          exact .inl ⟨other, there, taken⟩
      refine ⟨?_, fun key member => ?_, fun key => (keys key).trans (kept key), fun key => ?_, ?_⟩
      · rw [sweep_keys, List.map_cons, List.nodup_cons]
        exact ⟨fun again => (fresh _ again).1 own, distinct⟩
      · rcases List.mem_cons.mp member with rfl | later
        · refine ⟨?_, present⟩
          rintro ⟨other, there, taken⟩
          rw [held] at there
          obtain rfl := Option.some.inj there
          exact repeated taken
        · obtain ⟨free, inside⟩ := fresh key later
          exact ⟨fun taken => free (others key taken), (kept key.1).mp inside⟩
      · rw [occupied, show sweep_keys (row :: rest) = (row.record_index, row.ef) :: sweep_keys rest from rfl, List.mem_cons]
        constructor
        · rintro (taken | later)
          · exact (only key taken).imp id .inl
          · exact .inr (.inr later)
        · rintro (taken | rfl | later)
          · exact .inl (others key taken)
          · exact .inl own
          · exact .inr later
      · rw [size, Std.ExtTreeMap.size_insert, if_pos (by simpa using present)]

/-- The keys of a grid are a product. -/
theorem grid_keys_product (grid : List Int) (rows : List TruthMeasurement) :
    grid_keys grid rows = (rows.map (·.record_index)).product grid := by
  rw [grid_keys, List.product, List.flatMap_map]

theorem first_keys_sublist (ef : Int) (grid : List Int) (rows : List TruthMeasurement) :
    (rows.map fun row => (row.record_index, ef)).Sublist (grid_keys (ef :: grid) rows) := by
  induction rows with
  | nil => exact .slnil
  | cons row rest ih =>
    rw [List.map_cons, grid_keys, List.flatMap_cons, List.map_cons, List.cons_append]
    exact (ih.trans (List.sublist_append_right _ _)).cons_cons _

/-- The rows of a pair, its truth rows and its sweep rows from equally many measured samples of one grid. -/
theorem joined_rows {truth_rows other_rows : List TruthMeasurement} {sweep_rows : List SweepMeasurementRow} {grid : List Int}
    {samples : List MeasuredSample} (joined : join_rows truth_rows sweep_rows = .ok samples) (some : grid ≠ [])
    (keys : sweep_keys sweep_rows = grid_keys grid other_rows) (count : other_rows.length = truth_rows.length) :
    (truth_rows.map (·.record_index)).Nodup ∧ (sweep_keys sweep_rows).Perm (grid_keys grid truth_rows) ∧
      samples.length = truth_rows.length ∧ ∀ sample ∈ samples, ∀ ef, ef ∈ sample.sweeps ↔ ef ∈ grid := by
  obtain ⟨truths, truthFound, joined⟩ := Results.bind_ok.mp joined
  obtain ⟨all, allFound, built⟩ := Results.bind_ok.mp joined
  obtain rfl := Except.ok.inj built
  obtain ⟨distinct, _, truthKeys, bare, truthSize⟩ := insert_truth_rows_ok truthFound
  obtain ⟨sweepDistinct, owned, sameKeys, occupied, size⟩ := insert_sweep_rows_ok allFound
  have perm : (sweep_keys sweep_rows).Perm (grid_keys grid truth_rows) := by
    obtain ⟨ef, rest, rfl⟩ := List.exists_cons_of_ne_nil some
    have sub := first_keys_sublist ef rest other_rows
    rw [← keys] at sub
    have otherDistinct : (other_rows.map (·.record_index)).Nodup := by
      refine List.Nodup.of_map (fun index => (index, ef)) ?_
      rw [List.map_map]
      exact sweepDistinct.sublist sub
    have inside : other_rows.map (·.record_index) ⊆ truth_rows.map (·.record_index) := by
      intro index member
      obtain ⟨row, present, rfl⟩ := List.mem_map.mp member
      have held := (owned _ (sub.subset (List.mem_map_of_mem present))).2
      rw [truthKeys] at held
      exact held.elim (fun absent => absurd absent Std.ExtTreeMap.not_mem_empty) id
    have indexes : (other_rows.map (·.record_index)).Perm (truth_rows.map (·.record_index)) :=
      (otherDistinct.subperm inside).perm_of_length_le (by simp [count])
    rw [keys, grid_keys_product, grid_keys_product]
    exact indexes.product_right _
  refine ⟨distinct, perm, ?_, fun sample member ef => ?_⟩
  · rw [List.length_map, Std.ExtTreeMap.length_toList, size, truthSize, Std.ExtTreeMap.size_empty, Nat.zero_add]
  · obtain ⟨index, found⟩ := SortedMaps.mem_values.mp member
    have truthIndex : index ∈ truth_rows.map (·.record_index) := by
      have held := (sameKeys index).mp (Std.ExtTreeMap.mem_iff_isSome_getElem?.mpr (by rw [found]; rfl))
      rw [truthKeys] at held
      exact held.elim (fun absent => absurd absent Std.ExtTreeMap.not_mem_empty) id
    have own : ef ∈ sample.sweeps ↔ Occupied all (index, ef) := by
      constructor
      · intro inside
        exact ⟨sample, found, inside⟩
      · rintro ⟨other, there, inside⟩
        obtain rfl := Option.some.inj (there.symm.trans found)
        exact inside
    have unoccupied : ¬Occupied truths (index, ef) := by
      intro taken
      obtain ⟨other, there, _⟩ := bare _ taken
      simp at there
    rw [own, occupied, perm.mem_iff, grid_keys_product, List.pair_mem_product]
    simp [unoccupied, truthIndex]

end VectorSeam.Tallies
