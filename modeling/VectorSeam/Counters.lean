import VectorSeam.Origins
import VectorSeam.Rounding

/-!
The counters of a published record. They come from segment headers, from the metadata
of pairs and from their rows; in a store whose measurements rounds have uploaded, the
three agree with the segments that were measured and with each other.
-/

namespace VectorSeam.Counters
open VectorSeam.Model VectorSeam.ObjectStore VectorSeam.Window VectorSeam.Accounting VectorSeam.Population
open VectorSeam.Aggregate VectorSeam.Segments VectorSeam.Intermediate VectorSeam.Measure VectorSeam.Effects
open VectorSeam.Programs VectorSeam.Pipeline VectorSeam.SortedMaps VectorSeam.SourceParts VectorSeam.Publishing
open VectorSeam.Rounds VectorSeam.Deposits VectorSeam.Tallies VectorSeam.Pairs VectorSeam.RoundEffects
open VectorSeam.Origins VectorSeam.Rounding VectorSeam.Requests

variable {B : Type} {codec : Codec B} {beta_reg : Float → Float → Float → Float} {config : AggregationConfig}
  {computed_at_us : Nat} {world world' middle : World B} {window_starts : List Nat} {sources : List SourcePart}

/-! ### Windows in scope -/

/-- Counting down from an aligned end, one start is kept for each whole width above the bound. -/
theorem starts_below_length {width lower candidate_end count room : Nat} (positive : 0 < width)
    (aligned : candidate_end = lower + count * width) (enough : count ≤ room) :
    (starts_below width lower room candidate_end).length = count := by
  induction count generalizing candidate_end room with
  | zero =>
    cases room with
    | zero => rfl
    | succ room =>
      unfold starts_below
      cases found : checked_sub candidate_end width with
      | none => rfl
      | some start =>
        obtain ⟨wide, rfl⟩ := checked_sub_eq_some.mp found
        simp only []
        rw [if_pos (by omega)]
        rfl
  | succ count ih =>
    obtain ⟨room, rfl⟩ : ∃ rest, room = rest + 1 := ⟨room - 1, by omega⟩
    rw [Nat.succ_mul] at aligned
    have found : checked_sub candidate_end width = some (candidate_end - width) :=
      checked_sub_eq_some.mpr ⟨by omega, rfl⟩
    unfold starts_below
    simp only [found]
    rw [if_neg (by omega), List.length_cons, ih (by omega) (by omega)]

/-- Of a rolling window of whole storage windows, all are in scope. -/
theorem in_scope_window_starts_length {round_end duration width : Nat} {starts : List Nat}
    (found : in_scope_window_starts round_end duration width = .ok starts) (whole : duration % width = 0) :
    starts.length = duration / width ∧ duration ≤ round_end := by
  unfold in_scope_window_starts at found
  by_cases zero : width = 0
  · rw [if_pos zero] at found; cases found
  by_cases unaligned : round_end % width ≠ 0
  · rw [if_neg zero, if_pos unaligned] at found; cases found
  rw [if_neg zero, if_neg unaligned] at found
  simp only [] at found
  obtain ⟨lower, lowerFound, listing⟩ := Results.bind_ok.mp found
  obtain ⟨short, rfl⟩ := checked_sub_eq_some.mp (ok_or_ok.mp lowerFound)
  obtain rfl := Except.ok.inj listing
  have product : duration / width * width = duration := Nat.div_mul_cancel (Nat.dvd_of_mod_eq_zero whole)
  refine ⟨?_, short⟩
  rw [List.length_reverse]
  exact starts_below_length (Nat.pos_of_ne_zero zero) (by omega) (Nat.div_le_div_right short)

/-- Distinct covered windows are among the expected ones. -/
theorem windows_with_parts_le (expected_windows : List Nat) (listed : BTreeMap String ListedPart) :
    (coverage expected_windows listed).windows_with_parts ≤ (coverage expected_windows listed).windows_in_scope := by
  have inside : (((listed.toList.map Prod.snd).filter fun part => decide (part.window_start ∈ expected_windows)).map
      ListedPart.window_start).dedup ⊆ expected_windows := by
    intro window_start member
    obtain ⟨part, present, rfl⟩ := List.mem_map.mp (List.mem_dedup.mp member)
    exact of_decide_eq_true (List.mem_filter.mp present).2
  exact ((List.nodup_dedup _).subperm inside).length_le

/-- A time that has a name is not beyond the calendar's 64-bit day counts. -/
theorem round_end_bound {round_end : Nat} {text : String} (found : iso8601_seconds round_end = .ok text) :
    round_end ≤ 2 ^ 80 := by
  unfold iso8601_seconds at found
  cases formatted : format_window_timestamp round_end with
  | error error => rw [formatted] at found; cases found
  | ok compact =>
    unfold format_window_timestamp at formatted
    by_cases large : 2 ^ 63 ≤ round_end / SECONDS_PER_DAY
    · rw [if_pos large] at formatted
      cases formatted
    · rw [SECONDS_PER_DAY] at large
      omega

private theorem zero_in_unit : InUnit 0.0 := by
  constructor <;> decide
private theorem one_in_unit : InUnit 1.0 := by
  constructor <;> decide

theorem empty_window_fraction_in_unit {expected_windows : List Nat} (listed : BTreeMap String ListedPart)
    (bounded : expected_windows.length ≤ 2 ^ 80) : InUnit (coverage expected_windows listed).empty_window_fraction := by
  change InUnit (if expected_windows.length = 0 then 1.0 else
    Float.ofNat (expected_windows.length - (coverage expected_windows listed).windows_with_parts) /
      Float.ofNat expected_windows.length)
  by_cases none : expected_windows.length = 0
  · rw [if_pos none]
    exact one_in_unit
  · rw [if_neg none]
    exact fraction_in_unit (Nat.sub_le _ _) (Nat.pos_of_ne_zero none) (bounded.trans (by norm_num))

/-! ### Sums of headers -/

theorem sum_frames_ok {headers : List (String × Nat × Nat)} {received records : Nat} {total : Nat × Nat}
    (found : sum_frames headers received records = .ok total) (ordered : records ≤ received) (small : received ≤ U64_MAX) :
    total.2 ≤ total.1 ∧ total.1 ≤ U64_MAX := by
  induction headers generalizing received records with
  | nil =>
    obtain rfl := Except.ok.inj found
    exact ⟨ordered, small⟩
  | cons header rest ih =>
    obtain ⟨part_ulid, part_received, part_records⟩ := header
    unfold sum_frames at found
    by_cases miscounted : part_received < part_records
    · rw [if_pos miscounted] at found
      cases found
    rw [if_neg miscounted] at found
    simp only [] at found
    obtain ⟨more, moreFound, found⟩ := Results.bind_ok.mp found
    obtain ⟨kept, keptFound, found⟩ := Results.bind_ok.mp found
    obtain ⟨rfl, fits⟩ := checked_add_eq_some.mp (ok_or_ok.mp moreFound)
    obtain ⟨rfl, _⟩ := checked_add_eq_some.mp (ok_or_ok.mp keptFound)
    exact ih found (by omega) fits

theorem dropped_frame_fraction_in_unit {headers : List (String × Nat × Nat)} {fraction : Float}
    (found : dropped_frame_fraction headers = .ok fraction) : InUnit fraction := by
  obtain ⟨⟨received, records⟩, summed, found⟩ := Results.bind_ok.mp found
  obtain ⟨ordered, small⟩ := sum_frames_ok summed le_rfl (Nat.zero_le _)
  by_cases none : received = 0
  · simp only [none, ↓reduceIte] at found
    obtain rfl := Except.ok.inj found
    exact zero_in_unit
  · simp only [none, ↓reduceIte] at found
    obtain rfl := Except.ok.inj found
    exact one_sub_fraction_in_unit ordered (Nat.pos_of_ne_zero none) (small.trans (by decide))

theorem sum_available_ok {parts : List ListedPart} {start total : Nat} (found : sum_available parts start = .ok total) :
    total = start + (parts.map ListedPart.record_count).sum := by
  induction parts generalizing start with
  | nil =>
    obtain rfl := Except.ok.inj found
    simp
  | cons part rest ih =>
    unfold sum_available at found
    by_cases miscounted : part.received_frame_count < part.record_count
    · rw [if_pos miscounted] at found
      cases found
    rw [if_neg miscounted] at found
    simp only [] at found
    obtain ⟨more, moreFound, found⟩ := Results.bind_ok.mp found
    obtain ⟨rfl, _⟩ := checked_add_eq_some.mp (ok_or_ok.mp moreFound)
    rw [ih found, List.map_cons, List.sum_cons]
    omega

/-- The counters of gathered pairs add up those of the pairs used. -/
theorem gather_counts {listed : BTreeMap String ListedPart} {entries : List (String × IntermediatePart)}
    {before after : Gathered} (found : gather config listed entries before = .ok after)
    (measured : before.measured = (before.used.map (·.metadata.measured_count)).sum)
    (failed : before.failed = (before.used.map (·.metadata.failed_count)).sum) :
    after.measured = (after.used.map (·.metadata.measured_count)).sum ∧
      after.failed = (after.used.map (·.metadata.failed_count)).sum := by
  induction entries generalizing before with
  | nil =>
    obtain rfl := Except.ok.inj found
    exact ⟨measured, failed⟩
  | cons entry rest ih =>
    obtain ⟨part_ulid, intermediate⟩ := entry
    unfold gather at found
    by_cases unlisted : part_ulid ∉ listed
    · rw [if_pos unlisted] at found
      exact ih found measured failed
    rw [if_neg unlisted] at found
    by_cases incompatible : ¬is_compatible config intermediate
    · rw [if_pos incompatible] at found
      obtain ⟨total, _, found⟩ := Results.bind_ok.mp found
      exact ih found measured failed
    · rw [if_neg incompatible] at found
      obtain ⟨more, moreFound, found⟩ := Results.bind_ok.mp found
      obtain ⟨worse, worseFound, found⟩ := Results.bind_ok.mp found
      obtain ⟨rfl, _⟩ := checked_add_eq_some.mp (ok_or_ok.mp moreFound)
      obtain ⟨rfl, _⟩ := checked_add_eq_some.mp (ok_or_ok.mp worseFound)
      refine ih found ?_ ?_
      · simp [measured]
      · simp [failed]

/-- Deduplication keeps at most the samples there are. -/
theorem deduplicate_samples_length (samples : List (String × MeasuredSample)) :
    (deduplicate_samples samples).length ≤ samples.length := by
  obtain ⟨items, itemsSame⟩ : ∃ items, items = samples.map fun entry => candidate entry.1 entry.2 := ⟨_, rfl⟩
  have spec : Least PopulationSample.vector_hash PopulationSample.rank items (keep_least PopulationSample.vector_hash
      (fun left right => decide (left.rank < right.rank)) items) := keep_least_spec items
  have inside : ((keep_least PopulationSample.vector_hash (fun left right => decide (left.rank < right.rank)) items).toList.map
      Prod.fst) ⊆ items.map PopulationSample.vector_hash := by
    intro key member
    obtain ⟨sample, found⟩ := mem_keys.mp member
    obtain ⟨present, rfl⟩ := spec.member key sample found
    exact List.mem_map_of_mem present
  have bound := ((nodup_keys _).subperm inside).length_le
  rw [List.length_map, List.length_map] at bound
  rw [deduplicate_samples, ← itemsSame, List.length_map]
  exact bound.trans (by rw [itemsSame, List.length_map])

theorem samples_of_length (used : List IntermediatePart) :
    (samples_of used).length = (used.map (·.samples.length)).sum := by
  simp [samples_of, List.length_flatMap]

/-! ### Balanced pairs -/

/-- The counters and rows of a pair, against a segment of its part. -/
structure Balanced (codec : Codec B) (log : List (Event B)) (part : IntermediatePart) : Prop where
  /-- Every distinct vector of the segment, an object that was read under the part's name, is counted once. -/
  segment : ∃ path body segment, source_part_ulid path = some part.metadata.part_ulid ∧ .got path (.found body) ∈ log ∧
    read_segment (codec.content body) = .ok segment ∧ segment.header.cohort.name = part.metadata.cohort ∧
    segment.header.window_start = part.metadata.window_start ∧ segment.header.window_seconds = part.metadata.window_seconds ∧
    part.metadata.measured_count + part.metadata.failed_count = distinct_vectors segment.records ∧
    distinct_vectors segment.records ≤ part.metadata.record_count
  /-- The two files hold each truth row with one sweep row for each value of the grid, and no other sweep row. -/
  rows : ∃ truth sweep truth_rows sweep_rows, read_intermediate_pair_bytes codec truth sweep = .ok part ∧
    codec.read_table truth = .ok (.truth truth_rows) ∧ codec.read_table sweep = .ok (.sweep sweep_rows) ∧
    truth_rows.length = part.metadata.measured_count ∧ (truth_rows.map (·.record_index)).Nodup ∧
    (sweep_keys sweep_rows).Perm (grid_keys part.metadata.ef_grid truth_rows)
  samples : part.samples.length = part.metadata.measured_count
  sweeps : ∀ sample ∈ part.samples, ∀ ef, ef ∈ sample.sweeps ↔ ef ∈ part.metadata.ef_grid

/-- The counters of a recorded part. -/
theorem recorded_counts {log : List (Event B)} {part_ulid : String} {measured : MeasuredPart}
    (recorded : Recorded codec log part_ulid config measured) :
    measured.metadata.part_ulid = part_ulid ∧ measured.metadata.ef_grid = config.ef_grid ∧
      measured.truth_rows.length = measured.metadata.measured_count ∧
      sweep_keys measured.sweep_rows = grid_keys config.ef_grid measured.truth_rows ∧
      ∃ path body segment, source_part_ulid path = some part_ulid ∧ .got path (.found body) ∈ log ∧
        read_segment (codec.content body) = .ok segment ∧ segment.header.cohort.name = measured.metadata.cohort ∧
        segment.header.window_start = measured.metadata.window_start ∧
        segment.header.window_seconds = measured.metadata.window_seconds ∧
        measured.metadata.measured_count + measured.metadata.failed_count = distinct_vectors segment.records ∧
        distinct_vectors segment.records ≤ measured.metadata.record_count := by
  obtain ⟨source, computed_at_us, named, same, body, prepared, start, last, fetched, checked, run, _⟩ := recorded
  obtain ⟨finish, rfl, truths, sweeps, truthRows, sweepRows, count, _, keys⟩ := measure_samples_tallied run
  obtain ⟨segment, read, samples, bound, _⟩ := prepare_segment_samples checked
  obtain ⟨cohort, window_start, window_seconds⟩ := prepare_segment_header checked read
  simp only [List.nil_append] at truthRows sweepRows
  subst truthRows sweepRows
  refine ⟨same, rfl, rfl, keys, source.path, body, segment, named, fetched, read, cohort, window_start, window_seconds, ?_, bound⟩
  change finish.truth_rows.length + finish.failed_count = _
  rw [← samples, ← Nat.zero_add prepared.samples.length, ← count]
  exact Nat.add_comm _ _

theorem assembled_balanced (laws : ParquetLaws codec) {log : List (Event B)} {part_ulid : String} {truth sweep : B}
    {part : IntermediatePart} (assembled : Assembled codec log part_ulid truth sweep part)
    (nonempty : part.metadata.ef_grid ≠ []) : Balanced codec log part := by
  obtain ⟨first, config, second, config', _, _, left, right, encoded, encoded', read⟩ := assembled
  obtain ⟨truthWritten, _⟩ := encode_ok.mp encoded
  obtain ⟨_, sweepWritten⟩ := encode_ok.mp encoded'
  obtain ⟨ulid, grid, truthCount, _, segment⟩ := recorded_counts left
  obtain ⟨_, grid', truthCount', keys, _⟩ := recorded_counts right
  obtain ⟨same, metadata, truth_rows, sweep_rows, truthSame, sweepSame, joined⟩ :=
    read_pair_written laws truthWritten sweepWritten read
  obtain rfl := Table.truth.inj truthSame
  obtain rfl := Table.sweep.inj sweepSame
  -- The sweep file may stem from another measurement, but of the same grid and count.
  have gridSame : config'.ef_grid = part.metadata.ef_grid := by rw [← grid', metadata, same]
  rw [gridSame] at keys
  obtain ⟨distinct, perm, samples, sweeps⟩ := joined_rows joined nonempty keys (by rw [truthCount', truthCount, same])
  rw [← ulid, ← metadata] at segment
  rw [← metadata] at truthCount
  exact ⟨segment, ⟨truth, sweep, first.truth_rows, second.sweep_rows, read, laws.table truthWritten,
    laws.table sweepWritten, truthCount, distinct, perm⟩, samples.trans truthCount, sweeps⟩

/-! ### Counted rounds -/

/-- What the first half of an aggregation has counted. -/
theorem survey_counters {input : AggregationInput} {surveyed : Survey} (found : survey input = .ok surveyed) :
    ∃ expected, in_scope_window_starts input.round_end input.config.window_duration_seconds
        input.config.storage_window_seconds = .ok expected ∧
      surveyed.coverage = coverage expected surveyed.listed ∧
      surveyed.available = ((surveyed.listed.toList.map Prod.snd).map ListedPart.record_count).sum ∧
      InUnit surveyed.drop_fraction ∧
      surveyed.gathered.measured = (surveyed.gathered.used.map (·.metadata.measured_count)).sum ∧
      surveyed.gathered.failed = (surveyed.gathered.used.map (·.metadata.failed_count)).sum ∧
      surveyed.population.length ≤ (surveyed.gathered.used.map (·.samples.length)).sum := by
  obtain ⟨_, rest⟩ := Results.check_ok.mp found
  obtain ⟨expected, scope, rest⟩ := Results.bind_ok.mp rest
  obtain ⟨lower, _, rest⟩ := Results.bind_ok.mp rest
  obtain ⟨listing, _, rest⟩ := Results.bind_ok.mp rest
  obtain ⟨available, availableFound, rest⟩ := Results.bind_ok.mp rest
  obtain ⟨drops, dropsFound, rest⟩ := Results.bind_ok.mp rest
  obtain ⟨unique, _, rest⟩ := Results.bind_ok.mp rest
  obtain ⟨gathered, gatheredFound, rest⟩ := Results.bind_ok.mp rest
  obtain ⟨_, built⟩ := Results.check_ok.mp rest
  obtain rfl := Except.ok.inj built
  obtain ⟨measured, failed⟩ := gather_counts gatheredFound rfl rfl
  refine ⟨expected, scope, rfl, ?_, dropped_frame_fraction_in_unit dropsFound, measured, failed, ?_⟩
  · rw [sum_available_ok availableFound, Nat.zero_add]
  · exact (deduplicate_samples_length _).trans (samples_of_length _).le

/-- The counters of a record published at `round_end` over the objects that its round started from. -/
structure Counted (codec : Codec B) (beta_reg : Float → Float → Float → Float) (config : AggregationConfig)
    (round_end : Nat) (objects : Objects B) (log : List (Event B)) (output : RoundOutput) : Prop where
  /-- The pairs used are balanced, one of each part, and add up to the counters. -/
  parts : ∃ input surveyed, input.config = config ∧ input.round_end = round_end ∧ survey input = .ok surveyed ∧
    aggregate beta_reg input = .ok output ∧ output.parts_used = surveyed.gathered.used.length ∧
    (surveyed.gathered.used.map (·.metadata.part_ulid)).Nodup ∧
    (∀ part ∈ surveyed.gathered.used, Balanced codec log part ∧ part.metadata.ef_grid = config.ef_grid) ∧
    output.samples.measured = (surveyed.gathered.used.map (·.metadata.measured_count)).sum ∧
    output.samples.failed = (surveyed.gathered.used.map (·.metadata.failed_count)).sum
  available : output.samples.measured + output.samples.failed ≤ output.samples.available
  unique : output.samples.unique ≤ output.samples.measured
  split : output.samples.train + output.samples.test = output.samples.unique
  listed : ∃ window_starts,
    in_scope_window_starts round_end config.window_duration_seconds config.storage_window_seconds = .ok window_starts ∧
    output.parts_used ≤ (canonical_ulids (source_objects objects config.cohort window_starts)).length
  windows : output.coverage.windows_with_parts ≤ output.coverage.windows_in_scope ∧
    output.coverage.windows_in_scope = config.window_duration_seconds / config.storage_window_seconds
  dropped : InUnit output.dropped_frame_fraction
  empty : InUnit output.coverage.empty_window_fraction

/-- A pair counts at most the records of the listed header of its part. -/
theorem pair_within_header (laws : ParquetLaws codec) (genuine : AllGenuine codec world) (gathered : Gathered world middle)
    (found : SourcesFound codec world.objects config window_starts sources) (nonempty : config.ef_grid ≠ [])
    {source : SourcePart} {part : IntermediatePart} (member : source ∈ sources)
    (pair : Pair codec config computed_at_us world middle source part) :
    Balanced codec middle.log part ∧ part.metadata.ef_grid = config.ef_grid ∧
      part.metadata.measured_count + part.metadata.failed_count ≤ source.listed.record_count := by
  have usable := pair_usable laws found member pair
  have grid : part.metadata.ef_grid = config.ef_grid := by
    have compatible := usable.compatible
    simp only [is_compatible, Bool.and_eq_true, beq_iff_eq] at compatible
    exact compatible.2
  obtain ⟨truth, sweep, assembled⟩ := pair_assembled genuine gathered ((found_named found).names source member) pair
  have balanced := assembled_balanced laws assembled (grid ▸ nonempty)
  refine ⟨balanced, grid, ?_⟩
  obtain ⟨_, _, segment, _, _, _, _, _, _, counted, bound⟩ := balanced.segment
  rw [counted, ← usable.metadata.2.2.2.2.2]
  exact bound

theorem counted_of_pairs (laws : ParquetLaws codec) (genuine : AllGenuine codec world) (gathered : Gathered world middle)
    {ending : Ending} (supplied : Supplied codec computed_at_us world middle ending) {previous_round : Option RoundOutput}
    {output : RoundOutput} (published : aggregate beta_reg (ending.input previous_round) = .ok output) :
    Counted codec beta_reg ending.config ending.round_end world.objects middle.log output := by
  obtain ⟨window_starts, scope, found⟩ := supplied.sources
  obtain ⟨used, sub, filled, _⟩ := supplied.pairs
  obtain ⟨surveyed, all, partsUsed, _⟩ := aggregate_pairs laws scope found sub filled published
  have known := survey_ok all.survey
  obtain ⟨expected, scope', covered, available, drops, measured, failed, unique⟩ := survey_counters all.survey
  obtain rfl := Except.ok.inj (scope.symm.trans scope')
  obtain ⟨surveyed', same, concluded⟩ := Results.bind_ok.mp published
  obtain rfl := Except.ok.inj (all.survey.symm.trans same)
  obtain ⟨per_ef, selection, window_start, window_end, _, _, ended, rfl⟩ := conclude_ok concluded
  have nonempty : ending.config.ef_grid ≠ [] := known.valid.grid_chain.1
  obtain ⟨count, short⟩ := in_scope_window_starts_length scope known.valid.whole_windows
  have each : ∀ part ∈ surveyed.gathered.used, Balanced codec middle.log part ∧
      part.metadata.ef_grid = ending.config.ef_grid := by
    intro part member
    rw [all.parts] at member
    obtain ⟨entry, inside, rfl⟩ := List.mem_map.mp member
    obtain ⟨source, present, _, pair⟩ := filled.mem_toList inside
    obtain ⟨balanced, grid, _⟩ := pair_within_header laws genuine gathered found nonempty (sub.subset present) pair
    exact ⟨balanced, grid⟩
  have distinct : (surveyed.gathered.used.map (·.metadata.part_ulid)).Nodup :=
    all.ulids.nodup_iff.mpr (found.distinct.sublist (sub.map ulid_of))
  -- Every pair is filed under the key of a listed header that counts its records.
  have within : ((surveyed.gathered.used.map fun part => part.metadata.measured_count + part.metadata.failed_count)).sum ≤
      surveyed.available := by
    rw [available, all.parts]
    refine sum_le_of_keys fun key part filed => ?_
    obtain ⟨source, present, rfl, pair⟩ := filled.values key part filed
    obtain ⟨_, _, bound⟩ := pair_within_header laws genuine gathered found nonempty (sub.subset present) pair
    refine ⟨source.listed, (known.listed _ _).mpr ⟨List.mem_map_of_mem (sub.subset present), ?_, rfl⟩, bound⟩
    obtain ⟨header, filedHeader⟩ : ∃ header, surveyed.listed[ulid_of source]? = some header :=
      Option.isSome_iff_exists.mp (Std.ExtTreeMap.mem_iff_isSome_getElem?.mp ((known.mem_listed _).mpr
        ⟨source.listed, List.mem_map_of_mem (sub.subset present), rfl, found_in_scope scope found (sub.subset present)⟩))
    obtain ⟨inside, admitted, key⟩ := (known.listed _ _).mp filedHeader
    obtain ⟨other, otherMember, rfl⟩ := List.mem_map.mp inside
    obtain rfl := List.inj_on_of_nodup_map found.distinct otherMember (sub.subset present) key
    exact admitted
  refine ⟨⟨_, surveyed, rfl, rfl, all.survey, published, partsUsed, distinct, each, measured, failed⟩, ?_, ?_, ?_,
    ⟨window_starts, scope, ?_⟩, ⟨?_, ?_⟩, drops, ?_⟩
  · change surveyed.gathered.measured + surveyed.gathered.failed ≤ surveyed.available
    rw [measured, failed]
    rwa [List.sum_map_add] at within
  · change surveyed.population.length ≤ surveyed.gathered.measured
    rw [measured]
    refine unique.trans (le_of_eq (congrArg List.sum (List.map_congr_left fun part member => ?_)))
    exact (each part member).1.samples
  · exact (List.length_eq_length_filter_add (in_train ending.config)).symm
  · change surveyed.gathered.used.length ≤ _
    have length := all.ulids.length_eq
    rw [List.length_map, List.length_map] at length
    rw [length, ← found.ulids.length_eq, List.length_map]
    exact sub.length_le
  · change surveyed.coverage.windows_with_parts ≤ surveyed.coverage.windows_in_scope
    rw [covered]
    exact windows_with_parts_le _ _
  · change surveyed.coverage.windows_in_scope = _
    rw [covered]
    exact count
  · change InUnit surveyed.coverage.empty_window_fraction
    rw [covered]
    refine empty_window_fraction_in_unit _ ?_
    rw [count]
    exact (Nat.div_le_self _ _).trans (short.trans (round_end_bound ended))

theorem Balanced.mono {log later : List (Event B)} {part : IntermediatePart} (balanced : Balanced codec log part)
    (extends' : log <+: later) : Balanced codec later part := by
  obtain ⟨path, body, segment, named, fetched, rest⟩ := balanced.segment
  exact ⟨⟨path, body, segment, named, extends'.subset fetched, rest⟩, balanced.rows, balanced.samples, balanced.sweeps⟩

theorem Counted.mono {round_end : Nat} {objects : Objects B} {log later : List (Event B)} {output : RoundOutput}
    (counted : Counted codec beta_reg config round_end objects log output) (extends' : log <+: later) :
    Counted codec beta_reg config round_end objects later output := by
  obtain ⟨input, surveyed, same, ends, found, published, used, distinct, each, sums⟩ := counted.parts
  refine { counted with parts := ⟨input, surveyed, same, ends, found, published, used, distinct, fun part member => ?_, sums⟩ }
  exact ⟨(each part member).1.mono extends', (each part member).2⟩

/-- Every record that a round returns or uploads, in whatever history and however the round ends, is counted. -/
theorem counters_consistent (codec : Codec B) (beta_reg : Float → Float → Float → Float) (laws : ParquetLaws codec)
    (config : AggregationConfig) (round_end : Nat) (computed_at : String) (computed_at_us : Nat) (world world' : World B)
    (outcome : Outcome PipelineError CohortRoundOutcome) (history : History codec beta_reg world)
    (run : Runs answer (run_cohort_round codec beta_reg config round_end computed_at computed_at_us) world outcome world') :
    (∀ output, outcome = .returned (.Published output) →
      Counted codec beta_reg config round_end world.objects world'.log output) ∧
    ∃ block, world'.log = world.log ++ block ∧ ∀ path body reply stored, .uploaded path body reply stored ∈ block →
      path.root = some "calibrations" → ∃ output, codec.to_vec output = .ok body ∧
        Counted codec beta_reg config round_end world.objects world'.log output := by
  have unmeasured : ∀ block : List (Event B), (∀ event ∈ block, Gathers (request event)) → ∀ path body reply stored,
      .uploaded path body reply stored ∈ block → path.root ≠ some "calibrations" := by
    intro block gathers path body reply stored member
    exact not_calibration (gathers _ member)
  rcases runs_round run with ⟨gathered, unpublished⟩ | ⟨ending, middle, rfl, rfl, _, supplied, gathered, ends⟩
  · obtain ⟨block, logged, gathers⟩ := gathered.log
    refine ⟨fun output same => absurd same (unpublished output), block, logged, ?_⟩
    intro path body reply stored member root
    exact absurd root (unmeasured block gathers path body reply stored member)
  obtain ⟨block, logged, gathers⟩ := gathered.log
  rcases runs_finish ends with withheld | ⟨paths, reply, output, body, prepared, puts⟩
  · obtain ⟨rest, restLogged, reads⟩ := withheld.log
    refine ⟨fun output same => absurd same (withheld.unpublished output), block ++ rest,
      by rw [restLogged, logged, List.append_assoc], ?_⟩
    intro path body reply stored member root
    rcases List.mem_append.mp member with early | late
    · exact absurd root (unmeasured block gathers path body reply stored early)
    · exact ((reads _ late).elim id id).elim
  obtain ⟨previous_round, _, aggregated⟩ := prepared.aggregated
  obtain ⟨rest, restLogged, uploads⟩ := performs_log (put_round_performs paths body output) puts
  have whole : world'.log = world.log ++ (block ++ (.polled false :: .got paths.2 reply :: rest)) := by
    rw [restLogged, fetched, World.record, World.record, logged]
    simp
  have counted : Counted codec beta_reg ending.config ending.round_end world.objects world'.log output := by
    refine (counted_of_pairs laws history.genuine gathered supplied aggregated).mono ?_
    exact ⟨.polled false :: .got paths.2 reply :: rest, by rw [whole, logged, List.append_assoc]⟩
  refine ⟨fun found same => ?_, _, whole, ?_⟩
  · rcases runs_put_round.mp puts with ⟨other, _⟩ | ⟨_, _, other, _⟩ | ⟨other, _⟩ | ⟨_, _, other, _⟩ | ⟨other, _⟩
    · cases same.symm.trans other
    · cases same.symm.trans other
    · cases same.symm.trans other
    · cases same.symm.trans other
    · cases same.symm.trans other
      exact counted
  · intro path bytes reply' stored member root
    rcases List.mem_append.mp member with early | late
    · exact absurd root (unmeasured block gathers path bytes reply' stored early)
    rcases List.mem_cons.mp late with same | late
    · cases same
    rcases List.mem_cons.mp late with same | late
    · cases same
    obtain ⟨put, same, _⟩ := uploads _ late
    cases same
    exact ⟨output, prepared.serialised, counted⟩

theorem small_round_counted :
    Counted smallCodec smallBeta smallConfig 120 smallStore.objects smallFirst.2.log smallOutput := by
  have bare : ∀ path : Path, path.root = some "measurements" → lookup smallStore.objects path = none := by
    intro path root
    have other : smallSource ≠ path := by
      rintro rfl
      exact absurd root (by decide)
    simp [smallStore, lookup, other]
  exact (counters_consistent smallCodec smallBeta smallCodec_laws.toParquetLaws smallConfig 120 "1970-01-01T00:02:05Z" 1 smallStore
    smallFirst.2 _ (.empty _ bare) (smallRound_runs smallFirst_published)).1 smallOutput rfl

end VectorSeam.Counters
