import VectorSeam.Survival
import VectorSeam.Blame

/-!
What a stored pair must hold for the aggregation to get past it. A pair that is rejected
is measured again; a pair that is accepted is harmless exactly when its counts and the
rows of its first samples are what a measurement writes.
-/

namespace VectorSeam.Healing
open VectorSeam.Model VectorSeam.Binary64 VectorSeam.ObjectStore VectorSeam.Window VectorSeam.Accounting
open VectorSeam.Population VectorSeam.Aggregate VectorSeam.Intermediate VectorSeam.Measure VectorSeam.Effects
open VectorSeam.Programs VectorSeam.Pipeline VectorSeam.SortedMaps VectorSeam.SourceParts VectorSeam.PendingParts
open VectorSeam.Publishing VectorSeam.Rounds VectorSeam.Pairs VectorSeam.Tallies VectorSeam.Storage VectorSeam.Survival
open VectorSeam.Blame VectorSeam.Results

variable {B : Type} {codec : Codec B} {beta_reg : Float → Float → Float → Float} {config : AggregationConfig}
  {world world' : World B}

/-! ### The rows of an accepted pair -/

/-- The rows of a pair and the samples that were read from them. -/
structure Rows (truth_rows : List TruthMeasurement) (sweep_rows : List SweepMeasurementRow) (part : IntermediatePart) :
    Prop where
  distinct : (truth_rows.map (·.record_index)).Nodup
  keys : (sweep_keys sweep_rows).Nodup
  counted : part.metadata.measured_count = truth_rows.length
  restored : ∀ row ∈ truth_rows, ∃ sample ∈ part.samples, Restored sweep_rows row sample
  origin : ∀ sample ∈ part.samples, ∃ row ∈ truth_rows, Restored sweep_rows row sample

theorem read_pair_rows {truth sweep : B} {part : IntermediatePart}
    (found : read_intermediate_pair_bytes codec truth sweep = .ok part) :
    ∃ truth_rows sweep_rows, codec.read_table truth = .ok (.truth truth_rows) ∧
      codec.read_table sweep = .ok (.sweep sweep_rows) ∧ Rows truth_rows sweep_rows part := by
  obtain ⟨truth_entries, _, found⟩ := bind_ok.mp found
  obtain ⟨metadata, _, found⟩ := bind_ok.mp found
  obtain ⟨sweep_entries, _, found⟩ := bind_ok.mp found
  obtain ⟨other, _, found⟩ := bind_ok.mp found
  obtain ⟨_, found⟩ := guard_ok.mp found
  obtain ⟨truth_table, truthRead, found⟩ := bind_ok.mp found
  obtain ⟨truths, inserted, found⟩ := bind_ok.mp found
  obtain ⟨counted, found⟩ := guard_ok.mp found
  obtain ⟨sweep_table, sweepRead, found⟩ := bind_ok.mp found
  obtain ⟨samples, joined, found⟩ := bind_ok.mp found
  obtain rfl := Except.ok.inj found
  cases truth_table with
  | sweep rows => cases inserted
  | other => cases inserted
  | truth truth_rows =>
    cases sweep_table with
    | truth rows => cases joined
    | other => cases joined
    | sweep sweep_rows =>
      change insert_truth_rows truth_rows ∅ = .ok truths at inserted
      change insert_sweep_rows sweep_rows truths = .ok samples at joined
      refine ⟨truth_rows, sweep_rows, parquet_ok.mp truthRead, parquet_ok.mp sweepRead, ?_⟩
      obtain ⟨distinct, fresh, truthKeys, bare, size⟩ := insert_truth_rows_ok inserted
      obtain ⟨keys, owned, sameKeys, _, _⟩ := insert_sweep_rows_ok joined
      obtain ⟨_, again, own, _⟩ := insert_truth_rows_succeeds distinct fresh
      obtain rfl := Except.ok.inj (inserted.symm.trans again)
      obtain ⟨_, again, contents⟩ := insert_sweep_rows_succeeds keys owned
      obtain rfl := Except.ok.inj (joined.symm.trans again)
      have each : ∀ row ∈ truth_rows, ∃ sample, samples[row.record_index]? = some sample ∧ Restored sweep_rows row sample := by
        intro row member
        obtain ⟨sweeps, there, all⟩ := contents _ _ (own row member)
        refine ⟨_, there, ⟨rfl, rfl, rfl, rfl, fun ef observed => (all ef observed).trans ?_⟩⟩
        simp [bare_sample]
      refine ⟨distinct, keys, ?_, fun row member => ?_, fun sample member => ?_⟩
      · rw [not_not.mp counted, size, Std.ExtTreeMap.size_empty, Nat.zero_add]
      · obtain ⟨sample, filed, restored⟩ := each row member
        exact ⟨sample, mem_values.mpr ⟨_, filed⟩, restored⟩
      · obtain ⟨index, filed⟩ := mem_values.mp member
        have present : index ∈ samples := Std.ExtTreeMap.mem_iff_isSome_getElem?.mpr (by rw [filed]; rfl)
        rcases (truthKeys index).mp ((sameKeys index).mp present) with nothing | truthRow
        · exact absurd nothing Std.ExtTreeMap.not_mem_empty
        · obtain ⟨row, inside, rfl⟩ := List.mem_map.mp truthRow
          obtain ⟨own, there, restored⟩ := each row inside
          obtain rfl := Option.some.inj (filed.symm.trans there)
          exact ⟨row, inside, restored⟩

/-! ### Valid samples -/

theorem duration_iff {latency : Float} : Duration latency ↔ latency.isFinite = true ∧ ¬latency < 0.0 := by
  constructor
  · rintro ⟨finite, nonnegative⟩
    exact ⟨finite, not_lt_of_le nonnegative⟩
  · rintro ⟨finite, nonnegative⟩
    exact ⟨finite, le_of_not_lt (isNaN_of_isFinite finite) (by decide) nonnegative⟩

theorem validate_sample_ok {ef_grid : List Int} {sample : PopulationSample} :
    validate_sample ef_grid sample = .ok () ↔ Duration sample.ground_truth_latency_ms ∧
      ∀ ef ∈ ef_grid, ∃ observed, sample.sweeps[ef]? = some observed ∧ Share observed.recall ∧
        Duration observed.latency_ms := by
  have observation : ∀ ef, validate_observation sample ef = .ok () ↔ ∃ observed, sample.sweeps[ef]? = some observed ∧
      Share observed.recall ∧ Duration observed.latency_ms := by
    intro ef
    unfold validate_observation
    rw [bind_ok]
    refine exists_congr fun observed => and_congr ok_or_ok (guard_ok.trans ?_)
    simp only [duration_iff]
    constructor
    · rintro ⟨sound, _⟩
      simp at sound
      exact ⟨sound.1.1.2, sound.1.2, sound.2⟩
    · rintro ⟨share, finite, nonnegative⟩
      have recallFinite : observed.recall.isFinite = true :=
        isFinite_of_between share.1 share.2 (by decide) (by decide)
      refine ⟨?_, rfl⟩
      simp [recallFinite, share.1, share.2, finite, nonnegative]
  unfold validate_sample
  simp only [guard_ok, forM_ok, observation, duration_iff]
  refine and_congr_left fun _ => ?_
  simp

/-! ### Harmless pairs -/

/-- The part declares no more measured or failed samples than frames received. -/
structure WithinReceived (part : IntermediatePart) : Prop where
  measured : part.metadata.measured_count ≤ part.metadata.received_frame_count
  failed : part.metadata.failed_count ≤ part.metadata.received_frame_count

/-- The error is due to the pair of this part: it names one of its samples, or the counts overflowed
    although every other pair keeps to the frames its part received. -/
def Blames (filed : BTreeMap String IntermediatePart) (part_ulid : String) (error : AggregateError) : Prop :=
  named_part error = some part_ulid ∨ Overflows error ∧
    ∀ (other : String) part, filed[other]? = some part → other ≠ part_ulid → WithinReceived part

/-- No aggregation over this pair of the source and any others fails because of this one. -/
def Harmless (beta_reg : Float → Float → Float → Float) (config : AggregationConfig) (source : SourcePart)
    (part : IntermediatePart) : Prop :=
  ∀ input filed error, input.config = config → source.listed ∈ input.listed_parts → Composed input filed →
    filed[ulid_of source]? = some part → aggregate beta_reg input = .error error → ¬Blames filed (ulid_of source) error

/-- The first samples of the part are valid. -/
def FirstsValid (config : AggregationConfig) (part_ulid : String) (part : IntermediatePart) : Prop :=
  ∀ sample, First part sample → validate_sample config.ef_grid (candidate part_ulid sample) = .ok ()

theorem overflows_unnamed {error : AggregateError} (overflows : Overflows error) : named_part error = none := by
  rcases overflows with rfl | rfl
  · rfl
  · rfl

/-- Pairs that keep to the received frames can be added up. -/
theorem gather_within {input : AggregationInput} {listed : BTreeMap String ListedPart} {filed : BTreeMap String IntermediatePart}
    (composed : Composed input filed) (accounted : Accounted input listed)
    (within : ∀ (part_ulid : String) part, filed[part_ulid]? = some part → WithinReceived part) :
    ∃ gathered, gather input.config listed filed.toList ⟨[], input.phase_a_incompatible_parts, 0, 0⟩ = .ok gathered := by
  have bounded : ∀ count : IntermediatePart → Nat,
      (∀ (part_ulid : String) part, filed[part_ulid]? = some part → count part ≤ part.metadata.received_frame_count) →
      (filed.toList.map fun entry => count entry.2).sum ≤ U64_MAX := by
    intro count least
    have sums : ((filed.toList.map Prod.snd).map count).sum ≤
        ((listed.toList.map Prod.snd).map ListedPart.received_frame_count).sum := by
      refine sum_le_of_keys fun part_ulid part found => ?_
      obtain ⟨header, there, received⟩ := composed.header accounted found
      exact ⟨header, there, received ▸ least part_ulid part found⟩
    rw [List.map_map] at sums
    exact sums.trans accounted.received
  refine (gather_usable (composed.usable accounted) (Nat.zero_le _) (Nat.zero_le _)).mpr ⟨?_, ?_⟩
  · rw [Nat.zero_add]
    exact bounded (·.metadata.measured_count) fun part_ulid part found => (within part_ulid part found).measured
  · rw [Nat.zero_add]
    exact bounded (·.metadata.failed_count) fun part_ulid part found => (within part_ulid part found).failed

theorem harmless_of_valid {source : SourcePart} {part : IntermediatePart} (within : WithinReceived part)
    (valid : FirstsValid config (ulid_of source) part) : Harmless beta_reg config source part := by
  rintro input filed error rfl _ composed found failed blames
  rcases aggregate_fails composed error failed with neutral | ⟨listed, accounted, refused⟩
  · rcases blames with named | ⟨overflows, _⟩
    · rw [neutral.unnamed] at named
      cases named
    · exact neutral.counted overflows
  rcases refused with overflowed | invalid
  · -- the counts are only added up: no sample is named, and with all pairs within bounds they fit
    have overflows := gather_overflows (composed.usable accounted) error overflowed
    rcases blames with named | ⟨_, others⟩
    · rw [overflows_unnamed overflows] at named
      cases named
    obtain ⟨gathered, fits⟩ := gather_within composed accounted fun part_ulid other there => by
      by_cases same : part_ulid = ulid_of source
      · subst same
        exact Option.some.inj (found.symm.trans there) ▸ within
      · exact others part_ulid other there same
    rw [fits] at overflowed
    cases overflowed
  · obtain ⟨survivor, member, named, refused⟩ := validate_population_names _ _ error invalid
    obtain ⟨other, inUse, sample, first, rfl⟩ := survivor_first member
    obtain ⟨part_ulid, there⟩ := mem_values.mp inUse
    rcases blames with blamed | ⟨overflows, _⟩
    · -- the part named is the blamed one, so the refused survivor is one of its valid samples
      have own : part_ulid = ulid_of source := by
        rw [← composed.keyed part_ulid other there]
        exact Option.some.inj (named.symm.trans blamed)
      subst own
      obtain rfl := Option.some.inj (found.symm.trans there)
      rw [composed.keyed _ _ there] at refused
      exact refused (valid sample first)
    · rw [overflows_unnamed overflows] at named
      cases named

/-! ### What harmless pairs hold -/

/-- The rows that the aggregation needs: counts within the frames received and, for each truth row that no
    other one of its vector hash precedes, a finite latency and a sound sweep row for every value of the grid. -/
structure Wholesome (config : AggregationConfig) (metadata : IntermediateMetadata) (truth_rows : List TruthMeasurement)
    (sweep_rows : List SweepMeasurementRow) : Prop where
  measured : truth_rows.length ≤ metadata.received_frame_count
  failed : metadata.failed_count ≤ metadata.received_frame_count
  rows : ∀ row ∈ truth_rows,
    (∀ other ∈ truth_rows, other.vector_hash = row.vector_hash → row.record_index ≤ other.record_index) →
      Duration row.latency_ms ∧ ∀ ef ∈ config.ef_grid, ∃ sweep ∈ sweep_rows,
        sweep.record_index = row.record_index ∧ sweep.ef = ef ∧ Share sweep.recall ∧ Duration sweep.latency_ms

theorem restored_unique {sweep_rows : List SweepMeasurementRow} {row : TruthMeasurement} {sample other : MeasuredSample}
    (first : Restored sweep_rows row sample) (second : Restored sweep_rows row other) : sample = other := by
  obtain ⟨record_index, vector_hash, dup_count, latency, sweeps⟩ := sample
  obtain ⟨record_index', vector_hash', dup_count', latency', sweeps'⟩ := other
  obtain ⟨rfl, rfl, rfl, rfl, all⟩ := first
  obtain ⟨rfl, rfl, rfl, rfl, all'⟩ := second
  congr 1
  refine Std.ExtTreeMap.ext_getElem? fun ef => Option.ext fun observed => ?_
  exact (all ef observed).trans (all' ef observed).symm

/-- Samples of an accepted pair are told apart by their record index. -/
theorem Rows.sample_unique {truth_rows : List TruthMeasurement} {sweep_rows : List SweepMeasurementRow} {part : IntermediatePart}
    (rows : Rows truth_rows sweep_rows part) {sample other : MeasuredSample} (member : sample ∈ part.samples)
    (present : other ∈ part.samples) (same : sample.record_index = other.record_index) : sample = other := by
  obtain ⟨row, inside, restored⟩ := rows.origin sample member
  obtain ⟨row', inside', restored'⟩ := rows.origin other present
  have indices : row.record_index = row'.record_index := by rw [← restored.record_index, same, restored'.record_index]
  obtain rfl := List.inj_on_of_nodup_map rows.distinct inside inside' indices
  exact restored_unique restored restored'

theorem restored_valid_iff {sweep_rows : List SweepMeasurementRow} {row : TruthMeasurement} {sample : MeasuredSample}
    (part_ulid : String) (restored : Restored sweep_rows row sample) :
    validate_sample config.ef_grid (candidate part_ulid sample) = .ok () ↔ Duration row.latency_ms ∧
      ∀ ef ∈ config.ef_grid, ∃ sweep ∈ sweep_rows,
        sweep.record_index = row.record_index ∧ sweep.ef = ef ∧ Share sweep.recall ∧ Duration sweep.latency_ms := by
  rw [validate_sample_ok]
  change Duration sample.ground_truth_latency_ms ∧ (∀ ef ∈ config.ef_grid, ∃ observed, sample.sweeps[ef]? = some observed ∧
    Share observed.recall ∧ Duration observed.latency_ms) ↔ _
  rw [restored.latency]
  refine and_congr_right fun _ => forall₂_congr fun ef _ => ?_
  constructor
  · rintro ⟨observed, found, share, duration⟩
    obtain ⟨sweep, member, index, same, rfl⟩ := (restored.sweeps ef observed).mp found
    exact ⟨sweep, member, index, same, share, duration⟩
  · rintro ⟨sweep, member, index, same, share, duration⟩
    exact ⟨observation sweep, (restored.sweeps ef _).mpr ⟨sweep, member, index, same, rfl⟩, share, duration⟩

theorem wholesome_iff {truth_rows : List TruthMeasurement} {sweep_rows : List SweepMeasurementRow} {part : IntermediatePart}
    (rows : Rows truth_rows sweep_rows part) (part_ulid : String) :
    Wholesome config part.metadata truth_rows sweep_rows ↔ WithinReceived part ∧ FirstsValid config part_ulid part := by
  have first_iff : ∀ row ∈ truth_rows, ∀ sample ∈ part.samples, Restored sweep_rows row sample →
      ((∀ other ∈ truth_rows, other.vector_hash = row.vector_hash → row.record_index ≤ other.record_index) ↔
        First part sample) := by
    intro row _ sample member restored
    constructor
    · refine fun least => ⟨member, fun other present alike => ?_⟩
      obtain ⟨otherRow, inside, otherRestored⟩ := rows.origin other present
      rw [restored.record_index, otherRestored.record_index]
      refine least otherRow inside ?_
      rw [← otherRestored.vector_hash, alike, restored.vector_hash]
    · rintro ⟨_, least⟩ otherRow inside alike
      obtain ⟨other, present, otherRestored⟩ := rows.restored otherRow inside
      rw [← restored.record_index, ← otherRestored.record_index]
      refine least other present ?_
      rw [otherRestored.vector_hash, alike, restored.vector_hash]
  constructor
  · intro wholesome
    refine ⟨⟨by rw [rows.counted]; exact wholesome.measured, wholesome.failed⟩, fun sample first => ?_⟩
    obtain ⟨row, inside, restored⟩ := rows.origin sample first.1
    exact (restored_valid_iff part_ulid restored).mpr
      (wholesome.rows row inside ((first_iff row inside sample first.1 restored).mpr first))
  · rintro ⟨within, valid⟩
    refine ⟨by rw [← rows.counted]; exact within.measured, within.failed, fun row inside least => ?_⟩
    obtain ⟨sample, member, restored⟩ := rows.restored row inside
    exact (restored_valid_iff part_ulid restored).mp (valid sample ((first_iff row inside sample member restored).mp least))

/-- Every first sample survives when the other pairs have no samples. -/
theorem first_survives {filed : BTreeMap String IntermediatePart} {part_ulid : String} {part : IntermediatePart}
    (found : filed[part_ulid]? = some part) (keyed : part.metadata.part_ulid = part_ulid)
    (alone : ∀ (other : String) another, filed[other]? = some another → other ≠ part_ulid → another.samples = [])
    (unique : ∀ sample ∈ part.samples, ∀ other ∈ part.samples, sample.record_index = other.record_index → sample = other)
    {sample : MeasuredSample} (first : First part sample) : candidate part_ulid sample ∈ population_of_filed filed := by
  obtain ⟨kept, same, least⟩ := deduplicated_least (filed.toList.map Prod.snd)
  have given : candidate part_ulid sample ∈
      (samples_of (filed.toList.map Prod.snd)).map fun entry => candidate entry.1 entry.2 :=
    mem_candidates.mpr ⟨part, mem_values.mpr ⟨_, found⟩, sample, first.1, by rw [keyed]⟩
  obtain ⟨winner, filedWinner⟩ := least.total _ given
  obtain ⟨member, hash⟩ := least.member _ winner filedWinner
  obtain ⟨another, inUse, rival, inside, rfl⟩ := mem_candidates.mp member
  obtain ⟨other, there⟩ := mem_values.mp inUse
  by_cases own : other = part_ulid
  · subst own
    obtain rfl := Option.some.inj (found.symm.trans there)
    have below := least.least _ _ filedWinner _ given rfl
    have order : rival.record_index ≤ sample.record_index := by
      rw [keyed] at below
      rcases Prod.Lex.toLex_le_toLex.mp below with before | ⟨_, order⟩
      · exact absurd before (lt_irrefl _)
      · exact order
    have least' := first.2 rival inside hash
    obtain rfl := unique sample first.1 rival inside (by omega)
    rw [population_of_filed, same, mem_values]
    exact ⟨_, by rw [filedWinner, keyed]⟩
  · rw [alone other another there own] at inside
    cases inside

/-! ### A companion pair -/

/-- A source whose window lies in the rolling window, with the header of a segment. -/
structure InWindow (config : AggregationConfig) (round_end : Nat) (source : SourcePart) : Prop where
  windows : ∃ expected, in_scope_window_starts round_end config.window_duration_seconds config.storage_window_seconds =
    .ok expected
  above : round_end - config.window_duration_seconds ≤ source.listed.window_start
  below : source.listed.window_start + source.listed.window_seconds ≤ round_end
  ordered : source.listed.record_count ≤ source.listed.received_frame_count
  received : source.listed.received_frame_count ≤ U64_MAX

/-- A header of another part in the source's window, with all the frames that can still be counted. -/
def companion_header (source : SourcePart) (part_ulid : String) : ListedPart :=
  { source.listed with
    part_ulid
    received_frame_count := U64_MAX - source.listed.received_frame_count
    record_count := 0 }
/-- A pair without samples for that part. -/
def companion (source : SourcePart) (part : IntermediatePart) (part_ulid : String) : IntermediatePart :=
  { metadata := { part.metadata with
      part_ulid
      received_frame_count := U64_MAX - source.listed.received_frame_count
      record_count := 0
      failed_count := U64_MAX - source.listed.received_frame_count
      measured_count := U64_MAX - source.listed.received_frame_count }
    samples := [] }

/-- The pair of the source and its companion. -/
def both (source : SourcePart) (part : IntermediatePart) (other : String) : BTreeMap String IntermediatePart :=
  ((∅ : BTreeMap String IntermediatePart).insert (ulid_of source) part).insert other (companion source part other)

def both_input (config : AggregationConfig) (round_end : Nat) (source : SourcePart) (part : IntermediatePart)
    (other : String) : AggregationInput :=
  { config, round_end
    computed_at := ""
    phase_a_abort := none
    phase_a_incompatible_parts := 0
    previous_round := none
    listed_parts := [source.listed, companion_header source other]
    intermediates := (both source part other).toList.map Prod.snd }

theorem both_iff {source : SourcePart} {part : IntermediatePart} {other : String} (different : other ≠ ulid_of source)
    (key : String) (found : IntermediatePart) : (both source part other)[key]? = some found ↔
      key = ulid_of source ∧ found = part ∨ key = other ∧ found = companion source part other := by
  rw [both, lookup_insert, lookup_insert]
  by_cases added : other = key
  · subst added
    simp [different, eq_comm]
  · rw [if_neg added]
    by_cases own : ulid_of source = key
    · subst own
      simp [Ne.symm different, eq_comm]
    · simp [own, Ne.symm own, Ne.symm added]

theorem both_composed {round_end : Nat} {source : SourcePart} {part : IntermediatePart} {other : String}
    (different : other ≠ ulid_of source) (inWindow : InWindow config round_end source) (usable : Usable config source part) :
    Composed (both_input config round_end source part other) (both source part other) := by
  obtain ⟨_, ulid, _, _, received, _⟩ := usable.metadata
  refine ⟨rfl, fun key found there => ?_, fun key found there => ?_, fun key found there => ?_⟩
  · rcases (both_iff different key found).mp there with ⟨rfl, rfl⟩ | ⟨rfl, rfl⟩
    · exact ulid
    · rfl
  · rcases (both_iff different key found).mp there with ⟨rfl, rfl⟩ | ⟨rfl, rfl⟩
    · exact usable.compatible
    · exact usable.compatible
  · rcases (both_iff different key found).mp there with ⟨rfl, rfl⟩ | ⟨rfl, rfl⟩
    · exact ⟨source.listed, by simp [both_input], rfl, ⟨inWindow.above, inWindow.below⟩, received.symm⟩
    · exact ⟨companion_header source key, by simp [both_input], rfl, ⟨inWindow.above, inWindow.below⟩, rfl⟩

theorem both_reaches {round_end : Nat} {source : SourcePart} {part : IntermediatePart} {other : String}
    (different : other ≠ ulid_of source) (accepted : validate_aggregation_config config = .ok ())
    (clock : round_end ≤ U64_MAX) (inWindow : InWindow config round_end source) :
    ∃ listed, Reaches (both_input config round_end source part other) listed := by
  have fits : source.listed.window_start + source.listed.window_seconds ≤ U64_MAX := inWindow.below.trans clock
  have inside : ∀ header : ListedPart, header.window_start = source.listed.window_start →
      header.window_seconds = source.listed.window_seconds →
      in_scope (round_end - config.window_duration_seconds) round_end header = .ok true := by
    intro header start seconds
    have finish := checked_add_eq_some.mpr ⟨rfl, fits⟩
    have above := inWindow.above
    have below := inWindow.below
    unfold in_scope
    rw [start, seconds, finish]
    simp [above, below]
  have order : (((∅ : BTreeMap String ListedPart).insert (ulid_of source) source.listed).insert other
      (companion_header source other)).toList.Perm [(other, companion_header source other), (ulid_of source, source.listed)] :=
    toList_pair_perm (Ne.symm different)
  refine ⟨((∅ : BTreeMap String ListedPart).insert (ulid_of source) source.listed).insert other
    (companion_header source other), ⟨⟨?_, ?_⟩, accepted, inWindow.windows, ?_⟩⟩
  · have absent : ((∅ : BTreeMap String ListedPart).insert (ulid_of source) source.listed)[other]? = none := by
      rw [lookup_insert, if_neg (Ne.symm different)]
      rfl
    exact (collect_new (inside source.listed rfl rfl) rfl).trans
      ((collect_new (inside (companion_header source other) rfl rfl) absent).trans rfl)
  · have total := ((order.map Prod.snd).map ListedPart.received_frame_count).sum_eq
    have room := inWindow.received
    rw [total]
    simp only [List.map_cons, List.map_nil, List.sum_cons, List.sum_nil, companion_header]
    omega
  · intro header member
    have either := (order.map Prod.snd).mem_iff.mp member
    simp only [List.map_cons, List.map_nil, List.mem_cons, List.not_mem_nil, or_false] at either
    rcases either with rfl | rfl
    · exact Nat.zero_le _
    · exact inWindow.ordered

theorem within_of_gathered {round_end : Nat} {source : SourcePart} {part : IntermediatePart} {other : String}
    {listed : BTreeMap String ListedPart} (different : other ≠ ulid_of source) (inWindow : InWindow config round_end source)
    (usable : Usable config source part) (accounted : Accounted (both_input config round_end source part other) listed)
    (gathered : ∃ gathered, gather config listed (both source part other).toList ⟨[], 0, 0, 0⟩ = .ok gathered) :
    WithinReceived part := by
  have composed := both_composed different inWindow usable
  obtain ⟨measured, failed⟩ :=
    (gather_usable (composed.usable accounted) (Nat.zero_le _) (Nat.zero_le _)).mp gathered
  obtain ⟨_, _, _, _, received, _⟩ := usable.metadata
  have order : (both source part other).toList.Perm [(other, companion source part other), (ulid_of source, part)] :=
    toList_pair_perm (Ne.symm different)
  have room := inWindow.received
  rw [(order.map _).sum_eq] at measured failed
  simp only [List.map_cons, List.map_nil, List.sum_cons, List.sum_nil, companion] at measured failed
  exact ⟨by omega, by omega⟩

/-- A harmless pair keeps to the frames its part received, and its first samples are valid. -/
theorem valid_of_harmless {round_end : Nat} {source : SourcePart} {part : IntermediatePart}
    (accepted : validate_aggregation_config config = .ok ()) (clock : round_end ≤ U64_MAX)
    (inWindow : InWindow config round_end source) (usable : Usable config source part)
    (unique : ∀ sample ∈ part.samples, ∀ other ∈ part.samples, sample.record_index = other.record_index → sample = other)
    (harmless : Harmless beta_reg config source part) : WithinReceived part ∧ FirstsValid config (ulid_of source) part := by
  obtain ⟨other, different⟩ : ∃ other : String, other ≠ ulid_of source := by
    by_cases blank : ulid_of source = ""
    · exact ⟨"A", by rw [blank]; decide⟩
    · exact ⟨"", Ne.symm blank⟩
  have composed := both_composed different inWindow usable
  obtain ⟨listed, reaches⟩ : ∃ listed, Reaches (both_input config round_end source part other) listed :=
    both_reaches different accepted clock inWindow
  have own : (both source part other)[ulid_of source]? = some part := (both_iff different _ _).mpr (.inl ⟨rfl, rfl⟩)
  have others : ∀ (key : String) found, (both source part other)[key]? = some found → key ≠ ulid_of source →
      found = companion source part other := by
    intro key found there outside
    rcases (both_iff different key found).mp there with ⟨same, _⟩ | ⟨rfl, rfl⟩
    · exact absurd same outside
    · rfl
  rcases aggregate_refused beta_reg reaches composed with ⟨gathered, fits, valid⟩ | ⟨error, failed, refused⟩
  · refine ⟨within_of_gathered different inWindow usable reaches.accounted ⟨gathered, fits⟩, fun sample first => ?_⟩
    refine forM_ok.mp valid _ (first_survives own (composed.keyed _ _ own) (fun key found there outside => ?_) unique first)
    rw [others key found there outside]
    rfl
  · refine absurd ?_ (harmless _ _ error rfl (by simp [both_input]) composed own failed)
    rcases refused with overflowed | invalid
    · refine .inr ⟨gather_overflows (composed.usable reaches.accounted) error overflowed, fun key found there outside => ?_⟩
      rw [others key found there outside]
      exact ⟨Nat.le_refl _, Nat.le_refl _⟩
    · obtain ⟨survivor, member, named, _⟩ := validate_population_names _ _ error invalid
      obtain ⟨another, inUse, sample, first, rfl⟩ := survivor_first member
      obtain ⟨key, there⟩ := mem_values.mp inUse
      refine .inl (named.trans ?_)
      by_cases same : key = ulid_of source
      · rw [← same]
        exact congrArg some (composed.keyed key another there)
      · have empty := first.1
        rw [others key another there same] at empty
        cases empty

end VectorSeam.Healing
