import VectorSeam.Aggregate

/-!
Which pair an aggregation error is about. An aggregation fails because of what a pair
holds in two places only: when the declared counts are added up and when the population
is validated. Every other error leaves the pairs alone.
-/

namespace VectorSeam.Blame
open VectorSeam.Model VectorSeam.Estimators VectorSeam.Window VectorSeam.Accounting VectorSeam.Population
open VectorSeam.Aggregate VectorSeam.SortedMaps VectorSeam.Results

variable {config : AggregationConfig} {beta_reg : Float → Float → Float → Float}

/-- The part whose sample the error is about. -/
def named_part : AggregateError → Option String
  | .MissingSweep part_ulid _ _ => some part_ulid
  | .InvalidObservation part_ulid _ _ => some part_ulid
  | .InvalidGroundTruthLatency part_ulid _ => some part_ulid
  | _ => none

/-- The counts that the pairs declare were too many to add up. -/
def Overflows (error : AggregateError) : Prop :=
  error = .CounterOverflow "samples.measured" ∨ error = .CounterOverflow "samples.failed"

/-- The error is not about what any pair holds. -/
structure Neutral (error : AggregateError) : Prop where
  unnamed : named_part error = none
  counted : ¬Overflows error

@[simp] theorem neutral_math (error : MathError) : Neutral (.Math error) := ⟨rfl, by simp [Overflows]⟩
@[simp] theorem neutral_window (error : WindowError) : Neutral (.Window error) := ⟨rfl, by simp [Overflows]⟩
@[simp] theorem neutral_underflow : Neutral .WindowUnderflow := ⟨rfl, by simp [Overflows]⟩
@[simp] theorem neutral_unaligned : Neutral .UnalignedRoundEnd := ⟨rfl, by simp [Overflows]⟩
@[simp] theorem neutral_config (reason : String) : Neutral (.InvalidConfig reason) := ⟨rfl, by simp [Overflows]⟩
@[simp] theorem neutral_listed (part_ulid : String) : Neutral (.ConflictingListedPart part_ulid) :=
  ⟨rfl, by simp [Overflows]⟩
@[simp] theorem neutral_conflict (part_ulid : String) : Neutral (.ConflictingIntermediate part_ulid) :=
  ⟨rfl, by simp [Overflows]⟩
@[simp] theorem neutral_counts (part_ulid : String) : Neutral (.InvalidPartCounts part_ulid) :=
  ⟨rfl, by simp [Overflows]⟩
@[simp] theorem neutral_part_window (part_ulid : String) : Neutral (.PartWindowOverflow part_ulid) :=
  ⟨rfl, by simp [Overflows]⟩
@[simp] theorem neutral_json (message : String) : Neutral (.Json message) := ⟨rfl, by simp [Overflows]⟩
theorem neutral_counter {counter : String} (measured : counter ≠ "samples.measured") (failed : counter ≠ "samples.failed") :
    Neutral (.CounterOverflow counter) := ⟨rfl, by simp [Overflows, measured, failed]⟩

/-- The error is about the headers of listed parts, about the pairs as files or about the time of the round. -/
def Clerical : AggregateError → Prop
  | .Window _ => True
  | .WindowUnderflow => True
  | .UnalignedRoundEnd => True
  | .ConflictingListedPart _ => True
  | .ConflictingIntermediate _ => True
  | .InvalidPartCounts _ => True
  | .PartWindowOverflow _ => True
  | .CounterOverflow counter => counter ≠ "samples.measured" ∧ counter ≠ "samples.failed"
  | _ => False

theorem Clerical.neutral {error : AggregateError} (clerical : Clerical error) : Neutral error := by
  cases error with
  | Window error => exact neutral_window error
  | WindowUnderflow => exact neutral_underflow
  | UnalignedRoundEnd => exact neutral_unaligned
  | ConflictingListedPart part_ulid => exact neutral_listed part_ulid
  | ConflictingIntermediate part_ulid => exact neutral_conflict part_ulid
  | InvalidPartCounts part_ulid => exact neutral_counts part_ulid
  | PartWindowOverflow part_ulid => exact neutral_part_window part_ulid
  | CounterOverflow counter => exact neutral_counter clerical.1 clerical.2
  | _ => exact clerical.elim

/-! ### Steps that fail without a pair -/

theorem fails_ok_or {α : Type} {allowed : AggregateError → Prop} {value : Option α} {error : AggregateError}
    (holds : allowed error) : Fails allowed (ok_or value error) := by
  cases value with
  | none => exact fails_error holds
  | some value => exact fails_ok

theorem fails_math {α : Type} (result : Except MathError α) : Fails Neutral (math result) := by
  cases result with
  | ok value => exact fails_ok
  | error error => exact fails_error (neutral_math error)

theorem fails_window {α : Type} (result : Except WindowError α) : Fails Neutral (window result) := by
  cases result with
  | ok value => exact fails_ok
  | error error => exact fails_error (neutral_window error)

theorem fails_require (holds : Bool) (reason : String) : Fails Neutral (require holds reason) := by
  cases holds with
  | true => exact fails_ok
  | false => exact fails_error (neutral_config reason)

theorem validate_aggregation_config_neutral (config : AggregationConfig) :
    Fails Neutral (validate_aggregation_config config) := by
  unfold validate_aggregation_config
  repeat refine fails_bind (fails_require _ _) fun _ _ => ?_
  exact fails_bind (fails_math _) fun _ _ => fails_ok

theorem in_scope_window_starts_clerical (round_end duration width : Nat) :
    Fails Clerical (in_scope_window_starts round_end duration width) := by
  unfold in_scope_window_starts
  refine fails_guard trivial (fails_guard trivial ?_)
  exact fails_bind (fails_ok_or trivial) fun _ _ => fails_ok

theorem fails_collect {κ α ε : Type} [Ord κ] [Std.TransOrd κ] [Std.LawfulEqOrd κ] {allowed : ε → Prop}
    {belongs : α → Except ε Bool} {key : α → κ} {differs : α → α → Bool} {clash : α → ε}
    (judging : ∀ item, Fails allowed (belongs item)) (clashing : ∀ item, allowed (clash item)) {items : List α}
    {filed : Std.ExtTreeMap κ α} : Fails allowed (collect belongs key differs clash items filed) := by
  induction items generalizing filed with
  | nil => exact fails_ok
  | cons item rest ih =>
    unfold collect
    cases judged : belongs item with
    | error error => exact fails_error (judging item error judged)
    | ok admitted =>
      cases admitted with
      | false => exact ih
      | true =>
        cases filed[key item]? with
        | none => exact ih
        | some existing =>
          exact fails_ite (fun _ => fails_error (clashing item)) fun _ => ih

theorem unique_in_scope_parts_clerical (parts : List ListedPart) (lower round_end : Nat) :
    Fails Clerical (unique_in_scope_parts parts lower round_end) := by
  refine fails_collect (fun part => ?_) fun _ => trivial
  unfold in_scope
  cases checked_add part.window_start part.window_seconds with
  | none => exact fails_error trivial
  | some part_end => exact fails_ok

theorem unique_intermediates_clerical (parts : List IntermediatePart) : Fails Clerical (unique_intermediates parts) :=
  fails_collect (fun _ => fails_ok) fun _ => trivial

theorem sum_available_clerical (parts : List ListedPart) (total : Nat) : Fails Clerical (sum_available parts total) := by
  induction parts generalizing total with
  | nil => exact fails_ok
  | cons part rest ih =>
    unfold sum_available
    refine fails_guard trivial (fails_bind (fails_ok_or ?_) fun total _ => ih total)
    exact ⟨by decide, by decide⟩

theorem sum_frames_clerical (headers : List (String × Nat × Nat)) (received records : Nat) :
    Fails Clerical (sum_frames headers received records) := by
  induction headers generalizing received records with
  | nil => exact fails_ok
  | cons header rest ih =>
    unfold sum_frames
    refine fails_guard trivial (fails_bind (fails_ok_or ?_) fun received _ => ?_)
    · exact ⟨by decide, by decide⟩
    · refine fails_bind (fails_ok_or ?_) fun records _ => ih received records
      exact ⟨by decide, by decide⟩

theorem dropped_frame_fraction_clerical (headers : List (String × Nat × Nat)) :
    Fails Clerical (dropped_frame_fraction headers) := by
  unfold dropped_frame_fraction
  refine fails_bind (sum_frames_clerical headers 0 0) fun totals _ => ?_
  exact fails_ite (fun _ => fails_ok) fun _ => fails_ok

theorem split_neutral (population : List PopulationSample) : Fails Neutral (split config population) := by
  induction population with
  | nil => exact fails_ok
  | cons sample rest ih =>
    unfold split
    refine fails_bind (fails_math _) fun in_train _ => fails_bind ih fun sides _ => ?_
    cases in_train with
    | true => exact fails_ok
    | false => exact fails_ok

theorem per_ef_summaries_neutral (population : List PopulationSample) :
    Fails Neutral (per_ef_summaries population config) := by
  unfold per_ef_summaries
  refine fails_ite (fun _ => fails_ok) fun _ => ?_
  exact fails_mapM fun _ _ => fails_bind (fails_math _) fun _ _ => fails_ok

theorem evaluate_split_neutral (samples : List PopulationSample) (ef : Int) :
    Fails Neutral (evaluate_split beta_reg config samples ef) :=
  fails_bind (fails_math _) fun _ _ => fails_bind (fails_math _) fun _ _ => fails_ok

theorem select_and_validate_neutral (train test : List PopulationSample) :
    Fails Neutral (select_and_validate beta_reg config train test) := by
  refine fails_bind (fails_mapM fun ef _ => fails_bind (fails_math _) fun _ _ => fails_ok) fun _ _ => ?_
  refine fails_bind (fails_math _) fun selected _ => ?_
  refine fails_bind (evaluate_split_neutral train _) fun _ _ => ?_
  exact fails_bind (evaluate_split_neutral test _) fun _ _ => fails_ok

theorem decide_selection_neutral (input : AggregationInput) (train test : List PopulationSample) :
    Fails Neutral (decide_selection beta_reg input train test) := by
  unfold decide_selection
  refine fails_bind (fails_math _) fun train_ceiling _ => fails_bind (fails_math _) fun test_ceiling _ => ?_
  refine fails_ite (fun _ => fails_ok) fun _ => ?_
  exact fails_bind (select_and_validate_neutral train test) fun _ _ => fails_ok

theorem conclude_neutral (input : AggregationInput) (survey : Survey) :
    Fails Neutral (conclude beta_reg input survey) := by
  refine fails_bind (per_ef_summaries_neutral _) fun _ _ => fails_bind (split_neutral _) fun sides _ => ?_
  refine fails_bind (decide_selection_neutral input _ _) fun _ _ => ?_
  exact fails_bind (fails_window _) fun _ _ => fails_bind (fails_window _) fun _ _ => fails_ok

/-! ### Adding up the counts -/

/-- Usable pairs are gathered exactly when their counts can be added up. -/
theorem gather_usable {listed : BTreeMap String ListedPart} {entries : List (String × IntermediatePart)} {before : Gathered}
    (usable : ∀ entry ∈ entries, entry.1 ∈ listed ∧ is_compatible config entry.2 = true)
    (measured : before.measured ≤ U64_MAX) (failed : before.failed ≤ U64_MAX) :
    (∃ after, gather config listed entries before = .ok after) ↔
      before.measured + (entries.map fun entry => entry.2.metadata.measured_count).sum ≤ U64_MAX ∧
        before.failed + (entries.map fun entry => entry.2.metadata.failed_count).sum ≤ U64_MAX := by
  induction entries generalizing before with
  | nil => exact ⟨fun _ => ⟨measured, failed⟩, fun _ => ⟨before, rfl⟩⟩
  | cons entry rest ih =>
    obtain ⟨part_ulid, intermediate⟩ := entry
    obtain ⟨⟨present, compatible⟩, others⟩ := List.forall_mem_cons.mp usable
    unfold gather
    rw [if_neg (not_not.mpr present), if_neg (not_not.mpr compatible)]
    simp only [List.map_cons, List.sum_cons, Results.bind_ok, ok_or_ok, checked_add_eq_some]
    constructor
    · rintro ⟨after, _, ⟨rfl, fits⟩, _, ⟨rfl, fitsToo⟩, later⟩
      obtain ⟨total, lost⟩ := (ih others fits fitsToo).mp ⟨after, later⟩
      dsimp only at total lost
      exact ⟨by omega, by omega⟩
    · rintro ⟨total, lost⟩
      have fits : before.measured + intermediate.metadata.measured_count ≤ U64_MAX := by omega
      have fitsToo : before.failed + intermediate.metadata.failed_count ≤ U64_MAX := by omega
      obtain ⟨after, later⟩ : ∃ after, gather config listed rest { before with
          used := before.used ++ [intermediate]
          measured := before.measured + intermediate.metadata.measured_count
          failed := before.failed + intermediate.metadata.failed_count } = .ok after := by
        refine (ih others fits fitsToo).mpr ?_
        dsimp only
        exact ⟨by omega, by omega⟩
      exact ⟨after, _, ⟨rfl, fits⟩, _, ⟨rfl, fitsToo⟩, later⟩

theorem gather_overflows {listed : BTreeMap String ListedPart} {entries : List (String × IntermediatePart)} {before : Gathered}
    (usable : ∀ entry ∈ entries, entry.1 ∈ listed ∧ is_compatible config entry.2 = true) :
    Fails Overflows (gather config listed entries before) := by
  induction entries generalizing before with
  | nil => exact fails_ok
  | cons entry rest ih =>
    obtain ⟨part_ulid, intermediate⟩ := entry
    obtain ⟨⟨present, compatible⟩, others⟩ := List.forall_mem_cons.mp usable
    unfold gather
    rw [if_neg (not_not.mpr present), if_neg (not_not.mpr compatible)]
    exact fails_bind (fails_ok_or (.inl rfl)) fun _ _ => fails_bind (fails_ok_or (.inr rfl)) fun _ _ => ih others

/-- Accepted headers add up to at most the largest counter. -/
theorem sum_frames_total {headers : List (String × Nat × Nat)} {received records : Nat} {total : Nat × Nat}
    (found : sum_frames headers received records = .ok total) (small : received ≤ U64_MAX) :
    received + (headers.map fun header => header.2.1).sum ≤ U64_MAX := by
  induction headers generalizing received records with
  | nil => exact small
  | cons header rest ih =>
    obtain ⟨part_ulid, part_received, part_records⟩ := header
    unfold sum_frames at found
    obtain ⟨_, found⟩ := Results.guard_ok.mp found
    obtain ⟨more, moreFound, found⟩ := Results.bind_ok.mp found
    obtain ⟨kept, _, found⟩ := Results.bind_ok.mp found
    obtain ⟨rfl, fits⟩ := checked_add_eq_some.mp (ok_or_ok.mp moreFound)
    have later := ih found fits
    rw [List.map_cons, List.sum_cons]
    dsimp only
    omega

theorem sum_frames_succeeds {headers : List (String × Nat × Nat)} {received records : Nat}
    (ordered : ∀ header ∈ headers, header.2.2 ≤ header.2.1) (below : records ≤ received)
    (fits : received + (headers.map fun header => header.2.1).sum ≤ U64_MAX) :
    ∃ total, sum_frames headers received records = .ok total := by
  induction headers generalizing received records with
  | nil => exact ⟨_, rfl⟩
  | cons header rest ih =>
    obtain ⟨part_ulid, part_received, part_records⟩ := header
    obtain ⟨own, others⟩ := List.forall_mem_cons.mp ordered
    rw [List.map_cons, List.sum_cons] at fits
    dsimp only at own fits
    obtain ⟨total, later⟩ := ih others (Nat.add_le_add below own) (by omega)
    refine ⟨total, Results.guard_ok.mpr ⟨by omega, ?_⟩⟩
    refine Results.bind_ok.mpr ⟨_, ok_or_ok.mpr (checked_add_eq_some.mpr ⟨rfl, by omega⟩), ?_⟩
    exact Results.bind_ok.mpr ⟨_, ok_or_ok.mpr (checked_add_eq_some.mpr ⟨rfl, by omega⟩), later⟩

theorem sum_available_succeeds {parts : List ListedPart} {start : Nat}
    (ordered : ∀ part ∈ parts, part.record_count ≤ part.received_frame_count)
    (fits : start + (parts.map ListedPart.received_frame_count).sum ≤ U64_MAX) :
    ∃ total, sum_available parts start = .ok total := by
  induction parts generalizing start with
  | nil => exact ⟨_, rfl⟩
  | cons part rest ih =>
    obtain ⟨own, others⟩ := List.forall_mem_cons.mp ordered
    rw [List.map_cons, List.sum_cons] at fits
    have later : start + part.record_count + (rest.map ListedPart.received_frame_count).sum ≤ U64_MAX := by omega
    obtain ⟨total, later⟩ := ih others later
    refine ⟨total, Results.guard_ok.mpr ⟨by omega, ?_⟩⟩
    exact Results.bind_ok.mpr ⟨_, ok_or_ok.mpr (checked_add_eq_some.mpr ⟨rfl, by omega⟩), later⟩

theorem dropped_frame_fraction_succeeds {parts : List ListedPart}
    (ordered : ∀ part ∈ parts, part.record_count ≤ part.received_frame_count)
    (fits : (parts.map ListedPart.received_frame_count).sum ≤ U64_MAX) :
    ∃ fraction, dropped_frame_fraction (parts.map fun part =>
      (part.part_ulid, part.received_frame_count, part.record_count)) = .ok fraction := by
  have below : ∀ header ∈ parts.map (fun part => (part.part_ulid, part.received_frame_count, part.record_count)),
      header.2.2 ≤ header.2.1 := by
    intro header member
    obtain ⟨part, inside, rfl⟩ := List.mem_map.mp member
    exact ordered part inside
  obtain ⟨totals, summed⟩ := sum_frames_succeeds below (Nat.le_refl 0) (by simpa [Function.comp_def] using fits)
  rw [dropped_frame_fraction, summed, ok_bind]
  by_cases nothing : totals.1 = 0
  · exact ⟨0.0, by simp only [if_pos nothing]; rfl⟩
  · exact ⟨_, by simp only [if_neg nothing]; rfl⟩

theorem window_fits {round_end duration width : Nat} {starts : List Nat}
    (found : in_scope_window_starts round_end duration width = .ok starts) : duration ≤ round_end := by
  obtain ⟨_, found⟩ := Results.guard_ok.mp found
  obtain ⟨_, found⟩ := Results.guard_ok.mp found
  obtain ⟨lower, lowerFound, _⟩ := Results.bind_ok.mp found
  exact (checked_sub_eq_some.mp (ok_or_ok.mp lowerFound)).1

/-! ### Validating the population -/

theorem validate_sample_names (ef_grid : List Int) (sample : PopulationSample) :
    Fails (fun error => named_part error = some sample.part_ulid) (validate_sample ef_grid sample) := by
  refine fails_guard rfl (fails_forM fun ef _ => ?_)
  exact fails_bind (fails_ok_or rfl) fun _ _ => fails_guard rfl fails_ok

/-- The population is refused for one of its samples, and the error names the part of that sample. -/
theorem validate_population_names (population : List PopulationSample) (ef_grid : List Int) :
    Fails (fun error => ∃ sample ∈ population, named_part error = some sample.part_ulid ∧
      validate_sample ef_grid sample ≠ .ok ()) (validate_population population ef_grid) :=
  fails_forM fun sample member error failed =>
    ⟨sample, member, validate_sample_names ef_grid sample error failed, by rw [failed]; nofun⟩

/-- The samples that deduplication chooses from. -/
theorem mem_candidates {used : List IntermediatePart} {survivor : PopulationSample} :
    survivor ∈ (samples_of used).map (fun entry => candidate entry.1 entry.2) ↔
      ∃ part ∈ used, ∃ sample ∈ part.samples, survivor = candidate part.metadata.part_ulid sample := by
  simp only [samples_of, List.mem_map, List.mem_flatMap]
  constructor
  · rintro ⟨_, ⟨part, member, sample, inside, rfl⟩, rfl⟩
    exact ⟨part, member, sample, inside, rfl⟩
  · rintro ⟨part, member, sample, inside, rfl⟩
    exact ⟨_, ⟨part, member, sample, inside, rfl⟩, rfl⟩

theorem deduplicated_least (used : List IntermediatePart) :
    ∃ kept, deduplicate_samples (samples_of used) = kept.toList.map Prod.snd ∧ Least PopulationSample.vector_hash
      PopulationSample.rank ((samples_of used).map fun entry => candidate entry.1 entry.2) kept :=
  ⟨_, rfl, keep_least_spec _⟩

/-- A sample that no other one of its part with its vector hash precedes. -/
def First (part : IntermediatePart) (sample : MeasuredSample) : Prop :=
  sample ∈ part.samples ∧
    ∀ other ∈ part.samples, other.vector_hash = sample.vector_hash → sample.record_index ≤ other.record_index

/-- A survivor is the first sample of its hash in its part. -/
theorem survivor_first {used : List IntermediatePart} {survivor : PopulationSample}
    (member : survivor ∈ deduplicate_samples (samples_of used)) :
    ∃ part ∈ used, ∃ sample, First part sample ∧ survivor = candidate part.metadata.part_ulid sample := by
  obtain ⟨kept, same, least⟩ := deduplicated_least used
  rw [same, mem_values] at member
  obtain ⟨hash, filed⟩ := member
  obtain ⟨given, keyed⟩ := least.member hash survivor filed
  obtain ⟨part, inUse, sample, inside, rfl⟩ := mem_candidates.mp given
  refine ⟨part, inUse, sample, ⟨inside, fun other present alike => ?_⟩, rfl⟩
  have below := least.least hash _ filed (candidate part.metadata.part_ulid other)
    (mem_candidates.mpr ⟨part, inUse, other, present, rfl⟩) (alike.trans keyed)
  rcases Prod.Lex.toLex_le_toLex.mp below with before | ⟨_, order⟩
  · exact absurd before (lt_irrefl _)
  · exact order

/-! ### Aggregations over filed pairs -/

/-- The aggregation is over the filed pairs, each compatible and with the header of its part in scope. -/
structure Composed (input : AggregationInput) (filed : BTreeMap String IntermediatePart) : Prop where
  intermediates : input.intermediates = filed.toList.map Prod.snd
  keyed : ∀ (part_ulid : String) part, filed[part_ulid]? = some part → part.metadata.part_ulid = part_ulid
  compatible : ∀ (part_ulid : String) part, filed[part_ulid]? = some part → is_compatible input.config part = true
  listed : ∀ (part_ulid : String) part, filed[part_ulid]? = some part → ∃ header ∈ input.listed_parts,
    header.part_ulid = part_ulid ∧ InScope input header ∧ header.received_frame_count = part.metadata.received_frame_count

theorem Composed.unique {input : AggregationInput} {filed : BTreeMap String IntermediatePart} (composed : Composed input filed) :
    unique_intermediates input.intermediates = .ok filed := by
  rw [composed.intermediates]
  exact unique_intermediates_values fun entry member =>
    composed.keyed entry.1 entry.2 (Std.ExtTreeMap.mem_toList_iff_getElem?_eq_some.mp member)

/-- The headers that an aggregation accounts for. -/
structure Accounted (input : AggregationInput) (listed : BTreeMap String ListedPart) : Prop where
  filed : unique_in_scope_parts input.listed_parts (input.round_end - input.config.window_duration_seconds) input.round_end =
    .ok listed
  received : ((listed.toList.map Prod.snd).map ListedPart.received_frame_count).sum ≤ U64_MAX

/-- Filed pairs are listed under the header of their part. -/
theorem Composed.header {input : AggregationInput} {filed : BTreeMap String IntermediatePart} {listed : BTreeMap String ListedPart}
    (composed : Composed input filed) (accounted : Accounted input listed) {part_ulid : String} {part : IntermediatePart}
    (found : filed[part_ulid]? = some part) : ∃ header, listed[part_ulid]? = some header ∧
      header.received_frame_count = part.metadata.received_frame_count := by
  obtain ⟨header, member, same, inside, received⟩ := composed.listed part_ulid part found
  obtain ⟨consistent, files⟩ := (collect_ok_iff (listed_faithful _)).mp accounted.filed
  obtain ⟨judged, verdict⟩ := consistent.judged header member
  refine ⟨header, (files part_ulid header).mpr ⟨member, ?_, same⟩, received⟩
  unfold in_scope at verdict ⊢
  cases finish : checked_add header.window_start header.window_seconds with
  | none => rw [finish] at verdict; cases verdict
  | some part_end =>
    obtain ⟨rfl, _⟩ := checked_add_eq_some.mp finish
    obtain ⟨above, below⟩ := inside
    simp [above, below]

theorem Composed.usable {input : AggregationInput} {filed : BTreeMap String IntermediatePart} {listed : BTreeMap String ListedPart}
    (composed : Composed input filed) (accounted : Accounted input listed) :
    ∀ entry ∈ filed.toList, entry.1 ∈ listed ∧ is_compatible input.config entry.2 = true := by
  intro entry member
  have found := Std.ExtTreeMap.mem_toList_iff_getElem?_eq_some.mp member
  obtain ⟨header, present, _⟩ := composed.header accounted found
  exact ⟨Std.ExtTreeMap.mem_iff_isSome_getElem?.mpr (by rw [present]; rfl), composed.compatible _ _ found⟩

/-- The population of the filed pairs. -/
def population_of_filed (filed : BTreeMap String IntermediatePart) : List PopulationSample :=
  deduplicate_samples (samples_of (filed.toList.map Prod.snd))

/-- The aggregation of filed pairs fails with this error because of what they hold. -/
def Refused (input : AggregationInput) (listed : BTreeMap String ListedPart) (filed : BTreeMap String IntermediatePart)
    (error : AggregateError) : Prop :=
  gather input.config listed filed.toList ⟨[], input.phase_a_incompatible_parts, 0, 0⟩ = .error error ∨
    validate_population (population_of_filed filed) input.config.ef_grid = .error error

/-- An aggregation that fails with another error than these two fails whatever the pairs hold. -/
theorem aggregate_fails {input : AggregationInput} {filed : BTreeMap String IntermediatePart} (composed : Composed input filed) :
    Fails (fun error => Neutral error ∨ ∃ listed, Accounted input listed ∧ Refused input listed filed error)
      (aggregate beta_reg input) := by
  refine fails_bind ?_ fun survey _ => (conclude_neutral input survey).mono fun _ => .inl
  refine fails_bind ((validate_aggregation_config_neutral _).mono fun _ => .inl) fun _ _ => ?_
  refine fails_bind ((in_scope_window_starts_clerical _ _ _).mono fun _ clerical => .inl clerical.neutral) fun expected _ => ?_
  refine fails_bind (fails_ok_or (.inl neutral_underflow)) fun lower lowerFound => ?_
  obtain rfl := (checked_sub_eq_some.mp (ok_or_ok.mp lowerFound)).2
  refine fails_bind ((unique_in_scope_parts_clerical _ _ _).mono fun _ clerical => .inl clerical.neutral) fun listed listedFound => ?_
  refine fails_bind ((sum_available_clerical _ _).mono fun _ clerical => .inl clerical.neutral) fun available _ => ?_
  refine fails_bind ((dropped_frame_fraction_clerical _).mono fun _ clerical => .inl clerical.neutral) fun fraction dropped => ?_
  have accounted : Accounted input listed := by
    refine ⟨listedFound, ?_⟩
    obtain ⟨totals, summed, _⟩ := Results.bind_ok.mp dropped
    simpa [List.map_map, Function.comp_def] using sum_frames_total summed (Nat.zero_le _)
  refine fails_bind ((unique_intermediates_clerical _).mono fun _ clerical => .inl clerical.neutral) fun intermediates unique => ?_
  obtain rfl := Except.ok.inj (unique.symm.trans composed.unique)
  refine fails_bind (fun error failed => .inr ⟨listed, accounted, .inl failed⟩) fun gathered found => ?_
  have used := (gather_all found (composed.usable accounted)).1
  rw [List.nil_append] at used
  refine fails_bind (fun error failed => .inr ⟨listed, accounted, .inr ?_⟩) fun _ _ => fails_ok
  rw [population_of_filed, ← used]
  exact failed

/-- The conditions under which an aggregation gets as far as its pairs. -/
structure Reaches (input : AggregationInput) (listed : BTreeMap String ListedPart) : Prop where
  accounted : Accounted input listed
  config : validate_aggregation_config input.config = .ok ()
  windows : ∃ expected, in_scope_window_starts input.round_end input.config.window_duration_seconds
    input.config.storage_window_seconds = .ok expected
  ordered : ∀ header ∈ listed.toList.map Prod.snd, header.record_count ≤ header.received_frame_count

/-- Then it fails when its pairs are refused. -/
theorem aggregate_refused (beta_reg : Float → Float → Float → Float) {input : AggregationInput}
    {listed : BTreeMap String ListedPart} {filed : BTreeMap String IntermediatePart} (reaches : Reaches input listed) (composed : Composed input filed) :
    (∃ gathered, gather input.config listed filed.toList ⟨[], input.phase_a_incompatible_parts, 0, 0⟩ = .ok gathered ∧
        validate_population (population_of_filed filed) input.config.ef_grid = .ok ()) ∨
      ∃ error, aggregate beta_reg input = .error error ∧ Refused input listed filed error := by
  obtain ⟨expected, windows⟩ := reaches.windows
  have lower : checked_sub input.round_end input.config.window_duration_seconds =
      some (input.round_end - input.config.window_duration_seconds) :=
    checked_sub_eq_some.mpr ⟨window_fits windows, rfl⟩
  obtain ⟨available, summed⟩ := sum_available_succeeds reaches.ordered
    (by rw [Nat.zero_add]; exact reaches.accounted.received)
  obtain ⟨drops, dropped⟩ := dropped_frame_fraction_succeeds reaches.ordered reaches.accounted.received
  have stages : aggregate beta_reg input =
      (gather input.config listed filed.toList ⟨[], input.phase_a_incompatible_parts, 0, 0⟩ >>= fun gathered =>
        (do
          let population := deduplicate_samples (samples_of gathered.used)
          validate_population population input.config.ef_grid
          pure { lower := input.round_end - input.config.window_duration_seconds, listed,
                 coverage := coverage expected listed, available, drop_fraction := drops, gathered, population }) >>=
        conclude beta_reg input) := by
    rw [aggregate, survey, reaches.config, windows]
    simp only [ok_bind, lower, ok_or, reaches.accounted.filed, summed, dropped, composed.unique, bind_assoc]
  rw [stages]
  have usable := composed.usable reaches.accounted
  cases gathering : gather input.config listed filed.toList ⟨[], input.phase_a_incompatible_parts, 0, 0⟩ with
  | error error => exact .inr ⟨error, rfl, .inl gathering⟩
  | ok gathered =>
    have used := (gather_all gathering usable).1
    rw [List.nil_append] at used
    rw [ok_bind, used, ← population_of_filed]
    cases validated : validate_population (population_of_filed filed) input.config.ef_grid with
    | error error => exact .inr ⟨error, by simp only [validated, error_bind], .inr validated⟩
    | ok _ => exact .inl ⟨gathered, rfl, rfl⟩

end VectorSeam.Blame
