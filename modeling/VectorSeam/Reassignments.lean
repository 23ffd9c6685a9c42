import VectorSeam.RelatedMaps
import VectorSeam.Decision

/-!
The same samples with other recalls. Deduplication and the split read hashes and ranks
only, so two rounds over such samples work on the same population and the same splits.
-/

namespace VectorSeam.Reassignments
open VectorSeam.Model VectorSeam.Accounting VectorSeam.Population VectorSeam.Aggregate VectorSeam.SortedMaps
open VectorSeam.RelatedMaps List

/-- The same measurement with a related recall. -/
structure Rescored (related : Float → Float → Prop) (before after : SweepMeasurement) : Prop where
  recalled : related before.recall after.recall
  latency_ms : before.latency_ms = after.latency_ms

structure SampleRescored (related : Float → Float → Prop) (before after : MeasuredSample) : Prop where
  record_index : before.record_index = after.record_index
  vector_hash : before.vector_hash = after.vector_hash
  dup_count : before.dup_count = after.dup_count
  ground_truth_latency_ms : before.ground_truth_latency_ms = after.ground_truth_latency_ms
  sweeps : Related (Rescored related) before.sweeps after.sweeps

structure PartRescored (related : Float → Float → Prop) (before after : IntermediatePart) : Prop where
  metadata : before.metadata = after.metadata
  samples : Forall₂ (SampleRescored related) before.samples after.samples

structure SurvivorRescored (related : Float → Float → Prop) (before after : PopulationSample) : Prop where
  part_ulid : before.part_ulid = after.part_ulid
  record_index : before.record_index = after.record_index
  vector_hash : before.vector_hash = after.vector_hash
  ground_truth_latency_ms : before.ground_truth_latency_ms = after.ground_truth_latency_ms
  sweeps : Related (Rescored related) before.sweeps after.sweeps

variable {related : Float → Float → Prop}

/-! ### The population -/

theorem candidate_rescored (part_ulid : String) {before after : MeasuredSample} (rescored : SampleRescored related before after) :
    SurvivorRescored related (candidate part_ulid before) (candidate part_ulid after) :=
  ⟨rfl, rescored.record_index, rescored.vector_hash, rescored.ground_truth_latency_ms, rescored.sweeps⟩

theorem SurvivorRescored.rank {before after : PopulationSample} (rescored : SurvivorRescored related before after) :
    before.rank = after.rank := by
  rw [PopulationSample.rank, PopulationSample.rank, rescored.part_ulid, rescored.record_index]

theorem deduplicate_rescored {used used' : List IntermediatePart} (parts : Forall₂ (PartRescored related) used used') :
    Forall₂ (SurvivorRescored related) (deduplicate_samples (samples_of used)) (deduplicate_samples (samples_of used')) := by
  have candidates : Forall₂ (SurvivorRescored related) ((samples_of used).map fun entry => candidate entry.1 entry.2)
      ((samples_of used').map fun entry => candidate entry.1 entry.2) := by
    induction parts with
    | nil => exact .nil
    | @cons part other rest rest' here _ ih =>
      rw [samples_of, samples_of, flatMap_cons, flatMap_cons, map_append, map_append, map_map, map_map]
      refine rel_append ?_ ih
      rw [forall₂_map_left_iff, forall₂_map_right_iff]
      refine here.samples.imp fun before after rescored => ?_
      rw [Function.comp_apply, Function.comp_apply, here.metadata]
      exact candidate_rescored _ rescored
  refine (keep_least_related (fun _ _ rescored => rescored.vector_hash) ?_ candidates).values
  intro one two other next first second
  rw [first.rank, second.rank]

theorem is_compatible_rescored (config : AggregationConfig) {before after : IntermediatePart}
    (rescored : PartRescored related before after) : is_compatible config before = is_compatible config after := by
  rw [is_compatible, is_compatible, rescored.metadata]

/-- Surveys of the same listed parts in the same scope, over parts that differ in recalls only. -/
theorem populations_rescored {input input' : AggregationInput} {surveyed surveyed' : Survey}
    (found : survey input = .ok surveyed) (found' : survey input' = .ok surveyed')
    (listed : input.listed_parts = input'.listed_parts) (ended : input.round_end = input'.round_end)
    (scope : input.config.window_duration_seconds = input'.config.window_duration_seconds)
    (compatible : ∀ part, is_compatible input.config part = is_compatible input'.config part)
    (parts : Forall₂ (PartRescored related) input.intermediates input'.intermediates) :
    Forall₂ (SurvivorRescored related) surveyed.population surveyed'.population := by
  have first := survey_ok found
  have second := survey_ok found'
  have sameListed : surveyed.listed = surveyed'.listed := by
    have files := first.listed
    rw [first.lower, listed, ended, scope, ← second.lower] at files
    exact files.unique second.listed
  obtain ⟨intermediates, unique, used⟩ := first.intermediates
  obtain ⟨intermediates', unique', used'⟩ := second.intermediates
  have filed : Related (PartRescored related) intermediates intermediates' := by
    unfold unique_intermediates at unique unique'
    refine collect_related (fun _ _ _ => rfl) ?_ parts .empty unique unique'
    intro part other rescored
    rw [rescored.metadata]
  rw [first.population, second.population, used, used', sameListed]
  refine deduplicate_rescored ?_
  rw [forall₂_map_left_iff, forall₂_map_right_iff]
  refine (rel_filter ?_ filed.toList).imp fun _ _ pair => pair.2
  rintro ⟨ulid, part⟩ ⟨ulid', part'⟩ ⟨rfl, rescored⟩
  have same : is_compatible input.config part = is_compatible input'.config part' :=
    (is_compatible_rescored _ rescored).trans (compatible _)
  dsimp only
  rw [same]

/-! ### The splits -/

theorem in_train_rescored (config : AggregationConfig) {before after : PopulationSample}
    (rescored : SurvivorRescored related before after) : in_train config before = in_train config after := by
  rw [in_train, in_train, rescored.vector_hash]

theorem train_rescored (config : AggregationConfig) {population rescored : List PopulationSample}
    (pairs : Forall₂ (SurvivorRescored related) population rescored) :
    Forall₂ (SurvivorRescored related) (trainOf config population) (trainOf config rescored) :=
  rel_filter (fun _ _ here => iff_of_eq (congrArg (· = true) (in_train_rescored config here))) pairs

theorem holdout_rescored (config : AggregationConfig) {population rescored : List PopulationSample}
    (pairs : Forall₂ (SurvivorRescored related) population rescored) :
    Forall₂ (SurvivorRescored related) (holdoutOf config population) (holdoutOf config rescored) :=
  rel_filter (fun _ _ here => iff_of_eq (congrArg (fun member => (!member) = true) (in_train_rescored config here))) pairs

/-- A sweep that neither sample stores reads as the same default. -/
theorem observation_rescored {before after : PopulationSample} (rescored : SurvivorRescored related before after) (ef : Int) :
    Rescored related (before.observation ef) (after.observation ef) ∨ before.observation ef = after.observation ef := by
  have stored := rescored.sweeps ef
  rw [PopulationSample.observation, PopulationSample.observation, getElem!_def, getElem!_def]
  generalize before.sweeps[ef]? = one at stored ⊢
  generalize after.sweeps[ef]? = two at stored ⊢
  cases stored with
  | some pair => exact .inl pair
  | none => exact .inr rfl

/-- Recalls that only rise lose no success. -/
theorem successes_le (config : AggregationConfig) (ef : Int)
    (raised : ∀ x y, related x y → config.value ≤ x → config.value ≤ y) {samples rescored : List PopulationSample}
    (pairs : Forall₂ (SurvivorRescored related) samples rescored) :
    successes config samples ef ≤ successes config rescored ef := by
  unfold successes
  induction pairs with
  | nil => exact Nat.le_refl _
  | @cons before after _ _ here _ ih =>
    have kept : config.value ≤ (before.observation ef).recall → config.value ≤ (after.observation ef).recall := by
      rcases observation_rescored here ef with pair | same
      · exact raised _ _ pair.recalled
      · rw [same]; exact id
    rw [map_cons, map_cons, countP_cons, countP_cons]
    simp only [decide_eq_true_eq]
    by_cases clears : config.value ≤ (before.observation ef).recall
    · rw [if_pos clears, if_pos (kept clears)]
      omega
    · rw [if_neg clears]
      omega

end VectorSeam.Reassignments
