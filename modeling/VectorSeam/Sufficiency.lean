import VectorSeam.ExactConfidence
import VectorSeam.Healing

/-!
The sufficiency gate. A round lacks evidence exactly when a split is empty or no recalls
of the same samples could make it ok and approved; the recalls that could are those of a
perfect round, in which every sample succeeds.
-/

namespace VectorSeam.Sufficiency
open VectorSeam.Model VectorSeam.Estimators VectorSeam.Accounting VectorSeam.Population VectorSeam.Aggregate
open VectorSeam.Rounding VectorSeam.Decision VectorSeam.RelatedMaps VectorSeam.Reassignments VectorSeam.Response
open VectorSeam.ExactConfidence VectorSeam.Healing VectorSeam.Results List

variable {beta_reg : Float → Float → Float → Float}

/-- Recall values for the samples of a population, which are otherwise unchanged. -/
structure Assigned (config : AggregationConfig) (population recalled : List PopulationSample) : Prop where
  same : Forall₂ (SurvivorRescored fun _ _ => True) population recalled
  valid : validate_population recalled config.ef_grid = .ok ()

/-- Selection and holdout check alone would be ok and approved. -/
def Selects (beta_reg : Float → Float → Float → Float) (config : AggregationConfig)
    (train holdout : List PopulationSample) : Prop :=
  ∃ selection, select_and_validate beta_reg config train holdout = .ok selection ∧ selection.status = .Ok ∧
    config.approval_confidence ≤ selection.confidence

/-- The round would be ok and approved. -/
def Approves (beta_reg : Float → Float → Float → Float) (input : AggregationInput) (surveyed : Survey) : Prop :=
  ∃ output, conclude beta_reg input surveyed = .ok output ∧ output.status = .Ok ∧
    ∃ confidence, output.confidence = some confidence ∧ input.config.approval_confidence ≤ confidence

/-- The gate of a round against every outcome on its samples, through the round and through the selection alone. -/
structure GateExact (beta_reg : Float → Float → Float → Float) (input : AggregationInput) (surveyed : Survey)
    (output : RoundOutput) : Prop where
  insufficient_iff : output.status = .InsufficientSamples ↔
    trainOf input.config surveyed.population = [] ∨ holdoutOf input.config surveyed.population = [] ∨
      ¬∃ recalled, Assigned input.config surveyed.population recalled ∧
        Approves beta_reg input { surveyed with population := recalled }
  ungated_iff : output.status = .InsufficientSamples ↔
    trainOf input.config surveyed.population = [] ∨ holdoutOf input.config surveyed.population = [] ∨
      ¬∃ recalled, Assigned input.config surveyed.population recalled ∧
        Selects beta_reg input.config (trainOf input.config recalled) (holdoutOf input.config recalled)
  /-- A round that was unmet, or ok without approval, could have been ok and approved. -/
  attainable : output.status ≠ .InsufficientSamples → ∃ recalled, Assigned input.config surveyed.population recalled ∧
    Approves beta_reg input { surveyed with population := recalled }

/-! ### Perfect recalls -/

def perfect (sample : PopulationSample) : PopulationSample :=
  { sample with sweeps := sample.sweeps.map fun _ sweep => { sweep with «recall» := 1.0 } }

theorem perfect_lookup (sample : PopulationSample) (ef : Int) :
    (perfect sample).sweeps[ef]? = sample.sweeps[ef]?.map fun sweep => { sweep with «recall» := 1.0 } :=
  Std.ExtTreeMap.getElem?_map

theorem perfect_rescored (sample : PopulationSample) : SurvivorRescored (fun _ _ => True) sample (perfect sample) := by
  refine ⟨rfl, rfl, rfl, rfl, fun ef => ?_⟩
  rw [perfect_lookup]
  cases sample.sweeps[ef]? with
  | none => exact .none
  | some sweep => exact .some ⟨trivial, rfl⟩

theorem perfect_assigned {config : AggregationConfig} {population : List PopulationSample}
    (valid : validate_population population config.ef_grid = .ok ()) :
    Assigned config population (population.map perfect) := by
  refine ⟨forall₂_map_right_iff.mpr (forall₂_same.mpr fun sample _ => perfect_rescored sample), forM_ok.mpr ?_⟩
  intro sample member
  obtain ⟨before, present, rfl⟩ := mem_map.mp member
  obtain ⟨latency, observed⟩ := validate_sample_ok.mp (forM_ok.mp valid before present)
  refine validate_sample_ok.mpr ⟨latency, fun ef inGrid => ?_⟩
  obtain ⟨sweep, found, _, duration⟩ := observed ef inGrid
  have whole : Survival.Share 1.0 := ⟨by decide, by decide⟩
  exact ⟨{ sweep with «recall» := 1.0 }, by rw [perfect_lookup, found]; rfl, whole, duration⟩

theorem perfect_finite (sample : PopulationSample) (ef : Int) : ((perfect sample).observation ef).recall.isFinite = true := by
  rw [PopulationSample.observation, getElem!_def, perfect_lookup]
  cases sample.sweeps[ef]? with
  | none => exact (by decide : (default : SweepMeasurement).recall.isFinite = true)
  | some sweep => exact (by decide : (1.0 : Float).isFinite = true)

/-- Every perfect sample succeeds wherever the grid was measured. -/
theorem perfect_successes {config : AggregationConfig} (config_valid : ConfigValid config)
    {samples : List PopulationSample} (valid : validate_population samples config.ef_grid = .ok ()) {ef : Int}
    (inGrid : ef ∈ config.ef_grid) : successes config (samples.map perfect) ef = samples.length := by
  unfold successes
  rw [map_map, countP_map, countP_eq_length.mpr fun sample member => ?_]
  obtain ⟨sweep, found, _⟩ := (validate_sample_ok.mp (forM_ok.mp valid sample member)).2 ef inGrid
  have recalled : ((perfect sample).observation ef).recall = 1.0 := by
    rw [PopulationSample.observation, getElem!_def, perfect_lookup, found]
    rfl
  simp only [Function.comp_apply, recalled, decide_eq_true_eq]
  exact config_valid.value_bounds.2

/-! ### Rounds over finite recalls -/

theorem quantile_type7_defined {values : List Float} {q : Float} (nonempty : values ≠ []) (unit : InUnit q)
    (finite : ∀ value ∈ values, value.isFinite = true) : ∃ quantile, quantile_type7 values q = .ok quantile := by
  have anyFinite : ¬values.any (! ·.isFinite) = true := by
    intro infinite
    obtain ⟨value, member, wrong⟩ := any_eq_true.mp infinite
    rw [finite value member] at wrong
    cases wrong
  have accepted : ¬(¬q.isFinite = true ∨ ¬(0.0 ≤ q ∧ q ≤ 1.0)) := by
    rintro (infinite | outside)
    · exact infinite (Startup.finite_of_unit unit)
    · exact outside unit
  unfold quantile_type7
  rw [if_neg nonempty, if_neg accepted, if_neg anyFinite]
  dsimp only
  split
  · exact ⟨_, rfl⟩
  · split
    · exact ⟨_, rfl⟩
    · exact ⟨_, rfl⟩

theorem select_ef_defined {threshold : Float} (bounds : 0.0 < threshold ∧ threshold < 1.0) {scores : BTreeMap Int Float}
    (unit : ∀ entry ∈ scores.toList, InUnit entry.2) (nonempty : scores.toList ≠ []) :
    ∃ selected, select_ef scores threshold = .ok selected := by
  rw [select_ef, if_neg (Startup.selection_input_valid bounds unit), getLast?_eq_some_getLast nonempty]
  dsimp only
  split
  · exact ⟨_, rfl⟩
  · split
    · exact ⟨_, rfl⟩
    · exact ⟨_, rfl⟩

section Finite
variable {config : AggregationConfig} (valid : ConfigValid config)
include valid

/-- The complement of the percentile is a probability. -/
theorem complement_in_unit : InUnit (1.0 - config.percentile) := by
  obtain ⟨p, represents, positive, below⟩ := percentile_represented valid.percentile_bounds
  exact (represents_one_sub represents below.le).in_unit (rounded_le_one (sub_nonneg.mpr below.le) (by linarith))

theorem evaluate_split_defined {samples : List PopulationSample} (nonempty : samples ≠ []) {ef : Int}
    (finite : ∀ sample ∈ samples, (sample.observation ef).recall.isFinite = true) :
    ∃ evaluation, evaluate_split beta_reg config samples ef = .ok evaluation := by
  obtain ⟨quantile, found⟩ := quantile_type7_defined
    (mt map_eq_nil_iff.mp nonempty) (complement_in_unit valid) (forall_mem_map.mpr finite)
  refine ⟨_, bind_ok.mpr ⟨_, math_ok.mpr (Startup.compliance_confidence_accepts valid.percentile_bounds
    (successes_le_length config samples ef)), bind_ok.mpr ⟨quantile, math_ok.mpr found, rfl⟩⟩⟩

theorem select_and_validate_defined {train holdout : List PopulationSample} (trained : train ≠ []) (held : holdout ≠ [])
    (scores : ∀ ef, InUnit (trainScore beta_reg config train ef))
    (finite : ∀ ef, ∀ sample ∈ train ++ holdout, (sample.observation ef).recall.isFinite = true) :
    ∃ selection, select_and_validate beta_reg config train holdout = .ok selection := by
  have listed : config.ef_grid.mapM (train_confidence beta_reg config train) =
      .ok (config.ef_grid.map fun ef => (ef, trainScore beta_reg config train ef)) := by
    refine mapM_ok.mpr (forall₂_map_right_iff.mpr (forall₂_same.mpr fun ef _ => ?_))
    exact bind_ok.mpr ⟨_, math_ok.mpr (Startup.compliance_confidence_accepts valid.percentile_bounds
      (successes_le_length config train ef)), rfl⟩
  obtain ⟨nonempty, ascending⟩ := valid.grid_chain
  have listing : (Std.ExtTreeMap.ofList (config.ef_grid.map fun ef => (ef, trainScore beta_reg config train ef))
      compare).toList = config.ef_grid.map fun ef => (ef, trainScore beta_reg config train ef) :=
    SortedMaps.toList_ofList (pairwise_map.mpr (ascending.imp fun less => compare_lt_iff_lt.mpr less))
  obtain ⟨selected, chosen⟩ := select_ef_defined valid.selection_bounds
    (fun entry member => by
      obtain ⟨ef, _, rfl⟩ := mem_map.mp (listing ▸ member)
      exact scores ef)
    (by rw [listing]; exact mt map_eq_nil_iff.mp nonempty)
  obtain ⟨trainStats, trainFound⟩ : ∃ stats, evaluate_split beta_reg config train selected.recommended_ef = .ok stats :=
    evaluate_split_defined valid trained fun sample member => finite _ sample (mem_append_left _ member)
  obtain ⟨testStats, testFound⟩ : ∃ stats, evaluate_split beta_reg config holdout selected.recommended_ef = .ok stats :=
    evaluate_split_defined valid held fun sample member => finite _ sample (mem_append_right _ member)
  exact ⟨_, bind_ok.mpr ⟨_, listed, bind_ok.mpr ⟨selected, math_ok.mpr chosen, bind_ok.mpr ⟨trainStats, trainFound,
    bind_ok.mpr ⟨testStats, testFound, rfl⟩⟩⟩⟩⟩

theorem per_ef_summaries_defined {population : List PopulationSample}
    (finite : ∀ ef, ∀ sample ∈ population, (sample.observation ef).recall.isFinite = true) :
    ∃ per_ef, per_ef_summaries population config = .ok per_ef := by
  unfold per_ef_summaries
  by_cases empty : population = []
  · exact ⟨[], if_pos empty⟩
  rw [if_neg empty]
  have each : ∀ ef ∈ config.ef_grid, ∃ summary, per_ef_summary population config ef = .ok summary := by
    intro ef _
    have recalled : (population.map (·.observation ef)).map (·.recall) ≠ [] := by simpa using empty
    obtain ⟨quantile, found⟩ := quantile_type7_defined recalled (complement_in_unit valid) (by simpa using finite ef)
    exact ⟨_, bind_ok.mpr ⟨quantile, math_ok.mpr found, rfl⟩⟩
  obtain ⟨summaries, pairs⟩ := exists_forall₂ each
  exact ⟨summaries, mapM_ok.mpr pairs⟩

theorem split_defined (population : List PopulationSample) :
    split config population = .ok (trainOf config population, holdoutOf config population) := by
  obtain ⟨threshold, accepted⟩ := valid.split_valid
  induction population with
  | nil => rfl
  | cons sample rest ih =>
    obtain ⟨member, computed⟩ : ∃ member, is_train_member sample.vector_hash config.split_seed config.train_fraction =
        .ok member := ⟨_, by rw [is_train_member, accepted]; rfl⟩
    have sided : in_train config sample = member := by
      rw [in_train, computed]
      cases member <;> rfl
    have trains : trainOf config (sample :: rest) =
        if member = true then sample :: trainOf config rest else trainOf config rest := by
      rw [trainOf, filter_cons, sided]
      rfl
    have holdouts : holdoutOf config (sample :: rest) =
        if (!member) = true then sample :: holdoutOf config rest else holdoutOf config rest := by
      rw [holdoutOf, filter_cons, sided]
      rfl
    rw [split, computed, ih, trains, holdouts]
    cases member with
    | true => rfl
    | false => rfl

end Finite

/-! ### The gate -/

/-- A round that approves had the evidence for a selection that does. -/
theorem selects_of_approves {input : AggregationInput} {surveyed : Survey} (approves : Approves beta_reg input surveyed) :
    ¬LacksEvidence beta_reg input (trainOf input.config surveyed.population) (holdoutOf input.config surveyed.population) ∧
      Selects beta_reg input.config (trainOf input.config surveyed.population)
        (holdoutOf input.config surveyed.population) := by
  obtain ⟨output, concluded, ok, confidence, found, approved⟩ := approves
  obtain ⟨_, _, _, _, _, decided, _, rfl⟩ := conclude_ok concluded
  obtain ⟨_, ⟨_, rfl⟩ | ⟨enough, completed, rfl, selected⟩⟩ := decide_selection_ok decided
  · cases ok
  · obtain rfl := Option.some.inj found
    exact ⟨enough, completed, selected, ok, approved⟩

section Gate
variable {input : AggregationInput} (valid : ConfigValid input.config)
include valid

theorem decide_selection_some {train holdout : List PopulationSample} {selection : CompletedSelection}
    (enough : ¬LacksEvidence beta_reg input train holdout)
    (found : select_and_validate beta_reg input.config train holdout = .ok selection) :
    decide_selection beta_reg input train holdout = .ok (some selection) := by
  refine bind_ok.mpr ⟨_, math_ok.mpr (Startup.compliance_confidence_accepts valid.percentile_bounds (Nat.le_refl _)),
    bind_ok.mpr ⟨_, math_ok.mpr (Startup.compliance_confidence_accepts valid.percentile_bounds (Nat.le_refl _)), ?_⟩⟩
  rw [if_neg (mt gate_iff.mp enough)]
  exact bind_ok.mpr ⟨selection, found, rfl⟩

/-- A concluded round can be concluded on other recalls of its samples for which selection is defined. -/
theorem conclude_recalled {surveyed : Survey} {output : RoundOutput} {recalled : List PopulationSample}
    {selection : CompletedSelection} (concluded : conclude beta_reg input surveyed = .ok output)
    (finite : ∀ ef, ∀ sample ∈ recalled, (sample.observation ef).recall.isFinite = true)
    (enough : ¬LacksEvidence beta_reg input (trainOf input.config recalled) (holdoutOf input.config recalled))
    (found : select_and_validate beta_reg input.config (trainOf input.config recalled) (holdoutOf input.config recalled) =
      .ok selection) :
    ∃ output', conclude beta_reg input { surveyed with population := recalled } = .ok output' ∧
      output'.status = selection.status ∧ output'.confidence = some selection.confidence := by
  obtain ⟨_, _, rest⟩ := bind_ok.mp concluded
  obtain ⟨_, _, rest⟩ := bind_ok.mp rest
  obtain ⟨_, _, rest⟩ := bind_ok.mp rest
  obtain ⟨window_end, ended, rest⟩ := bind_ok.mp rest
  obtain ⟨window_start, started, _⟩ := bind_ok.mp rest
  obtain ⟨per_ef, summarised⟩ := per_ef_summaries_defined valid finite
  refine ⟨round_record input { surveyed with population := recalled } per_ef (trainOf input.config recalled)
    (holdoutOf input.config recalled) (some selection) window_start window_end, ?_, rfl, rfl⟩
  exact bind_ok.mpr ⟨per_ef, summarised, bind_ok.mpr ⟨_, split_defined valid recalled, bind_ok.mpr ⟨_,
    decide_selection_some valid enough found, bind_ok.mpr ⟨window_end, ended, bind_ok.mpr ⟨window_start, started, rfl⟩⟩⟩⟩⟩

/-- What some outcome passes, the outcome of successes only passes. -/
theorem selects_enough {train holdout : List PopulationSample} (unaborted : input.phase_a_abort = none)
    (trained : train ≠ []) (held : holdout ≠ []) {samples : Nat} (steady : Steady beta_reg input.config.percentile samples)
    (few : train.length ≤ samples) (few' : holdout.length ≤ samples)
    (selects : Selects beta_reg input.config train holdout) : ¬LacksEvidence beta_reg input train holdout := by
  obtain ⟨selection, found, ok, approved⟩ := selects
  have selected := select_and_validate_ok valid found
  obtain ⟨maximum, last, _⟩ := grid_maximum valid
  have reaches : ¬trainScore beta_reg input.config train maximum < input.config.selection_confidence := fun below =>
    absurd (ok.symm.trans (selected.unmet maximum last below).1) (by decide)
  obtain ⟨_, _, clears, _⟩ := selected.approved maximum last reaches
  have ceiling := steady _ _ _ few (successes_le_length input.config train selection.recommended_ef) (Nat.le_refl _)
  have ceiling' := steady _ _ _ few' (successes_le_length input.config holdout selection.recommended_ef) (Nat.le_refl _)
  rw [selected.confidence] at approved
  rintro (aborted | empty | empty | low | low)
  · exact aborted unaborted
  · exact trained empty
  · exact held empty
  · exact Binary64.not_lt_of_le (Binary64.le_trans clears ceiling) low
  · exact Binary64.not_lt_of_le (Binary64.le_trans approved ceiling') low

/-- The perfect round is ok and approved when the ceilings clear. -/
theorem perfect_approves {surveyed : Survey} {output : RoundOutput} (concluded : conclude beta_reg input surveyed = .ok output)
    (validated : validate_population surveyed.population input.config.ef_grid = .ok ()) {samples : Nat}
    (exact : Exact beta_reg input.config.percentile samples)
    (few : (trainOf input.config surveyed.population).length ≤ samples)
    (few' : (holdoutOf input.config surveyed.population).length ≤ samples)
    (enough : ¬LacksEvidence beta_reg input (trainOf input.config surveyed.population)
      (holdoutOf input.config surveyed.population)) :
    Approves beta_reg input { surveyed with population := surveyed.population.map perfect } := by
  have trains : trainOf input.config (surveyed.population.map perfect) =
      (trainOf input.config surveyed.population).map perfect := filter_map
  have holdouts : holdoutOf input.config (surveyed.population.map perfect) =
      (holdoutOf input.config surveyed.population).map perfect := filter_map
  have inTrain : validate_population (trainOf input.config surveyed.population) input.config.ef_grid = .ok () :=
    forM_ok.mpr fun sample member => forM_ok.mp validated sample (mem_filter.mp member).1
  have inHoldout : validate_population (holdoutOf input.config surveyed.population) input.config.ef_grid = .ok () :=
    forM_ok.mpr fun sample member => forM_ok.mp validated sample (mem_filter.mp member).1
  generalize trainOf input.config surveyed.population = train at trains few enough inTrain
  generalize holdoutOf input.config surveyed.population = holdout at holdouts few' enough inHoldout
  have finite : ∀ ef, ∀ sample ∈ surveyed.population.map perfect, (sample.observation ef).recall.isFinite = true := by
    intro ef sample member
    obtain ⟨before, _, rfl⟩ := mem_map.mp member
    exact perfect_finite before ef
  have enough' : ¬LacksEvidence beta_reg input (trainOf input.config (surveyed.population.map perfect))
      (holdoutOf input.config (surveyed.population.map perfect)) := by
    rw [trains, holdouts]
    exact evidence_kept (.refl valid) rfl (length_map _).symm (length_map _).symm enough
  obtain ⟨selection, found⟩ : ∃ selection, select_and_validate beta_reg input.config
      (trainOf input.config (surveyed.population.map perfect)) (holdoutOf input.config (surveyed.population.map perfect)) =
        .ok selection := by
    refine select_and_validate_defined valid (fun empty => enough' (.inr (.inl empty)))
      (fun empty => enough' (.inr (.inr (.inl empty)))) (fun ef => ?_) fun ef sample member => ?_
    · rw [trains]
      exact exact.in_unit valid.percentile_bounds ((length_map _).trans_le few) (successes_le_length _ _ _)
    · refine finite ef sample ?_
      rcases mem_append.mp member with inside | inside
      · exact (mem_filter.mp inside).1
      · exact (mem_filter.mp inside).1
  obtain ⟨output', built, status, confidence⟩ := conclude_recalled valid concluded finite enough' found
  have selected := select_and_validate_ok valid found
  obtain ⟨maximum, last, _⟩ := grid_maximum valid
  have scored : trainScore beta_reg input.config (trainOf input.config (surveyed.population.map perfect)) maximum =
      posterior beta_reg train.length train.length input.config.percentile := by
    rw [trainScore, trains, length_map, perfect_successes valid inTrain (mem_of_getLast? last)]
  have reaches : ¬trainScore beta_reg input.config (trainOf input.config (surveyed.population.map perfect)) maximum <
      input.config.selection_confidence := by
    rw [scored]
    exact fun low => enough (.inr (.inr (.inr (.inl low))))
  obtain ⟨ok, inGrid, _, _⟩ := selected.approved maximum last reaches
  have confident : selection.confidence = posterior beta_reg holdout.length holdout.length input.config.percentile := by
    rw [selected.confidence, holdouts, length_map, perfect_successes valid inHoldout inGrid]
  refine ⟨output', built, status.trans ok, selection.confidence, confidence, ?_⟩
  rw [confident]
  have unit := exact.in_unit valid.percentile_bounds few' (Nat.le_refl holdout.length)
  exact Binary64.le_of_not_lt (Binary64.isNaN_of_le unit.1).2 (Binary64.isNaN_of_lt valid.approval_bounds.1).2
    fun low => enough (.inr (.inr (.inr (.inr low))))

end Gate

theorem sufficiency_exact {input : AggregationInput} {output : RoundOutput} (published : aggregate beta_reg input = .ok output)
    (unaborted : input.phase_a_abort = none)
    (exact : Exact beta_reg input.config.percentile (max output.samples.train output.samples.test)) :
    (∃ surveyed, survey input = .ok surveyed ∧ GateExact beta_reg input surveyed output) ∧
    ∀ confidence percentile : ℝ, confidence < 1 → 0 < percentile → percentile < 1 →
      Posterior.LeastSplit confidence percentile := by
  refine ⟨?_, fun confidence percentile reachable positive below => Posterior.least_split reachable positive below⟩
  obtain ⟨population, found, decided⟩ := published_round_decided published
  obtain ⟨trainCount, testCount⟩ := published_counts published found
  obtain ⟨surveyed, surveyFound, rfl⟩ := population_of_ok found
  obtain ⟨other, otherFound, concluded⟩ := bind_ok.mp published
  obtain rfl := Except.ok.inj (surveyFound.symm.trans otherFound)
  have known := survey_ok surveyFound
  have valid := known.valid
  have steady := exact.steady valid.percentile_bounds
  have few := trainCount.symm.trans_le (le_max_left output.samples.train output.samples.test)
  have few' := testCount.symm.trans_le (le_max_right output.samples.train output.samples.test)
  have approves := perfect_approves valid concluded known.validated exact few few'
  have assigned : Assigned input.config surveyed.population (surveyed.population.map perfect) :=
    perfect_assigned known.validated
  -- Recalls do not move samples between the splits, so evidence on any of them is evidence for this round.
  have kept : ∀ recalled, Assigned input.config surveyed.population recalled →
      ¬LacksEvidence beta_reg input (trainOf input.config recalled) (holdoutOf input.config recalled) →
        output.status ≠ .InsufficientSamples := by
    intro recalled assigned enough
    refine mt decided.insufficient_iff.mp (evidence_kept (.refl valid) rfl ?_ ?_ enough)
    · exact (train_rescored input.config assigned.same).length_eq.symm
    · exact (holdout_rescored input.config assigned.same).length_eq.symm
  have attainable : output.status ≠ .InsufficientSamples → Approves beta_reg input
      { surveyed with population := surveyed.population.map perfect } := fun sufficient =>
    approves (mt decided.insufficient_iff.mpr sufficient)
  refine ⟨surveyed, surveyFound, ⟨?_, ?_, fun sufficient => ⟨_, assigned, attainable sufficient⟩⟩⟩
  · constructor
    · intro insufficient
      refine .inr (.inr fun ⟨recalled, assigned, passes⟩ => ?_)
      exact kept recalled assigned (selects_of_approves passes).1 insufficient
    · intro hopeless
      by_contra sufficient
      have enough := mt decided.insufficient_iff.mpr sufficient
      rcases hopeless with empty | empty | none
      · exact enough (.inr (.inl empty))
      · exact enough (.inr (.inr (.inl empty)))
      · exact none ⟨_, assigned, attainable sufficient⟩
  · constructor
    · intro insufficient
      by_cases trained : trainOf input.config surveyed.population = []
      · exact .inl trained
      by_cases held : holdoutOf input.config surveyed.population = []
      · exact .inr (.inl held)
      refine .inr (.inr fun ⟨recalled, assigned, selects⟩ => ?_)
      have trains := (train_rescored input.config assigned.same).length_eq
      have holdouts := (holdout_rescored input.config assigned.same).length_eq
      refine kept recalled assigned (selects_enough valid unaborted ?_ ?_ steady (trains ▸ few) (holdouts ▸ few') selects)
        insufficient
      · exact fun empty => trained (length_eq_zero_iff.mp (by rw [trains, empty]; rfl))
      · exact fun empty => held (length_eq_zero_iff.mp (by rw [holdouts, empty]; rfl))
    · intro hopeless
      by_contra sufficient
      have enough := mt decided.insufficient_iff.mpr sufficient
      rcases hopeless with empty | empty | none
      · exact enough (.inr (.inl empty))
      · exact enough (.inr (.inr (.inl empty)))
      · exact none ⟨_, assigned, (selects_of_approves (attainable sufficient)).2⟩

/-! ### A small round -/

theorem half_represents : Represents 0.5 (1 / 2) := by
  have found := Magnitudes.represents_of_unpack
    (show (0.5 : Float).toModel.unpack = .finite .positive (2 ^ 52) (-53) (by decide) from rfl)
  norm_num at found ⊢
  exact found

theorem quarter_represents : Represents 0.25 (1 / 4) := by
  have found := Magnitudes.represents_of_unpack
    (show (0.25 : Float).toModel.unpack = .finite .positive (2 ^ 52) (-54) (by decide) from rfl)
  norm_num at found ⊢
  exact found

theorem three_quarters_represents : Represents 0.75 (3 / 4) := by
  have found := Magnitudes.represents_of_unpack
    (show (0.75 : Float).toModel.unpack = .finite .positive (3 * 2 ^ 51) (-53) (by decide) from rfl)
  norm_num at found ⊢
  exact found

theorem smallBeta_exact : Exact smallBeta 0.5 1 := by
  intro p q n m represents small possible value
  obtain rfl := Magnitudes.represents_unique represents half_represents
  interval_cases n
  · interval_cases m
    rw [Posterior.posterior_all] at value
    have half : q = 1 / 2 := Rat.cast_injective (value.trans (by norm_num) : (q : ℝ) = (1 / 2 : ℚ))
    rw [half, half_represents.rounded]
    exact half_represents
  · interval_cases m
    · rw [Posterior.posterior_eq_tail (by norm_num), BernsteinTails.eval_tail] at value
      have quarter : q = 1 / 4 := Rat.cast_injective (value.trans (by norm_num) : (q : ℝ) = (1 / 4 : ℚ))
      rw [quarter, quarter_represents.rounded]
      exact quarter_represents
    · rw [Posterior.posterior_all] at value
      have rest : q = 3 / 4 := Rat.cast_injective (value.trans (by norm_num) : (q : ℝ) = (3 / 4 : ℚ))
      rw [rest, three_quarters_represents.rounded]
      exact three_quarters_represents

theorem small_gate_exact :
    (∃ surveyed, survey smallInput = .ok surveyed ∧ GateExact smallBeta smallInput surveyed smallOutput) ∧
    ∀ confidence percentile : ℝ, confidence < 1 → 0 < percentile → percentile < 1 →
      Posterior.LeastSplit confidence percentile :=
  sufficiency_exact smallInput_published rfl smallBeta_exact

end VectorSeam.Sufficiency
