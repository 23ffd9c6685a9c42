import VectorSeam.Aggregate

/-!
The published decision, stated without the code's intermediate values: from the
deduplicated population, its split and the posterior confidence, which status, ef
and effective block a round record must carry.
-/

namespace VectorSeam.Decision
open VectorSeam.Model VectorSeam.Estimators VectorSeam.Accounting VectorSeam.Population VectorSeam.Aggregate
open VectorSeam.Window

variable {beta_reg : Float → Float → Float → Float}

/-- The deduplicated population an aggregation works on. -/
def population_of (input : AggregationInput) : Except AggregateError (List PopulationSample) := do
  let survey ← survey input
  return survey.population

/-- The round lacks evidence: measuring was aborted, a split is empty, or even an
    all-success split would miss its confidence target. -/
def LacksEvidence (beta_reg : Float → Float → Float → Float) (input : AggregationInput)
    (train holdout : List PopulationSample) : Prop :=
  input.phase_a_abort ≠ none ∨ train = [] ∨ holdout = [] ∨
    posterior beta_reg train.length train.length input.config.percentile < input.config.selection_confidence ∨
    posterior beta_reg holdout.length holdout.length input.config.percentile < input.config.approval_confidence

/-- The train confidence of one ef. -/
def trainScore (beta_reg : Float → Float → Float → Float) (config : AggregationConfig) (train : List PopulationSample)
    (ef : Int) : Float := posterior beta_reg train.length (successes config train ef) config.percentile

/-- No selection was published. -/
def Unselected (output : RoundOutput) : Prop :=
  output.recommended_ef = none ∧ output.confidence = none ∧ output.train_confidence = none ∧
    output.train_compliance = none ∧ output.train_quantile_recall = none ∧ output.test_compliance = none ∧
    output.test_quantile_recall = none

/-- The specified decision over a population split in two. -/
structure Decided (beta_reg : Float → Float → Float → Float) (input : AggregationInput)
    (train holdout : List PopulationSample) (output : RoundOutput) : Prop where
  /-- Every confidence below is the value `compliance_confidence` returns. -/
  confidences_defined : ∀ n m, m ≤ n → compliance_confidence beta_reg n m input.config.percentile =
    .ok (posterior beta_reg n m input.config.percentile)
  insufficient_iff : output.status = .InsufficientSamples ↔ LacksEvidence beta_reg input train holdout
  insufficient_empty : output.status = .InsufficientSamples → Unselected output
  /-- The maximum of the grid decides, whatever smaller values score. -/
  target_unmet : ¬LacksEvidence beta_reg input train holdout → ∀ maximum, input.config.ef_grid.getLast? = some maximum →
    trainScore beta_reg input.config train maximum < input.config.selection_confidence →
      output.status = .TargetUnmet ∧ output.recommended_ef = some maximum
  approved : ¬LacksEvidence beta_reg input train holdout → ∀ maximum, input.config.ef_grid.getLast? = some maximum →
    ¬trainScore beta_reg input.config train maximum < input.config.selection_confidence →
      output.status = .Ok ∧ ∃ ef ∈ input.config.ef_grid, output.recommended_ef = some ef ∧
        input.config.selection_confidence ≤ trainScore beta_reg input.config train ef ∧
        ∀ smaller ∈ input.config.ef_grid, smaller < ef →
          ¬input.config.selection_confidence ≤ trainScore beta_reg input.config train smaller
  statistics : ∀ ef, output.recommended_ef = some ef →
    output.train_confidence = some (trainScore beta_reg input.config train ef) ∧
    output.confidence = some (posterior beta_reg holdout.length (successes input.config holdout ef) input.config.percentile) ∧
    output.train_compliance = some (Float.ofNat (successes input.config train ef) / Float.ofNat train.length) ∧
    output.test_compliance = some (Float.ofNat (successes input.config holdout ef) / Float.ofNat holdout.length)
  effective_fresh : ∀ ef confidence, output.status = .Ok → output.recommended_ef = some ef →
    output.confidence = some confidence → input.config.approval_confidence ≤ confidence →
      ∃ round_end, iso8601_seconds input.round_end = .ok round_end ∧
        output.effective = some { recommended_ef := ef, confidence, source_round := round_end, carried := false }
  effective_carried : ¬(output.status = .Ok ∧ ∃ confidence, output.confidence = some confidence ∧
      input.config.approval_confidence ≤ confidence) →
    output.effective = (previous_effective input).map fun effective => { effective with carried := true }

/-! ### Selection -/

/-- The grid is never empty and its last value is its maximum. -/
theorem grid_maximum {config : AggregationConfig} (valid : ConfigValid config) :
    ∃ maximum, config.ef_grid.getLast? = some maximum ∧ ∀ ef ∈ config.ef_grid, ef ≤ maximum := by
  obtain ⟨nonempty, ascending⟩ := valid.grid_chain
  refine ⟨config.ef_grid.getLast nonempty, List.getLast?_eq_some_getLast nonempty, fun ef member => ?_⟩
  obtain ⟨before, shape⟩ : ∃ before, config.ef_grid = before ++ [config.ef_grid.getLast nonempty] :=
    ⟨_, (List.dropLast_append_getLast nonempty).symm⟩
  rw [shape] at member ascending
  rcases List.mem_append.mp member with earlier | last
  · exact ((List.pairwise_append.mp ascending).2.2 ef earlier _ (by simp)).le
  · exact (List.mem_singleton.mp last).le

/-- What `select_and_validate` returns, in terms of the scores of the grid. -/
structure Selected (beta_reg : Float → Float → Float → Float) (config : AggregationConfig)
    (train holdout : List PopulationSample) (selection : CompletedSelection) : Prop where
  unmet : ∀ maximum, config.ef_grid.getLast? = some maximum →
    trainScore beta_reg config train maximum < config.selection_confidence →
      selection.status = .TargetUnmet ∧ selection.recommended_ef = maximum
  approved : ∀ maximum, config.ef_grid.getLast? = some maximum →
    ¬trainScore beta_reg config train maximum < config.selection_confidence →
      selection.status = .Ok ∧ selection.recommended_ef ∈ config.ef_grid ∧
        config.selection_confidence ≤ trainScore beta_reg config train selection.recommended_ef ∧
        ∀ smaller ∈ config.ef_grid, smaller < selection.recommended_ef →
          ¬config.selection_confidence ≤ trainScore beta_reg config train smaller
  train_confidence : selection.train_confidence = trainScore beta_reg config train selection.recommended_ef
  train_compliance : selection.train_compliance =
    Float.ofNat (successes config train selection.recommended_ef) / Float.ofNat train.length
  confidence : selection.confidence =
    posterior beta_reg holdout.length (successes config holdout selection.recommended_ef) config.percentile
  test_compliance : selection.test_compliance =
    Float.ofNat (successes config holdout selection.recommended_ef) / Float.ofNat holdout.length

/-- The first grid value that clears is the least one. -/
private theorem find_score {config : AggregationConfig} {score : Int → Float} {ef : Int} {clearing : Float}
    (ascending : config.ef_grid.Pairwise (· < ·))
    (found : (config.ef_grid.map fun ef => (ef, score ef)).find?
      (fun entry => decide (config.selection_confidence ≤ entry.2)) = some (ef, clearing)) :
    ef ∈ config.ef_grid ∧ config.selection_confidence ≤ score ef ∧
      ∀ smaller ∈ config.ef_grid, smaller < ef → ¬config.selection_confidence ≤ score smaller := by
  obtain ⟨clears, before, after, shape, failed⟩ := List.find?_eq_some_iff_append.mp found
  obtain ⟨beforeGrid, restGrid, grid, beforeShape, restShape⟩ := List.map_eq_append_iff.mp shape
  obtain ⟨other, afterGrid, rfl, entry, _⟩ := List.map_eq_cons_iff.mp restShape
  obtain ⟨rfl, rfl⟩ := Prod.mk.inj entry
  refine ⟨by simp [grid], by simpa using clears, fun smaller member less => ?_⟩
  rw [grid] at member ascending
  rcases List.mem_append.mp member with earlier | later
  · have rejected := failed (smaller, score smaller) (by rw [← beforeShape]; exact List.mem_map_of_mem earlier)
    simpa using rejected
  · rcases List.mem_cons.mp later with rfl | behind
    · exact absurd less (lt_irrefl _)
    · have order := (List.pairwise_cons.mp (List.pairwise_append.mp ascending).2.1).1 smaller behind
      exact absurd (less.trans order) (lt_irrefl _)

theorem select_and_validate_ok {config : AggregationConfig} {train holdout : List PopulationSample}
    {selection : CompletedSelection} (valid : ConfigValid config)
    (found : select_and_validate beta_reg config train holdout = .ok selection) :
    Selected beta_reg config train holdout selection := by
  obtain ⟨nonempty, ascending⟩ := valid.grid_chain
  obtain ⟨scores, scored, rest⟩ := Results.bind_ok.mp found
  obtain ⟨chosen, chosenFound, rest⟩ := Results.bind_ok.mp rest
  obtain ⟨trainStats, trainFound, rest⟩ := Results.bind_ok.mp rest
  obtain ⟨holdoutStats, holdoutFound, built⟩ := Results.bind_ok.mp rest
  obtain rfl := Except.ok.inj built
  obtain rfl := train_confidences_ok scored
  obtain ⟨trainConfidence, trainCompliance⟩ := evaluate_split_ok trainFound
  obtain ⟨holdoutConfidence, holdoutCompliance⟩ := evaluate_split_ok holdoutFound
  have listing : (Std.ExtTreeMap.ofList (config.ef_grid.map fun ef => (ef, trainScore beta_reg config train ef))
      compare).toList = config.ef_grid.map fun ef => (ef, trainScore beta_reg config train ef) := by
    refine SortedMaps.toList_ofList (List.pairwise_map.mpr (ascending.imp fun less => ?_))
    exact compare_lt_iff_lt.mpr less
  obtain ⟨maximum, score, last, outcome⟩ := select_ef_ok (math_ok.mp chosenFound)
  change (Std.ExtTreeMap.ofList (config.ef_grid.map fun ef => (ef, trainScore beta_reg config train ef))
      compare).toList.getLast? = _ at last
  rw [listing, List.getLast?_map, Option.map_eq_some_iff] at last
  obtain ⟨top, topFound, entry⟩ := last
  obtain ⟨rfl, rfl⟩ := Prod.mk.inj entry
  refine ⟨?_, ?_, trainConfidence, trainCompliance, holdoutConfidence, holdoutCompliance⟩
  · intro maximum grid below
    obtain rfl := Option.some.inj (topFound.symm.trans grid)
    rcases outcome with ⟨_, rfl⟩ | ⟨clears, _⟩
    · exact ⟨rfl, rfl⟩
    · exact absurd below (Binary64.not_lt_of_le clears)
  · intro maximum grid reaches
    obtain rfl := Option.some.inj (topFound.symm.trans grid)
    rcases outcome with ⟨below, _⟩ | ⟨_, status, clearing, search⟩
    · exact absurd below reaches
    · change (Std.ExtTreeMap.ofList (config.ef_grid.map fun ef => (ef, trainScore beta_reg config train ef))
          compare).toList.find? _ = _ at search
      rw [listing] at search
      exact ⟨status, find_score ascending search⟩

theorem Selected.in_grid {config : AggregationConfig} {train holdout : List PopulationSample}
    {selection : CompletedSelection} (selected : Selected beta_reg config train holdout selection)
    (valid : ConfigValid config) : selection.recommended_ef ∈ config.ef_grid := by
  obtain ⟨maximum, last, _⟩ := grid_maximum valid
  by_cases below : trainScore beta_reg config train maximum < config.selection_confidence
  · rw [(selected.unmet maximum last below).2]
    exact List.mem_of_getLast? last
  · exact (selected.approved maximum last below).2.1

/-! ### The published record -/

/-- The gate of the code and its specification. -/
theorem gate_iff {input : AggregationInput} {train holdout : List PopulationSample} :
    (input.phase_a_abort.isSome || train.isEmpty || holdout.isEmpty ||
      decide (posterior beta_reg train.length train.length input.config.percentile < input.config.selection_confidence) ||
      decide (posterior beta_reg holdout.length holdout.length input.config.percentile <
        input.config.approval_confidence)) = true ↔ LacksEvidence beta_reg input train holdout := by
  simp only [LacksEvidence, Bool.or_eq_true, decide_eq_true_eq, List.isEmpty_iff, Option.isSome_iff_ne_none, or_assoc]

theorem decide_selection_ok {input : AggregationInput} {train holdout : List PopulationSample}
    {selection : Option CompletedSelection} (found : decide_selection beta_reg input train holdout = .ok selection) :
    (∀ n m, m ≤ n → compliance_confidence beta_reg n m input.config.percentile =
      .ok (posterior beta_reg n m input.config.percentile)) ∧
    (LacksEvidence beta_reg input train holdout ∧ selection = none ∨
      ¬LacksEvidence beta_reg input train holdout ∧ ∃ completed, selection = some completed ∧
        select_and_validate beta_reg input.config train holdout = .ok completed) := by
  obtain ⟨trainCeiling, trainFound, rest⟩ := Results.bind_ok.mp found
  obtain ⟨testCeiling, testFound, rest⟩ := Results.bind_ok.mp rest
  have computed := math_ok.mp trainFound
  refine ⟨fun n m possible => compliance_confidence_defined computed possible, ?_⟩
  obtain rfl := compliance_confidence_ok computed
  obtain rfl := compliance_confidence_ok (math_ok.mp testFound)
  by_cases evidence : LacksEvidence beta_reg input train holdout
  · rw [if_pos (gate_iff.mpr evidence)] at rest
    exact .inl ⟨evidence, (Except.ok.inj rest).symm⟩
  · rw [if_neg (mt gate_iff.mp evidence)] at rest
    obtain ⟨completed, selected, built⟩ := Results.bind_ok.mp rest
    exact .inr ⟨evidence, completed, (Except.ok.inj built).symm, selected⟩

section Records
variable {input : AggregationInput} {surveyed : Survey} {per_ef : List PerEfSummary} {train holdout : List PopulationSample}
  {window_start window_end : String}

private theorem decided_none (defined : ∀ n m, m ≤ n → compliance_confidence beta_reg n m input.config.percentile =
      .ok (posterior beta_reg n m input.config.percentile))
    (evidence : LacksEvidence beta_reg input train holdout) :
    Decided beta_reg input train holdout
      (round_record input surveyed per_ef train holdout none window_start window_end) := by
  refine ⟨defined, ⟨fun _ => evidence, fun _ => rfl⟩, fun _ => ⟨rfl, rfl, rfl, rfl, rfl, rfl, rfl⟩,
    fun enough => absurd evidence enough, fun enough => absurd evidence enough, ?_, ?_, fun _ => rfl⟩
  · intro ef found
    cases found
  · intro ef confidence _ found
    cases found

private theorem decided_some {completed : CompletedSelection}
    (defined : ∀ n m, m ≤ n → compliance_confidence beta_reg n m input.config.percentile =
      .ok (posterior beta_reg n m input.config.percentile))
    (valid : ConfigValid input.config) (evidence : ¬LacksEvidence beta_reg input train holdout)
    (selected : Selected beta_reg input.config train holdout completed)
    (ended : iso8601_seconds input.round_end = .ok window_end) :
    Decided beta_reg input train holdout
      (round_record input surveyed per_ef train holdout (some completed) window_start window_end) := by
  have made : completed.status ≠ .InsufficientSamples := by
    obtain ⟨maximum, last, _⟩ := grid_maximum valid
    by_cases below : trainScore beta_reg input.config train maximum < input.config.selection_confidence
    · rw [(selected.unmet maximum last below).1]; decide
    · rw [(selected.approved maximum last below).1]; decide
  refine ⟨defined, ⟨fun found => absurd found made, fun lacking => absurd lacking evidence⟩,
    fun found => absurd found made, ?_, ?_, ?_, ?_, ?_⟩
  · intro _ maximum last below
    obtain ⟨unmet, top⟩ := selected.unmet maximum last below
    exact ⟨unmet, congrArg some top⟩
  · intro _ maximum last reaches
    obtain ⟨ok, member, clears, least⟩ := selected.approved maximum last reaches
    exact ⟨ok, completed.recommended_ef, member, rfl, clears, least⟩
  · intro ef found
    obtain rfl := Option.some.inj found
    exact ⟨congrArg some selected.train_confidence, congrArg some selected.confidence,
      congrArg some selected.train_compliance, congrArg some selected.test_compliance⟩
  · intro ef confidence ok efFound confidenceFound approved
    obtain rfl := Option.some.inj efFound
    obtain rfl := Option.some.inj confidenceFound
    exact ⟨window_end, ended, if_pos ⟨ok, approved⟩⟩
  · intro rejected
    exact if_neg fun accepted => rejected ⟨accepted.1, completed.confidence, rfl, accepted.2⟩

end Records

/-- Every published record is the specified decision over its deduplicated population. -/
theorem published_round_decided {input : AggregationInput} {output : RoundOutput}
    (published : aggregate beta_reg input = .ok output) :
    ∃ population, population_of input = .ok population ∧
      Decided beta_reg input (trainOf input.config population) (holdoutOf input.config population) output := by
  obtain ⟨surveyed, surveyFound, concluded⟩ := Results.bind_ok.mp published
  have valid : ConfigValid input.config :=
    validate_aggregation_config_ok.mp (Results.check_ok.mp surveyFound).1
  obtain ⟨per_ef, selection, window_start, window_end, _, decided, ended, rfl⟩ := conclude_ok concluded
  refine ⟨surveyed.population, Results.bind_ok.mpr ⟨surveyed, surveyFound, rfl⟩, ?_⟩
  obtain ⟨defined, ⟨lacking, rfl⟩ | ⟨evidence, completed, rfl, selected⟩⟩ := decide_selection_ok decided
  · exact decided_none defined lacking
  · exact decided_some defined valid evidence (select_and_validate_ok valid selected) ended

theorem small_round_decided : ∃ population, population_of smallInput = .ok population ∧
    Decided smallBeta smallInput (trainOf smallConfig population) (holdoutOf smallConfig population) smallOutput :=
  published_round_decided smallInput_published

end VectorSeam.Decision
