import VectorSeam.Reassignments

/-!
How a round responds to a lower selection confidence or to better recalls. The rule falls
back to the maximum of the grid, so the ef it recommends and its status are compared on
the whole grid and not branch by branch.
-/

namespace VectorSeam.Response
open VectorSeam.Model VectorSeam.Estimators VectorSeam.Accounting VectorSeam.Population VectorSeam.Aggregate
open VectorSeam.Decision VectorSeam.RelatedMaps VectorSeam.Reassignments List

variable {beta_reg : Float → Float → Float → Float}

/-- Confidences of at most `samples` samples do not fall when successes are added. -/
def Steady (beta_reg : Float → Float → Float → Float) (percentile : Float) (samples : Nat) : Prop :=
  ∀ n fewer more, n ≤ samples → fewer ≤ more → more ≤ n →
    posterior beta_reg n fewer percentile ≤ posterior beta_reg n more percentile

/-- The second input is the first with a smaller or equal selection confidence, or with stored recalls that are
    all at least as large. -/
inductive Relaxes (first second : AggregationInput) : Prop
  | selection_confidence (lower : Float) (le : lower ≤ first.config.selection_confidence)
      (same : second = { first with config := { first.config with selection_confidence := lower } })
  | recalls (intermediates : List IntermediatePart)
      (raised : Forall₂ (PartRescored fun before after => before ≤ after) first.intermediates intermediates)
      (same : second = { first with intermediates := intermediates })

/-- Nothing but the selection confidence differs between two configurations, and it does not grow. -/
structure Lowered (config config' : AggregationConfig) : Prop where
  same : config' = { config with selection_confidence := config'.selection_confidence }
  le : config'.selection_confidence ≤ config.selection_confidence

theorem Lowered.refl {config : AggregationConfig} (valid : ConfigValid config) : Lowered config config := by
  have number := (Binary64.isNaN_of_lt valid.selection_bounds.1).2
  exact ⟨rfl, Binary64.le_iff.mpr (.inr (Binary64.beq_iff.mp (Binary64.beq_self number)))⟩

/-! ### What a relaxed input keeps -/

theorem rescored_refl (part : IntermediatePart) : PartRescored Eq part part := by
  refine ⟨rfl, forall₂_same.mpr fun sample _ => ⟨rfl, rfl, rfl, rfl, fun ef => ?_⟩⟩
  cases sample.sweeps[ef]? with
  | none => exact .none
  | some sweep => exact .some ⟨rfl, rfl⟩

/-- Both kinds of relaxation lower a configuration and rescore the parts. -/
theorem Relaxes.rescored {first second : AggregationInput} (relaxes : Relaxes first second)
    (valid : ConfigValid first.config) : Lowered first.config second.config ∧
      first.listed_parts = second.listed_parts ∧ first.round_end = second.round_end ∧
      first.phase_a_abort = second.phase_a_abort ∧
      ∃ related : Float → Float → Prop, (∀ x y, related x y → ∀ v, v ≤ x → v ≤ y) ∧
        Forall₂ (PartRescored related) first.intermediates second.intermediates := by
  cases relaxes with
  | selection_confidence lower le same =>
    subst same
    exact ⟨⟨rfl, le⟩, rfl, rfl, rfl, Eq, fun x y same v => same ▸ id, forall₂_same.mpr fun part _ => rescored_refl part⟩
  | recalls intermediates raised same =>
    subst same
    exact ⟨.refl valid, rfl, rfl, rfl, _, fun x y le v below => Binary64.le_trans below le, raised⟩

theorem population_of_ok {input : AggregationInput} {population : List PopulationSample}
    (found : population_of input = .ok population) :
    ∃ surveyed, survey input = .ok surveyed ∧ population = surveyed.population := by
  obtain ⟨surveyed, surveyFound, built⟩ := Results.bind_ok.mp found
  exact ⟨surveyed, surveyFound, (Except.ok.inj built).symm⟩

/-- The published counts of the two splits. -/
theorem published_counts {input : AggregationInput} {output : RoundOutput} (published : aggregate beta_reg input = .ok output)
    {population : List PopulationSample} (found : population_of input = .ok population) :
    output.samples.train = (trainOf input.config population).length ∧
      output.samples.test = (holdoutOf input.config population).length := by
  obtain ⟨surveyed, surveyFound, rfl⟩ := population_of_ok found
  obtain ⟨other, otherFound, concluded⟩ := Results.bind_ok.mp published
  obtain rfl := Except.ok.inj (surveyFound.symm.trans otherFound)
  obtain ⟨_, _, _, _, _, _, _, rfl⟩ := conclude_ok concluded
  exact ⟨rfl, rfl⟩

/-! ### The decision on the grid -/

section Grid
variable {config config' : AggregationConfig} {train train' : List PopulationSample}

theorem trainScore_le (lowered : Lowered config config') {related : Float → Float → Prop}
    (raised : ∀ x y, related x y → ∀ v, v ≤ x → v ≤ y) (pairs : Forall₂ (SurvivorRescored related) train train')
    (steady : Steady beta_reg config.percentile train.length) (ef : Int) :
    trainScore beta_reg config train ef ≤ trainScore beta_reg config' train' ef := by
  have more : successes config train ef ≤ successes config train' ef :=
    successes_le config ef (fun x y here => raised x y here config.value) pairs
  have within := successes_le_length config train' ef
  rw [← pairs.length_eq] at within
  rw [lowered.same]
  unfold trainScore
  rw [← pairs.length_eq]
  exact steady _ _ _ (Nat.le_refl _) more within

theorem evidence_kept {input input' : AggregationInput} {holdout holdout' : List PopulationSample}
    (lowered : Lowered input.config input'.config) (aborted : input.phase_a_abort = input'.phase_a_abort)
    (trains : train.length = train'.length) (holdouts : holdout.length = holdout'.length)
    (enough : ¬LacksEvidence beta_reg input train holdout) : ¬LacksEvidence beta_reg input' train' holdout' := by
  have percentile : input'.config.percentile = input.config.percentile := by rw [lowered.same]
  have approval : input'.config.approval_confidence = input.config.approval_confidence := by rw [lowered.same]
  simp only [LacksEvidence, ← aborted, percentile, approval, ← List.length_eq_zero_iff, ← trains, ← holdouts] at enough ⊢
  rintro (abort | empty | empty | low | low)
  · exact enough (.inl abort)
  · exact enough (.inr (.inl empty))
  · exact enough (.inr (.inr (.inl empty)))
  · exact enough (.inr (.inr (.inr (.inl (Binary64.lt_of_lt_of_le low lowered.le)))))
  · exact enough (.inr (.inr (.inr (.inr low))))

/-- The least grid value that clears comes no later when the threshold falls and the scores rise. -/
theorem decision_relaxed {input input' : AggregationInput} {holdout holdout' : List PopulationSample}
    {output output' : RoundOutput} (valid : ConfigValid input.config) (lowered : Lowered input.config input'.config)
    (first : Decided beta_reg input train holdout output) (second : Decided beta_reg input' train' holdout' output')
    (enough : ¬LacksEvidence beta_reg input train holdout) (enough' : ¬LacksEvidence beta_reg input' train' holdout')
    (scores : ∀ ef, trainScore beta_reg input.config train ef ≤ trainScore beta_reg input'.config train' ef) :
    (∃ ef ef', output.recommended_ef = some ef ∧ output'.recommended_ef = some ef' ∧ ef' ≤ ef) ∧
      (output.status = .Ok → output'.status = .Ok) := by
  obtain ⟨maximum, last, greatest⟩ := grid_maximum valid
  have grid : input'.config.ef_grid = input.config.ef_grid := by rw [lowered.same]
  have last' : input'.config.ef_grid.getLast? = some maximum := grid ▸ last
  have clears : ∀ ef, input.config.selection_confidence ≤ trainScore beta_reg input.config train ef →
      input'.config.selection_confidence ≤ trainScore beta_reg input'.config train' ef := fun ef reached =>
    Binary64.le_trans lowered.le (Binary64.le_trans reached (scores ef))
  by_cases below : trainScore beta_reg input.config train maximum < input.config.selection_confidence
  · obtain ⟨unmet, recommended⟩ := first.target_unmet enough maximum last below
    refine ⟨?_, fun ok => absurd (unmet.symm.trans ok) (by decide)⟩
    by_cases below' : trainScore beta_reg input'.config train' maximum < input'.config.selection_confidence
    · exact ⟨maximum, maximum, recommended, (second.target_unmet enough' maximum last' below').2, le_refl _⟩
    · obtain ⟨_, ef', member, recommended', _⟩ := second.approved enough' maximum last' below'
      exact ⟨maximum, ef', recommended, recommended', greatest ef' (grid ▸ member)⟩
  · obtain ⟨_, ef, member, recommended, reached, _⟩ := first.approved enough maximum last below
    have reaches' : ¬trainScore beta_reg input'.config train' maximum < input'.config.selection_confidence := fun below' =>
      below (Binary64.lt_of_lt_of_le (Binary64.lt_of_le_of_lt (scores maximum) below') lowered.le)
    obtain ⟨ok', ef', _, recommended', _, least⟩ := second.approved enough' maximum last' reaches'
    refine ⟨⟨ef, ef', recommended, recommended', ?_⟩, fun _ => ok'⟩
    by_contra later
    exact least ef (grid ▸ member) (not_le.mp later) (clears ef reached)

end Grid

theorem response_monotone {first second : AggregationInput} {output output' : RoundOutput}
    (published : aggregate beta_reg first = .ok output) (published' : aggregate beta_reg second = .ok output')
    (relaxes : Relaxes first second)
    (steady : Steady beta_reg first.config.percentile output.samples.train) :
    (output.status ≠ .InsufficientSamples → output'.status ≠ .InsufficientSamples ∧
      ∃ ef ef', output.recommended_ef = some ef ∧ output'.recommended_ef = some ef' ∧ ef' ≤ ef) ∧
    (output.status = .Ok → output'.status = .Ok) := by
  obtain ⟨population, found, decided⟩ := published_round_decided published
  obtain ⟨population', found', decided'⟩ := published_round_decided published'
  rw [(published_counts published found).1] at steady
  obtain ⟨surveyed, surveyFound, rfl⟩ := population_of_ok found
  obtain ⟨surveyed', surveyFound', rfl⟩ := population_of_ok found'
  have valid := (survey_ok surveyFound).valid
  obtain ⟨lowered, listed, ended, aborted, related, raised, parts⟩ := relaxes.rescored valid
  have scope : first.config.window_duration_seconds = second.config.window_duration_seconds := by rw [lowered.same]
  have compatible : ∀ part, is_compatible first.config part = is_compatible second.config part := by
    intro part
    rw [lowered.same]
    rfl
  have pairs := populations_rescored surveyFound surveyFound' listed ended scope compatible parts
  have member : in_train second.config = in_train first.config := by
    rw [lowered.same]
    rfl
  have trains : Forall₂ (SurvivorRescored related) (trainOf first.config surveyed.population)
      (trainOf second.config surveyed'.population) := by
    rw [trainOf, trainOf, member]
    exact train_rescored first.config pairs
  have holdouts : Forall₂ (SurvivorRescored related) (holdoutOf first.config surveyed.population)
      (holdoutOf second.config surveyed'.population) := by
    rw [holdoutOf, holdoutOf, member]
    exact holdout_rescored first.config pairs
  have conclusion : output.status ≠ .InsufficientSamples → output'.status ≠ .InsufficientSamples ∧
      (∃ ef ef', output.recommended_ef = some ef ∧ output'.recommended_ef = some ef' ∧ ef' ≤ ef) ∧
        (output.status = .Ok → output'.status = .Ok) := by
    intro sufficient
    have enough := mt decided.insufficient_iff.mpr sufficient
    have enough' := evidence_kept lowered aborted trains.length_eq holdouts.length_eq enough
    exact ⟨mt decided'.insufficient_iff.mp enough', decision_relaxed valid lowered decided decided' enough enough'
      (trainScore_le lowered raised trains steady)⟩
  refine ⟨fun sufficient => ⟨(conclusion sufficient).1, (conclusion sufficient).2.1⟩, fun ok => ?_⟩
  exact (conclusion (by rw [ok]; decide)).2.2 ok

/-! ### A small round with worse recalls -/

/-- The small samples, with no hit at the smaller ef. -/
def dullSample (record_index : Int) (vector_hash : UInt64) : MeasuredSample :=
  { smallSample record_index vector_hash 1.0 with sweeps := Std.ExtTreeMap.ofList [(1, ⟨0.0, 1.0⟩), (2, ⟨1.0, 2.0⟩)] compare }
def dullInput : AggregationInput :=
  { smallInput with intermediates := [⟨smallMetadata, [dullSample 0 0, dullSample 1 1]⟩] }
def dullOutput : RoundOutput :=
  { smallOutput with
    recommended_ef := some 2
    effective := some ⟨2, 0.75, "1970-01-01T00:02:00Z", false⟩
    per_ef := [⟨1, 0.0, 0.0, 1.0⟩, ⟨2, 1.0, 1.0, 2.0⟩] }

theorem dullInput_published : aggregate smallBeta dullInput = .ok dullOutput := by decide +kernel

theorem dull_rescored (record_index : Int) (vector_hash : UInt64) : SampleRescored (fun before after => before ≤ after)
    (dullSample record_index vector_hash) (smallSample record_index vector_hash 1.0) := by
  refine ⟨rfl, rfl, rfl, rfl, ?_⟩
  have built : ∀ one two : SweepMeasurement, Std.ExtTreeMap.ofList [((1 : Int), one), (2, two)] compare =
      ((∅ : BTreeMap Int SweepMeasurement).insert 1 one).insert 2 two := fun _ _ => rfl
  rw [dullSample, smallSample, built, built]
  exact (Related.empty.insert 1 ⟨by decide, rfl⟩).insert 2 ⟨by decide, rfl⟩

theorem dull_response : (dullOutput.status ≠ .InsufficientSamples → smallOutput.status ≠ .InsufficientSamples ∧
      ∃ ef ef', dullOutput.recommended_ef = some ef ∧ smallOutput.recommended_ef = some ef' ∧ ef' ≤ ef) ∧
    (dullOutput.status = .Ok → smallOutput.status = .Ok) := by
  refine response_monotone dullInput_published smallInput_published (.recalls smallInput.intermediates ?_ rfl) ?_
  · exact .cons ⟨rfl, .cons (dull_rescored 0 0) (.cons (dull_rescored 1 1) .nil)⟩ .nil
  · intro n fewer more small less within
    change n ≤ 1 at small
    change posterior smallBeta n fewer 0.5 ≤ posterior smallBeta n more 0.5
    interval_cases n
    · interval_cases more
      interval_cases fewer
      decide
    · interval_cases more
      · interval_cases fewer
        decide
      · interval_cases fewer
        · decide
        · decide

end VectorSeam.Response
