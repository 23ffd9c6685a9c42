import VectorSeam.Decision

/-!
A published record as storage sees it: the settings it was made under, its effective
block, and when another round may carry that block.
-/

namespace VectorSeam.Records
open VectorSeam.Model VectorSeam.Accounting VectorSeam.Aggregate VectorSeam.Decision VectorSeam.Window

/-- The record is ok and its holdout confidence reaches its own approval confidence. -/
def Approved (output : RoundOutput) : Prop :=
  output.status = .Ok ∧ ∃ confidence, output.confidence = some confidence ∧
    output.target.approval_confidence ≤ confidence

/-- The record recommends what the block says, and its window ends at the block's source round. -/
def Produces (output : RoundOutput) (effective : EffectiveRecommendation) : Prop :=
  output.recommended_ef = some effective.recommended_ef ∧ output.confidence = some effective.confidence ∧
    output.window.finish = effective.source_round

/-- The settings that the carry rule compares. -/
structure SameFingerprint (left right : RoundOutput) : Prop where
  cohort : left.cohort = right.cohort
  index : left.index = right.index
  ef_grid : left.ef_grid = right.ef_grid
  k : left.target.k = right.target.k
  value : left.target.value = right.target.value
  percentile : left.target.percentile = right.target.percentile
  selection_confidence : left.target.selection_confidence = right.target.selection_confidence
  approval_confidence : left.target.approval_confidence = right.target.approval_confidence

theorem SameFingerprint.refl (output : RoundOutput) : SameFingerprint output output :=
  ⟨rfl, rfl, rfl, rfl, rfl, rfl, rfl, rfl⟩

theorem SameFingerprint.trans {first second third : RoundOutput} (left : SameFingerprint first second)
    (right : SameFingerprint second third) : SameFingerprint first third :=
  ⟨left.cohort.trans right.cohort, left.index.trans right.index, left.ef_grid.trans right.ef_grid, left.k.trans right.k,
    left.value.trans right.value, left.percentile.trans right.percentile,
    left.selection_confidence.trans right.selection_confidence, left.approval_confidence.trans right.approval_confidence⟩

/-- The record was made under the config. -/
structure MadeUnder (config : AggregationConfig) (output : RoundOutput) : Prop where
  cohort : output.cohort = config.cohort
  index : output.index = config.index
  ef_grid : output.ef_grid = config.ef_grid
  target : output.target = ⟨config.target_name, config.k, config.value, config.percentile, config.selection_confidence,
    config.approval_confidence⟩

/-- What publishing fixes about a record and its effective block. -/
structure Recorded (input : AggregationInput) (output : RoundOutput) : Prop where
  valid : ConfigValid input.config
  under : MadeUnder input.config output
  effective : (Approved output ∧ ∃ effective, output.effective = some effective ∧ effective.carried = false ∧
      effective.recommended_ef ∈ output.ef_grid ∧ output.target.approval_confidence ≤ effective.confidence ∧
      Produces output effective) ∨
    (¬Approved output ∧ output.effective = (previous_effective input).map fun effective => { effective with carried := true })

theorem aggregate_recorded {beta_reg : Float → Float → Float → Float} {input : AggregationInput} {output : RoundOutput}
    (published : aggregate beta_reg input = .ok output) : Recorded input output := by
  obtain ⟨surveyed, surveyFound, concluded⟩ := Results.bind_ok.mp published
  have valid : ConfigValid input.config := validate_aggregation_config_ok.mp (Results.check_ok.mp surveyFound).1
  obtain ⟨per_ef, selection, window_start, window_end, _, decided, _, rfl⟩ := conclude_ok concluded
  refine ⟨valid, ⟨rfl, rfl, rfl, rfl⟩, ?_⟩
  obtain ⟨_, ⟨_, rfl⟩ | ⟨_, completed, rfl, selected⟩⟩ := decide_selection_ok decided
  · refine .inr ⟨?_, rfl⟩
    rintro ⟨_, confidence, found, _⟩
    cases found
  · by_cases approved : completed.status = .Ok ∧ input.config.approval_confidence ≤ completed.confidence
    · refine .inl ⟨⟨approved.1, completed.confidence, rfl, approved.2⟩, _, if_pos approved, rfl, ?_, approved.2, rfl, rfl, rfl⟩
      exact (select_and_validate_ok valid selected).in_grid valid
    · refine .inr ⟨?_, if_neg approved⟩
      rintro ⟨ok, confidence, found, reaches⟩
      obtain rfl := Option.some.inj found
      exact approved ⟨ok, reaches⟩

/-- The carry rule accepts a record made under one valid config for another exactly when their settings agree. -/
theorem carry_matches_iff {config : AggregationConfig} {previous : RoundOutput} (valid : ConfigValid config) :
    carry_fingerprint_matches config previous = true ↔
      previous.cohort = config.cohort ∧ previous.index = config.index ∧ previous.ef_grid = config.ef_grid ∧
        previous.target.k = config.k ∧ previous.target.value = config.value ∧
        previous.target.percentile = config.percentile ∧
        previous.target.selection_confidence = config.selection_confidence ∧
        previous.target.approval_confidence = config.approval_confidence := by
  unfold carry_fingerprint_matches
  simp only [Bool.and_eq_true, Binary64.beq_iff_eq_of_pos valid.value_bounds.1,
    Binary64.beq_iff_eq_of_pos valid.percentile_bounds.1, Binary64.beq_iff_eq_of_pos valid.selection_bounds.1,
    Binary64.beq_iff_eq_of_pos valid.approval_bounds.1, beq_iff_eq, and_assoc]

/-- A record whose block may be carried was made under the settings of the record that carries it. -/
theorem Recorded.same_fingerprint {input : AggregationInput} {output previous : RoundOutput}
    (recorded : Recorded input output) (accepted : carry_fingerprint_matches input.config previous = true) :
    SameFingerprint previous output := by
  obtain ⟨cohort, index, ef_grid, k, value, percentile, selection, approval⟩ :=
    (carry_matches_iff recorded.valid).mp accepted
  have under := recorded.under
  refine ⟨cohort.trans under.cohort.symm, index.trans under.index.symm, ef_grid.trans under.ef_grid.symm, ?_, ?_, ?_, ?_, ?_⟩
  · rw [under.target]; exact k
  · rw [under.target]; exact value
  · rw [under.target]; exact percentile
  · rw [under.target]; exact selection
  · rw [under.target]; exact approval

end VectorSeam.Records
