import VectorSeam.Records
import VectorSeam.Measure

/-!
The two config fingerprints. The carry rule compares a published record with the
config and does not see the table, column and key; the compatibility rule compares a
stored pair with the config and sees all three. What follows says when the first
implies the second.
-/

namespace VectorSeam.Fingerprints
open VectorSeam.Model VectorSeam.Aggregate VectorSeam.Measure VectorSeam.Records

/-- The intermediate's metadata is what measuring some part under the config writes. -/
def MeasuredUnder (config : AggregationConfig) (part : IntermediatePart) : Prop :=
  ∃ prepared part_ulid failed_count measured_count computed_at_us,
    part.metadata = measured_metadata prepared part_ulid config failed_count measured_count computed_at_us

/-- The settings that only the compatibility rule compares. -/
def SameSource (left right : AggregationConfig) : Prop :=
  left.table = right.table ∧ left.column = right.column ∧ left.key = right.key

/-- The settings that the carry rule compares. -/
def SameTarget (left right : AggregationConfig) : Prop :=
  left.cohort = right.cohort ∧ left.index = right.index ∧ left.ef_grid = right.ef_grid ∧ left.k = right.k ∧
    left.value = right.value ∧ left.percentile = right.percentile ∧
    left.selection_confidence = right.selection_confidence ∧ left.approval_confidence = right.approval_confidence

theorem compatible_iff {measured config : AggregationConfig} {part : IntermediatePart}
    (under : MeasuredUnder measured part) : is_compatible config part = true ↔
      measured.k = config.k ∧ measured.index = config.index ∧ SameSource measured config ∧
        measured.ef_grid = config.ef_grid := by
  obtain ⟨prepared, part_ulid, failed_count, measured_count, computed_at_us, metadata⟩ := under
  unfold is_compatible SameSource
  simp only [metadata, measured_metadata, Bool.and_eq_true, beq_iff_eq, and_assoc, true_and]

theorem carry_iff {measured config : AggregationConfig} {output : RoundOutput} (made : MadeUnder measured output)
    (valid : ConfigValid config) : carry_fingerprint_matches config output = true ↔ SameTarget measured config := by
  rw [carry_matches_iff valid, made.cohort, made.index, made.ef_grid, made.target]
  rfl

/-- A record published under one config and accepted by the carry rule under another guarantees compatible
    measurements exactly when the edit leaves table, column and key alone or changes a compared setting. -/
theorem carry_implies_compatible_iff {beta_reg : Float → Float → Float → Float} {input : AggregationInput}
    {output : RoundOutput} {config : AggregationConfig} {part : IntermediatePart}
    (published : aggregate beta_reg input = .ok output) (valid : validate_aggregation_config config = .ok ())
    (measured : MeasuredUnder input.config part) :
    (carry_fingerprint_matches config output = true → is_compatible config part = true) ↔
      SameSource input.config config ∨ ¬SameTarget input.config config := by
  rw [carry_iff (aggregate_recorded published).under (validate_aggregation_config_ok.mp valid), compatible_iff measured]
  constructor
  · intro implied
    by_cases target : SameTarget input.config config
    · exact .inl (implied target).2.2.1
    · exact .inr target
  · rintro (source | edited) target
    · obtain ⟨_, index, ef_grid, k, _⟩ := target
      exact ⟨k, index, source, ef_grid⟩
    · exact absurd target edited

/-! ### A table edit under one index name -/

def movedConfig : AggregationConfig := { smallConfig with table := "items_v2" }
/-- The round after the edit, with nothing measured yet. -/
def movedInput : AggregationInput :=
  { smallInput with config := movedConfig, round_end := 180, previous_round := some smallOutput, listed_parts := [],
                    intermediates := [] }

theorem small_measured : MeasuredUnder smallConfig smallPart :=
  ⟨⟨"prod", 60, 60, 2, 2, []⟩, "A", 0, 2, 1, rfl⟩

theorem small_carry_compatible :
    (carry_fingerprint_matches smallConfig smallOutput = true → is_compatible smallConfig smallPart = true) ↔
      SameSource smallConfig smallConfig ∨ ¬SameTarget smallConfig smallConfig :=
  carry_implies_compatible_iff smallInput_published (by decide) small_measured

/-- After the table is renamed, the next round serves the old recommendation although every pair is discarded. -/
theorem table_edit_keeps_recommendation :
    aggregate smallBeta smallInput = .ok smallOutput ∧ validate_aggregation_config smallConfig = .ok () ∧
      validate_aggregation_config movedConfig = .ok () ∧ MeasuredUnder smallConfig smallPart ∧
      carry_fingerprint_matches movedConfig smallOutput = true ∧ is_compatible movedConfig smallPart = false ∧
      (aggregate smallBeta movedInput).toOption.bind (·.effective) =
        some ⟨1, 0.75, "1970-01-01T00:02:00Z", true⟩ :=
  ⟨smallInput_published, by decide, by decide, small_measured, by decide, by decide,
    by decide +kernel⟩

end VectorSeam.Fingerprints
