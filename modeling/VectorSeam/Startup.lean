import VectorSeam.Configuration
import VectorSeam.Failures
import VectorSeam.Magnitudes
import VectorSeam.Pacer

/-!
What startup validation guarantees to the rounds. The projection of an accepted
configuration for a configured cohort passes the checks that aggregation, the split, the
estimators and the pacer make again, so that no round fails because of a configured value.
-/

namespace VectorSeam.Startup
open VectorSeam.Model VectorSeam.Estimators VectorSeam.Rounding VectorSeam.Cohort VectorSeam.Accounting
open VectorSeam.Population VectorSeam.Aggregate VectorSeam.Blame VectorSeam.Results VectorSeam.Configuration
open VectorSeam.Programs VectorSeam.Effects VectorSeam.Pipeline VectorSeam.Intermediate VectorSeam.Durations

variable {debug : String → String} {password_env_exists : String → Bool} {raw : RawConfig} {config : Config}
  {projected : AggregationConfig} {beta_reg : Float → Float → Float → Float}

/-! ### The projection -/

theorem for_cohort_some (accepted : Accepted debug password_env_exists raw config) {cohort : CohortName}
    (configured : cohort.name ∈ config.cohorts) : ∃ projected, for_cohort config cohort = some projected := by
  obtain ⟨⟨cohort_name, entry⟩, found⟩ :=
    Option.isSome_iff_exists.mp (Std.ExtTreeMap.isSome_getElem?_iff_mem.mpr configured)
  obtain ⟨_, indexed, targeted⟩ := accepted.cohorts _ _ _ found
  obtain ⟨index, indexFound⟩ := Option.isSome_iff_exists.mp (Std.ExtTreeMap.isSome_getElem?_iff_mem.mpr indexed)
  obtain ⟨target, targetFound⟩ := Option.isSome_iff_exists.mp (Std.ExtTreeMap.isSome_getElem?_iff_mem.mpr targeted)
  exact ⟨_, by simp only [for_cohort, found, indexFound, targetFound, Option.bind_eq_bind, Option.bind_some]; rfl⟩

/-- Both validators compare the same rounded product. -/
theorem split_threshold_ok (valid : CalibrationValid config.calibration) :
    ∃ threshold, split_threshold config.calibration.train_fraction = .ok threshold := by
  have finite : config.calibration.train_fraction.isFinite = true :=
    Binary64.isFinite_of_between (Binary64.le_of_lt valid.fraction.1) (Binary64.le_of_lt valid.fraction.2) (by decide)
      (by decide)
  have buckets : (10000.0 : Float) = Float.ofNat SPLIT_BUCKETS := rfl
  have threshold := valid.threshold
  rw [buckets] at threshold
  exact ⟨_, by rw [split_threshold, if_neg (by simpa using finite), if_pos threshold]⟩

theorem projection_valid (accepted : Accepted debug password_env_exists raw config) {cohort : CohortName}
    (found : for_cohort config cohort = some projected) : ConfigValid projected := by
  obtain ⟨⟨cohort_name, entry⟩, _, found⟩ := Option.bind_eq_some_iff.mp found
  obtain ⟨index, _, found⟩ := Option.bind_eq_some_iff.mp found
  obtain ⟨target, targetFound, built⟩ := Option.bind_eq_some_iff.mp found
  obtain rfl := Option.some.inj built
  obtain ⟨valid, minimum, head, above⟩ := accepted.targets _ _ targetFound
  have calibration := accepted.calibration
  refine {
    storage_positive := accepted.storage.positive
    whole_minutes := accepted.storage.whole_minutes
    one_window := valid.one_window
    whole_windows := valid.whole_windows.2
    k_positive := valid.k
    value_bounds := valid.value
    percentile_bounds := valid.percentile
    selection_bounds := valid.selection_confidence
    approval_bounds := valid.approval_confidence
    grid_valid := decide_eq_true ⟨calibration.nonempty, calibration.ascending, ?_, fun ef member =>
      (calibration.within ef member).2⟩
    split_valid := split_threshold_ok calibration }
  have first : config.calibration.ef_search.headD 0 = minimum := by rw [List.headD_eq_head?_getD, head]; rfl
  dsimp only
  rw [first]
  split
  · exact above
  · omega

/-! ### Configured values in the estimators -/

/-- A number in the open unit interval is neither infinite nor zero. -/
theorem finite_of_open {value : Float} (bounds : 0.0 < value ∧ value < 1.0) : value.isFinite = true :=
  Binary64.isFinite_of_between (Binary64.le_of_lt bounds.1) (Binary64.le_of_lt bounds.2) (by decide) (by decide)

theorem finite_of_unit {value : Float} (unit : InUnit value) : value.isFinite = true :=
  Binary64.isFinite_of_between unit.1 unit.2 (by decide) (by decide)

theorem not_zero_of_positive {value : Float} (positive : 0.0 < value) : (value == 0.0) = false := by
  cases zero : value == 0.0 with
  | false => rfl
  | true =>
    have equal := Binary64.beq_iff.mp zero
    have swapped := Binary64.ordering_swap value 0.0
    rw [equal, Binary64.lt_iff.mp positive] at swapped
    cases swapped

/-- Scores and thresholds in the unit interval are valid input of the selection. -/
theorem selection_input_valid {threshold : Float} (bounds : 0.0 < threshold ∧ threshold < 1.0) {scores : BTreeMap Int Float}
    (unit : ∀ entry ∈ scores.toList, InUnit entry.2) :
    ¬(¬threshold.isFinite ∨ ¬(0.0 ≤ threshold ∧ threshold ≤ 1.0) ∨ threshold == 0.0 ∨
      scores.toList.any fun entry => ! entry.2.isFinite || ! (0.0 ≤ entry.2 && entry.2 ≤ 1.0)) := by
  rintro (infinite | outside | zero | bad)
  · exact infinite (finite_of_open bounds)
  · exact outside ⟨Binary64.le_of_lt bounds.1, Binary64.le_of_lt bounds.2⟩
  · rw [not_zero_of_positive bounds.1] at zero
    cases zero
  · obtain ⟨entry, member, wrong⟩ := List.any_eq_true.mp bad
    have inside := unit entry member
    simp [finite_of_unit inside, inside.1, inside.2] at wrong

theorem select_ef_accepts {threshold : Float} (bounds : 0.0 < threshold ∧ threshold < 1.0) {scores : BTreeMap Int Float}
    (unit : ∀ entry ∈ scores.toList, InUnit entry.2) : Fails (· = .EmptyEfGrid) (select_ef scores threshold) := by
  rw [select_ef, if_neg (selection_input_valid bounds unit)]
  cases scores.toList.getLast? with
  | none => exact fails_error rfl
  | some maximum =>
    refine fails_ite (fun _ => fails_ok) fun _ => ?_
    cases scores.toList.find? fun entry => decide (threshold ≤ entry.2) with
    | none => exact fails_ok
    | some clearing => exact fails_ok

theorem compliance_confidence_accepts {percentile : Float} (bounds : 0.0 < percentile ∧ percentile < 1.0) {n m : Nat}
    (possible : m ≤ n) :
    compliance_confidence beta_reg n m percentile = .ok (posterior beta_reg n m percentile) := by
  have accepted : ¬(n < m ∨ ¬percentile.isFinite ∨ percentile ≤ 0.0 ∨ 1.0 ≤ percentile) := by
    rintro (many | infinite | low | high)
    · omega
    · exact infinite (finite_of_open bounds)
    · exact Binary64.not_lt_of_le low bounds.1
    · exact Binary64.not_lt_of_le high bounds.2
  rw [compliance_confidence, if_neg accepted]
  rfl

theorem pacer_accepts {db_share : Float} (bounds : 0.0 < db_share ∧ db_share ≤ 1.0) (now : Instant) :
    ∃ pacer, Pacer.new now db_share = .ok pacer := by
  have finite : db_share.isFinite = true :=
    Binary64.isFinite_of_between (Binary64.le_of_lt bounds.1) bounds.2 (by decide) (by decide)
  exact ⟨_, by rw [Pacer.new, if_neg (by simp [finite, bounds])]⟩

/-! ### Rounds -/

/-- The error is about a configured value. -/
def Misconfigured : AggregateError → Prop
  | .InvalidConfig _ => True
  | .Math .InvalidTrainFraction => True
  | .Math .InvalidSelectionInput => True
  | .Math .InvalidConfidenceInput => True
  | _ => False

/-- An error that no configured value is to blame for. -/
def Sound (error : AggregateError) : Prop := ¬Misconfigured error

theorem sound_of_clerical {error : AggregateError} (clerical : Clerical error) : Sound error := by
  intro misconfigured
  cases error with
  | InvalidConfig reason => exact clerical
  | Math error => exact clerical
  | _ => exact misconfigured

theorem sound_of_named {error : AggregateError} {part_ulid : String} (named : named_part error = some part_ulid) :
    Sound error := by
  intro misconfigured
  cases error with
  | InvalidConfig reason => cases named
  | Math error => cases named
  | _ => exact misconfigured

theorem gather_sound {listed : BTreeMap String ListedPart} {entries : List (String × IntermediatePart)} {before : Gathered} :
    Fails Sound (gather projected listed entries before) := by
  induction entries generalizing before with
  | nil => exact fails_ok
  | cons entry rest ih =>
    obtain ⟨part_ulid, intermediate⟩ := entry
    unfold gather
    refine fails_ite (fun _ => ih) fun _ => fails_ite (fun _ => ?_) fun _ => ?_
    · exact fails_bind (fails_ok_or id) fun _ _ => ih
    · exact fails_bind (fails_ok_or id) fun _ _ => fails_bind (fails_ok_or id) fun _ _ => ih

theorem survey_sound {input : AggregationInput} (valid : ConfigValid input.config) : Fails Sound (survey input) := by
  unfold survey
  refine fails_bind (fun error failed => ?_) fun _ _ => ?_
  · rw [validate_aggregation_config_ok.mpr valid] at failed
    cases failed
  refine fails_bind ((in_scope_window_starts_clerical _ _ _).mono fun _ => sound_of_clerical) fun _ _ => ?_
  refine fails_bind (fails_ok_or id) fun _ _ => ?_
  refine fails_bind ((unique_in_scope_parts_clerical _ _ _).mono fun _ => sound_of_clerical) fun _ _ => ?_
  refine fails_bind ((sum_available_clerical _ _).mono fun _ => sound_of_clerical) fun _ _ => ?_
  refine fails_bind ((dropped_frame_fraction_clerical _).mono fun _ => sound_of_clerical) fun _ _ => ?_
  refine fails_bind ((unique_intermediates_clerical _).mono fun _ => sound_of_clerical) fun _ _ => ?_
  refine fails_bind gather_sound fun _ _ => fails_bind ?_ fun _ _ => fails_ok
  exact (validate_population_names _ _).mono fun error ⟨_, _, named, _⟩ => sound_of_named named

theorem quantile_type7_sound (values : List Float) (q : Float) : Fails Sound (math (quantile_type7 values q)) := by
  have quantile : Fails (fun error => Sound (.Math error)) (quantile_type7 values q) := by
    unfold quantile_type7
    refine fails_ite (fun _ => fails_error id) fun _ => fails_ite (fun _ => fails_error id) fun _ => ?_
    refine fails_ite (fun _ => fails_error id) fun _ => fails_ite (fun _ => fails_ok) fun _ => ?_
    exact fails_ite (fun _ => fails_ok) fun _ => fails_ok
  cases found : quantile_type7 values q with
  | ok value => exact fails_ok
  | error error => exact fails_error (quantile error found)

theorem split_sound (valid : ConfigValid projected) (population : List PopulationSample) :
    Fails Sound (split projected population) := by
  obtain ⟨threshold, accepted⟩ := valid.split_valid
  induction population with
  | nil => exact fails_ok
  | cons sample rest ih =>
    unfold split
    refine fails_bind (fun error failed => ?_) fun in_train _ => fails_bind ih fun sides _ => ?_
    · rw [is_train_member, accepted] at failed
      cases failed
    · cases in_train with
      | true => exact fails_ok
      | false => exact fails_ok

/-- The samples of one side are counted in 64 bits, as the other side has one at least. -/
theorem split_short {population train test : List PopulationSample} (bounded : population.length ≤ 2 ^ 64)
    (divided : split projected population = .ok (train, test)) (nonempty : test ≠ []) : train.length < 2 ^ 64 := by
  obtain ⟨rfl, rfl⟩ := split_ok divided
  have sides := population.length_eq_length_filter_add (in_train projected)
  have some_test := List.length_pos_iff.mpr nonempty
  omega

section Estimates
variable (valid : ConfigValid projected)
  (unit : ∀ n m, m ≤ n → n < 2 ^ 64 → InUnit (posterior beta_reg n m projected.percentile))
include valid

theorem confidence_sound {n m : Nat} (possible : m ≤ n) :
    Fails Sound (math (compliance_confidence beta_reg n m projected.percentile)) := by
  rw [compliance_confidence_accepts valid.percentile_bounds possible]
  exact fails_ok

theorem evaluate_split_sound (samples : List PopulationSample) (ef : Int) :
    Fails Sound (evaluate_split beta_reg projected samples ef) :=
  fails_bind (confidence_sound valid (successes_le_length projected samples ef)) fun _ _ =>
    fails_bind (quantile_type7_sound _ _) fun _ _ => fails_ok

include unit

theorem select_and_validate_sound {train : List PopulationSample} (short : train.length < 2 ^ 64) (test : List PopulationSample) :
    Fails Sound (select_and_validate beta_reg projected train test) := by
  refine fails_bind (fails_mapM fun ef _ => fails_bind (confidence_sound valid (successes_le_length projected train ef)) fun _ _ =>
    fails_ok) fun scores scored => ?_
  obtain rfl := train_confidences_ok scored
  refine fails_bind ?_ fun selected _ => ?_
  · have ordered : (projected.ef_grid.map fun ef => (ef, posterior beta_reg train.length (successes projected train ef)
        projected.percentile)).Pairwise fun left right => compare left.1 right.1 = .lt :=
      List.pairwise_map.mpr (valid.grid_chain.2.imp fun less => compare_lt_iff_lt.mpr less)
    have inside : ∀ entry ∈ (Std.ExtTreeMap.ofList (projected.ef_grid.map fun ef =>
        (ef, posterior beta_reg train.length (successes projected train ef) projected.percentile)) compare).toList,
        InUnit entry.2 := by
      intro entry member
      rw [SortedMaps.toList_ofList ordered] at member
      obtain ⟨ef, _, rfl⟩ := List.mem_map.mp member
      exact unit _ _ (successes_le_length projected train ef) short
    have refused := select_ef_accepts valid.selection_bounds inside
    cases found : select_ef (Std.ExtTreeMap.ofList _ compare) projected.selection_confidence with
    | ok selected => exact fails_ok
    | error error =>
      obtain rfl := refused error found
      exact fails_error id
  · exact fails_bind (evaluate_split_sound valid train _) fun _ _ =>
      fails_bind (evaluate_split_sound valid test _) fun _ _ => fails_ok

end Estimates

theorem aggregate_sound {input : AggregationInput} (valid : ConfigValid input.config)
    (unit : ∀ n m, m ≤ n → n < 2 ^ 64 → InUnit (posterior beta_reg n m input.config.percentile)) :
    Fails Sound (aggregate beta_reg input) := by
  refine fails_bind (survey_sound valid) fun surveyed found => ?_
  refine fails_bind ?_ fun _ _ => fails_bind (split_sound valid _) fun sides divided => ?_
  · unfold per_ef_summaries
    refine fails_ite (fun _ => fails_ok) fun _ => fails_mapM fun _ _ => ?_
    exact fails_bind (quantile_type7_sound _ _) fun _ _ => fails_ok
  have windows : ∀ {result : Except Window.WindowError String}, Fails Sound (window result) := fun {result} => by
    cases result with
    | ok text => exact fails_ok
    | error error => exact fails_error id
  refine fails_bind ?_ fun _ _ => fails_bind windows fun _ _ => fails_bind windows fun _ _ => fails_ok
  refine fails_bind (confidence_sound valid le_rfl) fun _ _ => fails_bind (confidence_sound valid le_rfl) fun _ _ => ?_
  refine fails_ite (fun _ => fails_ok) fun sufficient => ?_
  have bounded : surveyed.population.length ≤ 2 ^ 64 := (survey_ok found).population ▸ deduplicate_samples_bounded _
  have nonempty : sides.2 ≠ [] := by
    intro empty
    simp [empty] at sufficient
  exact fails_bind (select_and_validate_sound valid unit (split_short bounded divided nonempty) _) fun _ _ => fails_ok

/-- Nothing configured can make a round fail. -/
theorem round_sound {B : Type} {codec : Codec B} {round_end computed_at_us : Nat} {computed_at : String} {world world' : World B}
    {error : AggregateError} (valid : ConfigValid projected)
    (unit : ∀ n m, m ≤ n → n < 2 ^ 64 → InUnit (posterior beta_reg n m projected.percentile))
    (run : Runs answer (run_cohort_round codec beta_reg projected round_end computed_at computed_at_us) world
      (.failed (.Aggregate error)) world') : Sound error := by
  rcases Failures.round_fails run with (clerical | ⟨message, rfl⟩) | ⟨ending, middle, previous_round, same, _, _, failed⟩
  · exact sound_of_clerical clerical
  · exact id
  · subst same
    have configured : ConfigValid (ending.input previous_round).config := valid
    exact aggregate_sound configured unit error failed

/-- An accepted configuration is sufficient for every check that rounds make again. Of the regularised incomplete beta
    function it is assumed that a posterior of 64-bit counts is a probability. -/
theorem startup_sufficient (debug : String → String) (password_env_exists : String → Bool) (raw : RawConfig)
    (config : Config) (beta_reg : Float → Float → Float → Float)
    (accepted : from_raw debug password_env_exists raw = .ok config)
    (unit : ∀ (n m : Nat) (percentile : Float), m ≤ n → n < 2 ^ 64 → 0.0 < percentile → percentile < 1.0 →
      InUnit (posterior beta_reg n m percentile)) :
    (∀ name ∈ raw.cohorts, ∃ cohort : CohortName, cohort.name = name ∧ name ∈ config.cohorts) ∧
    (∀ cohort : CohortName, cohort.name ∈ config.cohorts → ∃ projected, for_cohort config cohort = some projected ∧
      validate_aggregation_config projected = .ok () ∧
      (∃ threshold, split_threshold projected.train_fraction = .ok threshold) ∧
      (∀ scores : BTreeMap Int Float, (∀ entry ∈ scores.toList, InUnit entry.2) →
        select_ef scores projected.selection_confidence ≠ .error .InvalidSelectionInput) ∧
      (∀ n m, m ≤ n → ∃ confidence, compliance_confidence beta_reg n m projected.percentile = .ok confidence) ∧
      ∀ (B : Type) (codec : Codec B) (round_end : Nat) (computed_at : String) (computed_at_us : Nat) (world world' : World B)
        (error : AggregateError),
        Runs answer (run_cohort_round codec beta_reg projected round_end computed_at computed_at_us) world
          (.failed (.Aggregate error)) world' → ¬Misconfigured error) ∧
    ∀ now, ∃ pacer, Pacer.new now config.budget.db_share = .ok pacer := by
  have passed := from_raw_ok accepted
  refine ⟨fun name member => ?_, fun cohort configured => ?_, pacer_accepts passed.budget.db_share⟩
  · have configured := passed.configured name member
    obtain ⟨⟨cohort, entry⟩, found⟩ :=
      Option.isSome_iff_exists.mp (Std.ExtTreeMap.isSome_getElem?_iff_mem.mpr configured)
    exact ⟨cohort, (passed.cohorts _ _ _ found).1, configured⟩
  · obtain ⟨projected, found⟩ := for_cohort_some passed configured
    have valid := projection_valid passed found
    have projectedUnit : ∀ n m, m ≤ n → n < 2 ^ 64 → InUnit (posterior beta_reg n m projected.percentile) := fun n m possible counted =>
      unit n m _ possible counted valid.percentile_bounds.1 valid.percentile_bounds.2
    refine ⟨projected, found, validate_aggregation_config_ok.mpr valid, valid.split_valid, fun scores inside failed => ?_,
      fun n m possible => ⟨_, compliance_confidence_accepts valid.percentile_bounds possible⟩,
      fun B codec round_end computed_at computed_at_us world world' error run => round_sound valid projectedUnit run⟩
    cases select_ef_accepts valid.selection_bounds inside _ failed

/-- The confidences of splits of at most one sample, and the zeros that `smallBeta` has elsewhere, are probabilities. -/
theorem smallBeta_in_unit (n m : Nat) (percentile : Float) (positive : 0.0 < percentile) (below : percentile < 1.0) :
    InUnit (posterior smallBeta n m percentile) := by
  obtain ⟨p, pPositive, represented⟩ := Magnitudes.represents_of_positive positive (finite_of_open ⟨positive, below⟩)
  have least : p ≤ 1 := (represented.le_iff represents_one).mp (Binary64.le_of_lt below)
  have rest := represents_one_sub represented least
  have restUnit : 0 ≤ rounded (1 - p) ∧ rounded (1 - p) ≤ 1 :=
    ⟨rounded_nonneg _, rounded_le_one (by linarith) (by linarith)⟩
  have square : ∀ {a : Float} {x : ℚ}, Represents a x → x ≤ 1 → Represents (a * a) (rounded (x * x)) ∧ rounded (x * x) ≤ 1 := by
    intro a x represents le
    have nonneg := represents.nonneg
    have product : x * x ≤ 1 := by nlinarith
    exact ⟨Magnitudes.represents_mul represents represents (product.trans (by exact_mod_cast natCast_moderate (n := 1) (by norm_num))),
      rounded_le_one (by positivity) product⟩
  unfold posterior smallBeta
  split
  · exact rest.in_unit restUnit.2
  split
  · have complement := represents_one_sub rest restUnit.2
    have squared := square complement (rounded_le_one (by linarith) (by linarith))
    have outer := represents_one_sub squared.1 squared.2
    exact outer.in_unit (rounded_le_one (by linarith) (by linarith [rounded_nonneg (rounded (1 - rounded (1 - p)) *
      rounded (1 - rounded (1 - p)))]))
  split
  · have squared := square rest restUnit.2
    exact squared.1.in_unit squared.2
  · exact ⟨by decide, by decide⟩

theorem local_startup_sufficient : ∃ config projected, from_raw id (fun _ => true) localRaw = .ok config ∧
    for_cohort config ⟨"acceptance/f-agg", by decide⟩ = some projected ∧
    validate_aggregation_config projected = .ok () ∧
    ∀ now, ∃ pacer, Pacer.new now config.budget.db_share = .ok pacer := by
  obtain ⟨config, accepted⟩ := localRaw_accepted
  obtain ⟨configured, cohorts, paced⟩ := startup_sufficient id (fun _ => true) localRaw config smallBeta accepted
    fun n m percentile _ _ positive below => smallBeta_in_unit n m percentile positive below
  obtain ⟨cohort, named, member⟩ := configured "acceptance/f-agg" (Std.ExtTreeMap.mem_ofList.mpr (by decide))
  obtain ⟨projected, found, validated, _⟩ := cohorts ⟨"acceptance/f-agg", by decide⟩ member
  exact ⟨config, projected, accepted, found, validated, paced⟩

end VectorSeam.Startup
