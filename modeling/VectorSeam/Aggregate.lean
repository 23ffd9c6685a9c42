import VectorSeam.Population

/-!
One cohort round as a pure function of its inputs. `aggregate` runs in two halves,
in the source's order: `survey` accounts for the listed parts and intermediates and
validates the deduplicated population, `conclude` splits it, selects, and writes the
record with its effective block.
-/

namespace VectorSeam.Aggregate
open VectorSeam.Model VectorSeam.Estimators VectorSeam.Accounting VectorSeam.Population VectorSeam.SortedMaps
open VectorSeam.Window

/-! ### Config checks and fingerprints -/

/-- One startup invariant of an aggregation config, checked again here. -/
def require (holds : Bool) (reason : String) : Except AggregateError Unit :=
  if holds then .ok () else .error (.InvalidConfig reason)

def ef_grid_valid (config : AggregationConfig) : Bool :=
  decide (config.ef_grid ≠ [] ∧ config.ef_grid.IsChain (· < ·) ∧
    (if (config.k : Int) ≤ I32_MAX then (config.k : Int) else I32_MAX) ≤ config.ef_grid.headD 0 ∧
    ∀ ef ∈ config.ef_grid, ef ≤ MAX_EF_SEARCH)

def validate_aggregation_config (config : AggregationConfig) : Except AggregateError Unit := do
  require (config.storage_window_seconds ≠ 0) "storage_window_seconds must be greater than zero"
  require (config.storage_window_seconds % 60 = 0) "storage_window_seconds must be a multiple of 60"
  require (config.storage_window_seconds ≤ config.window_duration_seconds)
    "window duration must be at least one storage window"
  require (config.window_duration_seconds % config.storage_window_seconds = 0)
    "window duration must be a multiple of storage_window_seconds"
  require (config.k ≠ 0) "k must be >= 1"
  require (0.0 < config.value && config.value ≤ 1.0) "value must be in (0, 1]"
  require (0.0 < config.percentile && config.percentile < 1.0) "percentile must be in (0, 1)"
  require (0.0 < config.selection_confidence && config.selection_confidence < 1.0)
    "selection_confidence must be in (0, 1)"
  require (0.0 < config.approval_confidence && config.approval_confidence < 1.0) "approval_confidence must be in (0, 1)"
  require (ef_grid_valid config)
    ("ef_grid must be non-empty, strictly increasing, >= k, and <= " ++ toString MAX_EF_SEARCH)
  let _ ← math (split_threshold config.train_fraction)

def carry_fingerprint_matches (config : AggregationConfig) (previous : RoundOutput) : Bool :=
  previous.cohort == config.cohort && previous.index == config.index && previous.ef_grid == config.ef_grid &&
    previous.target.k == config.k && previous.target.value == config.value &&
    previous.target.percentile == config.percentile &&
    previous.target.selection_confidence == config.selection_confidence &&
    previous.target.approval_confidence == config.approval_confidence

def is_compatible (config : AggregationConfig) (part : IntermediatePart) : Bool :=
  let metadata := part.metadata
  metadata.format_version == 1 && metadata.k == config.k && metadata.index == config.index &&
    metadata.table == config.table && metadata.column == config.column && metadata.key == config.key &&
    metadata.ef_grid == config.ef_grid

/-! ### The survey of parts and population -/

/-- Intermediates by part ULID; one ULID with two contents is an error. The
    comparison is the derived one, so NaN differs from itself and the zeros agree. -/
def unique_intermediates (parts : List IntermediatePart) : Except AggregateError (BTreeMap String IntermediatePart) :=
  collect (fun _ => .ok true) (fun part => part.metadata.part_ulid) (fun existing part => !(existing == part))
    (fun part => .ConflictingIntermediate part.metadata.part_ulid) parts ∅

/-- The running state of the loop over intermediates. -/
structure Gathered where
  used : List IntermediatePart
  incompatible_parts : Nat
  measured : Nat
  failed : Nat

/-- Compatible intermediates of listed parts are used and counted, incompatible ones only counted. -/
def gather (config : AggregationConfig) (listed : BTreeMap String ListedPart) :
    List (String × IntermediatePart) → Gathered → Except AggregateError Gathered
  | [], gathered => .ok gathered
  | (part_ulid, intermediate) :: rest, gathered =>
    if part_ulid ∉ listed then gather config listed rest gathered
    else if ¬ is_compatible config intermediate then do
      let incompatible_parts ← ok_or (checked_add gathered.incompatible_parts 1) (.CounterOverflow "incompatible_parts")
      gather config listed rest { gathered with incompatible_parts }
    else do
      let measured ← ok_or (checked_add gathered.measured intermediate.metadata.measured_count)
        (.CounterOverflow "samples.measured")
      let failed ← ok_or (checked_add gathered.failed intermediate.metadata.failed_count)
        (.CounterOverflow "samples.failed")
      gather config listed rest { gathered with used := gathered.used ++ [intermediate], measured, failed }

def sum_available : List ListedPart → Nat → Except AggregateError Nat
  | [], total => .ok total
  | part :: rest, total => do
    if part.received_frame_count < part.record_count then throw (.InvalidPartCounts part.part_ulid)
    let total ← ok_or (checked_add total part.record_count) (.CounterOverflow "samples.available")
    sum_available rest total

/-- The samples of the used parts, each with its part's ULID. -/
def samples_of (used : List IntermediatePart) : List (String × MeasuredSample) :=
  used.flatMap fun part => part.samples.map fun sample => (part.metadata.part_ulid, sample)

/-- What the first half of an aggregation establishes. -/
structure Survey where
  lower : Nat
  listed : BTreeMap String ListedPart
  coverage : Coverage
  available : Nat
  drop_fraction : Float
  gathered : Gathered
  population : List PopulationSample

def survey (input : AggregationInput) : Except AggregateError Survey := do
  validate_aggregation_config input.config
  let expected_windows ← in_scope_window_starts input.round_end input.config.window_duration_seconds
    input.config.storage_window_seconds
  let lower ← ok_or (checked_sub input.round_end input.config.window_duration_seconds) .WindowUnderflow
  let listed ← unique_in_scope_parts input.listed_parts lower input.round_end
  let coverage := coverage expected_windows listed
  let listed_values := listed.toList.map Prod.snd
  let available ← sum_available listed_values 0
  let drop_fraction ← dropped_frame_fraction (listed_values.map fun part =>
    (part.part_ulid, part.received_frame_count, part.record_count))
  let intermediates ← unique_intermediates input.intermediates
  let gathered ← gather input.config listed intermediates.toList ⟨[], input.phase_a_incompatible_parts, 0, 0⟩
  let population := deduplicate_samples (samples_of gathered.used)
  validate_population population input.config.ef_grid
  return { lower, listed, coverage, available, drop_fraction, gathered, population }

/-! ### The decision -/

/-- The train and holdout samples, in population order. -/
def split (config : AggregationConfig) : List PopulationSample →
    Except AggregateError (List PopulationSample × List PopulationSample)
  | [] => .ok ([], [])
  | sample :: rest => do
    let in_train ← math (is_train_member sample.vector_hash config.split_seed config.train_fraction)
    let (train, test) ← split config rest
    if in_train then return (sample :: train, test) else return (train, sample :: test)

def effective_recommendation (config : AggregationConfig) (selection : Option CompletedSelection)
    (previous : Option EffectiveRecommendation) (source_round : String) : Option EffectiveRecommendation :=
  let carried := previous.map fun effective => { effective with carried := true }
  let fresh := fun recommended_ef confidence =>
    some ({ recommended_ef, confidence, source_round, carried := false } : EffectiveRecommendation)
  match selection with
  | none => carried
  | some selection =>
    if selection.status = .Ok ∧ config.approval_confidence ≤ selection.confidence then
      fresh selection.recommended_ef selection.confidence
    else carried

/-- Window formatting errors, as aggregation errors. -/
def window {α : Type} : Except WindowError α → Except AggregateError α
  | .ok value => .ok value
  | .error error => .error (.Window error)

/-- The effective block this round may carry. -/
def previous_effective (input : AggregationInput) : Option EffectiveRecommendation :=
  (input.previous_round.filter (carry_fingerprint_matches input.config)).bind (·.effective)

def ground_truth_latency_mean_ms (population : List PopulationSample) : Option Float :=
  if population = [] then none else some (mean (population.map (·.ground_truth_latency_ms)))

section Decision
variable (beta_reg : Float → Float → Float → Float)

/-- The selection of a round, absent when it lacks evidence: even an all-success
    split would not clear the assurance targets, or measuring was aborted. -/
def decide_selection (input : AggregationInput) (train test : List PopulationSample) :
    Except AggregateError (Option CompletedSelection) := do
  let config := input.config
  let train_confidence_ceiling ← math (compliance_confidence beta_reg train.length train.length config.percentile)
  let test_confidence_ceiling ← math (compliance_confidence beta_reg test.length test.length config.percentile)
  let insufficient := input.phase_a_abort.isSome || train.isEmpty || test.isEmpty ||
    train_confidence_ceiling < config.selection_confidence || test_confidence_ceiling < config.approval_confidence
  if insufficient then return none
  let selection ← select_and_validate beta_reg config train test
  return some selection

/-- The record of a round from what was decided about it. -/
def round_record (input : AggregationInput) (survey : Survey) (per_ef : List PerEfSummary)
    (train test : List PopulationSample) (selection : Option CompletedSelection) (window_start window_end : String) :
    RoundOutput :=
  let config := input.config
  let samples : SampleCounts := {
    available := survey.available
    measured := survey.gathered.measured
    failed := survey.gathered.failed
    unique := survey.population.length
    train := train.length
    test := test.length }
  { format_version := 1
    cohort := config.cohort
    computed_at := input.computed_at
    window := { start := window_start, finish := window_end, duration_seconds := config.window_duration_seconds }
    target := {
      name := config.target_name
      k := config.k
      value := config.value
      percentile := config.percentile
      selection_confidence := config.selection_confidence
      approval_confidence := config.approval_confidence }
    index := config.index
    ef_grid := config.ef_grid
    status := (selection.map (·.status)).getD .InsufficientSamples
    error := input.phase_a_abort.map PhaseAAbort.error_text
    recommended_ef := selection.map (·.recommended_ef)
    confidence := selection.map (·.confidence)
    train_confidence := selection.map (·.train_confidence)
    train_compliance := selection.map (·.train_compliance)
    train_quantile_recall := selection.map (·.train_quantile)
    test_compliance := selection.map (·.test_compliance)
    test_quantile_recall := selection.map (·.test_quantile)
    effective := effective_recommendation config selection (previous_effective input) window_end
    samples
    dropped_frame_fraction := survey.drop_fraction
    coverage := survey.coverage
    parts_used := survey.gathered.used.length
    incompatible_parts := survey.gathered.incompatible_parts
    ground_truth_latency_mean_ms := ground_truth_latency_mean_ms survey.population
    per_ef }

def conclude (input : AggregationInput) (survey : Survey) : Except AggregateError RoundOutput := do
  let per_ef ← per_ef_summaries survey.population input.config
  let (train, test) ← split input.config survey.population
  let selection ← decide_selection beta_reg input train test
  let window_end ← window (iso8601_seconds input.round_end)
  let window_start ← window (iso8601_seconds survey.lower)
  return round_record input survey per_ef train test selection window_start window_end

/-- Aggregates one cohort round. -/
def aggregate (input : AggregationInput) : Except AggregateError RoundOutput := do
  let survey ← survey input
  conclude beta_reg input survey

end Decision

/-! ### Valid configs -/

/-- The startup invariants of an aggregation config. -/
structure ConfigValid (config : AggregationConfig) : Prop where
  storage_positive : config.storage_window_seconds ≠ 0
  whole_minutes : config.storage_window_seconds % 60 = 0
  one_window : config.storage_window_seconds ≤ config.window_duration_seconds
  whole_windows : config.window_duration_seconds % config.storage_window_seconds = 0
  k_positive : config.k ≠ 0
  value_bounds : 0.0 < config.value ∧ config.value ≤ 1.0
  percentile_bounds : 0.0 < config.percentile ∧ config.percentile < 1.0
  selection_bounds : 0.0 < config.selection_confidence ∧ config.selection_confidence < 1.0
  approval_bounds : 0.0 < config.approval_confidence ∧ config.approval_confidence < 1.0
  grid_valid : ef_grid_valid config = true
  split_valid : ∃ threshold, split_threshold config.train_fraction = .ok threshold

private theorem require_ok {holds : Bool} {reason : String} : require holds reason = .ok () ↔ holds = true := by
  cases holds <;> simp [require]

theorem validate_aggregation_config_ok {config : AggregationConfig} :
    validate_aggregation_config config = .ok () ↔ ConfigValid config := by
  unfold validate_aggregation_config
  simp only [Results.check_ok]
  simp only [Results.bind_ok, require_ok, math_ok, decide_eq_true_eq, Bool.and_eq_true]
  constructor
  · rintro ⟨h₁, h₂, h₃, h₄, h₅, h₆, h₇, h₈, h₉, h₁₀, threshold, h₁₁, _⟩
    exact ⟨h₁, h₂, h₃, h₄, h₅, h₆, h₇, h₈, h₉, h₁₀, threshold, h₁₁⟩
  · intro valid
    obtain ⟨threshold, found⟩ := valid.split_valid
    exact ⟨valid.storage_positive, valid.whole_minutes, valid.one_window, valid.whole_windows, valid.k_positive,
      valid.value_bounds, valid.percentile_bounds, valid.selection_bounds, valid.approval_bounds, valid.grid_valid,
      threshold, found, rfl⟩

theorem ConfigValid.grid_chain {config : AggregationConfig} (valid : ConfigValid config) :
    config.ef_grid ≠ [] ∧ config.ef_grid.Pairwise (· < ·) := by
  have grid := valid.grid_valid
  simp only [ef_grid_valid, decide_eq_true_eq] at grid
  exact ⟨grid.1, List.isChain_iff_pairwise.mp grid.2.1⟩

/-! ### The split -/

def in_train (config : AggregationConfig) (sample : PopulationSample) : Bool :=
  decide (is_train_member sample.vector_hash config.split_seed config.train_fraction = .ok true)

theorem split_ok {config : AggregationConfig} {population train test : List PopulationSample}
    (found : split config population = .ok (train, test)) :
    train = population.filter (in_train config) ∧ test = population.filter fun sample => !in_train config sample := by
  induction population generalizing train test with
  | nil => simpa [split, eq_comm] using found
  | cons sample rest ih =>
    obtain ⟨member, computed, later⟩ := Results.bind_ok.mp found
    obtain ⟨⟨trainRest, testRest⟩, restFound, built⟩ := Results.bind_ok.mp later
    obtain ⟨rfl, rfl⟩ := ih restFound
    have decided := math_ok.mp computed
    cases member with
    | true =>
      simp only [↓reduceIte] at built
      obtain ⟨rfl, rfl⟩ := Prod.mk.inj (Except.ok.inj built)
      simp [in_train, decided]
    | false =>
      simp only [Bool.false_eq_true, ↓reduceIte] at built
      obtain ⟨rfl, rfl⟩ := Prod.mk.inj (Except.ok.inj built)
      simp [in_train, decided]

/-- The train and holdout samples of a population. -/
def trainOf (config : AggregationConfig) (population : List PopulationSample) : List PopulationSample :=
  population.filter (in_train config)
def holdoutOf (config : AggregationConfig) (population : List PopulationSample) : List PopulationSample :=
  population.filter fun sample => !in_train config sample

theorem window_ok {α : Type} {result : Except WindowError α} {value : α} :
    window result = .ok value ↔ result = .ok value := by
  cases result with
  | ok found => simp [window]
  | error error => simp [window]

/-- A concluded round is its record, over the split population and the decided selection. -/
theorem conclude_ok {beta_reg : Float → Float → Float → Float} {input : AggregationInput} {survey : Survey}
    {output : RoundOutput} (found : conclude beta_reg input survey = .ok output) :
    ∃ per_ef selection window_start window_end, per_ef_summaries survey.population input.config = .ok per_ef ∧
      decide_selection beta_reg input (trainOf input.config survey.population)
        (holdoutOf input.config survey.population) = .ok selection ∧
      iso8601_seconds input.round_end = .ok window_end ∧
      output = round_record input survey per_ef (trainOf input.config survey.population)
        (holdoutOf input.config survey.population) selection window_start window_end := by
  obtain ⟨per_ef, summarised, rest⟩ := Results.bind_ok.mp found
  obtain ⟨⟨train, test⟩, splitFound, rest⟩ := Results.bind_ok.mp rest
  obtain ⟨selection, decided, rest⟩ := Results.bind_ok.mp rest
  obtain ⟨window_end, ended, rest⟩ := Results.bind_ok.mp rest
  obtain ⟨window_start, _, built⟩ := Results.bind_ok.mp rest
  obtain ⟨rfl, rfl⟩ := split_ok splitFound
  exact ⟨per_ef, selection, window_start, window_end, summarised, decided, window_ok.mp ended,
    (Except.ok.inj built).symm⟩

/-! ### The survey of listed parts -/

/-- Adds up compatible intermediates of listed parts, in ULID order. -/
theorem gather_used {config : AggregationConfig} {listed : BTreeMap String ListedPart}
    {entries : List (String × IntermediatePart)} {before after : Gathered}
    (found : gather config listed entries before = .ok after) :
    after.used = before.used ++
      (entries.filter fun entry => decide (entry.1 ∈ listed) && is_compatible config entry.2).map Prod.snd := by
  induction entries generalizing before with
  | nil => obtain rfl := Except.ok.inj found; simp
  | cons entry rest ih =>
    obtain ⟨part_ulid, intermediate⟩ := entry
    unfold gather at found
    by_cases unlisted : part_ulid ∉ listed
    · rw [if_pos unlisted] at found
      simp [ih found, unlisted]
    rw [if_neg unlisted] at found
    by_cases incompatible : ¬is_compatible config intermediate
    · rw [if_pos incompatible] at found
      obtain ⟨total, _, later⟩ := Results.bind_ok.mp found
      simp [ih later, incompatible]
    · rw [if_neg incompatible] at found
      obtain ⟨measured, _, later⟩ := Results.bind_ok.mp found
      obtain ⟨failed, _, later⟩ := Results.bind_ok.mp later
      simp [ih later, not_not.mp unlisted, not_not.mp incompatible]

/-- A listed header whose window lies inside the rolling window. -/
def InScope (input : AggregationInput) (header : ListedPart) : Prop :=
  input.round_end - input.config.window_duration_seconds ≤ header.window_start ∧
    header.window_start + header.window_seconds ≤ input.round_end

/-- What a successful survey read and computed. -/
structure Surveyed (input : AggregationInput) (survey : Survey) : Prop where
  valid : ConfigValid input.config
  listed : Files (in_scope survey.lower input.round_end) ListedPart.part_ulid input.listed_parts survey.listed
  judged : ∀ header ∈ input.listed_parts, ∃ judged, in_scope survey.lower input.round_end header = .ok judged
  lower : survey.lower = input.round_end - input.config.window_duration_seconds
  intermediates : ∃ intermediates, unique_intermediates input.intermediates = .ok intermediates ∧
    survey.gathered.used = (intermediates.toList.filter fun entry =>
      decide (entry.1 ∈ survey.listed) && is_compatible input.config entry.2).map Prod.snd
  population : survey.population = deduplicate_samples (samples_of survey.gathered.used)
  validated : validate_population survey.population input.config.ef_grid = .ok ()

theorem listed_faithful (parts : List ListedPart) :
    Faithful (fun existing part => decide (existing ≠ part)) parts := by
  intro left _ right _
  simp

theorem survey_ok {input : AggregationInput} {result : Survey} (found : survey input = .ok result) :
    Surveyed input result := by
  obtain ⟨valid, rest⟩ := Results.check_ok.mp found
  obtain ⟨expected, _, rest⟩ := Results.bind_ok.mp rest
  obtain ⟨lower, lowerFound, rest⟩ := Results.bind_ok.mp rest
  obtain ⟨listed, listedFound, rest⟩ := Results.bind_ok.mp rest
  obtain ⟨available, _, rest⟩ := Results.bind_ok.mp rest
  obtain ⟨drops, _, rest⟩ := Results.bind_ok.mp rest
  obtain ⟨intermediates, unique, rest⟩ := Results.bind_ok.mp rest
  obtain ⟨gathered, gatheredFound, rest⟩ := Results.bind_ok.mp rest
  obtain ⟨validated, built⟩ := Results.check_ok.mp rest
  obtain rfl := Except.ok.inj built
  have bound := (checked_sub_eq_some.mp (ok_or_ok.mp lowerFound)).2
  exact ⟨validate_aggregation_config_ok.mp valid, ((collect_ok_iff (listed_faithful _)).mp listedFound).2,
    collect_judged listedFound, bound, ⟨intermediates, unique, by simpa using gather_used gatheredFound⟩, rfl, validated⟩

private theorem in_scope_iff {input : AggregationInput} {header : ListedPart} (fits : ∃ judged, in_scope
    (input.round_end - input.config.window_duration_seconds) input.round_end header = .ok judged) :
    in_scope (input.round_end - input.config.window_duration_seconds) input.round_end header = .ok true ↔
      InScope input header := by
  obtain ⟨judged, found⟩ := fits
  unfold in_scope at found ⊢
  cases finish : checked_add header.window_start header.window_seconds with
  | none => rw [finish] at found; cases found
  | some part_end =>
    obtain ⟨rfl, _⟩ := checked_add_eq_some.mp finish
    simp [InScope]

/-- The listed ULIDs are those of the headers in scope. -/
theorem Surveyed.mem_listed {input : AggregationInput} {survey : Survey} (surveyed : Surveyed input survey)
    (ulid : String) : ulid ∈ survey.listed ↔
      ∃ header ∈ input.listed_parts, header.part_ulid = ulid ∧ InScope input header := by
  have judged := surveyed.judged
  have listed := surveyed.listed
  rw [surveyed.lower] at judged listed
  rw [Std.ExtTreeMap.mem_iff_isSome_getElem?, Option.isSome_iff_exists]
  constructor
  · rintro ⟨header, filed⟩
    obtain ⟨member, admitted, same⟩ := (listed ulid header).mp filed
    exact ⟨header, member, same, (in_scope_iff (judged header member)).mp admitted⟩
  · rintro ⟨header, member, same, inside⟩
    exact ⟨header, (listed ulid header).mpr ⟨member, (in_scope_iff (judged header member)).mpr inside, same⟩⟩

/-! ### Pairs filed under their own ULIDs -/

theorem unique_intermediates_values {filed : BTreeMap String IntermediatePart}
    (keyed : ∀ entry ∈ filed.toList, entry.2.metadata.part_ulid = entry.1) :
    unique_intermediates (filed.toList.map Prod.snd) = .ok filed :=
  collect_values keyed fun _ _ => rfl

/-- When every pair is listed and compatible, all of them are used and none is counted as incompatible. -/
theorem gather_all {config : AggregationConfig} {listed : BTreeMap String ListedPart}
    {entries : List (String × IntermediatePart)} {before after : Gathered}
    (found : gather config listed entries before = .ok after)
    (usable : ∀ entry ∈ entries, entry.1 ∈ listed ∧ is_compatible config entry.2 = true) :
    after.used = before.used ++ entries.map Prod.snd ∧ after.incompatible_parts = before.incompatible_parts := by
  induction entries generalizing before with
  | nil => obtain rfl := Except.ok.inj found; simp
  | cons entry rest ih =>
    obtain ⟨part_ulid, intermediate⟩ := entry
    obtain ⟨present, compatible⟩ := usable (part_ulid, intermediate) (by simp)
    unfold gather at found
    rw [if_neg (not_not.mpr present), if_neg (not_not.mpr compatible)] at found
    obtain ⟨measured, _, later⟩ := Results.bind_ok.mp found
    obtain ⟨failed, _, later⟩ := Results.bind_ok.mp later
    obtain ⟨used, incompatible⟩ := ih later fun other member => usable other (List.mem_cons_of_mem _ member)
    exact ⟨by simp [used], incompatible⟩

/-- A survey of pairs that are all in scope and compatible uses each of them and finds none incompatible. -/
theorem survey_all_used {input : AggregationInput} {surveyed : Survey} {filed : BTreeMap String IntermediatePart}
    (found : survey input = .ok surveyed) (intermediates : input.intermediates = filed.toList.map Prod.snd)
    (keyed : ∀ entry ∈ filed.toList, entry.2.metadata.part_ulid = entry.1)
    (compatible : ∀ entry ∈ filed.toList, is_compatible input.config entry.2 = true)
    (listed : ∀ entry ∈ filed.toList, ∃ header ∈ input.listed_parts, header.part_ulid = entry.1 ∧ InScope input header) :
    surveyed.gathered.used = filed.toList.map Prod.snd ∧
      surveyed.gathered.incompatible_parts = input.phase_a_incompatible_parts := by
  have known := survey_ok found
  obtain ⟨_, rest⟩ := Results.check_ok.mp found
  obtain ⟨expected, _, rest⟩ := Results.bind_ok.mp rest
  obtain ⟨lower, lowerFound, rest⟩ := Results.bind_ok.mp rest
  obtain ⟨listing, listedFound, rest⟩ := Results.bind_ok.mp rest
  obtain ⟨available, _, rest⟩ := Results.bind_ok.mp rest
  obtain ⟨drops, _, rest⟩ := Results.bind_ok.mp rest
  obtain ⟨unique, uniqueFound, rest⟩ := Results.bind_ok.mp rest
  obtain ⟨gathered, gatheredFound, rest⟩ := Results.bind_ok.mp rest
  obtain ⟨_, built⟩ := Results.check_ok.mp rest
  obtain rfl := Except.ok.inj built
  rw [intermediates, unique_intermediates_values keyed] at uniqueFound
  obtain rfl := Except.ok.inj uniqueFound
  obtain ⟨used, incompatible⟩ := gather_all gatheredFound fun entry member =>
    ⟨(known.mem_listed entry.1).mpr (listed entry member), compatible entry member⟩
  exact ⟨by rw [used, List.nil_append], incompatible⟩

/-! ### A small round -/

/-- The regularised incomplete beta function at the arguments that splits of at most
    one sample reach. -/
def smallBeta (a b x : Float) : Float :=
  if a == 1.0 && b == 1.0 then x
  else if a == 1.0 && b == 2.0 then 1.0 - (1.0 - x) * (1.0 - x)
  else if a == 2.0 && b == 1.0 then x * x
  else 0.0

def smallConfig : AggregationConfig :=
  { cohort := "prod", target_name := "default", index := "items", table := "items", column := "embedding", key := "id",
    k := 1, value := 0.5, percentile := 0.5, selection_confidence := 0.5, approval_confidence := 0.5,
    window_duration_seconds := 60, storage_window_seconds := 60, ef_grid := [1, 2], train_fraction := 0.5, split_seed := 7 }
def smallMetadata : IntermediateMetadata :=
  { format_version := 1, cohort := "prod", part_ulid := "A", window_start := 60, window_seconds := 60,
    received_frame_count := 2, record_count := 2, index := "items", table := "items", column := "embedding", key := "id",
    k := 1, ef_grid := [1, 2], failed_count := 0, measured_count := 2, computed_at_us := 1 }
def smallSample (record_index : Int) (vector_hash : UInt64) (latency : Float) : MeasuredSample :=
  { record_index, vector_hash, dup_count := 1, ground_truth_latency_ms := latency,
    sweeps := Std.ExtTreeMap.ofList [(1, ⟨1.0, 1.0⟩), (2, ⟨1.0, 2.0⟩)] compare }
/-- One part of two samples, of which the split trains on the second. -/
def smallPart : IntermediatePart := ⟨smallMetadata, [smallSample 0 0 1.0, smallSample 1 1 1.0]⟩
def smallInput : AggregationInput :=
  { config := smallConfig, round_end := 120, computed_at := "1970-01-01T00:02:05Z", phase_a_abort := none,
    phase_a_incompatible_parts := 0, previous_round := none, listed_parts := [⟨"A", 60, 60, 2, 2⟩],
    intermediates := [smallPart] }
def smallOutput : RoundOutput :=
  { format_version := 1, cohort := "prod", computed_at := "1970-01-01T00:02:05Z",
    window := ⟨"1970-01-01T00:01:00Z", "1970-01-01T00:02:00Z", 60⟩, target := ⟨"default", 1, 0.5, 0.5, 0.5, 0.5⟩,
    index := "items", ef_grid := [1, 2], status := .Ok, error := none, recommended_ef := some 1, confidence := some 0.75,
    train_confidence := some 0.75, train_compliance := some 1.0, train_quantile_recall := some 1.0,
    test_compliance := some 1.0, test_quantile_recall := some 1.0,
    effective := some ⟨1, 0.75, "1970-01-01T00:02:00Z", false⟩, samples := ⟨2, 2, 0, 2, 1, 1⟩,
    dropped_frame_fraction := 0.0, coverage := ⟨0.0, 1, 1⟩, parts_used := 1, incompatible_parts := 0,
    ground_truth_latency_mean_ms := some 1.0, per_ef := [⟨1, 1.0, 1.0, 1.0⟩, ⟨2, 1.0, 1.0, 2.0⟩] }

theorem smallInput_published : aggregate smallBeta smallInput = .ok smallOutput := by decide +kernel

end VectorSeam.Aggregate
