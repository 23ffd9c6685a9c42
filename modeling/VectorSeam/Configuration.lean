import VectorSeam.Aggregate
import VectorSeam.Durations

/-!
The configuration of the tuner. `from_raw` applies the startup rules to a deserialised
configuration, one section after the other; `for_cohort` projects an accepted one for the
rounds of a cohort. A raw configuration is what the YAML reader delivers, so its numbers
are those of their types and its tables have no key twice. `debug` prints a text as the
error messages quote it.
-/

namespace VectorSeam.Configuration
open VectorSeam.Model VectorSeam.Estimators VectorSeam.Cohort VectorSeam.Text VectorSeam.Durations

def POSTGRES_IDENTIFIER_MAX_BYTES : Nat := 63

structure CalibrationConfig where
  interval : Duration
  ef_search : List Int
  train_fraction : Float
  split_seed : Nat

structure StorageConfig where
  root : String
  window_seconds : Nat

structure BudgetConfig where
  db_share : Float
  statement_timeout : Duration
  client_timeout : Duration

structure DataSourceConfig where
  server : String
  database : String
  user : String
  password_env : Option String

structure RawDataSourceConfig extends DataSourceConfig where
  /-- Whether there is a `password` key. -/
  password : Bool

structure IndexConfig where
  data_source : String
  table : String
  key : String
  column : String

structure TargetConfig where
  k : Nat
  value : Float
  percentile : Float
  selection_confidence : Float
  approval_confidence : Float
  window : Duration

structure CohortConfig where
  index : String
  target : String

/-- The sections are validated as they are; only data sources and cohorts change their form. -/
structure RawConfig where
  calibration : CalibrationConfig
  storage : StorageConfig
  budget : BudgetConfig
  data_sources : BTreeMap String RawDataSourceConfig
  indexes : BTreeMap String IndexConfig
  targets : BTreeMap String TargetConfig
  cohorts : BTreeMap String CohortConfig

structure Config where
  calibration : CalibrationConfig
  storage : StorageConfig
  budget : BudgetConfig
  data_sources : BTreeMap String DataSourceConfig
  indexes : BTreeMap String IndexConfig
  targets : BTreeMap String TargetConfig
  /-- By the text of their validated names. -/
  cohorts : BTreeMap String (CohortName × CohortConfig)

inductive ConfigError where
  | Yaml (error : String)
  | Validation (message : String)
deriving DecidableEq, Repr

/-- A startup rule. -/
def check (holds : Bool) (message : String) : Except ConfigError Unit :=
  if holds then .ok () else .error (.Validation message)

/-! ### The sections -/

def validate_calibration (config : CalibrationConfig) : Except ConfigError Unit := do
  check (!config.interval.is_zero) "calibration.interval must be greater than zero"
  check (config.ef_search ≠ []) "calibration.ef_search is required and non-empty"
  check (config.ef_search.IsChain (· < ·)) "calibration.ef_search must be strictly increasing"
  check (config.ef_search.all fun ef => MIN_EF_SEARCH ≤ ef && ef ≤ MAX_EF_SEARCH)
    ("calibration.ef_search values must be in " ++ toString MIN_EF_SEARCH ++ "..=" ++ toString MAX_EF_SEARCH)
  check (0.0 < config.train_fraction && config.train_fraction < 1.0) "calibration.train_fraction must be in (0, 1)"
  let split_threshold := round (config.train_fraction * 10000.0)
  check (1.0 ≤ split_threshold && split_threshold ≤ 9999.0)
    "calibration.train_fraction rounds to an empty train/holdout split"

def validate_storage (config : StorageConfig) : Except ConfigError Unit := do
  check (config.window_seconds ≠ 0) "storage.window_seconds must be greater than zero"
  check (config.window_seconds % 60 = 0) "storage.window_seconds must be a multiple of 60"

def validate_budget (config : BudgetConfig) : Except ConfigError Unit := do
  check (0.0 < config.db_share && config.db_share ≤ 1.0) "budget.db_share must be in (0, 1]"
  check (!config.statement_timeout.is_zero) "budget.statement_timeout must be greater than zero"
  check (!config.client_timeout.is_zero) "budget.client_timeout must be greater than zero"

/-- A colon somewhere before the first at sign. -/
def contains_inline_userinfo (value : String) : Bool :=
  value.toList.contains '@' && (value.toList.takeWhile (· ≠ '@')).contains ':'

section Messages
variable (debug : String → String) (password_env_exists : String → Bool)

/-- The loop over the data sources; `pairs` has the names of those passed, by server and database. -/
def validate_data_source_pairs (pairs : List ((String × String) × String)) :
    List (String × RawDataSourceConfig) → Except ConfigError Unit
  | [] => .ok ()
  | (name, data_source) :: rest => do
    check (!data_source.password)
      ("data source " ++ debug name ++ " contains inline password; use password_env")
    [("server", data_source.server), ("database", data_source.database), ("user", data_source.user)].forM
      fun (field, value) => check (!contains_inline_userinfo value)
        ("data source " ++ debug name ++ " " ++ field ++ " contains inline userinfo; use password_env")
    check (data_source.password_env.all password_env_exists)
      ("data source " ++ debug name ++ " password_env " ++ debug (data_source.password_env.getD "") ++ " is not present")
    let pair := (data_source.server, data_source.database)
    match pairs.lookup pair with
    | some existing => throw (.Validation ("data sources " ++ debug existing ++ " and " ++ debug name ++
        " duplicate (server, database) pair (" ++ debug data_source.server ++ ", " ++ debug data_source.database ++ ")"))
    | none => validate_data_source_pairs ((pair, name) :: pairs) rest

def validate_data_sources (data_sources : BTreeMap String RawDataSourceConfig) : Except ConfigError Unit :=
  validate_data_source_pairs debug password_env_exists [] data_sources.toList

def validate_postgres_identifier (index_name field identifier : String) : Except ConfigError Unit := do
  check (identifier ≠ "") ("index " ++ debug index_name ++ " " ++ field ++ " PostgreSQL identifier must not be empty")
  check (identifier.utf8ByteSize ≤ POSTGRES_IDENTIFIER_MAX_BYTES)
    ("index " ++ debug index_name ++ " " ++ field ++ " PostgreSQL identifier exceeds " ++
      toString POSTGRES_IDENTIFIER_MAX_BYTES ++ " bytes")
  check (!identifier.toList.contains '\x00')
    ("index " ++ debug index_name ++ " " ++ field ++ " PostgreSQL identifier contains NUL")

def validate_indexes (indexes : BTreeMap String IndexConfig) (data_sources : BTreeMap String RawDataSourceConfig) :
    Except ConfigError Unit :=
  indexes.toList.forM fun (name, index) => do
    check (data_sources.contains index.data_source)
      ("index " ++ debug name ++ " references unknown data source " ++ debug index.data_source)
    [("table", index.table), ("column", index.column), ("key", index.key)].forM
      fun (field, identifier) => validate_postgres_identifier debug name field identifier

def validate_targets (targets : BTreeMap String TargetConfig) (storage_window_seconds : Nat) :
    Except ConfigError Unit :=
  targets.toList.forM fun (name, target) => do
    check (target.k ≠ 0) ("target " ++ debug name ++ " k must be >= 1")
    check (0.0 < target.value && target.value ≤ 1.0) ("target " ++ debug name ++ " value must be in (0, 1]")
    check (0.0 < target.percentile && target.percentile < 1.0)
      ("target " ++ debug name ++ " percentile must be in (0, 1)")
    check (0.0 < target.selection_confidence && target.selection_confidence < 1.0)
      ("target " ++ debug name ++ " selection_confidence must be in (0, 1)")
    check (0.0 < target.approval_confidence && target.approval_confidence < 1.0)
      ("target " ++ debug name ++ " approval_confidence must be in (0, 1)")
    check (storage_window_seconds ≤ target.window.as_secs)
      ("target " ++ debug name ++ " window must be at least storage.window_seconds")
    check (target.window.subsec_nanos = 0 && target.window.as_secs % storage_window_seconds = 0)
      ("target " ++ debug name ++ " window must be a multiple of storage.window_seconds")

def validate_grid_against_targets (ef_search : List Int) (targets : BTreeMap String TargetConfig) :
    Except ConfigError Unit :=
  match ef_search.head? with
  | none => throw (.Validation "calibration.ef_search is required and non-empty")
  | some minimum => targets.toList.forM fun (name, target) =>
    check ((target.k : Int) ≤ minimum)
      ("calibration.ef_search minimum " ++ toString minimum ++ " is below target " ++ debug name ++ " k " ++
        toString target.k)

/-- The text of a rejected cohort name. -/
def error_text : CohortNameError → String
  | .Empty => "cohort name must not be empty"
  | .NameTooLong => "cohort name exceeds " ++ toString MAX_COHORT_NAME_BYTES ++ " bytes"
  | .NonAscii => "cohort name must be ASCII"
  | .TooManySegments => "cohort name has more than " ++ toString MAX_COHORT_SEGMENTS ++ " segments"
  | .EmptySegment => "cohort name must not contain empty segments"
  | .SegmentTooLong => "cohort segment exceeds " ++ toString MAX_COHORT_SEGMENT_BYTES ++ " bytes"
  | .DotSegment => "cohort segment must not be . or .."
  | .ReservedWindowSegment => "cohort segment must not start with window="
  | .InvalidSegment => "cohort segment contains invalid characters"

def validate_cohort (raw : RawConfig) (name : String) (cohort : CohortConfig) :
    Except ConfigError (String × CohortName × CohortConfig) := do
  let validated_name ← (CohortName.new name).mapError fun error =>
    .Validation ("cohort " ++ debug name ++ " is invalid: " ++ error_text error)
  check (raw.indexes.contains cohort.index)
    ("cohort " ++ debug name ++ " references unknown index " ++ debug cohort.index)
  check (raw.targets.contains cohort.target)
    ("cohort " ++ debug name ++ " references unknown target " ++ debug cohort.target)
  return (validated_name.name, validated_name, cohort)

def from_raw (raw : RawConfig) : Except ConfigError Config := do
  validate_calibration raw.calibration
  validate_storage raw.storage
  validate_budget raw.budget
  validate_data_sources debug password_env_exists raw.data_sources
  validate_indexes debug raw.indexes raw.data_sources
  validate_targets debug raw.targets raw.storage.window_seconds
  validate_grid_against_targets debug raw.calibration.ef_search raw.targets
  let cohorts ← raw.cohorts.toList.mapM fun (name, cohort) => validate_cohort debug raw name cohort
  return {
    calibration := raw.calibration
    storage := raw.storage
    budget := raw.budget
    data_sources := raw.data_sources.map fun _ data_source => data_source.toDataSourceConfig
    indexes := raw.indexes
    targets := raw.targets
    cohorts := Std.ExtTreeMap.ofList cohorts compare }

end Messages

/-- The projection of an accepted configuration for one cohort. -/
def for_cohort (config : Config) (cohort : CohortName) : Option AggregationConfig := do
  let (_, cohort_config) ← config.cohorts[cohort.name]?
  let index ← config.indexes[cohort_config.index]?
  let target ← config.targets[cohort_config.target]?
  return {
    cohort := cohort.name
    target_name := cohort_config.target
    index := cohort_config.index
    table := index.table
    column := index.column
    key := index.key
    k := target.k
    value := target.value
    percentile := target.percentile
    selection_confidence := target.selection_confidence
    approval_confidence := target.approval_confidence
    window_duration_seconds := target.window.as_secs
    storage_window_seconds := config.storage.window_seconds
    ef_grid := config.calibration.ef_search
    train_fraction := config.calibration.train_fraction
    split_seed := config.calibration.split_seed }

/-! ### Acceptance -/

@[simp] theorem check_ok {holds : Bool} {message : String} : check holds message = .ok () ↔ holds = true := by
  cases holds <;> simp [check]

structure CalibrationValid (config : CalibrationConfig) : Prop where
  interval : config.interval.is_zero = false
  nonempty : config.ef_search ≠ []
  ascending : config.ef_search.IsChain (· < ·)
  within : ∀ ef ∈ config.ef_search, MIN_EF_SEARCH ≤ ef ∧ ef ≤ MAX_EF_SEARCH
  fraction : 0.0 < config.train_fraction ∧ config.train_fraction < 1.0
  threshold : 1.0 ≤ round (config.train_fraction * 10000.0) ∧ round (config.train_fraction * 10000.0) ≤ 9999.0

theorem validate_calibration_ok {config : CalibrationConfig} :
    validate_calibration config = .ok () ↔ CalibrationValid config := by
  simp only [validate_calibration, Results.check_ok, check_ok, Bool.not_eq_true', decide_eq_true_eq, Bool.and_eq_true,
    List.all_eq_true]
  constructor
  · rintro ⟨interval, nonempty, ascending, within, fraction, threshold⟩
    exact ⟨interval, nonempty, ascending, within, fraction, threshold⟩
  · rintro ⟨interval, nonempty, ascending, within, fraction, threshold⟩
    exact ⟨interval, nonempty, ascending, within, fraction, threshold⟩

structure StorageValid (config : StorageConfig) : Prop where
  positive : config.window_seconds ≠ 0
  whole_minutes : config.window_seconds % 60 = 0

theorem validate_storage_ok {config : StorageConfig} : validate_storage config = .ok () ↔ StorageValid config := by
  simp only [validate_storage, Results.check_ok, check_ok, decide_eq_true_eq]
  exact ⟨fun ⟨positive, whole⟩ => ⟨positive, whole⟩, fun ⟨positive, whole⟩ => ⟨positive, whole⟩⟩

structure BudgetValid (config : BudgetConfig) : Prop where
  db_share : 0.0 < config.db_share ∧ config.db_share ≤ 1.0
  statement_timeout : config.statement_timeout.is_zero = false
  client_timeout : config.client_timeout.is_zero = false

theorem validate_budget_ok {config : BudgetConfig} : validate_budget config = .ok () ↔ BudgetValid config := by
  simp only [validate_budget, Results.check_ok, check_ok, decide_eq_true_eq, Bool.and_eq_true, Bool.not_eq_true']
  exact ⟨fun ⟨share, statement, client⟩ => ⟨share, statement, client⟩,
    fun ⟨share, statement, client⟩ => ⟨share, statement, client⟩⟩

structure TargetValid (storage_window_seconds : Nat) (target : TargetConfig) : Prop where
  k : target.k ≠ 0
  value : 0.0 < target.value ∧ target.value ≤ 1.0
  percentile : 0.0 < target.percentile ∧ target.percentile < 1.0
  selection_confidence : 0.0 < target.selection_confidence ∧ target.selection_confidence < 1.0
  approval_confidence : 0.0 < target.approval_confidence ∧ target.approval_confidence < 1.0
  one_window : storage_window_seconds ≤ target.window.as_secs
  whole_windows : target.window.subsec_nanos = 0 ∧ target.window.as_secs % storage_window_seconds = 0

theorem validate_targets_ok {debug : String → String} {targets : BTreeMap String TargetConfig}
    {storage_window_seconds : Nat} :
    validate_targets debug targets storage_window_seconds = .ok () ↔
      ∀ entry ∈ targets.toList, TargetValid storage_window_seconds entry.2 := by
  simp only [validate_targets, Results.forM_ok, Results.check_ok, check_ok, decide_eq_true_eq, Bool.and_eq_true]
  refine forall₂_congr fun entry _ => ⟨?_, ?_⟩
  · rintro ⟨k, value, percentile, selection, approval, one, whole⟩
    exact ⟨k, value, percentile, selection, approval, one, whole⟩
  · rintro ⟨k, value, percentile, selection, approval, one, whole⟩
    exact ⟨k, value, percentile, selection, approval, one, whole⟩

theorem validate_grid_against_targets_ok {ef_search : List Int} {debug : String → String}
    {targets : BTreeMap String TargetConfig} :
    validate_grid_against_targets debug ef_search targets = .ok () ↔
      ∃ minimum, ef_search.head? = some minimum ∧ ∀ entry ∈ targets.toList, (entry.2.k : Int) ≤ minimum := by
  unfold validate_grid_against_targets
  cases ef_search.head? with
  | none => simp [throw, throwThe, MonadExceptOf.throw]
  | some minimum => simp only [Results.forM_ok, check_ok, decide_eq_true_eq, Option.some.injEq, exists_eq_left']

/-- What acceptance says about the tables of a configuration. -/
structure Accepted (debug : String → String) (password_env_exists : String → Bool) (raw : RawConfig)
    (config : Config) : Prop where
  calibration : CalibrationValid config.calibration
  storage : StorageValid config.storage
  budget : BudgetValid config.budget
  targets : ∀ (name : String) (target : TargetConfig), config.targets[name]? = some target →
    TargetValid config.storage.window_seconds target ∧
      ∃ minimum, config.calibration.ef_search.head? = some minimum ∧ (target.k : Int) ≤ minimum
  sources_checked : validate_data_sources debug password_env_exists raw.data_sources = .ok ()
  data_sources : ∀ name : String,
    config.data_sources[name]? = raw.data_sources[name]?.map RawDataSourceConfig.toDataSourceConfig
  /-- The cohorts are the configured ones, under valid names, and their references resolve. -/
  configured : ∀ name ∈ raw.cohorts, name ∈ config.cohorts
  cohorts : ∀ (name : String) (cohort_name : CohortName) (cohort : CohortConfig),
    config.cohorts[name]? = some (cohort_name, cohort) →
      cohort_name.name = name ∧ cohort.index ∈ config.indexes ∧ cohort.target ∈ config.targets

theorem validate_cohort_ok {debug : String → String} {raw : RawConfig} {name : String} {cohort : CohortConfig}
    {result : String × CohortName × CohortConfig} (found : validate_cohort debug raw name cohort = .ok result) :
    ∃ cohort_name : CohortName, result = (name, cohort_name, cohort) ∧ cohort_name.name = name ∧
      cohort.index ∈ raw.indexes ∧ cohort.target ∈ raw.targets := by
  obtain ⟨cohort_name, named, rest⟩ := Results.bind_ok.mp found
  obtain ⟨index, rest⟩ := Results.check_ok.mp rest
  obtain ⟨target, built⟩ := Results.check_ok.mp rest
  obtain rfl := Except.ok.inj built
  have made : CohortName.new name = .ok cohort_name := by
    cases made : CohortName.new name with
    | ok value =>
      rw [made] at named
      exact congrArg Except.ok (Except.ok.inj named)
    | error error =>
      rw [made] at named
      cases named
  have same := CohortName.name_of_new made
  exact ⟨cohort_name, by rw [same], same, Std.ExtTreeMap.contains_iff_mem.mp (check_ok.mp index),
    Std.ExtTreeMap.contains_iff_mem.mp (check_ok.mp target)⟩

theorem from_raw_ok {debug : String → String} {password_env_exists : String → Bool} {raw : RawConfig} {config : Config}
    (accepted : from_raw debug password_env_exists raw = .ok config) : Accepted debug password_env_exists raw config := by
  obtain ⟨calibration, rest⟩ := Results.check_ok.mp accepted
  obtain ⟨storage, rest⟩ := Results.check_ok.mp rest
  obtain ⟨budget, rest⟩ := Results.check_ok.mp rest
  obtain ⟨sources, rest⟩ := Results.check_ok.mp rest
  obtain ⟨_, rest⟩ := Results.check_ok.mp rest
  obtain ⟨targets, rest⟩ := Results.check_ok.mp rest
  obtain ⟨grid, rest⟩ := Results.check_ok.mp rest
  obtain ⟨cohorts, listed, built⟩ := Results.bind_ok.mp rest
  obtain rfl := Except.ok.inj built
  obtain ⟨minimum, head, above⟩ := validate_grid_against_targets_ok.mp grid
  have names : cohorts.map Prod.fst = raw.cohorts.toList.map Prod.fst := by
    rw [← List.forall₂_eq_eq_eq, List.forall₂_map_left_iff, List.forall₂_map_right_iff]
    refine (Results.mapM_ok.mp listed).flip.imp fun result entry found => ?_
    obtain ⟨cohort_name, rfl, _⟩ := validate_cohort_ok found
    rfl
  have listing : (Std.ExtTreeMap.ofList cohorts compare).toList = cohorts := by
    refine SortedMaps.toList_ofList ?_
    have ordered : raw.cohorts.toList.Pairwise fun left right => compare left.1 right.1 = .lt :=
      Std.ExtTreeMap.ordered_keys_toList
    rw [← List.pairwise_map (f := Prod.fst) (R := fun left right => compare left right = .lt), ← names,
      List.pairwise_map] at ordered
    exact ordered
  refine {
    calibration := validate_calibration_ok.mp calibration
    storage := validate_storage_ok.mp storage
    budget := validate_budget_ok.mp budget
    targets := fun name target present => ?_
    sources_checked := sources
    data_sources := fun name => Std.ExtTreeMap.getElem?_map
    configured := fun name present => ?_
    cohorts := fun name cohort_name cohort present => ?_ }
  · have member := Std.ExtTreeMap.mem_toList_iff_getElem?_eq_some.mpr present
    exact ⟨validate_targets_ok.mp targets _ member, minimum, head, above _ member⟩
  · obtain ⟨cohort, found⟩ := Option.isSome_iff_exists.mp (Std.ExtTreeMap.isSome_getElem?_iff_mem.mpr present)
    have member := List.mem_map_of_mem (f := Prod.fst) (Std.ExtTreeMap.mem_toList_iff_getElem?_eq_some.mpr found)
    rw [← names, ← listing] at member
    exact Std.ExtTreeMap.isSome_getElem?_iff_mem.mp (Option.isSome_iff_exists.mpr (SortedMaps.mem_keys.mp member))
  · have member := Std.ExtTreeMap.mem_toList_iff_getElem?_eq_some.mpr present
    rw [listing] at member
    obtain ⟨entry, _, found⟩ := Results.mem_of_mapM listed member
    obtain ⟨validated_name, same, valid⟩ := validate_cohort_ok found
    obtain ⟨rfl, rest⟩ := Prod.mk.inj same
    obtain ⟨rfl, rfl⟩ := Prod.mk.inj rest
    exact valid

/-! ### A local configuration -/

def localSource : RawDataSourceConfig :=
  { server := "localhost:5432", database := "postgres", user := "postgres", password_env := none, password := false }
def localIndex : IndexConfig := { data_source := "primary", table := "docs_fixture", key := "doc_id", column := "embedding" }
def localTarget : TargetConfig :=
  { k := 20, value := 0.9, percentile := 0.95, selection_confidence := 0.98, approval_confidence := 0.9
    window := ⟨3600, 0, by decide, no_nanos⟩ }

def localRaw : RawConfig where
  calibration :=
    { interval := ⟨600, 0, by decide, no_nanos⟩, ef_search := [20, 40, 80, 160], train_fraction := 0.6, split_seed := 7 }
  storage := { root := "/tmp/vectorseam", window_seconds := 600 }
  budget :=
    { db_share := 0.1, statement_timeout := ⟨5, 0, by decide, no_nanos⟩
      client_timeout := ⟨10, 0, by decide, no_nanos⟩ }
  data_sources := .ofList [("primary", localSource)] compare
  indexes := .ofList [("fixture", localIndex)] compare
  targets := .ofList [("recall", localTarget)] compare
  cohorts := .ofList [("acceptance/f-agg", { index := "fixture", target := "recall" })] compare

theorem localRaw_accepted : ∃ config, from_raw id (fun _ => true) localRaw = .ok config := ⟨_, rfl⟩

/-- Two databases with an index and a cohort each; a round looks at one window of a minute. -/
def twinRaw : RawConfig where
  calibration :=
    { interval := ⟨60, 0, by decide, no_nanos⟩, ef_search := [1], train_fraction := 0.5, split_seed := 7 }
  storage := { root := "/tmp/vectorseam", window_seconds := 60 }
  budget := localRaw.budget
  data_sources := .ofList [("primary", localSource), ("replica", { localSource with server := "localhost:5433" })] compare
  indexes := .ofList [("docs", localIndex), ("items", { localIndex with data_source := "replica", table := "items" })] compare
  targets := .ofList [("recall",
    { k := 1, value := 0.5, percentile := 0.5, selection_confidence := 0.5, approval_confidence := 0.5
      window := ⟨60, 0, by decide, no_nanos⟩ })] compare
  cohorts := .ofList [("prod", { index := "docs", target := "recall" }), ("shadow", { index := "items", target := "recall" })] compare

end VectorSeam.Configuration
