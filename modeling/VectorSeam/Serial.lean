import VectorSeam.Losses
import VectorSeam.Portions
import VectorSeam.Calibrations

/-!
A round of the tuner as the rounds of its cohorts, one after the other. However the database
answers, each of them is a run of `run_cohort_round` over the store that the one before has
left, so that what is proved of cohort rounds holds of those that the tuner runs. With an
accepted configuration none of the reasons for a missing value occurs.
-/

namespace VectorSeam.Serial
open VectorSeam.Model VectorSeam.Cohort VectorSeam.ObjectStore VectorSeam.Effects VectorSeam.Programs VectorSeam.Estimators
open VectorSeam.Durations VectorSeam.Configuration VectorSeam.Intermediate VectorSeam.Pipeline VectorSeam.Database VectorSeam.Endpoints
open VectorSeam.Handlers VectorSeam.Typestates VectorSeam.Connections VectorSeam.Tuner VectorSeam.Lines VectorSeam.Losses
open VectorSeam.Portions VectorSeam.Calibrations VectorSeam.Aggregate

variable {B : Type}

/-! ### The abstract round -/

section Spec
variable (codec : Codec B) (beta_reg : Float → Float → Float → Float) (config : Config) (timestamps : RoundTimestamps)

/-- A round of a cohort over a store, as far as it gets. -/
def CohortRuns (cohort : CohortName) (objects : Objects B) (outcome : Outcome PipelineError CohortRoundOutcome)
    (objects' : Objects B) : Prop :=
  ∃ projected log image, for_cohort config cohort = some projected ∧
    Runs answer (run_cohort_round codec beta_reg projected timestamps.round_end timestamps.computed_at
      timestamps.computed_at_us) ⟨objects, log⟩ outcome image ∧ image.objects = objects'

/-- The rounds of some cohorts one after the other, with the report they give, if they are not stopped. -/
inductive Rounds : List CohortName → Objects B → RoundRunReport → Option RoundRunReport → Objects B → Prop where
  | done (objects report) : Rounds [] objects report (some report) objects
  | stopped (cohorts objects report) : Rounds cohorts objects report none objects
  | cancelled (cohort rest objects report) : Rounds (cohort :: rest) objects report (some report.cancel) objects
  | published {cohort rest objects report output objects' report' objects''}
      (run : CohortRuns codec beta_reg config timestamps cohort objects (.returned (.Published output)) objects')
      (later : Rounds rest objects' (report.publish cohort.name output) report' objects'') :
      Rounds (cohort :: rest) objects report report' objects''
  | aborted {cohort rest objects report error objects' report' objects''}
      (run : CohortRuns codec beta_reg config timestamps cohort objects (.failed error) objects')
      (later : Rounds rest objects' (report.fail cohort.name (.Aborted error)) report' objects'') :
      Rounds (cohort :: rest) objects report report' objects''
  | cancelled_within {cohort rest objects report objects'}
      (run : CohortRuns codec beta_reg config timestamps cohort objects (.returned .Cancelled) objects') :
      Rounds (cohort :: rest) objects report (some report.cancel) objects'
  | stopped_within {cohort rest objects report objects'}
      (run : CohortRuns codec beta_reg config timestamps cohort objects .stopped objects') :
      Rounds (cohort :: rest) objects report none objects'

end Spec

/-! ### What the tuner does to the store -/

/-- An effect that cannot change the store. -/
def Quiet : TunerEffect B → Prop
  | .round _ => False
  | .tick _ => False
  | _ => True

theorem quiet_objects {world : TunerWorld B} {choice : TunerChoice B} {effect : TunerEffect B} (quiet : Quiet effect) :
    (tuner_answer world choice effect).2.objects = world.objects := by
  cases effect with
  | round effect => exact quiet.elim
  | tick deadline => exact quiet.elim
  | _ => rfl

theorem performs_quiet {ε α : Type} {program : Prog (TunerEffect B) TunerReply ε α} {world world' : TunerWorld B}
    {outcome : Outcome ε α} (performs : Performs Quiet program) (run : Runs tuner_answer program world outcome world') :
    world'.objects = world.objects := by
  refine performs.preserves (fun state => state.objects = world.objects) ?_ run rfl
  intro state choice effect quiet same
  rw [quiet_objects quiet, same]

section Programs
variable {name : String} {debug : String → String} {debug_duration : Duration → String}

theorem abandon_quiet : Performs Quiet (abandon name : TunerProgram B (Except DatabaseConnectionError Unit)) :=
  performs_bind (performs_perform trivial) fun _ => performs_pure

theorem measure_sample_quiet (runtime : DataSourceRuntime) (vector : List UInt32) (config : AggregationConfig) :
    Performs Quiet (measure_sample debug_duration name vector config runtime :
      TunerProgram B (Except SampleMeasureError SampleMeasurement × DataSourceRuntime)) := by
  cases runtime with
  | Unavailable error => exact performs_pure
  | Connected connection =>
    refine performs_bind (performs_bind (performs_perform trivial) fun cancelled => ?_) fun measured => ?_
    · cases cancelled with
      | true => exact performs_pure
      | false =>
        refine performs_bind (performs_perform trivial) fun started => ?_
        refine performs_bind (performs_serve (performs_any _) (fun _ operation _ => ?_) ()) fun result => ?_
        · exact performs_bind (performs_perform trivial) fun reply => performs_pure
        · refine performs_bind (performs_perform trivial) fun finished => performs_bind (performs_perform trivial) fun now => ?_
          split
          · trivial
          · exact performs_pure
    · dsimp only
      split
      · exact performs_bind abandon_quiet fun _ => performs_pure
      · exact performs_pure

end Programs

/-! ### Cohort rounds -/

/-- The answer to a request depends on the store only. -/
theorem answer_same (left right : World B) (same : left.objects = right.objects) (choice : Choice) (effect : Effect B) :
    (answer left choice effect).1 = (answer right choice effect).1 ∧
      (answer left choice effect).2.objects = (answer right choice effect).2.objects := by
  cases effect with
  | list lead => exact ⟨by simp only [answer, same], same⟩
  | get path => exact ⟨by simp only [answer, same], same⟩
  | put path body => exact ⟨rfl, by simp only [answer, World.upload, same]⟩
  | measure_sample vector config => exact ⟨rfl, same⟩
  | is_cancelled => exact ⟨rfl, same⟩

section Simulation
variable {debug_duration : Duration → String} {codec : Codec B} {beta_reg : Float → Float → Float → Float}
  {timestamps : RoundTimestamps}

/-- The answer of the tuner to a request of a cohort round is one that the round could have been given. -/
theorem request_simulates (name : String) (runtime : DataSourceRuntime) (effect : Effect B) (world : TunerWorld B)
    (image : World B) (same : image.objects = world.objects) :
    Triple tuner_answer (· = world) (request debug_duration name runtime effect)
      (fun answered world' => ∃ choice, (answer image choice effect).1 = answered.1 ∧
        (answer image choice effect).2.objects = world'.objects)
      (fun world' => image.objects = world'.objects) := by
  have passed : ∀ asked : Effect B, Triple tuner_answer (· = world)
      (do
        let reply ← Prog.perform (.round asked)
        return (reply, runtime) : TunerProgram B (Reply asked × DataSourceRuntime))
      (fun answered world' => ∃ choice, (answer image choice asked).1 = answered.1 ∧
        (answer image choice asked).2.objects = world'.objects) (fun world' => image.objects = world'.objects) := by
    intro asked
    refine triple_bind _ (triple_perform (fun state here => here ▸ same) ?_) fun reply => triple_pure fun _ holds => holds
    rintro _ choice rfl
    exact ⟨choice.round, answer_same image ⟨_, []⟩ same choice.round asked⟩
  cases effect with
  | list lead => exact passed (.list lead)
  | get path => exact passed (.get path)
  | put path body => exact passed (.put path body)
  | is_cancelled => exact passed .is_cancelled
  | measure_sample vector config =>
    rintro _ outcome world' rfl run
    have unchanged := performs_quiet (measure_sample_quiet runtime vector config) run
    cases outcome with
    | returned answered =>
      exact ⟨⟨.ok [], .intact, .done, answered.1, false⟩, rfl, same.trans unchanged.symm⟩
    | failed error => exact same.trans unchanged.symm
    | stopped => exact same.trans unchanged.symm

/-- A cohort's round on the tuner is a run of the cohort round, stopped where the tuner was. -/
theorem run_cohort_simulates (cohort : CohortRuntime) (world : TunerWorld B) (log : List (Event B)) :
    Triple tuner_answer (· = world) (run_cohort debug_duration codec beta_reg timestamps cohort)
      (fun result world' => ∃ image, Runs answer (run_cohort_round codec beta_reg cohort.config timestamps.round_end
        timestamps.computed_at timestamps.computed_at_us) ⟨world.objects, log⟩ (ending result.1) image ∧
        image.objects = world'.objects)
      (fun world' => ∃ image, Runs answer (run_cohort_round codec beta_reg cohort.config timestamps.round_end
        timestamps.computed_at timestamps.computed_at_us) ⟨world.objects, log⟩ .stopped image ∧
        image.objects = world'.objects) :=
  serve_simulates (fun _ world image => image.objects = world.objects)
    (fun runtime effect world image same => request_simulates cohort.data_source runtime effect world image same) _ _ rfl

end Simulation

/-! ### The rounds of all cohorts -/

section Tuner
variable {debug : String → String} {debug_duration : Duration → String} {password_env_exists : String → Bool}
  {codec : Codec B} {beta_reg : Float → Float → Float → Float} {timestamps : RoundTimestamps} {raw : RawConfig}
  {config : Config} {data_sources : DataSources}

/-- The data source of every index is configured. -/
theorem index_sources (accepted : from_raw debug password_env_exists raw = .ok config) {name : String} {index : IndexConfig}
    (present : config.indexes[name]? = some index) : index.data_source ∈ config.data_sources := by
  have checked := accepted
  obtain ⟨_, checked⟩ := Results.check_ok.mp checked
  obtain ⟨_, checked⟩ := Results.check_ok.mp checked
  obtain ⟨_, checked⟩ := Results.check_ok.mp checked
  obtain ⟨_, checked⟩ := Results.check_ok.mp checked
  obtain ⟨indexes, checked⟩ := Results.check_ok.mp checked
  obtain ⟨_, checked⟩ := Results.check_ok.mp checked
  obtain ⟨_, checked⟩ := Results.check_ok.mp checked
  obtain ⟨cohorts, _, built⟩ := Results.bind_ok.mp checked
  obtain rfl := Except.ok.inj built
  have member := Std.ExtTreeMap.mem_toList_iff_getElem?_eq_some.mpr present
  obtain ⟨known, _⟩ := Results.check_ok.mp (Results.forM_ok.mp indexes _ member)
  exact Std.ExtTreeMap.mem_map.mpr (Std.ExtTreeMap.contains_iff_mem.mp (check_ok.mp known))

/-- The tuner has something of every configured data source. -/
def Covers (config : Config) (data_sources : DataSources) : Prop :=
  ∀ name, name ∈ config.data_sources → name ∈ data_sources

theorem Covers.insert (covers : Covers config data_sources) (name : String) (runtime : DataSourceRuntime) :
    Covers config (data_sources.insert name runtime) :=
  fun other configured => Std.ExtTreeMap.mem_insert.mpr (.inr (covers other configured))

/-- A configured cohort always has what its round needs. -/
theorem cohort_runtime_found (accepted : from_raw debug password_env_exists raw = .ok config)
    (covers : Covers config data_sources) {cohort : CohortName} (configured : cohort.name ∈ config.cohorts) :
    ∃ found, cohort_runtime config data_sources cohort = .ok found ∧ for_cohort config cohort = some found.config := by
  have valid := from_raw_ok accepted
  obtain ⟨projected, projection⟩ := Startup.for_cohort_some valid configured
  obtain ⟨⟨cohort_name, cohort_config⟩, entry⟩ :=
    Option.isSome_iff_exists.mp (Std.ExtTreeMap.isSome_getElem?_iff_mem.mpr configured)
  obtain ⟨_, indexed, _⟩ := valid.cohorts cohort.name cohort_name cohort_config entry
  obtain ⟨index, present⟩ := Option.isSome_iff_exists.mp (Std.ExtTreeMap.isSome_getElem?_iff_mem.mpr indexed)
  obtain ⟨runtime, there⟩ := Option.isSome_iff_exists.mp
    (Std.ExtTreeMap.isSome_getElem?_iff_mem.mpr (covers _ (index_sources accepted present)))
  refine ⟨⟨projected, index.data_source, runtime⟩, ?_, projection⟩
  simp [cohort_runtime, projection, entry, present, there]
  rfl

/-- The loop over the cohorts runs their rounds one after the other. -/
theorem run_cohorts_serial (accepted : from_raw debug password_env_exists raw = .ok config) (cohorts : List CohortName)
    (configured : ∀ cohort ∈ cohorts, cohort.name ∈ config.cohorts) (report : RoundRunReport)
    (covers : Covers config data_sources) (world : TunerWorld B) :
    Triple tuner_answer (· = world)
      (run_cohorts debug_duration codec beta_reg config timestamps cohorts data_sources report)
      (fun result world' => Rounds codec beta_reg config timestamps cohorts world.objects report (some result.1)
        world'.objects ∧ Covers config result.2)
      (fun world' => Rounds codec beta_reg config timestamps cohorts world.objects report none world'.objects) := by
  induction cohorts generalizing data_sources report world with
  | nil =>
    refine triple_pure ?_
    rintro _ rfl
    exact ⟨.done _ _, covers⟩
  | cons cohort rest ih =>
    have others : ∀ cohort ∈ rest, cohort.name ∈ config.cohorts := fun cohort member =>
      configured cohort (List.mem_cons_of_mem _ member)
    refine triple_bind (fun _ world' => world'.objects = world.objects) (triple_perform ?_ ?_) fun cancelled => ?_
    · rintro _ rfl
      exact .stopped _ _ _
    · rintro _ choice rfl
      rfl
    refine triple_from fun between same => ?_
    rw [← same]
    cases cancelled with
    | true =>
      refine triple_pure ?_
      rintro _ rfl
      exact ⟨.cancelled _ _ _ _, covers⟩
    | false =>
      obtain ⟨found, running, projection⟩ := cohort_runtime_found accepted covers (configured cohort List.mem_cons_self)
      simp only [Bool.false_eq_true, if_false, running]
      refine triple_bind _ ((run_cohort_simulates found between []).weaken (fun _ here => here) (fun _ _ holds => holds) ?_) ?_
      · rintro world' ⟨image, run, there⟩
        exact .stopped_within ⟨found.config, [], image, projection, run, there⟩
      · rintro ⟨result, runtime⟩
        refine triple_from ?_
        rintro after ⟨image, run, there⟩
        have ran : CohortRuns codec beta_reg config timestamps cohort between.objects (ending result) after.objects :=
          ⟨found.config, [], image, projection, run, there⟩
        have kept := covers.insert found.data_source runtime
        cases result with
        | error error =>
          exact (ih others (report.fail cohort.name (.Aborted error)) kept after).weaken (fun _ here => here)
            (fun _ _ holds => ⟨.aborted ran holds.1, holds.2⟩) fun _ holds => .aborted ran holds
        | ok outcome =>
          cases outcome with
          | Published output =>
            exact (ih others (report.publish cohort.name output) kept after).weaken (fun _ here => here)
              (fun _ _ holds => ⟨.published ran holds.1, holds.2⟩) fun _ holds => .published ran holds
          | Cancelled =>
            refine triple_pure ?_
            rintro _ rfl
            exact ⟨.cancelled_within ran, kept⟩

end Tuner

/-! ### Reports -/

section Reports
variable {codec : Codec B} {beta_reg : Float → Float → Float → Float} {config : Config} {timestamps : RoundTimestamps}
  {cohorts : List CohortName} {objects objects' : Objects B} {before report : RoundRunReport}

/-- The cohort is in the report. -/
def Reported (report : RoundRunReport) (name : String) : Prop := name ∈ report.published ∨ name ∈ report.failed_cohorts

/-- No cohort is reported twice. -/
def Disjoint (report : RoundRunReport) : Prop := ∀ name, ¬(name ∈ report.published ∧ name ∈ report.failed_cohorts)

theorem reported_publish {cohort name : String} {output : RoundOutput} :
    Reported (before.publish cohort output) name ↔ Reported before name ∨ name = cohort := by
  unfold Reported RoundRunReport.publish
  rw [Std.ExtTreeMap.mem_insert, compare_eq_iff_eq]
  tauto

theorem reported_fail {cohort name : String} {failure : CohortFailure} :
    Reported (before.fail cohort failure) name ↔ Reported before name ∨ name = cohort := by
  unfold Reported RoundRunReport.fail
  rw [Std.ExtTreeMap.mem_insert, compare_eq_iff_eq]
  tauto

theorem Disjoint.publish (disjoint : Disjoint before) {cohort : String} (new : ¬Reported before cohort) (output : RoundOutput) :
    Disjoint (before.publish cohort output) := by
  rintro name ⟨published, failed⟩
  rcases Std.ExtTreeMap.mem_insert.mp published with same | earlier
  · obtain rfl := compare_eq_iff_eq.mp same
    exact new (.inr failed)
  · exact disjoint name ⟨earlier, failed⟩

theorem Disjoint.fail (disjoint : Disjoint before) {cohort : String} (new : ¬Reported before cohort) (failure : CohortFailure) :
    Disjoint (before.fail cohort failure) := by
  rintro name ⟨published, failed⟩
  rcases Std.ExtTreeMap.mem_insert.mp failed with same | earlier
  · obtain rfl := compare_eq_iff_eq.mp same
    exact new (.inl published)
  · exact disjoint name ⟨published, earlier⟩

/-- The cohorts that were attempted are a first part of all, the whole unless the round was cancelled. -/
structure Attempted (cohorts : List CohortName) (before report : RoundRunReport) (done : List CohortName) : Prop where
  first : done <+: cohorts
  whole : report.cancelled = false → done = cohorts
  reported : ∀ name, Reported report name ↔ Reported before name ∨ name ∈ done.map CohortName.name
  disjoint : Disjoint report

/-- No cohort of the list is reported yet. -/
def New (before : RoundRunReport) (cohorts : List CohortName) : Prop := ∀ cohort ∈ cohorts, ¬Reported before cohort.name

theorem New.rest {cohort : CohortName} {rest : List CohortName} {after : RoundRunReport}
    (distinct : ((cohort :: rest).map CohortName.name).Nodup) (new : New before (cohort :: rest))
    (reported : ∀ name, Reported after name ↔ Reported before name ∨ name = cohort.name) : New after rest := by
  intro other member known
  rcases (reported other.name).mp known with earlier | same
  · exact new other (List.mem_cons_of_mem _ member) earlier
  · exact (List.nodup_cons.mp distinct).1 (same ▸ List.mem_map_of_mem member)

theorem Attempted.cons {cohort : CohortName} {rest done : List CohortName} {after : RoundRunReport}
    (attempted : Attempted rest after report done)
    (reported : ∀ name, Reported after name ↔ Reported before name ∨ name = cohort.name) :
    Attempted (cohort :: rest) before report (cohort :: done) := by
  refine ⟨List.cons_prefix_cons.mpr ⟨rfl, attempted.first⟩, fun whole => ?_, fun name => ?_, attempted.disjoint⟩
  · rw [attempted.whole whole]
  · rw [attempted.reported, reported, List.map_cons, List.mem_cons, or_assoc]

theorem Rounds.attempted (rounds : Rounds codec beta_reg config timestamps cohorts objects before (some report) objects')
    (distinct : (cohorts.map CohortName.name).Nodup) (new : New before cohorts) (disjoint : Disjoint before) :
    ∃ done, Attempted cohorts before report done := by
  generalize reported : some report = result at rounds
  induction rounds with
  | done objects before =>
    obtain rfl := Option.some.inj reported
    exact ⟨[], List.nil_prefix, fun _ => rfl, fun name => by simp, disjoint⟩
  | stopped cohorts objects before => cases reported
  | cancelled cohort rest objects before =>
    obtain rfl := Option.some.inj reported
    exact ⟨[], List.nil_prefix, by simp [RoundRunReport.cancel], by simp [Reported, RoundRunReport.cancel], disjoint⟩
  | published run later ih =>
    obtain ⟨done, attempted⟩ := ih (List.nodup_cons.mp distinct).2 (new.rest distinct fun name => reported_publish)
      (disjoint.publish (new _ List.mem_cons_self) _) reported
    exact ⟨_, attempted.cons fun name => reported_publish⟩
  | aborted run later ih =>
    obtain ⟨done, attempted⟩ := ih (List.nodup_cons.mp distinct).2 (new.rest distinct fun name => reported_fail)
      (disjoint.fail (new _ List.mem_cons_self) _) reported
    exact ⟨_, attempted.cons fun name => reported_fail⟩
  | cancelled_within run =>
    obtain rfl := Option.some.inj reported
    exact ⟨[], List.nil_prefix, by simp [RoundRunReport.cancel], by simp [Reported, RoundRunReport.cancel], disjoint⟩
  | stopped_within run => cases reported

/-! ### Each cohort on its own -/

/-- What a report tells of a cohort. -/
inductive Tells (report : RoundRunReport) (name : String) : Outcome PipelineError CohortRoundOutcome → Prop where
  | published {output} (found : report.published[name]? = some output) : Tells report name (.returned (.Published output))
  | aborted {error} (found : report.failed_cohorts[name]? = some (.Aborted error)) : Tells report name (.failed error)

theorem tells_publish {cohort name : String} {output : RoundOutput} (other : name ≠ cohort)
    {outcome : Outcome PipelineError CohortRoundOutcome} :
    Tells (before.publish cohort output) name outcome ↔ Tells before name outcome := by
  have same : (before.publish cohort output).published[name]? = before.published[name]? := by
    unfold RoundRunReport.publish
    rw [Std.ExtTreeMap.getElem?_insert, if_neg (by simpa using Ne.symm other)]
  constructor
  · rintro (found | found)
    · exact .published (same ▸ found)
    · exact .aborted found
  · rintro (found | found)
    · exact .published (same ▸ found)
    · exact .aborted found

theorem tells_fail {cohort name : String} {failure : CohortFailure} (other : name ≠ cohort)
    {outcome : Outcome PipelineError CohortRoundOutcome} :
    Tells (before.fail cohort failure) name outcome ↔ Tells before name outcome := by
  have same : (before.fail cohort failure).failed_cohorts[name]? = before.failed_cohorts[name]? := by
    unfold RoundRunReport.fail
    rw [Std.ExtTreeMap.getElem?_insert, if_neg (by simpa using Ne.symm other)]
  constructor
  · rintro (found | found)
    · exact .published found
    · exact .aborted (same ▸ found)
  · rintro (found | found)
    · exact .published found
    · exact .aborted (same ▸ found)

theorem projected_cohort {cohort : CohortName} {projected : AggregationConfig}
    (projection : for_cohort config cohort = some projected) : projected.cohort = cohort.name := by
  obtain ⟨⟨_, entry⟩, _, rest⟩ := Option.bind_eq_some_iff.mp projection
  obtain ⟨index, _, rest⟩ := Option.bind_eq_some_iff.mp rest
  obtain ⟨target, _, built⟩ := Option.bind_eq_some_iff.mp rest
  exact Option.some.inj built ▸ rfl

/-- A cohort's round may as well run over another store with the same portion. -/
theorem CohortRuns.alike {cohort : CohortName} {outcome : Outcome PipelineError CohortRoundOutcome} {other : Objects B}
    (run : CohortRuns codec beta_reg config timestamps cohort objects outcome objects') (agrees : Agrees cohort objects other) :
    ∃ other', CohortRuns codec beta_reg config timestamps cohort other outcome other' ∧ Agrees cohort objects' other' := by
  obtain ⟨projected, log, image, projection, run, rfl⟩ := run
  have portions : Agrees cohort (⟨objects, log⟩ : World B).objects (⟨other, log⟩ : World B).objects := agrees
  obtain ⟨image', run', agrees', _⟩ := round_alike (projected_cohort projection) run portions
  exact ⟨image'.objects, ⟨projected, log, image', projection, run', rfl⟩, agrees'⟩

/-- A cohort's round leaves the portions of the others alone. -/
theorem CohortRuns.others {cohort other : CohortName} {outcome : Outcome PipelineError CohortRoundOutcome}
    (run : CohortRuns codec beta_reg config timestamps cohort objects outcome objects') (different : other ≠ cohort) :
    Agrees other objects' objects := by
  obtain ⟨projected, log, image, projection, run, rfl⟩ := run
  exact round_others (projected_cohort projection) different run

/-- The rounds of other cohorts do not change a cohort's portion. -/
theorem Rounds.elsewhere {result : Option RoundRunReport} {cohort : CohortName}
    (rounds : Rounds codec beta_reg config timestamps cohorts objects before result objects') (absent : cohort ∉ cohorts) :
    Agrees cohort objects' objects := by
  induction rounds with
  | done objects before => exact .refl _
  | stopped cohorts objects before => exact .refl _
  | cancelled other rest objects before => exact .refl _
  | published run later ih =>
    rw [List.mem_cons, not_or] at absent
    exact (ih absent.2).trans (run.others absent.1)
  | aborted run later ih =>
    rw [List.mem_cons, not_or] at absent
    exact (ih absent.2).trans (run.others absent.1)
  | cancelled_within run => exact run.others fun same => absent (same ▸ List.mem_cons_self)
  | stopped_within run => exact run.others fun same => absent (same ▸ List.mem_cons_self)

/-- A property of stores that every round of a cohort keeps is kept by the rounds of the tuner. -/
theorem Rounds.keeps_store {result : Option RoundRunReport} {holds : Objects B → Prop}
    (rounds : Rounds codec beta_reg config timestamps cohorts objects before result objects')
    (each : ∀ cohort outcome objects objects', CohortRuns codec beta_reg config timestamps cohort objects outcome objects' →
      holds objects → holds objects') : holds objects → holds objects' := by
  induction rounds with
  | done objects before => exact id
  | stopped cohorts objects before => exact id
  | cancelled cohort rest objects before => exact id
  | published run later ih => exact fun start => ih (each _ _ _ _ run start)
  | aborted run later ih => exact fun start => ih (each _ _ _ _ run start)
  | cancelled_within run => exact each _ _ _ _ run
  | stopped_within run => exact each _ _ _ _ run

theorem Tells.reported {name : String} {outcome : Outcome PipelineError CohortRoundOutcome} (told : Tells report name outcome) :
    Reported report name := by
  cases told with
  | published found => exact .inl (Std.ExtTreeMap.isSome_getElem?_iff_mem.mp (by rw [found]; rfl))
  | aborted found => exact .inr (Std.ExtTreeMap.isSome_getElem?_iff_mem.mp (by rw [found]; rfl))

/-- The rounds of other cohorts do not change what is told of a cohort. -/
theorem Rounds.keeps {result : RoundRunReport} {name : String} {outcome : Outcome PipelineError CohortRoundOutcome}
    (rounds : Rounds codec beta_reg config timestamps cohorts objects before (some result) objects')
    (absent : name ∉ cohorts.map CohortName.name) : Tells result name outcome → Tells before name outcome := by
  generalize reported : some result = ended at rounds
  induction rounds with
  | done objects before =>
    obtain rfl := Option.some.inj reported
    exact id
  | stopped cohorts objects before => cases reported
  | cancelled cohort rest objects before =>
    obtain rfl := Option.some.inj reported
    rintro (found | found)
    · exact .published found
    · exact .aborted found
  | published run later ih =>
    rw [List.map_cons, List.mem_cons, not_or] at absent
    exact fun told => (tells_publish absent.1).mp (ih absent.2 reported told)
  | aborted run later ih =>
    rw [List.map_cons, List.mem_cons, not_or] at absent
    exact fun told => (tells_fail absent.1).mp (ih absent.2 reported told)
  | cancelled_within run =>
    obtain rfl := Option.some.inj reported
    rintro (found | found)
    · exact .published found
    · exact .aborted found
  | stopped_within run => cases reported

theorem tells_published {name : String} {output : RoundOutput} {outcome : Outcome PipelineError CohortRoundOutcome}
    (new : ¬Reported before name) (told : Tells (before.publish name output) name outcome) :
    outcome = .returned (.Published output) := by
  cases told with
  | published found =>
    rw [RoundRunReport.publish, Std.ExtTreeMap.getElem?_insert_self] at found
    rw [Option.some.inj found]
  | aborted found =>
    have earlier : Tells before name _ := .aborted found
    exact absurd earlier.reported new

theorem tells_aborted {name : String} {error : PipelineError} {outcome : Outcome PipelineError CohortRoundOutcome}
    (new : ¬Reported before name) (told : Tells (before.fail name (.Aborted error)) name outcome) : outcome = .failed error := by
  cases told with
  | published found =>
    have earlier : Tells before name _ := .published found
    exact absurd earlier.reported new
  | aborted found =>
    rw [RoundRunReport.fail, Std.ExtTreeMap.getElem?_insert_self] at found
    cases found
    rfl

/-- What is told of a cohort is what its round could have done as the first, and what it has left is still there. -/
theorem Rounds.alone {result : RoundRunReport} {cohort : CohortName} {outcome : Outcome PipelineError CohortRoundOutcome}
    (rounds : Rounds codec beta_reg config timestamps cohorts objects before (some result) objects')
    (distinct : (cohorts.map CohortName.name).Nodup) (new : ¬Reported before cohort.name) (member : cohort ∈ cohorts)
    (told : Tells result cohort.name outcome) :
    ∃ objects'', CohortRuns codec beta_reg config timestamps cohort objects outcome objects'' ∧
      Agrees cohort objects'' objects' := by
  -- the first round of the list is the cohort's own, or leaves its portion and what is told of it alone
  have first : ∀ {head : CohortName} {rest : List CohortName} {start middle last : Objects B} {earlier after : RoundRunReport}
      {done : Outcome PipelineError CohortRoundOutcome},
      ((head :: rest).map CohortName.name).Nodup → ¬Reported earlier cohort.name → cohort ∈ head :: rest →
      CohortRuns codec beta_reg config timestamps head start done middle →
      Rounds codec beta_reg config timestamps rest middle after (some result) last →
      (Tells after head.name outcome → cohort = head → outcome = done) →
      (∀ name, Reported after name ↔ Reported earlier name ∨ name = head.name) →
      (¬Reported after cohort.name → cohort ∈ rest → ∃ left, CohortRuns codec beta_reg config timestamps cohort middle outcome left ∧
        Agrees cohort left last) →
      ∃ left, CohortRuns codec beta_reg config timestamps cohort start outcome left ∧ Agrees cohort left last := by
    intro head rest start middle last earlier after done names unreported among run later own reported inner
    obtain ⟨fresh, _⟩ := List.nodup_cons.mp names
    rcases List.mem_cons.mp among with rfl | among
    · obtain rfl := own (later.keeps fresh told) rfl
      have absent : cohort ∉ rest := fun inside => fresh (List.mem_map_of_mem inside)
      exact ⟨middle, run, (later.elsewhere absent).symm⟩
    · have different : cohort.name ≠ head.name := fun same => fresh (same ▸ List.mem_map_of_mem among)
      have still : ¬Reported after cohort.name := fun known =>
        ((reported cohort.name).mp known).elim unreported different
      obtain ⟨left, alone, agrees⟩ := inner still among
      obtain ⟨left', alone', agrees'⟩ := alone.alike (run.others fun same => different (congrArg CohortName.name same))
      exact ⟨left', alone', agrees'.symm.trans agrees⟩
  generalize reported : some result = ended at rounds
  induction rounds with
  | done objects before => exact absurd member List.not_mem_nil
  | stopped cohorts objects before => cases reported
  | cancelled head rest objects before =>
    obtain rfl := Option.some.inj reported
    exact absurd told.reported new
  | published run later ih =>
    subst reported
    refine first distinct new member run later (fun known same => ?_) (fun name => reported_publish) fun still among =>
      ih (List.nodup_cons.mp distinct).2 still among rfl
    subst same
    exact tells_published new known
  | aborted run later ih =>
    subst reported
    refine first distinct new member run later (fun known same => ?_) (fun name => reported_fail) fun still among =>
      ih (List.nodup_cons.mp distinct).2 still among rfl
    subst same
    exact tells_aborted new known
  | cancelled_within run =>
    obtain rfl := Option.some.inj reported
    exact absurd told.reported new
  | stopped_within run => cases reported

/-- A published round has left its record under both of its keys. -/
theorem CohortRuns.stored {cohort : CohortName} {output : RoundOutput}
    (run : CohortRuns codec beta_reg config timestamps cohort objects (.returned (.Published output)) objects') :
    ∃ paths body, round_paths cohort.name timestamps.round_end = .ok paths ∧ codec.to_vec output = .ok body ∧
      Isolation.Owned cohort paths.1 ∧ Isolation.Owned cohort paths.2 ∧
      lookup objects' paths.1 = some body ∧ lookup objects' paths.2 = some body := by
  obtain ⟨projected, log, image, projection, run, rfl⟩ := run
  have of := projected_cohort projection
  rcases round_calibrations run with ⟨unpublished, _⟩ | ⟨paths, body, record, kept, _, published⟩
  · exact absurd rfl (unpublished output)
  · obtain ⟨rfl, dated, latest⟩ := published output rfl
    obtain ⟨owned, owned'⟩ := kept.owned of
    exact ⟨paths, body, of ▸ kept.named, kept.serialised, owned, owned', dated, latest⟩

end Reports

/-! ### The round of the tuner -/

section Round
variable {debug : String → String} {debug_duration : Duration → String} {password_env_exists : String → Bool}
  {codec : Codec B} {beta_reg : Float → Float → Float → Float} {timestamps : RoundTimestamps} {raw : RawConfig}
  {config : Config} {data_sources : DataSources}

theorem manages_quiet (effect : TunerEffect B) (manages : Manages effect) : Quiet effect := by
  cases effect with
  | round effect => exact manages.elim
  | tick deadline => exact manages.elim
  | _ => trivial

theorem reconnect_covers (candidates : List (String × DataSourceConfig)) (covers : Covers config data_sources) :
    Triple tuner_answer (fun _ => True)
      (reconnect debug debug_duration config.budget candidates data_sources : TunerProgram B DataSources)
      (fun sources _ => Covers config sources) (fun _ => True) := by
  induction candidates generalizing data_sources with
  | nil => exact triple_pure fun _ _ => covers
  | cons entry rest ih =>
    refine triple_bind (fun _ _ => True) (fun _ outcome _ _ _ => ends_of (fun _ _ => trivial) trivial) fun _ => ?_
    refine triple_bind (fun _ _ => True) (fun _ outcome _ _ _ => ends_of (fun _ _ => trivial) trivial) fun runtime => ?_
    exact ih (covers.insert entry.1 runtime)

/-- Reconnecting changes what the tuner has of its data sources, not the store. -/
theorem reconnect_serial (covers : Covers config data_sources) (world : TunerWorld B) :
    Triple tuner_answer (· = world) (reconnect_unavailable_data_sources debug debug_duration config data_sources)
      (fun sources world' => world'.objects = world.objects ∧ Covers config sources)
      (fun world' => world'.objects = world.objects) := by
  rintro _ outcome world' rfl run
  have same := performs_quiet (reconnections_manage.mono manages_quiet) run
  cases outcome with
  | returned sources =>
    obtain ⟨candidates, middle, _, reconnected⟩ := runs_bind_returned.mp run
    exact ⟨same, reconnect_covers candidates covers middle _ _ trivial reconnected⟩
  | failed error => exact same
  | stopped => exact same

theorem cohort_names_configured (accepted : from_raw debug password_env_exists raw = .ok config) :
    (cohort_names config).map CohortName.name = config.cohorts.keys := by
  rw [cohort_names, List.map_map, ← Std.ExtTreeMap.map_fst_toList_eq_keys]
  refine List.map_congr_left fun entry member => ?_
  exact ((from_raw_ok accepted).cohorts entry.1 entry.2.1 entry.2.2
    (Std.ExtTreeMap.mem_toList_iff_getElem?_eq_some.mp member)).1

theorem cohort_names_distinct (accepted : from_raw debug password_env_exists raw = .ok config) :
    ((cohort_names config).map CohortName.name).Nodup := by
  rw [cohort_names_configured accepted]
  exact Std.ExtTreeMap.nodup_keys

theorem new_default (cohorts : List CohortName) : New .default cohorts := by
  rintro cohort _ (published | failed)
  · exact Std.ExtTreeMap.not_mem_empty published
  · exact Std.ExtTreeMap.not_mem_empty failed

theorem disjoint_default : Disjoint .default := fun _ both => Std.ExtTreeMap.not_mem_empty both.1

theorem run_round_serial (accepted : from_raw debug password_env_exists raw = .ok config) (covers : Covers config data_sources)
    (world : TunerWorld B) :
    Triple tuner_answer (· = world) (run_round debug debug_duration codec beta_reg config timestamps data_sources)
      (fun result world' => Rounds codec beta_reg config timestamps (cohort_names config) world.objects .default
        (some result.1) world'.objects ∧ Covers config result.2)
      (fun world' => Rounds codec beta_reg config timestamps (cohort_names config) world.objects .default none
        world'.objects) := by
  refine triple_bind _ ((reconnect_serial covers world).weaken (fun _ here => here) (fun _ _ holds => holds) ?_) ?_
  · intro world' same
    rw [same]
    exact .stopped _ _ _
  · intro sources
    refine triple_from ?_
    rintro between ⟨same, covered⟩
    rw [← same]
    refine run_cohorts_serial accepted _ (fun cohort member => ?_) _ covered between
    have named : cohort.name ∈ (cohort_names config).map CohortName.name := List.mem_map_of_mem member
    rw [cohort_names_configured accepted] at named
    exact Std.ExtTreeMap.mem_keys.mp named

end Round

/-- A round of the tuner is the rounds of its cohorts, one after the other in the order of their names. It reports each
    cohort of a first part of them once, of all unless it was cancelled, and loses no data source. -/
theorem rounds_serialized {B : Type} (debug : String → String) (debug_duration : Duration → String)
    (password_env_exists : String → Bool) (codec : Codec B) (beta_reg : Float → Float → Float → Float) (raw : RawConfig)
    (config : Config) (accepted : from_raw debug password_env_exists raw = .ok config) (timestamps : RoundTimestamps)
    (data_sources : DataSources) (covers : Covers config data_sources) (world world' : TunerWorld B)
    (outcome : Outcome Panic (RoundRunReport × DataSources))
    (ran : Runs tuner_answer (run_round debug debug_duration codec beta_reg config timestamps data_sources) world outcome
      world') :
    (∀ report sources, outcome = .returned (report, sources) →
      Rounds codec beta_reg config timestamps (cohort_names config) world.objects .default (some report) world'.objects ∧
      Covers config sources ∧ ∃ done, Attempted (cohort_names config) .default report done) ∧
    ((∀ result, outcome ≠ .returned result) →
      Rounds codec beta_reg config timestamps (cohort_names config) world.objects .default none world'.objects) := by
  have serial := run_round_serial accepted covers world world outcome world' rfl ran
  refine ⟨?_, fun unreturned => ?_⟩
  · rintro report sources rfl
    obtain ⟨rounds, covered⟩ := serial
    exact ⟨rounds, covered, rounds.attempted (cohort_names_distinct accepted) (new_default _) disjoint_default⟩
  · cases outcome with
    | returned result => exact absurd rfl (unreturned result)
    | failed error => exact serial
    | stopped => exact serial

/-- What a round of the tuner reports of a cohort is what a round of that cohort alone could have come to over the store
    as it was found, whatever the cohorts before it did; its records are still there at the end. The portions of cohorts
    that are not configured are as they were. -/
theorem cohorts_independent {B : Type} (debug : String → String) (debug_duration : Duration → String)
    (password_env_exists : String → Bool) (codec : Codec B) (beta_reg : Float → Float → Float → Float) (raw : RawConfig)
    (config : Config) (accepted : from_raw debug password_env_exists raw = .ok config) (timestamps : RoundTimestamps)
    (data_sources sources : DataSources) (covers : Covers config data_sources) (world world' : TunerWorld B)
    (report : RoundRunReport)
    (ran : Runs tuner_answer (run_round debug debug_duration codec beta_reg config timestamps data_sources) world
      (.returned (report, sources)) world') :
    (∀ cohort ∈ cohort_names config, ∀ outcome, Tells report cohort.name outcome → ∃ objects,
      CohortRuns codec beta_reg config timestamps cohort world.objects outcome objects ∧
      Agrees cohort objects world'.objects) ∧
    (∀ cohort ∈ cohort_names config, ∀ output, report.published[cohort.name]? = some output → ∃ paths body,
      round_paths cohort.name timestamps.round_end = .ok paths ∧ codec.to_vec output = .ok body ∧
      lookup world'.objects paths.1 = some body ∧ lookup world'.objects paths.2 = some body) ∧
    ∀ cohort ∉ cohort_names config, Agrees cohort world'.objects world.objects := by
  obtain ⟨rounds, _⟩ := run_round_serial accepted covers world world _ world' rfl ran
  have alone : ∀ cohort ∈ cohort_names config, ∀ outcome, Tells report cohort.name outcome → ∃ objects,
      CohortRuns codec beta_reg config timestamps cohort world.objects outcome objects ∧
      Agrees cohort objects world'.objects := fun cohort member outcome told =>
    rounds.alone (cohort_names_distinct accepted) (new_default _ cohort member) member told
  refine ⟨alone, fun cohort member output found => ?_, fun cohort absent => rounds.elsewhere absent⟩
  obtain ⟨objects, run, agrees⟩ := alone cohort member _ (.published found)
  obtain ⟨paths, body, named, serialised, owned, owned', dated, latest⟩ := run.stored
  exact ⟨paths, body, named, serialised, agrees _ owned ▸ dated, agrees _ owned' ▸ latest⟩

/-! ### A round of two cohorts -/

theorem retired_validates : validate_cohort_name "retired" = .ok () := by decide
def prod : CohortName := ⟨"prod", prod_validates⟩
def shadow : CohortName := ⟨"shadow", shadow_validates⟩
def retired : CohortName := ⟨"retired", retired_validates⟩

/-- A segment of the second cohort, and one of a cohort that is not configured. -/
def twinObjects : Objects Body := [twinSource shadow, twinSource retired]
def twinTime : RoundTimestamps := ⟨120, "1970-01-01T00:02:05Z", 125000000⟩
def calmRound (config : Config) : Outcome Panic (RoundRunReport × DataSources) × TunerWorld Body :=
  (run_round id (fun _ => "") smallCodec smallBeta config twinTime twinConnected).exec tuner_answer (twinWorld twinObjects)
    (List.replicate 47 calmChoice)

theorem calmRound_runs : ∃ config, from_raw id (fun _ => true) twinRaw = .ok config ∧
    (cohort_names config).map CohortName.name = ["prod", "shadow"] ∧
    reported (calmRound config).1 = some (["prod", "shadow"], []) := ⟨_, rfl, by decide +kernel⟩

theorem twinConnected_covers {config : Config} (accepted : from_raw id (fun _ => true) twinRaw = .ok config) :
    Covers config twinConnected := by
  obtain rfl : _ = config := Except.ok.inj accepted
  intro name configured
  have named : name ∈ twinRaw.data_sources := Std.ExtTreeMap.mem_map.mp configured
  have listed : ["primary", "replica"].contains name = true := Std.ExtTreeMap.mem_ofList.mp named
  exact Std.ExtTreeMap.mem_ofList.mpr listed

theorem local_rounds_serialized : ∃ config report sources, from_raw id (fun _ => true) twinRaw = .ok config ∧
    (calmRound config).1 = .returned (report, sources) ∧ report.published.keys = ["prod", "shadow"] ∧
    Rounds smallCodec smallBeta config twinTime (cohort_names config) twinObjects .default (some report)
      (calmRound config).2.objects ∧
    Covers config sources ∧ ∃ done, Attempted (cohort_names config) .default report done := by
  obtain ⟨config, accepted, _, found⟩ := calmRound_runs
  obtain ⟨report, sources, returned, published, _⟩ := reported_some found
  have serial := rounds_serialized id (fun _ => "") (fun _ => true) smallCodec smallBeta twinRaw config accepted twinTime
    twinConnected (twinConnected_covers accepted) (twinWorld twinObjects) _ _ ⟨List.replicate 47 calmChoice, rfl⟩
  exact ⟨config, report, sources, accepted, returned, published, serial.1 report sources returned⟩

/-- Both cohorts are published as if alone, and the third one's segment is where it was. -/
theorem local_cohorts_independent : ∃ config report sources, from_raw id (fun _ => true) twinRaw = .ok config ∧
    (calmRound config).1 = .returned (report, sources) ∧
    (∀ cohort ∈ [prod, shadow], ∃ output objects paths body, report.published[cohort.name]? = some output ∧
      CohortRuns smallCodec smallBeta config twinTime cohort twinObjects (.returned (.Published output)) objects ∧
      Agrees cohort objects (calmRound config).2.objects ∧ round_paths cohort.name 120 = .ok paths ∧
      smallCodec.to_vec output = .ok body ∧ lookup (calmRound config).2.objects paths.1 = some body ∧
      lookup (calmRound config).2.objects paths.2 = some body) ∧
    lookup (calmRound config).2.objects (twinSource retired).1 = lookup twinObjects (twinSource retired).1 := by
  obtain ⟨config, accepted, names, found⟩ := calmRound_runs
  obtain ⟨report, sources, returned, published, _⟩ := reported_some found
  obtain ⟨alone, stored, others⟩ := cohorts_independent id (fun _ => "") (fun _ => true) smallCodec smallBeta twinRaw config
    accepted twinTime twinConnected sources (twinConnected_covers accepted) (twinWorld twinObjects) (calmRound config).2 report
    ⟨List.replicate 47 calmChoice, by
      rw [← returned]
      rfl⟩
  have configured : ∀ cohort : CohortName, cohort ∈ cohort_names config ↔ cohort.name ∈ ["prod", "shadow"] := by
    intro cohort
    rw [← names, List.mem_map]
    refine ⟨fun member => ⟨cohort, member, rfl⟩, ?_⟩
    rintro ⟨other, member, same⟩
    obtain rfl : other = cohort := by
      cases other
      cases cohort
      cases same
      rfl
    exact member
  refine ⟨config, report, sources, accepted, returned, fun cohort member => ?_, ?_⟩
  · have named : cohort.name ∈ ["prod", "shadow"] := by
      rcases List.mem_pair.mp member with rfl | rfl <;> decide
    have present : cohort.name ∈ report.published := Std.ExtTreeMap.mem_keys.mp (published.symm ▸ named)
    obtain ⟨output, there⟩ := Option.isSome_iff_exists.mp (Std.ExtTreeMap.isSome_getElem?_iff_mem.mpr present)
    obtain ⟨objects, ran, agrees⟩ := alone cohort ((configured cohort).mpr named) _ (.published there)
    obtain ⟨paths, body, found, serialised, dated, latest⟩ := stored cohort ((configured cohort).mpr named) output there
    exact ⟨output, objects, paths, body, there, ran, agrees, found, serialised, dated, latest⟩
  · have absent : retired ∉ cohort_names config := fun member => absurd ((configured retired).mp member) (by decide)
    have owned : Isolation.Owned retired (twinSource retired).1 :=
      .inl ⟨"cohorts", "19700101T0001Z", ["part-01J00000000000000000000000.vseam"], .inl rfl, by decide +kernel⟩
    exact others retired absent _ owned

end VectorSeam.Serial
