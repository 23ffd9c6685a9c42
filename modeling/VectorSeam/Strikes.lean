import VectorSeam.Lines

/-!
What a connection survives. A connection is given up only for a reply on it that says so: an
operation that failed for good or was not answered in time, or a row whose columns could not
be read because the connection was closed. Barring these, a data source that is connected
stays connected through the rounds of all cohorts, whatever becomes of the others.
-/

namespace VectorSeam.Strikes
open VectorSeam.Model VectorSeam.ObjectStore VectorSeam.Cohort VectorSeam.Effects VectorSeam.Programs VectorSeam.Estimators
open VectorSeam.Durations VectorSeam.Configuration VectorSeam.Intermediate VectorSeam.Pipeline VectorSeam.Database
open VectorSeam.Handlers VectorSeam.Typestates VectorSeam.Connections VectorSeam.Tuner VectorSeam.Transactions VectorSeam.Lines

/-! ### Replies -/

/-- The client failed in a statement. -/
def broken {α : Type} : Except ClientFailure α → Bool
  | .ok _ => false
  | .error failure => fatal failure

/-- The end of a transaction did not succeed. -/
def failed {α : Type} : Except ClientFailure α → Bool
  | .ok _ => false
  | .error _ => true

/-- Reading the column found the connection closed. -/
def cut {α : Type} : Except PostgresError α → Bool
  | .ok _ => false
  | .error error => error.is_closed

def cut_rows : Except ClientFailure (List Row × Duration) → Bool
  | .ok (rows, _) => rows.any fun row => cut row.key || cut row.distance
  | .error _ => false

/-- The reply can cost the connection. -/
def strikes : (operation : Operation) → Answer operation → Bool
  | .begin_transaction, reply => broken reply
  | .batch_execute _, reply => broken reply
  | .query _ _, reply => broken reply || cut_rows reply
  | .commit, reply => failed reply
  | .rollback, reply => failed reply

/-! ### The transaction of a sample -/

/-- A result that does not blame the connection. -/
def Blameless {α : Type} (holds : α → Prop) : Except SampleMeasureError α → Prop
  | .ok value => holds value
  | .error error => ∀ message, error ≠ .Connection message

theorem Blameless.weaken {α : Type} {holds : α → Prop} {result : Except SampleMeasureError α} (blameless : Blameless holds result) :
    Blameless (fun _ => True) result := by
  cases result with
  | ok value => trivial
  | error error => exact blameless

section Session
variable {α β : Type} {debug_duration : Duration → String} {client_timeout statement_timeout : Duration}
  {vector : List UInt32} {config : AggregationConfig} {holds : α → Prop}

/-- A session that blames the connection only for a reply that strikes. -/
abbrev Spares (holds : α → Prop) (session : Session α) : Prop :=
  Barring (fun operation reply => strikes operation reply = true) (Blameless holds) session

theorem spares_bind {after : β → Prop} {session : Session α} {next : α → Session β} (first : Spares holds session)
    (second : ∀ value, holds value → Spares after (next value)) : Spares after (session >>= next) :=
  barring_bind _ first (fun _ blameless => blameless) second

theorem blameless_bind {after : β → Prop} {result : Except SampleMeasureError α} {next : α → Except SampleMeasureError β}
    (first : Blameless holds result) (second : ∀ value, holds value → Blameless after (next value)) :
    Blameless after (result >>= next) := by
  cases result with
  | ok value => exact second value first
  | error error => exact first

theorem blameless_mapM {item : α → Except SampleMeasureError β} (values : List α)
    (each : ∀ value ∈ values, Blameless (fun _ => True) (item value)) : Blameless (fun _ => True) (values.mapM item) := by
  induction values with
  | nil => trivial
  | cons value rest ih =>
    rw [List.mapM_cons]
    refine blameless_bind (each value List.mem_cons_self) fun _ _ => ?_
    exact blameless_bind (ih fun other member => each other (List.mem_cons_of_mem _ member)) fun _ _ => trivial

theorem blameless_column {column : Except PostgresError α} (whole : cut column = false) :
    Blameless (fun _ => True) (column.mapError database_sample_error) := by
  cases column with
  | ok value => trivial
  | error error =>
    intro message blamed
    have closed : error.is_closed = false := whole
    simp [database_sample_error, closed] at blamed

theorem blameless_key {row : Row} (whole : cut row.key = false) : Blameless (fun _ => True) (decode_key row) := by
  unfold decode_key
  split
  · exact blameless_column whole
  · exact blameless_column whole
  · exact blameless_column whole
  · intro message blamed
    cases blamed

/-- Rows that were read with the connection open. -/
def Whole (rows : List Row) : Prop := ∀ row ∈ rows, cut row.key = false ∧ cut row.distance = false

theorem blameless_decode_keys {rows : List Row} (whole : Whole rows) : Blameless (fun _ => True) (decode_keys rows) :=
  blameless_mapM rows fun row member => blameless_key (whole row member).1

theorem blameless_ground_truth {rows : List Row} (whole : Whole rows) :
    Blameless (fun _ => True) (decode_ground_truth rows) :=
  blameless_bind (blameless_decode_keys whole) fun _ _ =>
    blameless_bind (blameless_mapM rows fun row member => blameless_column (whole row member).2) fun _ _ => trivial

theorem blameless_check_table (rows : List Row) : Blameless (fun _ => True) (check_table config rows) := by
  unfold check_table
  split
  · intro message blamed
    cases blamed
  · trivial

theorem blameless_sweep {gt_keys : List Int} {ef : Int} {rows : List Row} {elapsed : Duration} (whole : Whole rows) :
    Blameless (fun _ => True) (sweep_result config gt_keys ef rows elapsed) := by
  have recalled : ∀ returned_keys, Blameless (fun _ => True)
      ((recall_at_k gt_keys returned_keys config.k).mapError fun error => SampleMeasureError.Database (math_error_text error)) := by
    intro returned_keys
    cases recall_at_k gt_keys returned_keys config.k with
    | ok value => trivial
    | error error =>
      intro message blamed
      cases blamed
  exact blameless_bind (blameless_decode_keys whole) fun returned_keys _ =>
    blameless_bind (recalled returned_keys) fun _ _ => trivial

/-- A statement fails blamelessly unless its failure is fatal. -/
theorem blameless_operation {reply : Except ClientFailure α} (operation : String) (whole : broken reply = false) :
    Blameless (fun value => reply = .ok value) (client_operation debug_duration client_timeout operation reply) := by
  cases reply with
  | ok value => rfl
  | error failure =>
    cases failure with
    | Elapsed => cases whole
    | Failed error =>
      intro message blamed
      have closed : error.is_closed = false := whole
      simp [database_sample_error, closed] at blamed

theorem spares_counted (sql : String) : Spares (fun _ => True) (execute_counted debug_duration client_timeout sql) :=
  fun _ whole => barring_lift (blameless_operation _ (Bool.eq_false_iff.mpr whole)).weaken

theorem spares_query (operation sql : String) :
    Spares (fun answered => Whole answered.1) (query debug_duration client_timeout operation sql vector) := by
  intro reply clean
  refine barring_lift ?_
  obtain ⟨whole, uncut⟩ := Bool.or_eq_false_iff.mp (Bool.eq_false_iff.mpr clean)
  have blameless : Blameless (fun value => reply = .ok value) (client_operation debug_duration client_timeout operation reply) :=
    blameless_operation operation whole
  cases result : client_operation debug_duration client_timeout operation reply with
  | ok value =>
    rw [result] at blameless
    obtain rfl : reply = .ok value := blameless
    obtain ⟨rows, elapsed⟩ := value
    intro row member
    have here := List.any_eq_false.mp uncut row member
    simpa using here
  | error error =>
    rw [result] at blameless
    exact blameless

theorem spares_sweeps (gt_keys order : List Int) :
    Spares (fun _ => True) (measure_sweeps debug_duration client_timeout vector config gt_keys order) := by
  induction order with
  | nil => trivial
  | cons ef rest ih =>
    refine spares_bind (spares_counted _) fun _ _ => ?_
    refine spares_bind (spares_query _ _) fun answered whole => ?_
    refine spares_bind (barring_lift (blameless_sweep whole)) fun sweep _ => ?_
    exact spares_bind ih fun sweeps _ => trivial

theorem spares_measurement :
    Spares (fun _ => True) (measure_in_transaction debug_duration client_timeout statement_timeout vector config) := by
  refine spares_bind (spares_counted _) fun _ _ => ?_
  refine spares_bind (spares_counted _) fun _ _ => ?_
  refine spares_bind (spares_query _ _) fun truth whole => ?_
  refine spares_bind (barring_lift (blameless_check_table _)) fun _ _ => ?_
  refine spares_bind (barring_lift (blameless_ground_truth whole)) fun decoded _ => ?_
  refine spares_bind (spares_counted _) fun _ _ => ?_
  exact spares_bind (spares_sweeps _ _) fun sweeps _ => trivial

theorem spares_finish {result : Except SampleMeasureError α} (blameless : Blameless (fun _ => True) result) :
    Spares (fun _ => True) (finish_transaction debug_duration client_timeout result) := by
  have undone : ∀ {primary : SampleMeasureError} {next : Except ClientFailure Unit → Session α},
      (∀ done, next (.ok done) = .fail primary) → (∀ message, primary ≠ .Connection message) →
      Spares (fun _ => True) (Prog.perform .rollback >>= next) := by
    intro primary next kept own reply clean
    cases reply with
    | ok done =>
      change Spares (fun _ => True) (next (.ok done))
      rw [kept done]
      exact own
    | error failure => exact absurd rfl clean
  cases result with
  | ok value =>
    intro reply clean
    cases reply with
    | ok done => trivial
    | error failure => exact absurd rfl clean
  | error primary =>
    cases primary with
    | Connection message => exact absurd rfl (blameless message)
    | Database message => exact undone (fun _ => rfl) blameless
    | TableSmallerThanK returned k => exact undone (fun _ => rfl) blameless
    | CancelledBeforeTransaction => exact undone (fun _ => rfl) blameless

/-- A sample transaction blames the connection only for a reply that strikes. -/
theorem spares_transaction :
    Spares (fun _ => True) (run_sample_transaction debug_duration client_timeout statement_timeout vector config) := by
  refine barring_bind (Blameless fun _ => True) ?_ (fun _ blameless => blameless) fun _ _ => ?_
  · exact fun reply whole => barring_lift (blameless_operation _ (Bool.eq_false_iff.mpr whole)).weaken
  · refine barring_bind (Blameless (Blameless fun _ => True)) ?_ (fun _ blameless => blameless) fun caught blameless =>
      spares_finish blameless
    exact barring_attempt spares_measurement fun _ blameless => blameless

end Session

/-! ### The rounds of all cohorts -/

section Rounds
variable {B : Type} {name source : String} {debug_duration : Duration → String} {vector : List UInt32}
  {config : AggregationConfig}

/-- A reply on the connection that can cost it. -/
def struck (name : String) : (effect : TunerEffect B) → TunerReply effect → Bool
  | .operate source operation, reply => source = name && strikes operation reply
  | _, _ => false

def Up (runtime : DataSourceRuntime) : Prop := ∃ connection, runtime = .Connected connection

/-- Unless it is struck, the program returns what is specified, if it returns. -/
abbrev Keeps {α : Type} (name : String) (holds : α → Prop) (program : TunerProgram B α) : Prop :=
  Barring (fun effect reply => struck name effect reply = true) (fun result => ∀ value, result = .ok value → holds value) program

theorem keeps_bind {α β : Type} {holds : α → Prop} {after : β → Prop} {program : TunerProgram B α} {next : α → TunerProgram B β}
    (first : Keeps name holds program) (second : ∀ value, holds value → Keeps name after (next value)) :
    Keeps name after (program >>= next) :=
  barring_bind _ first (fun error _ value same => by cases same) fun value holds => second value (holds value rfl)

theorem keeps_pure {α : Type} {holds : α → Prop} {value : α} (there : holds value) :
    Keeps name holds (pure value : TunerProgram B α) := by
  rintro other same
  exact Except.ok.inj same ▸ there

theorem keeps_any {α : Type} (program : TunerProgram B α) : Keeps name (fun _ => True) program :=
  barring_any program fun _ _ _ => trivial

theorem keeps_operate (operation : Operation) :
    Keeps name (fun answered => ¬strikes operation answered.1 = true)
      (operate name () operation : TunerProgram B (Answer operation × Unit)) := by
  intro reply clean answered same
  obtain rfl := Except.ok.inj same
  exact fun strike => clean (Bool.and_eq_true_iff.mpr ⟨decide_eq_true rfl, strike⟩)

theorem keeps_run_ready (connection : DatabaseConnection) :
    Keeps name (fun measured => Blameless (fun _ => True) measured.1)
      (run_ready debug_duration name connection vector config :
        TunerProgram B (Except SampleMeasureError SampleMeasurement × DatabaseConnection)) := by
  refine keeps_bind (keeps_any _) fun started _ => ?_
  refine keeps_bind (barring_passed spares_transaction (fun _ operation => keeps_operate operation) ()) ?_
  rintro ⟨result, _⟩ blameless
  refine keeps_bind (keeps_any _) fun finished _ => keeps_bind (keeps_any _) fun now _ => ?_
  cases Pacer.run_ready connection.pacer started finished now with
  | none =>
    rintro value same
    cases same
  | some pacer => exact keeps_pure blameless

theorem keeps_measure_sample (connection : DatabaseConnection) :
    Keeps name (fun measured => Up measured.2) (measure_sample debug_duration name vector config (.Connected connection) :
      TunerProgram B (Except SampleMeasureError SampleMeasurement × DataSourceRuntime)) := by
  refine barring_bind (fun result => ∀ value, result = .ok value → Blameless (fun _ => True) value.1) ?_
    (fun error _ value same => by cases same) ?_
  · refine keeps_bind (keeps_any _) fun cancelled _ => ?_
    cases cancelled with
    | true =>
      refine keeps_pure ?_
      intro message blamed
      cases blamed
    | false => exact keeps_run_ready connection
  · rintro ⟨result, connection⟩ known
    cases result with
    | ok measured => exact keeps_pure ⟨connection, rfl⟩
    | error error =>
      cases error with
      | Connection message => exact absurd rfl (known _ rfl message)
      | Database message => exact keeps_pure ⟨connection, rfl⟩
      | TableSmallerThanK returned k => exact keeps_pure ⟨connection, rfl⟩
      | CancelledBeforeTransaction => exact keeps_pure ⟨connection, rfl⟩

theorem keeps_request {runtime : DataSourceRuntime} (up : Up runtime) (effect : Effect B) :
    Keeps name (fun answered => Up answered.2) (request debug_duration name runtime effect) := by
  have passed : ∀ asked : Effect B, Keeps name (fun answered : Reply asked × DataSourceRuntime => Up answered.2)
      (do
        let reply ← Prog.perform (.round asked)
        return (reply, runtime)) := fun asked => keeps_bind (keeps_any _) fun reply _ => keeps_pure up
  cases effect with
  | measure_sample vector config =>
    obtain ⟨connection, rfl⟩ := up
    exact keeps_measure_sample connection
  | list lead => exact passed (.list lead)
  | get path => exact passed (.get path)
  | put path body => exact passed (.put path body)
  | is_cancelled => exact passed .is_cancelled

variable {codec : Codec B} {beta_reg : Float → Float → Float → Float} {timestamps : RoundTimestamps}

/-- A cohort round gives its connection up only when it is struck. -/
theorem keeps_run_cohort (cohort : CohortRuntime) (up : Up cohort.runtime) :
    Keeps cohort.data_source (fun result => Up result.2) (run_cohort debug_duration codec beta_reg timestamps cohort) :=
  barring_serve Up (fun _ effect still => keeps_request still effect) _ _ up

/-- The data source is connected. -/
def Holding (data_sources : DataSources) (name : String) : Prop :=
  ∃ connection, data_sources[name]? = some (.Connected connection)

theorem holding_insert {data_sources : DataSources} {runtime : DataSourceRuntime} (holding : Holding data_sources name)
    (here : source = name → Up runtime) : Holding (data_sources.insert source runtime) name := by
  unfold Holding
  rw [inserted]
  by_cases same : source = name
  · obtain ⟨connection, rfl⟩ := here same
    exact ⟨connection, if_pos same⟩
  · rw [if_neg same]
    exact holding

/-- Through the rounds of the cohorts a connection is kept that is not struck. -/
theorem keeps_run_cohorts {config : Config} {data_sources : DataSources} (cohorts : List CohortName) (report : RoundRunReport)
    (holding : Holding data_sources name) :
    Keeps name (fun result => Holding result.2 name)
      (run_cohorts debug_duration codec beta_reg config timestamps cohorts data_sources report) := by
  induction cohorts generalizing data_sources report with
  | nil => exact keeps_pure holding
  | cons cohort rest ih =>
    refine keeps_bind (keeps_any _) fun cancelled _ => ?_
    cases cancelled with
    | true => exact keeps_pure holding
    | false =>
      dsimp only
      cases running : cohort_runtime config data_sources cohort with
      | error message => exact ih _ holding
      | ok found =>
        refine barring_bind
          (fun result => ∀ value, result = .ok value → Holding (data_sources.insert found.data_source value.2) name) ?_
          (fun error _ value same => by cases same) ?_
        · by_cases here : found.data_source = name
          · subst here
            have up : Up found.runtime := by
              obtain ⟨connection, present⟩ := holding
              exact ⟨connection, Option.some.inj ((cohort_runtime_ok running).2.2.symm.trans present)⟩
            refine (keeps_run_cohort found up).mono ?_
            exact fun result still value same => holding_insert holding fun _ => still value same
          · exact barring_any _ fun result value _ => holding_insert holding fun same => absurd same here
        · rintro ⟨result, runtime⟩ known
          have still := known _ rfl
          cases result with
          | error error => exact ih _ still
          | ok outcome =>
            cases outcome with
            | Published output => exact ih _ still
            | Cancelled => exact keeps_pure still

end Rounds

end VectorSeam.Strikes
