import VectorSeam.Connections

/-!
The protocol of one sample transaction. After BEGIN every setting and query needs the
success of those before it; once the server has refused one, only ROLLBACK may follow, and
once the client has failed, nothing. A sample is measured only in a transaction that was
committed, and a failure of the database is reported only of one that was rolled back or
that never began.
-/

namespace VectorSeam.Transactions
open VectorSeam.Model VectorSeam.Effects VectorSeam.Programs VectorSeam.Estimators VectorSeam.Durations
open VectorSeam.Database VectorSeam.Typestates

/-- How a transaction ended. -/
inductive Ended where
  | Committed
  | RolledBack
  | NotBegun
  | Lost
deriving DecidableEq

inductive Transaction where
  | Before
  | Open
  /-- The server has refused a statement. -/
  | Refused
  | Over (ended : Ended)
deriving DecidableEq

/-- After this failure the connection cannot be used again. -/
def fatal : ClientFailure → Bool
  | .Failed error => error.is_closed
  | .Elapsed => true

def statement {α : Type} : Except ClientFailure α → Transaction
  | .ok _ => .Open
  | .error failure => if fatal failure then .Over .Lost else .Refused

/-- What may be done in a transaction. -/
def Transaction.advance : Transaction → (operation : Operation) → Answer operation → Option Transaction
  | .Before, .begin_transaction, .ok () => some .Open
  | .Before, .begin_transaction, .error failure => some (.Over (if fatal failure then .Lost else .NotBegun))
  | .Open, .batch_execute _, reply => some (statement reply)
  | .Open, .query _ _, reply => some (statement reply)
  | .Open, .commit, .ok () => some (.Over .Committed)
  | .Open, .commit, .error _ => some (.Over .Lost)
  | .Open, .rollback, .ok () => some (.Over .RolledBack)
  | .Open, .rollback, .error _ => some (.Over .Lost)
  | .Refused, .rollback, .ok () => some (.Over .RolledBack)
  | .Refused, .rollback, .error _ => some (.Over .Lost)
  | _, _, _ => none

/-- Where the transaction is when the statements of a sample have given a result. -/
def Executed {α : Type} : Except SampleMeasureError α → Transaction → Prop
  | .ok _, phase => phase = .Open
  | .error (.Connection _), phase => phase = .Open ∨ phase = .Over .Lost
  | .error (.Database _), phase => phase = .Open ∨ phase = .Refused
  | .error (.TableSmallerThanK _ _), phase => phase = .Open
  | .error .CancelledBeforeTransaction, _ => False

/-- Where the transaction is when a sample has been measured or has failed. -/
def Concluded {α : Type} : Except SampleMeasureError α → Transaction → Prop
  | .ok _, phase => phase = .Over .Committed
  | .error (.Connection _), phase => phase = .Open ∨ phase = .Over .Lost
  | .error (.Database _), phase => phase = .Over .RolledBack ∨ phase = .Over .NotBegun
  | .error (.TableSmallerThanK _ _), phase => phase = .Over .RolledBack
  | .error .CancelledBeforeTransaction, _ => False

section Statements
variable {debug_duration : Duration → String} {client_timeout statement_timeout : Duration} {vector : List UInt32}
  {config : AggregationConfig}

/-- The error of a statement tells what is left of the transaction. -/
theorem statement_executed {α : Type} (operation : String) (reply : Except ClientFailure α) :
    Executed (client_operation debug_duration client_timeout operation reply) (statement reply) := by
  cases reply with
  | ok value => rfl
  | error failure =>
    cases failure with
    | Elapsed => exact .inr rfl
    | Failed error =>
      cases closed : error.is_closed with
      | true => simp [client_operation, database_sample_error, statement, fatal, closed, Executed]
      | false => simp [client_operation, database_sample_error, statement, fatal, closed, Executed]

/-- A step that needs no statement fails while the transaction is open. -/
def Local {α : Type} (result : Except SampleMeasureError α) : Prop := result ≠ .error .CancelledBeforeTransaction

theorem Local.executed {α : Type} {result : Except SampleMeasureError α} (at_hand : Local result) :
    Executed result .Open := by
  cases result with
  | ok value => rfl
  | error error =>
    cases error with
    | Connection message => exact .inl rfl
    | Database message => exact .inl rfl
    | TableSmallerThanK returned k => rfl
    | CancelledBeforeTransaction => exact at_hand rfl

theorem local_bind {α β : Type} {first : Except SampleMeasureError α} {next : α → Except SampleMeasureError β}
    (early : Local first) (late : ∀ value, Local (next value)) : Local (first >>= next) := by
  cases first with
  | ok value => exact late value
  | error error => exact fun same => early (by cases same; rfl)

theorem local_pure {α : Type} (value : α) : Local (pure value) := by
  intro same
  cases same

theorem local_mapM {α β : Type} {step : α → Except SampleMeasureError β} (each : ∀ value, Local (step value))
    (values : List α) : Local (values.mapM step) := by
  induction values with
  | nil => exact local_pure _
  | cons value rest ih =>
    rw [List.mapM_cons]
    exact local_bind (each value) fun _ => local_bind ih fun _ => local_pure _

theorem local_column {α : Type} (column : Except PostgresError α) : Local (column.mapError database_sample_error) := by
  cases column with
  | ok value => intro same; cases same
  | error error =>
    intro same
    have known := Except.error.inj same
    cases closed : error.is_closed with
    | true => simp [database_sample_error, closed] at known
    | false => simp [database_sample_error, closed] at known

theorem local_decode_key (row : Row) : Local (decode_key row) := by
  unfold decode_key
  split
  · exact local_column _
  · exact local_column _
  · exact local_column _
  · intro same; cases same

theorem local_decode_keys (rows : List Row) : Local (decode_keys rows) := local_mapM local_decode_key rows

theorem local_decode_ground_truth (rows : List Row) : Local (decode_ground_truth rows) :=
  local_bind (local_decode_keys rows) fun _ =>
    local_bind (local_mapM (fun row => local_column row.distance) rows) fun _ => local_pure _

theorem local_check_table (rows : List Row) : Local (check_table config rows) := by
  unfold check_table
  split
  · intro same; cases same
  · intro same; cases same

theorem local_sweep_result (gt_keys : List Int) (ef : Int) (rows : List Row) (elapsed : Duration) :
    Local (sweep_result config gt_keys ef rows elapsed) := by
  refine local_bind (local_decode_keys rows) fun returned_keys => local_bind ?_ fun _ => local_pure _
  cases recall_at_k gt_keys returned_keys config.k with
  | ok value => intro same; cases same
  | error error => intro same; cases same

/-! ### The statements of a sample -/

/-- A program that makes the statements of an open transaction. -/
abbrev Executes {α : Type} (program : Session α) : Prop :=
  Follows (ε := SampleMeasureError) Transaction.advance Executed .Open program

/-- An error leaves the sequence, wherever the transaction is then. -/
theorem executed_error {α β : Type} (error : SampleMeasureError) (phase : Transaction)
    (executed : Executed (.error error : Except SampleMeasureError α) phase) :
    Executed (.error error : Except SampleMeasureError β) phase := by
  cases error with
  | Connection message => exact executed
  | Database message => exact executed
  | TableSmallerThanK returned k => exact executed
  | CancelledBeforeTransaction => exact executed

theorem executes_bind {α β : Type} {program : Session α} {next : α → Session β} (first : Executes program)
    (second : ∀ value, Executes (next value)) : Executes (program >>= next) := by
  refine follows_bind _ first (fun error phase => executed_error error phase) fun value phase opened => ?_
  obtain rfl : phase = .Open := opened
  exact second value

theorem executes_lift {α : Type} {result : Except SampleMeasureError α} (at_hand : Local result) :
    Executes (Prog.lift result : Session α) := follows_lift at_hand.executed

theorem executes_counted (sql : String) : Executes (execute_counted debug_duration client_timeout sql) :=
  follows_perform_bind fun reply => ⟨statement reply, rfl, follows_lift (statement_executed _ reply)⟩

theorem executes_query (operation sql : String) :
    Executes (query debug_duration client_timeout operation sql vector) :=
  follows_perform_bind fun reply => ⟨statement reply, rfl, follows_lift (statement_executed _ reply)⟩

theorem executes_sweeps (gt_keys order : List Int) :
    Executes (measure_sweeps debug_duration client_timeout vector config gt_keys order) := by
  induction order with
  | nil => exact follows_pure rfl
  | cons ef rest ih =>
    refine executes_bind (executes_counted _) fun _ => ?_
    refine executes_bind (executes_query _ _) fun reply => ?_
    refine executes_bind (executes_lift (local_sweep_result _ _ _ _)) fun sweep => ?_
    exact executes_bind ih fun sweeps => follows_pure rfl

theorem executes_measurement :
    Executes (measure_in_transaction debug_duration client_timeout statement_timeout vector config) := by
  refine executes_bind (executes_counted _) fun _ => ?_
  refine executes_bind (executes_counted _) fun _ => ?_
  refine executes_bind (executes_query _ _) fun truth => ?_
  refine executes_bind (executes_lift (local_check_table _)) fun _ => ?_
  refine executes_bind (executes_lift (local_decode_ground_truth _)) fun decoded => ?_
  refine executes_bind (executes_counted _) fun _ => ?_
  exact executes_bind (executes_sweeps _ _) fun sweeps => follows_pure rfl

/-! ### The transaction -/

/-- A rollback ends what an error has left of the transaction. -/
private theorem follows_rollback {α : Type} {primary : SampleMeasureError} {phase : Transaction}
    (reached : phase = .Open ∨ phase = .Refused)
    (holds : Concluded (.error primary : Except SampleMeasureError α) (.Over .RolledBack))
    (usable : ∀ message, primary ≠ .Connection message) :
    Follows Transaction.advance Concluded phase
      (finish_transaction debug_duration client_timeout (.error primary) : Session α) := by
  have moves : ∀ outcome, Transaction.advance phase .rollback outcome =
      some (.Over (if outcome.isOk then .RolledBack else .Lost)) := by
    intro outcome
    rcases reached with rfl | rfl <;> cases outcome <;> rfl
  have undone : ∀ next : Except ClientFailure Unit → Session α, (∀ done, next (.ok done) = .fail primary) →
      (∀ failure, ∃ message, next (.error failure) = .fail (.Connection message)) →
      Follows Transaction.advance Concluded phase (Prog.perform .rollback >>= next) := by
    intro next kept lost
    refine follows_perform_bind fun reply => ⟨_, moves reply, ?_⟩
    cases reply with
    | ok done =>
      rw [kept done]
      exact holds
    | error failure =>
      obtain ⟨message, failed⟩ := lost failure
      rw [failed]
      exact .inr rfl
  cases primary with
  | Connection message => exact absurd rfl (usable message)
  | Database message => exact undone _ (fun _ => rfl) fun failure => by cases failure <;> exact ⟨_, rfl⟩
  | TableSmallerThanK returned k => exact undone _ (fun _ => rfl) fun failure => by cases failure <;> exact ⟨_, rfl⟩
  | CancelledBeforeTransaction => exact undone _ (fun _ => rfl) fun failure => by cases failure <;> exact ⟨_, rfl⟩

theorem follows_finish {α : Type} {result : Except SampleMeasureError α} {phase : Transaction}
    (executed : Executed result phase) :
    Follows Transaction.advance Concluded phase (finish_transaction debug_duration client_timeout result) := by
  cases result with
  | ok value =>
    obtain rfl : phase = .Open := executed
    refine follows_perform_bind fun reply => ?_
    cases reply with
    | ok done => exact ⟨.Over .Committed, rfl, rfl⟩
    | error failure =>
      refine ⟨.Over .Lost, rfl, ?_⟩
      cases failure with
      | Elapsed => exact .inr rfl
      | Failed error => exact .inr rfl
  | error primary =>
    cases primary with
    | Connection message => exact executed
    | Database message => exact follows_rollback executed (.inl rfl) (by simp)
    | TableSmallerThanK returned k => exact follows_rollback (.inl executed) rfl (by simp)
    | CancelledBeforeTransaction => exact executed.elim

/-- Whatever the database answers, a sample transaction keeps to the protocol and ends as its result says. -/
theorem follows_transaction :
    Follows Transaction.advance Concluded .Before
      (run_sample_transaction debug_duration client_timeout statement_timeout vector config) := by
  refine follows_bind (fun result phase => match result with
    | .ok _ => phase = .Open
    | .error error => Concluded (.error error : Except SampleMeasureError SampleMeasurement) phase) ?_ ?_ ?_
  · refine follows_perform_bind fun reply => ?_
    cases reply with
    | ok done => exact ⟨.Open, rfl, rfl⟩
    | error failure =>
      refine ⟨.Over (if fatal failure then .Lost else .NotBegun), rfl, ?_⟩
      cases failure with
      | Elapsed => exact .inr rfl
      | Failed error =>
        cases closed : error.is_closed with
        | true => simp [client_operation, database_sample_error, fatal, closed, Prog.lift, Follows, Concluded]
        | false => simp [client_operation, database_sample_error, fatal, closed, Prog.lift, Follows, Concluded]
  · exact fun error phase concluded => concluded
  · rintro begun phase rfl
    refine follows_bind (fun result phase => ∃ caught, result = .ok caught ∧ Executed caught phase)
      (follows_attempt executes_measurement fun result phase executed => ⟨result, rfl, executed⟩) ?_ ?_
    · rintro error phase ⟨caught, same, _⟩
      cases same
    · rintro caught phase ⟨result, same, executed⟩
      obtain rfl := Except.ok.inj same
      exact follows_finish executed

end Statements

end VectorSeam.Transactions
