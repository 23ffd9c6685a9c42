import VectorSeam.Transactions
import VectorSeam.Tuner

/-!
The connections of the tuner over its whole life. A line to a data source is down until it
is connected and must not be connected again before it was given up; its units of work are
separate transactions, each with its readings of the clock; what was lost or found closed
is used no more. Every run keeps every line to this, and a tuner that has shut down leaves
none open.
-/

namespace VectorSeam.Lines
open VectorSeam.Model VectorSeam.ObjectStore VectorSeam.Cohort VectorSeam.Effects VectorSeam.Programs VectorSeam.Estimators
open VectorSeam.Aggregate VectorSeam.Durations VectorSeam.Configuration VectorSeam.Intermediate VectorSeam.Pipeline VectorSeam.Database
open VectorSeam.Handlers VectorSeam.Typestates VectorSeam.Connections VectorSeam.Tuner VectorSeam.Transactions

/-- The line to a data source. -/
inductive Line where
  | Down
  /-- Connected, the pacer not yet started. -/
  | Opened
  | Idle
  /-- Found closed. -/
  | Stale
  /-- The cooldown is over. -/
  | Awake
  | Working (transaction : Transaction)
  /-- The end of the unit of work has been read. -/
  | Charged (ended : Ended)
  /-- Lost, and still to be abandoned. -/
  | Spent
deriving DecidableEq

section Lines
variable {B : Type}

/-- The data source that an effect goes to. -/
def target : TunerEffect B → Option String
  | .connect data_source _ => some data_source
  | .is_closed data_source => some data_source
  | .abandon data_source => some data_source
  | .close data_source => some data_source
  | .drop data_source => some data_source
  | .sleep_until data_source _ => some data_source
  | .clock data_source => some data_source
  | .operate data_source _ => some data_source
  | _ => none

def Line.step : Line → (effect : TunerEffect B) → TunerReply effect → Option Line
  | .Down, .connect _ _, .ok () => some .Opened
  | .Down, .connect _ _, .error _ => some .Down
  | .Opened, .clock _, _ => some .Idle
  | .Idle, .is_closed _, closed => some (if closed then .Stale else .Idle)
  | .Stale, .abandon _, _ => some .Down
  | .Idle, .sleep_until _ _, cancelled => some (if cancelled then .Idle else .Awake)
  | .Awake, .clock _, _ => some (.Working .Before)
  | .Working transaction, .operate _ operation, reply => (transaction.advance operation reply).map .Working
  | .Working .Open, .clock _, _ => some (.Charged .Lost)
  | .Working (.Over ended), .clock _, _ => some (.Charged ended)
  | .Charged .Lost, .clock _, _ => some .Spent
  | .Charged _, .clock _, _ => some .Idle
  | .Spent, .abandon _, _ => some .Down
  | .Idle, .close _, _ => some .Down
  | .Idle, .drop _, _ => some .Down
  | _, _, _ => none

/-- The line to one data source; exchanges with the others leave it alone. -/
def Line.advance (name : String) (line : Line) (effect : TunerEffect B) (reply : TunerReply effect) : Option Line :=
  if target effect = some name then line.step effect reply else some line

theorem advance_here {name : String} {line : Line} {effect : TunerEffect B} {reply : TunerReply effect}
    (here : target effect = some name) : line.advance name effect reply = line.step effect reply := if_pos here

theorem advance_elsewhere {name : String} {line : Line} {effect : TunerEffect B} {reply : TunerReply effect}
    (elsewhere : target effect ≠ some name) : line.advance name effect reply = some line := if_neg elsewhere

/-- What the tuner has of a data source tells where its line is. -/
def line_of : Option DataSourceRuntime → Line
  | some (.Connected _) => .Idle
  | some (.Unavailable _) => .Down
  | none => .Down

/-- The line to a data source that has to be connected again. -/
def line_before_reconnect : Option DataSourceRuntime → Line
  | some (.Connected _) => .Stale
  | some (.Unavailable _) => .Down
  | none => .Down

variable {ε α : Type} {name source : String} {line : Line} {debug : String → String} {debug_duration : Duration → String}

/-- A program that goes to other data sources only leaves the line where it is. -/
theorem follows_elsewhere {post : Except ε α → Line → Prop} {program : Prog (TunerEffect B) TunerReply ε α}
    (performs : Performs (fun effect => target effect ≠ some name) program) (ends : ∀ result, post result line) :
    Follows (Line.advance name) post line program :=
  follows_unmoved (performs.mono fun _ elsewhere _ => advance_elsewhere elsewhere) ends

/-! ### Connecting -/

section Connect
variable {data_source : DataSourceConfig} {budget : BudgetConfig}

theorem password_elsewhere (password_env : Option String) :
    Performs (fun effect => target effect ≠ some name) (password password_env : Prog (TunerEffect B) TunerReply _ _) := by
  cases password_env with
  | none => exact performs_pure
  | some variable_name =>
    refine performs_bind (performs_perform (by simp [target])) fun reply => ?_
    split
    · exact performs_pure
    · trivial
    · trivial

theorem connect_elsewhere (different : source ≠ name) :
    Performs (fun effect => target effect ≠ some name) (connect source data_source budget : Prog (TunerEffect B) TunerReply _ _) := by
  have other : some source ≠ some name := fun same => different (Option.some.inj same)
  refine performs_bind performs_lift fun address => performs_bind (password_elsewhere _) fun password => ?_
  refine performs_bind (performs_perform other) fun reply => ?_
  split
  · trivial
  · trivial
  · exact performs_bind (performs_perform other) fun now => performs_bind performs_lift fun pacer => performs_pure

/-- Where a line is when it has been connected or has not. -/
def Connected {α : Type} : Except ε α → Line → Prop
  | .ok _, line => line = .Idle
  | .error _, line => line = .Down

theorem follows_password (password_env : Option String) :
    Follows (Line.advance name) (fun _ line => line = .Down) .Down
      (password password_env : Prog (TunerEffect B) TunerReply _ _) :=
  follows_elsewhere (password_elsewhere password_env) fun _ => rfl

/-- With a share that the pacer accepts, a line is idle exactly when it was connected. -/
theorem follows_connect (share : 0.0 < budget.db_share ∧ budget.db_share ≤ 1.0) :
    Follows (Line.advance name) Connected .Down (connect name data_source budget : Prog (TunerEffect B) TunerReply _ _) := by
  refine follows_bind (fun _ line => line = .Down) (follows_lift rfl) (fun _ _ down => down) ?_
  rintro ⟨host, port⟩ _ rfl
  refine follows_bind (fun _ line => line = .Down) (follows_password _) (fun _ _ down => down) ?_
  rintro password _ rfl
  refine follows_perform_bind fun reply => ?_
  rw [advance_here rfl]
  cases reply with
  | error failure =>
    refine ⟨.Down, rfl, ?_⟩
    cases failure with
    | Elapsed => exact follows_fail rfl
    | Failed error => exact follows_fail rfl
  | ok done =>
    refine ⟨.Opened, rfl, follows_perform_bind fun now => ⟨.Idle, by rw [advance_here rfl]; rfl, ?_⟩⟩
    obtain ⟨pacer, accepted⟩ := Startup.pacer_accepts share now
    rw [accepted]
    exact follows_pure rfl

theorem follows_connect_data_source (share : 0.0 < budget.db_share ∧ budget.db_share ≤ 1.0) :
    Follows (Line.advance name) (fun result line => ∃ runtime, result = .ok runtime ∧ line = line_of (some runtime)) .Down
      (connect_data_source debug debug_duration name data_source budget : TunerProgram B DataSourceRuntime) := by
  refine follows_bind (fun result line => ∃ caught, result = .ok caught ∧ Connected caught line)
    (follows_attempt (follows_connect share) fun caught line connected => ⟨caught, rfl, connected⟩) ?_ ?_
  · rintro error line ⟨caught, same, _⟩
    cases same
  · rintro caught line ⟨result, same, connected⟩
    obtain rfl := Except.ok.inj same
    cases caught with
    | ok connection => exact ⟨_, rfl, connected⟩
    | error error => exact ⟨_, rfl, connected⟩

theorem connect_data_source_elsewhere (different : source ≠ name) :
    Performs (fun effect => target effect ≠ some name)
      (connect_data_source debug debug_duration source data_source budget : TunerProgram B DataSourceRuntime) := by
  refine performs_bind (performs_attempt (connect_elsewhere different)) fun result => ?_
  cases result with
  | ok connection => exact performs_pure
  | error error => exact performs_pure

end Connect

/-! ### Measuring -/

section Measuring
variable {vector : List UInt32} {config : AggregationConfig}

/-- A program of the tuner after which the line is where the data source is then; it may give up on an overflow. -/
abbrev Settles {α : Type} (name : String) (runtime : α → Option DataSourceRuntime) (line : Line) (program : TunerProgram B α) :
    Prop :=
  Follows (Line.advance name) (fun result line => ∀ value, result = .ok value → line = line_of (runtime value)) line program

theorem settles_pure {runtime : α → Option DataSourceRuntime} {value : α} (there : line = line_of (runtime value)) :
    Settles name runtime line (pure value : TunerProgram B α) := by
  refine follows_pure ?_
  rintro other same
  exact Except.ok.inj same ▸ there

theorem settles_bind {β : Type} {runtime : β → Option DataSourceRuntime} (middle : α → Line → Prop) {program : TunerProgram B α}
    {next : α → TunerProgram B β}
    (first : Follows (Line.advance name) (fun result line => ∀ value, result = .ok value → middle value line) line program)
    (second : ∀ value line, middle value line → Settles name runtime line (next value)) :
    Settles name runtime line (program >>= next) := by
  refine follows_bind _ first ?_ ?_
  · rintro error line _ value same
    cases same
  · intro value line holds
    exact second value line (holds value rfl)

theorem settles_perform_bind {runtime : α → Option DataSourceRuntime} {effect : TunerEffect B}
    {next : TunerReply effect → TunerProgram B α}
    (each : ∀ reply, ∃ later, line.advance name effect reply = some later ∧ Settles name runtime later (next reply)) :
    Settles name runtime line ((Prog.perform effect : TunerProgram B (TunerReply effect)) >>= next) := follows_perform_bind each

theorem operate_passed (transaction : Transaction) (operation : Operation)
    (steps : ∀ reply, ∃ later, transaction.advance operation reply = some later) :
    Follows (Line.advance name) (fun result line => match result with
      | .ok answered => ∀ later, transaction.advance operation answered.1 = some later → line = .Working later
      | .error _ => True) (.Working transaction) (operate name () operation : TunerProgram B (Answer operation × Unit)) := by
  refine follows_perform_bind fun reply => ?_
  obtain ⟨later, stepped⟩ := steps reply
  refine ⟨.Working later, ?_, ?_⟩
  · rw [advance_here rfl]
    simp [Line.step, stepped]
  · refine follows_pure ?_
    intro other same
    exact congrArg Line.Working (Option.some.inj (stepped.symm.trans same))

/-- The line after a unit of work: idle, or spent where its result is the loss of the connection. -/
def after_unit {α : Type} : Except SampleMeasureError α → Line
  | .error (.Connection _) => .Spent
  | _ => .Idle

/-- The two readings of the clock after a transaction. -/
theorem charged_of_concluded {result : Except SampleMeasureError α} {transaction : Transaction}
    (concluded : Concluded result transaction) : ∃ ended,
      (∀ now, Line.advance (B := B) name (.Working transaction) (.clock name) now = some (.Charged ended)) ∧
      ∀ now, Line.advance (B := B) name (.Charged ended) (.clock name) now = some (after_unit result) := by
  have clocked : ∀ (line : Line) (now : Instant),
      Line.advance (B := B) name line (.clock name) now = line.step (.clock name : TunerEffect B) now :=
    fun line now => advance_here rfl
  simp only [clocked]
  cases result with
  | ok value =>
    obtain rfl : transaction = .Over .Committed := concluded
    exact ⟨.Committed, fun _ => rfl, fun _ => rfl⟩
  | error error =>
    cases error with
    | Connection message =>
      rcases concluded with rfl | rfl
      · exact ⟨.Lost, fun _ => rfl, fun _ => rfl⟩
      · exact ⟨.Lost, fun _ => rfl, fun _ => rfl⟩
    | Database message =>
      rcases concluded with rfl | rfl
      · exact ⟨.RolledBack, fun _ => rfl, fun _ => rfl⟩
      · exact ⟨.NotBegun, fun _ => rfl, fun _ => rfl⟩
    | TableSmallerThanK returned k =>
      obtain rfl : transaction = .Over .RolledBack := concluded
      exact ⟨.RolledBack, fun _ => rfl, fun _ => rfl⟩
    | CancelledBeforeTransaction => exact concluded.elim

theorem follows_run_ready (connection : DatabaseConnection) :
    Follows (Line.advance name) (fun result line => ∀ value, result = .ok value →
        line = after_unit value.1) .Awake
      (run_ready debug_duration name connection vector config :
        TunerProgram B (Except SampleMeasureError SampleMeasurement × DatabaseConnection)) := by
  refine follows_perform_bind fun started => ⟨.Working .Before, by rw [advance_here rfl]; rfl, ?_⟩
  refine follows_bind (fun result line => ∀ value, result = .ok value →
    ∃ transaction, line = .Working transaction ∧ Concluded value.1 transaction) ?_ ?_ ?_
  · refine follows_passed (fun transaction line => line = .Working transaction) () follows_transaction ?_ ?_ rfl
    · rintro _ line transaction operation rfl steps
      refine (operate_passed transaction operation steps).mono ?_
      intro result line holds
      cases result with
      | ok answered => exact holds
      | error error => intro value same; cases same
    · rintro result _ transaction line concluded rfl value same
      obtain rfl := Except.ok.inj same
      exact ⟨transaction, rfl, concluded⟩
  · rintro error line _ value same
    cases same
  · rintro ⟨result, _⟩ line holds
    obtain ⟨transaction, rfl, concluded⟩ := holds _ rfl
    obtain ⟨ended, first, second⟩ := charged_of_concluded (B := B) concluded
    refine follows_perform_bind fun finished => ⟨.Charged ended, first finished, ?_⟩
    refine follows_perform_bind fun now => ⟨after_unit result, second now, ?_⟩
    cases Pacer.run_ready connection.pacer started finished now with
    | none =>
      refine follows_fail ?_
      intro value same
      cases same
    | some pacer =>
      refine follows_pure ?_
      intro value same
      exact Except.ok.inj same ▸ rfl

theorem settles_measure_connected (connection : DatabaseConnection) :
    Follows (Line.advance name) (fun result line => ∀ value, result = .ok value → line = after_unit value.1) .Idle
      (measure_connected debug_duration name connection vector config :
        TunerProgram B (Except SampleMeasureError SampleMeasurement × DatabaseConnection)) := by
  refine follows_perform_bind fun cancelled => ?_
  rw [advance_here rfl]
  cases cancelled with
  | true =>
    refine ⟨.Idle, rfl, follows_pure ?_⟩
    intro value same
    exact Except.ok.inj same ▸ rfl
  | false => exact ⟨.Awake, rfl, follows_run_ready connection⟩

/-- A measurement leaves the line where the data source is afterwards. -/
theorem settles_measure_sample (runtime : DataSourceRuntime) :
    Settles name (fun value => some value.2) (line_of (some runtime))
      (measure_sample debug_duration name vector config runtime :
        TunerProgram B (Except SampleMeasureError SampleMeasurement × DataSourceRuntime)) := by
  cases runtime with
  | Unavailable error => exact settles_pure rfl
  | Connected connection =>
    refine settles_bind _ (settles_measure_connected connection) ?_
    rintro ⟨result, connection⟩ _ rfl
    cases result with
    | ok measured => exact settles_pure rfl
    | error error =>
      cases error with
      | Connection message =>
        refine settles_bind (fun _ line => line = .Down) (follows_perform_bind fun driver => ?_) ?_
        · refine ⟨.Down, by rw [advance_here rfl]; rfl, follows_pure fun _ _ => rfl⟩
        · rintro _ _ rfl
          exact settles_pure rfl
      | Database message => exact settles_pure rfl
      | TableSmallerThanK returned k => exact settles_pure rfl
      | CancelledBeforeTransaction => exact settles_pure rfl

theorem settles_request (runtime : DataSourceRuntime) (effect : Effect B) :
    Settles name (fun value => some value.2) (line_of (some runtime)) (request debug_duration name runtime effect) := by
  have passed : ∀ (asked : Effect B), Settles name (fun value : Reply asked × DataSourceRuntime => some value.2)
      (line_of (some runtime)) (do
        let reply ← Prog.perform (.round asked)
        return (reply, runtime)) := by
    intro asked
    exact settles_perform_bind fun reply => ⟨_, advance_elsewhere (by simp [target]), settles_pure rfl⟩
  cases effect with
  | measure_sample vector config => exact settles_measure_sample runtime
  | list lead => exact passed (.list lead)
  | get path => exact passed (.get path)
  | put path body => exact passed (.put path body)
  | is_cancelled => exact passed .is_cancelled

/-- A cohort round leaves the line where its data source is afterwards. -/
theorem settles_run_cohort {codec : Codec B} {beta_reg : Float → Float → Float → Float} {timestamps : RoundTimestamps}
    (cohort : CohortRuntime) :
    Settles cohort.data_source (fun value => some value.2) (line_of (some cohort.runtime))
      (run_cohort debug_duration codec beta_reg timestamps cohort) := by
  refine follows_serve (fun runtime line => line = line_of (some runtime)) (performs_any _) ?_ ?_ _ rfl
  · rintro runtime line effect _ rfl
    refine (settles_request runtime effect).mono ?_
    intro result line holds
    cases result with
    | ok answered => exact holds answered rfl
    | error error => intro value same; cases same
  · rintro result runtime line rfl value same
    exact Except.ok.inj same ▸ rfl

theorem run_ready_elsewhere (different : source ≠ name) (connection : DatabaseConnection) :
    Performs (fun effect => target effect ≠ some name) (run_ready debug_duration source connection vector config :
      TunerProgram B (Except SampleMeasureError SampleMeasurement × DatabaseConnection)) := by
  have other : some source ≠ some name := fun same => different (Option.some.inj same)
  refine performs_bind (performs_perform other) fun started => ?_
  refine performs_bind (performs_serve (performs_any _) (fun _ operation _ => ?_) ()) fun result => ?_
  · exact performs_bind (performs_perform other) fun reply => performs_pure
  · refine performs_bind (performs_perform other) fun finished => performs_bind (performs_perform other) fun now => ?_
    split
    · trivial
    · exact performs_pure

theorem measure_sample_elsewhere (different : source ≠ name) (runtime : DataSourceRuntime) :
    Performs (fun effect => target effect ≠ some name) (measure_sample debug_duration source vector config runtime :
      TunerProgram B (Except SampleMeasureError SampleMeasurement × DataSourceRuntime)) := by
  have other : some source ≠ some name := fun same => different (Option.some.inj same)
  cases runtime with
  | Unavailable error => exact performs_pure
  | Connected connection =>
    refine performs_bind (performs_bind (performs_perform other) fun cancelled => ?_) fun measured => ?_
    · cases cancelled with
      | true => exact performs_pure
      | false => exact run_ready_elsewhere different connection
    · have given_up : Performs (fun effect => target effect ≠ some name) (abandon source : TunerProgram B _) :=
        performs_bind (performs_perform other) fun driver => performs_pure
      dsimp only
      split
      · exact performs_bind given_up fun _ => performs_pure
      · exact performs_pure

/-- A cohort round goes to no data source but its own. -/
theorem run_cohort_elsewhere {codec : Codec B} {beta_reg : Float → Float → Float → Float} {timestamps : RoundTimestamps}
    {cohort : CohortRuntime} (different : cohort.data_source ≠ name) :
    Performs (fun effect => target effect ≠ some name) (run_cohort debug_duration codec beta_reg timestamps cohort) := by
  refine performs_serve (performs_any _) (fun runtime effect _ => ?_) _
  have passed : ∀ asked : Effect B, Performs (fun effect => target effect ≠ some name)
      (do
        let reply ← Prog.perform (.round asked)
        return (reply, runtime) : TunerProgram B (Reply asked × DataSourceRuntime)) := by
    intro asked
    exact performs_bind (performs_perform (by simp [target])) fun reply => performs_pure
  cases effect with
  | measure_sample vector config => exact measure_sample_elsewhere different runtime
  | list lead => exact passed (.list lead)
  | get path => exact passed (.get path)
  | put path body => exact passed (.put path body)
  | is_cancelled => exact passed .is_cancelled

end Measuring

/-! ### Rounds -/

section Rounds
variable {codec : Codec B} {beta_reg : Float → Float → Float → Float} {config : Config} {timestamps : RoundTimestamps}
  {data_sources : DataSources}

/-- What a round found for a cohort. -/
theorem cohort_runtime_ok {cohort : CohortName} {found : CohortRuntime}
    (running : cohort_runtime config data_sources cohort = .ok found) :
    for_cohort config cohort = some found.config ∧
      (∃ entry index, config.cohorts[cohort.name]? = some entry ∧ config.indexes[entry.2.index]? = some index ∧
        found.data_source = index.data_source) ∧
      data_sources[found.data_source]? = some found.runtime := by
  unfold cohort_runtime at running
  split at running
  · rename_i projected projection
    split at running
    · rename_i entry cohort_config configured
      split at running
      · rename_i index indexed
        split at running
        · rename_i runtime present
          obtain rfl := Except.ok.inj running
          exact ⟨projection, ⟨_, index, configured, indexed, rfl⟩, present⟩
        · cases running
      · cases running
    · cases running
  · cases running

theorem inserted (runtime : DataSourceRuntime) :
    (data_sources.insert source runtime)[name]? = if source = name then some runtime else data_sources[name]? := by
  rw [Std.ExtTreeMap.getElem?_insert]
  simp

/-- After the rounds of some cohorts the line is where the data source is then. -/
theorem settles_run_cohorts (cohorts : List CohortName) (report : RoundRunReport) :
    Settles name (fun value => value.2[name]?) (line_of data_sources[name]?)
      (run_cohorts debug_duration codec beta_reg config timestamps cohorts data_sources report) := by
  induction cohorts generalizing data_sources report with
  | nil => exact settles_pure rfl
  | cons cohort rest ih =>
    refine settles_perform_bind fun cancelled => ⟨_, advance_elsewhere (by simp [target]), ?_⟩
    cases cancelled with
    | true => exact settles_pure rfl
    | false =>
      dsimp only
      cases running : cohort_runtime config data_sources cohort with
      | error message => exact ih _
      | ok found =>
        have present := (cohort_runtime_ok running).2.2
        refine settles_bind (fun value line => line = line_of (data_sources.insert found.data_source value.2)[name]?) ?_ ?_
        · by_cases here : found.data_source = name
          · subst here
            rw [present]
            refine (settles_run_cohort found).mono ?_
            intro result line holds value same
            rw [inserted, if_pos rfl]
            exact holds value same
          · refine follows_elsewhere (run_cohort_elsewhere here) ?_
            intro result value same
            rw [inserted, if_neg here]
        · rintro ⟨result, runtime⟩ _ rfl
          cases result with
          | error error => exact ih _
          | ok outcome =>
            cases outcome with
            | Published output => exact ih _
            | Cancelled => exact settles_pure rfl

/-! ### Reconnecting -/

/-- Where a line is between the choice of the data sources to reconnect and their connections. -/
def chosen_line (candidates : List (String × DataSourceConfig)) (name : String) (runtime : Option DataSourceRuntime) : Line :=
  if name ∈ candidates.map Prod.fst then line_before_reconnect runtime else line_of runtime

theorem chosen_here {candidates : List (String × DataSourceConfig)} {runtime : Option DataSourceRuntime}
    (config : DataSourceConfig) : chosen_line ((name, config) :: candidates) name runtime = line_before_reconnect runtime :=
  if_pos List.mem_cons_self

theorem chosen_elsewhere {candidates : List (String × DataSourceConfig)} {runtime : Option DataSourceRuntime}
    (config : DataSourceConfig) (different : source ≠ name) :
    chosen_line ((source, config) :: candidates) name runtime = chosen_line candidates name runtime := by
  have same : name ∈ ((source, config) :: candidates).map Prod.fst ↔ name ∈ candidates.map Prod.fst := by
    rw [List.map_cons, List.mem_cons]
    exact or_iff_right (Ne.symm different)
  unfold chosen_line
  by_cases member : name ∈ candidates.map Prod.fst
  · rw [if_pos member, if_pos (same.mpr member)]
  · rw [if_neg member, if_neg (mt same.mp member)]

theorem must_reconnect_elsewhere (different : source ≠ name) :
    Performs (fun effect => target effect ≠ some name) (must_reconnect data_sources source : TunerProgram B Bool) := by
  unfold must_reconnect
  split
  · exact performs_perform (fun same => different (Option.some.inj same))
  · exact performs_pure

theorem follows_must_reconnect :
    Follows (Line.advance name) (fun result line => ∀ reconnect, result = .ok reconnect →
        line = if reconnect then line_before_reconnect data_sources[name]? else line_of data_sources[name]?)
      (line_of data_sources[name]?) (must_reconnect data_sources name : TunerProgram B Bool) := by
  unfold must_reconnect
  cases present : data_sources[name]? with
  | none =>
    refine follows_pure ?_
    rintro reconnect same
    exact Except.ok.inj same ▸ rfl
  | some runtime =>
    cases runtime with
    | Unavailable error =>
      refine follows_pure ?_
      rintro reconnect same
      exact Except.ok.inj same ▸ rfl
    | Connected connection =>
      refine fun closed => ⟨if closed then .Stale else .Idle, by rw [advance_here rfl]; rfl, ?_⟩
      rintro reconnect same
      exact Except.ok.inj same ▸ rfl

theorem candidates_elsewhere (asked : List (String × DataSourceConfig)) (absent : name ∉ asked.map Prod.fst) :
    Performs (fun effect => target effect ≠ some name)
      (reconnect_candidates data_sources asked : TunerProgram B (List (String × DataSourceConfig))) := by
  induction asked with
  | nil => exact performs_pure
  | cons entry rest ih =>
    rw [List.map_cons, List.mem_cons, not_or] at absent
    exact performs_bind (must_reconnect_elsewhere (Ne.symm absent.1)) fun reconnect =>
      performs_bind (ih absent.2) fun candidates => performs_pure

/-- The data sources to reconnect are among those asked for, in their order. -/
theorem candidates_sublist (asked : List (String × DataSourceConfig)) :
    Safe (fun _ _ => True) (fun _ => True) (fun candidates => candidates.Sublist asked)
      (reconnect_candidates data_sources asked : TunerProgram B (List (String × DataSourceConfig))) := by
  induction asked with
  | nil => exact safe_pure (List.Sublist.refl _)
  | cons entry rest ih =>
    refine safe_bind (Performs.safe (performs_any _)) fun reconnect _ => safe_bind ih fun candidates among => safe_pure ?_
    cases reconnect with
    | true => exact among.cons_cons entry
    | false => exact among.cons entry

theorem follows_candidates (asked : List (String × DataSourceConfig)) (distinct : (asked.map Prod.fst).Nodup) :
    Follows (Line.advance name) (fun result line => ∀ candidates, result = .ok candidates →
        candidates.Sublist asked ∧ line = chosen_line candidates name data_sources[name]?)
      (line_of data_sources[name]?)
      (reconnect_candidates data_sources asked : TunerProgram B (List (String × DataSourceConfig))) := by
  induction asked with
  | nil =>
    refine follows_pure ?_
    rintro candidates same
    exact Except.ok.inj same ▸ ⟨List.Sublist.refl _, rfl⟩
  | cons entry rest ih =>
    obtain ⟨source, config⟩ := entry
    obtain ⟨fresh, others⟩ := List.nodup_cons.mp distinct
    by_cases here : source = name
    · subst here
      refine follows_bind _ follows_must_reconnect (by simp) ?_
      intro reconnect line asked
      obtain rfl := asked reconnect rfl
      -- the later data sources have other names
      refine follows_bind (fun result line => ∀ candidates, result = .ok candidates → candidates.Sublist rest ∧
        line = if reconnect then line_before_reconnect data_sources[source]? else line_of data_sources[source]?) ?_ (by simp) ?_
      · refine follows_unmoved_safe ((candidates_elsewhere rest fresh).mono fun _ elsewhere _ => advance_elsewhere elsewhere)
          (candidates_sublist rest) (by simp) ?_
        intro candidates among other same
        exact Except.ok.inj same ▸ ⟨among, rfl⟩
      · intro candidates line known
        obtain ⟨among, rfl⟩ := known candidates rfl
        refine follows_pure ?_
        rintro all same
        obtain rfl := Except.ok.inj same
        cases reconnect with
        | true => exact ⟨among.cons_cons _, (chosen_here config).symm⟩
        | false =>
          have absent : source ∉ candidates.map Prod.fst := fun member => fresh ((among.map Prod.fst).subset member)
          exact ⟨among.cons _, (if_neg absent).symm⟩
    · refine follows_bind (fun _ line => line = line_of data_sources[name]?)
        (follows_elsewhere (must_reconnect_elsewhere here) fun _ => rfl) (by simp) ?_
      rintro reconnect _ rfl
      refine follows_bind _ (ih others) (by simp) ?_
      intro candidates line known
      obtain ⟨among, rfl⟩ := known candidates rfl
      refine follows_pure ?_
      rintro all same
      obtain rfl := Except.ok.inj same
      cases reconnect with
      | true => exact ⟨among.cons_cons _, (chosen_elsewhere config here).symm⟩
      | false => exact ⟨among.cons _, rfl⟩

variable {budget : BudgetConfig}

theorem remove_elsewhere (different : source ≠ name) (runtime : Option DataSourceRuntime) :
    Performs (fun effect => target effect ≠ some name) (remove_connection source runtime : TunerProgram B Unit) := by
  unfold remove_connection
  split
  · have other : some source ≠ some name := fun same => different (Option.some.inj same)
    exact performs_bind (performs_bind (performs_perform other) fun driver => performs_pure) fun _ => performs_pure
  · exact performs_pure

theorem follows_remove (runtime : Option DataSourceRuntime) :
    Follows (Line.advance name) (fun result line => ∀ value, result = .ok value → line = .Down)
      (line_before_reconnect runtime) (remove_connection name runtime : TunerProgram B Unit) := by
  cases runtime with
  | none => exact follows_pure fun _ _ => rfl
  | some runtime =>
    cases runtime with
    | Unavailable error => exact follows_pure fun _ _ => rfl
    | Connected connection =>
      refine follows_bind (fun _ line => line = .Down) (follows_perform_bind fun driver => ?_) (by simp) ?_
      · exact ⟨.Down, by rw [advance_here rfl]; rfl, follows_pure rfl⟩
      · rintro _ _ rfl
        exact follows_pure fun _ _ => rfl

/-- After the reconnections the line is where the data source is then. -/
theorem settles_reconnect (share : 0.0 < budget.db_share ∧ budget.db_share ≤ 1.0)
    (candidates : List (String × DataSourceConfig)) (distinct : (candidates.map Prod.fst).Nodup) :
    Settles name (fun value => value[name]?) (chosen_line candidates name data_sources[name]?)
      (reconnect debug debug_duration budget candidates data_sources : TunerProgram B DataSources) := by
  induction candidates generalizing data_sources with
  | nil => exact settles_pure rfl
  | cons entry rest ih =>
    obtain ⟨source, config⟩ := entry
    obtain ⟨fresh, others⟩ := List.nodup_cons.mp distinct
    by_cases here : source = name
    · subst here
      rw [chosen_here]
      refine settles_bind _ (follows_remove _) ?_
      rintro _ _ rfl
      refine settles_bind (fun runtime line => line = line_of (some runtime)) ?_ ?_
      · refine (follows_connect_data_source share).mono ?_
        rintro result line ⟨runtime, rfl, there⟩ value same
        exact Except.ok.inj same ▸ there
      · rintro runtime _ rfl
        have later := @ih (data_sources.insert source runtime) others
        rwa [chosen_line, if_neg fresh, inserted, if_pos rfl] at later
    · rw [chosen_elsewhere config here]
      refine settles_bind (fun _ line => line = chosen_line rest name data_sources[name]?)
        (follows_elsewhere (remove_elsewhere here _) fun _ _ _ => rfl) ?_
      rintro _ _ rfl
      refine settles_bind (fun _ line => line = chosen_line rest name data_sources[name]?)
        (follows_elsewhere (connect_data_source_elsewhere here) fun _ _ _ => rfl) ?_
      rintro runtime _ rfl
      have later := @ih (data_sources.insert source runtime) others
      rwa [inserted, if_neg here] at later

theorem configured_distinct (config : Config) : (config.data_sources.toList.map Prod.fst).Nodup := by
  rw [Std.ExtTreeMap.map_fst_toList_eq_keys]
  exact Std.ExtTreeMap.nodup_keys

/-- Reconnecting leaves every line where the tuner then has its data source. -/
theorem settles_reconnections (valid : BudgetValid config.budget) :
    Settles name (fun value => value[name]?) (line_of data_sources[name]?)
      (reconnect_unavailable_data_sources debug debug_duration config data_sources : TunerProgram B DataSources) := by
  refine settles_bind _ (follows_candidates _ (configured_distinct config)) ?_
  rintro candidates _ ⟨among, rfl⟩
  exact settles_reconnect valid.db_share candidates ((configured_distinct config).sublist (among.map Prod.fst))

/-- A round leaves every line where the tuner then has its data source. -/
theorem settles_run_round (valid : BudgetValid config.budget) :
    Settles name (fun value => value.2[name]?) (line_of data_sources[name]?)
      (run_round debug debug_duration codec beta_reg config timestamps data_sources) := by
  refine settles_bind (fun sources line => line = line_of sources[name]?) (settles_reconnections valid) ?_
  rintro sources _ rfl
  exact settles_run_cohorts _ _

/-! ### The daemon -/

/-- A name that no entry has is another than each of theirs. -/
private theorem other_names {V : Type} {entries : List (String × V)} (fresh : source ∉ entries.map Prod.fst) :
    ∀ entry ∈ entries, entry.1 ≠ source :=
  fun entry member same => fresh (List.mem_map.mpr ⟨entry, member, same⟩)

theorem settles_connect_data_sources (share : 0.0 < budget.db_share ∧ budget.db_share ≤ 1.0)
    (entries : List (String × DataSourceConfig)) (distinct : (entries.map Prod.fst).Nodup)
    (new : ∀ entry ∈ entries, data_sources[entry.1]? = none) :
    Settles name (fun value => value[name]?) (line_of data_sources[name]?)
      (connect_data_sources debug debug_duration budget entries data_sources : TunerProgram B DataSources) := by
  induction entries generalizing data_sources with
  | nil => exact settles_pure rfl
  | cons entry rest ih =>
    obtain ⟨source, config⟩ := entry
    obtain ⟨fresh, others⟩ := List.nodup_cons.mp distinct
    have absent : data_sources[source]? = none := new _ List.mem_cons_self
    have later : ∀ runtime, ∀ entry ∈ rest, (data_sources.insert source runtime)[entry.1]? = none := by
      intro runtime entry member
      rw [inserted, if_neg (Ne.symm (other_names fresh entry member))]
      exact new entry (List.mem_cons_of_mem _ member)
    refine settles_bind (fun runtime line => line = line_of (data_sources.insert source runtime)[name]?) ?_ ?_
    · by_cases here : source = name
      · subst here
        rw [absent]
        refine (follows_connect_data_source share).mono ?_
        rintro result line ⟨runtime, rfl, there⟩ value same
        obtain rfl := Except.ok.inj same
        rw [inserted, if_pos rfl]
        exact there
      · refine follows_elsewhere (connect_data_source_elsewhere here) ?_
        intro result value same
        rw [inserted, if_neg here]
    · rintro runtime _ rfl
      exact ih others (later runtime)

theorem drop_all_elsewhere (entries : List (String × DataSourceRuntime)) (absent : ∀ entry ∈ entries, entry.1 ≠ name) :
    Performs (fun effect => target effect ≠ some name) (drop_all entries : TunerProgram B Unit) := by
  induction entries with
  | nil => exact performs_pure
  | cons entry rest ih =>
    obtain ⟨source, runtime⟩ := entry
    have later := ih fun entry member => absent entry (List.mem_cons_of_mem _ member)
    have other : some source ≠ some name := fun same => absent _ List.mem_cons_self (Option.some.inj same)
    cases runtime with
    | Connected connection => exact performs_bind (performs_perform other) fun _ => later
    | Unavailable error => exact later

theorem close_all_elsewhere (entries : List (String × DataSourceRuntime)) (absent : ∀ entry ∈ entries, entry.1 ≠ name) :
    Performs (fun effect => target effect ≠ some name) (close_all entries : TunerProgram B Unit) := by
  induction entries with
  | nil => exact performs_pure
  | cons entry rest ih =>
    obtain ⟨source, runtime⟩ := entry
    have others : ∀ entry ∈ rest, entry.1 ≠ name := fun entry member => absent entry (List.mem_cons_of_mem _ member)
    have other : some source ≠ some name := fun same => absent _ List.mem_cons_self (Option.some.inj same)
    cases runtime with
    | Connected connection =>
      refine performs_bind (performs_perform other) fun driver => ?_
      cases driver with
      | some driver => exact ih others
      | none => exact drop_all_elsewhere rest others
    | Unavailable error => exact ih others

/-- A line of which all that is known is that it is down at the end. -/
abbrev GoesDown (name : String) (line : Line) (program : TunerProgram B Unit) : Prop :=
  Follows (Line.advance name) (fun _ line => line = .Down) line program

/-- The entries that are left when another one has been dealt with. -/
private theorem rest_entries {runtime : Option DataSourceRuntime} {other : DataSourceRuntime}
    {rest : List (String × DataSourceRuntime)} (different : source ≠ name)
    (found : ∀ present, (name, present) ∈ (source, other) :: rest ↔ runtime = some present) (present : DataSourceRuntime) :
    (name, present) ∈ rest ↔ runtime = some present := by
  rw [← found present, List.mem_cons]
  refine ⟨Or.inr, fun either => either.resolve_left ?_⟩
  intro same
  exact different (Prod.mk.inj same).1.symm

theorem drop_all_goes_down {runtime : Option DataSourceRuntime} (entries : List (String × DataSourceRuntime))
    (distinct : (entries.map Prod.fst).Nodup) (found : ∀ present, (name, present) ∈ entries ↔ runtime = some present) :
    GoesDown name (line_of runtime) (drop_all entries : TunerProgram B Unit) := by
  induction entries with
  | nil =>
    cases runtime with
    | none => exact follows_pure rfl
    | some present => exact absurd ((found present).mpr rfl) List.not_mem_nil
  | cons entry rest ih =>
    obtain ⟨source, other⟩ := entry
    obtain ⟨fresh, others⟩ := List.nodup_cons.mp distinct
    by_cases here : source = name
    · subst here
      obtain rfl := (found other).mp List.mem_cons_self
      have later := drop_all_elsewhere (B := B) rest (other_names fresh)
      cases other with
      | Connected connection =>
        exact follows_perform_bind fun _ => ⟨.Down, by rw [advance_here rfl]; rfl, follows_elsewhere later fun _ => rfl⟩
      | Unavailable error => exact follows_elsewhere later fun _ => rfl
    · have later := ih others (rest_entries here found)
      cases other with
      | Connected connection =>
        exact follows_perform_bind fun _ => ⟨_, advance_elsewhere fun same => here (Option.some.inj same), later⟩
      | Unavailable error => exact later

/-- The shutdown closes every connection, or drops it when the time is over. -/
theorem close_all_goes_down {runtime : Option DataSourceRuntime} (entries : List (String × DataSourceRuntime))
    (distinct : (entries.map Prod.fst).Nodup) (found : ∀ present, (name, present) ∈ entries ↔ runtime = some present) :
    GoesDown name (line_of runtime) (close_all entries : TunerProgram B Unit) := by
  induction entries with
  | nil =>
    cases runtime with
    | none => exact follows_pure rfl
    | some present => exact absurd ((found present).mpr rfl) List.not_mem_nil
  | cons entry rest ih =>
    obtain ⟨source, other⟩ := entry
    obtain ⟨fresh, others⟩ := List.nodup_cons.mp distinct
    by_cases here : source = name
    · subst here
      obtain rfl := (found other).mp List.mem_cons_self
      have absent := other_names fresh
      cases other with
      | Connected connection =>
        refine follows_perform_bind fun driver => ⟨.Down, by rw [advance_here rfl]; rfl, ?_⟩
        cases driver with
        | some driver => exact follows_elsewhere (close_all_elsewhere rest absent) fun _ => rfl
        | none => exact follows_elsewhere (drop_all_elsewhere rest absent) fun _ => rfl
      | Unavailable error => exact follows_elsewhere (close_all_elsewhere rest absent) fun _ => rfl
    · have rest_found := rest_entries here found
      cases other with
      | Connected connection =>
        refine follows_perform_bind fun driver => ⟨_, advance_elsewhere fun same => here (Option.some.inj same), ?_⟩
        cases driver with
        | some driver => exact ih others rest_found
        | none => exact drop_all_goes_down rest others rest_found
      | Unavailable error => exact ih others rest_found

theorem shutdown_goes_down : GoesDown name (line_of data_sources[name]?) (shutdown data_sources : TunerProgram B Unit) := by
  refine close_all_goes_down _ ?_ fun present => Std.ExtTreeMap.mem_toList_iff_getElem?_eq_some
  rw [Std.ExtTreeMap.map_fst_toList_eq_keys]
  exact Std.ExtTreeMap.nodup_keys

variable {interval : Nat}

theorem settles_round_turn (valid : BudgetValid config.budget) (scheduled_tick : Nat) :
    Settles name (fun value => value.2[name]?) (line_of data_sources[name]?)
      (round_turn debug debug_duration codec beta_reg config interval scheduled_tick data_sources) := by
  refine settles_perform_bind fun woken => ⟨_, advance_elsewhere (by simp [target]), ?_⟩
  cases woken with
  | true => exact settles_pure rfl
  | false =>
    refine settles_perform_bind fun cancelled => ⟨_, advance_elsewhere (by simp [target]), ?_⟩
    cases cancelled with
    | true => exact settles_pure rfl
    | false =>
      refine settles_perform_bind fun since_epoch => ⟨_, advance_elsewhere (by simp [target]), ?_⟩
      cases current_round_timestamps since_epoch config.storage.window_seconds with
      | error error => exact settles_pure rfl
      | ok timestamps =>
        refine settles_bind _ (settles_run_round valid) ?_
        rintro ⟨report, sources⟩ _ rfl
        refine settles_bind (fun _ line => line = line_of sources[name]?) (follows_elsewhere ?_ fun _ _ _ => rfl) ?_
        · refine performs_bind (performs_perform (by simp [target])) fun cancelled => ?_
          dsimp only
          split
          · exact performs_pure
          · exact performs_bind (performs_perform (by simp [target])) fun now => performs_pure
        · rintro turn _ rfl
          exact settles_pure rfl

theorem settles_run_round_loop (valid : BudgetValid config.budget) (passes scheduled_tick : Nat) :
    Settles name (fun value => value.2[name]?) (line_of data_sources[name]?)
      (run_round_loop debug debug_duration codec beta_reg config interval passes scheduled_tick data_sources) := by
  induction passes generalizing scheduled_tick data_sources with
  | zero => exact settles_pure rfl
  | succ passes ih =>
    refine settles_bind _ (settles_round_turn valid scheduled_tick) ?_
    rintro ⟨turn, sources⟩ _ rfl
    cases turn with
    | Stopped result => exact settles_pure rfl
    | Scheduled tick => exact ih tick

theorem settles_start_with_store (valid : BudgetValid config.budget) :
    Settles name (fun value => value[name]?) .Down (start_with_store debug debug_duration config : TunerProgram B DataSources) := by
  have start : Settles name (fun value : DataSources => value[name]?) (line_of (∅ : DataSources)[name]?)
      (start_with_store debug debug_duration config : TunerProgram B DataSources) :=
    settles_connect_data_sources valid.db_share _ (configured_distinct config) fun entry _ => Std.ExtTreeMap.getElem?_empty
  rwa [Std.ExtTreeMap.getElem?_empty] at start

/-- A daemon that could not start has connected nothing. -/
theorem settles_start (valid : BudgetValid config.budget) :
    Settles name (fun value => value.toOption.bind fun sources => sources[name]?) .Down
      (start debug debug_duration config : TunerProgram B (Except TunerStartError DataSources)) := by
  refine settles_perform_bind fun task => ⟨_, advance_elsewhere (by simp [target]), ?_⟩
  cases start_store config.storage.root task with
  | error error => exact settles_pure rfl
  | ok done =>
    refine settles_bind _ (settles_start_with_store valid) ?_
    rintro sources _ rfl
    exact settles_pure rfl

/-- The end of the signal task concerns no line. -/
theorem join_signal_elsewhere (result : Except DaemonError Unit) :
    Performs (fun effect => target effect ≠ some name) (join_signal result : TunerProgram B (Except DaemonError Unit)) := by
  refine performs_bind ?_ fun finished => ?_
  · cases result with
    | ok done => exact performs_pure
    | error error => exact performs_perform (by simp [target])
  · cases finished with
    | true => exact performs_bind (performs_perform (by simp [target])) fun task => performs_pure
    | false => exact performs_bind (performs_perform (by simp [target])) fun task => performs_pure

/-- A daemon that has stopped has no line open. -/
theorem follows_run (valid : BudgetValid config.budget) (passes : Nat) :
    Follows (Line.advance name) (fun result line => ∀ stopped, result = .ok (.Stopped stopped) → line = .Down) .Down
      (run debug debug_duration codec beta_reg config passes) := by
  unfold run
  split
  · exact follows_pure fun _ _ => rfl
  · refine follows_bind _ (settles_start valid) (by simp) ?_
    intro started line there
    obtain rfl := there started rfl
    cases started with
    | error error => exact follows_pure fun _ _ => rfl
    | ok sources =>
      refine follows_perform_bind fun now => ⟨_, advance_elsewhere (by simp [target]), ?_⟩
      refine follows_bind _ (settles_run_round_loop valid passes now.nanos) (by simp) ?_
      rintro ⟨turn, sources'⟩ line known
      obtain rfl := known _ rfl
      cases turn with
      | Scheduled tick => exact follows_pure (by simp)
      | Stopped result =>
        refine follows_bind _ shutdown_goes_down (fun error line _ stopped same => by cases same) ?_
        rintro _ line rfl
        refine follows_bind (fun _ line => line = .Down) (follows_elsewhere (join_signal_elsewhere result) fun _ => rfl)
          (fun error line _ stopped same => by cases same) ?_
        rintro stopped _ rfl
        exact follows_pure fun _ _ => rfl

end Rounds

end Lines

/-- In every run of the daemon, however it is answered and wherever it stops, each line keeps to its protocol, and a
    daemon that has stopped has none open. -/
theorem connections_keep_protocol {B : Type} (debug : String → String) (debug_duration : Duration → String)
    (password_env_exists : String → Bool) (codec : Codec B) (beta_reg : Float → Float → Float → Float) (raw : RawConfig)
    (config : Config) (accepted : from_raw debug password_env_exists raw = .ok config) (passes : Nat) (objects : Objects B)
    (clock : Instant) (outcome : Outcome Panic Turn) (world : TunerWorld B)
    (ran : Runs tuner_answer (run debug debug_duration codec beta_reg config passes) ⟨objects, clock, []⟩ outcome world)
    (name : String) :
    ∃ line, accepts (Line.advance name) .Down world.log = some line ∧
      ∀ result, outcome = .returned (.Stopped result) → line = .Down := by
  have follows : Follows (Line.advance name) (fun result line => ∀ stopped, result = .ok (.Stopped stopped) → line = .Down)
      .Down (run debug debug_duration codec beta_reg config passes) := follows_run (from_raw_ok accepted).budget passes
  obtain ⟨block, line, logged, passed, returned, _⟩ := follows.accepted tuner_journaled ran
  have whole : world.log = block := by simpa using logged
  refine ⟨line, whole ▸ passed, ?_⟩
  rintro result rfl
  exact returned _ rfl result rfl

/-! ### Two data sources -/

/-- The positions of a line, as far as its exchanges are allowed. -/
def positions (name : String) : Line → List (Exchange (TunerReply (B := B))) → List Line
  | line, [] => [line]
  | line, exchange :: later =>
    match line.advance name exchange.effect exchange.reply with
    | some next => line :: positions name next later
    | none => [line]

/-- Every request succeeds; a query has one row. -/
def calmChoice {B : Type} : TunerChoice B where
  round := smallChoice
  later := ⟨1, by decide⟩
  env_var := .error .NotPresent
  connected := .ok ()
  driver := .Finished (.ok ())
  in_time := true
  operation
    | .begin_transaction => .ok ()
    | .batch_execute _ => .ok ()
    | .query _ _ => .ok ([⟨.INT8, .ok 1, .ok 0.0⟩], Duration.ZERO)
    | .commit => .ok ()
    | .rollback => .ok ()
  yes := false
  system_time := some ⟨125, 0, by decide, no_nanos⟩
  collected := []
  root_task := .Opened
  signal_task := .Finished (.ok ())
def cancelledChoice : TunerChoice Body := { calmChoice with yes := true, round := { smallChoice with cancelled := true } }
/-- The connection breaks. -/
def brokenChoice : TunerChoice Body :=
  { calmChoice with
    operation
      | .begin_transaction => .error .Elapsed
      | .batch_execute _ => .error .Elapsed
      | .query _ _ => .error .Elapsed
      | .commit => .error .Elapsed
      | .rollback => .error .Elapsed }

/-- The segment of a cohort in the window that the first rounds look at. -/
def twinSource (cohort : CohortName) : Path × Body :=
  (⟨["cohorts", cohort.name, "window=19700101T0001Z", "part-01J00000000000000000000000.vseam"]⟩, .segment (segmentOf cohort))
def twinStart : Instant := ⟨0, by decide⟩
def twinWorld {B : Type} (objects : Objects B) : TunerWorld B := ⟨objects, twinStart, []⟩

/-- The first query of the first round breaks the connection; the second round is cancelled behind its first sample. -/
def twinSchedule : List (TunerChoice Body) :=
  List.replicate 23 calmChoice ++ brokenChoice :: List.replicate 37 calmChoice ++ cancelledChoice ::
    List.replicate 4 calmChoice
def twinDaemon (config : Config) : Outcome Panic Turn × TunerWorld Body :=
  (run id (fun _ => "") smallCodec smallBeta config 3).exec tuner_answer (twinWorld [twinSource ⟨"prod", prod_validates⟩])
    twinSchedule

def stopped_with : Outcome Panic Turn → Option (Except DaemonError Unit)
  | .returned (.Stopped result) => some result
  | _ => none

theorem stopped_with_some {outcome : Outcome Panic Turn} {result : Except DaemonError Unit}
    (stopped : stopped_with outcome = some result) : outcome = .returned (.Stopped result) := by
  unfold stopped_with at stopped
  split at stopped
  · exact congrArg _ (congrArg _ (Option.some.inj stopped))
  · cases stopped

/-- The way of the line: lost in a transaction, connected again, once idle behind a committed one, and closed. -/
def twinPositions : List Line :=
  [.Down, .Opened, .Idle, .Awake, .Working .Before, .Working .Open, .Working (.Over .Lost), .Charged .Lost, .Spent,
    .Down, .Opened, .Idle, .Awake, .Working .Before, .Working .Open, .Working (.Over .Committed), .Charged .Committed,
    .Idle, .Down]

theorem twinDaemon_runs : ∃ config, from_raw id (fun _ => true) twinRaw = .ok config ∧
    stopped_with (twinDaemon config).1 = some (.ok ()) ∧
    (positions "primary" .Down (twinDaemon config).2.log).destutter (· ≠ ·) = twinPositions :=
  ⟨_, rfl, by decide +kernel⟩

theorem local_connections_keep_protocol : ∃ config line, from_raw id (fun _ => true) twinRaw = .ok config ∧
    (positions "primary" .Down (twinDaemon config).2.log).destutter (· ≠ ·) = twinPositions ∧
    accepts (Line.advance "primary") .Down (twinDaemon config).2.log = some line ∧ line = .Down := by
  obtain ⟨config, accepted, stopped, passed⟩ := twinDaemon_runs
  obtain ⟨line, accepts, closed⟩ := connections_keep_protocol id (fun _ => "") (fun _ => true) smallCodec smallBeta twinRaw
    config accepted 3 _ _ (twinDaemon config).1 (twinDaemon config).2 ⟨twinSchedule, rfl⟩ "primary"
  exact ⟨config, line, accepted, passed, accepts, closed (.ok ()) (stopped_with_some stopped)⟩

end VectorSeam.Lines
