import VectorSeam.Strikes

/-!
What the loss of a connection costs a round of the tuner. Connections are made only before
the first cohort of a round, at most once for a data source, and only where there was none
or it was found closed. When one is lost during the cohorts' rounds, nothing more is asked
of its data source until the next round, but to read the clock and to give it up; the other
data sources keep their connections.
-/

namespace VectorSeam.Losses
open VectorSeam.Model VectorSeam.ObjectStore VectorSeam.Cohort VectorSeam.Effects VectorSeam.Programs VectorSeam.Estimators
open VectorSeam.Aggregate VectorSeam.Durations VectorSeam.Configuration VectorSeam.Intermediate VectorSeam.Pipeline
open VectorSeam.Database VectorSeam.Endpoints VectorSeam.Handlers VectorSeam.Typestates VectorSeam.Connections VectorSeam.Tuner
open VectorSeam.Transactions VectorSeam.Lines VectorSeam.Strikes

section Losses
variable {B : Type} {ε α : Type} {name source : String} {line line' : Line}

/-- An exchange of the tuner. -/
abbrev Logged (B : Type) := Exchange (TunerReply (B := B))

/-! ### Lines that were given up -/

/-- The connection is lost or gone. -/
def GivenUp (line : Line) : Prop :=
  line = .Down ∨ line = .Spent ∨ line = .Charged .Lost ∨ line = .Working (.Over .Lost)

/-- An effect that connects the data source. -/
def connects (name : String) : TunerEffect B → Bool
  | .connect data_source _ => data_source = name
  | _ => false

/-- What is still done for a connection that was lost. -/
def Buries (name : String) (effect : TunerEffect B) : Prop := effect = .clock name ∨ effect = .abandon name

theorem given_up_step {effect : TunerEffect B} {reply : TunerReply effect} (given_up : GivenUp line)
    (unconnected : connects name effect = false) (stepped : line.advance name effect reply = some line') :
    GivenUp line' ∧ (target effect = some name → Buries name effect) := by
  by_cases here : target effect = some name
  · rw [advance_here here] at stepped
    cases effect with
    | connect data_source config =>
      obtain rfl := Option.some.inj here
      simp [connects] at unconnected
    | clock data_source =>
      obtain rfl := Option.some.inj here
      refine ⟨?_, fun _ => .inl rfl⟩
      rcases given_up with rfl | rfl | rfl | rfl
      · cases stepped
      · cases stepped
      · exact .inr (.inl (Option.some.inj stepped).symm)
      · exact .inr (.inr (.inl (Option.some.inj stepped).symm))
    | abandon data_source =>
      obtain rfl := Option.some.inj here
      refine ⟨?_, fun _ => .inr rfl⟩
      rcases given_up with rfl | rfl | rfl | rfl
      · cases stepped
      · exact .inl (Option.some.inj stepped).symm
      · cases stepped
      · cases stepped
    | operate data_source operation =>
      rcases given_up with rfl | rfl | rfl | rfl
      · cases stepped
      · cases stepped
      · cases stepped
      · cases operation <;> cases stepped
    | round effect => cases here
    | env_var variable_name => cases here
    | is_cancelled => cases here
    | tick deadline => cases here
    | scheduler_clock => cases here
    | system_time => cases here
    | open_store root => cases here
    | signal_is_finished => cases here
    | join_signal aborted => cases here
    | is_closed data_source => rcases given_up with rfl | rfl | rfl | rfl <;> cases stepped
    | close data_source => rcases given_up with rfl | rfl | rfl | rfl <;> cases stepped
    | drop data_source => rcases given_up with rfl | rfl | rfl | rfl <;> cases stepped
    | sleep_until data_source deadline => rcases given_up with rfl | rfl | rfl | rfl <;> cases stepped
  · rw [advance_elsewhere here] at stepped
    exact ⟨Option.some.inj stepped ▸ given_up, fun same => absurd same here⟩

/-- As long as it is not connected again, a line that was given up is only buried. -/
theorem given_up_log {log : List (Logged B)} (given_up : GivenUp line)
    (unconnected : ∀ exchange ∈ log, connects name exchange.effect = false)
    (passed : accepts (Line.advance name) line log = some line') :
    ∀ exchange ∈ log, target exchange.effect = some name → Buries name exchange.effect := by
  induction log generalizing line with
  | nil => exact fun _ member => absurd member List.not_mem_nil
  | cons exchange later ih =>
    obtain ⟨between, stepped, rest⟩ := Option.bind_eq_some_iff.mp passed
    obtain ⟨still, buries⟩ := given_up_step given_up (unconnected _ List.mem_cons_self) stepped
    intro other member
    rcases List.mem_cons.mp member with rfl | member
    · exact buries
    · exact ih still (fun exchange member => unconnected exchange (List.mem_cons_of_mem _ member)) rest other member

def loses : (operation : Operation) → Answer operation → Bool
  | .begin_transaction, reply => broken reply
  | .batch_execute _, reply => broken reply
  | .query _ _, reply => broken reply
  | .commit, reply => failed reply
  | .rollback, reply => failed reply

theorem statement_lost {α : Type} {reply : Except ClientFailure α} (lost : broken reply = true) :
    statement reply = .Over .Lost := by
  cases reply with
  | ok value => cases lost
  | error failure => exact if_pos lost

/-- A transaction is over when its connection is lost. -/
theorem lost_over {transaction transaction' : Transaction} {operation : Operation} {reply : Answer operation}
    (lost : loses operation reply = true) (stepped : transaction.advance operation reply = some transaction') :
    transaction' = .Over .Lost := by
  cases operation with
  | begin_transaction =>
    cases reply with
    | ok done => cases lost
    | error failure =>
      cases transaction with
      | Before =>
        obtain rfl := Option.some.inj stepped
        exact congrArg Transaction.Over (if_pos lost)
      | Open => cases stepped
      | Refused => cases stepped
      | Over ended => cases stepped
  | batch_execute sql =>
    cases transaction with
    | Open => exact (Option.some.inj stepped).symm.trans (statement_lost lost)
    | Before => cases stepped
    | Refused => cases stepped
    | Over ended => cases stepped
  | query sql vector =>
    cases transaction with
    | Open => exact (Option.some.inj stepped).symm.trans (statement_lost lost)
    | Before => cases stepped
    | Refused => cases stepped
    | Over ended => cases stepped
  | commit =>
    cases reply with
    | ok done => cases lost
    | error failure =>
      cases transaction with
      | Open => exact (Option.some.inj stepped).symm
      | Before => cases stepped
      | Refused => cases stepped
      | Over ended => cases stepped
  | rollback =>
    cases reply with
    | ok done => cases lost
    | error failure =>
      cases transaction with
      | Open => exact (Option.some.inj stepped).symm
      | Refused => exact (Option.some.inj stepped).symm
      | Before => cases stepped
      | Over ended => cases stepped

/-- An exchange after which the data source is unavailable. -/
inductive Loses (name : String) : Logged B → Prop where
  | operation (operation : Operation) (reply : Answer operation) (lost : loses operation reply = true) :
      Loses name ⟨.operate name operation, reply⟩
  | abandoned (driver : DriverEnd) : Loses name ⟨.abandon name, driver⟩

theorem Loses.given_up {exchange : Logged B} (lost : Loses name exchange)
    (stepped : line.advance name exchange.effect exchange.reply = some line') : GivenUp line' := by
  cases lost with
  | operation operation reply lost =>
    rw [advance_here rfl] at stepped
    cases line with
    | Working transaction =>
      obtain ⟨transaction', moved, rfl⟩ := Option.map_eq_some_iff.mp stepped
      exact .inr (.inr (.inr (congrArg Line.Working (lost_over lost moved))))
    | Down => cases stepped
    | Opened => cases stepped
    | Idle => cases stepped
    | Stale => cases stepped
    | Awake => cases stepped
    | Charged ended => cases ended <;> cases stepped
    | Spent => cases stepped
  | abandoned driver =>
    rw [advance_here rfl] at stepped
    cases line with
    | Stale => exact .inl (Option.some.inj stepped).symm
    | Spent => exact .inl (Option.some.inj stepped).symm
    | Down => cases stepped
    | Opened => cases stepped
    | Idle => cases stepped
    | Awake => cases stepped
    | Working transaction => cases stepped
    | Charged ended => cases ended <;> cases stepped

/-- Nothing is asked of a line that is down, unless it is connected. -/
theorem down_silent {log : List (Logged B)} (unconnected : ∀ exchange ∈ log, connects name exchange.effect = false)
    (passed : accepts (Line.advance name) .Down log = some line') : ∀ exchange ∈ log, target exchange.effect ≠ some name := by
  induction log with
  | nil => exact fun _ member => absurd member List.not_mem_nil
  | cons exchange later ih =>
    obtain ⟨between, stepped, rest⟩ := Option.bind_eq_some_iff.mp passed
    have silent : target exchange.effect ≠ some name := by
      intro here
      obtain ⟨_, buries⟩ := given_up_step (.inl rfl) (unconnected _ List.mem_cons_self) stepped
      rw [advance_here here] at stepped
      obtain ⟨effect, reply⟩ := exchange
      rcases buries here with rfl | rfl
      · cases stepped
      · cases stepped
    rw [advance_elsewhere silent] at stepped
    obtain rfl := Option.some.inj stepped
    intro other member
    rcases List.mem_cons.mp member with rfl | member
    · exact silent
    · exact ih (fun exchange member => unconnected exchange (List.mem_cons_of_mem _ member)) rest other member

/-! ### Reconnecting -/

/-- An effect of the reconnections at the start of a round. -/
def Manages : TunerEffect B → Prop
  | .env_var _ => True
  | .connect _ _ => True
  | .is_closed _ => True
  | .abandon _ => True
  | .clock _ => True
  | _ => False

section Reconnecting
variable {debug : String → String} {debug_duration : Duration → String} {budget : BudgetConfig} {config : Config}
  {data_sources : DataSources}

theorem connect_manages (data_source : DataSourceConfig) :
    Performs Manages (connect source data_source budget : Prog (TunerEffect B) TunerReply _ _) := by
  refine performs_bind performs_lift fun address => performs_bind ?_ fun password => ?_
  · cases data_source.password_env with
    | none => exact performs_pure
    | some variable_name =>
      refine performs_bind (performs_perform trivial) fun reply => ?_
      split <;> trivial
  · refine performs_bind (performs_perform trivial) fun reply => ?_
    split
    · trivial
    · trivial
    · exact performs_bind (performs_perform trivial) fun now => performs_bind performs_lift fun pacer => performs_pure

theorem connect_data_source_manages (data_source : DataSourceConfig) :
    Performs Manages (connect_data_source debug debug_duration source data_source budget : TunerProgram B DataSourceRuntime) := by
  refine performs_bind (performs_attempt (connect_manages data_source)) fun result => ?_
  cases result with
  | ok connection => exact performs_pure
  | error error => exact performs_pure

theorem remove_manages (runtime : Option DataSourceRuntime) :
    Performs Manages (remove_connection source runtime : TunerProgram B Unit) := by
  unfold remove_connection
  split
  · exact performs_bind (performs_bind (performs_perform trivial) fun driver => performs_pure) fun _ => performs_pure
  · exact performs_pure

theorem candidates_manage (asked : List (String × DataSourceConfig)) :
    Performs Manages (reconnect_candidates data_sources asked : TunerProgram B (List (String × DataSourceConfig))) := by
  induction asked with
  | nil => exact performs_pure
  | cons entry rest ih =>
    refine performs_bind ?_ fun reconnect => performs_bind ih fun candidates => performs_pure
    unfold must_reconnect
    split
    · exact performs_perform trivial
    · exact performs_pure

theorem reconnect_manages (candidates : List (String × DataSourceConfig)) :
    Performs Manages (reconnect debug debug_duration budget candidates data_sources : TunerProgram B DataSources) := by
  induction candidates generalizing data_sources with
  | nil => exact performs_pure
  | cons entry rest ih =>
    exact performs_bind (remove_manages _) fun _ => performs_bind (connect_data_source_manages _) fun runtime => ih

theorem reconnections_manage :
    Performs Manages (reconnect_unavailable_data_sources debug debug_duration config data_sources : TunerProgram B DataSources) :=
  performs_bind (candidates_manage _) fun candidates => reconnect_manages candidates

/-- A data source is connected no more than once. -/
def once (name : String) (used : Bool) (effect : TunerEffect B) (_ : TunerReply effect) : Option Bool :=
  if connects name effect then (if used then none else some true) else some used

theorem once_count {used used' : Bool} {log : List (Logged B)} (passed : accepts (once name) used log = some used') :
    used.toNat + (log.filter fun exchange => connects name exchange.effect).length = used'.toNat := by
  induction log generalizing used with
  | nil => exact congrArg Bool.toNat (Option.some.inj passed)
  | cons exchange later ih =>
    obtain ⟨between, stepped, rest⟩ := Option.bind_eq_some_iff.mp passed
    have counted := ih rest
    unfold once at stepped
    by_cases connecting : connects name exchange.effect = true
    · rw [if_pos connecting] at stepped
      rw [List.filter_cons_of_pos (by simpa using connecting), List.length_cons]
      cases used with
      | true => cases stepped
      | false =>
        obtain rfl := Option.some.inj stepped
        rw [Bool.toNat_true] at counted
        rw [Bool.toNat_false]
        omega
    · rw [if_neg connecting] at stepped
      rw [List.filter_cons_of_neg (by simpa using connecting), Option.some.inj stepped]
      exact counted

theorem once_step {used : Bool} {effect : TunerEffect B} {reply : TunerReply effect} (unconnected : connects name effect = false) :
    once name used effect reply = some used := by
  rw [once, unconnected]
  rfl

/-- A program that does not connect the data source. -/
theorem once_unmoved {post : Except ε α → Bool → Prop} {used : Bool} {program : Prog (TunerEffect B) TunerReply ε α}
    (performs : Performs (fun effect => connects name effect = false) program) (ends : ∀ result, post result used) :
    Follows (once name) post used program :=
  follows_unmoved (performs.mono fun _ unconnected _ => once_step unconnected) ends

theorem elsewhere_unconnected {program : Prog (TunerEffect B) TunerReply ε α}
    (performs : Performs (fun effect => target effect ≠ some name) program) :
    Performs (fun effect => connects name effect = false) program := by
  refine performs.mono fun effect elsewhere => ?_
  cases effect with
  | connect data_source config => exact decide_eq_false fun same => elsewhere (congrArg some same)
  | _ => rfl

theorem once_connect (data_source : DataSourceConfig) :
    Follows (once name) (fun _ _ => True) false
      (connect name data_source budget : Prog (TunerEffect B) TunerReply DatabaseConnectionError DatabaseConnection) := by
  refine follows_bind (fun _ used => used = false) (follows_lift rfl) (fun _ _ _ => trivial) ?_
  rintro address _ rfl
  refine follows_bind (fun _ used => used = false)
    (once_unmoved (elsewhere_unconnected (password_elsewhere _)) fun _ => rfl) (fun _ _ _ => trivial) ?_
  rintro password _ rfl
  refine follows_perform_bind fun reply => ⟨true, by simp [once, connects], ?_⟩
  refine once_unmoved ?_ fun _ => trivial
  split
  · trivial
  · trivial
  · exact performs_bind (performs_perform rfl) fun now => performs_bind performs_lift fun pacer => performs_pure

theorem once_connect_data_source (data_source : DataSourceConfig) :
    Follows (once name) (fun _ _ => True) false
      (connect_data_source debug debug_duration name data_source budget : TunerProgram B DataSourceRuntime) := by
  refine follows_bind (fun _ _ => True) (follows_attempt (once_connect data_source) fun _ _ _ => trivial)
    (fun _ _ _ => trivial) ?_
  intro result used _
  cases result with
  | ok connection => exact follows_pure trivial
  | error error => exact follows_pure trivial

theorem remove_unconnected (runtime : Option DataSourceRuntime) :
    Performs (fun effect => connects name effect = false) (remove_connection source runtime : TunerProgram B Unit) := by
  unfold remove_connection
  split
  · exact performs_bind (performs_bind (performs_perform rfl) fun driver => performs_pure) fun _ => performs_pure
  · exact performs_pure

theorem reconnect_unconnected (candidates : List (String × DataSourceConfig)) (absent : name ∉ candidates.map Prod.fst) :
    Performs (fun effect => connects name effect = false)
      (reconnect debug debug_duration budget candidates data_sources : TunerProgram B DataSources) := by
  induction candidates generalizing data_sources with
  | nil => exact performs_pure
  | cons entry rest ih =>
    rw [List.map_cons, List.mem_cons, not_or] at absent
    exact performs_bind (remove_unconnected _) fun _ =>
      performs_bind (elsewhere_unconnected (connect_data_source_elsewhere (Ne.symm absent.1))) fun runtime => ih absent.2

theorem once_reconnect (candidates : List (String × DataSourceConfig)) (distinct : (candidates.map Prod.fst).Nodup) :
    Follows (once name) (fun _ _ => True) false
      (reconnect debug debug_duration budget candidates data_sources : TunerProgram B DataSources) := by
  induction candidates generalizing data_sources with
  | nil => exact follows_pure trivial
  | cons entry rest ih =>
    obtain ⟨source, config⟩ := entry
    obtain ⟨fresh, others⟩ := List.nodup_cons.mp distinct
    refine follows_bind (fun _ used => used = false) (once_unmoved (remove_unconnected _) fun _ => rfl)
      (fun _ _ _ => trivial) ?_
    rintro _ _ rfl
    by_cases here : source = name
    · subst here
      refine follows_bind (fun _ _ => True) (once_connect_data_source config) (fun _ _ _ => trivial) ?_
      intro runtime used _
      exact once_unmoved (reconnect_unconnected rest fresh) fun _ => trivial
    · refine follows_bind (fun _ used => used = false)
        (once_unmoved (elsewhere_unconnected (connect_data_source_elsewhere here)) fun _ => rfl) (fun _ _ _ => trivial) ?_
      rintro runtime _ rfl
      exact ih others

theorem candidates_unconnected (asked : List (String × DataSourceConfig)) :
    Performs (fun effect => connects name effect = false)
      (reconnect_candidates data_sources asked : TunerProgram B (List (String × DataSourceConfig))) := by
  induction asked with
  | nil => exact performs_pure
  | cons entry rest ih =>
    refine performs_bind ?_ fun reconnect => performs_bind ih fun candidates => performs_pure
    unfold must_reconnect
    split
    · exact performs_perform rfl
    · exact performs_pure

theorem once_reconnections :
    Follows (once name) (fun _ _ => True) false
      (reconnect_unavailable_data_sources debug debug_duration config data_sources : TunerProgram B DataSources) := by
  refine follows_bind (fun result used => used = false ∧ ∀ candidates, result = .ok candidates →
    candidates.Sublist config.data_sources.toList) ?_ (fun _ _ _ => trivial) ?_
  · refine follows_unmoved_safe ((candidates_unconnected _).mono fun _ unconnected _ => once_step unconnected)
      (candidates_sublist _) (by simp) fun candidates among => ⟨rfl, ?_⟩
    intro other same
    exact Except.ok.inj same ▸ among
  · rintro candidates _ ⟨rfl, known⟩
    exact once_reconnect candidates ((configured_distinct config).sublist ((known candidates rfl).map Prod.fst))

/-- An idle line is connected again only after it was found closed. -/
theorem closed_before {log : List (Logged B)} (managing : ∀ exchange ∈ log, Manages exchange.effect)
    (passed : accepts (Line.advance name) .Idle log = some line')
    (connecting : ∃ exchange ∈ log, connects name exchange.effect = true) : ⟨.is_closed name, true⟩ ∈ log := by
  induction log with
  | nil =>
    obtain ⟨_, member, _⟩ := connecting
    exact absurd member List.not_mem_nil
  | cons exchange later ih =>
    obtain ⟨between, stepped, rest⟩ := Option.bind_eq_some_iff.mp passed
    obtain ⟨effect, reply⟩ := exchange
    have manages : Manages effect := managing _ List.mem_cons_self
    have others : ∀ exchange ∈ later, Manages exchange.effect := fun exchange member =>
      managing exchange (List.mem_cons_of_mem _ member)
    by_cases here : target effect = some name
    · change Line.advance name .Idle effect reply = some between at stepped
      rw [advance_here here] at stepped
      cases effect with
      | is_closed data_source =>
        obtain rfl := Option.some.inj here
        cases reply with
        | true => exact List.mem_cons_self
        | false =>
          obtain rfl := Option.some.inj stepped
          obtain ⟨exchange, member, connected⟩ := connecting
          rcases List.mem_cons.mp member with rfl | member
          · cases connected
          · exact List.mem_cons_of_mem _ (ih others rest ⟨exchange, member, connected⟩)
      | connect data_source config => cases stepped
      | abandon data_source => cases stepped
      | clock data_source => cases stepped
      | close data_source => exact manages.elim
      | drop data_source => exact manages.elim
      | sleep_until data_source deadline => exact manages.elim
      | operate data_source operation => exact manages.elim
      | round effect => exact manages.elim
      | env_var variable_name => cases here
      | is_cancelled => exact manages.elim
      | tick deadline => exact manages.elim
      | scheduler_clock => exact manages.elim
      | system_time => exact manages.elim
      | open_store root => exact manages.elim
      | signal_is_finished => exact manages.elim
      | join_signal aborted => exact manages.elim
    · change Line.advance name .Idle effect reply = some between at stepped
      rw [advance_elsewhere here] at stepped
      obtain rfl := Option.some.inj stepped
      obtain ⟨exchange, member, connected⟩ := connecting
      rcases List.mem_cons.mp member with rfl | member
      · cases effect with
        | connect data_source config => exact absurd (congrArg some (of_decide_eq_true connected)) here
        | _ => cases connected
      · exact List.mem_cons_of_mem _ (ih others rest ⟨exchange, member, connected⟩)

end Reconnecting

/-! ### Cohorts -/

section Cohorts
variable {debug : String → String} {debug_duration : Duration → String} {codec : Codec B}
  {beta_reg : Float → Float → Float → Float} {config : Config} {timestamps : RoundTimestamps} {data_sources : DataSources}

/-- An effect that connects no data source. -/
def Unconnecting (effect : TunerEffect B) : Prop := ∀ name, connects name effect = false

theorem measure_sample_unconnecting (runtime : DataSourceRuntime) (vector : List UInt32) (config : AggregationConfig) :
    Performs Unconnecting (measure_sample debug_duration source vector config runtime :
      TunerProgram B (Except SampleMeasureError SampleMeasurement × DataSourceRuntime)) := by
  cases runtime with
  | Unavailable error => exact performs_pure
  | Connected connection =>
    refine performs_bind (performs_bind (performs_perform fun _ => rfl) fun cancelled => ?_) fun measured => ?_
    · cases cancelled with
      | true => exact performs_pure
      | false =>
        refine performs_bind (performs_perform fun _ => rfl) fun started => ?_
        refine performs_bind (performs_serve (performs_any _) (fun _ operation _ => ?_) ()) fun result => ?_
        · exact performs_bind (performs_perform fun _ => rfl) fun reply => performs_pure
        · refine performs_bind (performs_perform fun _ => rfl) fun finished => ?_
          refine performs_bind (performs_perform fun _ => rfl) fun now => ?_
          split
          · trivial
          · exact performs_pure
    · have given_up : Performs Unconnecting (abandon source : TunerProgram B _) :=
        performs_bind (performs_perform fun _ => rfl) fun driver => performs_pure
      dsimp only
      split
      · exact performs_bind given_up fun _ => performs_pure
      · exact performs_pure

theorem run_cohort_unconnecting (cohort : CohortRuntime) :
    Performs Unconnecting (run_cohort debug_duration codec beta_reg timestamps cohort) := by
  refine performs_serve (performs_any _) (fun runtime effect _ => ?_) _
  have passed : ∀ asked : Effect B, Performs Unconnecting
      (do
        let reply ← Prog.perform (.round asked)
        return (reply, runtime) : TunerProgram B (Reply asked × DataSourceRuntime)) := by
    intro asked
    exact performs_bind (performs_perform fun _ => rfl) fun reply => performs_pure
  cases effect with
  | measure_sample vector config => exact measure_sample_unconnecting runtime vector config
  | list lead => exact passed (.list lead)
  | get path => exact passed (.get path)
  | put path body => exact passed (.put path body)
  | is_cancelled => exact passed .is_cancelled

theorem run_cohorts_unconnecting (cohorts : List CohortName) (report : RoundRunReport) :
    Performs Unconnecting (run_cohorts debug_duration codec beta_reg config timestamps cohorts data_sources report) := by
  induction cohorts generalizing data_sources report with
  | nil => exact performs_pure
  | cons cohort rest ih =>
    refine performs_bind (performs_perform fun _ => rfl) fun cancelled => ?_
    cases cancelled with
    | true => exact performs_pure
    | false =>
      dsimp only
      cases cohort_runtime config data_sources cohort with
      | error message => exact ih _
      | ok found =>
        refine performs_bind (run_cohort_unconnecting found) ?_
        rintro ⟨result, runtime⟩
        cases result with
        | error error => exact ih _
        | ok outcome =>
          cases outcome with
          | Published output => exact ih _
          | Cancelled => exact performs_pure

/-- The data source is connected when the rounds of the cohorts begin. -/
inductive Held (name : String) (before : Option DataSourceRuntime) : List (Logged B) → Prop where
  | found {first : List (Logged B)} (connection : DatabaseConnection) (connected : before = some (.Connected connection))
      (unclosed : ⟨.is_closed name, true⟩ ∉ first) : Held name before first
  | connected (earlier : List (Logged B)) (config : PostgresConfig) (later : List (Logged B))
      (unclosed : ⟨.is_closed name, true⟩ ∉ later) : Held name before (earlier ++ ⟨.connect name config, .ok ()⟩ :: later)

/-- The exchanges of one round about a data source: `first` before its cohorts, `second` during their rounds. -/
structure Contained (name : String) (before : Option DataSourceRuntime) (first second : List (Logged B))
    (outcome : Outcome Panic (RoundRunReport × DataSources)) : Prop where
  managing : ∀ exchange ∈ first, Manages exchange.effect
  connected_once : (first.filter fun exchange => connects name exchange.effect).length ≤ 1
  /-- It is connected only where it was unavailable or has been found closed. -/
  connected_needed : (∃ exchange ∈ first, connects name exchange.effect = true) →
    (∀ connection, before ≠ some (.Connected connection)) ∨ ⟨.is_closed name, true⟩ ∈ first
  unconnected : ∀ exchange ∈ second, connects name exchange.effect = false
  /-- What could not be connected is left alone. -/
  unavailable : ∀ config failure, ⟨.connect name config, .error failure⟩ ∈ first →
    ∀ exchange ∈ second, target exchange.effect ≠ some name
  /-- What was lost is only buried. -/
  lost : ∀ earlier exchange later, second = earlier ++ exchange :: later → Loses name exchange →
    ∀ other ∈ later, target other.effect = some name → Buries name other.effect
  /-- What is connected and not struck itself is connected still, whatever happened to the others. -/
  held : Held name before first → (∀ exchange ∈ second, struck name exchange.effect exchange.reply = false) →
    ∀ report sources, outcome = .returned (report, sources) → Holding sources name

/-- A connection is up from its first reading of the clock on. -/
def Standing (line : Line) : Prop := line = .Opened ∨ line = .Idle

theorem standing_step {effect : TunerEffect B} {reply : TunerReply effect} (standing : Standing line) (manages : Manages effect)
    (unclosed : (⟨effect, reply⟩ : Logged B) ≠ ⟨.is_closed name, true⟩)
    (stepped : line.advance name effect reply = some line') : Standing line' := by
  by_cases here : target effect = some name
  · rw [advance_here here] at stepped
    cases effect with
    | is_closed data_source =>
      obtain rfl := Option.some.inj here
      cases reply with
      | true => exact absurd rfl unclosed
      | false =>
        rcases standing with rfl | rfl
        · cases stepped
        · exact .inr (Option.some.inj stepped).symm
    | clock data_source =>
      rcases standing with rfl | rfl
      · exact .inr (Option.some.inj stepped).symm
      · cases stepped
    | connect data_source config => rcases standing with rfl | rfl <;> cases stepped
    | abandon data_source => rcases standing with rfl | rfl <;> cases stepped
    | env_var variable_name => cases here
    | _ => exact manages.elim
  · rw [advance_elsewhere here] at stepped
    exact Option.some.inj stepped ▸ standing

theorem standing_log {log : List (Logged B)} (standing : Standing line)
    (managing : ∀ exchange ∈ log, Manages exchange.effect) (unclosed : ⟨.is_closed name, true⟩ ∉ log)
    (passed : accepts (Line.advance name) line log = some line') : Standing line' := by
  induction log generalizing line with
  | nil => exact Option.some.inj passed ▸ standing
  | cons exchange later ih =>
    obtain ⟨between, stepped, rest⟩ := Option.bind_eq_some_iff.mp passed
    rw [List.mem_cons, not_or] at unclosed
    exact ih (standing_step standing (managing _ List.mem_cons_self) (Ne.symm unclosed.1) stepped)
      (fun other member => managing other (List.mem_cons_of_mem _ member)) unclosed.2 rest

/-- A data source that is connected when the reconnections are over. -/
theorem Held.holding {before : Option DataSourceRuntime} {first : List (Logged B)} {sources : DataSources}
    (held : Held name before first) (managing : ∀ exchange ∈ first, Manages exchange.effect)
    (passed : accepts (Line.advance name) (line_of before) first = some (line_of sources[name]?)) : Holding sources name := by
  have standing : Standing (line_of sources[name]?) := by
    cases held with
    | found connection connected unclosed =>
      subst connected
      exact standing_log (.inr rfl) managing unclosed passed
    | connected earlier config later unclosed =>
      rw [accepts_append] at passed
      obtain ⟨there, _, rest⟩ := Option.bind_eq_some_iff.mp passed
      obtain ⟨between, stepped, rest⟩ := Option.bind_eq_some_iff.mp rest
      change Line.advance name there (.connect name config) (.ok ()) = some between at stepped
      rw [advance_here rfl] at stepped
      have opened : Standing between := by
        cases there with
        | Down => exact .inl (Option.some.inj stepped).symm
        | Charged ended => cases ended <;> cases stepped
        | Working transaction => cases transaction <;> cases stepped
        | _ => cases stepped
      exact standing_log opened (fun other member => managing other (List.mem_append_right _ (List.mem_cons_of_mem _ member)))
        unclosed rest
  cases present : sources[name]? with
  | none =>
    rw [present] at standing
    rcases standing with down | down <;> cases down
  | some runtime =>
    rw [present] at standing
    cases runtime with
    | Connected connection => exact ⟨connection, present⟩
    | Unavailable error => rcases standing with down | down <;> cases down

theorem contained_of_accepted {before : Option DataSourceRuntime} {first second : List (Logged B)} {used : Bool}
    {outcome : Outcome Panic (RoundRunReport × DataSources)}
    (held : Held name before first → (∀ exchange ∈ second, struck name exchange.effect exchange.reply = false) →
      ∀ report sources, outcome = .returned (report, sources) → Holding sources name)
    (managing : ∀ exchange ∈ first, Manages exchange.effect)
    (counted : accepts (once name) false first = some used) (unconnecting : ∀ exchange ∈ second, Unconnecting exchange.effect)
    (passed : accepts (Line.advance name) (line_of before) (first ++ second) = some line) :
    Contained name before first second outcome := by
  have single : (first.filter fun exchange => connects name exchange.effect).length ≤ 1 := by
    have count := once_count counted
    have bound := Bool.toNat_le used
    rw [Bool.toNat_false] at count
    omega
  have unconnected : ∀ exchange ∈ second, connects name exchange.effect = false := fun exchange member =>
    unconnecting exchange member name
  refine ⟨managing, single, fun connecting => ?_, unconnected, ?_, ?_, held⟩
  · rw [accepts_append] at passed
    obtain ⟨between, early, _⟩ := Option.bind_eq_some_iff.mp passed
    cases before with
    | none => exact .inl (by simp)
    | some runtime =>
      cases runtime with
      | Unavailable error => exact .inl (by simp)
      | Connected connection => exact .inr (closed_before managing early connecting)
  · intro config failure member exchange within
    obtain ⟨earlier, later, rfl⟩ := List.append_of_mem member
    rw [List.append_assoc, accepts_append] at passed
    obtain ⟨there, _, rest⟩ := Option.bind_eq_some_iff.mp passed
    obtain ⟨between, stepped, rest⟩ := Option.bind_eq_some_iff.mp rest
    change Line.advance name there (.connect name config) (.error failure) = some between at stepped
    rw [advance_here rfl] at stepped
    obtain rfl : between = .Down := by
      cases there with
      | Down => exact (Option.some.inj stepped).symm
      | Charged ended => cases ended <;> cases stepped
      | Working transaction => cases transaction <;> cases stepped
      | _ => cases stepped
    have none_later : ∀ other ∈ later, connects name other.effect = false := by
      have here : connects name (.connect name config : TunerEffect B) = true := by simp [connects]
      rw [List.filter_append, List.filter_cons_of_pos (by exact here), List.length_append, List.length_cons] at single
      have empty : later.filter (fun exchange => connects name exchange.effect) = [] :=
        List.eq_nil_of_length_eq_zero (by omega)
      intro other member
      simpa using List.filter_eq_nil_iff.mp empty other member
    refine down_silent ?_ rest exchange (List.mem_append_right later within)
    intro other either
    exact (List.mem_append.mp either).elim (none_later other) (unconnected other)
  · rintro earlier exchange later rfl lost
    rw [accepts_append] at passed
    obtain ⟨between, _, rest⟩ := Option.bind_eq_some_iff.mp passed
    rw [accepts_append] at rest
    obtain ⟨there, _, rest⟩ := Option.bind_eq_some_iff.mp rest
    obtain ⟨after, stepped, rest⟩ := Option.bind_eq_some_iff.mp rest
    refine given_up_log (lost.given_up stepped) (fun other member => ?_) rest
    exact unconnected other (List.mem_append_right earlier (List.mem_cons_of_mem exchange member))

end Cohorts

end Losses

/-- Whatever a round of the tuner meets, its connections are made before its cohorts, once and where needed; a data source
    that cannot be connected or is lost has no part in the rest of the round, and every other one stays connected. -/
theorem losses_contained {B : Type} (debug : String → String) (debug_duration : Duration → String)
    (password_env_exists : String → Bool) (codec : Codec B) (beta_reg : Float → Float → Float → Float) (raw : RawConfig)
    (config : Config) (accepted : from_raw debug password_env_exists raw = .ok config) (timestamps : RoundTimestamps)
    (data_sources : DataSources) (world world' : TunerWorld B) (outcome : Outcome Panic (RoundRunReport × DataSources))
    (ran : Runs tuner_answer (run_round debug debug_duration codec beta_reg config timestamps data_sources) world outcome
      world') :
    ∃ first second, world'.log = world.log ++ (first ++ second) ∧
      ∀ name, Contained name data_sources[name]? first second outcome := by
  have valid := (from_raw_ok accepted).budget
  -- the round is its reconnections and then its cohorts, if it gets to them
  have split : ∃ first second, world'.log = world.log ++ (first ++ second) ∧
      (∀ exchange ∈ first, Manages exchange.effect) ∧ (∀ exchange ∈ second, Unconnecting exchange.effect) ∧
      ∀ name, (∃ used, accepts (once name) false first = some used) ∧
        (Held name data_sources[name]? first → (∀ exchange ∈ second, struck name exchange.effect exchange.reply = false) →
          ∀ report sources, outcome = .returned (report, sources) → Holding sources name) := by
    have early : ∀ {middle : TunerWorld B} {result : Outcome Panic DataSources},
        Runs tuner_answer (reconnect_unavailable_data_sources debug debug_duration config data_sources) world result middle →
        ∃ first, middle.log = world.log ++ first ∧ (∀ exchange ∈ first, Manages exchange.effect) ∧
          ∀ name, (∃ used, accepts (once name) false first = some used) ∧
            ∀ sources, result = .returned sources →
              accepts (Line.advance name) (line_of data_sources[name]?) first = some (line_of sources[name]?) := by
      intro middle result reconnected
      obtain ⟨first, logged, manages⟩ := performs_exchanges tuner_journaled reconnections_manage reconnected
      refine ⟨first, logged, manages, fun name => ⟨?_, ?_⟩⟩
      · obtain ⟨block, used, same, counted, _⟩ := Follows.accepted tuner_journaled once_reconnections reconnected
        exact ⟨used, List.append_cancel_left (logged.symm.trans same) ▸ counted⟩
      · obtain ⟨block, line, same, passed, returned, _⟩ :=
          Follows.accepted tuner_journaled (settles_reconnections valid) reconnected
        rintro sources rfl
        rw [List.append_cancel_left (logged.symm.trans same), passed, returned _ rfl _ rfl]
    rcases runs_bind.mp ran with ⟨sources, middle, reconnected, rounds⟩ | ⟨error, reconnected, rfl⟩ | ⟨reconnected, rfl⟩
    · obtain ⟨first, logged, manages, known⟩ := early reconnected
      obtain ⟨second, later, unconnecting⟩ := performs_exchanges tuner_journaled (run_cohorts_unconnecting _ _) rounds
      refine ⟨first, second, by rw [later, logged, List.append_assoc], manages, unconnecting, fun name => ⟨(known name).1, ?_⟩⟩
      intro held clean report left returned
      obtain ⟨block, same, kept⟩ := Barring.runs tuner_journaled
        (keeps_run_cohorts _ _ (held.holding manages ((known name).2 sources rfl))) rounds
      obtain rfl : second = block := List.append_cancel_left (later.symm.trans same)
      exact kept (fun exchange member => by simp [clean exchange member]) _ returned _ rfl
    · obtain ⟨first, logged, manages, known⟩ := early reconnected
      exact ⟨first, [], by simpa using logged, manages, by simp, fun name => ⟨(known name).1, by simp⟩⟩
    · obtain ⟨first, logged, manages, known⟩ := early reconnected
      exact ⟨first, [], by simpa using logged, manages, by simp, fun name => ⟨(known name).1, by simp⟩⟩
  obtain ⟨first, second, logged, manages, unconnecting, known⟩ := split
  refine ⟨first, second, logged, fun name => ?_⟩
  obtain ⟨⟨used, counts⟩, held⟩ := known name
  obtain ⟨block, line, same, passed, _⟩ := Follows.accepted tuner_journaled (settles_run_round valid) ran
  exact contained_of_accepted held manages counts unconnecting (List.append_cancel_left (logged.symm.trans same) ▸ passed)

/-! ### A round with a loss -/

def twinConnection : DatabaseConnection :=
  { pacer := { db_share := 0.1, next_allowed := twinStart, work_count := 0, total_busy := Duration.ZERO }
    statement_timeout := localRaw.budget.statement_timeout, client_timeout := localRaw.budget.client_timeout }
def twinConnected : DataSources :=
  .ofList [("primary", .Connected twinConnection), ("replica", .Connected twinConnection)] compare

theorem shadow_validates : validate_cohort_name "shadow" = .ok () := by decide
/-- The segments of two cohorts, of which the first loses its connection at its first query. -/
def twinRound (config : Config) : Outcome Panic (RoundRunReport × DataSources) × TunerWorld Body :=
  (run_round id (fun _ => "") smallCodec smallBeta config ⟨120, "1970-01-01T00:02:05Z", 125000000⟩ twinConnected).exec
    tuner_answer (twinWorld [twinSource ⟨"prod", prod_validates⟩, twinSource ⟨"shadow", shadow_validates⟩])
    (List.replicate 14 calmChoice ++ brokenChoice :: List.replicate 41 calmChoice)

/-- The cohorts that a round reports as published and as failed. -/
def reported : Outcome Panic (RoundRunReport × DataSources) → Option (List String × List String)
  | .returned (report, _) => some (report.published.keys, report.failed_cohorts.keys)
  | _ => none

theorem reported_some {outcome : Outcome Panic (RoundRunReport × DataSources)} {names : List String × List String}
    (found : reported outcome = some names) : ∃ report sources, outcome = .returned (report, sources) ∧
      report.published.keys = names.1 ∧ report.failed_cohorts.keys = names.2 := by
  unfold reported at found
  split at found
  · cases found
    exact ⟨_, _, rfl, rfl, rfl⟩
  · cases found

def found_closed (name : String) : (effect : TunerEffect Body) → TunerReply effect → Bool
  | .is_closed source, closed => source = name && closed
  | _, _ => false

/-- The one line is lost, the other is not struck. -/
def twinLog (log : List (Logged Body)) : List Line × Bool :=
  ((positions "primary" .Idle log).destutter (· ≠ ·), log.any fun exchange =>
    struck "replica" exchange.effect exchange.reply || found_closed "replica" exchange.effect exchange.reply)

theorem twinRound_runs : ∃ config, from_raw id (fun _ => true) twinRaw = .ok config ∧
    reported (twinRound config).1 = some (["shadow"], ["prod"]) ∧ twinLog (twinRound config).2.log =
      ([.Idle, .Awake, .Working .Before, .Working .Open, .Working (.Over .Lost), .Charged .Lost, .Spent, .Down], false) :=
  ⟨_, rfl, by decide +kernel⟩

theorem local_losses_contained : ∃ config first second report sources, from_raw id (fun _ => true) twinRaw = .ok config ∧
    (twinRound config).1 = .returned (report, sources) ∧ (twinRound config).2.log = first ++ second ∧
    report.published.keys = ["shadow"] ∧ report.failed_cohorts.keys = ["prod"] ∧
    (positions "primary" .Idle (twinRound config).2.log).destutter (· ≠ ·) =
      [.Idle, .Awake, .Working .Before, .Working .Open, .Working (.Over .Lost), .Charged .Lost, .Spent, .Down] ∧
    (∀ name, Contained name twinConnected[name]? first second (twinRound config).1) ∧ Holding sources "replica" := by
  obtain ⟨config, accepted, found, passed⟩ := twinRound_runs
  obtain ⟨report, sources, returned, published, failed⟩ := reported_some found
  obtain ⟨lost, calm⟩ := Prod.mk.inj passed
  obtain ⟨first, second, logged, contained⟩ := losses_contained id (fun _ => "") (fun _ => true) smallCodec smallBeta twinRaw
    config accepted ⟨120, "1970-01-01T00:02:05Z", 125000000⟩ twinConnected _ (twinRound config).2 (twinRound config).1
    ⟨List.replicate 14 calmChoice ++ brokenChoice :: List.replicate 41 calmChoice, rfl⟩
  have whole : (twinRound config).2.log = first ++ second := logged
  rw [whole, List.any_append, Bool.or_eq_false_iff, List.any_eq_false, List.any_eq_false] at calm
  refine ⟨config, first, second, report, sources, accepted, returned, whole, published, failed, lost, contained, ?_⟩
  refine (contained "replica").held (.found twinConnection rfl fun closed => ?_) (fun exchange member => ?_) report
    sources returned
  · exact calm.1 _ closed rfl
  · have clean := calm.2 exchange member
    rw [Bool.not_eq_true, Bool.or_eq_false_iff] at clean
    exact clean.1

end VectorSeam.Losses
