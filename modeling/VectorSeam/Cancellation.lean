import VectorSeam.Losses

/-!
How work stops. A cohort round asks for nothing more once it was told to stop or a measurement
has lost its connection, and its result says which of the two it was. The daemon stops with
it: after the first sign of a cancellation it only closes its connections and joins its
signal task. It ends well exactly when it was cancelled and that task has ended well.
-/

namespace VectorSeam.Cancellation
open VectorSeam.Model VectorSeam.Cohort VectorSeam.ObjectStore VectorSeam.Aggregate VectorSeam.Effects VectorSeam.Programs
open VectorSeam.Durations VectorSeam.Configuration VectorSeam.Intermediate VectorSeam.Measure VectorSeam.Pipeline
open VectorSeam.Publishing VectorSeam.Database VectorSeam.Handlers VectorSeam.Typestates VectorSeam.Connections
open VectorSeam.Tuner VectorSeam.Transactions VectorSeam.Results

variable {B : Type}

/-! ### A cohort round -/

/-- What a cohort round has been told. -/
inductive Phase where
  | Going
  | Cancelled
  | Lost (message : String)
deriving DecidableEq

/-- What the answer of a measurement tells. -/
def measured {α : Type} : Except SampleMeasureError α → Phase
  | .error (.Connection message) => .Lost message
  | .error .CancelledBeforeTransaction => .Cancelled
  | _ => .Going

/-- A round that was told to stop has no further requests. -/
def Phase.advance : Phase → (effect : Effect B) → Reply effect → Option Phase
  | .Going, .is_cancelled, cancelled => some (if cancelled then .Cancelled else .Going)
  | .Going, .measure_sample _ _, reply => some (measured reply)
  | .Going, .list _, _ => some .Going
  | .Going, .get _, _ => some .Going
  | .Going, .put _ _, _ => some .Going
  | _, _, _ => none

/-- Only the loss of a connection is told by the error for it. -/
def Ends {α : Type} : Except PipelineError α → Phase → Prop
  | .error (.ConnectionUnavailable _ message), phase => phase = .Lost message
  | _, phase => phase = .Going

/-- A program that a round goes on after. -/
abbrev Proceeds {α : Type} (program : Program B PipelineError α) : Prop := Follows Phase.advance Ends .Going program

section Storage
variable {α β : Type} {codec : Codec B} {config : AggregationConfig}

/-- The error is not about a connection. -/
def Plain : PipelineError → Prop
  | .ConnectionUnavailable _ _ => False
  | _ => True

theorem plain_ends {error : PipelineError} (plain : Plain error) : Ends (.error error : Except PipelineError α) .Going := by
  cases error with
  | ConnectionUnavailable part_ulid message => exact plain.elim
  | _ => rfl

theorem ends_error {error : PipelineError} {phase : Phase} (ends : Ends (.error error : Except PipelineError α) phase) :
    Ends (.error error : Except PipelineError β) phase := by
  cases error with
  | ConnectionUnavailable part_ulid message => exact ends
  | _ => exact ends

theorem proceeds_bind {program : Program B PipelineError α} {next : α → Program B PipelineError β} (first : Proceeds program)
    (second : ∀ value, Proceeds (next value)) : Proceeds (program >>= next) := by
  refine follows_bind _ first (fun error phase => ends_error) fun value phase going => ?_
  obtain rfl : phase = .Going := going
  exact second value

theorem proceeds_pure {value : α} : Proceeds (pure value : Program B PipelineError α) := follows_pure rfl

theorem proceeds_wrap {ε : Type} {rename : ε → PipelineError} {result : Except ε α}
    (plain : ∀ error, result = .error error → Plain (rename error)) : Proceeds (wrap rename result : Program B PipelineError α) := by
  cases result with
  | ok value => exact proceeds_pure
  | error error => exact plain_ends (plain error rfl)

theorem proceeds_get_bytes (path : Path) : Proceeds (get_bytes path : Program B PipelineError B) := by
  refine follows_perform_bind fun reply => ⟨.Going, rfl, ?_⟩
  cases reply with
  | found body => exact proceeds_pure
  | body_failed message => exact plain_ends trivial
  | not_found => exact plain_ends trivial
  | failed message => exact plain_ends trivial

theorem proceeds_put_bytes (path : Path) (bytes : B) : Proceeds (put_bytes path bytes) :=
  follows_perform_bind fun _ => ⟨.Going, rfl, proceeds_wrap fun _ _ => trivial⟩

theorem proceeds_list_paths (lead : Path) : Proceeds (list_paths lead : Program B PipelineError (List Path)) :=
  follows_perform_bind fun _ => ⟨.Going, rfl, proceeds_wrap fun _ _ => trivial⟩

theorem proceeds_source_windows (cohort : String) (window_starts : List Nat) :
    Proceeds (list_source_windows cohort window_starts : Program B PipelineError (List (Nat × Path))) := by
  induction window_starts with
  | nil => exact proceeds_pure
  | cons window_start rest ih =>
    refine proceeds_bind (proceeds_wrap fun _ _ => trivial) fun timestamp => ?_
    exact proceeds_bind (proceeds_list_paths _) fun listed => proceeds_bind ih fun objects => proceeds_pure

theorem proceeds_measurement_objects (cohort : String) (window_starts : List Nat) :
    Proceeds (list_measurement_objects cohort window_starts : Program B PipelineError (List Path)) := by
  induction window_starts with
  | nil => exact proceeds_pure
  | cons window_start rest ih =>
    refine proceeds_bind (proceeds_wrap fun _ _ => trivial) fun timestamp => ?_
    exact proceeds_bind (proceeds_list_paths _) fun listed => proceeds_bind ih fun objects => proceeds_pure

theorem proceeds_load_headers (cohort : String) (width : Nat) (objects : List (Nat × Path))
    (by_ulid : BTreeMap String SourcePart) : Proceeds (load_headers codec cohort width objects by_ulid) := by
  induction objects generalizing by_ulid with
  | nil => exact proceeds_pure
  | cons object rest ih =>
    obtain ⟨window_start, path⟩ := object
    unfold load_headers
    cases source_part_ulid path with
    | none => exact ih by_ulid
    | some part_ulid =>
      refine proceeds_bind (proceeds_get_bytes path) fun bytes => proceeds_bind (proceeds_wrap fun _ _ => trivial) fun part => ?_
      split
      · exact plain_ends trivial
      · exact ih _

theorem classify_pair_plain (source : SourcePart) (read : Except IntermediateError IntermediatePart) (classified : Classified) :
    Fails Plain (classify_pair config source read classified) := by
  cases read with
  | error error => exact fails_ok
  | ok part =>
    unfold classify_pair
    refine fails_ite (fun _ => fails_ok) fun _ => fails_ite (fun _ => ?_) fun _ => fails_ok
    cases checked_add classified.phase_a_incompatible_parts 1 with
    | none => exact fails_error trivial
    | some total => exact fails_ok

theorem proceeds_classify (measurement_objects : List Path) (sources : List SourcePart) (classified : Classified) :
    Proceeds (classify codec config measurement_objects sources classified) := by
  induction sources generalizing classified with
  | nil => exact proceeds_pure
  | cons source rest ih =>
    refine proceeds_bind (proceeds_wrap fun _ _ => trivial) fun paths => ?_
    dsimp only
    split
    · refine proceeds_bind (proceeds_get_bytes _) fun truth => proceeds_bind (proceeds_get_bytes _) fun sweep => ?_
      exact proceeds_bind (proceeds_wrap (classify_pair_plain source _ classified)) fun after => ih after
    · exact ih _

theorem proceeds_survey_store (round_end : Nat) : Proceeds (survey_store codec config round_end) := by
  refine proceeds_bind (proceeds_wrap fun _ _ => trivial) fun window_starts => ?_
  refine proceeds_bind (proceeds_bind (proceeds_source_windows _ _) fun _ => proceeds_pure) fun source_objects => ?_
  refine proceeds_bind (proceeds_measurement_objects _ _) fun measurement_objects => ?_
  refine proceeds_bind (proceeds_bind (proceeds_load_headers _ _ _ _) fun _ => proceeds_pure) fun sources => ?_
  exact proceeds_bind (proceeds_classify _ _ _) fun classified => proceeds_pure

theorem proceeds_store_measured (cohort : String) (source : SourcePart) (measured : MeasuredPart) :
    Proceeds (store_measured codec cohort source measured) := by
  refine proceeds_bind (proceeds_wrap fun _ _ => trivial) fun bodies => ?_
  refine proceeds_bind (proceeds_wrap fun _ _ => trivial) fun paths => ?_
  refine proceeds_bind (proceeds_put_bytes _ _) fun _ => proceeds_bind (proceeds_put_bytes _ _) fun _ => ?_
  exact proceeds_wrap fun _ _ => trivial

end Storage

/-! ### Measuring -/

/-- What the measurement of a part has been told. -/
def Measured {ε : Type} : Except ε MeasurePartOutcome → Phase → Prop
  | .ok .Cancelled, phase => phase = .Cancelled
  | .ok (.ConnectionUnavailable message), phase => phase = .Lost message
  | _, phase => phase = .Going

/-- What a round has been told that ends with this result. -/
def Concludes : Except PipelineError CohortRoundOutcome → Phase → Prop
  | .ok .Cancelled, phase => phase = .Cancelled
  | .error (.ConnectionUnavailable _ message), phase => phase = .Lost message
  | _, phase => phase = .Going

section Round
variable {codec : Codec B} {beta_reg : Float → Float → Float → Float} {config : AggregationConfig}
  {computed_at_us round_end : Nat} {computed_at : String}

theorem follows_measure_samples (part : PreparedPart) (part_ulid : String) (samples : List PreparedSample) (measuring : Measuring) :
    Follows Phase.advance Measured .Going
      (measure_samples part part_ulid config computed_at_us samples measuring : Program B PreparePartError MeasurePartOutcome) := by
  induction samples generalizing measuring with
  | nil => exact follows_pure rfl
  | cons sample rest ih =>
    refine follows_perform_bind fun cancelled => ?_
    cases cancelled with
    | true => exact ⟨.Cancelled, rfl, rfl⟩
    | false =>
      refine ⟨.Going, rfl, ?_⟩
      simp only [Bool.false_eq_true, ↓reduceIte]
      split
      · refine follows_perform_bind fun reply => ⟨measured reply, rfl, ?_⟩
        cases reply with
        | ok answer =>
          refine follows_bind (fun _ phase => phase = .Going) (follows_lift rfl) (fun _ _ going => going) ?_
          rintro measuring _ rfl
          exact ih measuring
        | error error =>
          cases error with
          | Database message => exact ih _
          | Connection message => exact follows_pure rfl
          | CancelledBeforeTransaction => exact follows_pure rfl
          | TableSmallerThanK returned k => exact follows_pure rfl
      · exact ih _

theorem follows_renamed {ε ε' α : Type} {post : Except ε α → Phase → Prop} {post' : Except ε' α → Phase → Prop} {rename : ε → ε'}
    {phase : Phase} {program : Program B ε α} (follows : Follows Phase.advance post phase program)
    (value : ∀ value phase, post (.ok value) phase → post' (.ok value) phase)
    (error : ∀ error phase, post (.error error) phase → post' (.error (rename error)) phase) :
    Follows Phase.advance post' phase (program.mapError rename) := by
  induction program generalizing phase with
  | done result => exact value _ _ follows
  | fail raised => exact error _ _ follows
  | ask effect next ih =>
    intro reply
    obtain ⟨phase', stepped, later⟩ := follows reply
    exact ⟨phase', stepped, ih reply later⟩

theorem follows_measure_source (source : SourcePart) :
    Follows Phase.advance (fun result phase => match result with
      | .ok outcome => Measured (.ok outcome : Except PipelineError MeasurePartOutcome) phase
      | .error error => Ends (.error error : Except PipelineError CohortRoundOutcome) phase) .Going
      (measure_source codec config computed_at_us source) := by
  refine follows_bind _ (proceeds_get_bytes _) (fun error phase => ends_error) ?_
  rintro bytes _ rfl
  refine follows_bind _ (proceeds_wrap fun _ _ => trivial) (fun error phase => ends_error) ?_
  rintro prepared _ rfl
  refine follows_renamed (follows_measure_samples prepared _ _ _) (fun outcome phase holds => ?_) fun error phase going => going
  cases outcome with
  | _ => exact holds

/-- The measuring phase is over because it was through, or as the cause says that stopped it. -/
theorem follows_measure_pending (sources : List SourcePart) (compatible : BTreeMap String IntermediatePart) :
    Follows Phase.advance (fun result phase => match result with
      | .ok .Cancelled => phase = .Cancelled
      | .ok (.Measured _ _) => phase = .Going
      | .error error => Ends (.error error : Except PipelineError CohortRoundOutcome) phase) .Going
      (measure_pending codec config computed_at_us sources compatible) := by
  induction sources generalizing compatible with
  | nil => exact follows_pure rfl
  | cons source rest ih =>
    refine follows_perform_bind fun cancelled => ?_
    cases cancelled with
    | true => exact ⟨.Cancelled, rfl, rfl⟩
    | false =>
      refine ⟨.Going, rfl, ?_⟩
      simp only [Bool.false_eq_true, ↓reduceIte]
      refine follows_bind _ (follows_measure_source source) (fun error phase => ends_error) ?_
      intro outcome phase holds
      cases outcome with
      | Complete part =>
        obtain rfl : phase = .Going := holds
        refine follows_bind _ (proceeds_store_measured _ _ part) (fun error phase => ends_error) ?_
        rintro intermediate _ rfl
        exact ih _
      | TableSmallerThanK abort => exact follows_pure holds
      | ConnectionUnavailable message => exact holds
      | Cancelled => exact follows_pure holds

theorem follows_finish_round (ending : Ending) : Follows Phase.advance Concludes .Going (ending.program codec beta_reg) := by
  refine follows_perform_bind fun cancelled => ?_
  cases cancelled with
  | true => exact ⟨.Cancelled, rfl, rfl⟩
  | false =>
    refine ⟨.Going, rfl, ?_⟩
    simp only [Bool.false_eq_true, ↓reduceIte]
    have concludes : ∀ (error : PipelineError) (phase : Phase), Ends (.error error : Except PipelineError CohortRoundOutcome) phase →
        Concludes (.error error) phase := by
      intro error phase ends
      cases error with
      | _ => exact ends
    refine follows_bind _ (proceeds_wrap fun _ _ => trivial) (fun error phase ends => concludes error phase (ends_error ends)) ?_
    rintro paths _ rfl
    refine follows_bind Ends ?_ (fun error phase ends => concludes error phase (ends_error ends)) ?_
    · refine follows_perform_bind fun reply => ⟨.Going, rfl, proceeds_wrap fun error failed => ?_⟩
      obtain ⟨message, _, rfl⟩ := previous_of_error failed
      trivial
    rintro previous_round _ rfl
    refine follows_bind _ (proceeds_wrap fun _ _ => trivial) (fun error phase ends => concludes error phase (ends_error ends)) ?_
    rintro output _ rfl
    refine follows_bind _ (proceeds_wrap fun _ _ => trivial) (fun error phase ends => concludes error phase (ends_error ends)) ?_
    rintro bytes _ rfl
    refine follows_bind _ (proceeds_put_bytes _ _) (fun error phase ends => concludes error phase (ends_error ends)) ?_
    rintro _ _ rfl
    refine follows_bind _ (proceeds_put_bytes _ _) (fun error phase ends => concludes error phase (ends_error ends)) ?_
    rintro _ _ rfl
    exact follows_pure rfl

/-- A cohort round asks for nothing after it was told to stop, and its result tells why it ended. -/
theorem follows_round :
    Follows Phase.advance Concludes .Going
      (run_cohort_round codec beta_reg config round_end computed_at computed_at_us) := by
  have concludes : ∀ {α : Type} (error : PipelineError) (phase : Phase), Ends (.error error : Except PipelineError α) phase →
      Concludes (.error error) phase := by
    intro α error phase ends
    cases error with
    | _ => exact ends
  refine follows_bind _ (proceeds_survey_store round_end) (fun error phase => concludes error phase) ?_
  rintro ⟨sources, classified⟩ _ rfl
  refine follows_bind _ (follows_measure_pending classified.pending classified.compatible)
    (fun error phase => concludes error phase) ?_
  intro outcome phase holds
  cases outcome with
  | Cancelled => exact follows_pure holds
  | Measured compatible phase_a_abort =>
    obtain rfl : phase = .Going := holds
    exact follows_finish_round ⟨config, round_end, computed_at, sources, classified.phase_a_incompatible_parts, compatible,
      phase_a_abort⟩

end Round

/-! ### The last request of a round -/

/-- A logged event as an exchange. -/
def exchange_of : Event B → Exchange (Reply (B := B))
  | .listed lead reply => ⟨.list lead, reply⟩
  | .got path reply => ⟨.get path, reply⟩
  | .uploaded path body reply _ => ⟨.put path body, reply⟩
  | .measured vector config reply => ⟨.measure_sample vector config, reply⟩
  | .polled cancelled => ⟨.is_cancelled, cancelled⟩

theorem answer_journaled : Journaled (answer (B := B)) fun world => world.log.map exchange_of := by
  intro world choice effect
  cases effect with
  | _ => simp [answer, World.record, World.upload, exchange_of]

/-- What an event tells the round. -/
def told : Event B → Phase
  | .polled cancelled => if cancelled then .Cancelled else .Going
  | .measured _ _ reply => measured reply
  | _ => .Going

theorem told_going (event : Event B) :
    Phase.advance .Going (exchange_of event).effect (exchange_of event).reply = some (told event) := by
  cases event with
  | _ => rfl

theorem told_otherwise {phase : Phase} (event : Event B) (stopped : phase ≠ .Going) :
    phase.advance (exchange_of event).effect (exchange_of event).reply = none := by
  cases phase with
  | Going => exact absurd rfl stopped
  | Cancelled => rfl
  | Lost message => rfl

/-- Only the last of the events may have told the round to stop. -/
theorem accepted_told {block : List (Event B)} {phase : Phase}
    (accepted : accepts Phase.advance .Going (block.map exchange_of) = some phase) :
    (∀ event ∈ block.dropLast, told event = .Going) ∧ phase = (block.getLast?.map told).getD .Going := by
  induction block with
  | nil =>
    obtain rfl := Option.some.inj accepted
    exact ⟨fun _ member => absurd member List.not_mem_nil, rfl⟩
  | cons event later ih =>
    rw [List.map_cons, accepts, told_going, Option.bind_some] at accepted
    cases later with
    | nil =>
      obtain rfl := Option.some.inj accepted
      exact ⟨fun _ member => absurd member List.not_mem_nil, rfl⟩
    | cons next rest =>
      have going : told event = .Going := by
        by_contra stopped
        rw [List.map_cons, accepts, told_otherwise next stopped] at accepted
        cases accepted
      rw [going] at accepted
      obtain ⟨before, last⟩ := ih accepted
      refine ⟨fun other member => ?_, by rw [last, List.getLast?_cons_cons]⟩
      rw [List.dropLast_cons_cons] at member
      rcases List.mem_cons.mp member with rfl | member
      · exact going
      · exact before other member

/-- The phase that a result is for. -/
def phase_of : Outcome PipelineError CohortRoundOutcome → Option Phase
  | .returned .Cancelled => some .Cancelled
  | .returned (.Published _) => some .Going
  | .failed (.ConnectionUnavailable _ message) => some (.Lost message)
  | .failed _ => some .Going
  | .stopped => none

/-- In every run of a cohort round only its last request may have been answered with a cancellation or with the loss of
    the connection, and unless the run was stopped itself, its result is a cancellation or a lost connection exactly when
    that answer was. -/
theorem rounds_stop_as_told {B : Type} (codec : Codec B) (beta_reg : Float → Float → Float → Float)
    (config : AggregationConfig) (round_end : Nat) (computed_at : String) (computed_at_us : Nat) (world world' : World B)
    (outcome : Outcome PipelineError CohortRoundOutcome)
    (run : Runs answer (run_cohort_round codec beta_reg config round_end computed_at computed_at_us) world outcome world') :
    ∃ block, world'.log = world.log ++ block ∧ (∀ event ∈ block.dropLast, told event = .Going) ∧
      ∀ phase, phase_of outcome = some phase → (block.getLast?.map told).getD .Going = phase := by
  obtain ⟨exchanges, phase, logged, accepted, returned, failed⟩ := follows_round.accepted answer_journaled run
  obtain ⟨block, same, _⟩ := Requests.performs_log (performs_any _) run
  have exact_block : exchanges = block.map exchange_of := by
    have both : world.log.map exchange_of ++ exchanges = world.log.map exchange_of ++ block.map exchange_of := by
      rw [← logged, ← List.map_append, same]
    exact List.append_cancel_left both
  subst exact_block
  obtain ⟨before, last⟩ := accepted_told accepted
  refine ⟨block, same, before, fun ended concluded => last ▸ ?_⟩
  cases outcome with
  | stopped => cases concluded
  | returned value =>
    have holds := returned value rfl
    cases value with
    | _ =>
      obtain rfl := Option.some.inj concluded
      exact holds
  | failed error =>
    have holds := failed error rfl
    cases error with
    | _ =>
      obtain rfl := Option.some.inj concluded
      exact holds

/-- The small round when the first measurement loses its connection. -/
def smallLost : Outcome PipelineError CohortRoundOutcome × World Body :=
  smallRound 120 1 smallStore (List.replicate 15 { smallChoice with measured := .error (.Connection "connection closed") })

theorem small_lost_stops_as_told : phase_of smallLost.1 = some (.Lost "connection closed") ∧
    ∃ block, smallLost.2.log = smallStore.log ++ block ∧ (∀ event ∈ block.dropLast, told event = .Going) ∧
      (block.getLast?.map told).getD .Going = .Lost "connection closed" := by
  have lost : phase_of smallLost.1 = some (.Lost "connection closed") := by decide +kernel
  obtain ⟨block, logged, going, last⟩ := rounds_stop_as_told smallCodec smallBeta smallConfig 120 "1970-01-01T00:02:05Z" 1
    smallStore smallLost.2 smallLost.1 ⟨_, rfl⟩
  exact ⟨lost, block, logged, going, last _ lost⟩

/-! ### The daemon -/

/-- Whether an answer tells the daemon that it was cancelled. -/
def signals : (effect : TunerEffect B) → TunerReply effect → Bool
  | .tick _, woken => woken
  | .is_cancelled, cancelled => cancelled
  | .sleep_until _ _, cancelled => cancelled
  | .round .is_cancelled, cancelled => cancelled
  | _, _ => false

/-- What a daemon still does that was told to stop. -/
def closes : TunerEffect B → Bool
  | .is_cancelled => true
  | .close _ => true
  | .drop _ => true
  | .join_signal aborted => !aborted
  | _ => false

inductive Stance where
  | Running
  | Stopping
  /-- The signal task, which nobody has aborted, was joined behind a cancellation. -/
  | Joined (task : SignalTask)

def Stance.advance : Stance → (effect : TunerEffect B) → TunerReply effect → Option Stance
  | .Running, effect, reply => some (if signals effect reply then .Stopping else .Running)
  | .Stopping, .join_signal false, task => some (.Joined task)
  | .Stopping, effect, _ => if closes effect then some .Stopping else none
  | .Joined _, _, _ => none

/-- Effects that tell nothing. -/
def Silent (effect : TunerEffect B) : Prop := ∀ reply, signals effect reply = false

theorem silent_running {effect : TunerEffect B} (silent : Silent effect) (reply : TunerReply effect) :
    Stance.Running.advance effect reply = some .Running := by
  simp [Stance.advance, silent reply]

def stance_of (cancelled : Bool) : Stance := if cancelled then .Stopping else .Running

/-- A program of the tuner after which the stance is as its value says; it may give up on an overflow. -/
abbrev Stands {α : Type} (cancelled : α → Bool) (stance : Stance) (program : TunerProgram B α) : Prop :=
  Follows Stance.advance (fun result stance => ∀ value, result = .ok value → stance = stance_of (cancelled value)) stance program

section Daemon
variable {α β : Type} {debug : String → String} {debug_duration : Duration → String} {codec : Codec B}
  {beta_reg : Float → Float → Float → Float} {config : Config} {data_sources : DataSources} {timestamps : RoundTimestamps}
  {stance : Stance}

theorem stands_pure {cancelled : α → Bool} {value : α} (there : stance = stance_of (cancelled value)) :
    Stands cancelled stance (pure value : TunerProgram B α) := by
  refine follows_pure ?_
  rintro other same
  exact Except.ok.inj same ▸ there

theorem stands_bind {cancelled : β → Bool} (first_cancelled : α → Bool) {program : TunerProgram B α}
    {next : α → TunerProgram B β} (first : Stands first_cancelled stance program)
    (second : ∀ value, Stands cancelled (stance_of (first_cancelled value)) (next value)) :
    Stands cancelled stance (program >>= next) := by
  refine follows_bind _ first ?_ ?_
  · rintro error stance _ value same
    cases same
  · intro value stance holds
    obtain rfl := holds value rfl
    exact second value

/-- A program that tells nothing leaves the tuner running. -/
theorem stands_silent {program : TunerProgram B α} (performs : Performs Silent program) :
    Stands (fun _ => false) .Running program :=
  follows_unmoved (performs.mono fun _ silent reply => silent_running silent reply) fun _ _ _ => rfl

theorem manages_silent (effect : TunerEffect B) (manages : Losses.Manages effect) : Silent effect := by
  cases effect with
  | round effect => exact manages.elim
  | tick deadline => exact manages.elim
  | is_cancelled => exact manages.elim
  | sleep_until data_source deadline => exact manages.elim
  | _ => exact fun _ => rfl

/-! ### Measuring for the daemon -/

/-- The measurement was refused because of the cancellation. -/
def refused {α : Type} : Except SampleMeasureError α → Bool
  | .error .CancelledBeforeTransaction => true
  | _ => false

theorem stands_run_ready (name : String) (connection : DatabaseConnection) (vector : List UInt32) (config : AggregationConfig) :
    Stands (fun value => refused value.1) .Running
      (run_ready debug_duration name connection vector config :
        TunerProgram B (Except SampleMeasureError SampleMeasurement × DatabaseConnection)) := by
  refine follows_perform_bind fun started => ⟨.Running, rfl, ?_⟩
  -- a transaction never ends as refused
  refine follows_bind (fun result stance => stance = .Running ∧ ∀ value, result = .ok value → refused value.1 = false) ?_ ?_ ?_
  · refine follows_passed (fun _ stance => stance = .Running) () follows_transaction ?_ ?_ rfl
    · rintro _ stance transaction operation rfl steps
      refine follows_perform_bind fun reply => ⟨.Running, rfl, follows_pure ?_⟩
      exact fun _ _ => rfl
    · rintro result _ transaction stance concluded rfl
      refine ⟨rfl, fun value same => ?_⟩
      obtain rfl := Except.ok.inj same
      cases result with
      | ok measured => rfl
      | error error =>
        cases error with
        | CancelledBeforeTransaction => exact concluded.elim
        | _ => rfl
  · rintro error stance _ value same
    cases same
  · rintro ⟨result, _⟩ _ ⟨rfl, unrefused⟩
    refine follows_perform_bind fun finished => ⟨.Running, rfl, follows_perform_bind fun now => ⟨.Running, rfl, ?_⟩⟩
    cases Pacer.run_ready connection.pacer started finished now with
    | none =>
      refine follows_fail ?_
      intro value same
      cases same
    | some pacer => exact stands_pure (by simp [stance_of, unrefused _ rfl])

theorem stands_measure_sample (name : String) (vector : List UInt32) (config : AggregationConfig) (runtime : DataSourceRuntime) :
    Stands (fun value => refused value.1) .Running
      (measure_sample debug_duration name vector config runtime :
        TunerProgram B (Except SampleMeasureError SampleMeasurement × DataSourceRuntime)) := by
  cases runtime with
  | Unavailable error => exact stands_pure rfl
  | Connected connection =>
    refine stands_bind (fun value => refused value.1) ?_ ?_
    · refine follows_perform_bind fun cancelled => ?_
      cases cancelled with
      | true => exact ⟨.Stopping, rfl, stands_pure rfl⟩
      | false => exact ⟨.Running, rfl, stands_run_ready name connection vector config⟩
    · rintro ⟨result, connection⟩
      cases result with
      | ok measured => exact stands_pure rfl
      | error error =>
        cases error with
        | Connection message =>
          exact stands_bind (fun _ => false) (follows_perform_bind fun driver => ⟨.Running, rfl, stands_pure rfl⟩) fun _ =>
            stands_pure rfl
        | Database message => exact stands_pure rfl
        | CancelledBeforeTransaction => exact stands_pure rfl
        | TableSmallerThanK returned k => exact stands_pure rfl

/-- A phase of a cohort round in which it makes requests. -/
theorem going_of_steps {phase : Phase} {effect : Effect B}
    (steps : ∀ reply, ∃ later, phase.advance effect reply = some later) : phase = .Going := by
  have some_reply : ∃ _ : Reply effect, True := by
    cases effect with
    | list lead => exact ⟨.ok [], trivial⟩
    | get path => exact ⟨.not_found, trivial⟩
    | put path body => exact ⟨.ok (), trivial⟩
    | measure_sample vector config => exact ⟨.error .CancelledBeforeTransaction, trivial⟩
    | is_cancelled => exact ⟨false, trivial⟩
  obtain ⟨reply, _⟩ := some_reply
  obtain ⟨later, stepped⟩ := steps reply
  cases phase with
  | Going => rfl
  | Cancelled => cases stepped
  | Lost message => cases stepped

/-- The stance of the tuner in a cohort round. -/
def round_stance : Phase → Stance
  | .Cancelled => .Stopping
  | _ => .Running

theorem request_stands (name : String) (runtime : DataSourceRuntime) (effect : Effect B) :
    Follows Stance.advance (fun result stance => match result with
      | .ok answered => ∀ later, Phase.Going.advance effect answered.1 = some later → stance = round_stance later
      | .error _ => True) .Running (request debug_duration name runtime effect) := by
  cases effect with
  | list lead =>
    refine follows_perform_bind fun reply => ⟨.Running, rfl, follows_pure ?_⟩
    rintro later stepped
    exact Option.some.inj stepped ▸ rfl
  | get path =>
    refine follows_perform_bind fun reply => ⟨.Running, rfl, follows_pure ?_⟩
    rintro later stepped
    exact Option.some.inj stepped ▸ rfl
  | put path body =>
    refine follows_perform_bind fun reply => ⟨.Running, rfl, follows_pure ?_⟩
    rintro later stepped
    exact Option.some.inj stepped ▸ rfl
  | is_cancelled =>
    refine follows_perform_bind fun cancelled => ?_
    cases cancelled with
    | true =>
      refine ⟨.Stopping, rfl, follows_pure ?_⟩
      rintro later stepped
      exact Option.some.inj stepped ▸ rfl
    | false =>
      refine ⟨.Running, rfl, follows_pure ?_⟩
      rintro later stepped
      exact Option.some.inj stepped ▸ rfl
  | measure_sample vector config =>
    refine (stands_measure_sample name vector config runtime).mono ?_
    intro result stance holds
    cases result with
    | error error => trivial
    | ok answered =>
      rintro later stepped
      obtain rfl := Option.some.inj stepped
      rw [holds answered rfl]
      obtain ⟨answer, _⟩ := answered
      cases answer with
      | ok value => rfl
      | error error =>
        cases error with
        | _ => rfl

/-- A cohort round that was cancelled leaves the tuner stopping, any other leaves it running. -/
def cancelled_round : Except PipelineError CohortRoundOutcome → Bool
  | .ok .Cancelled => true
  | _ => false

theorem stands_run_cohort (cohort : CohortRuntime) :
    Stands (fun value => cancelled_round value.1) .Running
      (run_cohort debug_duration codec beta_reg timestamps cohort :
        TunerProgram B (Except PipelineError CohortRoundOutcome × DataSourceRuntime)) := by
  refine follows_passed (fun phase stance => stance = round_stance phase) _ follows_round ?_ ?_ rfl
  · rintro runtime _ phase effect rfl steps
    obtain rfl := going_of_steps steps
    refine (request_stands cohort.data_source runtime effect).mono ?_
    intro result stance holds
    cases result with
    | ok answered => exact holds
    | error error =>
      intro value same
      cases same
  · rintro result runtime phase _ concluded rfl value same
    obtain rfl := Except.ok.inj same
    cases result with
    | ok outcome =>
      cases outcome with
      | Published output =>
        obtain rfl : phase = .Going := concluded
        rfl
      | Cancelled =>
        obtain rfl : phase = .Cancelled := concluded
        rfl
    | error error =>
      cases error with
      | ConnectionUnavailable part_ulid message =>
        obtain rfl : phase = .Lost message := concluded
        rfl
      | _ =>
        obtain rfl : phase = .Going := concluded
        rfl

/-! ### The rounds of the daemon -/

theorem stands_run_cohorts (cohorts : List CohortName) (report : RoundRunReport) (going : report.cancelled = false) :
    Stands (fun value => value.1.cancelled) .Running
      (run_cohorts debug_duration codec beta_reg config timestamps cohorts data_sources report) := by
  induction cohorts generalizing data_sources report with
  | nil => exact stands_pure (by simp [stance_of, going])
  | cons cohort rest ih =>
    refine follows_perform_bind fun cancelled => ?_
    cases cancelled with
    | true => exact ⟨.Stopping, rfl, stands_pure rfl⟩
    | false =>
      refine ⟨.Running, rfl, ?_⟩
      simp only [Bool.false_eq_true, ↓reduceIte]
      split
      · exact ih _ going
      · rename_i found _
        refine stands_bind _ (stands_run_cohort found) ?_
        rintro ⟨result, runtime⟩
        cases result with
        | error error => exact ih _ going
        | ok outcome =>
          cases outcome with
          | Published output => exact ih _ going
          | Cancelled => exact stands_pure rfl

theorem stands_run_round :
    Stands (fun value => value.1.cancelled) .Running
      (run_round debug debug_duration codec beta_reg config timestamps data_sources) :=
  stands_bind _ (stands_silent (Losses.reconnections_manage.mono manages_silent)) fun _ =>
    stands_run_cohorts (cohort_names config) .default rfl

/-- The loop has stopped because it was cancelled. -/
def cancelled_turn : Turn → Bool
  | .Stopped (.ok ()) => true
  | _ => false

theorem stands_next_turn (interval scheduled_tick : Nat) (report : RoundRunReport) :
    Stands cancelled_turn (stance_of report.cancelled) (next_turn interval scheduled_tick report : TunerProgram B Turn) := by
  refine follows_perform_bind fun cancelled => ?_
  cases stopped : report.cancelled with
  | true =>
    refine ⟨.Stopping, rfl, ?_⟩
    simp only [Bool.or_true, ↓reduceIte]
    exact stands_pure rfl
  | false =>
    cases cancelled with
    | true => exact ⟨.Stopping, rfl, stands_pure rfl⟩
    | false => exact ⟨.Running, rfl, follows_perform_bind fun now => ⟨.Running, rfl, stands_pure rfl⟩⟩

theorem stands_round_turn (interval scheduled_tick : Nat) :
    Stands (fun value => cancelled_turn value.1) .Running
      (round_turn debug debug_duration codec beta_reg config interval scheduled_tick data_sources) := by
  refine follows_perform_bind fun woken => ?_
  cases woken with
  | true => exact ⟨.Stopping, rfl, stands_pure rfl⟩
  | false =>
    refine ⟨.Running, rfl, follows_perform_bind fun cancelled => ?_⟩
    cases cancelled with
    | true => exact ⟨.Stopping, rfl, stands_pure rfl⟩
    | false =>
      refine ⟨.Running, rfl, follows_perform_bind fun since_epoch => ⟨.Running, rfl, ?_⟩⟩
      split
      · exact stands_pure rfl
      · refine stands_bind _ stands_run_round fun value => ?_
        exact stands_bind _ (stands_next_turn interval scheduled_tick value.1) fun turn => stands_pure rfl

theorem stands_run_round_loop (interval passes scheduled_tick : Nat) :
    Stands (fun value => cancelled_turn value.1) .Running
      (run_round_loop debug debug_duration codec beta_reg config interval passes scheduled_tick data_sources) := by
  induction passes generalizing scheduled_tick data_sources with
  | zero => exact stands_pure rfl
  | succ passes ih =>
    refine stands_bind _ (stands_round_turn interval scheduled_tick) ?_
    rintro ⟨turn, sources⟩
    cases turn with
    | Stopped result => exact stands_pure rfl
    | Scheduled tick => exact ih tick

/-- Closing a connection is left to a daemon before it has joined its signal task. -/
theorem shuts_down {effect : TunerEffect B} (shuts : (∃ name, effect = .close name) ∨ ∃ name, effect = .drop name)
    (cancelled : Bool) (reply : TunerReply effect) : (stance_of cancelled).advance effect reply = some (stance_of cancelled) := by
  rcases shuts with ⟨name, rfl⟩ | ⟨name, rfl⟩
  · cases cancelled <;> rfl
  · cases cancelled <;> rfl

theorem stands_shutdown (cancelled : Bool) :
    Follows Stance.advance (fun _ later => later = stance_of cancelled) (stance_of cancelled)
      (shutdown data_sources : TunerProgram B Unit) := by
  have dropped : ∀ entries : List (String × DataSourceRuntime),
      Follows Stance.advance (fun _ later => later = stance_of cancelled) (stance_of cancelled)
        (drop_all entries : TunerProgram B Unit) := by
    intro entries
    induction entries with
    | nil => exact follows_pure rfl
    | cons entry rest ih =>
      obtain ⟨name, runtime⟩ := entry
      cases runtime with
      | Connected connection =>
        exact follows_perform_bind fun reply => ⟨stance_of cancelled, shuts_down (.inr ⟨name, rfl⟩) cancelled reply, ih⟩
      | Unavailable error => exact ih
  unfold shutdown
  generalize data_sources.toList = entries
  induction entries with
  | nil => exact follows_pure rfl
  | cons entry rest ih =>
    obtain ⟨name, runtime⟩ := entry
    cases runtime with
    | Connected connection =>
      refine follows_perform_bind fun driver => ⟨stance_of cancelled, shuts_down (.inl ⟨name, rfl⟩) cancelled driver, ?_⟩
      cases driver with
      | some _ => exact ih
      | none => exact dropped rest
    | Unavailable error => exact ih

/-- The daemon was told to stop and has the result of its signal task, or was not and has an error. -/
def Settled : Except DaemonError Unit → Stance → Prop
  | result, .Joined task => result = awaited_signal task >>= id
  | result, .Running => ∃ error, result = .error error
  | _, .Stopping => False

def Concluded : Turn → Stance → Prop
  | .Stopped result, stance => Settled result stance
  | .Scheduled _, stance => stance = .Running

/-- Behind its loop the daemon joins its signal task. -/
theorem stands_join_signal (run_result : Except DaemonError Unit) :
    Follows Stance.advance (fun joined stance => ∀ result, joined = .ok result → Settled result stance)
      (stance_of (cancelled_turn (.Stopped run_result))) (Tuner.join_signal run_result : TunerProgram B (Except DaemonError Unit)) := by
  cases run_result with
  | ok done =>
    -- the loop has ended well, so that it was cancelled; nothing is asked
    refine follows_perform_bind fun task => ⟨.Joined task, rfl, follows_pure ?_⟩
    intro result same
    obtain rfl := Except.ok.inj same
    change (awaited_signal task >>= fun signal_result => signal_result) = awaited_signal task >>= id
    rfl
  | error error =>
    have failed : ∀ (signal : Except DaemonError (Except DaemonError Unit)), ∃ later : DaemonError,
        (signal >>= fun signal_result => (Except.error error : Except DaemonError Unit) >>= fun _ => signal_result) =
          .error later := by
      intro signal
      cases signal with
      | ok signal_result => exact ⟨error, rfl⟩
      | error first => exact ⟨first, rfl⟩
    refine follows_perform_bind fun finished => ⟨.Running, rfl, ?_⟩
    cases finished with
    | true =>
      refine follows_perform_bind fun task => ⟨.Running, rfl, follows_pure ?_⟩
      intro result same
      obtain rfl := Except.ok.inj same
      exact failed (awaited_signal task)
    | false =>
      refine follows_perform_bind fun task => ⟨.Running, rfl, follows_pure ?_⟩
      intro result same
      obtain rfl := Except.ok.inj same
      exact ⟨error, rfl⟩

theorem stands_start :
    Stands (fun _ => false) .Running
      (Tuner.start debug debug_duration config : TunerProgram B (Except TunerStartError DataSources)) := by
  refine stands_silent (performs_bind (performs_perform fun _ => rfl) fun task => ?_)
  cases start_store config.storage.root task with
  | error error => exact performs_pure
  | ok done =>
    refine performs_bind ?_ fun _ => performs_pure
    unfold start_with_store
    generalize config.data_sources.toList = entries
    generalize (∅ : DataSources) = sources
    induction entries generalizing sources with
    | nil => exact performs_pure
    | cons entry rest ih =>
      exact performs_bind ((Losses.connect_data_source_manages _).mono manages_silent) fun _ => ih _

theorem stands_run (passes : Nat) :
    Follows Stance.advance (fun ended stance => ∀ turn, ended = .ok turn → Concluded turn stance) .Running
      (run debug debug_duration codec beta_reg config passes) := by
  -- nothing has told a daemon to stop that gives up on the way
  have gives_up : ∀ (error : Panic) (stance : Stance) (turn : Turn), (.error error : Except Panic Turn) = .ok turn →
      Concluded turn stance := by
    intro error stance turn same
    cases same
  have returns : ∀ {turn : Turn} {stance : Stance}, Concluded turn stance →
      Follows Stance.advance (fun ended stance => ∀ turn, ended = .ok turn → Concluded turn stance) stance
        (pure turn : TunerProgram B Turn) := by
    intro turn stance concluded
    refine follows_pure ?_
    intro other same
    exact Except.ok.inj same ▸ concluded
  unfold run
  split
  · exact returns ⟨_, rfl⟩
  refine follows_bind _ stands_start (fun error stance _ => gives_up error stance) ?_
  intro started stance holds
  obtain rfl : stance = .Running := holds started rfl
  cases started with
  | error error => exact returns ⟨_, rfl⟩
  | ok sources =>
    refine follows_perform_bind fun now => ⟨.Running, rfl, ?_⟩
    refine follows_bind _ (stands_run_round_loop _ passes _) (fun error stance _ => gives_up error stance) ?_
    rintro ⟨turn, sources⟩ stance holds
    obtain rfl := holds _ rfl
    cases turn with
    | Scheduled tick => exact returns rfl
    | Stopped result =>
      refine follows_bind _ (stands_shutdown _) (fun error stance _ => gives_up error stance) ?_
      rintro _ _ rfl
      refine follows_bind _ (stands_join_signal result) (fun error stance _ => gives_up error stance) ?_
      intro joined stance settled
      exact returns (settled joined rfl)

end Daemon

/-! ### Its log -/

/-- An exchange that tells the daemon that it was cancelled. -/
def Signal (exchange : Exchange (TunerReply (B := B))) : Prop := signals exchange.effect exchange.reply = true

/-- The log ends with the joining of the signal task. -/
def Joining (log : List (Exchange (TunerReply (B := B)))) (task : SignalTask) : Prop :=
  ∃ earlier, log = earlier ++ [⟨.join_signal false, task⟩]

theorem accepted_joined {log : List (Exchange (TunerReply (B := B)))} {task : SignalTask} {stance : Stance}
    (accepted : accepts Stance.advance (.Joined task) log = some stance) : log = [] ∧ stance = .Joined task := by
  cases log with
  | nil => exact ⟨rfl, (Option.some.inj accepted).symm⟩
  | cons exchange later =>
    obtain ⟨between, stepped, _⟩ := Option.bind_eq_some_iff.mp accepted
    cases stepped

/-- The ways on from a daemon that was told to stop. -/
theorem stopping_advance {effect : TunerEffect B} {reply : TunerReply effect} {stance : Stance}
    (stepped : Stance.Stopping.advance effect reply = some stance) : closes effect = true ∧
      (stance = .Stopping ∨ ∃ task, stance = .Joined task ∧
        (⟨effect, reply⟩ : Exchange (TunerReply (B := B))) = ⟨.join_signal false, task⟩) := by
  cases effect with
  | is_cancelled => exact ⟨rfl, .inl (Option.some.inj stepped).symm⟩
  | close name => exact ⟨rfl, .inl (Option.some.inj stepped).symm⟩
  | drop name => exact ⟨rfl, .inl (Option.some.inj stepped).symm⟩
  | join_signal aborted =>
    cases aborted with
    | false => exact ⟨rfl, .inr ⟨reply, (Option.some.inj stepped).symm, rfl⟩⟩
    | true => cases stepped
  | _ => cases stepped

theorem accepted_stopping {log : List (Exchange (TunerReply (B := B)))} {stance : Stance}
    (accepted : accepts Stance.advance .Stopping log = some stance) :
    (∀ exchange ∈ log, closes exchange.effect = true) ∧
      (stance = .Stopping ∨ ∃ task, stance = .Joined task ∧ Joining log task) := by
  induction log with
  | nil => exact ⟨fun _ member => absurd member List.not_mem_nil, .inl (Option.some.inj accepted).symm⟩
  | cons exchange later ih =>
    obtain ⟨between, stepped, rest⟩ := Option.bind_eq_some_iff.mp accepted
    obtain ⟨closing, rfl | ⟨task, rfl, join⟩⟩ := stopping_advance stepped
    · obtain ⟨closed, stopped⟩ := ih rest
      refine ⟨List.forall_mem_cons.mpr ⟨closing, closed⟩, stopped.imp id ?_⟩
      rintro ⟨task, joined, earlier, split⟩
      exact ⟨task, joined, exchange :: earlier, by rw [split]; rfl⟩
    · obtain ⟨rfl, rfl⟩ := accepted_joined rest
      exact ⟨List.forall_mem_cons.mpr ⟨closing, fun _ member => absurd member List.not_mem_nil⟩, .inr ⟨task, rfl, [], by
        rw [List.nil_append]
        exact congrArg (· :: []) join⟩⟩

/-- The first sign of a cancellation, behind which there is only what ends the daemon. -/
def Heeded (log : List (Exchange (TunerReply (B := B)))) : Prop :=
  ∃ before signal after, log = before ++ signal :: after ∧ (∀ exchange ∈ before, ¬Signal exchange) ∧ Signal signal ∧
    ∀ exchange ∈ after, closes exchange.effect = true

theorem Heeded.signal {log : List (Exchange (TunerReply (B := B)))} (heeded : Heeded log) : ∃ exchange ∈ log, Signal exchange := by
  obtain ⟨before, signal, after, rfl, _, told, _⟩ := heeded
  exact ⟨signal, by simp, told⟩

theorem accepted_running {log : List (Exchange (TunerReply (B := B)))} {stance : Stance}
    (accepted : accepts Stance.advance .Running log = some stance) :
    (stance = .Running ∧ ∀ exchange ∈ log, ¬Signal exchange) ∨
      Heeded log ∧ (stance = .Stopping ∨ ∃ task, stance = .Joined task ∧ Joining log task) := by
  induction log with
  | nil => exact .inl ⟨(Option.some.inj accepted).symm, fun _ member => absurd member List.not_mem_nil⟩
  | cons exchange later ih =>
    obtain ⟨between, stepped, rest⟩ := Option.bind_eq_some_iff.mp accepted
    obtain rfl := Option.some.inj stepped
    by_cases signal : Signal exchange
    · have told : signals exchange.effect exchange.reply = true := signal
      rw [if_pos told] at rest
      obtain ⟨closed, stopped⟩ := accepted_stopping rest
      refine .inr ⟨⟨[], exchange, later, rfl, fun _ member => absurd member List.not_mem_nil, signal, closed⟩, stopped.imp id ?_⟩
      rintro ⟨task, joined, earlier, split⟩
      exact ⟨task, joined, exchange :: earlier, by rw [split]; rfl⟩
    · have untold : ¬signals exchange.effect exchange.reply = true := signal
      rw [if_neg untold] at rest
      rcases ih rest with ⟨running, none⟩ | ⟨⟨before, first, after, split, none, told, closed⟩, stopped⟩
      · exact .inl ⟨running, List.forall_mem_cons.mpr ⟨signal, none⟩⟩
      · refine .inr ⟨⟨exchange :: before, first, after, by rw [split]; rfl, List.forall_mem_cons.mpr ⟨signal, none⟩, told, closed⟩,
          stopped.imp id ?_⟩
        rintro ⟨task, joined, earlier, split⟩
        exact ⟨task, joined, exchange :: earlier, by rw [split]; rfl⟩

/-- A signal task that was not aborted gives the daemon a good end only by a good end of its own. -/
theorem awaited_signal_ok {task : SignalTask} : awaited_signal task >>= id = .ok () ↔ task = .Finished (.ok ()) := by
  cases task with
  | Cancelled message => exact iff_of_false (fun same => by cases same) fun same => by cases same
  | Panicked message => exact iff_of_false (fun same => by cases same) fun same => by cases same
  | Finished result =>
    cases result with
    | ok done => exact iff_of_true rfl rfl
    | error source => exact iff_of_false (fun same => by cases same) fun same => by cases same

/-- In every life of a daemon the first sign of a cancellation is followed by polls, the closing of connections and the
    join of the signal task only: no upload, no measurement and no further round. A daemon that was told to stop ends with
    the result of that task, and one that was not with an error; so it has ended well exactly when it was cancelled and
    its signal task has ended well. -/
theorem cancellation_stops {B : Type} (debug : String → String) (debug_duration : Duration → String) (codec : Codec B)
    (beta_reg : Float → Float → Float → Float) (config : Config) (passes : Nat) (objects : Objects B) (clock : Instant)
    (outcome : Outcome Panic Turn) (world : TunerWorld B)
    (ran : Runs tuner_answer (run debug debug_duration codec beta_reg config passes) ⟨objects, clock, []⟩ outcome world) :
    ((∀ exchange ∈ world.log, ¬Signal exchange) ∨ Heeded world.log) ∧
    (∀ tick, outcome = .returned (.Scheduled tick) → ∀ exchange ∈ world.log, ¬Signal exchange) ∧
    (∀ result, outcome = .returned (.Stopped result) →
      (∃ task, Heeded world.log ∧ Joining world.log task ∧ result = awaited_signal task >>= id) ∨
      (∀ exchange ∈ world.log, ¬Signal exchange) ∧ ∃ error, result = .error error) ∧
    ∀ result, outcome = .returned (.Stopped result) →
      (result = .ok () ↔ (∃ exchange ∈ world.log, Signal exchange) ∧ Joining world.log (.Finished (.ok ()))) := by
  obtain ⟨block, stance, logged, accepted, returned, _⟩ := (stands_run passes).accepted tuner_journaled ran
  have whole : world.log = block := by simpa using logged
  subst whole
  have cases_log := accepted_running accepted
  have stopped : ∀ result, outcome = .returned (.Stopped result) →
      (∃ task, Heeded world.log ∧ Joining world.log task ∧ result = awaited_signal task >>= id) ∨
      (∀ exchange ∈ world.log, ¬Signal exchange) ∧ ∃ error, result = .error error := by
    rintro result rfl
    have settled : Settled result stance := returned _ rfl _ rfl
    rcases cases_log with ⟨rfl, none⟩ | ⟨heeded, rfl | ⟨task, rfl, joining⟩⟩
    · exact .inr ⟨none, settled⟩
    · exact settled.elim
    · exact .inl ⟨task, heeded, joining, settled⟩
  refine ⟨cases_log.imp And.right And.left, ?_, stopped, fun result ended => ?_⟩
  · rintro tick rfl
    obtain rfl : stance = .Running := returned _ rfl _ rfl
    rcases cases_log with ⟨_, none⟩ | ⟨_, stopping | ⟨task, joined, _⟩⟩
    · exact none
    · cases stopping
    · cases joined
  · rcases stopped result ended with ⟨task, heeded, ⟨earlier, split⟩, rfl⟩ | ⟨none, error, rfl⟩
    · refine awaited_signal_ok.trans ⟨?_, ?_⟩
      · rintro rfl
        exact ⟨heeded.signal, earlier, split⟩
      · rintro ⟨_, other, split'⟩
        -- the last exchange is one
        have last := (List.append_inj' (split.symm.trans split') rfl).2
        injection last with same
        injection same with _ same
    · exact iff_of_false (fun same => by cases same) fun ⟨⟨exchange, member, signal⟩, _⟩ => none exchange member signal

/-! ### Two daemons that are cancelled -/

open VectorSeam.Lines

/-- The handler of the signals could not be installed, which cancels the daemon before its first round. -/
def failingSchedule : List (TunerChoice Body) :=
  List.replicate 8 cancelledChoice ++
    List.replicate 4 { calmChoice with signal_task := .Finished (.error "Too many open files (os error 24)") }
def failingDaemon (config : Config) : Outcome Panic Turn × TunerWorld Body :=
  (run id (fun _ => "") smallCodec smallBeta config 1).exec tuner_answer (twinWorld []) failingSchedule

/-- From the first sign of a cancellation on. -/
def behind_sign (log : List (Exchange (TunerReply (B := Body)))) : List Bool :=
  (log.map fun exchange => signals exchange.effect exchange.reply).dropWhile (!·)

theorem cancelled_daemons_run : ∃ config, from_raw id (fun _ => true) twinRaw = .ok config ∧
    (stopped_with (twinDaemon config).1 = some (.ok ()) ∧ behind_sign (twinDaemon config).2.log = [true, false, false, false, false]) ∧
    stopped_with (failingDaemon config).1 = some (.error (.Signal "Too many open files (os error 24)")) ∧
      behind_sign (failingDaemon config).2.log = [true, false, false, false] :=
  ⟨_, rfl, by decide +kernel⟩

/-- One is cancelled in a measurement and ends well, the other by the failure of its handler and ends with it. -/
theorem local_cancellation_stops : ∃ config, from_raw id (fun _ => true) twinRaw = .ok config ∧
    (behind_sign (twinDaemon config).2.log = [true, false, false, false, false] ∧ Heeded (twinDaemon config).2.log ∧
      Joining (twinDaemon config).2.log (.Finished (.ok ()))) ∧
    behind_sign (failingDaemon config).2.log = [true, false, false, false] ∧ Heeded (failingDaemon config).2.log ∧
      ¬Joining (failingDaemon config).2.log (.Finished (.ok ())) := by
  obtain ⟨config, accepted, ⟨stopped, twin⟩, failed, failing⟩ := cancelled_daemons_run
  obtain ⟨first, _, _, well⟩ := cancellation_stops id (fun _ => "") smallCodec smallBeta config 3 _ _ (twinDaemon config).1
    (twinDaemon config).2 ⟨twinSchedule, rfl⟩
  obtain ⟨second, _, _, ill⟩ := cancellation_stops id (fun _ => "") smallCodec smallBeta config 1 _ _ (failingDaemon config).1
    (failingDaemon config).2 ⟨failingSchedule, rfl⟩
  have heeds : ∀ {log : List (Exchange (TunerReply (B := Body)))} {later : List Bool}, behind_sign log = true :: later →
      ((∀ exchange ∈ log, ¬Signal exchange) ∨ Heeded log) → Heeded log := by
    rintro log later signalled (none | heeded)
    · have quiet : behind_sign log = [] := List.dropWhile_eq_nil_iff.mpr fun signal member => by
        obtain ⟨exchange, listed, rfl⟩ := List.mem_map.mp member
        simpa [Signal] using none exchange listed
      rw [quiet] at signalled
      cases signalled
    · exact heeded
  have heeded := heeds twin first
  have ended := (well _ (stopped_with_some stopped)).mp rfl
  have heeded' := heeds failing second
  refine ⟨config, accepted, ⟨twin, heeded, ended.2⟩, failing, heeded', fun joining => ?_⟩
  have same := (ill _ (stopped_with_some failed)).mpr ⟨heeded'.signal, joining⟩
  cases same

end VectorSeam.Cancellation
