import VectorSeam.Requests
import VectorSeam.Records

/-!
How a round ends. Either it publishes nothing and leaves the store alone, or it has
read the previous round, aggregated and serialised a record, and then puts it twice.
-/

namespace VectorSeam.Publishing
open VectorSeam.Model VectorSeam.ObjectStore VectorSeam.Window VectorSeam.Accounting VectorSeam.Aggregate
open VectorSeam.Intermediate VectorSeam.Measure VectorSeam.Effects VectorSeam.Programs VectorSeam.Pipeline
open VectorSeam.Requests

variable {B : Type} {codec : Codec B} {beta_reg : Float → Float → Float → Float} {world world' : World B}
  {outcome : Outcome PipelineError CohortRoundOutcome}

/-- No record was put: the store is as before and the outcome is neither a publication nor a failed upload. -/
structure Withheld (world world' : World B) (outcome : Outcome PipelineError CohortRoundOutcome) : Prop where
  objects : world'.objects = world.objects
  log : ∃ block, world'.log = world.log ++ block ∧ ∀ event ∈ block, Reads (request event) ∨ Measures (request event)
  unpublished : ∀ output, outcome ≠ .returned (.Published output)
  no_upload : ∀ path message, outcome ≠ .failed (.Storage "PUT" path message)

/-- The values of a config, a round and its measured parts that the end of a round depends on. -/
structure Ending where
  config : AggregationConfig
  round_end : Nat
  computed_at : String
  sources : List SourcePart
  phase_a_incompatible_parts : Nat
  compatible : BTreeMap String IntermediatePart
  phase_a_abort : Option PhaseAAbort

namespace Ending

def input (ending : Ending) (previous_round : Option RoundOutput) : AggregationInput :=
  round_input ending.config ending.round_end ending.computed_at ending.sources ending.phase_a_incompatible_parts
    ending.compatible ending.phase_a_abort previous_round
def program (ending : Ending) (codec : Codec B) (beta_reg : Float → Float → Float → Float) :
    Program B PipelineError CohortRoundOutcome :=
  finish_round codec beta_reg ending.config ending.round_end ending.computed_at ending.sources
    ending.phase_a_incompatible_parts ending.compatible ending.phase_a_abort

end Ending

/-- The previous round was fetched and the record aggregated and serialised over it. -/
structure Prepared (codec : Codec B) (beta_reg : Float → Float → Float → Float) (ending : Ending) (world : World B)
    (paths : Path × Path) (reply : GetReply B) (output : RoundOutput) (body : B) : Prop where
  named : round_paths ending.config.cohort ending.round_end = .ok paths
  readable : Readable world.objects paths.2 reply
  aggregated : ∃ previous_round, previous_of codec paths.2 reply = .ok previous_round ∧
    aggregate beta_reg (ending.input previous_round) = .ok output
  serialised : codec.to_vec output = .ok body

/-- The world right before the first of the two uploads. -/
def fetched (world : World B) (latest : Path) (reply : GetReply B) : World B :=
  (world.record (.polled false)).record (.got latest reply)

private theorem withheld_of_eq (unpublished : ∀ output, outcome ≠ .returned (.Published output))
    (no_upload : ∀ path message, outcome ≠ .failed (.Storage "PUT" path message)) : Withheld world world outcome :=
  ⟨rfl, ⟨[], by simp⟩, unpublished, no_upload⟩

private theorem Withheld.after (event : Event B) (fine : Reads (request event) ∨ Measures (request event))
    (withheld : Withheld (world.record event) world' outcome) : Withheld world world' outcome := by
  obtain ⟨block, logged, all⟩ := withheld.log
  refine ⟨withheld.objects, ⟨event :: block, by simp [logged, World.record], fun other member => ?_⟩,
    withheld.unpublished, withheld.no_upload⟩
  rcases List.mem_cons.mp member with rfl | later
  · exact fine
  · exact all other later

theorem runs_round_json_bytes {output : RoundOutput} {body : B} :
    round_json_bytes codec output = .ok body ↔ codec.to_vec output = .ok body := by
  unfold round_json_bytes
  cases codec.to_vec output with
  | ok found => simp
  | error message => simp

private theorem runs_publish {paths : Path × Path} {input : AggregationInput}
    (run : Runs answer (publish codec beta_reg paths input) world outcome world') :
    Withheld world world' outcome ∨ ∃ output body, aggregate beta_reg input = .ok output ∧
      codec.to_vec output = .ok body ∧ Runs answer (put_round paths body output) world outcome world' := by
  rcases runs_bind_wrap.mp run with ⟨output, aggregated, rest⟩ | ⟨error, _, rfl, rfl⟩
  · rcases runs_bind_wrap.mp rest with ⟨body, serialised, rest⟩ | ⟨error, _, rfl, rfl⟩
    · exact .inr ⟨output, body, aggregated, runs_round_json_bytes.mp serialised, rest⟩
    · exact .inl (withheld_of_eq (by simp) (by simp))
  · exact .inl (withheld_of_eq (by simp) (by simp))

theorem previous_of_error {path : Path} {reply : GetReply B} {error : PipelineError}
    (failed : previous_of codec path reply = .error error) :
    ∃ message, reply = .failed message ∧ error = .Storage "GET" path.raw message := by
  cases reply with
  | not_found => cases failed
  | body_failed message => cases failed
  | failed message => exact ⟨message, rfl, (Except.error.inj failed).symm⟩
  | found body =>
    unfold previous_of at failed
    cases parsed : codec.from_slice body with
    | ok round => simp [parsed] at failed
    | error message => simp [parsed] at failed

theorem previous_of_some {path : Path} {reply : GetReply B} {round : RoundOutput}
    (read : previous_of codec path reply = .ok (some round)) :
    ∃ stored, reply = .found stored ∧ codec.from_slice stored = .ok round := by
  cases reply with
  | not_found => cases read
  | body_failed message => cases read
  | failed message => cases read
  | found stored =>
    cases parsed : codec.from_slice stored with
    | error message => simp [previous_of, parsed] at read
    | ok found =>
      simp only [previous_of, parsed, Except.ok.injEq, Option.some.injEq] at read
      exact ⟨stored, rfl, read ▸ parsed⟩

/-- A round ends with nothing put, or with the two uploads of a record over the previous round it fetched. -/
theorem runs_finish {ending : Ending} (run : Runs answer (ending.program codec beta_reg) world outcome world') :
    Withheld world world' outcome ∨ ∃ paths reply output body,
      Prepared codec beta_reg ending world paths reply output body ∧
        Runs answer (put_round paths body output) (fetched world paths.2 reply) outcome world' := by
  rcases runs_bind_is_cancelled.mp run with ⟨rfl, rfl⟩ | ⟨cancelled, rest⟩
  · exact .inl (withheld_of_eq (by simp) (by simp))
  have poll : Withheld (world.record (.polled cancelled)) world' outcome → Withheld world world' outcome :=
    fun withheld => withheld.after (.polled cancelled) (.inr trivial)
  cases cancelled with
  | true =>
    obtain ⟨rfl, rfl⟩ := runs_pure.mp rest
    exact .inl (poll (withheld_of_eq (by simp) (by simp)))
  | false =>
    rcases runs_bind_wrap.mp rest with ⟨paths, named, rest⟩ | ⟨error, _, rfl, rfl⟩
    swap
    · exact .inl (poll (withheld_of_eq (by simp) (by simp)))
    unfold load_previous_round at rest
    rw [bind_assoc] at rest
    rcases runs_bind_get.mp rest with ⟨rfl, rfl⟩ | ⟨reply, readable, rest⟩
    · exact .inl (poll (withheld_of_eq (by simp) (by simp)))
    have fetch : Withheld (fetched world paths.2 reply) world' outcome → Withheld world world' outcome :=
      fun withheld => poll (withheld.after (.got paths.2 reply) (.inl trivial))
    rcases runs_bind_wrap.mp rest with ⟨previous_round, read, rest⟩ | ⟨error, failed, rfl, rfl⟩
    · rcases runs_publish rest with withheld | ⟨output, body, aggregated, serialised, puts⟩
      · exact .inl (fetch withheld)
      · exact .inr ⟨paths, reply, output, body, ⟨named, readable, ⟨previous_round, read, aggregated⟩, serialised⟩, puts⟩
    · obtain ⟨message, _, rfl⟩ := previous_of_error failed
      exact .inl (fetch (withheld_of_eq (by simp) (by simp)))

/-- Once the record is prepared, the round goes on to its uploads. -/
theorem Prepared.runs {ending : Ending} {paths : Path × Path} {reply : GetReply B} {output : RoundOutput} {body : B}
    (prepared : Prepared codec beta_reg ending world paths reply output body)
    (puts : Runs answer (put_round paths body output) (fetched world paths.2 reply) outcome world') :
    Runs answer (ending.program codec beta_reg) world outcome world' := by
  obtain ⟨previous_round, read, aggregated⟩ := prepared.aggregated
  refine runs_bind_is_cancelled.mpr (.inr ⟨false, ?_⟩)
  refine runs_bind_wrap.mpr (.inl ⟨paths, prepared.named, ?_⟩)
  unfold load_previous_round
  rw [bind_assoc]
  refine runs_bind_get.mpr (.inr ⟨reply, prepared.readable, ?_⟩)
  refine runs_bind_wrap.mpr (.inl ⟨previous_round, read, ?_⟩)
  refine runs_bind_wrap.mpr (.inl ⟨output, aggregated, ?_⟩)
  exact runs_bind_wrap.mpr (.inl ⟨body, runs_round_json_bytes.mpr prepared.serialised, puts⟩)

theorem put_round_performs (paths : Path × Path) (body : B) (output : RoundOutput) :
    Performs (fun effect => ∃ path, effect = .put path body ∧ (path = paths.1 ∨ path = paths.2))
      (put_round paths body output) :=
  performs_bind (performs_put_bytes ⟨paths.1, rfl, .inl rfl⟩) fun _ =>
    performs_bind (performs_put_bytes ⟨paths.2, rfl, .inr rfl⟩) fun _ => performs_pure

/-- The two uploads happen in order, the second only after the first was acknowledged. -/
theorem runs_put_round {paths : Path × Path} {body : B} {output : RoundOutput} :
    Runs answer (put_round paths body output) world outcome world' ↔
      outcome = .stopped ∧ world' = world ∨
      (∃ message stored, outcome = .failed (.Storage "PUT" paths.1.raw message) ∧
        world' = world.upload paths.1 body (.error message) stored) ∨
      outcome = .stopped ∧ world' = world.upload paths.1 body (.ok ()) true ∨
      (∃ message stored, outcome = .failed (.Storage "PUT" paths.2.raw message) ∧
        world' = (world.upload paths.1 body (.ok ()) true).upload paths.2 body (.error message) stored) ∨
      outcome = .returned (.Published output) ∧
        world' = (world.upload paths.1 body (.ok ()) true).upload paths.2 body (.ok ()) true := by
  unfold put_round
  rw [runs_bind_put_bytes, runs_bind_put_bytes, runs_pure]

/-! ### Keys by kind -/

/-- A key has the root of every prefix it lies below. -/
theorem root_of_below {lead path : Path} {tree : String} (below : lead.below path = true) (root : lead.root = some tree) :
    path.root = some tree := by
  simp only [Path.below, Bool.and_eq_true, List.isPrefixOf_iff_prefix] at below
  obtain ⟨rest, whole⟩ := below.1
  unfold Path.root at root ⊢
  rw [← whole, List.head?_append, root]
  rfl

theorem window_path_root {tree : String} (segment : PlainSegment tree) (cohort timestamp : String) :
    (window_path tree cohort timestamp).root = some tree := by
  have same : window_path tree cohort timestamp = Path.from_text (tree ++ "/" ++ (cohort ++ "/window=" ++ timestamp)) := by
    simp [String.append_assoc, window_path]
  rw [same]
  exact Path.root_of_plain segment

theorem round_paths_root {cohort : String} {round_end : Nat} {paths : Path × Path}
    (named : round_paths cohort round_end = .ok paths) :
    paths.1.root = some "calibrations" ∧ paths.2.root = some "calibrations" := by
  obtain ⟨timestamp, _, built⟩ := Results.bind_ok.mp named
  obtain rfl := Except.ok.inj built
  have root : ∀ back, (Path.from_text ("calibrations" ++ "/" ++ back)).root = some "calibrations" :=
    fun back => Path.root_of_plain calibrations_segment
  refine ⟨?_, ?_⟩
  · simpa [String.append_assoc] using root (cohort ++ "/round-" ++ timestamp ++ ".json")
  · simpa [String.append_assoc] using root (cohort ++ "/latest.json")

theorem intermediate_paths_root {cohort part_ulid : String} {window_start : Nat} {paths : Path × Path}
    (named : intermediate_paths cohort window_start part_ulid = .ok paths) :
    paths.1.root = some "measurements" ∧ paths.2.root = some "measurements" := by
  obtain ⟨timestamp, _, built⟩ := Results.bind_ok.mp named
  obtain rfl := Except.ok.inj built
  have root : ∀ back, (Path.from_text ("measurements" ++ "/" ++ back)).root = some "measurements" :=
    fun back => Path.root_of_plain measurements_segment
  refine ⟨?_, ?_⟩
  · simpa [String.append_assoc] using
      root (cohort ++ "/window=" ++ timestamp ++ "/part-" ++ part_ulid ++ ".truth.parquet")
  · simpa [String.append_assoc] using
      root (cohort ++ "/window=" ++ timestamp ++ "/part-" ++ part_ulid ++ ".sweep.parquet")

theorem not_calibration {path : Path} (root : path.root = some "measurements") : path.root ≠ some "calibrations" := by
  rw [root]
  decide

/-- The requests of a round before it publishes: its uploads are measurements. -/
def Gathers : Effect B → Prop
  | .put path _ => path.root = some "measurements"
  | _ => True

theorem store_measured_gathers (cohort : String) (source : SourcePart) (measured : MeasuredPart) :
    Performs Gathers (store_measured codec cohort source measured) := by
  refine performs_bind performs_wrap fun pair => performs_bind_wrap fun paths named => ?_
  obtain ⟨truthRoot, sweepRoot⟩ := intermediate_paths_root named
  exact performs_bind (performs_put_bytes truthRoot) fun _ => performs_bind (performs_put_bytes sweepRoot) fun _ =>
    performs_wrap

theorem measure_pending_gathers (config : AggregationConfig) (computed_at_us : Nat) (sources : List SourcePart)
    (compatible : BTreeMap String IntermediatePart) :
    Performs Gathers (measure_pending codec config computed_at_us sources compatible) := by
  induction sources generalizing compatible with
  | nil => exact performs_pure
  | cons source rest ih =>
    refine performs_bind (performs_perform trivial) fun cancelled => ?_
    cases cancelled with
    | true => exact performs_pure
    | false =>
      refine performs_bind (measure_source_performs codec config computed_at_us source trivial ?_) fun outcome => ?_
      · intro effect measures
        cases effect <;> trivial
      · cases outcome with
        | Complete measured => exact performs_bind (store_measured_gathers config.cohort source measured) fun _ => ih _
        | TableSmallerThanK abort => exact performs_pure
        | ConnectionUnavailable error => trivial
        | Cancelled => exact performs_pure

end VectorSeam.Publishing
