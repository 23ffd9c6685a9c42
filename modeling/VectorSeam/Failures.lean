import VectorSeam.Rounds
import VectorSeam.Blame

/-!
Where the aggregation error of a failed round comes from: from the time the round was
given, from writing its record, or from aggregating what it collected.
-/

namespace VectorSeam.Failures
open VectorSeam.Model VectorSeam.ObjectStore VectorSeam.Window VectorSeam.Accounting VectorSeam.Aggregate
open VectorSeam.Intermediate VectorSeam.Measure VectorSeam.Effects VectorSeam.Programs VectorSeam.Pipeline
open VectorSeam.Publishing VectorSeam.Rounds VectorSeam.SourceParts VectorSeam.Blame VectorSeam.Results

variable {B : Type} {codec : Codec B} {beta_reg : Float → Float → Float → Float} {config : AggregationConfig}
  {round_end computed_at_us : Nat} {computed_at : String} {world world' : World B} {allowed : AggregateError → Prop}

/-- The error is about the round's end or about its record. -/
def Elsewhere (error : AggregateError) : Prop := Clerical error ∨ ∃ message, error = .Json message

theorem Elsewhere.neutral {error : AggregateError} (elsewhere : Elsewhere error) : Neutral error := by
  rcases elsewhere with clerical | ⟨message, rfl⟩
  · exact clerical.neutral
  · exact neutral_json message

/-! ### Before the aggregation -/

/-- An aggregation error among the round's is an allowed one. -/
def Confined (allowed : AggregateError → Prop) : PipelineError → Prop
  | .Aggregate error => allowed error
  | _ => True

theorem raises_wrap {ε α : Type} {allowed : PipelineError → Prop} {rename : ε → PipelineError} {result : Except ε α}
    (each : ∀ error, result = .error error → allowed (rename error)) :
    Raises allowed (wrap rename result : Program B PipelineError α) := by
  cases result with
  | ok value => trivial
  | error error => exact each error rfl

theorem raises_get_bytes (path : Path) : Raises (Confined allowed) (get_bytes path : Program B PipelineError B) := by
  refine raises_bind raises_perform fun reply => ?_
  cases reply with
  | found body => trivial
  | body_failed message => trivial
  | not_found => trivial
  | failed message => trivial

theorem raises_put_bytes (path : Path) (bytes : B) : Raises (Confined allowed) (put_bytes path bytes) :=
  raises_bind raises_perform fun _ => raises_wrap fun _ _ => trivial

theorem raises_list_paths (lead : Path) : Raises (Confined allowed) (list_paths lead : Program B PipelineError (List Path)) :=
  raises_bind raises_perform fun _ => raises_wrap fun _ _ => trivial

theorem list_source_windows_confined (cohort : String) (window_starts : List Nat) :
    Raises (Confined allowed) (list_source_windows cohort window_starts : Program B PipelineError (List (Nat × Path))) := by
  induction window_starts with
  | nil => trivial
  | cons window_start rest ih =>
    refine raises_bind (raises_wrap fun _ _ => trivial) fun timestamp => ?_
    exact raises_bind (raises_list_paths _) fun listed => raises_bind ih fun objects => raises_pure

theorem list_measurement_objects_confined (cohort : String) (window_starts : List Nat) :
    Raises (Confined allowed) (list_measurement_objects cohort window_starts : Program B PipelineError (List Path)) := by
  induction window_starts with
  | nil => trivial
  | cons window_start rest ih =>
    refine raises_bind (raises_wrap fun _ _ => trivial) fun timestamp => ?_
    exact raises_bind (raises_list_paths _) fun listed => raises_bind ih fun objects => raises_pure

theorem load_headers_confined (cohort : String) (width : Nat) (objects : List (Nat × Path))
    (by_ulid : BTreeMap String SourcePart) : Raises (Confined allowed) (load_headers codec cohort width objects by_ulid) := by
  induction objects generalizing by_ulid with
  | nil => trivial
  | cons object rest ih =>
    obtain ⟨window_start, path⟩ := object
    unfold load_headers
    cases source_part_ulid path with
    | none => exact ih by_ulid
    | some part_ulid =>
      refine raises_bind (raises_get_bytes path) fun bytes => raises_bind (raises_wrap fun _ _ => trivial) fun prepared => ?_
      by_cases repeated : part_ulid ∈ by_ulid
      · rw [if_pos repeated]
        trivial
      · rw [if_neg repeated]
        exact ih _

theorem classify_pair_confined (source : SourcePart) (read : Except IntermediateError IntermediatePart) (classified : Classified) :
    Fails (Confined allowed) (classify_pair config source read classified) := by
  cases read with
  | error error => exact fails_ok
  | ok part =>
    unfold classify_pair
    refine fails_ite (fun _ => fails_ok) fun _ => fails_ite (fun _ => ?_) fun _ => fails_ok
    cases checked_add classified.phase_a_incompatible_parts 1 with
    | none => exact fails_error trivial
    | some total => exact fails_ok

theorem classify_confined (measurement_objects : List Path) (sources : List SourcePart) (classified : Classified) :
    Raises (Confined allowed) (classify codec config measurement_objects sources classified) := by
  induction sources generalizing classified with
  | nil => trivial
  | cons source rest ih =>
    refine raises_bind (raises_wrap fun _ _ => trivial) fun paths => ?_
    obtain ⟨truth_path, sweep_path⟩ := paths
    by_cases present : truth_path ∈ measurement_objects ∧ sweep_path ∈ measurement_objects
    · simp only [if_pos present]
      refine raises_bind (raises_get_bytes _) fun truth => raises_bind (raises_get_bytes _) fun sweep => ?_
      exact raises_bind (raises_wrap (classify_pair_confined source _ classified)) fun after => ih after
    · simp only [if_neg present]
      exact ih _

theorem survey_store_confined {config : AggregationConfig} {round_end : Nat}
    (starts : Fails allowed
      (in_scope_window_starts round_end config.window_duration_seconds config.storage_window_seconds)) :
    Raises (Confined allowed) (survey_store codec config round_end) := by
  refine raises_bind (raises_wrap starts) fun window_starts => ?_
  refine raises_bind (raises_bind (list_source_windows_confined _ _) fun _ => raises_pure) fun source_objects => ?_
  refine raises_bind (list_measurement_objects_confined _ _) fun measurement_objects => ?_
  refine raises_bind (raises_bind (load_headers_confined _ _ _ _) fun _ => raises_pure) fun sources => ?_
  exact raises_bind (classify_confined _ _ _) fun _ => raises_pure

theorem store_measured_confined (cohort : String) (source : SourcePart) (measured : MeasuredPart) :
    Raises (Confined allowed) (store_measured codec cohort source measured) := by
  refine raises_bind (raises_wrap fun _ _ => trivial) fun bodies => raises_bind (raises_wrap fun _ _ => trivial) fun paths => ?_
  refine raises_bind (raises_put_bytes _ _) fun _ => raises_bind (raises_put_bytes _ _) fun _ => ?_
  exact raises_wrap fun _ _ => trivial

theorem measure_source_confined (source : SourcePart) : Raises (Confined allowed) (measure_source codec config computed_at_us source) :=
  raises_bind (raises_get_bytes _) fun _ => raises_bind (raises_wrap fun _ _ => trivial) fun _ =>
    raises_mapError _ fun _ => trivial

theorem measure_pending_confined (sources : List SourcePart) (compatible : BTreeMap String IntermediatePart) :
    Raises (Confined allowed) (measure_pending codec config computed_at_us sources compatible) := by
  induction sources generalizing compatible with
  | nil => trivial
  | cons source rest ih =>
    refine raises_bind raises_perform fun cancelled => ?_
    cases cancelled with
    | true => trivial
    | false =>
      simp only [Bool.false_eq_true, ↓reduceIte]
      refine raises_bind (measure_source_confined source) fun outcome => ?_
      cases outcome with
      | Complete measured => exact raises_bind (store_measured_confined _ _ _) fun part => ih _
      | TableSmallerThanK abort => trivial
      | ConnectionUnavailable error => trivial
      | Cancelled => trivial

/-! ### At its end -/

/-- An aggregation error at the round's end is one of aggregating what the round collected, or of writing the record. -/
def Concluding (beta_reg : Float → Float → Float → Float) (ending : Ending) : PipelineError → Prop
  | .Aggregate error => Elsewhere error ∨ ∃ previous_round, aggregate beta_reg (ending.input previous_round) = .error error
  | _ => True

theorem ending_raises (ending : Ending) : Raises (Concluding beta_reg ending) (ending.program codec beta_reg) := by
  refine raises_bind raises_perform fun cancelled => ?_
  cases cancelled with
  | true => trivial
  | false =>
    simp only [Bool.false_eq_true, ↓reduceIte]
    refine raises_bind (raises_wrap fun _ _ => trivial) fun paths => raises_bind ?_ fun previous_round => ?_
    · refine raises_bind raises_perform fun reply => raises_wrap fun error failed => ?_
      obtain ⟨message, _, rfl⟩ := previous_of_error failed
      trivial
    · refine raises_bind (raises_wrap fun error failed => .inr ⟨previous_round, failed⟩) fun output => ?_
      refine raises_bind (raises_wrap fun error failed => .inl ?_) fun bytes => ?_
      · unfold round_json_bytes at failed
        cases written : codec.to_vec output with
        | ok body => rw [written] at failed; cases failed
        | error message =>
          rw [written] at failed
          cases failed
          exact .inr ⟨message, rfl⟩
      · exact raises_bind (raises_bind raises_perform fun _ => raises_wrap fun _ _ => trivial) fun _ =>
          raises_bind (raises_bind raises_perform fun _ => raises_wrap fun _ _ => trivial) fun _ => raises_pure

/-- A round that fails with an aggregation error has collected its pairs, unless the error is about something else. -/
theorem round_fails {error : AggregateError}
    (run : Runs answer (run_cohort_round codec beta_reg config round_end computed_at computed_at_us) world
      (.failed (.Aggregate error)) world') :
    Elsewhere error ∨ ∃ ending middle previous_round, ending.config = config ∧ ending.round_end = round_end ∧
      Supplied codec computed_at_us world middle ending ∧
      aggregate beta_reg (ending.input previous_round) = .error error := by
  rcases runs_bind.mp run with ⟨⟨sources, classified⟩, surveyed, surveyRun, rest⟩ | ⟨failure, failed, same⟩ | ⟨_, same⟩
  · rcases runs_bind.mp rest with ⟨pending, measured, measureRun, rest⟩ | ⟨failure, failed, same⟩ | ⟨_, same⟩
    · cases pending with
      | Cancelled => cases (runs_pure.mp rest).1
      | Measured compatible phase_a_abort =>
        have concluding : Raises (Concluding beta_reg _) (Ending.program _ codec beta_reg) :=
          ending_raises (ending_of config round_end computed_at sources classified compatible phase_a_abort)
        rcases concluding.runs rest with elsewhere | ⟨previous_round, refused⟩
        · exact .inl elsewhere
        · exact .inr ⟨_, measured, previous_round, rfl, rfl, supplied_of_runs surveyRun measureRun, refused⟩
    · cases same
      have confined : Confined Elsewhere _ := (measure_pending_confined _ _).runs failed
      exact .inl confined
    · cases same
  · cases same
    have confined : Confined Elsewhere _ := (survey_store_confined fun error refused =>
      .inl (in_scope_window_starts_clerical _ _ _ error refused)).runs failed
    exact .inl confined
  · cases same

end VectorSeam.Failures
