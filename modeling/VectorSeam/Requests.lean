import VectorSeam.Pipeline
import VectorSeam.Histories

/-!
What each storage request of a round does to the world, which requests the parts of
a round can make, and what the requests they cannot make leave unchanged.
-/

namespace VectorSeam.Requests
open VectorSeam.Model VectorSeam.ObjectStore VectorSeam.Window VectorSeam.Accounting VectorSeam.Aggregate
open VectorSeam.Intermediate VectorSeam.Measure VectorSeam.Effects VectorSeam.Programs VectorSeam.Pipeline

variable {B ε α : Type} {world world' : World B}

/-! ### Frames -/

/-- The request of a logged event. -/
def request : Event B → Effect B
  | .listed lead _ => .list lead
  | .got path _ => .get path
  | .uploaded path body _ _ => .put path body
  | .measured vector config _ => .measure_sample vector config
  | .polled _ => .is_cancelled

/-- An answered request is one event of the log. -/
theorem answer_log (world : World B) (choice : Choice) (effect : Effect B) :
    ∃ event, (answer world choice effect).2.log = world.log ++ [event] ∧ request event = effect := by
  cases effect with
  | list lead => exact ⟨.listed lead _, rfl, rfl⟩
  | get path => exact ⟨.got path _, rfl, rfl⟩
  | put path body => exact ⟨.uploaded path body _ _, rfl, rfl⟩
  | measure_sample vector config => exact ⟨.measured vector config _, rfl, rfl⟩
  | is_cancelled => exact ⟨.polled _, rfl, rfl⟩

/-- A run only appends to the log, and only requests the program can make. -/
theorem performs_log {allowed : Effect B → Prop} {program : Program B ε α} {outcome : Outcome ε α}
    (performs : Performs allowed program) (run : Runs answer program world outcome world') :
    ∃ block, world'.log = world.log ++ block ∧ ∀ event ∈ block, allowed (request event) := by
  refine performs.preserves (fun state => ∃ block, state.log = world.log ++ block ∧ ∀ event ∈ block, allowed (request event))
    ?_ run ⟨[], by simp⟩
  rintro state choice effect permitted ⟨block, logged, fine⟩
  obtain ⟨event, appended, asked⟩ := answer_log state choice effect
  refine ⟨block ++ [event], by rw [appended, logged, List.append_assoc], fun other member => ?_⟩
  rcases List.mem_append.mp member with earlier | last
  · exact fine other earlier
  · rw [List.mem_singleton.mp last, asked]
    exact permitted

private theorem answer_objects (world : World B) (choice : Choice) (effect : Effect B) (kept : Path)
    (elsewhere : ∀ path body, effect = .put path body → path ≠ kept) :
    lookup (answer world choice effect).2.objects kept = lookup world.objects kept := by
  cases effect with
  | put path body =>
    simp only [answer, World.upload]
    by_cases stored : (put_reply choice.upload).2 = true
    · rw [if_pos stored, lookup_store_of_ne (elsewhere path body rfl)]
    · rw [if_neg stored]
  | list lead => rfl
  | get path => rfl
  | measure_sample vector config => rfl
  | is_cancelled => rfl

/-- An object at a path the program cannot put to is left alone. -/
theorem performs_objects {allowed : Effect B → Prop} {program : Program B ε α} {outcome : Outcome ε α} {kept : Path}
    (performs : Performs allowed program) (elsewhere : ∀ path body, allowed (.put path body) → path ≠ kept)
    (run : Runs answer program world outcome world') : lookup world'.objects kept = lookup world.objects kept := by
  refine performs.preserves (fun state => lookup state.objects kept = lookup world.objects kept) ?_ run rfl
  intro state choice effect permitted same
  rw [answer_objects state choice effect kept fun path body put => elsewhere path body (put ▸ permitted), same]

private theorem answer_unchanged (world : World B) (choice : Choice) (effect : Effect B)
    (noPut : ∀ path body, effect ≠ .put path body) : (answer world choice effect).2.objects = world.objects := by
  cases effect with
  | put path body => exact absurd rfl (noPut path body)
  | list lead => rfl
  | get path => rfl
  | measure_sample vector config => rfl
  | is_cancelled => rfl

theorem performs_unchanged {allowed : Effect B → Prop} {program : Program B ε α} {outcome : Outcome ε α}
    (performs : Performs allowed program) (noPut : ∀ path body, ¬allowed (.put path body))
    (run : Runs answer program world outcome world') : world'.objects = world.objects := by
  refine performs.preserves (fun state => state.objects = world.objects) ?_ run rfl
  intro state choice effect permitted same
  rw [answer_unchanged state choice effect fun path body put => noPut path body (put ▸ permitted), same]

/-! ### Single requests -/

theorem runs_wrap {rename : ε → PipelineError} {result : Except ε α} {outcome : Outcome PipelineError α} :
    Runs answer (wrap rename result) world outcome world' ↔ world' = world ∧
      ((∃ value, result = .ok value ∧ outcome = .returned value) ∨
        ∃ error, result = .error error ∧ outcome = .failed (rename error)) := by
  rw [wrap, runs_mapError]
  simp only [runs_lift]
  cases result with
  | ok value => simp [and_comm]
  | error error => simp [and_comm]

theorem runs_wrap_returned {rename : ε → PipelineError} {result : Except ε α} {value : α} :
    Runs answer (wrap rename result) world (.returned value) world' ↔ result = .ok value ∧ world' = world := by
  rw [runs_wrap]
  simp [and_comm, eq_comm]

theorem performs_wrap {allowed : Effect B → Prop} {rename : ε → PipelineError} {result : Except ε α} :
    Performs allowed (wrap rename result : Program B PipelineError α) := performs_mapError performs_lift

theorem performs_bind_wrap {β : Type} {allowed : Effect B → Prop} {rename : ε → PipelineError} {result : Except ε α}
    {next : α → Program B PipelineError β} (after : ∀ value, result = .ok value → Performs allowed (next value)) :
    Performs allowed (wrap rename result >>= next) := by
  cases result with
  | ok value => exact after value rfl
  | error error => trivial

theorem runs_get_bytes {path : Path} {body : B} :
    Runs answer (get_bytes path) world (.returned body) world' ↔
      lookup world.objects path = some body ∧ world' = world.record (.got path (.found body)) := by
  unfold get_bytes
  rw [runs_bind_returned]
  constructor
  · rintro ⟨reply, middle, asked, rest⟩
    rcases runs_get.mp asked with ⟨stopped, _⟩ | ⟨answered, readable, same, rfl⟩
    · cases stopped
    obtain rfl := (Outcome.returned.inj same)
    cases reply with
    | found found =>
      obtain ⟨same, rfl⟩ := runs_pure.mp rest
      obtain rfl := Outcome.returned.inj same
      exact ⟨readable, rfl⟩
    | body_failed message => exact absurd (runs_fail.mp rest).1 (by simp)
    | not_found => exact absurd (runs_fail.mp rest).1 (by simp)
    | failed message => exact absurd (runs_fail.mp rest).1 (by simp)
  · rintro ⟨found, rfl⟩
    exact ⟨.found body, _, runs_get.mpr (.inr ⟨.found body, found, rfl, rfl⟩), runs_pure.mpr ⟨rfl, rfl⟩⟩

theorem performs_get_bytes {allowed : Effect B → Prop} {path : Path} (permitted : allowed (.get path)) :
    Performs allowed (get_bytes path) := by
  refine performs_bind (performs_perform permitted) fun reply => ?_
  cases reply <;> trivial

theorem runs_put_bytes {path : Path} {bytes : B} {outcome : Outcome PipelineError Unit} :
    Runs answer (put_bytes path bytes) world outcome world' ↔ outcome = .stopped ∧ world' = world ∨
      ∃ reply stored, (reply = .ok () → stored = true) ∧ world' = world.upload path bytes reply stored ∧
        (reply = .ok () ∧ outcome = .returned () ∨
          ∃ message, reply = .error message ∧ outcome = .failed (.Storage "PUT" path.raw message)) := by
  unfold put_bytes
  rw [runs_bind]
  simp only [runs_put, reduceCtorEq, false_and, and_false, exists_const, or_false, false_or, true_and, runs_wrap,
    Outcome.returned.injEq, exists_false]
  constructor
  · rintro (⟨reply, middle, ⟨given, stored, kept, rfl, rfl⟩, rfl, done⟩ | ⟨rfl, rfl⟩)
    · refine .inr ⟨reply, stored, kept, rfl, ?_⟩
      rcases done with ⟨value, rfl, rfl⟩ | ⟨message, rfl, rfl⟩
      · exact .inl ⟨rfl, rfl⟩
      · exact .inr ⟨message, rfl, rfl⟩
    · exact .inl ⟨rfl, rfl⟩
  · rintro (⟨rfl, rfl⟩ | ⟨reply, stored, kept, rfl, done⟩)
    · exact .inr ⟨rfl, rfl⟩
    · refine .inl ⟨reply, _, ⟨reply, stored, kept, rfl, rfl⟩, rfl, ?_⟩
      rcases done with ⟨rfl, rfl⟩ | ⟨message, rfl, rfl⟩
      · exact .inl ⟨(), rfl, rfl⟩
      · exact .inr ⟨message, rfl, rfl⟩

theorem performs_put_bytes {allowed : Effect B → Prop} {path : Path} {bytes : B} (permitted : allowed (.put path bytes)) :
    Performs allowed (put_bytes path bytes) :=
  performs_bind (performs_perform permitted) fun _ => performs_wrap

theorem performs_list_paths {allowed : Effect B → Prop} {lead : Path} (permitted : allowed (.list lead)) :
    Performs allowed (list_paths lead : Program B PipelineError (List Path)) :=
  performs_bind (performs_perform permitted) fun _ => performs_wrap

/-! ### Sequences that start with a request -/

section Sequences
variable {β : Type} {outcome : Outcome PipelineError β}

theorem runs_bind_wrap {rename : ε → PipelineError} {result : Except ε α} {next : α → Program B PipelineError β} :
    Runs answer (wrap rename result >>= next) world outcome world' ↔
      (∃ value, result = .ok value ∧ Runs answer (next value) world outcome world') ∨
        ∃ error, result = .error error ∧ outcome = .failed (rename error) ∧ world' = world := by
  rw [runs_bind]
  simp only [runs_wrap]
  cases result with
  | ok value => simp
  | error error => simp [and_comm]

theorem runs_bind_is_cancelled {next : Bool → Program B ε β} {outcome : Outcome ε β} :
    Runs answer (is_cancelled >>= next) world outcome world' ↔ outcome = .stopped ∧ world' = world ∨
      ∃ cancelled, Runs answer (next cancelled) (world.record (.polled cancelled)) outcome world' := by
  rw [runs_bind]
  simp [runs_is_cancelled, or_comm, and_comm]

theorem runs_bind_measure_sample {vector : List UInt32} {config : AggregationConfig} {outcome : Outcome ε β}
    {next : Except SampleMeasureError SampleMeasurement → Program B ε β} :
    Runs answer (measure_sample vector config >>= next) world outcome world' ↔ outcome = .stopped ∧ world' = world ∨
      ∃ reply, Runs answer (next reply) (world.record (.measured vector config reply)) outcome world' := by
  rw [runs_bind]
  simp [runs_measure_sample, or_comm, and_comm]

theorem runs_bind_get {path : Path} {next : GetReply B → Program B ε β} {outcome : Outcome ε β} :
    Runs answer (get path >>= next) world outcome world' ↔ outcome = .stopped ∧ world' = world ∨
      ∃ reply, Readable world.objects path reply ∧
        Runs answer (next reply) (world.record (.got path reply)) outcome world' := by
  rw [runs_bind]
  simp only [runs_get, reduceCtorEq, false_and, and_false, exists_false, false_or, or_false, true_and,
    Outcome.returned.injEq]
  constructor
  · rintro (⟨_, _, ⟨reply, readable, same, rfl⟩, rest⟩ | ⟨rfl, rfl⟩)
    · exact .inr ⟨reply, readable, same ▸ rest⟩
    · exact .inl ⟨rfl, rfl⟩
  · rintro (⟨rfl, rfl⟩ | ⟨reply, readable, rest⟩)
    · exact .inr ⟨rfl, rfl⟩
    · exact .inl ⟨reply, _, ⟨reply, readable, rfl, rfl⟩, rest⟩

theorem runs_bind_put_bytes {path : Path} {bytes : B} {next : Unit → Program B PipelineError β} :
    Runs answer (put_bytes path bytes >>= next) world outcome world' ↔ outcome = .stopped ∧ world' = world ∨
      (∃ message stored, outcome = .failed (.Storage "PUT" path.raw message) ∧
        world' = world.upload path bytes (.error message) stored) ∨
      Runs answer (next ()) (world.upload path bytes (.ok ()) true) outcome world' := by
  rw [runs_bind]
  simp only [runs_put_bytes, reduceCtorEq, false_and, and_false, false_or, or_false, exists_false, true_and, and_true]
  constructor
  · rintro (⟨done, middle, ⟨reply, stored, kept, rfl, rfl⟩, rest⟩ | ⟨error, ⟨reply, stored, _, rfl, message, rfl, same⟩, rfl⟩ |
      ⟨rfl, rfl⟩)
    · exact .inr (.inr (kept rfl ▸ rest))
    · obtain rfl := Outcome.failed.inj same
      exact .inr (.inl ⟨message, stored, rfl, rfl⟩)
    · exact .inl ⟨rfl, rfl⟩
  · rintro (⟨rfl, rfl⟩ | ⟨message, stored, rfl, rfl⟩ | rest)
    · exact .inr (.inr ⟨rfl, rfl⟩)
    · exact .inr (.inl ⟨_, ⟨.error message, stored, by simp, rfl, message, rfl, rfl⟩, rfl⟩)
    · exact .inl ⟨(), _, ⟨.ok (), true, fun _ => rfl, rfl, rfl⟩, rest⟩

end Sequences

/-! ### The requests of the parts of a round -/

/-- Lists and GETs. -/
def Reads : Effect B → Prop
  | .list _ => True
  | .get _ => True
  | _ => False
/-- Measurements and polls of the cancellation token. -/
def Measures : Effect B → Prop
  | .measure_sample _ _ => True
  | .is_cancelled => True
  | _ => False

theorem list_source_windows_reads (cohort : String) (window_starts : List Nat) :
    Performs Reads (list_source_windows cohort window_starts : Program B PipelineError _) := by
  induction window_starts with
  | nil => exact performs_pure
  | cons window_start rest ih =>
    exact performs_bind performs_wrap fun timestamp => performs_bind (performs_list_paths trivial) fun listed =>
      performs_bind ih fun objects => performs_pure

theorem list_measurement_objects_reads (cohort : String) (window_starts : List Nat) :
    Performs Reads (list_measurement_objects cohort window_starts : Program B PipelineError _) := by
  induction window_starts with
  | nil => exact performs_pure
  | cons window_start rest ih =>
    exact performs_bind performs_wrap fun timestamp => performs_bind (performs_list_paths trivial) fun listed =>
      performs_bind ih fun objects => performs_pure

variable (codec : Codec B)

theorem load_headers_reads (cohort : String) (width : Nat) (objects : List (Nat × Path))
    (by_ulid : BTreeMap String SourcePart) : Performs Reads (load_headers codec cohort width objects by_ulid) := by
  induction objects generalizing by_ulid with
  | nil => exact performs_pure
  | cons object rest ih =>
    obtain ⟨window_start, path⟩ := object
    unfold load_headers
    cases source_part_ulid path with
    | none => exact ih by_ulid
    | some part_ulid =>
      refine performs_bind (performs_get_bytes trivial) fun bytes => performs_bind performs_wrap fun prepared => ?_
      by_cases repeated : part_ulid ∈ by_ulid
      · rw [if_pos repeated]; trivial
      · rw [if_neg repeated]; exact ih _

theorem classify_reads (config : AggregationConfig) (measurement_objects : List Path) (sources : List SourcePart)
    (classified : Classified) : Performs Reads (classify codec config measurement_objects sources classified) := by
  induction sources generalizing classified with
  | nil => exact performs_pure
  | cons source rest ih =>
    refine performs_bind performs_wrap fun paths => ?_
    obtain ⟨truth_path, sweep_path⟩ := paths
    by_cases present : truth_path ∈ measurement_objects ∧ sweep_path ∈ measurement_objects
    · simp only [if_pos present]
      exact performs_bind (performs_get_bytes trivial) fun truth => performs_bind (performs_get_bytes trivial) fun sweep =>
        performs_bind performs_wrap fun classified => ih classified
    · simp only [if_neg present]
      exact ih _

theorem survey_store_reads (config : AggregationConfig) (round_end : Nat) :
    Performs Reads (survey_store codec config round_end) :=
  performs_bind performs_wrap fun window_starts =>
    performs_bind (performs_bind (list_source_windows_reads config.cohort window_starts) fun _ => performs_pure)
      fun source_objects => performs_bind (list_measurement_objects_reads config.cohort window_starts) fun objects =>
        performs_bind (performs_bind (load_headers_reads codec config.cohort config.storage_window_seconds source_objects ∅)
          fun _ => performs_pure) fun sources => performs_bind (classify_reads codec config objects sources _)
            fun _ => performs_pure

theorem measure_samples_measures (part : PreparedPart) (part_ulid : String) (config : AggregationConfig)
    (computed_at_us : Nat) (samples : List PreparedSample) (measuring : Measuring) :
    Performs Measures (measure_samples part part_ulid config computed_at_us samples measuring :
      Program B PreparePartError MeasurePartOutcome) := by
  induction samples generalizing measuring with
  | nil => exact performs_pure
  | cons sample rest ih =>
    unfold measure_samples
    refine performs_bind (performs_perform trivial) fun cancelled => ?_
    cases cancelled with
    | true => exact performs_pure
    | false =>
      simp only [Bool.false_eq_true, ↓reduceIte]
      split
      · refine performs_bind (performs_perform trivial) fun reply => ?_
        rcases reply with (_ | _ | _ | _) | measured
        · exact ih _
        · exact performs_pure
        · exact performs_pure
        · exact performs_pure
        · exact performs_bind performs_lift fun measuring => ih measuring
      · exact ih _

/-- Measuring one source reads it and asks the measurer. -/
theorem measure_source_performs {allowed : Effect B → Prop} (config : AggregationConfig) (computed_at_us : Nat)
    (source : SourcePart) (reads : allowed (.get source.path)) (measures : ∀ effect, Measures effect → allowed effect) :
    Performs allowed (measure_source codec config computed_at_us source) :=
  performs_bind (performs_get_bytes reads) fun _ => performs_bind performs_wrap fun prepared =>
    performs_mapError ((measure_samples_measures prepared _ config computed_at_us prepared.samples _).mono measures)

end VectorSeam.Requests
