import VectorSeam.PendingParts

/-!
A round taken apart. Before its end a round has put measurements only; when it gets to
its end it has the sources in scope and, unless an abort left some out, one pair for
each of them, which was stored before and reused, or measured and put in this round.
-/

namespace VectorSeam.Rounds
open VectorSeam.Model VectorSeam.ObjectStore VectorSeam.Window VectorSeam.Accounting VectorSeam.Aggregate
open VectorSeam.Intermediate VectorSeam.Measure VectorSeam.Effects VectorSeam.Programs VectorSeam.Pipeline
open VectorSeam.Requests VectorSeam.SortedMaps VectorSeam.SourceParts VectorSeam.Publishing VectorSeam.PendingParts

variable {B : Type} {codec : Codec B} {beta_reg : Float → Float → Float → Float} {world world' middle : World B}

/-- A pair that a round may use for a source. -/
def Pair (codec : Codec B) (config : AggregationConfig) (computed_at_us : Nat) (world middle : World B)
    (source : SourcePart) (part : IntermediatePart) : Prop :=
  Reusable codec config world.objects source part ∨ Fresh codec config computed_at_us world middle source part

/-- Requests were made since `world`, with no upload but of measurements. -/
structure Gathered (world middle : World B) : Prop where
  log : ∃ block, middle.log = world.log ++ block ∧ ∀ event ∈ block, Gathers (request event)
  objects : ∀ path, path.root ≠ some "measurements" → lookup middle.objects path = lookup world.objects path

theorem gathered_of_performs {ε α : Type} {program : Program B ε α} {outcome : Outcome ε α}
    (performs : Performs Gathers program) (run : Runs answer program world outcome world') : Gathered world world' :=
  ⟨performs_log performs run, fun _ other => gathers_objects performs run other⟩

theorem Gathered.trans (first : Gathered world middle) (second : Gathered middle world') : Gathered world world' := by
  obtain ⟨block, logged, all⟩ := first.log
  obtain ⟨block', logged', all'⟩ := second.log
  refine ⟨⟨block ++ block', by rw [logged', logged, List.append_assoc], fun event member => ?_⟩, fun path other => ?_⟩
  · exact (List.mem_append.mp member).elim (all event) (all' event)
  · rw [second.objects path other, first.objects path other]

theorem survey_store_gathers (config : AggregationConfig) (round_end : Nat) :
    Performs Gathers (survey_store codec config round_end) :=
  (survey_store_reads codec config round_end).mono fun effect reads => by cases effect <;> trivial

/-- The sources and pairs of a round whose measuring phase is over. -/
structure Supplied (codec : Codec B) (computed_at_us : Nat) (world middle : World B) (ending : Ending) : Prop where
  sources : ∃ window_starts, in_scope_window_starts ending.round_end ending.config.window_duration_seconds
      ending.config.storage_window_seconds = .ok window_starts ∧
    SourcesFound codec world.objects ending.config window_starts ending.sources
  pairs : ∃ used, used.Sublist ending.sources ∧
    Filled ulid_of (Pair codec ending.config computed_at_us world middle) used ending.compatible ∧
    (ending.phase_a_abort = none → used = ending.sources)

private theorem fresh_of_start {config : AggregationConfig} {computed_at_us : Nat} {start : World B} {source : SourcePart}
    {part : IntermediatePart} (same : start.objects = world.objects)
    (fresh : Fresh codec config computed_at_us start middle source part) :
    Fresh codec config computed_at_us world middle source part := by
  obtain ⟨before, after, measured, truth, sweep, kept, rest⟩ := fresh
  exact ⟨before, after, measured, truth, sweep, fun path other => by rw [kept path other, same], rest⟩

/-- The data of a round's end, from what the earlier phases returned. -/
abbrev ending_of (config : AggregationConfig) (round_end : Nat) (computed_at : String) (sources : List SourcePart)
    (classified : Classified) (compatible : BTreeMap String IntermediatePart) (phase_a_abort : Option PhaseAAbort) : Ending :=
  ⟨config, round_end, computed_at, sources, classified.phase_a_incompatible_parts, compatible, phase_a_abort⟩

/-- The sources in scope, each with its pair reused or left pending, and the pending ones measured in order. -/
theorem supplied_of_runs {config : AggregationConfig} {round_end computed_at_us : Nat} {computed_at : String}
    {sources : List SourcePart} {classified : Classified} {compatible : BTreeMap String IntermediatePart}
    {phase_a_abort : Option PhaseAAbort} {surveyed : World B}
    (surveyRun : Runs answer (survey_store codec config round_end) world (.returned (sources, classified)) surveyed)
    (measureRun : Runs answer (measure_pending codec config computed_at_us classified.pending classified.compatible) surveyed
      (.returned (.Measured compatible phase_a_abort)) middle) :
    Supplied codec computed_at_us world middle
      (ending_of config round_end computed_at sources classified compatible phase_a_abort) := by
  classical
  obtain ⟨window_starts, measurement_objects, start, scope, found, kept, _, classifyRun⟩ := runs_survey_store surveyRun
  have unchanged : surveyed.objects = world.objects :=
    performs_unchanged (survey_store_reads codec config round_end) (fun _ _ => id) surveyRun
  have bare : Filled ulid_of (Pair codec config computed_at_us world middle) [] (∅ : BTreeMap String IntermediatePart) :=
    Filled.empty
  obtain ⟨reused, pending, split, filled, pendings, _⟩ := runs_classify classifyRun bare
    fun source _ part reusable => .inl (kept ▸ reusable)
  obtain ⟨measured, rest, order, all, complete⟩ := runs_measure_pending measureRun filled
    fun source _ part fresh => .inr (fresh_of_start unchanged fresh)
  simp only [List.nil_append] at all pendings
  rw [pendings] at order
  refine ⟨⟨window_starts, scope, found⟩, sources.filter (fun source => decide (source ∈ reused ++ measured)),
    List.filter_sublist, all.congr fun source => ?_, fun finished => ?_⟩
  · rw [List.mem_filter, decide_eq_true_eq]
    constructor
    · intro member
      refine ⟨split.mem_iff.mpr (List.mem_append.mpr ?_), member⟩
      rcases List.mem_append.mp member with early | late
      · exact .inl early
      · exact .inr (order ▸ List.mem_append_left _ late)
    · exact And.right
  · refine List.filter_eq_self.mpr fun source member => decide_eq_true ?_
    rw [complete finished, List.append_nil] at order
    rw [← order]
    exact split.mem_iff.mp member

/-- A round ends before it gets to its end, or it gets there with its sources and pairs. -/
theorem runs_round {config : AggregationConfig} {round_end computed_at_us : Nat} {computed_at : String}
    {outcome : Outcome PipelineError CohortRoundOutcome}
    (run : Runs answer (run_cohort_round codec beta_reg config round_end computed_at computed_at_us) world outcome world') :
    (Gathered world world' ∧ ∀ output, outcome ≠ .returned (.Published output)) ∨
    ∃ ending middle, ending.config = config ∧ ending.round_end = round_end ∧ ending.computed_at = computed_at ∧
      Supplied codec computed_at_us world middle ending ∧ Gathered world middle ∧
      Runs answer (ending.program codec beta_reg) middle outcome world' := by
  have surveying : Performs Gathers (survey_store codec config round_end) := survey_store_gathers config round_end
  rcases runs_bind.mp run with ⟨⟨sources, classified⟩, surveyed, surveyRun, rest⟩ | ⟨error, failed, rfl⟩ | ⟨stopped, rfl⟩
  swap
  · exact .inl ⟨gathered_of_performs surveying failed, by simp⟩
  swap
  · exact .inl ⟨gathered_of_performs surveying stopped, by simp⟩
  have first := gathered_of_performs surveying surveyRun
  have measuring : Performs Gathers (measure_pending codec config computed_at_us classified.pending classified.compatible) :=
    measure_pending_gathers config computed_at_us classified.pending classified.compatible
  rcases runs_bind.mp rest with ⟨pending, measured, measureRun, rest⟩ | ⟨error, failed, rfl⟩ | ⟨stopped, rfl⟩
  swap
  · exact .inl ⟨first.trans (gathered_of_performs measuring failed), by simp⟩
  swap
  · exact .inl ⟨first.trans (gathered_of_performs measuring stopped), by simp⟩
  have second := first.trans (gathered_of_performs measuring measureRun)
  cases pending with
  | Cancelled =>
    obtain ⟨rfl, rfl⟩ := runs_pure.mp rest
    exact .inl ⟨second, by simp⟩
  | Measured compatible phase_a_abort =>
    exact .inr ⟨ending_of config round_end computed_at sources classified compatible phase_a_abort, measured, rfl, rfl, rfl,
      supplied_of_runs surveyRun measureRun, second, rest⟩

end VectorSeam.Rounds
