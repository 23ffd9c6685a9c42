import VectorSeam.SourceParts
import VectorSeam.Publishing

/-!
Stored pairs reused and pending parts measured. Both loops fill one map of pairs by
part ULID: what holds of every pair that can be reused, and of every pair that is
freshly measured, holds of every pair of the map.
-/

namespace VectorSeam.PendingParts
open VectorSeam.Model VectorSeam.ObjectStore VectorSeam.Window VectorSeam.Aggregate VectorSeam.Intermediate
open VectorSeam.Measure VectorSeam.Effects VectorSeam.Programs VectorSeam.Pipeline VectorSeam.Requests
open VectorSeam.SortedMaps VectorSeam.SourceParts VectorSeam.Publishing

variable {B : Type} {codec : Codec B} {world world' : World B} {holds : SourcePart → IntermediatePart → Prop}
  {done : List SourcePart}

/-! ### Reused pairs -/

/-- The stored pair of a source reads as a part of that source, measured under the config's settings. -/
def Reusable (codec : Codec B) (config : AggregationConfig) (objects : Objects B) (source : SourcePart)
    (part : IntermediatePart) : Prop :=
  ∃ paths truth sweep,
    intermediate_paths config.cohort source.listed.window_start source.listed.part_ulid = .ok paths ∧
    lookup objects paths.1 = some truth ∧ lookup objects paths.2 = some sweep ∧
    read_intermediate_pair_bytes codec truth sweep = .ok part ∧
    matches_source_metadata part source config.cohort = true ∧ is_compatible config part = true

/-- Filing a pair either uses it, or leaves the source pending. -/
theorem classify_pair_ok {config : AggregationConfig} {source : SourcePart}
    {read : Except IntermediateError IntermediatePart} {before after : Classified}
    (found : classify_pair config source read before = .ok after) :
    (∃ part, read = .ok part ∧ matches_source_metadata part source config.cohort = true ∧
      is_compatible config part = true ∧ after.pending = before.pending ∧
      after.compatible = before.compatible.insert source.listed.part_ulid part) ∨
    (after.pending = before.pending ++ [source] ∧ after.compatible = before.compatible) := by
  unfold classify_pair at found
  cases read with
  | error error =>
    obtain rfl := Except.ok.inj found
    exact .inr ⟨rfl, rfl⟩
  | ok part =>
    simp only [] at found
    by_cases usable : (matches_source_metadata part source config.cohort && is_compatible config part) = true
    · rw [if_pos usable] at found
      obtain rfl := Except.ok.inj found
      obtain ⟨matching, compatible⟩ := Bool.and_eq_true_iff.mp usable
      exact .inl ⟨part, rfl, matching, compatible, rfl, rfl⟩
    rw [if_neg usable] at found
    by_cases matching : matches_source_metadata part source config.cohort = true
    · rw [if_pos matching] at found
      cases counted : checked_add before.phase_a_incompatible_parts 1 with
      | none => rw [counted] at found; cases found
      | some total =>
        rw [counted] at found
        obtain rfl := Except.ok.inj found
        exact .inr ⟨rfl, rfl⟩
    · rw [if_neg matching] at found
      obtain rfl := Except.ok.inj found
      exact .inr ⟨rfl, rfl⟩

/-- The classification has a usable pair for each source or leaves it pending, in order. -/
theorem runs_classify {config : AggregationConfig} {measurement_objects : List Path} {sources : List SourcePart}
    {before after : Classified}
    (run : Runs answer (classify codec config measurement_objects sources before) world (.returned after) world')
    (filled : Filled ulid_of holds done before.compatible)
    (reusable : ∀ source ∈ sources, ∀ part, Reusable codec config world.objects source part → holds source part) :
    ∃ reused pending, sources.Perm (reused ++ pending) ∧
      Filled ulid_of holds (done ++ reused) after.compatible ∧ after.pending = before.pending ++ pending ∧
      pending.Sublist sources := by
  induction sources generalizing world world' before done with
  | nil =>
    obtain ⟨same, rfl⟩ := runs_pure.mp run
    obtain rfl := Outcome.returned.inj same
    exact ⟨[], [], by simp, by simpa using filled, by simp, .refl _⟩
  | cons source rest ih =>
    have later : ∀ other ∈ rest, ∀ part, Reusable codec config world.objects other part → holds other part :=
      fun other member => reusable other (List.mem_cons_of_mem _ member)
    obtain ⟨⟨truth_path, sweep_path⟩, start, nameRun, afterName⟩ := runs_bind_returned.mp run
    obtain ⟨named, rfl⟩ := runs_wrap_returned.mp nameRun
    by_cases present : truth_path ∈ measurement_objects ∧ sweep_path ∈ measurement_objects
    · simp only [if_pos present] at afterName
      obtain ⟨truth, first, truthRun, afterTruth⟩ := runs_bind_returned.mp afterName
      obtain ⟨truthFound, rfl⟩ := runs_get_bytes.mp truthRun
      obtain ⟨sweep, second, sweepRun, afterSweep⟩ := runs_bind_returned.mp afterTruth
      obtain ⟨sweepFound, rfl⟩ := runs_get_bytes.mp sweepRun
      obtain ⟨middle, third, pairRun, restRun⟩ := runs_bind_returned.mp afterSweep
      obtain ⟨paired, rfl⟩ := runs_wrap_returned.mp pairRun
      rcases classify_pair_ok paired with ⟨part, read, matching, compatible, pendingSame, inserted⟩ | ⟨pended, same⟩
      · have held : holds source part := reusable source (by simp) part
          ⟨(truth_path, sweep_path), truth, sweep, named, truthFound, sweepFound, read, matching, compatible⟩
        have filed := filled.insert held
        rw [← inserted] at filed
        obtain ⟨reused, pending, split, all, pendings, sub⟩ := ih restRun filed later
        exact ⟨source :: reused, pending, split.cons source, by simpa using all, by rw [pendings, pendingSame],
          sub.cons source⟩
      · rw [← same] at filled
        obtain ⟨reused, pending, split, all, pendings, sub⟩ := ih restRun filled later
        exact ⟨reused, source :: pending, (split.cons source).trans List.perm_middle.symm, all,
          by rw [pendings, pended]; simp, sub.cons_cons source⟩
    · simp only [if_neg present] at afterName
      obtain ⟨reused, pending, split, all, pendings, sub⟩ := ih afterName filled later
      exact ⟨reused, source :: pending, (split.cons source).trans List.perm_middle.symm, all, by rw [pendings]; simp,
        sub.cons_cons source⟩

/-! ### Freshly measured pairs -/

/-- The pair was measured within the run from `world` to `world'`, put, and read back from what was put. -/
def Fresh (codec : Codec B) (config : AggregationConfig) (computed_at_us : Nat) (world world' : World B)
    (source : SourcePart) (part : IntermediatePart) : Prop :=
  ∃ before after measured truth sweep,
    (∀ path, path.root ≠ some "measurements" → lookup before.objects path = lookup world.objects path) ∧
    Runs answer (measure_source codec config computed_at_us source) before (.returned (.Complete measured)) after ∧
    after.log <+: world'.log ∧
    encode_intermediate_pair codec measured.metadata measured.truth_rows measured.sweep_rows = .ok (truth, sweep) ∧
    read_intermediate_pair_bytes codec truth sweep = .ok part

theorem runs_store_measured {cohort : String} {source : SourcePart} {measured : MeasuredPart} {part : IntermediatePart}
    (run : Runs answer (store_measured codec cohort source measured) world (.returned part) world') :
    ∃ truth sweep paths,
      encode_intermediate_pair codec measured.metadata measured.truth_rows measured.sweep_rows = .ok (truth, sweep) ∧
      intermediate_paths cohort source.listed.window_start source.listed.part_ulid = .ok paths ∧
      read_intermediate_pair_bytes codec truth sweep = .ok part ∧
      world' = (world.upload paths.1 truth (.ok ()) true).upload paths.2 sweep (.ok ()) true := by
  obtain ⟨⟨truth, sweep⟩, start, encodeRun, afterEncode⟩ := runs_bind_returned.mp run
  obtain ⟨encoded, rfl⟩ := runs_wrap_returned.mp encodeRun
  obtain ⟨paths, second, nameRun, afterName⟩ := runs_bind_returned.mp afterEncode
  obtain ⟨named, rfl⟩ := runs_wrap_returned.mp nameRun
  rcases runs_bind_put_bytes.mp afterName with ⟨same, _⟩ | ⟨_, _, same, _⟩ | afterTruth
  · cases same
  · cases same
  rcases runs_bind_put_bytes.mp afterTruth with ⟨same, _⟩ | ⟨_, _, same, _⟩ | afterSweep
  · cases same
  · cases same
  obtain ⟨read, rfl⟩ := runs_wrap_returned.mp afterSweep
  exact ⟨truth, sweep, paths, encoded, named, read, rfl⟩

theorem prefix_of_performs {ε α : Type} {allowed : Effect B → Prop} {program : Program B ε α} {outcome : Outcome ε α}
    (performs : Performs allowed program) (run : Runs answer program world outcome world') : world.log <+: world'.log := by
  obtain ⟨block, logged, _⟩ := performs_log performs run
  exact ⟨block, logged.symm⟩

/-- Measuring and storing leave everything but the measurements alone. -/
theorem gathers_objects {ε α : Type} {program : Program B ε α} {outcome : Outcome ε α} (performs : Performs Gathers program)
    (run : Runs answer program world outcome world') {path : Path} (other : path.root ≠ some "measurements") :
    lookup world'.objects path = lookup world.objects path := by
  refine performs_objects performs (fun put bytes permitted same => ?_) run
  subst same
  exact other permitted

theorem measure_source_gathers (config : AggregationConfig) (computed_at_us : Nat) (source : SourcePart) :
    Performs Gathers (measure_source codec config computed_at_us source) :=
  measure_source_performs codec config computed_at_us source trivial fun effect measures => by cases effect <;> trivial

/-- A measuring phase that ended has a fresh pair for every source before the abort, if there was one. -/
theorem runs_measure_pending {config : AggregationConfig} {computed_at_us : Nat} {sources : List SourcePart}
    {compatible result : BTreeMap String IntermediatePart} {phase_a_abort : Option PhaseAAbort}
    (run : Runs answer (measure_pending codec config computed_at_us sources compatible) world
      (.returned (.Measured result phase_a_abort)) world')
    (filled : Filled ulid_of holds done compatible)
    (fresh : ∀ source ∈ sources, ∀ part, Fresh codec config computed_at_us world world' source part → holds source part) :
    ∃ measured rest, sources = measured ++ rest ∧ Filled ulid_of holds (done ++ measured) result ∧
      (phase_a_abort = none → rest = []) := by
  induction sources generalizing world compatible done with
  | nil =>
    obtain ⟨same, rfl⟩ := runs_pure.mp run
    cases same
    exact ⟨[], [], rfl, by simpa using filled, fun _ => rfl⟩
  | cons source rest ih =>
    rcases runs_bind_is_cancelled.mp run with ⟨same, _⟩ | ⟨cancelled, afterPoll⟩
    · cases same
    cases cancelled with
    | true => cases (runs_pure.mp afterPoll).1
    | false =>
      simp only [Bool.false_eq_true, ↓reduceIte] at afterPoll
      obtain ⟨outcome, middle, measureRun, afterMeasure⟩ := runs_bind_returned.mp afterPoll
      cases outcome with
      | Complete measured =>
        obtain ⟨part, last, storeRun, restRun⟩ := runs_bind_returned.mp afterMeasure
        obtain ⟨truth, sweep, paths, encoded, named, read, stored⟩ := runs_store_measured storeRun
        have restLog := prefix_of_performs (measure_pending_gathers config computed_at_us rest _) restRun
        have storeLog := prefix_of_performs (store_measured_gathers config.cohort source measured) storeRun
        have held : holds source part := fresh source (by simp) part ⟨world.record (.polled false), middle, measured, truth, sweep,
          fun _ _ => rfl, measureRun, storeLog.trans restLog, encoded, read⟩
        have later : ∀ other ∈ rest, ∀ part, Fresh codec config computed_at_us last world' other part →
            holds other part := by
          intro other member part freshLater
          refine fresh other (List.mem_cons_of_mem _ member) part ?_
          obtain ⟨before, after, found, truth, sweep, kept, inner, logged, encoded, read⟩ := freshLater
          refine ⟨before, after, found, truth, sweep, fun path elsewhere => ?_, inner, logged, encoded, read⟩
          rw [kept path elsewhere, gathers_objects (store_measured_gathers config.cohort source measured) storeRun elsewhere,
            gathers_objects (measure_source_gathers config computed_at_us source) measureRun elsewhere]
          rfl
        obtain ⟨finished, remaining, split, all, complete⟩ := ih restRun (filled.insert held) later
        refine ⟨source :: finished, remaining, by rw [split]; rfl, by simpa using all, complete⟩
      | TableSmallerThanK abort =>
        obtain ⟨same, rfl⟩ := runs_pure.mp afterMeasure
        cases same
        exact ⟨[], source :: rest, rfl, by simpa using filled, by simp⟩
      | ConnectionUnavailable error => exact absurd (runs_fail.mp afterMeasure).1 (by simp)
      | Cancelled => cases (runs_pure.mp afterMeasure).1

end VectorSeam.PendingParts
