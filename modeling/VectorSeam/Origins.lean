import VectorSeam.RoundEffects

/-!
Where stored pairs come from. In a store whose measurements were all uploaded by rounds,
any rounds under any configs, each file of a pair was encoded from a measurement of its
part that completed. The two files may stem from two such measurements.
-/

namespace VectorSeam.Origins
open VectorSeam.Model VectorSeam.ObjectStore VectorSeam.Window VectorSeam.Aggregate VectorSeam.Intermediate
open VectorSeam.Measure VectorSeam.Effects VectorSeam.Programs VectorSeam.Pipeline VectorSeam.Requests
open VectorSeam.Histories VectorSeam.SourceParts VectorSeam.Publishing VectorSeam.PendingParts VectorSeam.Rounds
open VectorSeam.Deposits VectorSeam.Pairs VectorSeam.RoundEffects VectorSeam.Ulids VectorSeam.Keys

variable {B : Type} {codec : Codec B} {beta_reg : Float → Float → Float → Float} {config : AggregationConfig}
  {computed_at_us : Nat} {world world' middle : World B} {window_starts : List Nat} {sources : List SourcePart}

/-! ### Histories of rounds -/

/-- Runs of rounds over one store, for any cohorts and configs, each run to its end or stopped at any request. -/
inductive History (codec : Codec B) (beta_reg : Float → Float → Float → Float) : World B → Prop where
  | empty (objects : Objects B) (bare : ∀ path, path.root = some "measurements" → lookup objects path = none) :
      History codec beta_reg ⟨objects, []⟩
  /-- Between two rounds anyone may change the other objects, and bring back or remove uploaded measurements. -/
  | outside (world : World B) (objects : Objects B) (earlier : History codec beta_reg world)
      (uploaded : ∀ path body, path.root = some "measurements" → lookup objects path = some body →
        ∃ reply stored, .uploaded path body reply stored ∈ world.log) :
      History codec beta_reg ⟨objects, world.log⟩
  | round (world world' : World B) (config : AggregationConfig) (round_end : Nat) (computed_at : String)
      (computed_at_us : Nat) (outcome : Outcome PipelineError CohortRoundOutcome)
      (earlier : History codec beta_reg world)
      (run : Runs answer (run_cohort_round codec beta_reg config round_end computed_at computed_at_us) world outcome
        world') : History codec beta_reg world'

/-- What a run leaves in the store was there before or was uploaded in it. -/
theorem stored_by_run {ε α : Type} {program : Program B ε α} {outcome : Outcome ε α}
    (run : Runs answer program world outcome world') {path : Path} {body : B} (found : lookup world'.objects path = some body) :
    lookup world.objects path = some body ∨ ∃ reply, .uploaded path body reply true ∈ world'.log := by
  refine (performs_any program).preserves (fun state => lookup state.objects path = some body →
    lookup world.objects path = some body ∨ ∃ reply, .uploaded path body reply true ∈ state.log) ?_ run .inl found
  intro state choice effect _ before later
  have kept : lookup state.objects path = some body →
      lookup world.objects path = some body ∨ ∃ reply, .uploaded path body reply true ∈ (answer state choice effect).2.log := by
    intro present
    obtain ⟨event, logged, _⟩ := answer_log state choice effect
    rw [logged]
    exact (before present).imp id fun ⟨reply, member⟩ => ⟨reply, List.mem_append_left _ member⟩
  cases effect with
  | list lead => exact kept later
  | get source => exact kept later
  | measure_sample vector config => exact kept later
  | is_cancelled => exact kept later
  | put target bytes =>
    by_cases stored : (put_reply choice.upload).2 = true
    · by_cases here : target = path
      · subst here
        simp only [answer, World.upload, stored, ↓reduceIte, lookup_store, Option.some.injEq] at later
        subst later
        exact .inr ⟨(put_reply choice.upload).1, by simp [answer, World.upload, stored]⟩
      · simp only [answer, World.upload, stored, ↓reduceIte, lookup_store, if_neg here] at later
        exact kept later
    · simp only [answer, World.upload, stored, Bool.false_eq_true, ↓reduceIte] at later
      exact kept later

/-! ### Genuine stores -/

/-- The part was measured to its end, under some config, from an object named by its ULID. -/
def Recorded (codec : Codec B) (log : List (Event B)) (part_ulid : String) (config : AggregationConfig)
    (measured : MeasuredPart) : Prop :=
  ∃ source computed_at_us, source_part_ulid source.path = some part_ulid ∧ ulid_of source = part_ulid ∧
    Sampled codec config computed_at_us log source measured

theorem Recorded.mono {log later : List (Event B)} {part_ulid : String} {measured : MeasuredPart}
    (recorded : Recorded codec log part_ulid config measured) (extends' : log <+: later) :
    Recorded codec later part_ulid config measured := by
  obtain ⟨source, computed_at_us, named, same, sampled⟩ := recorded
  exact ⟨source, computed_at_us, named, same, sampled.mono extends'⟩

/-- The object is one file of a pair of a recorded part. -/
def Genuine (codec : Codec B) (log : List (Event B)) (path : Path) (body : B) : Prop :=
  ∃ part_ulid window_start config measured paths truth sweep, Recorded codec log part_ulid config measured ∧
    intermediate_paths config.cohort window_start part_ulid = .ok paths ∧
    encode_intermediate_pair codec measured.metadata measured.truth_rows measured.sweep_rows = .ok (truth, sweep) ∧
    (path = paths.1 ∧ body = truth ∨ path = paths.2 ∧ body = sweep)

theorem Genuine.mono {log later : List (Event B)} {path : Path} {body : B} (genuine : Genuine codec log path body)
    (extends' : log <+: later) : Genuine codec later path body := by
  obtain ⟨part_ulid, window_start, config, measured, paths, truth, sweep, recorded, rest⟩ := genuine
  exact ⟨part_ulid, window_start, config, measured, paths, truth, sweep, recorded.mono extends', rest⟩

/-- Every measurement in the store was uploaded, and every uploaded measurement is genuine. -/
structure AllGenuine (codec : Codec B) (world : World B) : Prop where
  stored : ∀ path body, path.root = some "measurements" → lookup world.objects path = some body →
    ∃ reply stored, .uploaded path body reply stored ∈ world.log
  uploaded : ∀ path body reply stored, .uploaded path body reply stored ∈ world.log →
    path.root = some "measurements" → Genuine codec world.log path body

theorem AllGenuine.found (genuine : AllGenuine codec world) {path : Path} {body : B}
    (root : path.root = some "measurements") (found : lookup world.objects path = some body) :
    Genuine codec world.log path body := by
  obtain ⟨reply, stored, member⟩ := genuine.stored path body root found
  exact genuine.uploaded path body reply stored member root

theorem genuine_of_deposit {log : List (Event B)} {source : SourcePart} {path : Path} {body : B}
    (named : source_part_ulid source.path = some (ulid_of source))
    (deposit : Deposit codec config computed_at_us log source path body) : Genuine codec log path body := by
  obtain ⟨paths, measured, truth, sweep, formatted, sampled, encoded, either⟩ := deposit.encoded
  exact ⟨ulid_of source, source.listed.window_start, config, measured, paths, truth, sweep,
    ⟨source, computed_at_us, named, rfl, sampled⟩, formatted, encoded, either⟩

/-- A round adds genuine measurements only. -/
theorem AllGenuine.round (genuine : AllGenuine codec world) {round_end : Nat} {computed_at : String}
    {outcome : Outcome PipelineError CohortRoundOutcome}
    (run : Runs answer (run_cohort_round codec beta_reg config round_end computed_at computed_at_us) world outcome world') :
    AllGenuine codec world' := by
  obtain ⟨block, logged, kind⟩ := runs_round_orderly run
  have longer : world.log <+: world'.log := ⟨block, logged.symm⟩
  refine ⟨fun path body root found => ?_, fun path body reply stored member root => ?_⟩
  · rcases stored_by_run run found with early | ⟨reply, member⟩
    · obtain ⟨reply, stored, member⟩ := genuine.stored path body root early
      exact ⟨reply, stored, longer.subset member⟩
    · exact ⟨reply, true, member⟩
  · rw [logged] at member
    rcases List.mem_append.mp member with early | late
    · exact (genuine.uploaded path body reply stored early root).mono longer
    rcases kind with reads | ⟨window_starts, sources, _, found, orderly, _⟩
    · exact absurd (reads _ late) id
    obtain ⟨before, after, split⟩ := List.append_of_mem late
    obtain ⟨_, source, inside, deposit, _⟩ := orderly.uploads before _ after split root
    have named := (found_named found).names source inside
    refine (genuine_of_deposit named deposit).mono ⟨.uploaded path body reply stored :: after, ?_⟩
    rw [logged, split, List.append_assoc]

theorem History.genuine (history : History codec beta_reg world) : AllGenuine codec world := by
  induction history with
  | empty objects bare =>
    refine ⟨fun path body root found => ?_, fun path body reply stored member => absurd member List.not_mem_nil⟩
    rw [bare path root] at found
    cases found
  | outside world objects _ uploaded ih => exact ⟨uploaded, ih.uploaded⟩
  | round world world' config round_end computed_at computed_at_us outcome _ run ih => exact ih.round run

/-! ### Pairs of a round -/

/-- A pair read from a truth file and a sweep file of recorded measurements of one part. -/
def Assembled (codec : Codec B) (log : List (Event B)) (part_ulid : String) (truth sweep : B) (part : IntermediatePart) :
    Prop :=
  ∃ first config second config' other_sweep other_truth, Recorded codec log part_ulid config first ∧
    Recorded codec log part_ulid config' second ∧
    encode_intermediate_pair codec first.metadata first.truth_rows first.sweep_rows = .ok (truth, other_sweep) ∧
    encode_intermediate_pair codec second.metadata second.truth_rows second.sweep_rows = .ok (other_truth, sweep) ∧
    read_intermediate_pair_bytes codec truth sweep = .ok part

theorem Assembled.mono {log later : List (Event B)} {part_ulid : String} {truth sweep : B} {part : IntermediatePart}
    (assembled : Assembled codec log part_ulid truth sweep part) (extends' : log <+: later) :
    Assembled codec later part_ulid truth sweep part := by
  obtain ⟨first, config, second, config', other_sweep, other_truth, left, right, rest⟩ := assembled
  exact ⟨first, config, second, config', other_sweep, other_truth, left.mono extends', right.mono extends', rest⟩

private theorem recorded_canonical {log : List (Event B)} {part_ulid : String} {measured : MeasuredPart}
    (recorded : Recorded codec log part_ulid config measured) : ∃ part : Ulid, part_ulid = part.to_string := by
  obtain ⟨_, _, named, _⟩ := recorded
  exact source_part_ulid_canonical named

/-- A stored pair of a source consists of a truth file and a sweep file of its part. -/
theorem reusable_assembled (genuine : AllGenuine codec world) {source : SourcePart} {part : IntermediatePart}
    (named : source_part_ulid source.path = some (ulid_of source))
    (reusable : Reusable codec config world.objects source part) :
    ∃ truth sweep, Assembled codec world.log (ulid_of source) truth sweep part := by
  obtain ⟨paths, truth, sweep, formatted, truthFound, sweepFound, read, _⟩ := reusable
  obtain ⟨own, ownSame⟩ := source_part_ulid_canonical named
  obtain ⟨truthRoot, sweepRoot⟩ := intermediate_paths_root formatted
  change intermediate_paths config.cohort source.listed.window_start (ulid_of source) = .ok paths at formatted
  rw [ownSame] at formatted ⊢
  obtain ⟨ulid, start, config', first, paths', truth', sweep', recorded, formatted', encoded, either⟩ :=
    genuine.found truthRoot truthFound
  obtain ⟨other, rfl⟩ := recorded_canonical recorded
  obtain ⟨ulid, start, config'', second, paths'', truth'', sweep'', recorded', formatted'', encoded', either'⟩ :=
    genuine.found sweepRoot sweepFound
  obtain ⟨another, rfl⟩ := recorded_canonical recorded'
  rcases either with ⟨here, rfl⟩ | ⟨here, _⟩
  swap
  · exact absurd here (pair_paths_disjoint formatted formatted').1
  rcases either' with ⟨there, _⟩ | ⟨there, rfl⟩
  · exact absurd there.symm (pair_paths_disjoint formatted'' formatted).1
  obtain rfl := (pair_paths_disjoint formatted formatted').2.1 here
  obtain rfl := (pair_paths_disjoint formatted formatted'').2.2 there
  exact ⟨truth, sweep, first, config', second, config'', sweep', truth'', recorded, recorded', encoded, encoded', read⟩

theorem fresh_assembled {source : SourcePart} {part : IntermediatePart}
    (named : source_part_ulid source.path = some (ulid_of source))
    (fresh : Fresh codec config computed_at_us world middle source part) :
    ∃ truth sweep, Assembled codec middle.log (ulid_of source) truth sweep part := by
  obtain ⟨before, after, measured, truth, sweep, kept, run, inside, encoded, read⟩ := fresh
  obtain ⟨body, prepared, block, _, checked, inner, logged, _⟩ := runs_measure_source run
  have fetched : .got source.path (.found body) ∈ middle.log := inside.subset (by simp [logged])
  have recorded : Recorded codec middle.log (ulid_of source) config measured :=
    ⟨source, computed_at_us, named, rfl, body, prepared, _, after, fetched, checked, inner, inside⟩
  exact ⟨truth, sweep, measured, config, measured, config, sweep, truth, recorded, recorded, encoded, encoded, read⟩

theorem pair_assembled (genuine : AllGenuine codec world) (gathered : Gathered world middle) {source : SourcePart}
    {part : IntermediatePart} (named : source_part_ulid source.path = some (ulid_of source))
    (pair : Pair codec config computed_at_us world middle source part) :
    ∃ truth sweep, Assembled codec middle.log (ulid_of source) truth sweep part := by
  rcases pair with reusable | fresh
  · obtain ⟨truth, sweep, assembled⟩ := reusable_assembled genuine named reusable
    obtain ⟨block, logged, _⟩ := gathered.log
    exact ⟨truth, sweep, assembled.mono ⟨block, logged.symm⟩⟩
  · exact fresh_assembled named fresh

end VectorSeam.Origins
