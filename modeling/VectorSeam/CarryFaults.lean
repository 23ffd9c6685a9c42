import VectorSeam.Publishing

/-!
Storage faults while the previous round is fetched. A failing GET aborts the round; a
failing body is taken for an absent record, so the round is published over it and the
block that clients apply is lost. The results below are exact about which is which.
-/

namespace VectorSeam.CarryFaults
open VectorSeam.Model VectorSeam.ObjectStore VectorSeam.Aggregate VectorSeam.Intermediate VectorSeam.Effects
open VectorSeam.Programs VectorSeam.Pipeline VectorSeam.Requests VectorSeam.Publishing VectorSeam.Records

variable {B : Type}

/-- The answers that are storage failures: the GET itself, or the body of a found object. -/
def Faulty : GetReply B → Prop
  | .failed _ => True
  | .body_failed _ => True
  | _ => False

/-- A record can be published over an absent previous round. -/
def Publishable (codec : Codec B) (beta_reg : Float → Float → Float → Float) (ending : Ending) : Prop :=
  ∃ output body, aggregate beta_reg (ending.input none) = .ok output ∧ codec.to_vec output = .ok body

/-- However a round goes on from the answer to its fetch of the latest record, it publishes nothing. -/
def Aborts (codec : Codec B) (beta_reg : Float → Float → Float → Float) (ending : Ending) (world : World B)
    (latest : Path) (reply : GetReply B) : Prop :=
  ∀ outcome world' block, Runs answer (ending.program codec beta_reg) world outcome world' →
    world'.log = world.log ++ block → .got latest reply ∈ block →
      (∀ output, outcome ≠ .returned (.Published output)) ∧ world'.objects = world.objects

/-- Why a record that found no storage fault has no effective block. -/
def NothingToCarry (codec : Codec B) (config : AggregationConfig) : GetReply B → Prop
  | .not_found => True
  | .found body => (∃ message, codec.from_slice body = .error message) ∨ ∃ round, codec.from_slice body = .ok round ∧
      (round.effective = none ∨ carry_fingerprint_matches config round = false)
  | _ => False

theorem effective_none {beta_reg : Float → Float → Float → Float} {input : AggregationInput} {output : RoundOutput}
    (published : aggregate beta_reg input = .ok output) (erased : output.effective = none) {round : RoundOutput}
    (previous : input.previous_round = some round) :
    round.effective = none ∨ carry_fingerprint_matches input.config round = false := by
  rcases (aggregate_recorded published).effective with ⟨_, effective, found, _⟩ | ⟨_, carried⟩
  · rw [erased] at found
    cases found
  · rw [erased, eq_comm, Option.map_eq_none_iff] at carried
    by_cases accepted : carry_fingerprint_matches input.config round = true
    · rw [previous_effective, previous, Option.filter_some, if_pos accepted] at carried
      exact .inl carried
    · exact .inr (Bool.not_eq_true _ ▸ accepted)

/-- A published round ends with its fetch of the latest record, which did not fail, and its two uploads. -/
theorem published_fetch {codec : Codec B} {beta_reg : Float → Float → Float → Float} {config : AggregationConfig}
    {round_end computed_at_us : Nat} {computed_at : String} {world world' : World B} {output : RoundOutput}
    (run : Runs answer (run_cohort_round codec beta_reg config round_end computed_at computed_at_us) world
      (.returned (.Published output)) world') :
    ∃ front paths reply body, round_paths config.cohort round_end = .ok paths ∧
      world'.log = front ++ [.got paths.2 reply, .uploaded paths.1 body (.ok ()) true, .uploaded paths.2 body (.ok ()) true] ∧
      (∀ message, reply ≠ .failed message) ∧
      ((output.effective = none → NothingToCarry codec config reply) ↔
        (∀ message, reply ≠ .body_failed message) ∨ output.effective ≠ none) := by
  obtain ⟨⟨sources, classified⟩, surveyed, _, rest⟩ := runs_bind_returned.mp run
  obtain ⟨pending, measured, _, rest⟩ := runs_bind_returned.mp rest
  cases pending with
  | Cancelled => obtain ⟨same, _⟩ := runs_pure.mp rest; cases same
  | Measured compatible phase_a_abort =>
    let ending : Ending := ⟨config, round_end, computed_at, sources, classified.phase_a_incompatible_parts, compatible,
      phase_a_abort⟩
    change Runs answer (ending.program codec beta_reg) measured _ world' at rest
    rcases runs_finish rest with withheld | ⟨paths, reply, record, body, prepared, puts⟩
    · exact absurd rfl (withheld.unpublished output)
    rcases runs_put_round.mp puts with ⟨same, _⟩ | ⟨_, _, same, _⟩ | ⟨same, _⟩ | ⟨_, _, same, _⟩ | ⟨same, rfl⟩ <;> cases same
    obtain ⟨previous_round, read, aggregated⟩ := prepared.aggregated
    refine ⟨measured.log ++ [.polled false], paths, reply, body, prepared.named, by simp [fetched, World.record, World.upload],
      ?_, ?_⟩
    · rintro message rfl
      cases read
    · by_cases erased : output.effective = none
      swap
      · exact ⟨fun _ => .inr erased, fun _ none => absurd none erased⟩
      cases reply with
      | failed message => cases read
      | body_failed message => exact ⟨fun carry => absurd (carry erased) id, by simp [erased]⟩
      | not_found => exact ⟨fun _ => .inl (by simp), fun _ _ => trivial⟩
      | found stored =>
        refine ⟨fun _ => .inl (by simp), fun _ _ => ?_⟩
        cases parsed : codec.from_slice stored with
        | error message => exact .inl ⟨message, parsed⟩
        | ok round =>
          simp only [previous_of, parsed, Except.ok.injEq] at read
          subst read
          exact .inr ⟨round, parsed, effective_none aggregated erased rfl⟩

/-- A faulty fetch aborts every continuation of the round exactly when the body is not what failed, or there is
    no record to publish. -/
theorem aborts_iff {codec : Codec B} {beta_reg : Float → Float → Float → Float} {ending : Ending} {world : World B}
    {paths : Path × Path} {reply : GetReply B}
    (named : round_paths ending.config.cohort ending.round_end = .ok paths) (readable : Readable world.objects paths.2 reply)
    (fault : Faulty reply) :
    Aborts codec beta_reg ending world paths.2 reply ↔
      (∀ message, reply ≠ .body_failed message) ∨ ¬Publishable codec beta_reg ending := by
  constructor
  · intro aborts
    by_cases body_failed : ∃ message, reply = .body_failed message
    · obtain ⟨message, rfl⟩ := body_failed
      refine .inr ?_
      rintro ⟨output, body, aggregated, serialised⟩
      have prepared : Prepared codec beta_reg ending world paths (.body_failed message) output body :=
        ⟨named, readable, ⟨none, rfl, aggregated⟩, serialised⟩
      have run := prepared.runs (runs_put_round.mpr (.inr (.inr (.inr (.inr ⟨rfl, rfl⟩)))))
      exact (aborts _ _ [.polled false, .got paths.2 (.body_failed message), .uploaded paths.1 body (.ok ()) true,
        .uploaded paths.2 body (.ok ()) true] run (by simp [fetched, World.record, World.upload]) (by simp)).1 output rfl
    · exact .inl fun message same => body_failed ⟨message, same⟩
  · intro condition outcome world' block run logged asked
    rcases runs_finish run with withheld | ⟨found, answered, output, body, prepared, puts⟩
    · exact ⟨withheld.unpublished, withheld.objects⟩
    obtain rfl := Except.ok.inj (named.symm.trans prepared.named)
    obtain ⟨uploads, appended, all⟩ := performs_log (put_round_performs paths body output) puts
    have shape : block = .polled false :: .got paths.2 answered :: uploads := by
      rw [logged] at appended
      simpa [fetched, World.record] using appended
    have same : reply = answered := by
      rw [shape] at asked
      rcases List.mem_cons.mp asked with wrong | asked
      · cases wrong
      rcases List.mem_cons.mp asked with same | later
      · exact (Event.got.inj same).2
      · obtain ⟨path, wrong, _⟩ := all _ later
        cases wrong
    subst same
    obtain ⟨previous_round, read, aggregated⟩ := prepared.aggregated
    cases reply with
    | found stored => cases fault
    | not_found => cases fault
    | failed message => cases read
    | body_failed message =>
      obtain rfl := Except.ok.inj read
      rcases condition with intact | unpublishable
      · exact absurd rfl (intact message)
      · exact absurd ⟨output, body, aggregated, prepared.serialised⟩ unpublishable

/-- A published round fetched the latest record without a failing GET, and, unless its body failed, has an empty
    effective block only where there was nothing to carry. A faulty fetch aborts exactly when the body is not what
    failed, or there is no record to publish. -/
theorem latest_fault_aborts_iff (codec : Codec B) (beta_reg : Float → Float → Float → Float) :
    (∀ config round_end computed_at computed_at_us world world' output,
      Runs answer (run_cohort_round codec beta_reg config round_end computed_at computed_at_us) world
        (.returned (.Published output)) world' →
      ∃ front paths reply body, round_paths config.cohort round_end = .ok paths ∧
        world'.log = front ++
          [.got paths.2 reply, .uploaded paths.1 body (.ok ()) true, .uploaded paths.2 body (.ok ()) true] ∧
        (∀ message, reply ≠ .failed message) ∧
        ((output.effective = none → NothingToCarry codec config reply) ↔
          (∀ message, reply ≠ .body_failed message) ∨ output.effective ≠ none)) ∧
    (∀ ending world paths reply, round_paths ending.config.cohort ending.round_end = .ok paths →
      Readable world.objects paths.2 reply → Faulty reply →
        (Aborts codec beta_reg ending world paths.2 reply ↔
          (∀ message, reply ≠ .body_failed message) ∨ ¬Publishable codec beta_reg ending)) :=
  ⟨fun _ _ _ _ _ _ _ run => published_fetch run, fun _ _ _ _ named readable fault => aborts_iff named readable fault⟩

/-! ### A round over an unreadable latest record -/

def body_failures (log : List (Event B)) : List (Path × String) :=
  log.filterMap fun
    | .got path (.body_failed message) => some (path, message)
    | _ => none

theorem mem_body_failures {log : List (Event B)} {path : Path} {message : String}
    (member : (path, message) ∈ body_failures log) : .got path (.body_failed message) ∈ log := by
  obtain ⟨event, present, found⟩ := List.mem_filterMap.mp member
  split at found
  · obtain ⟨rfl, rfl⟩ := Prod.mk.inj (Option.some.inj found)
    exact present
  · cases found

/-- The store after the first small round, whose segments have left the window. -/
def smallLater : World Body := ⟨[(smallLatest, .round smallOutput)], []⟩
/-- The next round over that store, with the given answer to the fetch of the latest record. -/
def smallNext (fetch : Fetch) : Outcome PipelineError CohortRoundOutcome × World Body :=
  smallRound 180 2 smallLater
    [smallChoice, smallChoice, smallChoice, { smallChoice with fetch }, smallChoice, smallChoice]

/-- The next round after the first small one, with its previous round still to be read. -/
def smallEnding : Ending := ⟨smallConfig, 180, "1970-01-01T00:02:05Z", [], 0, ∅, none⟩

theorem small_fetch_aborts :
    (∃ (output : RoundOutput) (front : List (Event Body)) (paths : Path × Path) (reply : GetReply Body) (body : Body),
      round_paths smallConfig.cohort 180 = .ok paths ∧
      (smallNext .intact).2.log = front ++
        [.got paths.2 reply, .uploaded paths.1 body (.ok ()) true, .uploaded paths.2 body (.ok ()) true] ∧
      (∀ message, reply ≠ .failed message) ∧
      ((output.effective = none → NothingToCarry smallCodec smallConfig reply) ↔
        (∀ message, reply ≠ .body_failed message) ∨ output.effective ≠ none)) ∧
    (Aborts smallCodec smallBeta smallEnding smallLater smallLatest (.failed "timeout") ↔
      (∀ message, (.failed "timeout" : GetReply Body) ≠ .body_failed message) ∨
        ¬Publishable smallCodec smallBeta smallEnding) := by
  have decided := latest_fault_aborts_iff smallCodec smallBeta
  have published : (published_record (smallNext .intact).1).isSome := by decide +kernel
  obtain ⟨output, found⟩ := Option.isSome_iff_exists.mp published
  have paths : round_paths smallEnding.config.cohort smallEnding.round_end =
      .ok (Path.from_text "calibrations/prod/round-19700101T0003Z.json", smallLatest) := by decide +kernel
  exact ⟨⟨output, decided.1 _ _ _ _ _ _ _ (smallRound_runs found)⟩,
    decided.2 smallEnding smallLater _ (.failed "timeout") paths trivial trivial⟩

/-- The latest record holds an effective block for the same config; its body fails, and it is overwritten by a
    record without one. -/
theorem unreadable_latest_erased : ∃ world' output,
    Runs answer (run_cohort_round smallCodec smallBeta smallConfig 180 "1970-01-01T00:02:05Z" 2) smallLater
      (.returned (.Published output)) world' ∧
    .got smallLatest (.body_failed "connection reset") ∈ world'.log ∧
    lookup smallLater.objects smallLatest = some (.round smallOutput) ∧
    smallCodec.from_slice (.round smallOutput) = .ok smallOutput ∧ smallOutput.effective ≠ none ∧
    carry_fingerprint_matches smallConfig smallOutput = true ∧ output.effective = none := by
  have published : ((published_record (smallNext (.body_failed "connection reset")).1).map (·.effective)) = some none := by
    decide +kernel
  obtain ⟨output, found, erased⟩ := Option.map_eq_some_iff.mp published
  have failed : (smallLatest, "connection reset") ∈ body_failures (smallNext (.body_failed "connection reset")).2.log := by
    decide +kernel
  exact ⟨(smallNext (.body_failed "connection reset")).2, output, smallRound_runs found, mem_body_failures failed, rfl, rfl,
    by decide, by decide +kernel, erased⟩

end VectorSeam.CarryFaults
