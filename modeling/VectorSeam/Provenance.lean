import VectorSeam.Publishing

/-!
Where effective recommendations come from, over whole histories of rounds. Between
rounds anything may happen to the store outside the calibrations; within a round
requests fail, and the round stops, at any point. Every record that is put then
carries a block that an approved record, stored earlier under the same settings,
has produced, or produced it itself.
-/

namespace VectorSeam.Provenance
open VectorSeam.Model VectorSeam.ObjectStore VectorSeam.Aggregate VectorSeam.Intermediate VectorSeam.Effects
open VectorSeam.Programs VectorSeam.Pipeline VectorSeam.Requests VectorSeam.Publishing VectorSeam.Records
open VectorSeam.Histories

variable {B : Type}

/-- Worlds that rounds of one cohort reach from a store without calibrations. -/
inductive Reachable (codec : Codec B) (beta_reg : Float → Float → Float → Float) (cohort : String) : World B → Prop where
  | empty (objects : Objects B) (bare : ∀ path, path.root = some "calibrations" → lookup objects path = none) :
      Reachable codec beta_reg cohort ⟨objects, []⟩
  /-- Anyone may change the other objects between two rounds. -/
  | outside (world : World B) (objects : Objects B) (earlier : Reachable codec beta_reg cohort world)
      (kept : ∀ path, path.root = some "calibrations" → lookup objects path = lookup world.objects path) :
      Reachable codec beta_reg cohort ⟨objects, world.log⟩
  /-- One round, run to its end or stopped at any request. -/
  | round (world world' : World B) (config : AggregationConfig) (round_end : Nat) (computed_at : String)
      (computed_at_us : Nat) (outcome : Outcome PipelineError CohortRoundOutcome)
      (earlier : Reachable codec beta_reg cohort world) (same : config.cohort = cohort)
      (run : Runs answer (run_cohort_round codec beta_reg config round_end computed_at computed_at_us) world outcome
        world') : Reachable codec beta_reg cohort world'

/-- An upload of the record that took place. -/
def Stored (codec : Codec B) (log : List (Event B)) (output : RoundOutput) : Prop :=
  ∃ path body reply, .uploaded path body reply true ∈ log ∧ path.root = some "calibrations" ∧
    codec.to_vec output = .ok body

/-- The block in a record, put after `before`, has the value and confidence the record's own settings ask for, and
    comes from the record itself or from a stored approved record of the same settings. -/
structure Traced (codec : Codec B) (before : List (Event B)) (output : RoundOutput)
    (effective : EffectiveRecommendation) : Prop where
  in_grid : effective.recommended_ef ∈ output.ef_grid
  confident : output.target.approval_confidence ≤ effective.confidence
  origin : (Approved output ∧ Produces output effective) ∨ ∃ source, Stored codec before source ∧ Approved source ∧
    Produces source effective ∧ SameFingerprint source output
  fresh_iff : effective.carried = false ↔ Approved output ∧ Produces output effective

theorem Traced.mono {codec : Codec B} {before later : List (Event B)} {output : RoundOutput}
    {effective : EffectiveRecommendation} (traced : Traced codec before output effective)
    (extends' : ∀ event ∈ before, event ∈ later) : Traced codec later output effective := by
  refine ⟨traced.in_grid, traced.confident, traced.origin.imp id ?_, traced.fresh_iff⟩
  rintro ⟨source, ⟨path, body, reply, member, root, serialised⟩, approved, produces, same⟩
  exact ⟨source, ⟨path, body, reply, extends' _ member, root, serialised⟩, approved, produces, same⟩

/-! ### Accounts of the calibrations -/

/-- Every calibration that is put is a record that the requests before it vouch for. -/
def Provenant (codec : Codec B) (vouched : List (Event B) → RoundOutput → Prop) (before : List (Event B)) : Event B → Prop
  | .uploaded path body _ _ => path.root = some "calibrations" → ∃ output, codec.to_vec output = .ok body ∧ vouched before output
  | _ => True

/-- The invariant: every put so far was provenant, and every calibration in the store was put. -/
structure Accounted (codec : Codec B) (vouched : List (Event B) → RoundOutput → Prop) (world : World B) : Prop where
  always : Always (Provenant codec vouched) world.log
  stored : ∀ path body, path.root = some "calibrations" → lookup world.objects path = some body →
    ∃ reply, .uploaded path body reply true ∈ world.log

variable {codec : Codec B} {beta_reg : Float → Float → Float → Float} {vouched : List (Event B) → RoundOutput → Prop}
  {cohort : String} {world world' : World B}

/-- What later requests do not revoke. -/
def Lasting (vouched : List (Event B) → RoundOutput → Prop) : Prop :=
  ∀ {before later output}, (∀ event ∈ before, event ∈ later) → vouched before output → vouched later output

/-- What the calibrations so far vouch for in the record of every round of the cohort. -/
structure Voucher (codec : Codec B) (beta_reg : Float → Float → Float → Float) (cohort : String)
    (vouched : List (Event B) → RoundOutput → Prop) : Prop where
  lasts : Lasting vouched
  prepared : ∀ {world : World B} {ending paths reply output body}, ending.config.cohort = cohort →
    Accounted codec vouched world → Prepared codec beta_reg ending world paths reply output body → vouched world.log output

/-- A stored calibration is a record that is vouched for. -/
theorem Accounted.record (accounted : Accounted codec vouched world) (lasts : Lasting vouched) {path : Path} {body : B}
    (root : path.root = some "calibrations") (found : lookup world.objects path = some body) :
    ∃ output, codec.to_vec output = .ok body ∧ Stored codec world.log output ∧ vouched world.log output := by
  obtain ⟨reply, member⟩ := accounted.stored path body root found
  obtain ⟨before, after, split⟩ := List.append_of_mem member
  obtain ⟨output, serialised, holds⟩ := accounted.always before _ after split root
  refine ⟨output, serialised, ⟨path, body, reply, member, root, serialised⟩, lasts (fun event earlier => ?_) holds⟩
  rw [split]
  exact List.mem_append_left _ earlier

/-- Requests that put no calibrations keep the invariant. -/
theorem Accounted.gathers {ε α : Type} {program : Program B ε α} {outcome : Outcome ε α}
    (accounted : Accounted codec vouched world) (performs : Performs Gathers program)
    (run : Runs answer program world outcome world') : Accounted codec vouched world' := by
  obtain ⟨block, logged, all⟩ := performs_log performs run
  have quiet : ∀ event ∈ block, ∀ before, world.log <+: before → Provenant codec vouched before event := by
    intro event member before _
    have permitted := all event member
    cases event with
    | uploaded path body reply stored => exact fun calibration => absurd calibration (not_calibration permitted)
    | listed lead reply => trivial
    | got path reply => trivial
    | measured vector config reply => trivial
    | polled cancelled => trivial
  refine ⟨logged ▸ accounted.always.append quiet, fun path body root found => ?_⟩
  have elsewhere : ∀ (other : Path) (bytes : B), Gathers (.put other bytes) → other ≠ path := by
    rintro other bytes permitted rfl
    exact not_calibration permitted root
  rw [performs_objects performs elsewhere run] at found
  obtain ⟨reply, member⟩ := accounted.stored path body root found
  exact ⟨reply, by rw [logged]; exact List.mem_append_left _ member⟩

theorem Accounted.upload (accounted : Accounted codec vouched world) {path : Path} {body : B} {reply : Except String Unit}
    {stored : Bool} {output : RoundOutput} (serialised : codec.to_vec output = .ok body) (holds : vouched world.log output) :
    Accounted codec vouched (world.upload path body reply stored) := by
  refine ⟨always_snoc.mpr ⟨accounted.always, fun _ => ⟨output, serialised, holds⟩⟩, fun other bytes root found => ?_⟩
  cases stored with
  | false =>
    obtain ⟨answered, member⟩ := accounted.stored other bytes root found
    exact ⟨answered, List.mem_append_left _ member⟩
  | true =>
    simp only [World.upload, ↓reduceIte, lookup_store] at found
    by_cases same : path = other
    · rw [if_pos same] at found
      obtain rfl := Option.some.inj found
      exact ⟨reply, by simp [World.upload, same]⟩
    · rw [if_neg same] at found
      obtain ⟨answered, member⟩ := accounted.stored other bytes root found
      exact ⟨answered, List.mem_append_left _ member⟩

theorem Accounted.fetched (accounted : Accounted codec vouched world) (latest : Path) (reply : GetReply B) :
    Accounted codec vouched (fetched world latest reply) :=
  ⟨always_snoc.mpr ⟨always_snoc.mpr ⟨accounted.always, trivial⟩, trivial⟩, fun path body root found =>
    let ⟨answered, member⟩ := accounted.stored path body root found
    ⟨answered, List.mem_append_left _ (List.mem_append_left _ member)⟩⟩

theorem Accounted.put_round (accounted : Accounted codec vouched world) (voucher : Voucher codec beta_reg cohort vouched)
    {paths : Path × Path} {body : B} {output : RoundOutput} {outcome : Outcome PipelineError CohortRoundOutcome}
    (serialised : codec.to_vec output = .ok body) (holds : vouched world.log output)
    (run : Runs answer (put_round paths body output) world outcome world') : Accounted codec vouched world' := by
  have again : vouched (world.upload paths.1 body (.ok ()) true).log output :=
    voucher.lasts (fun event earlier => List.mem_append_left _ earlier) holds
  rcases runs_put_round.mp run with ⟨_, rfl⟩ | ⟨message, stored, _, rfl⟩ | ⟨_, rfl⟩ | ⟨message, stored, _, rfl⟩ | ⟨_, rfl⟩
  · exact accounted
  · exact accounted.upload serialised holds
  · exact accounted.upload serialised holds
  · exact (accounted.upload serialised holds).upload serialised again
  · exact (accounted.upload serialised holds).upload serialised again

theorem Accounted.withheld {outcome : Outcome PipelineError CohortRoundOutcome} (accounted : Accounted codec vouched world)
    (withheld : Withheld world world' outcome) : Accounted codec vouched world' := by
  obtain ⟨block, logged, all⟩ := withheld.log
  refine ⟨logged ▸ accounted.always.append fun event member before _ => ?_, fun path body root found => ?_⟩
  · cases event with
    | uploaded path body reply stored => exact absurd (all _ member) (by simp [request, Reads, Measures])
    | listed lead reply => trivial
    | got path reply => trivial
    | measured vector config reply => trivial
    | polled cancelled => trivial
  · rw [withheld.objects] at found
    obtain ⟨reply, member⟩ := accounted.stored path body root found
    exact ⟨reply, by rw [logged]; exact List.mem_append_left _ member⟩

/-- The end of a round of the cohort keeps the invariant. -/
theorem Accounted.finish (accounted : Accounted codec vouched world) (voucher : Voucher codec beta_reg cohort vouched)
    {ending : Ending} (own : ending.config.cohort = cohort) {outcome : Outcome PipelineError CohortRoundOutcome}
    (run : Runs answer (ending.program codec beta_reg) world outcome world') : Accounted codec vouched world' := by
  rcases runs_finish run with withheld | ⟨paths, reply, output, body, prepared, puts⟩
  · exact accounted.withheld withheld
  · refine (accounted.fetched paths.2 reply).put_round voucher prepared.serialised ?_ puts
    exact voucher.lasts (fun event earlier => List.mem_append_left _ (List.mem_append_left _ earlier))
      (voucher.prepared own accounted prepared)

/-- One round of the cohort, however it ends, keeps the invariant. -/
theorem Accounted.round (accounted : Accounted codec vouched world) (voucher : Voucher codec beta_reg cohort vouched)
    {config : AggregationConfig} (own : config.cohort = cohort) {round_end computed_at_us : Nat} {computed_at : String}
    {outcome : Outcome PipelineError CohortRoundOutcome}
    (run : Runs answer (run_cohort_round codec beta_reg config round_end computed_at computed_at_us) world outcome
      world') : Accounted codec vouched world' := by
  have reads : Performs Gathers (survey_store codec config round_end) :=
    (survey_store_reads codec config round_end).mono fun effect reads => by cases effect <;> trivial
  rcases runs_bind.mp run with ⟨⟨sources, classified⟩, middle, surveyed, rest⟩ | ⟨_, failed, _⟩ | ⟨stopped, _⟩
  · have gathered := accounted.gathers reads surveyed
    have gathers : Performs Gathers (measure_pending codec config computed_at_us classified.pending classified.compatible) :=
      measure_pending_gathers config computed_at_us classified.pending classified.compatible
    rcases runs_bind.mp rest with ⟨pending, last, measured, rest⟩ | ⟨_, failed, _⟩ | ⟨stopped, _⟩
    · have measuredAll := gathered.gathers gathers measured
      cases pending with
      | Cancelled => obtain ⟨_, rfl⟩ := runs_pure.mp rest; exact measuredAll
      | Measured compatible phase_a_abort =>
        let ending : Ending := ⟨config, round_end, computed_at, sources, classified.phase_a_incompatible_parts, compatible,
          phase_a_abort⟩
        exact measuredAll.finish voucher own (show Runs answer (ending.program codec beta_reg) last outcome world' from rest)
    · exact gathered.gathers gathers failed
    · exact gathered.gathers gathers stopped
  · exact accounted.gathers reads failed
  · exact accounted.gathers reads stopped

theorem Reachable.accounted (voucher : Voucher codec beta_reg cohort vouched)
    (reachable : Reachable codec beta_reg cohort world) : Accounted codec vouched world := by
  induction reachable with
  | empty objects bare =>
    refine ⟨always_nil, fun path body root found => ?_⟩
    change lookup objects path = some body at found
    rw [bare path root] at found
    cases found
  | outside world objects _ kept ih =>
    refine ⟨ih.always, fun path body root found => ih.stored path body root ?_⟩
    change lookup objects path = some body at found
    rwa [kept path root] at found
  | round world world' config round_end computed_at computed_at_us outcome _ own run ih => exact ih.round voucher own run

/-! ### Traces of the effective blocks -/

/-- The effective block of the record is traced. -/
def BlockTraced (codec : Codec B) (before : List (Event B)) (output : RoundOutput) : Prop :=
  ∀ effective, output.effective = some effective → Traced codec before output effective

theorem blockTraced_lasts : Lasting (BlockTraced codec) :=
  fun extends' traced effective block => (traced effective block).mono extends'

/-- A round's own record is traced by the calibrations before it. -/
theorem traced_voucher (laws : CodecLaws codec) : Voucher codec beta_reg cohort (BlockTraced codec) where
  lasts := blockTraced_lasts
  prepared := by
    intro world ending paths reply output body _ accounted prepared effective block
    obtain ⟨previous_round, read, aggregated⟩ := prepared.aggregated
    have recorded := aggregate_recorded aggregated
    rcases recorded.effective with ⟨approved, fresh, found, carried, in_grid, confident, produces⟩ | ⟨rejected, found⟩
    · obtain rfl := Option.some.inj (block.symm.trans found)
      exact ⟨in_grid, confident, .inl ⟨approved, produces⟩, iff_of_true carried ⟨approved, produces⟩⟩
    · rw [block, eq_comm, Option.map_eq_some_iff] at found
      obtain ⟨earlier, carried, rfl⟩ := found
      rw [previous_effective, Option.bind_eq_some_iff] at carried
      obtain ⟨round, accepted, earlierBlock⟩ := carried
      obtain ⟨previous, fingerprint⟩ := Option.filter_eq_some_iff.mp accepted
      change previous_round = some round at previous
      subst previous
      -- The previous record was parsed from the stored latest one, which is traced itself.
      obtain ⟨stored, rfl, parsed⟩ := previous_of_some read
      obtain ⟨source, serialised, storedSource, traced⟩ :=
        accounted.record blockTraced_lasts (round_paths_root prepared.named).2 prepared.readable
      obtain rfl : source = round := Except.ok.inj ((laws.json serialised).symm.trans parsed)
      have before := traced earlier earlierBlock
      have same := recorded.same_fingerprint fingerprint
      refine ⟨same.ef_grid ▸ before.in_grid, same.approval_confidence ▸ before.confident, .inr ?_,
        iff_of_false (by simp) fun produced => rejected produced.1⟩
      rcases before.origin with ⟨approved, produces⟩ | ⟨first, storedFirst, approved, produces, sameFirst⟩
      · exact ⟨source, storedSource, approved, produces, same⟩
      · exact ⟨first, storedFirst, approved, produces, sameFirst.trans same⟩

/-- Over every history of rounds, each calibration that is put is a record whose effective block has its origin in
    an approved record of the same settings, stored before it or being the record itself. -/
theorem effective_recommendations_traced (laws : CodecLaws codec) {cohort : String}
    (reachable : Reachable codec beta_reg cohort world) {before after : List (Event B)} {path : Path} {body : B}
    {reply : Except String Unit} {stored : Bool} (put : world.log = before ++ .uploaded path body reply stored :: after)
    (calibration : path.root = some "calibrations") :
    ∃ output, codec.to_vec output = .ok body ∧
      ∀ effective, output.effective = some effective → Traced codec before output effective :=
  (reachable.accounted (traced_voucher laws)).always before _ after put calibration

/-! ### The small store -/

def uploaded_records (log : List (Event Body)) : List (Path × Option EffectiveRecommendation) :=
  log.filterMap fun
    | .uploaded path (.round output) _ _ => some (path, output.effective)
    | _ => none

theorem mem_uploaded_records {log : List (Event Body)} {path : Path} {effective : Option EffectiveRecommendation}
    (member : (path, effective) ∈ uploaded_records log) :
    ∃ output reply stored, .uploaded path (.round output) reply stored ∈ log ∧ output.effective = effective := by
  obtain ⟨event, present, found⟩ := List.mem_filterMap.mp member
  split at found
  · rename_i output reply stored
    obtain ⟨rfl, rfl⟩ := Prod.mk.inj (Option.some.inj found)
    exact ⟨output, reply, stored, present, rfl⟩
  · cases found

theorem smallFirst_reachable : Reachable smallCodec smallBeta "prod" smallFirst.2 :=
  .round smallStore _ smallConfig 120 _ 1 _ (.empty _ fun path root => by
    rw [lookup, if_neg]
    · rfl
    · rintro rfl
      exact absurd root (by decide)) rfl (smallRound_runs smallFirst_published)

theorem small_recommendation_traced : ∃ before output reply stored after,
    smallFirst.2.log = before ++ .uploaded smallLatest (.round output) reply stored :: after ∧
      Traced smallCodec before output ⟨1, 0.75, "1970-01-01T00:02:00Z", false⟩ := by
  have put : (smallLatest, some ⟨1, 0.75, "1970-01-01T00:02:00Z", false⟩) ∈ uploaded_records smallFirst.2.log := by
    decide +kernel
  obtain ⟨output, reply, stored, member, effective⟩ := mem_uploaded_records put
  obtain ⟨before, after, split⟩ := List.append_of_mem member
  obtain ⟨record, serialised, traced⟩ :=
    effective_recommendations_traced smallCodec_laws smallFirst_reachable split (by decide)
  obtain rfl : record = output := Body.round.inj (Except.ok.inj serialised)
  exact ⟨before, record, reply, stored, after, split, traced _ effective⟩

end VectorSeam.Provenance
