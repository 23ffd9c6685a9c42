import VectorSeam.Serial
import VectorSeam.Rereadings

/-!
Tuner daemons that follow each other over one store, each with a configuration of its own and
stopped wherever it may be. What a daemon does to the store are rounds of the tuner, and what
the collectors add in between; the portion of each cohort is therefore that of a history of
its own rounds, and every record in it is accounted for.
-/

namespace VectorSeam.Generations
open VectorSeam.Model VectorSeam.Cohort VectorSeam.ObjectStore VectorSeam.Aggregate VectorSeam.Effects VectorSeam.Programs
open VectorSeam.Durations VectorSeam.Configuration VectorSeam.Intermediate VectorSeam.Pipeline VectorSeam.Records
open VectorSeam.Provenance VectorSeam.Rereadings VectorSeam.Handlers VectorSeam.Connections VectorSeam.Tuner VectorSeam.Lines VectorSeam.Losses
open VectorSeam.Isolation VectorSeam.Portions VectorSeam.Calibrations VectorSeam.Serial

variable {B : Type}

/-! ### The life of a daemon -/

/-- The stores that a daemon leaves on its way: rounds of the tuner, between which the collectors add objects. -/
inductive Life (codec : Codec B) (beta_reg : Float → Float → Float → Float) (config : Config) (start : Objects B) :
    Objects B → Prop where
  | begun : Life codec beta_reg config start start
  | collected {objects} (earlier : Life codec beta_reg config start objects) (entries : List (Path × B)) :
      Life codec beta_reg config start (collect objects entries)
  | round {objects objects' since_epoch timestamps result} (earlier : Life codec beta_reg config start objects)
      (timed : round_timestamps since_epoch config.storage.window_seconds = .ok timestamps)
      (rounds : Rounds codec beta_reg config timestamps (cohort_names config) objects .default result objects') :
      Life codec beta_reg config start objects'

/-- A program that does not change the store. -/
theorem triple_quiet {α : Type} {program : TunerProgram B α} (quiet : Performs Quiet program) (holds : Objects B → Prop) :
    Triple tuner_answer (fun world => holds world.objects) program (fun _ world => holds world.objects)
      (fun world => holds world.objects) := by
  intro world outcome world' start run
  have kept : holds world'.objects := performs_quiet quiet run ▸ start
  exact ends_of (fun _ _ => kept) kept

section Daemon
variable {debug : String → String} {debug_duration : Duration → String} {password_env_exists : String → Bool}
  {codec : Codec B} {beta_reg : Float → Float → Float → Float} {raw : RawConfig} {config : Config}
  {data_sources : DataSources} {start : Objects B}

theorem connect_data_sources_quiet (entries : List (String × DataSourceConfig)) (budget : BudgetConfig) :
    Performs Quiet (connect_data_sources debug debug_duration budget entries data_sources : TunerProgram B DataSources) := by
  induction entries generalizing data_sources with
  | nil => exact performs_pure
  | cons entry rest ih =>
    exact performs_bind ((connect_data_source_manages _).mono manages_quiet) fun _ => ih

theorem connect_data_sources_found (entries : List (String × DataSourceConfig)) (budget : BudgetConfig) (name : String)
    (listed : name ∈ data_sources ∨ name ∈ entries.map Prod.fst) :
    Triple tuner_answer (fun _ => True)
      (connect_data_sources debug debug_duration budget entries data_sources : TunerProgram B DataSources)
      (fun sources _ => name ∈ sources) (fun _ => True) := by
  induction entries generalizing data_sources with
  | nil => exact triple_pure fun _ _ => listed.resolve_right List.not_mem_nil
  | cons entry rest ih =>
    refine triple_bind (fun _ _ => True) (fun _ outcome _ _ _ => ends_of (fun _ _ => trivial) trivial) fun runtime => ih ?_
    · rw [Std.ExtTreeMap.mem_insert, compare_eq_iff_eq]
      rcases listed with earlier | listed
      · exact .inl (.inr earlier)
      · rw [List.map_cons, List.mem_cons] at listed
        exact listed.imp (fun same => .inl same.symm) id

/-- A daemon that has started has something of every configured data source. -/
theorem start_covers {world world' : TunerWorld B} {sources : DataSources}
    (run : Runs tuner_answer (Tuner.start debug debug_duration config) world (.returned (.ok sources)) world') :
    Covers config sources := by
  obtain ⟨task, middle, _, run⟩ := runs_bind_returned.mp run
  cases started : start_store config.storage.root task with
  | error error =>
    rw [started] at run
    obtain ⟨same, _⟩ := runs_pure.mp run
    cases same
  | ok done =>
    rw [started] at run
    obtain ⟨found, later, connected, run⟩ := runs_bind_returned.mp run
    obtain ⟨same, _⟩ := runs_pure.mp run
    obtain rfl := Except.ok.inj (Outcome.returned.inj same)
    intro name configured
    refine connect_data_sources_found _ _ name (.inr ?_) middle _ later trivial connected
    rw [Std.ExtTreeMap.map_fst_toList_eq_keys]
    exact Std.ExtTreeMap.mem_keys.mpr configured

theorem start_quiet : Performs Quiet (Tuner.start debug debug_duration config : TunerProgram B (Except TunerStartError DataSources)) := by
  refine performs_bind (performs_perform trivial) fun task => ?_
  cases start_store config.storage.root task with
  | error error => exact performs_pure
  | ok done => exact performs_bind (connect_data_sources_quiet _ _) fun sources => performs_pure

theorem join_signal_quiet (result : Except DaemonError Unit) :
    Performs Quiet (join_signal result : TunerProgram B (Except DaemonError Unit)) := by
  refine performs_bind ?_ fun finished => ?_
  · cases result with
    | ok done => exact performs_pure
    | error error => exact performs_perform trivial
  · cases finished with
    | true => exact performs_bind (performs_perform trivial) fun task => performs_pure
    | false => exact performs_bind (performs_perform trivial) fun task => performs_pure

theorem drop_all_quiet (entries : List (String × DataSourceRuntime)) :
    Performs Quiet (drop_all entries : TunerProgram B Unit) := by
  induction entries with
  | nil => exact performs_pure
  | cons entry rest ih =>
    obtain ⟨name, runtime⟩ := entry
    cases runtime with
    | Connected connection => exact performs_bind (performs_perform trivial) fun _ => ih
    | Unavailable error => exact ih

theorem close_all_quiet (entries : List (String × DataSourceRuntime)) :
    Performs Quiet (close_all entries : TunerProgram B Unit) := by
  induction entries with
  | nil => exact performs_pure
  | cons entry rest ih =>
    obtain ⟨name, runtime⟩ := entry
    cases runtime with
    | Connected connection =>
      refine performs_bind (performs_perform trivial) fun driver => ?_
      cases driver with
      | some _ => exact ih
      | none => exact drop_all_quiet rest
    | Unavailable error => exact ih

theorem next_turn_quiet (interval scheduled_tick : Nat) (report : RoundRunReport) :
    Performs Quiet (next_turn interval scheduled_tick report : TunerProgram B Turn) := by
  refine performs_bind (performs_perform trivial) fun cancelled => ?_
  split
  · exact performs_pure
  · exact performs_bind (performs_perform trivial) fun now => performs_pure

/-- A pass of the loop: what collectors have put, and a round unless the loop stops before it. -/
theorem round_turn_lives (accepted : from_raw debug password_env_exists raw = .ok config) (covers : Covers config data_sources)
    (interval scheduled_tick : Nat) :
    Triple tuner_answer (fun world => Life codec beta_reg config start world.objects)
      (round_turn debug debug_duration codec beta_reg config interval scheduled_tick data_sources)
      (fun result world => Life codec beta_reg config start world.objects ∧ Covers config result.2)
      (fun world => Life codec beta_reg config start world.objects) := by
  refine triple_bind (fun _ world => Life codec beta_reg config start world.objects) (triple_perform (fun _ => id) ?_) ?_
  · exact fun world choice life => life.collected choice.collected
  intro woken
  split
  · exact triple_pure fun world life => ⟨life, covers⟩
  refine triple_bind _ (triple_quiet (performs_perform ?_) _) fun cancelled => ?_
  · trivial
  split
  · exact triple_pure fun world life => ⟨life, covers⟩
  refine triple_bind _ (triple_quiet (performs_perform ?_) _) fun since_epoch => ?_
  · trivial
  cases timed : current_round_timestamps since_epoch config.storage.window_seconds with
  | error error => exact triple_pure fun world life => ⟨life, covers⟩
  | ok timestamps =>
    obtain ⟨elapsed, timed⟩ : ∃ elapsed, round_timestamps elapsed config.storage.window_seconds = .ok timestamps := by
      cases since_epoch with
      | none => cases timed
      | some elapsed => exact ⟨elapsed, timed⟩
    refine triple_bind (fun result world => Life codec beta_reg config start world.objects ∧ Covers config result.2) ?_ ?_
    · exact triple_from fun world life => (run_round_serial accepted covers world).weaken (fun _ here => here)
        (fun _ _ holds => ⟨life.round timed holds.1, holds.2⟩) fun _ holds => life.round timed holds
    · rintro ⟨report, sources⟩
      refine triple_bind (fun _ world => Life codec beta_reg config start world.objects ∧ Covers config sources) ?_ ?_
      · exact (triple_quiet (next_turn_quiet _ _ _) fun objects => Life codec beta_reg config start objects ∧
          Covers config sources).weaken (fun _ => id) (fun _ _ => id) fun _ => And.left
      · exact fun turn => triple_pure fun _ => id

theorem run_round_loop_lives (accepted : from_raw debug password_env_exists raw = .ok config)
    (covers : Covers config data_sources) (interval passes scheduled_tick : Nat) :
    Triple tuner_answer (fun world => Life codec beta_reg config start world.objects)
      (run_round_loop debug debug_duration codec beta_reg config interval passes scheduled_tick data_sources)
      (fun _ world => Life codec beta_reg config start world.objects)
      (fun world => Life codec beta_reg config start world.objects) := by
  induction passes generalizing scheduled_tick data_sources with
  | zero => exact triple_pure fun _ => id
  | succ passes ih =>
    refine triple_bind _ (round_turn_lives accepted covers interval scheduled_tick) ?_
    rintro ⟨turn, sources⟩
    refine triple_from ?_
    rintro world ⟨life, covered⟩
    cases turn with
    | Stopped result =>
      refine triple_pure ?_
      rintro _ rfl
      exact life
    | Scheduled tick =>
      refine (ih covered tick).weaken ?_ (fun _ _ => id) fun _ => id
      rintro _ rfl
      exact life

/-- Whatever a daemon has come to, its store is one that rounds and collectors have left. -/
theorem run_lives (accepted : from_raw debug password_env_exists raw = .ok config) (passes : Nat) {world world' : TunerWorld B}
    {outcome : Outcome Panic Turn}
    (ran : Runs tuner_answer (run debug debug_duration codec beta_reg config passes) world outcome world') :
    Life codec beta_reg config world.objects world'.objects := by
  have lives : Triple tuner_answer (fun state => Life codec beta_reg config world.objects state.objects)
      (run debug debug_duration codec beta_reg config passes)
      (fun _ state => Life codec beta_reg config world.objects state.objects)
      (fun state => Life codec beta_reg config world.objects state.objects) := by
    unfold run
    split
    · exact triple_pure fun _ => id
    refine triple_bind (fun started state => Life codec beta_reg config world.objects state.objects ∧
      ∀ sources, started = .ok sources → Covers config sources) ?_ fun started => ?_
    · intro state outcome state' life started
      have kept : Life codec beta_reg config world.objects state'.objects := performs_quiet start_quiet started ▸ life
      refine ends_of (fun sources returned => ⟨kept, ?_⟩) kept
      subst returned
      exact fun sources found => start_covers (found ▸ started)
    cases started with
    | error error => exact triple_pure fun _ => And.left
    | ok sources =>
      refine triple_bind (fun _ state => Life codec beta_reg config world.objects state.objects ∧ Covers config sources) ?_
        fun now => ?_
      · refine (triple_quiet (performs_perform ?_) fun objects => Life codec beta_reg config world.objects objects ∧
          Covers config sources).weaken (fun _ holds => ⟨holds.1, holds.2 sources rfl⟩) (fun _ _ => id) fun _ => And.left
        trivial
      refine triple_from ?_
      rintro between ⟨life, covers⟩
      refine triple_bind (fun _ state => Life codec beta_reg config world.objects state.objects) ?_ ?_
      · refine (run_round_loop_lives accepted covers _ passes _).weaken ?_ (fun _ _ => id) fun _ => id
        rintro _ rfl
        exact life
      · rintro ⟨turn, sources⟩
        cases turn with
        | Stopped result =>
          refine triple_bind _ (triple_quiet (close_all_quiet _) _) fun _ => ?_
          exact triple_bind _ (triple_quiet (join_signal_quiet result) _) fun _ => triple_pure fun _ => id
        | Scheduled tick => exact triple_pure fun _ => id
  have ends := lives world outcome world' .begun ran
  cases outcome with
  | returned turn => exact ends
  | failed error => exact ends
  | stopped => exact ends

end Daemon

/-! ### Daemons after each other -/

/-- The stores that daemons leave, one after the other, from one without calibrations. Whatever else writes to the store
    keeps away from the calibrations. -/
inductive Generation (codec : Codec B) (beta_reg : Float → Float → Float → Float) : Objects B → Prop where
  | empty (objects : Objects B) (bare : ∀ path, path.root = some "calibrations" → lookup objects path = none) :
      Generation codec beta_reg objects
  | outside {objects} (earlier : Generation codec beta_reg objects) (objects' : Objects B)
      (kept : ∀ path, path.root = some "calibrations" → lookup objects' path = lookup objects path) :
      Generation codec beta_reg objects'
  | daemon {debug debug_duration password_env_exists raw config passes world outcome world'}
      (earlier : Generation codec beta_reg world.objects) (accepted : from_raw debug password_env_exists raw = .ok config)
      (ran : Runs tuner_answer (run debug debug_duration codec beta_reg config passes) world outcome world') :
      Generation codec beta_reg world'.objects

section Invariants
variable {codec : Codec B} {beta_reg : Float → Float → Float → Float} {config : Config} {objects objects' : Objects B}

theorem lookup_append (left right : Objects B) (path : Path) :
    lookup (left ++ right) path = (lookup left path).or (lookup right path) := by
  induction left with
  | nil => rfl
  | cons entry rest ih =>
    obtain ⟨stored, body⟩ := entry
    rw [List.cons_append, lookup, lookup]
    split
    · rfl
    · exact ih

theorem lookup_filter (keep : Path → Bool) (path : Path) :
    lookup (objects.filter fun entry => keep entry.1) path = if keep path then lookup objects path else none := by
  induction objects with
  | nil => simp [lookup]
  | cons entry rest ih =>
    obtain ⟨stored, body⟩ := entry
    rw [List.filter_cons]
    by_cases kept : keep stored = true
    · rw [if_pos kept, lookup, lookup, ih]
      by_cases here : stored = path
      · rw [if_pos here, if_pos (here ▸ kept), if_pos here]
      · rw [if_neg here, if_neg here]
    · rw [if_neg kept, ih, lookup]
      by_cases here : stored = path
      · rw [if_neg (here ▸ kept), if_neg (here ▸ kept)]
      · rw [if_neg here]

/-- The collectors do not touch the calibrations. -/
theorem lookup_collect (entries : List (Path × B)) {path : Path} (root : path.root = some "calibrations") :
    lookup (collect objects entries) path = lookup objects path := by
  have none : lookup (entries.filter fun entry => decide (entry.1.root = some "cohorts")) path = none := by
    rw [lookup_filter fun path => decide (path.root = some "cohorts"), if_neg]
    simp [root]
  rw [collect, lookup_append, none, Option.none_or]

theorem Life.keeps_store {start : Objects B} {holds : Objects B → Prop} (life : Life codec beta_reg config start objects)
    (outside : ∀ objects objects', (∀ path, path.root = some "calibrations" → lookup objects' path = lookup objects path) →
      holds objects → holds objects')
    (each : ∀ timestamps cohort outcome objects objects',
      CohortRuns codec beta_reg config timestamps cohort objects outcome objects' → holds objects → holds objects') :
    holds start → holds objects := by
  induction life with
  | begun => exact id
  | collected _ entries ih => exact fun begun => outside _ _ (fun path root => lookup_collect entries root) (ih begun)
  | round _ _ rounds ih => exact fun begun => rounds.keeps_store (each _) (ih begun)

/-- The rule of invariants for stores: what holds without calibrations, and is kept by every round of a cohort and by
    whatever leaves the calibrations alone, holds of every generation. -/
theorem Generation.invariant {holds : Objects B → Prop} (generation : Generation codec beta_reg objects)
    (bare : ∀ objects, (∀ path, path.root = some "calibrations" → lookup objects path = none) → holds objects)
    (outside : ∀ objects objects', (∀ path, path.root = some "calibrations" → lookup objects' path = lookup objects path) →
      holds objects → holds objects')
    (each : ∀ config timestamps cohort outcome objects objects',
      CohortRuns codec beta_reg config timestamps cohort objects outcome objects' → holds objects → holds objects') :
    holds objects := by
  induction generation with
  | empty objects empty => exact bare objects empty
  | outside _ objects' kept ih => exact outside _ objects' kept ih
  | daemon _ accepted ran ih => exact (run_lives accepted _ ran).keeps_store outside (each _) ih

/-! ### The portion of a cohort -/

/-- A record of the cohort, aggregated under a valid configuration. -/
def Made (beta_reg : Float → Float → Float → Float) (cohort : CohortName) (output : RoundOutput) : Prop :=
  ∃ input, input.config.cohort = cohort.name ∧ aggregate beta_reg input = .ok output

/-- The portion of a cohort is that of a history of its own rounds. -/
def Portion (codec : Codec B) (beta_reg : Float → Float → Float → Float) (cohort : CohortName) (objects : Objects B) : Prop :=
  ∃ image, Reachable codec beta_reg cohort.name image ∧ Agrees cohort image.objects objects

variable {cohort : CohortName}

theorem portion_bare (bare : ∀ path, path.root = some "calibrations" → lookup objects path = none) :
    Portion codec beta_reg cohort objects := ⟨⟨objects, []⟩, .empty objects bare, .refl objects⟩

/-- The calibrations of one store with everything else of another. -/
def spliced (calibrations others : Objects B) : Objects B :=
  (others.filter fun entry => entry.1.root ≠ some "calibrations") ++
    calibrations.filter fun entry => entry.1.root = some "calibrations"

theorem lookup_spliced (calibrations others : Objects B) (path : Path) :
    lookup (spliced calibrations others) path =
      if path.root = some "calibrations" then lookup calibrations path else lookup others path := by
  rw [spliced, lookup_append, lookup_filter fun path => decide (path.root ≠ some "calibrations"),
    lookup_filter fun path => decide (path.root = some "calibrations")]
  by_cases root : path.root = some "calibrations"
  · simp [root]
  · simp [root]

theorem Portion.outside (portion : Portion codec beta_reg cohort objects)
    (kept : ∀ path, path.root = some "calibrations" → lookup objects' path = lookup objects path) :
    Portion codec beta_reg cohort objects' := by
  obtain ⟨image, reachable, agrees⟩ := portion
  refine ⟨⟨spliced image.objects objects', image.log⟩, .outside image _ reachable fun path root => ?_, fun path owned => ?_⟩
  · rw [lookup_spliced, if_pos root]
  · rw [lookup_spliced]
    split
    · rename_i root
      rw [agrees path owned, kept path root]
    · rfl

/-- A round of the cohort, over a store with its portion, goes on with its history. -/
theorem Portion.own {timestamps : RoundTimestamps} {outcome : Outcome PipelineError CohortRoundOutcome}
    (portion : Portion codec beta_reg cohort objects)
    (ran : CohortRuns codec beta_reg config timestamps cohort objects outcome objects') :
    Portion codec beta_reg cohort objects' := by
  obtain ⟨image, reachable, agrees⟩ := portion
  obtain ⟨projected, log, last, projection, run, rfl⟩ := ran
  have of := projected_cohort projection
  have portions : Agrees cohort (⟨objects, log⟩ : World B).objects image.objects := agrees.symm
  obtain ⟨image', run', agrees', _⟩ := round_alike of run portions
  exact ⟨image', .round image image' projected _ _ _ _ reachable of run', agrees'.symm⟩

theorem Portion.agrees (portion : Portion codec beta_reg cohort objects) (same : Agrees cohort objects' objects) :
    Portion codec beta_reg cohort objects' := by
  obtain ⟨image, reachable, agrees⟩ := portion
  exact ⟨image, reachable, agrees.trans same.symm⟩

theorem Generation.portion (generation : Generation codec beta_reg objects) (cohort : CohortName) :
    Portion codec beta_reg cohort objects := by
  refine generation.invariant (fun _ => portion_bare) (fun _ _ kept portion => portion.outside kept) ?_
  intro config timestamps other outcome objects objects' ran portion
  by_cases same : cohort = other
  · subst same
    exact portion.own ran
  · exact portion.agrees (ran.others same)

/-- The portion with its history, to which every record in it is traced. -/
theorem calibrations_from_history {reread : Float → Float → Prop} (reads : ReadsBack codec reread)
    (generation : Generation codec beta_reg objects) (cohort : CohortName) :
    ∃ image, Reachable codec beta_reg cohort.name image ∧ Agrees cohort image.objects objects ∧
      ∀ path body, Owned cohort path → path.root = some "calibrations" → lookup objects path = some body →
        ∃ output, codec.to_vec output = .ok body ∧ Made beta_reg cohort output ∧
          ∀ effective, output.effective = some effective → Carried codec reread image.log output effective := by
  obtain ⟨image, reachable, agrees⟩ := generation.portion cohort
  refine ⟨image, reachable, agrees, fun path body owned root found => ?_⟩
  obtain ⟨output, serialised, _, made, carried⟩ :=
    (reachable.accounted (vouches_voucher reads)).record vouches_lasts root ((agrees path owned).trans found)
  exact ⟨output, serialised, made, carried⟩

end Invariants

/-- After any daemons the portion of each cohort is one that rounds of this cohort alone could have left, and every
    calibration in it is a record of the cohort whose effective block has its origin in that history. A number with a
    fraction may change when JSON is read; a carried confidence is one that has been read once for each record on its way. -/
theorem calibrations_accounted {B : Type} (codec : Codec B) (beta_reg : Float → Float → Float → Float)
    (reread : Float → Float → Prop) (reads : ReadsBack codec reread) (objects : Objects B)
    (generation : Generation codec beta_reg objects) (cohort : CohortName) :
    ∃ image, Reachable codec beta_reg cohort.name image ∧ Agrees cohort image.objects objects ∧
      ∀ path body, Owned cohort path → path.root = some "calibrations" → lookup objects path = some body →
        ∃ output, codec.to_vec output = .ok body ∧ Made beta_reg cohort output ∧
          ∀ effective, output.effective = some effective → Carried codec reread image.log output effective :=
  calibrations_from_history reads generation cohort

/-! ### A daemon that carries a recommendation -/

/-- One cohort only. -/
def shadowRaw : RawConfig := { twinRaw with cohorts := .ofList [("shadow", { index := "items", target := "recall" })] compare }

/-- Two rounds, the second two minutes later, when there are no segments to look at. -/
def carryingSchedule : List (TunerChoice Body) :=
  List.replicate 53 calmChoice ++ { calmChoice with system_time := some ⟨245, 0, by decide, no_nanos⟩ } ::
    List.replicate 11 calmChoice
def carryingDaemon (config : Config) : Outcome Panic Turn × TunerWorld Body :=
  (run id (fun _ => "") smallCodec smallBeta config 2).exec tuner_answer (twinWorld [twinSource shadow]) carryingSchedule

theorem carrying_generation {config : Config} (accepted : from_raw id (fun _ => true) shadowRaw = .ok config) :
    Generation smallCodec smallBeta (carryingDaemon config).2.objects := by
  have begun : Generation smallCodec smallBeta (twinWorld [twinSource shadow]).objects := by
    refine .empty _ fun path root => if_neg ?_
    rintro rfl
    exact absurd root (by decide)
  exact .daemon begun accepted ⟨_, rfl⟩

def shadowLatest : Path := ⟨["calibrations", "shadow", "latest.json"]⟩
def effective_of : Body → Option EffectiveRecommendation
  | .round output => output.effective
  | _ => none

theorem carrying_carries : ∃ config, from_raw id (fun _ => true) shadowRaw = .ok config ∧
    (lookup (carryingDaemon config).2.objects shadowLatest).bind effective_of =
      some ⟨1, 0.75, "1970-01-01T00:02:00Z", true⟩ := ⟨_, rfl, by decide +kernel⟩

/-- The recommendation of the second record is that of the first. -/
theorem local_calibrations_accounted : ∃ (config : Config) (image : World Body) (output source : RoundOutput),
    from_raw id (fun _ => true) shadowRaw = .ok config ∧
    lookup (carryingDaemon config).2.objects shadowLatest = some (.round output) ∧ Made smallBeta shadow output ∧
    output.effective = some ⟨1, 0.75, "1970-01-01T00:02:00Z", true⟩ ∧ Reachable smallCodec smallBeta "shadow" image ∧
    Stored smallCodec image.log source ∧ Recommends (· = ·) source ⟨1, 0.75, "1970-01-01T00:02:00Z", true⟩ ∧
    CarriedSettings (· = ·) source output := by
  obtain ⟨config, accepted, found⟩ := carrying_carries
  obtain ⟨body, present, carried⟩ := Option.bind_eq_some_iff.mp found
  have owned : Owned shadow shadowLatest := .inr ⟨"latest.json", by decide +kernel⟩
  obtain ⟨image, reachable, _, records⟩ := calibrations_accounted smallCodec smallBeta (· = ·) (reads_exactly smallCodec_laws) _
    (carrying_generation accepted) shadow
  obtain ⟨output, serialised, made, traced⟩ := records _ body owned rfl present
  obtain rfl : Body.round output = body := Except.ok.inj serialised
  have effective := traced _ carried
  rcases effective.origin with own | ⟨source, stored, recommends, settings⟩
  · exact absurd (effective.fresh_iff.mpr own) (by decide)
  · exact ⟨config, image, output, source, accepted, present, made, carried, reachable, stored, recommends, settings⟩

end VectorSeam.Generations
