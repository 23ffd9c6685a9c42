import VectorSeam.Progress
import VectorSeam.RoundEffects
import VectorSeam.Fingerprints

/-!
A completed round is a fixpoint. When a round has published a record without an error,
every source in scope has a usable pair in the store; a second round over that store
reuses them all, reads its own record back and publishes it again.
-/

namespace VectorSeam.Fixpoints
open VectorSeam.Model VectorSeam.ObjectStore VectorSeam.Window VectorSeam.Accounting VectorSeam.Population
open VectorSeam.Aggregate VectorSeam.Intermediate VectorSeam.Measure VectorSeam.Effects VectorSeam.Programs
open VectorSeam.Pipeline VectorSeam.Requests VectorSeam.SortedMaps VectorSeam.SourceParts VectorSeam.Publishing
open VectorSeam.PendingParts VectorSeam.Rounds VectorSeam.Deposits VectorSeam.Pairs VectorSeam.RoundEffects
open VectorSeam.Ulids VectorSeam.Keys VectorSeam.Records VectorSeam.Fingerprints VectorSeam.Progress

variable {B : Type} {codec : Codec B} {beta_reg : Float → Float → Float → Float} {config : AggregationConfig}
  {round_end computed_at_us : Nat} {computed_at : String} {world world' middle start : World B} {objects objects' : Objects B}
  {window_starts : List Nat} {sources : List SourcePart}

/-! ### Pairs that stay in the store -/

/-- A usable pair stays usable while its two files do. -/
theorem reusable_congr {source : SourcePart} {part : IntermediatePart}
    (same : ∀ paths, pair_paths config source = .ok paths →
      lookup objects' paths.1 = lookup objects paths.1 ∧ lookup objects' paths.2 = lookup objects paths.2)
    (reusable : Reusable codec config objects source part) : Reusable codec config objects' source part := by
  obtain ⟨paths, truth, sweep, named, truthFound, sweepFound, rest⟩ := reusable
  obtain ⟨first, second⟩ := same paths named
  exact ⟨paths, truth, sweep, named, first.trans truthFound, second.trans sweepFound, rest⟩

/-- What is put for one part leaves the pairs of the others alone. -/
theorem reusable_of_other {source other : SourcePart} {part : IntermediatePart} {paths : Path × Path} {truth sweep : B}
    (canonical : ∃ ulid : Ulid, ulid_of source = ulid.to_string) (canonical' : ∃ ulid : Ulid, ulid_of other = ulid.to_string)
    (different : ulid_of source ≠ ulid_of other) (named : pair_paths config other = .ok paths)
    (reusable : Reusable codec config world.objects source part) :
    Reusable codec config ((world.upload paths.1 truth (.ok ()) true).upload paths.2 sweep (.ok ()) true).objects source
      part := by
  obtain ⟨ulid, own⟩ := canonical
  obtain ⟨ulid', foreign⟩ := canonical'
  refine reusable_congr (fun ownPaths ownNamed => ?_) reusable
  unfold pair_paths at named ownNamed
  change intermediate_paths _ _ (ulid_of other) = _ at named
  change intermediate_paths _ _ (ulid_of source) = _ at ownNamed
  rw [foreign] at named
  rw [own] at ownNamed
  have parts : ulid' ≠ ulid := by
    rintro rfl
    exact different (own.trans foreign.symm)
  obtain ⟨crossed, truths, sweeps⟩ := pair_paths_disjoint named ownNamed
  obtain ⟨crossed', _, _⟩ := pair_paths_disjoint ownNamed named
  have first : paths.1 ≠ ownPaths.1 := fun same => parts (truths same)
  have second : paths.2 ≠ ownPaths.2 := fun same => parts (sweeps same)
  simp [World.upload, first, second, crossed, crossed'.symm]

/-- The pair that was just put is usable. -/
theorem reusable_of_put {source : SourcePart} {part : IntermediatePart} {paths : Path × Path} {truth sweep : B}
    (canonical : ∃ ulid : Ulid, ulid_of source = ulid.to_string) (named : pair_paths config source = .ok paths)
    (read : read_intermediate_pair_bytes codec truth sweep = .ok part) (usable : Usable config source part) :
    Reusable codec config ((world.upload paths.1 truth (.ok ()) true).upload paths.2 sweep (.ok ()) true).objects source
      part := by
  obtain ⟨ulid, own⟩ := canonical
  have distinct : paths.1 ≠ paths.2 := by
    unfold pair_paths at named
    change intermediate_paths _ _ (ulid_of source) = _ at named
    rw [own] at named
    exact (pair_paths_disjoint named named).1
  exact ⟨paths, truth, sweep, named, by simp [World.upload, distinct.symm], by simp [World.upload], read, usable.matching,
    usable.compatible⟩

theorem gathered_poll (cancelled : Bool) : Gathered world (world.record (.polled cancelled)) :=
  ⟨⟨[.polled cancelled], rfl, by simp [request, Gathers]⟩, fun _ _ => rfl⟩

/-- When measuring is over, the parts measured have usable pairs besides those that had one. -/
theorem measure_pending_stored (laws : ParquetLaws codec)
    (found : SourcesFound codec start.objects config window_starts sources) {pending done : List SourcePart}
    {compatible result : BTreeMap String IntermediatePart}
    (run : Runs answer (measure_pending codec config computed_at_us pending compatible) world
      (.returned (.Measured result none)) world')
    (gathered : Gathered start world) (filled : Filled ulid_of (Reusable codec config world.objects) done compatible)
    (inside : ∀ source ∈ done ++ pending, source ∈ sources) (distinct : ((done ++ pending).map ulid_of).Nodup) :
    Filled ulid_of (Reusable codec config world'.objects) (done ++ pending) result := by
  induction pending generalizing world compatible done with
  | nil =>
    obtain ⟨same, rfl⟩ := runs_pure.mp run
    cases same
    simpa using filled
  | cons source rest ih =>
    rcases runs_bind_is_cancelled.mp run with ⟨same, _⟩ | ⟨cancelled, afterPoll⟩
    · cases same
    cases cancelled with
    | true => cases (runs_pure.mp afterPoll).1
    | false =>
      simp only [Bool.false_eq_true, ↓reduceIte] at afterPoll
      obtain ⟨outcome, middle, measureRun, afterMeasure⟩ := runs_bind_returned.mp afterPoll
      cases outcome with
      | Complete measured =>
        obtain ⟨part, last, storeRun, restRun⟩ := runs_bind_returned.mp afterMeasure
        have whole := prefix_of_performs (store_measured_gathers config.cohort source measured) storeRun
        obtain ⟨truth, sweep, paths, encoded, named, read, stored⟩ := runs_store_measured storeRun
        have polled := gathered.trans (gathered_poll false)
        have measuredObjects := polled.trans (gathered_of_performs (measure_source_gathers config computed_at_us source) measureRun)
        have storedObjects := measuredObjects.trans
          (gathered_of_performs (store_measured_gathers config.cohort source measured) storeRun)
        have unchanged : middle.objects = world.objects := by
          have reads : Performs (fun effect => Reads effect ∨ Measures effect)
              (measure_source codec config computed_at_us source) :=
            measure_source_performs codec config computed_at_us source (.inl trivial) fun _ => .inr
          have kept := performs_unchanged reads (fun _ _ either => either.elim id id) measureRun
          exact kept
        have member : source ∈ sources := inside source (by simp)
        have canonical := (found_named found).canonical member
        have fresh : Fresh codec config computed_at_us start last source part :=
          ⟨_, middle, measured, truth, sweep, polled.objects, measureRun, whole, encoded, read⟩
        have held : Reusable codec config last.objects source part := by
          rw [stored]
          exact reusable_of_put canonical named read (fresh_usable laws found member fresh)
        have others : Filled ulid_of (Reusable codec config last.objects) done compatible := by
          refine filled.mono fun other earlier otherPart reusable => ?_
          rw [stored]
          have otherMember : other ∈ sources := inside other (List.mem_append_left _ earlier)
          refine reusable_of_other ((found_named found).canonical otherMember) canonical (fun same => ?_) named
            (unchanged ▸ reusable)
          rw [List.map_append, List.nodup_append] at distinct
          exact distinct.2.2 _ (List.mem_map_of_mem earlier) _ (List.mem_map_of_mem (List.mem_cons_self)) same
        have whole' : done ++ source :: rest = (done ++ [source]) ++ rest := by simp
        rw [whole'] at inside distinct ⊢
        exact ih restRun storedObjects (others.insert held) inside distinct
      | TableSmallerThanK abort => cases (runs_pure.mp afterMeasure).1
      | ConnectionUnavailable error => exact absurd (runs_fail.mp afterMeasure).1 (by simp)
      | Cancelled => cases (runs_pure.mp afterMeasure).1

/-! ### Sources that stay in the store -/

theorem source_paths_congr (agree : ∀ path, path.root = some "cohorts" → lookup objects' path = lookup objects path)
    {cohort : String} {window_start : Nat} {path : Path} :
    path ∈ source_paths objects' cohort window_start ↔ path ∈ source_paths objects cohort window_start := by
  have carried : ∀ left right : Objects B,
      (∀ path, path.root = some "cohorts" → lookup right path = lookup left path) →
      path ∈ source_paths left cohort window_start → path ∈ source_paths right cohort window_start := by
    intro left right same member
    have root := source_paths_root member
    unfold source_paths at member ⊢
    cases formatted : format_window_timestamp window_start with
    | error error => rw [formatted] at member; cases member
    | ok timestamp =>
      rw [formatted] at member
      obtain ⟨listed, ends⟩ := List.mem_filter.mp member
      obtain ⟨present, below⟩ := mem_listing.mp listed
      exact List.mem_filter.mpr ⟨mem_listing.mpr ⟨by rw [same path root]; exact present, below⟩, ends⟩
  exact ⟨carried objects' objects fun path root => (agree path root).symm, carried objects objects' agree⟩

theorem source_paths_perm (agree : ∀ path, path.root = some "cohorts" → lookup objects' path = lookup objects path)
    (cohort : String) (window_start : Nat) :
    (source_paths objects cohort window_start).Perm (source_paths objects' cohort window_start) := by
  have nodup : ∀ some_objects : Objects B, (source_paths some_objects cohort window_start).Nodup := by
    intro some_objects
    unfold source_paths
    cases format_window_timestamp window_start with
    | error error => exact List.nodup_nil
    | ok timestamp => exact (nodup_listing _ _).filter _
  exact (List.perm_ext_iff_of_nodup (nodup _) (nodup _)).mpr fun path => (source_paths_congr agree).symm

theorem loaded_congr (agree : ∀ path, path.root = some "cohorts" → lookup objects' path = lookup objects path)
    {cohort : String} {width window_start : Nat} {source : SourcePart} (root : source.path.root = some "cohorts")
    (loaded : Loaded codec objects cohort width window_start source) :
    Loaded codec objects' cohort width window_start source := by
  obtain ⟨part_ulid, body, prepared, named, found, rest⟩ := loaded
  exact ⟨part_ulid, body, prepared, named, (agree _ root).trans found, rest⟩

/-- The sources found are the same while the source objects are. -/
theorem sources_found_congr (agree : ∀ path, path.root = some "cohorts" → lookup objects' path = lookup objects path)
    (found : SourcesFound codec objects config window_starts sources) :
    SourcesFound codec objects' config window_starts sources := by
  refine ⟨found.ulids.trans (List.Perm.filterMap _ ?_), found.distinct, fun source member => ?_⟩
  · refine List.Perm.flatMap_left window_starts fun window_start _ => ?_
    exact (source_paths_perm agree config.cohort window_start).map _
  · obtain ⟨window_start, inside, listed, loaded⟩ := found.loaded source member
    exact ⟨window_start, inside, (source_paths_congr agree).mpr listed, loaded_congr agree (source_paths_root listed) loaded⟩

/-- The sources of one survey are found by every other that lists them with the same bodies. -/
theorem same_sources {others : List SourcePart}
    (scope : in_scope_window_starts round_end config.window_duration_seconds config.storage_window_seconds = .ok window_starts)
    (carried : ∀ window_start path part_ulid, Listed objects config round_end window_start path part_ulid →
      Listed objects' config round_end window_start path part_ulid ∧ lookup objects' path = lookup objects path)
    (found : SourcesFound codec objects config window_starts sources)
    (found' : SourcesFound codec objects' config window_starts others) {source : SourcePart} (member : source ∈ sources) :
    source ∈ others := by
  obtain ⟨window_start, inside, listed, loaded⟩ := found.loaded source member
  obtain ⟨named, starts, _⟩ := loaded.listed
  obtain ⟨listed', kept⟩ := carried _ _ _ ⟨⟨window_starts, scope, inside⟩, listed, named⟩
  obtain ⟨other, otherMember, path, starts', ulid⟩ := member_of_listed scope found' listed'
  obtain ⟨_, _, _, loaded'⟩ := found'.loaded other otherMember
  obtain ⟨part_ulid, body, prepared, named, stored, checked, same⟩ := loaded
  obtain ⟨_, otherStarts, _⟩ := loaded'.listed
  obtain ⟨part_ulid', body', prepared', named', stored', checked', same'⟩ := loaded'
  rw [path] at named' stored' same'
  rw [kept] at stored'
  obtain rfl := Option.some.inj (named.symm.trans named')
  obtain rfl := Option.some.inj (stored.symm.trans stored')
  rw [← otherStarts, starts'] at checked'
  obtain rfl := Except.ok.inj (checked.symm.trans checked')
  rw [same, ← same']
  exact otherMember

/-! ### Completed rounds -/

/-- What a completed round leaves in the store: a usable pair for every source, and its record. -/
structure Completed (codec : Codec B) (beta_reg : Float → Float → Float → Float) (config : AggregationConfig)
    (round_end : Nat) (objects : Objects B) (window_starts : List Nat) (sources : List SourcePart)
    (compatible : BTreeMap String IntermediatePart) (output : RoundOutput) : Prop where
  scope : in_scope_window_starts round_end config.window_duration_seconds config.storage_window_seconds = .ok window_starts
  found : SourcesFound codec objects config window_starts sources
  filled : Filled ulid_of (Reusable codec config objects) sources compatible
  aggregated : ∃ computed_at phase_a_incompatible_parts previous_round, aggregate beta_reg (round_input config round_end
    computed_at sources phase_a_incompatible_parts compatible none previous_round) = .ok output
  stored : ∃ paths body, round_paths config.cohort round_end = .ok paths ∧ codec.to_vec output = .ok body ∧
    lookup objects paths.2 = some body

theorem completed_of_run (laws : ParquetLaws codec) {output : RoundOutput}
    (run : Runs answer (run_cohort_round codec beta_reg config round_end computed_at computed_at_us) world
      (.returned (.Published output)) world') (clean : output.error = none) :
    ∃ window_starts sources compatible,
      Completed codec beta_reg config round_end world'.objects window_starts sources compatible output := by
  obtain ⟨⟨sources, classified⟩, surveyed, surveyRun, rest⟩ := runs_bind_returned.mp run
  obtain ⟨pending, measured, measureRun, rest⟩ := runs_bind_returned.mp rest
  cases pending with
  | Cancelled => cases (runs_pure.mp rest).1
  | Measured compatible phase_a_abort =>
    obtain ⟨window_starts, _, begun, scope, found, kept, _, classifyRun⟩ := runs_survey_store surveyRun
    have ends : Runs answer ((ending_of config round_end computed_at sources classified compatible phase_a_abort).program
        codec beta_reg) measured (.returned (.Published output)) world' := rest
    rcases runs_finish ends with withheld | ⟨paths, reply, record, body, prepared, puts⟩
    · exact absurd rfl (withheld.unpublished output)
    rcases runs_put_round.mp puts with ⟨same, _⟩ | ⟨_, _, same, _⟩ | ⟨same, _⟩ | ⟨_, _, same, _⟩ | ⟨same, last⟩
    · cases same
    · cases same
    · cases same
    · cases same
    cases same
    obtain ⟨previous_round, _, aggregated⟩ := prepared.aggregated
    obtain rfl : phase_a_abort = none := abort_of_error aggregated clean
    have unchanged : surveyed.objects = world.objects :=
      performs_unchanged (survey_store_reads codec config round_end) (fun _ _ => id) surveyRun
    have bare : Filled ulid_of (Reusable codec config begun.objects) [] (∅ : BTreeMap String IntermediatePart) := Filled.empty
    obtain ⟨reused, pending, split, filled, pendings, _⟩ := runs_classify classifyRun bare fun _ _ _ reusable => reusable
    simp only [List.nil_append] at filled pendings
    rw [pendings] at measureRun
    rw [kept, ← unchanged] at filled
    have found' : SourcesFound codec surveyed.objects config window_starts sources := unchanged ▸ found
    have all := measure_pending_stored laws found' measureRun ⟨⟨[], by simp, by simp⟩, fun _ _ => rfl⟩ filled
      (fun source member => split.mem_iff.mpr member) ((split.map ulid_of).nodup_iff.mp found.distinct)
    -- The record's uploads leave pairs and sources alone.
    have closing : ∀ path, path.root ≠ some "calibrations" → lookup world'.objects path = lookup measured.objects path := by
      intro path other
      refine performs_objects (finish_round_closes sources classified.phase_a_incompatible_parts compatible none)
        (fun put bytes closes same => ?_) rest
      exact other (same ▸ closes_root closes)
    refine ⟨window_starts, sources, compatible, scope, sources_found_congr (fun path root => ?_) found, ?_,
      ⟨computed_at, _, previous_round, aggregated⟩, paths, body, prepared.named, prepared.serialised, ?_⟩
    · exact sources_of_run run root
    · refine (all.congr fun source => split.mem_iff.symm).mono fun source _ part reusable => ?_
      refine reusable_congr (fun paths named => ?_) reusable
      obtain ⟨truthRoot, sweepRoot⟩ := intermediate_paths_root named
      exact ⟨closing _ (by rw [truthRoot]; decide), closing _ (by rw [sweepRoot]; decide)⟩
    · simp [last, World.upload]

/-! ### Classifying stored pairs -/

/-- The files of a pair are listed below the window they are for. -/
theorem pair_below {cohort : String} {window_start : Nat} {ulid : Ulid} {timestamp : String} {paths : Path × Path}
    (named : intermediate_paths cohort window_start ulid.to_string = .ok paths)
    (formatted : format_window_timestamp window_start = .ok timestamp) :
    (measurement_window cohort timestamp).below paths.1 = true ∧ (measurement_window cohort timestamp).below paths.2 = true := by
  obtain ⟨stamp, found, built⟩ := Results.bind_ok.mp named
  obtain rfl := Except.ok.inj (formatted.symm.trans found)
  obtain rfl := Except.ok.inj built
  have file : ∀ finish, Allowed finish → (measurement_window cohort timestamp).below (Path.from_text
      ("measurements/" ++ cohort ++ "/window=" ++ timestamp ++ "/" ++ ("part-" ++ ulid.to_string ++ finish))) = true := by
    intro finish allowed
    have window : Path.from_text ("measurements/" ++ cohort ++ "/window=" ++ timestamp) = measurement_window cohort timestamp := rfl
    rw [below_iff, Path.parts_append, Path.parts_plain (part_segment ulid allowed), window]
    exact ⟨List.prefix_append _ _, by simp⟩
  refine ⟨?_, ?_⟩
  · simpa [String.append_assoc, slash_part] using file ".truth.parquet" rfl
  · simpa [String.append_assoc, slash_part] using file ".sweep.parquet" rfl

/-- Every source has its two files listed. -/
def AllListed (config : AggregationConfig) (sources : List SourcePart) (measurement_objects : List Path) : Prop :=
  ∀ source ∈ sources, ∀ paths, pair_paths config source = .ok paths →
    paths.1 ∈ measurement_objects ∧ paths.2 ∈ measurement_objects

theorem all_listed (found : SourcesFound codec objects config window_starts sources) {listed : List Path}
    (lists : ListsMeasurements objects config window_starts listed)
    (stored : ∀ source ∈ sources, ∃ part, Reusable codec config objects source part) :
    AllListed config sources listed := by
  intro source member paths named
  obtain ⟨window_start, inside, _, loaded⟩ := found.loaded source member
  obtain ⟨_, starts, _⟩ := loaded.listed
  obtain ⟨part, paths', truth, sweep, named', truthFound, sweepFound, _⟩ := stored source member
  obtain rfl := Except.ok.inj (named.symm.trans named')
  obtain ⟨ulid, own⟩ := (found_named found).canonical member
  unfold pair_paths at named
  rw [own, starts] at named
  obtain ⟨timestamp, formatted, _⟩ := Results.bind_ok.mp named
  obtain ⟨truthBelow, sweepBelow⟩ := pair_below named formatted
  exact ⟨lists window_start inside timestamp formatted _ (mem_listing.mpr ⟨by rw [truthFound]; rfl, truthBelow⟩),
    lists window_start inside timestamp formatted _ (mem_listing.mpr ⟨by rw [sweepFound]; rfl, sweepBelow⟩)⟩

theorem classify_pair_usable {source : SourcePart} {part : IntermediatePart} {classified : Classified}
    (matching : matches_source_metadata part source config.cohort = true) (compatible : is_compatible config part = true) :
    classify_pair config source (.ok part) classified =
      .ok { classified with compatible := classified.compatible.insert source.listed.part_ulid part } := by
  simp [classify_pair, matching, compatible]

/-- When all pairs are stored and usable, nothing is left pending or counted as outdated. -/
theorem classify_all_stored {measurement_objects : List Path} {before after : Classified}
    (run : Runs answer (classify codec config measurement_objects sources before) world (.returned after) world')
    (stored : ∀ source ∈ sources, ∃ part, Reusable codec config world.objects source part)
    (listed : AllListed config sources measurement_objects) :
    after.pending = before.pending ∧ after.phase_a_incompatible_parts = before.phase_a_incompatible_parts := by
  induction sources generalizing world before with
  | nil =>
    obtain ⟨same, _⟩ := runs_pure.mp run
    obtain rfl := Outcome.returned.inj same
    exact ⟨rfl, rfl⟩
  | cons source rest ih =>
    obtain ⟨part, ⟨truth_path, sweep_path⟩, truth, sweep, named, truthFound, sweepFound, read, matching, compatible⟩ :=
      stored source (by simp)
    obtain ⟨paths, start, nameRun, afterName⟩ := runs_bind_returned.mp run
    obtain ⟨named', rfl⟩ := runs_wrap_returned.mp nameRun
    obtain rfl := Except.ok.inj (named.symm.trans named')
    have present := listed source (by simp) _ named
    simp only [if_pos present] at afterName
    obtain ⟨truth', first, truthRun, afterTruth⟩ := runs_bind_returned.mp afterName
    obtain ⟨truthFound', rfl⟩ := runs_get_bytes.mp truthRun
    obtain rfl := Option.some.inj (truthFound.symm.trans truthFound')
    obtain ⟨sweep', second, sweepRun, afterSweep⟩ := runs_bind_returned.mp afterTruth
    obtain ⟨sweepFound', rfl⟩ := runs_get_bytes.mp sweepRun
    obtain rfl := Option.some.inj (sweepFound.symm.trans sweepFound')
    obtain ⟨middle, third, pairRun, restRun⟩ := runs_bind_returned.mp afterSweep
    obtain ⟨paired, rfl⟩ := runs_wrap_returned.mp pairRun
    rw [read, classify_pair_usable matching compatible] at paired
    obtain rfl := Except.ok.inj paired
    have later := ih restRun (fun other member => stored other (List.mem_cons_of_mem _ member))
      fun other member => listed other (List.mem_cons_of_mem _ member)
    exact later

theorem proceeds_classify {measurement_objects : List Path} {classified : Classified}
    (stored : ∀ source ∈ sources, ∃ part, Reusable codec config world.objects source part)
    (listed : AllListed config sources measurement_objects) :
    GoesOn (classify codec config measurement_objects sources classified) world := by
  induction sources generalizing world classified with
  | nil => exact proceeds_pure trivial
  | cons source rest ih =>
    obtain ⟨part, ⟨truth_path, sweep_path⟩, truth, sweep, named, truthFound, sweepFound, read, matching, compatible⟩ :=
      stored source (by simp)
    refine proceeds_bind (proceeds_wrap named) fun paths start nameRun _ => ?_
    obtain ⟨named', rfl⟩ := runs_wrap_returned.mp nameRun
    obtain rfl := Except.ok.inj (named.symm.trans named')
    simp only [if_pos (listed source (by simp) _ named)]
    refine proceeds_bind (proceeds_get_bytes truthFound) fun truth' first truthRun _ => ?_
    obtain ⟨truthFound', rfl⟩ := runs_get_bytes.mp truthRun
    obtain rfl := Option.some.inj (truthFound.symm.trans truthFound')
    refine proceeds_bind (proceeds_get_bytes sweepFound) fun sweep' second sweepRun _ => ?_
    obtain ⟨sweepFound', rfl⟩ := runs_get_bytes.mp sweepRun
    obtain rfl := Option.some.inj (sweepFound.symm.trans sweepFound')
    rw [read]
    refine proceeds_bind (proceeds_wrap (classify_pair_usable matching compatible)) fun after third pairRun _ => ?_
    obtain ⟨_, rfl⟩ := runs_wrap_returned.mp pairRun
    exact ih (fun other member => stored other (List.mem_cons_of_mem _ member))
      fun other member => listed other (List.mem_cons_of_mem _ member)

/-! ### Aggregating again -/

/-- Usable pairs are gathered alike whatever number of incompatible ones they start from. -/
theorem gather_restarted {listed : BTreeMap String ListedPart} {entries : List (String × IntermediatePart)}
    {before after : Gathered} (found : gather config listed entries before = .ok after)
    (usable : ∀ entry ∈ entries, entry.1 ∈ listed ∧ is_compatible config entry.2 = true) (count : Nat) :
    gather config listed entries { before with incompatible_parts := count } =
      .ok { after with incompatible_parts := count } := by
  induction entries generalizing before with
  | nil =>
    obtain rfl := Except.ok.inj found
    rfl
  | cons entry rest ih =>
    obtain ⟨part_ulid, intermediate⟩ := entry
    obtain ⟨present, compatible⟩ := usable (part_ulid, intermediate) (by simp)
    unfold gather at found ⊢
    rw [if_neg (not_not.mpr present), if_neg (not_not.mpr compatible)] at found ⊢
    obtain ⟨measured, measuredFound, later⟩ := Results.bind_ok.mp found
    obtain ⟨failed, failedFound, later⟩ := Results.bind_ok.mp later
    refine Results.bind_ok.mpr ⟨measured, measuredFound, Results.bind_ok.mpr ⟨failed, failedFound, ?_⟩⟩
    exact ih later fun other member => usable other (List.mem_cons_of_mem _ member)

/-- The inputs differ in their listed parts' order, in the time, the previous round and the count of outdated pairs. -/
structure Repeats (input again : AggregationInput) : Prop where
  config : again.config = input.config
  round_end : again.round_end = input.round_end
  phase_a_abort : again.phase_a_abort = input.phase_a_abort
  listed : ∀ part, part ∈ input.listed_parts ↔ part ∈ again.listed_parts
  intermediates : again.intermediates = input.intermediates

/-- Every intermediate is filed under its ULID, listed in scope and compatible. -/
structure AllUsable (input : AggregationInput) (filed : BTreeMap String IntermediatePart) : Prop where
  values : input.intermediates = filed.toList.map Prod.snd
  keyed : ∀ entry ∈ filed.toList, entry.2.metadata.part_ulid = entry.1
  compatible : ∀ entry ∈ filed.toList, is_compatible input.config entry.2 = true
  listed : ∀ entry ∈ filed.toList, ∃ header ∈ input.listed_parts, header.part_ulid = entry.1 ∧ InScope input header

theorem survey_repeated {input again : AggregationInput} {surveyed : Survey} {filed : BTreeMap String IntermediatePart}
    (repeats : Repeats input again) (usable : AllUsable input filed) (found : survey input = .ok surveyed) :
    survey again = .ok { surveyed with
      gathered := { surveyed.gathered with incompatible_parts := again.phase_a_incompatible_parts } } := by
  have known := survey_ok found
  obtain ⟨valid, rest⟩ := Results.check_ok.mp found
  obtain ⟨expected, scope, rest⟩ := Results.bind_ok.mp rest
  obtain ⟨lower, lowerFound, rest⟩ := Results.bind_ok.mp rest
  obtain ⟨listing, listedFound, rest⟩ := Results.bind_ok.mp rest
  obtain ⟨available, availableFound, rest⟩ := Results.bind_ok.mp rest
  obtain ⟨drops, dropsFound, rest⟩ := Results.bind_ok.mp rest
  obtain ⟨unique, uniqueFound, rest⟩ := Results.bind_ok.mp rest
  obtain ⟨gathered, gatheredFound, rest⟩ := Results.bind_ok.mp rest
  obtain ⟨validated, built⟩ := Results.check_ok.mp rest
  obtain rfl := Except.ok.inj built
  have filedUnique := uniqueFound
  rw [usable.values, unique_intermediates_values usable.keyed] at filedUnique
  obtain rfl := Except.ok.inj filedUnique
  have gatheredAgain := gather_restarted gatheredFound (fun entry member =>
    ⟨(known.mem_listed entry.1).mpr (usable.listed entry member), usable.compatible entry member⟩)
    again.phase_a_incompatible_parts
  have listedAgain : unique_in_scope_parts again.listed_parts lower again.round_end = .ok listing := by
    rw [repeats.round_end]
    exact collect_congr repeats.listed (listed_faithful _) listedFound
  unfold survey
  rw [repeats.config, repeats.intermediates]
  refine Results.check_ok.mpr ⟨valid, Results.bind_ok.mpr ⟨expected, ?_, Results.bind_ok.mpr ⟨lower, ?_,
    Results.bind_ok.mpr ⟨listing, listedAgain, Results.bind_ok.mpr ⟨available, availableFound,
    Results.bind_ok.mpr ⟨drops, dropsFound, Results.bind_ok.mpr ⟨_, uniqueFound,
    Results.bind_ok.mpr ⟨{ gathered with incompatible_parts := again.phase_a_incompatible_parts }, gatheredAgain,
    Results.check_ok.mpr ⟨validated, rfl⟩⟩⟩⟩⟩⟩⟩⟩⟩
  · rw [repeats.round_end]
    exact scope
  · rw [repeats.round_end]
    exact lowerFound

/-- Carrying the block that this round decides on gives that block. -/
theorem effective_recommendation_idem (selection : Option CompletedSelection) (previous : Option EffectiveRecommendation)
    (source_round : String) : effective_recommendation config selection
      (effective_recommendation config selection previous source_round) source_round =
        effective_recommendation config selection previous source_round := by
  have carried : (previous.map fun effective : EffectiveRecommendation => { effective with carried := true }).map
      (fun effective => { effective with carried := true }) =
        previous.map fun effective => { effective with carried := true } := by
    rw [Option.map_map]
    rfl
  cases selection with
  | none => exact carried
  | some selection =>
    unfold effective_recommendation
    by_cases approved : selection.status = .Ok ∧ config.approval_confidence ≤ selection.confidence
    · simp only [if_pos approved]
    · simp only [if_neg approved]
      exact carried

/-- The record again, computed at another time and without incompatible parts. -/
def restated (output : RoundOutput) (computed_at : String) (incompatible_parts : Nat) : RoundOutput :=
  { output with computed_at, incompatible_parts }

theorem aggregate_repeated {input again : AggregationInput} {output : RoundOutput} {filed : BTreeMap String IntermediatePart}
    (repeats : Repeats input again) (usable : AllUsable input filed) (published : aggregate beta_reg input = .ok output)
    (previous : again.previous_round = some output) :
    aggregate beta_reg again = .ok (restated output again.computed_at again.phase_a_incompatible_parts) := by
  obtain ⟨surveyed, surveyFound, concluded⟩ := Results.bind_ok.mp published
  have valid : ConfigValid again.config := repeats.config ▸ (survey_ok surveyFound).valid
  -- The fingerprints of a record and the config it was made under agree.
  have carries : carry_fingerprint_matches again.config output = true := by
    rw [carry_iff (aggregate_recorded published).under valid, repeats.config]
    exact ⟨rfl, rfl, rfl, rfl, rfl, rfl, rfl, rfl⟩
  have block : previous_effective again = output.effective := by
    simp [previous_effective, previous, Option.filter, carries]
  refine Results.bind_ok.mpr ⟨_, survey_repeated repeats usable surveyFound, ?_⟩
  obtain ⟨per_ef, summarised, rest⟩ := Results.bind_ok.mp concluded
  obtain ⟨⟨train, test⟩, splitFound, rest⟩ := Results.bind_ok.mp rest
  obtain ⟨selection, decided, rest⟩ := Results.bind_ok.mp rest
  obtain ⟨window_end, ended, rest⟩ := Results.bind_ok.mp rest
  obtain ⟨window_start, started, built⟩ := Results.bind_ok.mp rest
  obtain rfl := Except.ok.inj built
  have decidedAgain : decide_selection beta_reg again train test = .ok selection := by
    rw [← decided]
    unfold decide_selection
    rw [repeats.config, repeats.phase_a_abort]
  unfold conclude
  rw [repeats.config, repeats.round_end]
  refine Results.bind_ok.mpr ⟨per_ef, summarised, Results.bind_ok.mpr ⟨(train, test), splitFound,
    Results.bind_ok.mpr ⟨selection, decidedAgain, Results.bind_ok.mpr ⟨window_end, ended,
    Results.bind_ok.mpr ⟨window_start, started, ?_⟩⟩⟩⟩⟩
  have effective : effective_recommendation input.config selection (previous_effective again) window_end =
      effective_recommendation input.config selection (previous_effective input) window_end := by
    rw [block]
    exact effective_recommendation_idem selection (previous_effective input) window_end
  refine congrArg Except.ok ?_
  simp only [round_record, restated, repeats.config, repeats.phase_a_abort, effective]

/-! ### The store of a completed round -/

/-- The objects that a cohort's round reads are as they were. -/
structure SameCohort (config : AggregationConfig) (round_end : Nat) (objects objects' : Objects B) : Prop where
  sources : ∀ path, path.root = some "cohorts" → lookup objects' path = lookup objects path
  pairs : ∀ window_start part_ulid paths, intermediate_paths config.cohort window_start part_ulid = .ok paths →
    lookup objects' paths.1 = lookup objects paths.1 ∧ lookup objects' paths.2 = lookup objects paths.2
  latest : ∀ paths, round_paths config.cohort round_end = .ok paths → lookup objects' paths.2 = lookup objects paths.2

section Completed
variable {compatible : BTreeMap String IntermediatePart} {output : RoundOutput}

theorem completed_congr (same : SameCohort config round_end objects objects')
    (completed : Completed codec beta_reg config round_end objects window_starts sources compatible output) :
    Completed codec beta_reg config round_end objects' window_starts sources compatible output := by
  obtain ⟨paths, body, named, serialised, found⟩ := completed.stored
  refine ⟨completed.scope, sources_found_congr same.sources completed.found, ?_, completed.aggregated, paths, body, named,
    serialised, (same.latest paths named).trans found⟩
  exact completed.filled.mono fun source _ part reusable =>
    reusable_congr (fun paths named => same.pairs _ _ paths named) reusable

variable (completed : Completed codec beta_reg config round_end objects window_starts sources compatible output)
include completed

/-- Every source has a usable pair, the one that the map files under its ULID. -/
theorem completed_pair {source : SourcePart} (member : source ∈ sources) :
    ∃ part, compatible[ulid_of source]? = some part ∧ Reusable codec config objects source part := by
  obtain ⟨part, filed⟩ : ∃ part, compatible[ulid_of source]? = some part :=
    Option.isSome_iff_exists.mp (Std.ExtTreeMap.mem_iff_isSome_getElem?.mp
      ((completed.filled.keys _).mpr ⟨source, member, rfl⟩))
  obtain ⟨other, otherMember, same, reusable⟩ := completed.filled.values _ part filed
  obtain rfl := List.inj_on_of_nodup_map completed.found.distinct otherMember member same
  exact ⟨part, filed, reusable⟩

/-- Another survey of the store files the same pairs. -/
theorem completed_same_pairs {again : BTreeMap String IntermediatePart} {others : List SourcePart}
    (same : ∀ source, source ∈ others ↔ source ∈ sources)
    (filled : Filled ulid_of (Reusable codec config objects) others again) : again = compatible := by
  have once : ∀ source part part', Reusable codec config objects source part → Reusable codec config objects source part' →
      part = part' := by
    rintro source part part' ⟨paths, truth, sweep, named, first, second, read, _⟩
      ⟨paths', truth', sweep', named', first', second', read', _⟩
    obtain rfl := Except.ok.inj (named.symm.trans named')
    obtain rfl := Option.some.inj (first.symm.trans first')
    obtain rfl := Option.some.inj (second.symm.trans second')
    exact Except.ok.inj (read.symm.trans read')
  refine Std.ExtTreeMap.ext_getElem? fun key => ?_
  cases found : again[key]? with
  | some part =>
    obtain ⟨source, member, rfl, reusable⟩ := filled.values key part found
    obtain ⟨other, filed, reusable'⟩ := completed_pair completed ((same source).mp member)
    rw [filed, once source part other reusable reusable']
  | none =>
    cases filed : compatible[key]? with
    | none => rfl
    | some part =>
      obtain ⟨source, member, rfl, _⟩ := completed.filled.values key part filed
      have present : ulid_of source ∈ again := (filled.keys _).mpr ⟨source, (same source).mpr member, rfl⟩
      rw [Std.ExtTreeMap.mem_iff_isSome_getElem?, found] at present
      cases present

/-- Aggregating the sources and pairs of the store over its record makes that record again. -/
theorem completed_aggregate {others : List SourcePart} (same : ∀ source, source ∈ others ↔ source ∈ sources)
    (computed_at : String) (count : Nat) :
    aggregate beta_reg (round_input config round_end computed_at others count compatible none (some output)) =
      .ok (restated output computed_at count) := by
  obtain ⟨time, outdated, previous_round, aggregated⟩ := completed.aggregated
  have keyed : ∀ entry ∈ compatible.toList, ∃ source ∈ sources, ulid_of source = entry.1 ∧ Usable config source entry.2 := by
    intro entry member
    obtain ⟨source, inside, key, _, _, _, _, _, _, _, matching, usable⟩ := completed.filled.mem_toList member
    exact ⟨source, inside, key, matching, usable⟩
  have repeats : Repeats (round_input config round_end time sources outdated compatible none previous_round)
      (round_input config round_end computed_at others count compatible none (some output)) := by
    refine ⟨rfl, rfl, rfl, fun part => ?_, rfl⟩
    simp only [round_input, List.mem_map, same]
  have usable : AllUsable (round_input config round_end time sources outdated compatible none previous_round) compatible := by
    refine ⟨rfl, fun entry member => ?_, fun entry member => ?_, fun entry member => ?_⟩
    · obtain ⟨source, _, key, usable⟩ := keyed entry member
      rw [usable.metadata.2.1, key]
    · obtain ⟨source, _, _, usable⟩ := keyed entry member
      exact usable.compatible
    · obtain ⟨source, inside, key, _⟩ := keyed entry member
      refine ⟨source.listed, List.mem_map_of_mem inside, key, ?_⟩
      obtain ⟨window_start, present, _, loaded⟩ := completed.found.loaded source inside
      obtain ⟨_, starts, seconds⟩ := loaded.listed
      obtain ⟨_, above, below⟩ := (mem_in_scope_window_starts completed.scope window_start).mp present
      rw [InScope, starts, seconds]
      exact ⟨above, below⟩
  exact aggregate_repeated repeats usable aggregated rfl

/-- The windows in scope have names. -/
theorem completed_formatted : ∀ window_start ∈ window_starts,
    ∃ timestamp, format_window_timestamp window_start = .ok timestamp := by
  intro window_start member
  obtain ⟨_, _, before⟩ := (mem_in_scope_window_starts completed.scope window_start).mp member
  obtain ⟨paths, _, named, _⟩ := completed.stored
  obtain ⟨timestamp, formatted, _⟩ := Results.bind_ok.mp named
  exact format_window_timestamp_le (by omega) formatted

end Completed

/-! ### The second survey -/

section Second
variable {compatible : BTreeMap String IntermediatePart} {output : RoundOutput}
  (completed : Completed codec beta_reg config round_end world.objects window_starts sources compatible output)
include completed

/-- A survey of the store finds the sources and pairs again and leaves nothing pending. -/
theorem second_survey {others : List SourcePart} {classified : Classified}
    (run : Runs answer (survey_store codec config round_end) world (.returned (others, classified)) world') :
    (∀ source, source ∈ others ↔ source ∈ sources) ∧ classified = ⟨compatible, [], 0⟩ := by
  obtain ⟨starts, listed, begun, scope, found, kept, lists, classifyRun⟩ := runs_survey_store run
  obtain rfl := Except.ok.inj (completed.scope.symm.trans scope)
  have same : ∀ source, source ∈ others ↔ source ∈ sources :=
    fun source => ⟨same_sources scope (fun _ _ _ listed => ⟨listed, rfl⟩) found completed.found,
      same_sources scope (fun _ _ _ listed => ⟨listed, rfl⟩) completed.found found⟩
  have stored : ∀ source ∈ others, ∃ part, Reusable codec config world.objects source part := by
    intro source member
    obtain ⟨part, _, reusable⟩ := completed_pair completed ((same source).mp member)
    exact ⟨part, reusable⟩
  have all := all_listed found lists stored
  rw [← kept] at stored
  obtain ⟨nothing, none⟩ := classify_all_stored classifyRun stored all
  have bare : Filled ulid_of (Reusable codec config world.objects) [] (∅ : BTreeMap String IntermediatePart) := Filled.empty
  obtain ⟨reused, pending, split, filled, pendings, _⟩ := runs_classify classifyRun bare
    fun _ _ _ reusable => kept ▸ reusable
  rw [nothing, List.nil_append] at pendings
  rw [← pendings, List.append_nil] at split
  rw [List.nil_append] at filled
  have pairs := completed_same_pairs completed same (filled.congr fun source => split.mem_iff.symm)
  refine ⟨same, ?_⟩
  obtain ⟨filed, left, outdated⟩ := classified
  obtain rfl : filed = compatible := pairs
  obtain rfl : left = [] := nothing
  obtain rfl : outdated = 0 := none
  rfl

/-- The second survey returns unless it is stopped or disturbed. -/
theorem proceeds_survey : GoesOn (survey_store codec config round_end) world := by
  have formatted := completed_formatted completed
  refine proceeds_bind (proceeds_wrap completed.scope) fun starts middle scopeRun _ => ?_
  obtain ⟨scope, rfl⟩ := runs_wrap_returned.mp scopeRun
  obtain rfl := Except.ok.inj (completed.scope.symm.trans scope)
  have listing : GoesOn (list_source_objects config.cohort window_starts) middle :=
    proceeds_bind (proceeds_list_source_windows formatted) fun _ _ _ _ => proceeds_pure trivial
  refine proceeds_bind listing fun source_objects first sourceRun _ => ?_
  obtain ⟨perm, kept⟩ := runs_list_source_objects sourceRun
  refine proceeds_bind (proceeds_list_measurement_objects formatted) fun listed second measurementRun _ => ?_
  have keptAgain := performs_unchanged (list_measurement_objects_reads config.cohort window_starts) (fun _ _ => id)
    measurementRun
  have objects := keptAgain.trans kept
  have ulids : (canonical_ulids source_objects).Nodup :=
    ((perm.filterMap _).nodup_iff).mpr (completed.found.ulids.nodup_iff.mp completed.found.distinct)
  have readable : ∀ object ∈ source_objects, (source_part_ulid object.2).isSome → ∃ body prepared,
      lookup second.objects object.2 = some body ∧
        prepare_segment (codec.content body) config.cohort object.1 config.storage_window_seconds = .ok prepared := by
    rintro ⟨window_start, path⟩ member canonical
    obtain ⟨part_ulid, named⟩ := Option.isSome_iff_exists.mp canonical
    obtain ⟨inside, present⟩ := mem_source_objects.mp (perm.mem_iff.mp member)
    obtain ⟨source, sourceMember, rfl, rfl, _⟩ := member_of_listed completed.scope completed.found
      ⟨⟨window_starts, completed.scope, inside⟩, present, named⟩
    obtain ⟨start, _, _, loaded⟩ := completed.found.loaded source sourceMember
    obtain ⟨_, starts, _⟩ := loaded.listed
    obtain ⟨_, body, prepared, _, found, checked, _⟩ := loaded
    exact ⟨body, prepared, by rw [objects]; exact found, by rw [starts]; exact checked⟩
  have headers : GoesOn (load_source_headers codec config.cohort config.storage_window_seconds source_objects) second :=
    proceeds_bind (proceeds_load_headers readable ulids fun _ _ => Std.ExtTreeMap.not_mem_empty)
      fun _ _ _ _ => proceeds_pure trivial
  refine proceeds_bind headers fun others third headerRun _ => ?_
  have found := runs_load_source_headers (objects ▸ perm) headerRun
  have headerReads : Performs Reads (load_source_headers codec config.cohort config.storage_window_seconds source_objects) :=
    performs_bind (load_headers_reads codec config.cohort config.storage_window_seconds source_objects ∅) fun _ =>
      performs_pure
  have third_objects := (performs_unchanged headerReads (fun _ _ => id) headerRun).trans objects
  rw [objects] at found
  have stored : ∀ source ∈ others, ∃ part, Reusable codec config middle.objects source part := by
    intro source member
    obtain ⟨part, _, reusable⟩ := completed_pair completed
      (same_sources completed.scope (fun _ _ _ listed => ⟨listed, rfl⟩) found completed.found member)
    exact ⟨part, reusable⟩
  have lists := runs_list_measurement_objects measurementRun
  rw [kept] at lists
  have all := all_listed found lists stored
  rw [← third_objects] at stored
  exact proceeds_bind (proceeds_classify stored all) fun _ _ _ _ => proceeds_pure trivial

end Second

/-! ### Repeated rounds -/

/-- A round over the store of a completed one that published `output`. -/
structure Repeated (codec : Codec B) (config : AggregationConfig) (round_end : Nat) (computed_at : String)
    (output : RoundOutput) (world : World B) (outcome : Outcome PipelineError CohortRoundOutcome) (world' : World B) :
    Prop where
  /-- However it ends, it measures no sample and uploads its two records at most. -/
  log : ∃ block, world'.log = world.log ++ block ∧ (∀ vector config' reply, .measured vector config' reply ∉ block) ∧
    ∀ path body reply stored, .uploaded path body reply stored ∈ block →
      ∃ paths, round_paths config.cohort round_end = .ok paths ∧ (path = paths.1 ∨ path = paths.2)
  /-- What it publishes is the record again, unless the body of that record failed to be read. -/
  published : ∀ again, outcome = .returned (.Published again) →
    again = restated output computed_at 0 ∨
      ∃ paths message before after, round_paths config.cohort round_end = .ok paths ∧
        world'.log = world.log ++ before ++ .got paths.2 (.body_failed message) :: after
  /-- It publishes it when it is not stopped or disturbed and the record can be serialised. -/
  publishes : outcome ≠ .stopped → ¬Disturbed world world' →
    (∃ body, codec.to_vec (restated output computed_at 0) = .ok body) →
      outcome = .returned (.Published (restated output computed_at 0))

section Again
variable {compatible : BTreeMap String IntermediatePart} {output : RoundOutput}
  {outcome : Outcome PipelineError CohortRoundOutcome}
  (completed : Completed codec beta_reg config round_end world.objects window_starts sources compatible output)
include completed

/-- Past its survey, a second round goes on to its end at once. -/
theorem second_round
    (run : Runs answer (run_cohort_round codec beta_reg config round_end computed_at computed_at_us) world outcome world') :
    (∃ block, world'.log = world.log ++ block ∧ ∀ event ∈ block, Reads (request event)) ∧
        (∀ again, outcome ≠ .returned (.Published again)) ∨
      ∃ others middle block, (∀ source, source ∈ others ↔ source ∈ sources) ∧ middle.objects = world.objects ∧
        middle.log = world.log ++ block ∧ (∀ event ∈ block, Reads (request event)) ∧
        Runs answer (finish_round codec beta_reg config round_end computed_at others 0 compatible none) middle outcome
          world' := by
  have reads := survey_store_reads codec config round_end
  rcases runs_bind.mp run with ⟨⟨others, classified⟩, middle, surveyRun, rest⟩ | ⟨error, failed, rfl⟩ | ⟨stopped, rfl⟩
  · obtain ⟨same, rfl⟩ := second_survey completed surveyRun
    obtain ⟨block, logged, all⟩ := performs_log reads surveyRun
    exact .inr ⟨others, middle, block, same, performs_unchanged reads (fun _ _ => id) surveyRun, logged, all, rest⟩
  · exact .inl ⟨performs_log reads failed, by simp⟩
  · exact .inl ⟨performs_log reads stopped, by simp⟩

theorem second_published (laws : CodecLaws codec) {again : RoundOutput} {others : List SourcePart}
    (same : ∀ source, source ∈ others ↔ source ∈ sources) (unchanged : middle.objects = world.objects)
    {block : List (Event B)} (surveyed : middle.log = world.log ++ block)
    (ends : Runs answer (finish_round codec beta_reg config round_end computed_at others 0 compatible none) middle
      (.returned (.Published again)) world') :
    again = restated output computed_at 0 ∨
      ∃ paths message before after, round_paths config.cohort round_end = .ok paths ∧
        world'.log = world.log ++ before ++ .got paths.2 (.body_failed message) :: after := by
  have finish : Runs answer ((⟨config, round_end, computed_at, others, 0, compatible, none⟩ : Ending).program codec beta_reg)
      middle (.returned (.Published again)) world' := ends
  rcases runs_finish finish with withheld | ⟨paths, reply, record, body, prepared, puts⟩
  · exact absurd rfl (withheld.unpublished again)
  obtain ⟨after, logged⟩ : ∃ after, world'.log = world.log ++ (block ++ [.polled false]) ++ .got paths.2 reply :: after := by
    obtain ⟨after, whole⟩ := run_extends puts
    exact ⟨after, by rw [← whole, fetched, World.record, World.record, surveyed]; simp⟩
  rcases runs_put_round.mp puts with ⟨other, _⟩ | ⟨_, _, other, _⟩ | ⟨other, _⟩ | ⟨_, _, other, _⟩ | ⟨other, _⟩
  · cases other
  · cases other
  · cases other
  · cases other
  cases other
  obtain ⟨previous_round, read, aggregated⟩ := prepared.aggregated
  have readable := prepared.readable
  obtain ⟨paths', stored, named, serialised, present⟩ := completed.stored
  obtain rfl := Except.ok.inj (named.symm.trans prepared.named)
  rw [unchanged] at readable
  cases reply with
  | failed message => cases read
  | not_found => cases present.symm.trans readable
  | body_failed message => exact .inr ⟨paths', message, _, after, named, logged⟩
  | found bytes =>
    obtain rfl := Option.some.inj (present.symm.trans readable)
    rw [previous_of, laws.json serialised] at read
    obtain rfl := Except.ok.inj read
    exact .inl (Except.ok.inj (aggregated.symm.trans (completed_aggregate completed same computed_at 0)))

/-- Undisturbed, a second round publishes the record again. -/
theorem proceeds_second (laws : CodecLaws codec) {body : B}
    (serialised : codec.to_vec (restated output computed_at 0) = .ok body) :
    Proceeds (run_cohort_round codec beta_reg config round_end computed_at computed_at_us) world
      (· = .Published (restated output computed_at 0)) := by
  refine proceeds_bind (proceeds_survey completed) fun surveyed middle surveyRun _ => ?_
  obtain ⟨others, classified⟩ := surveyed
  obtain ⟨same, rfl⟩ := second_survey completed surveyRun
  have unchanged := performs_unchanged (survey_store_reads codec config round_end) (fun _ _ => id) surveyRun
  change Proceeds (finish_round codec beta_reg config round_end computed_at others 0 compatible none) middle _
  obtain ⟨paths, stored, named, written, present⟩ := completed.stored
  refine proceeds_poll (proceeds_bind (proceeds_wrap named) fun paths' start nameRun _ => ?_)
  obtain ⟨named', rfl⟩ := runs_wrap_returned.mp nameRun
  obtain rfl := Except.ok.inj (named.symm.trans named')
  unfold load_previous_round
  rw [bind_assoc]
  refine proceeds_bind_get (by rw [← present, ← unchanged]; rfl) ?_
  have carried : previous_of codec paths.2 (.found stored) = .ok (some output) := by
    rw [previous_of, laws.json written]
  refine proceeds_bind (proceeds_wrap carried) fun previous_round start readRun _ => ?_
  obtain ⟨read, rfl⟩ := runs_wrap_returned.mp readRun
  obtain rfl := Except.ok.inj (carried.symm.trans read)
  refine proceeds_bind (proceeds_wrap (completed_aggregate completed same computed_at 0)) fun record start aggregateRun _ => ?_
  obtain ⟨aggregated, rfl⟩ := runs_wrap_returned.mp aggregateRun
  obtain rfl := Except.ok.inj ((completed_aggregate completed same computed_at 0).symm.trans aggregated)
  refine proceeds_bind (proceeds_wrap (runs_round_json_bytes.mpr serialised)) fun bytes start jsonRun _ => ?_
  refine proceeds_bind (proceeds_put_bytes _ _) fun _ _ _ _ => ?_
  exact proceeds_bind (proceeds_put_bytes _ _) fun _ _ _ _ => proceeds_pure rfl

theorem second_repeated (laws : CodecLaws codec)
    (run : Runs answer (run_cohort_round codec beta_reg config round_end computed_at computed_at_us) world outcome world') :
    Repeated codec config round_end computed_at output world outcome world' := by
  have unmeasured : ∀ block : List (Event B), (∀ event ∈ block, Reads (request event) ∨ Closes config round_end (request event)) →
      (∀ vector config' reply, .measured vector config' reply ∉ block) ∧
        ∀ path body reply stored, .uploaded path body reply stored ∈ block →
          ∃ paths, round_paths config.cohort round_end = .ok paths ∧ (path = paths.1 ∨ path = paths.2) := by
    intro block all
    exact ⟨fun vector config' reply member => (all _ member).elim id id,
      fun path body reply stored member => (all _ member).elim False.elim id⟩
  refine ⟨?_, fun again same => ?_, fun unstopped undisturbed ⟨body, serialised⟩ => ?_⟩
  · rcases second_round completed run with ⟨⟨block, logged, reads⟩, _⟩ | ⟨others, middle, block, _, _, logged, reads, ends⟩
    · exact ⟨block, logged, unmeasured block fun event member => .inl (reads event member)⟩
    · obtain ⟨rest, restLogged, closes⟩ := performs_log (finish_round_closes others 0 compatible none) ends
      refine ⟨block ++ rest, by rw [restLogged, logged, List.append_assoc], unmeasured _ fun event member => ?_⟩
      exact (List.mem_append.mp member).imp (reads event) (closes event)
  · rcases second_round completed run with ⟨_, unpublished⟩ | ⟨others, middle, block, sameSources, unchanged, logged, _, ends⟩
    · exact absurd same (unpublished again)
    · exact second_published completed laws sameSources unchanged logged (same ▸ ends)
  · rcases proceeds_second completed laws serialised outcome world' run with stopped | disturbed | ⟨value, returned, rfl⟩
    · exact absurd stopped unstopped
    · exact absurd disturbed undisturbed
    · exact returned

end Again

/-- A round that published a record without an error is repeated by every later one over what it left. -/
theorem completed_rounds_repeat (codec : Codec B) (beta_reg : Float → Float → Float → Float) (laws : CodecLaws codec)
    (config : AggregationConfig) (round_end : Nat) (computed_at computed_at' : String) (computed_at_us computed_at_us' : Nat)
    (world world' later later' : World B) (output : RoundOutput) (outcome : Outcome PipelineError CohortRoundOutcome)
    (first : Runs answer (run_cohort_round codec beta_reg config round_end computed_at computed_at_us) world
      (.returned (.Published output)) world') (clean : output.error = none)
    (same : SameCohort config round_end world'.objects later.objects)
    (second : Runs answer (run_cohort_round codec beta_reg config round_end computed_at' computed_at_us') later outcome
      later') : Repeated codec config round_end computed_at' output later outcome later' := by
  obtain ⟨window_starts, sources, compatible, completed⟩ := completed_of_run laws.toParquetLaws first clean
  exact second_repeated (completed_congr same completed) laws second

/-- The second small round. -/
def smallSecond : Outcome PipelineError CohortRoundOutcome × World Body :=
  smallRound 120 2 smallFirst.2 (List.replicate 15 smallChoice)

theorem small_round_repeats :
    Repeated smallCodec smallConfig 120 "1970-01-01T00:02:05Z" smallOutput smallFirst.2 smallSecond.1 smallSecond.2 :=
  completed_rounds_repeat smallCodec smallBeta smallCodec_laws smallConfig 120 "1970-01-01T00:02:05Z" "1970-01-01T00:02:05Z"
    1 2 smallStore smallFirst.2 smallFirst.2 smallSecond.2 smallOutput smallSecond.1 (smallRound_runs smallFirst_published)
    rfl ⟨fun _ _ => rfl, fun _ _ _ _ => ⟨rfl, rfl⟩, fun _ _ => rfl⟩ ⟨List.replicate 15 smallChoice, rfl⟩

end VectorSeam.Fixpoints
