import VectorSeam.Pairs

/-!
What one round does to the store, however it ends. A record without an error has used
every canonical source in scope; a round that ends otherwise before its record is put
leaves the calibrations alone; and all it uploads besides are pairs of listed sources
whose measurement completed.
-/

namespace VectorSeam.RoundEffects
open VectorSeam.Model VectorSeam.ObjectStore VectorSeam.Window VectorSeam.Accounting VectorSeam.Aggregate
open VectorSeam.Intermediate VectorSeam.Measure VectorSeam.Effects VectorSeam.Programs VectorSeam.Pipeline
open VectorSeam.Requests VectorSeam.Histories VectorSeam.SortedMaps VectorSeam.SourceParts VectorSeam.Publishing
open VectorSeam.PendingParts VectorSeam.Rounds VectorSeam.Deposits VectorSeam.Pairs

variable {B : Type} {codec : Codec B} {beta_reg : Float → Float → Float → Float} {config : AggregationConfig}
  {round_end computed_at_us : Nat} {computed_at : String} {world world' : World B} {window_starts : List Nat}
  {sources : List SourcePart} {start past : List (Event B)}

/-! ### Listed sources -/

/-- A source object with a canonical name, in a window in scope. -/
structure Listed (objects : Objects B) (config : AggregationConfig) (round_end window_start : Nat) (path : Path)
    (part_ulid : String) : Prop where
  window : ∃ window_starts, in_scope_window_starts round_end config.window_duration_seconds config.storage_window_seconds =
    .ok window_starts ∧ window_start ∈ window_starts
  stored : path ∈ source_paths objects config.cohort window_start
  canonical : source_part_ulid path = some part_ulid

/-- A value that is found once is found at one place. -/
theorem eq_of_nodup_filterMap {α β : Type} {f : α → Option β} {items : List α} {left right : α} {value : β}
    (distinct : (items.filterMap f).Nodup) (memberLeft : left ∈ items) (memberRight : right ∈ items)
    (first : f left = some value) (second : f right = some value) : left = right := by
  induction items with
  | nil => cases memberLeft
  | cons item rest ih =>
    have later : ∀ other, other ∈ rest → f other = some value → value ∈ rest.filterMap f :=
      fun other member found => List.mem_filterMap.mpr ⟨other, member, found⟩
    cases found : f item with
    | none =>
      rw [List.filterMap_cons, found] at distinct
      have inRest : ∀ other, other ∈ item :: rest → f other = some value → other ∈ rest := by
        intro other member some
        rcases List.mem_cons.mp member with rfl | inside
        · rw [found] at some
          cases some
        · exact inside
      exact ih distinct (inRest left memberLeft first) (inRest right memberRight second)
    | some head =>
      rw [List.filterMap_cons, found, List.nodup_cons] at distinct
      rcases List.mem_cons.mp memberLeft with rfl | insideLeft
      · rcases List.mem_cons.mp memberRight with rfl | insideRight
        · rfl
        · obtain rfl := Option.some.inj (found.symm.trans first)
          exact absurd (later right insideRight second) distinct.1
      · rcases List.mem_cons.mp memberRight with rfl | insideRight
        · obtain rfl := Option.some.inj (found.symm.trans second)
          exact absurd (later left insideLeft first) distinct.1
        · exact ih distinct.2 insideLeft insideRight

section Found
variable {objects : Objects B} (scope : in_scope_window_starts round_end config.window_duration_seconds config.storage_window_seconds =
    .ok window_starts) (found : SourcesFound codec objects config window_starts sources)
include scope found

theorem listed_of_member {source : SourcePart} (member : source ∈ sources) :
    Listed objects config round_end source.listed.window_start source.path (ulid_of source) := by
  obtain ⟨window_start, inside, stored, loaded⟩ := found.loaded source member
  obtain ⟨canonical, same, _⟩ := loaded.listed
  rw [same]
  exact ⟨⟨window_starts, scope, inside⟩, stored, canonical⟩

theorem member_of_listed {window_start : Nat} {path : Path} {part_ulid : String}
    (listed : Listed objects config round_end window_start path part_ulid) :
    ∃ source ∈ sources, source.path = path ∧ source.listed.window_start = window_start ∧ ulid_of source = part_ulid := by
  obtain ⟨starts, scope', inside⟩ := listed.window
  obtain rfl := Except.ok.inj (scope.symm.trans scope')
  have object := mem_source_objects.mpr ⟨inside, listed.stored⟩
  have ulid : part_ulid ∈ sources.map ulid_of :=
    found.ulids.mem_iff.mpr (List.mem_filterMap.mpr ⟨_, object, listed.canonical⟩)
  obtain ⟨source, member, rfl⟩ := List.mem_map.mp ulid
  obtain ⟨window_start', inside', stored', loaded⟩ := found.loaded source member
  obtain ⟨canonical, same, _⟩ := loaded.listed
  have once : (canonical_ulids (source_objects objects config.cohort window_starts)).Nodup :=
    found.ulids.nodup_iff.mp found.distinct
  have place := eq_of_nodup_filterMap once (mem_source_objects.mpr ⟨inside', stored'⟩) object canonical listed.canonical
  exact ⟨source, member, (Prod.mk.inj place).2, same.trans (Prod.mk.inj place).1, rfl⟩

end Found

/-! ### The log of a round -/

/-- The requests that end a round: polls, and records fetched and uploaded. -/
def Closes (config : AggregationConfig) (round_end : Nat) : Effect B → Prop
  | .get path => path.root = some "calibrations"
  | .put path _ => ∃ paths, round_paths config.cohort round_end = .ok paths ∧ (path = paths.1 ∨ path = paths.2)
  | .is_cancelled => True
  | _ => False

theorem finish_round_closes (sources : List SourcePart) (phase_a_incompatible_parts : Nat)
    (compatible : BTreeMap String IntermediatePart) (phase_a_abort : Option PhaseAAbort) :
    Performs (Closes config round_end) (finish_round codec beta_reg config round_end computed_at sources
      phase_a_incompatible_parts compatible phase_a_abort) := by
  refine performs_bind (performs_perform trivial) fun cancelled => ?_
  cases cancelled with
  | true => exact performs_pure
  | false =>
    refine performs_bind_wrap fun paths named => ?_
    have load : Performs (Closes config round_end) (load_previous_round codec paths.2) :=
      performs_bind (performs_perform (round_paths_root named).2) fun reply => performs_wrap
    refine performs_bind load fun previous_round => ?_
    refine performs_bind performs_wrap fun output => performs_bind performs_wrap fun body => ?_
    refine (put_round_performs paths body output).mono ?_
    rintro effect ⟨path, rfl, either⟩
    exact ⟨paths, named, either⟩

theorem closes_root {path : Path} {body : B} (closes : Closes config round_end (.put path body)) :
    path.root = some "calibrations" := by
  obtain ⟨paths, named, rfl | rfl⟩ := closes
  · exact (round_paths_root named).1
  · exact (round_paths_root named).2

/-- Ending a round keeps its log orderly. -/
theorem Orderly.closes (orderly : Orderly codec config computed_at_us start sources past)
    (roots : ∀ source ∈ sources, source.path.root = some "cohorts") {block : List (Event B)}
    (fine : ∀ event ∈ block, Closes config round_end (request event)) :
    Orderly codec config computed_at_us start sources (past ++ block) := by
  induction block using List.reverseRecOn with
  | nil => rwa [List.append_nil]
  | append_singleton front event ih =>
    have earlier := ih fun other inside => fine other (List.mem_append_left _ inside)
    have closes := fine event (by simp)
    rw [← List.append_assoc]
    cases event with
    | polled cancelled => exact earlier.poll cancelled
    | got path reply =>
      refine earlier.fetch fun source member same => ?_
      have root := roots source member
      rw [same, show path.root = some "calibrations" from closes] at root
      exact absurd root (by decide)
    | uploaded path body reply stored =>
      refine earlier.upload fun root => ?_
      rw [closes_root closes] at root
      exact absurd root (by decide)
    | listed lead reply => exact absurd closes id
    | measured vector config' reply => exact absurd closes id

theorem untouched_reads {block : List (Event B)} (reads : ∀ event ∈ block, Reads (request event)) (source : SourcePart) :
    Untouched config block source := by
  have noUpload : ∀ path, ¬Tried block path := by
    rintro path ⟨body, reply, stored, member⟩
    exact reads _ member
  exact fun paths _ => ⟨noUpload paths.1, noUpload paths.2⟩

/-- Reading keeps a log without uploads orderly. -/
theorem orderly_reads {block : List (Event B)} (reads : ∀ event ∈ block, Reads (request event)) :
    Orderly codec config computed_at_us start sources block := by
  refine ⟨fun before event after split => ?_, fun before inside source _ _ =>
    untouched_reads (fun event member => reads event (inside.subset member)) source⟩
  have read := reads event (by simp [split])
  cases event with
  | listed lead reply => trivial
  | got path reply => trivial
  | uploaded path body reply stored => exact absurd read id
  | measured vector config' reply => exact absurd read id
  | polled cancelled => trivial

theorem reads_calm {block : List (Event B)} (reads : ∀ event ∈ block, Reads (request event)) : ∀ event ∈ block, ¬Ends event := by
  intro event member ends
  have read := reads event member
  cases event with
  | listed lead reply => exact ends
  | got path reply => exact ends
  | uploaded path body reply stored => exact ends
  | measured vector config' reply => exact read
  | polled cancelled => exact read

/-- A round that did not get past its survey has only read; otherwise its log is orderly for the sources it found. -/
theorem runs_round_orderly {outcome : Outcome PipelineError CohortRoundOutcome}
    (run : Runs answer (run_cohort_round codec beta_reg config round_end computed_at computed_at_us) world outcome world') :
    ∃ block, world'.log = world.log ++ block ∧ ((∀ event ∈ block, Reads (request event)) ∨
      ∃ window_starts sources,
        in_scope_window_starts round_end config.window_duration_seconds config.storage_window_seconds = .ok window_starts ∧
        SourcesFound codec world.objects config window_starts sources ∧
        Orderly codec config computed_at_us world.log sources block ∧
        ∀ event ∈ block, Gathers (request event) ∨ Closes config round_end (request event)) := by
  have surveying := survey_store_reads codec config round_end
  rcases runs_bind.mp run with ⟨⟨sources, classified⟩, surveyed, surveyRun, rest⟩ | ⟨_, failed, _⟩ | ⟨stopped, _⟩
  swap
  · obtain ⟨block, logged, reads⟩ := performs_log surveying failed
    exact ⟨block, logged, .inl reads⟩
  swap
  · obtain ⟨block, logged, reads⟩ := performs_log surveying stopped
    exact ⟨block, logged, .inl reads⟩
  obtain ⟨block, logged, reads⟩ := performs_log surveying surveyRun
  obtain ⟨window_starts, _, _, scope, found, _, _, classifyRun⟩ := runs_survey_store surveyRun
  have bare : Filled ulid_of (fun _ _ => True) [] (∅ : BTreeMap String IntermediatePart) := Filled.empty
  obtain ⟨_, pending, _, _, pendings, sub⟩ := runs_classify classifyRun bare fun _ _ _ _ => trivial
  simp only [List.nil_append] at pendings
  have measuring : ∀ (last : World B) (measured : Outcome PipelineError PendingOutcome),
      Runs answer (measure_pending codec config computed_at_us classified.pending classified.compatible) surveyed measured last →
      ∃ more, last.log = world.log ++ (block ++ more) ∧
        Orderly codec config computed_at_us world.log sources (block ++ more) ∧
        ∀ event ∈ block ++ more, Gathers (request event) := by
    intro last measured measureRun
    obtain ⟨more, lastLog, orderly⟩ := measure_pending_orderly measureRun (orderly_reads reads) logged (reads_calm reads)
      (found_named found) (pendings ▸ sub) (fun source _ => untouched_reads reads source)
    obtain ⟨more', lastLog', gathers⟩ := performs_log
      (measure_pending_gathers config computed_at_us classified.pending classified.compatible) measureRun
    obtain rfl : more = more' := by
      rw [lastLog', logged, List.append_assoc] at lastLog
      exact (List.append_cancel_left (List.append_cancel_left lastLog)).symm
    refine ⟨more, lastLog, orderly, fun event inside => ?_⟩
    rcases List.mem_append.mp inside with early | late
    · have read := reads event early
      cases event with
      | listed lead reply => trivial
      | got path reply => trivial
      | uploaded path body reply stored => exact absurd read id
      | measured vector config' reply => trivial
      | polled cancelled => trivial
    · exact gathers event late
  have finished : ∀ last : World B, (∃ more, last.log = world.log ++ (block ++ more) ∧
        Orderly codec config computed_at_us world.log sources (block ++ more) ∧
        ∀ event ∈ block ++ more, Gathers (request event)) →
      ∃ block, last.log = world.log ++ block ∧ ((∀ event ∈ block, Reads (request event)) ∨
      ∃ window_starts sources,
        in_scope_window_starts round_end config.window_duration_seconds config.storage_window_seconds = .ok window_starts ∧
        SourcesFound codec world.objects config window_starts sources ∧
        Orderly codec config computed_at_us world.log sources block ∧
        ∀ event ∈ block, Gathers (request event) ∨ Closes config round_end (request event)) := by
    rintro last ⟨more, lastLog, orderly, gathers⟩
    exact ⟨block ++ more, lastLog, .inr ⟨window_starts, sources, scope, found, orderly, fun event inside => .inl (gathers event inside)⟩⟩
  rcases runs_bind.mp rest with ⟨measured, last, measureRun, rest⟩ | ⟨_, failed, _⟩ | ⟨stopped, _⟩
  swap
  · exact finished _ (measuring _ _ failed)
  swap
  · exact finished _ (measuring _ _ stopped)
  obtain ⟨more, lastLog, orderly, gathers⟩ := measuring _ _ measureRun
  cases measured with
  | Cancelled =>
    obtain ⟨_, rfl⟩ := runs_pure.mp rest
    exact finished _ ⟨more, lastLog, orderly, gathers⟩
  | Measured compatible phase_a_abort =>
    obtain ⟨final, finalLog, closes⟩ := performs_log
      (finish_round_closes sources classified.phase_a_incompatible_parts compatible phase_a_abort) rest
    refine ⟨block ++ more ++ final, by rw [finalLog, lastLog, List.append_assoc], .inr ⟨window_starts, sources, scope, found,
      Orderly.closes orderly (fun source member => found_root found member) closes, fun event inside => ?_⟩⟩
    exact (List.mem_append.mp inside).imp (gathers event) (closes event)

/-! ### Contained rounds -/

/-- A published record without an error has used every listed source once, and is stored under both keys. -/
structure Complete (codec : Codec B) (beta_reg : Float → Float → Float → Float) (config : AggregationConfig)
    (round_end : Nat) (world : World B) (output : RoundOutput) (world' : World B) : Prop where
  aggregated : ∃ window_starts input surveyed,
    in_scope_window_starts round_end config.window_duration_seconds config.storage_window_seconds = .ok window_starts ∧
    input.config = config ∧ input.round_end = round_end ∧ aggregate beta_reg input = .ok output ∧
    survey input = .ok surveyed ∧
    (input.listed_parts.map (·.part_ulid)).Perm
      (canonical_ulids (source_objects world.objects config.cohort window_starts)) ∧
    (surveyed.gathered.used.map (·.metadata.part_ulid)).Perm
      (canonical_ulids (source_objects world.objects config.cohort window_starts)) ∧
    (canonical_ulids (source_objects world.objects config.cohort window_starts)).Nodup ∧
    output.parts_used = (canonical_ulids (source_objects world.objects config.cohort window_starts)).length ∧
    surveyed.gathered.incompatible_parts = input.phase_a_incompatible_parts
  stored : ∃ paths body, round_paths config.cohort round_end = .ok paths ∧ codec.to_vec output = .ok body ∧
    lookup world'.objects paths.1 = some body ∧ lookup world'.objects paths.2 = some body

/-- The events of a round over the objects it started from. -/
structure RoundLog (config : AggregationConfig) (round_end : Nat) (objects : Objects B) (block : List (Event B)) :
    Prop where
  /-- Uploads are of the two records, or of the pair of a listed source, its truth file first. -/
  uploads : ∀ before path body reply stored after, block = before ++ .uploaded path body reply stored :: after →
    (∃ paths, round_paths config.cohort round_end = .ok paths ∧ (path = paths.1 ∨ path = paths.2)) ∨
      ∃ window_start source part_ulid paths, Listed objects config round_end window_start source part_ulid ∧
        intermediate_paths config.cohort window_start part_ulid = .ok paths ∧
        (path = paths.1 ∨ path = paths.2 ∧ ∃ truth, .uploaded paths.1 truth (.ok ()) true ∈ before)
  /-- Samples are measured while the object of a listed source is in hand. -/
  samples : ∀ before vector config' reply after, block = before ++ .measured vector config' reply :: after →
    ∃ window_start source part_ulid, Listed objects config round_end window_start source part_ulid ∧
      in_hand before = some source
  /-- A source whose measurement is ended has no file uploaded, before or after. -/
  ended : ∀ before event after, block = before ++ event :: after → Ends event →
    ∀ window_start source part_ulid paths, Listed objects config round_end window_start source part_ulid →
      in_hand before = some source → intermediate_paths config.cohort window_start part_ulid = .ok paths →
      ¬Tried block paths.1 ∧ ¬Tried block paths.2

/-- What a round leaves behind when it ends with `outcome`. -/
structure Contained (codec : Codec B) (beta_reg : Float → Float → Float → Float) (config : AggregationConfig)
    (round_end : Nat) (world : World B) (outcome : Outcome PipelineError CohortRoundOutcome) (world' : World B) : Prop where
  complete : ∀ output, outcome = .returned (.Published output) → output.error = none →
    Complete codec beta_reg config round_end world output world'
  atomic : outcome ≠ .stopped → (∀ output, outcome ≠ .returned (.Published output)) →
    (∀ paths message, round_paths config.cohort round_end = .ok paths →
      outcome ≠ .failed (.Storage "PUT" paths.1.raw message) ∧ outcome ≠ .failed (.Storage "PUT" paths.2.raw message)) →
    ∀ path, path.root = some "calibrations" → lookup world'.objects path = lookup world.objects path
  sources : ∀ path, path.root = some "cohorts" → lookup world'.objects path = lookup world.objects path
  log : ∃ block, world'.log = world.log ++ block ∧ RoundLog config round_end world.objects block

variable {outcome : Outcome PipelineError CohortRoundOutcome}

/-- Without an abort the record has no error and the round has a pair for each source. -/
theorem abort_of_error {input : AggregationInput} {output : RoundOutput} (published : aggregate beta_reg input = .ok output)
    (clean : output.error = none) : input.phase_a_abort = none := by
  obtain ⟨surveyed, _, concluded⟩ := Results.bind_ok.mp published
  obtain ⟨per_ef, selection, window_start, window_end, _, _, _, rfl⟩ := conclude_ok concluded
  exact Option.map_eq_none_iff.mp clean

theorem complete_of_run (laws : ParquetLaws codec) {output : RoundOutput}
    (run : Runs answer (run_cohort_round codec beta_reg config round_end computed_at computed_at_us) world
      (.returned (.Published output)) world') (clean : output.error = none) :
    Complete codec beta_reg config round_end world output world' := by
  rcases runs_round run with ⟨_, unpublished⟩ | ⟨ending, middle, rfl, rfl, _, supplied, _, ends⟩
  · exact absurd rfl (unpublished output)
  rcases runs_finish ends with withheld | ⟨paths, reply, found, body, prepared, puts⟩
  · exact absurd rfl (withheld.unpublished output)
  rcases runs_put_round.mp puts with ⟨same, _⟩ | ⟨_, _, same, _⟩ | ⟨same, _⟩ | ⟨_, _, same, _⟩ | ⟨same, rfl⟩
  · cases same
  · cases same
  · cases same
  · cases same
  cases same
  obtain ⟨previous_round, _, aggregated⟩ := prepared.aggregated
  obtain ⟨window_starts, scope, sourcesFound⟩ := supplied.sources
  obtain ⟨used, sub, filled, finished⟩ := supplied.pairs
  obtain rfl := finished (abort_of_error aggregated clean)
  obtain ⟨surveyed, all, parts, _⟩ := aggregate_pairs laws scope sourcesFound sub filled aggregated
  have ulids := all.ulids.trans sourcesFound.ulids
  refine ⟨⟨window_starts, ending.input previous_round, surveyed, scope, rfl, rfl, aggregated, all.survey, ?_, ulids,
    sourcesFound.ulids.nodup_iff.mp sourcesFound.distinct, ?_, all.incompatible⟩,
    paths, body, prepared.named, prepared.serialised, ?_, ?_⟩
  · change ((ending.sources.map SourcePart.listed).map _).Perm _
    rw [List.map_map]
    exact sourcesFound.ulids
  · rw [parts, ← ulids.length_eq, List.length_map]
  · simp only [World.upload, ↓reduceIte, lookup_store, ite_self]
  · simp [World.upload]

theorem atomic_of_run (run : Runs answer (run_cohort_round codec beta_reg config round_end computed_at computed_at_us) world
    outcome world') (finished : outcome ≠ .stopped) (unpublished : ∀ output, outcome ≠ .returned (.Published output))
    (uploaded : ∀ paths message, round_paths config.cohort round_end = .ok paths →
      outcome ≠ .failed (.Storage "PUT" paths.1.raw message) ∧ outcome ≠ .failed (.Storage "PUT" paths.2.raw message))
    {path : Path} (root : path.root = some "calibrations") : lookup world'.objects path = lookup world.objects path := by
  have other : path.root ≠ some "measurements" := by rw [root]; decide
  rcases runs_round run with ⟨gathered, _⟩ | ⟨ending, middle, rfl, rfl, _, _, gathered, ends⟩
  · exact gathered.objects path other
  rcases runs_finish ends with withheld | ⟨paths, reply, found, body, prepared, puts⟩
  · rw [withheld.objects, gathered.objects path other]
  rcases runs_put_round.mp puts with ⟨same, _⟩ | ⟨message, _, same, _⟩ | ⟨same, _⟩ | ⟨message, _, same, _⟩ | ⟨same, _⟩
  · exact absurd same finished
  · exact absurd same (uploaded paths message prepared.named).1
  · exact absurd same finished
  · exact absurd same (uploaded paths message prepared.named).2
  · exact absurd same (unpublished found)

/-- Requests that upload measurements and records only leave the sources alone. -/
theorem sources_of_run (run : Runs answer (run_cohort_round codec beta_reg config round_end computed_at computed_at_us) world
    outcome world') {path : Path} (root : path.root = some "cohorts") :
    lookup world'.objects path = lookup world.objects path := by
  have other : path.root ≠ some "measurements" := by rw [root]; decide
  rcases runs_round run with ⟨gathered, _⟩ | ⟨ending, middle, rfl, rfl, _, _, gathered, ends⟩
  · exact gathered.objects path other
  rw [← gathered.objects path other]
  refine performs_objects (finish_round_closes ending.sources ending.phase_a_incompatible_parts ending.compatible
    ending.phase_a_abort) (fun put bytes closes same => ?_) ends
  have putRoot := closes_root closes
  rw [same, root] at putRoot
  exact absurd putRoot (by decide)

/-- An orderly log is one of its round. -/
theorem Orderly.round_log
    (scope : in_scope_window_starts round_end config.window_duration_seconds config.storage_window_seconds =
      .ok window_starts) (found : SourcesFound codec world.objects config window_starts sources) {block : List (Event B)}
    (orderly : Orderly codec config computed_at_us start sources block)
    (requests : ∀ event ∈ block, Gathers (request event) ∨ Closes config round_end (request event)) :
    RoundLog config round_end world.objects block := by
  have proper : ∀ before path body reply stored after, block = before ++ .uploaded path body reply stored :: after →
      path.root = some "measurements" → (∀ earlier ∈ before, ¬Ends earlier) ∧
        ∃ source ∈ sources, ∃ paths, pair_paths config source = .ok paths ∧
          (path = paths.1 ∨ path = paths.2 ∧ ∃ truth, .uploaded paths.1 truth (.ok ()) true ∈ before) := by
    intro before path body reply stored after split root
    obtain ⟨calm, source, member, deposit, first⟩ := orderly.uploads before _ after split root
    obtain ⟨paths, measured, truth, sweep, named, _, _, either⟩ := deposit.encoded
    refine ⟨calm, source, member, paths, named, ?_⟩
    rcases either with ⟨here, _⟩ | ⟨here, _⟩
    · exact .inl here
    · exact .inr ⟨here, first paths named here⟩
  refine ⟨fun before path body reply stored after split => ?_, fun before vector config' reply after split => ?_,
    fun before event after split ends window_start source part_ulid paths listed held named => ?_⟩
  · rcases requests (.uploaded path body reply stored) (by simp [split]) with gathers | closes
    · obtain ⟨_, source, member, paths, named, either⟩ := proper before path body reply stored after split gathers
      exact .inr ⟨_, _, _, paths, listed_of_member scope found member, named, either⟩
    · exact .inl closes
  · obtain ⟨source, member, held⟩ := orderly.uploads before _ after split
    exact ⟨_, _, _, listed_of_member scope found member, held⟩
  · obtain ⟨own, member, rfl, rfl, rfl⟩ := member_of_listed scope found listed
    have clean := orderly.clean before ⟨event :: after, split.symm⟩ own member held paths named
    have roots := intermediate_paths_root named
    -- An upload after the end would have it among its earlier events.
    have none : ∀ path, path.root = some "measurements" → ¬Tried before path → ¬Tried block path := by
      rintro path root untried ⟨body, reply, stored, tried⟩
      rw [split] at tried
      rcases List.mem_append.mp tried with early | late
      · exact untried ⟨body, reply, stored, early⟩
      rcases List.mem_cons.mp late with rfl | later
      · exact ends
      obtain ⟨front, back, rest⟩ := List.append_of_mem later
      have whole : block = (before ++ event :: front) ++ .uploaded path body reply stored :: back := by
        rw [split, rest]
        simp
      exact (proper _ path body reply stored back whole root).1 event (by simp) ends
    exact ⟨none paths.1 roots.1 clean.1, none paths.2 roots.2 clean.2⟩

theorem reads_round_log {objects : Objects B} {block : List (Event B)} (reads : ∀ event ∈ block, Reads (request event)) :
    RoundLog config round_end objects block := by
  refine ⟨fun before path body reply stored after split => ?_, fun before vector config' reply after split => ?_,
    fun before event after split ends => ?_⟩
  · exact absurd (reads (.uploaded path body reply stored) (by simp [split])) id
  · exact absurd (reads (.measured vector config' reply) (by simp [split])) id
  · exact absurd ends (reads_calm reads event (by simp [split]))

/-- Every round, over any store and however it ends, is contained. -/
theorem rounds_contained (codec : Codec B) (beta_reg : Float → Float → Float → Float) (laws : ParquetLaws codec)
    (config : AggregationConfig) (round_end : Nat) (computed_at : String) (computed_at_us : Nat) (world world' : World B)
    (outcome : Outcome PipelineError CohortRoundOutcome)
    (run : Runs answer (run_cohort_round codec beta_reg config round_end computed_at computed_at_us) world outcome world') :
    Contained codec beta_reg config round_end world outcome world' := by
  refine ⟨fun output same clean => complete_of_run laws (same ▸ run) clean,
    fun finished unpublished uploaded path root => atomic_of_run run finished unpublished uploaded root,
    fun path root => sources_of_run run root, ?_⟩
  obtain ⟨block, logged, reads | ⟨window_starts, sources, scope, found, orderly, requests⟩⟩ := runs_round_orderly run
  · exact ⟨block, logged, reads_round_log reads⟩
  · exact ⟨block, logged, Orderly.round_log scope found orderly requests⟩

theorem small_round_contained :
    Contained smallCodec smallBeta smallConfig 120 smallStore (.returned (.Published smallOutput)) smallFirst.2 :=
  rounds_contained smallCodec smallBeta smallCodec_laws.toParquetLaws smallConfig 120 "1970-01-01T00:02:05Z" 1 smallStore smallFirst.2 _
    (smallRound_runs smallFirst_published)

end VectorSeam.RoundEffects
