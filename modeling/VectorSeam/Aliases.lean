import VectorSeam.Strays

/-!
An object under an alias of a part name is taken for that part. A round over no other
object is then no longer the round over the empty store, or, beside the part itself,
the two objects claim one identifier. Objects under every other name are ignored.
-/

namespace VectorSeam.Aliases
open VectorSeam.Model VectorSeam.Text VectorSeam.Ulids VectorSeam.Window VectorSeam.ObjectStore VectorSeam.Accounting
open VectorSeam.Aggregate VectorSeam.Intermediate VectorSeam.Measure VectorSeam.Effects VectorSeam.Programs VectorSeam.Pipeline
open VectorSeam.Requests VectorSeam.Publishing VectorSeam.SourceParts VectorSeam.Pairs VectorSeam.RoundEffects VectorSeam.Strays

variable {B : Type} {codec : Codec B} {config : AggregationConfig} {world : World B} {window_starts : List Nat}

/-! ### A round cancelled after its survey -/

/-- Listings are complete and the token is cancelled. -/
def calm (paths : List Path) : Choice := ⟨.ok paths, .intact, .done, .error .CancelledBeforeTransaction, true⟩

theorem list_paths_return (world : World B) (lead : Path) :
    ∃ paths world', Runs answer (list_paths lead : Program B PipelineError _) world (.returned paths) world' ∧
      world'.objects = world.objects ∧ ∀ path ∈ paths, (lookup world.objects path).isSome := by
  refine ⟨listing world.objects lead, _, runs_bind_returned.mpr ⟨_, _,
    runs_perform.mpr (.inr ⟨calm (listing world.objects lead), rfl, rfl⟩),
    runs_wrap_returned.mpr ⟨list_reply_of_perm (.refl _), rfl⟩⟩, rfl, fun path member => (mem_listing.mp member).1⟩

theorem list_source_objects_return (world : World B) (cohort : String)
    (formats : ∀ window_start ∈ window_starts, ∃ timestamp, format_window_timestamp window_start = .ok timestamp) :
    ∃ objects world', Runs answer (list_source_objects cohort window_starts : Program B PipelineError _) world
      (.returned objects) world' ∧ world'.objects = world.objects := by
  have windows : ∀ world : World B, ∃ objects world', Runs answer (list_source_windows cohort window_starts : Program B PipelineError _)
      world (.returned objects) world' ∧ world'.objects = world.objects := by
    induction window_starts with
    | nil => exact fun world => ⟨[], world, runs_pure.mpr ⟨rfl, rfl⟩, rfl⟩
    | cons window_start rest ih =>
      intro world
      obtain ⟨⟨timestamp, formatted⟩, later⟩ := List.forall_mem_cons.mp formats
      obtain ⟨paths, middle, listed, kept, _⟩ := list_paths_return world (source_window cohort timestamp)
      obtain ⟨objects, world', rested, keptLater⟩ := ih later middle
      exact ⟨_, world', runs_bind_returned.mpr ⟨timestamp, world, runs_wrap_returned.mpr ⟨formatted, rfl⟩,
        runs_bind_returned.mpr ⟨paths, middle, listed, runs_bind_returned.mpr ⟨objects, world', rested,
          runs_pure.mpr ⟨rfl, rfl⟩⟩⟩⟩, keptLater.trans kept⟩
  obtain ⟨objects, world', run, kept⟩ := windows world
  exact ⟨_, world', runs_bind_returned.mpr ⟨objects, world', run, runs_pure.mpr ⟨rfl, rfl⟩⟩, kept⟩

theorem list_measurement_objects_return (world : World B) (cohort : String)
    (formats : ∀ window_start ∈ window_starts, ∃ timestamp, format_window_timestamp window_start = .ok timestamp) :
    ∃ paths world', Runs answer (list_measurement_objects cohort window_starts : Program B PipelineError _) world
      (.returned paths) world' ∧ world'.objects = world.objects ∧ ∀ path ∈ paths, (lookup world.objects path).isSome := by
  induction window_starts generalizing world with
  | nil => exact ⟨[], world, runs_pure.mpr ⟨rfl, rfl⟩, rfl, by simp⟩
  | cons window_start rest ih =>
    obtain ⟨⟨timestamp, formatted⟩, later⟩ := List.forall_mem_cons.mp formats
    obtain ⟨paths, middle, listed, kept, stored⟩ := list_paths_return world (measurement_window cohort timestamp)
    obtain ⟨others, world', rested, keptLater, storedLater⟩ := ih middle later
    refine ⟨_, world', runs_bind_returned.mpr ⟨timestamp, world, runs_wrap_returned.mpr ⟨formatted, rfl⟩,
      runs_bind_returned.mpr ⟨paths, middle, listed, runs_bind_returned.mpr ⟨others, world', rested,
        runs_pure.mpr ⟨rfl, rfl⟩⟩⟩⟩, keptLater.trans kept, fun path member => ?_⟩
    rcases List.mem_append.mp member with here | there
    · exact stored path here
    · rw [← kept]
      exact storedLater path there

/-- Listed objects whose canonical ones can be loaded. -/
structure Loadable (codec : Codec B) (objects : Objects B) (config : AggregationConfig) (listed : List (Nat × Path)) : Prop where
  loaded : ∀ (window_start : Nat) (path : Path) (part_ulid : String), (window_start, path) ∈ listed →
    source_part_ulid path = some part_ulid → ∃ body prepared, lookup objects path = some body ∧
      prepare_segment (codec.content body) config.cohort window_start config.storage_window_seconds = .ok prepared
  distinct : (canonical_ulids listed).Nodup

theorem load_headers_return (world : World B) {objects : Objects B} {listed : List (Nat × Path)} (by_ulid : BTreeMap String SourcePart)
    (loadable : Loadable codec objects config listed) (fresh : ∀ part_ulid ∈ canonical_ulids listed, part_ulid ∉ by_ulid)
    (same : world.objects = objects) :
    ∃ result world', Runs answer (load_headers codec config.cohort config.storage_window_seconds listed by_ulid) world
      (.returned result) world' ∧ world'.objects = objects := by
  induction listed generalizing world by_ulid with
  | nil => exact ⟨by_ulid, world, runs_pure.mpr ⟨rfl, rfl⟩, same⟩
  | cons object rest ih =>
    obtain ⟨window_start, path⟩ := object
    have loadedLater : ∀ (start : Nat) (other : Path) (part_ulid : String), (start, other) ∈ rest →
        source_part_ulid other = some part_ulid → _ :=
      fun start other part_ulid member => loadable.loaded start other part_ulid (List.mem_cons_of_mem _ member)
    unfold load_headers
    cases named : source_part_ulid path with
    | none =>
      have none_here : canonical_ulids ((window_start, path) :: rest) = canonical_ulids rest := List.filterMap_cons_none named
      have distinct := loadable.distinct
      rw [none_here] at fresh distinct
      exact ih world by_ulid ⟨loadedLater, distinct⟩ fresh same
    | some part_ulid =>
      have some_here : canonical_ulids ((window_start, path) :: rest) = part_ulid :: canonical_ulids rest :=
        List.filterMap_cons_some named
      have distinct := loadable.distinct
      rw [some_here] at fresh distinct
      rw [List.nodup_cons] at distinct
      obtain ⟨new, freshLater⟩ := List.forall_mem_cons.mp fresh
      obtain ⟨body, prepared, stored, made⟩ := loadable.loaded window_start path part_ulid List.mem_cons_self named
      have freshNow : ∀ other ∈ canonical_ulids rest, other ∉ by_ulid.insert part_ulid (source_part path part_ulid prepared) := by
        intro other member present
        rw [Std.ExtTreeMap.mem_insert, Std.LawfulEqCmp.compare_eq_iff_eq] at present
        rcases present with rfl | already
        · exact distinct.1 member
        · exact freshLater other member already
      obtain ⟨result, world', run, kept⟩ := ih (world.record (.got path (.found body))) _ ⟨loadedLater, distinct.2⟩
        freshNow same
      refine ⟨result, world', runs_bind_returned.mpr ⟨body, _, runs_get_bytes.mpr ⟨same ▸ stored, rfl⟩,
        runs_bind_returned.mpr ⟨prepared, _, runs_wrap_returned.mpr ⟨made, rfl⟩, ?_⟩⟩, kept⟩
      rw [if_neg new]
      exact run

/-- Without stored measurements every source is pending. -/
theorem classify_return (codec : Codec B) (config : AggregationConfig) (world : World B) (measurement_objects : List Path) {sources : List SourcePart} (classified : Classified)
    (formats : ∀ source ∈ sources, ∃ timestamp, format_window_timestamp source.listed.window_start = .ok timestamp)
    (unmeasured : ∀ path ∈ measurement_objects, path.root ≠ some "measurements") :
    Runs answer (classify codec config measurement_objects sources classified) world
      (.returned { classified with pending := classified.pending ++ sources }) world := by
  induction sources generalizing classified with
  | nil => exact runs_pure.mpr ⟨by simp, rfl⟩
  | cons source rest ih =>
    obtain ⟨⟨timestamp, formatted⟩, later⟩ := List.forall_mem_cons.mp formats
    have paths : ∃ paths, intermediate_paths config.cohort source.listed.window_start source.listed.part_ulid = .ok paths :=
      ⟨_, by rw [intermediate_paths, formatted]; rfl⟩
    obtain ⟨⟨truth_path, sweep_path⟩, named⟩ := paths
    refine runs_bind_returned.mpr ⟨_, world, runs_wrap_returned.mpr ⟨named, rfl⟩, ?_⟩
    have absent : ¬(truth_path ∈ measurement_objects ∧ sweep_path ∈ measurement_objects) :=
      fun both => unmeasured _ both.1 (intermediate_paths_root named).1
    simp only [if_neg absent]
    have run := ih { classified with pending := classified.pending ++ [source] } later
    simpa using run

/-- A round whose sources can be loaded may be cancelled before it measures or publishes anything. -/
theorem cancelled_run (codec : Codec B) (beta_reg : Float → Float → Float → Float) (round_end : Nat) (computed_at : String)
    (computed_at_us : Nat) {objects : Objects B}
    (scope : in_scope_window_starts round_end config.window_duration_seconds config.storage_window_seconds = .ok window_starts)
    (formats : ∀ window_start ∈ window_starts, ∃ timestamp, format_window_timestamp window_start = .ok timestamp)
    (unmeasured : ∀ path, (lookup objects path).isSome → path.root ≠ some "measurements")
    (loadable : Loadable codec objects config (source_objects objects config.cohort window_starts)) :
    ∃ world', Runs answer (run_cohort_round codec beta_reg config round_end computed_at computed_at_us) ⟨objects, []⟩
      (.returned .Cancelled) world' := by
  obtain ⟨listed, first, sourceRun, kept⟩ := list_source_objects_return ⟨objects, []⟩ config.cohort formats
  have perm := (runs_list_source_objects sourceRun).1
  obtain ⟨measurements, second, measurementRun, keptAgain, stored⟩ := list_measurement_objects_return first config.cohort formats
  have loadableListed : Loadable codec objects config listed :=
    ⟨fun window_start path part_ulid member => loadable.loaded window_start path part_ulid (perm.mem_iff.mp member),
      (perm.filterMap _).nodup_iff.mpr loadable.distinct⟩
  obtain ⟨by_ulid, third, headerRun, _⟩ :=
    load_headers_return second ∅ loadableListed (fun _ _ => Std.ExtTreeMap.not_mem_empty) (keptAgain.trans kept)
  have sourcesRun : Runs answer (load_source_headers codec config.cohort config.storage_window_seconds listed) second
      (.returned (by_ulid.toList.map Prod.snd)) third := runs_bind_returned.mpr ⟨by_ulid, third, headerRun, runs_pure.mpr ⟨rfl, rfl⟩⟩
  have loadedPerm : listed.Perm (source_objects second.objects config.cohort window_starts) := by
    rw [keptAgain, kept]
    exact perm
  have found : SourcesFound codec second.objects config window_starts (by_ulid.toList.map Prod.snd) :=
    runs_load_source_headers loadedPerm sourcesRun
  generalize by_ulid.toList.map Prod.snd = sources at sourcesRun found
  have formatted : ∀ source ∈ sources, ∃ timestamp, format_window_timestamp source.listed.window_start = .ok timestamp := by
    intro source member
    obtain ⟨window_start, inScope, _, loaded⟩ := found.loaded source member
    rw [loaded.listed.2.1]
    exact formats window_start inScope
  have classified := classify_return codec config third measurements ⟨∅, [], 0⟩ formatted
    fun path member => unmeasured path (by simpa [kept] using stored path member)
  have surveyed : Runs answer (survey_store codec config round_end) ⟨objects, []⟩ (.returned (sources, ⟨∅, sources, 0⟩)) third :=
    runs_bind_returned.mpr ⟨window_starts, _, runs_wrap_returned.mpr ⟨scope, rfl⟩, runs_bind_returned.mpr ⟨listed, first, sourceRun,
      runs_bind_returned.mpr ⟨measurements, second, measurementRun, runs_bind_returned.mpr ⟨sources, third, sourcesRun,
        runs_bind_returned.mpr ⟨_, third, classified, runs_pure.mpr ⟨rfl, rfl⟩⟩⟩⟩⟩⟩
  have polled : Runs answer (is_cancelled : Program B PipelineError Bool) third (.returned true) (third.record (.polled true)) :=
    runs_is_cancelled.mpr (.inr ⟨true, rfl, rfl⟩)
  refine ⟨third.record (.polled true), runs_bind_returned.mpr ⟨_, third, surveyed, ?_⟩⟩
  cases sources with
  | nil =>
    refine runs_bind_returned.mpr ⟨.Measured ∅ none, third, runs_pure.mpr ⟨rfl, rfl⟩, ?_⟩
    exact runs_bind_returned.mpr ⟨true, _, polled, runs_pure.mpr ⟨rfl, rfl⟩⟩
  | cons source rest =>
    refine runs_bind_returned.mpr ⟨.Cancelled, _, ?_, runs_pure.mpr ⟨rfl, rfl⟩⟩
    exact runs_bind_returned.mpr ⟨true, _, polled, runs_pure.mpr ⟨rfl, rfl⟩⟩

/-! ### Strays -/

section Strays
variable (codec : Codec B) (beta_reg : Float → Float → Float → Float) (config : AggregationConfig) (round_end : Nat)
  (computed_at : String) (computed_at_us : Nat) (stray : Path) (body : B)

/-- The rounds over a store with and without an object are the same: each run over one is matched by a run over the
    other with the same outcome, which got the same answers to the same requests and left the same objects, but for
    the object itself and its place in listings. -/
def Unaffected (objects : Objects B) : Prop :=
  (∀ outcome full', Runs answer (run_cohort_round codec beta_reg config round_end computed_at computed_at_us)
      ⟨store objects stray body, []⟩ outcome full' →
    ∃ bare', Runs answer (run_cohort_round codec beta_reg config round_end computed_at computed_at_us) ⟨objects, []⟩ outcome bare' ∧
      Hides stray body full' bare') ∧
  ∀ outcome bare', Runs answer (run_cohort_round codec beta_reg config round_end computed_at computed_at_us)
      ⟨objects, []⟩ outcome bare' →
    ∃ full', Runs answer (run_cohort_round codec beta_reg config round_end computed_at computed_at_us)
      ⟨store objects stray body, []⟩ outcome full' ∧ Hides stray body full' bare'

variable {codec beta_reg config round_end computed_at computed_at_us stray body}

theorem hides_store {objects : Objects B} (absent : lookup objects stray = none) :
    Hides stray body (⟨store objects stray body, []⟩ : World B) ⟨objects, []⟩ where
  present := by simp
  absent := absent
  others path different := lookup_store_of_ne (Ne.symm different)
  log := rfl

theorem unaffected_of_unnamed (root : stray.root = some "cohorts") (unnamed : source_part_ulid stray = none) {objects : Objects B}
    (absent : lookup objects stray = none) :
    Unaffected codec beta_reg config round_end computed_at computed_at_us stray body objects := by
  obtain ⟨forth, back⟩ : Matched stray body (· = ·) (run_cohort_round codec beta_reg config round_end computed_at computed_at_us) _ :=
    matched_run_cohort_round codec beta_reg config round_end computed_at computed_at_us root unnamed
  constructor
  · intro outcome full' run
    obtain ⟨outcome', bare', run', hides, alike⟩ := forth _ _ _ _ (hides_store absent) run
    exact ⟨bare', alike.eq ▸ run', hides⟩
  · intro outcome bare' run
    obtain ⟨outcome', full', run', hides, alike⟩ := back _ _ _ _ (hides_store absent) run
    cases alike with
    | returned same => exact ⟨full', same ▸ run', hides⟩
    | failed error => exact ⟨full', run', hides⟩
    | stopped => exact ⟨full', run', hides⟩

/-- A round that returned has loaded each canonical object, each under an identifier of its own. -/
theorem returned_loadable {objects : Objects B} {outcome : CohortRoundOutcome} {world' : World B}
    (scope : in_scope_window_starts round_end config.window_duration_seconds config.storage_window_seconds = .ok window_starts)
    (run : Runs answer (run_cohort_round codec beta_reg config round_end computed_at computed_at_us) ⟨objects, []⟩
      (.returned outcome) world') : Loadable codec objects config (source_objects objects config.cohort window_starts) := by
  obtain ⟨⟨sources, classified⟩, middle, surveyed, _⟩ := runs_bind_returned.mp run
  obtain ⟨starts, _, _, scope', found, _⟩ := runs_survey_store surveyed
  obtain rfl := Except.ok.inj (scope'.symm.trans scope)
  refine ⟨fun window_start path part_ulid member named => ?_, found.ulids.nodup_iff.mp found.distinct⟩
  obtain ⟨inScope, stored⟩ := mem_source_objects.mp member
  obtain ⟨source, present, rfl, same, _⟩ := member_of_listed scope found ⟨⟨_, scope, inScope⟩, stored, named⟩
  obtain ⟨start, _, _, loaded⟩ := found.loaded source present
  obtain ⟨_, starts, _⟩ := loaded.listed
  obtain ⟨_, stored, prepared, _, there, made, _⟩ := loaded
  rw [← same, starts]
  exact ⟨stored, prepared, there, made⟩

end Strays

/-! ### The part beside its alias -/

theorem filename_split {path : Path} {name : String} (found : path.filename = some name) :
    path.parts = path.parts.dropLast ++ [name] := by
  have nonempty : path.parts ≠ [] := by
    intro empty
    rw [Path.filename, empty] at found
    cases found
  have last := List.getLast?_eq_some_getLast nonempty
  rw [← Path.filename, found] at last
  rw [Option.some.inj last]
  exact (List.dropLast_append_getLast nonempty).symm

/-- What lies below a prefix depends on the directory only. -/
theorem below_same_directory {lead left right : Path} {first second : String} (firstName : left.filename = some first)
    (secondName : right.filename = some second) (same : left.parts.dropLast = right.parts.dropLast) :
    lead.below left = lead.below right := by
  have directory : ∀ {path : Path} {name : String}, path.filename = some name →
      (lead.below path = true ↔ lead.parts <+: path.parts.dropLast) := by
    intro path name found
    have parts := filename_split found
    rw [Keys.below_iff]
    generalize path.parts.dropLast = front at parts
    rw [parts]
    constructor
    · rintro ⟨begins, shorter⟩
      rcases List.prefix_concat_iff.mp begins with whole | inside
      · rw [whole] at shorter
        exact absurd shorter (by simp)
      · exact inside
    · intro inside
      refine ⟨inside.trans (List.prefix_append _ _), ?_⟩
      have shorter := inside.length_le
      rw [List.length_append, List.length_singleton]
      omega
  rw [Bool.eq_iff_iff, directory firstName, directory secondName, same]

theorem extension_of_named {path : Path} {text : String} (named : Named path text) : path.extension = some "vseam" := by
  have pieces : split_on '.' ("part-" ++ text ++ ".vseam") = split_on '.' ("part-" ++ text) ++ ["vseam"] := by
    have joined : ("part-" ++ text ++ ".vseam").toList = ("part-" ++ text).toList ++ '.' :: "vseam".toList := by simp
    rw [split_on, joined, List.splitOn_append_cons_self, List.map_append]
    rfl
  have some_piece : split_on '.' ("part-" ++ text) ≠ [] := by simp [split_on]
  rw [Path.extension, show path.filename = _ from named]
  simp only [Option.bind_some, pieces, List.reverse_append, List.reverse_cons, List.reverse_nil, List.nil_append,
    List.singleton_append]
  obtain ⟨last, rest, same⟩ := List.exists_cons_of_ne_nil (List.reverse_ne_nil_iff.mpr some_piece)
  rw [same]
  rfl

/-- The part itself, in the directory of its alias. -/
def sibling (stray : Path) (part : Ulid) : Path := ⟨stray.parts.dropLast ++ ["part-" ++ part.to_string ++ ".vseam"]⟩

theorem sibling_named (stray : Path) (part : Ulid) : Named (sibling stray part) part.to_string := by
  simp [Named, Path.filename, sibling]

theorem mem_source_paths {objects : Objects B} {cohort timestamp : String} {window_start : Nat} {path : Path}
    (formatted : format_window_timestamp window_start = .ok timestamp) : path ∈ source_paths objects cohort window_start ↔
      (lookup objects path).isSome ∧ (source_window cohort timestamp).below path = true ∧ path.extension = some "vseam" := by
  simp [source_paths, formatted, mem_listing, and_assoc]

theorem stored_single {stored path : Path} {body : B} {cohort : String} {window_start : Nat}
    (member : path ∈ source_paths [(stored, body)] cohort window_start) : path = stored := by
  unfold source_paths at member
  cases formatted : format_window_timestamp window_start with
  | error error => rw [formatted] at member; cases member
  | ok timestamp =>
    rw [formatted] at member
    have present := (mem_listing.mp (List.mem_filter.mp member).1).1
    by_contra elsewhere
    simp [lookup, Ne.symm elsewhere] at present

theorem source_paths_single {path : Path} {body : B} {cohort : String} {window_start : Nat} :
    source_paths [(path, body)] cohort window_start =
      match format_window_timestamp window_start with
      | .ok timestamp => [path].filter fun path =>
          (source_window cohort timestamp).below path && decide (path.extension = some "vseam")
      | .error _ => [] := by
  unfold source_paths
  cases format_window_timestamp window_start with
  | error error => rfl
  | ok timestamp => simp [listing, List.filter_filter, Bool.and_comm]

variable {stray : Path} {text : String} {part : Ulid}

/-- The part alone is listed wherever its alias alone is. -/
theorem source_objects_sibling (body : B) (named : Named stray text) (cohort : String) (window_starts : List Nat) :
    source_objects [(sibling stray part, body)] cohort window_starts =
      (source_objects [(stray, body)] cohort window_starts).map fun object => (object.1, sibling stray part) := by
  have same : (sibling stray part).parts.dropLast = stray.parts.dropLast := by simp [sibling]
  have siblingNamed := sibling_named stray part
  rw [source_objects, source_objects, List.map_flatMap]
  refine congrArg (List.flatMap · window_starts) (funext fun window_start => ?_)
  rw [source_paths_single, source_paths_single]
  cases format_window_timestamp window_start with
  | error error => rfl
  | ok timestamp =>
    have below : (source_window cohort timestamp).below (sibling stray part) = (source_window cohort timestamp).below stray :=
      below_same_directory siblingNamed named same
    simp only [List.filter_cons, List.filter_nil, extension_of_named named, extension_of_named siblingNamed, below]
    by_cases inside : (source_window cohort timestamp).below stray = true
    · simp [inside]
    · simp [inside]

theorem formats_of_scope {round_end window_duration_seconds storage_window_seconds : Nat} (bounded : round_end < 2 ^ 64)
    (scope : in_scope_window_starts round_end window_duration_seconds storage_window_seconds = .ok window_starts) :
    ∀ window_start ∈ window_starts, ∃ timestamp, format_window_timestamp window_start = .ok timestamp := by
  intro window_start member
  have inside := (mem_in_scope_window_starts scope window_start).mp member
  exact format_window_timestamp_ok (by omega)

/-- An alias changes the round over some store: over the empty one, or over that of the part itself. -/
theorem aliased_affects (codec : Codec B) (beta_reg : Float → Float → Float → Float) (computed_at : String) (computed_at_us : Nat)
    {round_end window_start : Nat} {timestamp : String} (body : B) (bounded : round_end < 2 ^ 64)
    (scope : in_scope_window_starts round_end config.window_duration_seconds config.storage_window_seconds = .ok window_starts)
    (member : window_start ∈ window_starts) (formatted : format_window_timestamp window_start = .ok timestamp)
    (below : (source_window config.cohort timestamp).below stray = true) (aliased : Aliased stray) :
    ∃ objects, lookup objects stray = none ∧
      ¬Unaffected codec beta_reg config round_end computed_at computed_at_us stray body objects := by
  obtain ⟨text, part, named, parsed, other⟩ := aliased
  have formats := formats_of_scope bounded scope
  have strayUlid : source_part_ulid stray = some part.to_string := source_part_ulid_iff.mpr ⟨text, part, named, parsed, rfl⟩
  have siblingUlid : source_part_ulid (sibling stray part) = some part.to_string :=
    source_part_ulid_iff.mpr ⟨_, part, sibling_named stray part, parse_to_string part, rfl⟩
  have different : sibling stray part ≠ stray := by
    intro same
    have names := sibling_named stray part
    rw [same, Named, show stray.filename = _ from named] at names
    refine other (String.toList_inj.mp ?_)
    have texts := congrArg String.toList (Option.some.inj names)
    simpa using texts
  have strayListed : ∀ objects : Objects B, (lookup objects stray).isSome →
      (window_start, stray) ∈ source_objects objects config.cohort window_starts := fun objects stored =>
    mem_source_objects.mpr ⟨member, (mem_source_paths formatted).mpr ⟨stored, below, extension_of_named named⟩⟩
  have siblingBelow : (source_window config.cohort timestamp).below (sibling stray part) = true := by
    rw [below_same_directory (sibling_named stray part) named (by simp [sibling]), below]
  have siblingListed : ∀ objects : Objects B, (lookup objects (sibling stray part)).isSome →
      (window_start, sibling stray part) ∈ source_objects objects config.cohort window_starts := fun objects stored =>
    mem_source_objects.mpr ⟨member, (mem_source_paths formatted).mpr
      ⟨stored, siblingBelow, extension_of_named (sibling_named stray part)⟩⟩
  by_contra all
  have unaffected : ∀ objects, lookup objects stray = none →
      Unaffected codec beta_reg config round_end computed_at computed_at_us stray body objects := by
    intro objects absent
    by_contra affected
    exact all ⟨objects, absent, affected⟩
  -- Over the empty store nothing can fail, so the alias loads when it is the only object.
  have alone : Loadable codec [(stray, body)] config (source_objects [(stray, body)] config.cohort window_starts) := by
    have nothing : source_objects ([] : Objects B) config.cohort window_starts = [] := by
      refine List.flatMap_eq_nil_iff.mpr fun start _ => List.map_eq_nil_iff.mpr ?_
      unfold source_paths
      cases format_window_timestamp start with
      | error error => rfl
      | ok timestamp => simp [listing]
    have empty : Loadable codec ([] : Objects B) config (source_objects ([] : Objects B) config.cohort window_starts) := by
      rw [nothing]
      exact ⟨fun _ _ _ listed => absurd listed List.not_mem_nil, List.nodup_nil⟩
    obtain ⟨bare', cancelled⟩ := cancelled_run codec beta_reg round_end computed_at computed_at_us scope formats (by simp [lookup]) empty
    obtain ⟨full', run, _⟩ := (unaffected [] rfl).2 _ _ cancelled
    exact returned_loadable scope run
  -- So does the part itself, which has the same body.
  have beside : Loadable codec [(sibling stray part, body)] config
      (source_objects [(sibling stray part, body)] config.cohort window_starts) := by
    rw [source_objects_sibling body named]
    constructor
    · intro start path part_ulid present _
      obtain ⟨⟨start', path'⟩, listed, same⟩ := List.mem_map.mp present
      obtain ⟨rfl, rfl⟩ := Prod.mk.inj same
      obtain rfl := stored_single (mem_source_objects.mp listed).2
      obtain ⟨stored, prepared, found, made⟩ := alone.loaded start' path' _ listed strayUlid
      obtain rfl : body = stored := by simpa [lookup] using found
      exact ⟨body, prepared, by simp [lookup], made⟩
    · have same : canonical_ulids ((source_objects [(stray, body)] config.cohort window_starts).map fun object =>
          (object.1, sibling stray part)) = canonical_ulids (source_objects [(stray, body)] config.cohort window_starts) := by
        rw [canonical_ulids, canonical_ulids, List.filterMap_map]
        refine List.filterMap_congr fun object listed => ?_
        have here := stored_single (mem_source_objects.mp (show (object.1, object.2) ∈ _ from listed)).2
        rw [Function.comp_apply, here, siblingUlid, strayUlid]
      rw [same]
      exact alone.distinct
  have unmeasured : ∀ path, (lookup [(sibling stray part, body)] path).isSome → path.root ≠ some "measurements" := by
    intro path stored
    have here : path = sibling stray part := by
      by_contra elsewhere
      simp [lookup, Ne.symm elsewhere] at stored
    have listed := siblingListed [(sibling stray part, body)] (by simp [lookup])
    rw [here, source_paths_root (mem_source_objects.mp listed).2]
    exact fun same => absurd (Option.some.inj same) (by decide)
  obtain ⟨bare', cancelled⟩ := cancelled_run codec beta_reg round_end computed_at computed_at_us scope formats unmeasured beside
  obtain ⟨full', run, _⟩ := (unaffected [(sibling stray part, body)] (by simp [lookup, different])).2 _ _ cancelled
  -- Beside each other the two claim one identifier.
  have both := (returned_loadable scope run).distinct
  have one := eq_of_nodup_filterMap both (strayListed _ (by simp)) (siblingListed _ (by simp [store, lookup]))
    strayUlid siblingUlid
  exact different (Prod.mk.inj one).2.symm

/-- Among the names that are not canonical, those that do not parse are ignored, whatever the object holds and over
    every store; the others are exactly those a part would be taken for under another name than its own. -/
theorem strays_ignored_iff (codec : Codec B) (beta_reg : Float → Float → Float → Float) (config : AggregationConfig)
    (round_end : Nat) (computed_at : String) (computed_at_us : Nat) (window_starts : List Nat) (window_start : Nat)
    (timestamp : String) (stray : Path) (body : B) (bounded : round_end < 2 ^ 64)
    (scope : in_scope_window_starts round_end config.window_duration_seconds config.storage_window_seconds = .ok window_starts)
    (member : window_start ∈ window_starts) (formatted : format_window_timestamp window_start = .ok timestamp)
    (below : (source_window config.cohort timestamp).below stray = true) (noncanonical : ¬Canonical stray) :
    ((∀ objects : Objects B, lookup objects stray = none →
      Unaffected codec beta_reg config round_end computed_at computed_at_us stray body objects) ↔ ¬Aliased stray) ∧
    ((∀ part_ulid, source_part_ulid stray = some part_ulid → Named stray part_ulid) ↔ ¬Aliased stray) := by
  constructor
  · constructor
    · intro unaffected aliased
      obtain ⟨objects, absent, affected⟩ :=
        aliased_affects codec beta_reg computed_at computed_at_us body bounded scope member formatted below aliased
      exact affected (unaffected objects absent)
    · intro unaliased objects absent
      exact unaffected_of_unnamed (root_of_below below (window_path_root cohorts_segment config.cohort timestamp))
        ((unnamed_iff noncanonical).mpr unaliased) absent
  · constructor
    · rintro literal ⟨text, part, named, parsed, other⟩
      have printed := literal _ (source_part_ulid_iff.mpr ⟨text, part, named, parsed, rfl⟩)
      rw [Named, show stray.filename = _ from named] at printed
      have texts := congrArg String.toList (Option.some.inj printed)
      exact other (String.toList_inj.mp (by simpa using texts))
    · exact fun unaliased part_ulid named => source_part_ulid_named unaliased named

/-! ### The small part under a lower-case name -/

def smallWindow : Path := ⟨["cohorts", "prod", "window=19700101T0001Z"]⟩

theorem small_window_path : (source_window smallConfig.cohort "19700101T0001Z") = smallWindow := by decide
theorem small_scope : in_scope_window_starts 120 smallConfig.window_duration_seconds smallConfig.storage_window_seconds =
    .ok [60] := by decide
theorem small_source_parts : smallSource.parts = smallWindow.parts ++ ["part-01J00000000000000000000000.vseam"] := by
  decide

def smallStray : Path := ⟨smallWindow.parts ++ ["part-not-a-ulid.vseam"]⟩

theorem small_stray_unnamed : source_part_ulid smallStray = none := by decide

def smallAlias : Path := ⟨smallWindow.parts ++ ["part-01j00000000000000000000000.vseam"]⟩

theorem small_alias_taken : source_part_ulid smallAlias = some "01J00000000000000000000000" := by decide
theorem small_source_taken : source_part_ulid smallSource = some "01J00000000000000000000000" := by decide

theorem small_absent {name : String} (other : "part-01J00000000000000000000000.vseam" ≠ name) :
    lookup smallStore.objects ⟨smallWindow.parts ++ [name]⟩ = none := by
  have different : smallSource ≠ ⟨smallWindow.parts ++ [name]⟩ := by
    intro same
    have parts := small_source_parts.symm.trans (congrArg Path.parts same)
    exact other (by simpa using parts)
  simp [smallStore, lookup, different]

theorem noncanonical_of_unnamed {path : Path} (unnamed : source_part_ulid path = none) : ¬Canonical path := by
  rintro ⟨part, printed⟩
  rw [source_part_ulid_iff.mpr ⟨_, part, printed, parse_to_string part, rfl⟩] at unnamed
  cases unnamed

theorem noncanonical_of_other {path : Path} {part_ulid : String} (taken : source_part_ulid path = some part_ulid)
    (other : ¬Named path part_ulid) : ¬Canonical path := by
  rintro ⟨part, printed⟩
  have same := source_part_ulid_iff.mpr ⟨_, part, printed, parse_to_string part, rfl⟩
  obtain rfl := Option.some.inj (taken.symm.trans same)
  exact other printed

theorem small_stray_ignored :
    Unaffected smallCodec smallBeta smallConfig 120 "1970-01-01T00:02:05Z" 1 smallStray (.segment []) smallStore.objects := by
  have noncanonical := noncanonical_of_unnamed small_stray_unnamed
  have below : (source_window smallConfig.cohort "19700101T0001Z").below smallStray = true := by rw [small_window_path]; decide
  have strays := strays_ignored_iff smallCodec smallBeta smallConfig 120 "1970-01-01T00:02:05Z" 1 [60] 60 "19700101T0001Z"
    smallStray (.segment []) (by decide) small_scope (by decide) (by decide) below noncanonical
  exact strays.1.mpr ((unnamed_iff noncanonical).mp small_stray_unnamed) smallStore.objects (small_absent (by decide))

/-- Beside the small part, an object under its name in lower case stops every round. -/
theorem lower_case_name_taken : ¬Canonical smallAlias ∧
    (source_window smallConfig.cohort "19700101T0001Z").below smallAlias = true ∧ lookup smallStore.objects smallAlias = none ∧
    source_part_ulid smallAlias = some "01J00000000000000000000000" ∧ ¬Named smallAlias "01J00000000000000000000000" ∧
    ¬Unaffected smallCodec smallBeta smallConfig 120 "1970-01-01T00:02:05Z" 1 smallAlias (.segment []) smallStore.objects := by
  have other : ¬Named smallAlias "01J00000000000000000000000" := by
    rw [Named]
    decide
  have below : (source_window smallConfig.cohort "19700101T0001Z").below smallAlias = true := by rw [small_window_path]; decide
  have absent : lookup smallStore.objects smallAlias = none := small_absent (by decide)
  refine ⟨noncanonical_of_other small_alias_taken other, below, absent, small_alias_taken, other, ?_⟩
  rintro ⟨_, back⟩
  have alone : Runs answer (run_cohort_round smallCodec smallBeta smallConfig 120 "1970-01-01T00:02:05Z" 1)
      smallStore (.returned (.Published smallOutput)) smallFirst.2 := smallRound_runs smallFirst_published
  obtain ⟨full', run, _⟩ := back _ _ alone
  have distinct := (returned_loadable small_scope run).distinct
  have formatted : format_window_timestamp 60 = .ok "19700101T0001Z" := by decide
  have sourceBelow : (source_window smallConfig.cohort "19700101T0001Z").below smallSource = true := by
    rw [small_window_path, Keys.below_iff, small_source_parts]
    exact ⟨List.prefix_append _ _, by decide⟩
  have sourceExtension : smallSource.extension = some "vseam" := by decide +kernel
  have aliasListed : (60, smallAlias) ∈ source_objects (store smallStore.objects smallAlias (.segment [])) smallConfig.cohort [60] :=
    mem_source_objects.mpr ⟨by decide, (mem_source_paths formatted).mpr ⟨by simp, below, by decide⟩⟩
  have sourceListed : (60, smallSource) ∈ source_objects (store smallStore.objects smallAlias (.segment [])) smallConfig.cohort [60] := by
    refine mem_source_objects.mpr ⟨by decide, (mem_source_paths formatted).mpr ⟨?_, sourceBelow, sourceExtension⟩⟩
    rw [lookup_isSome]
    simp [store, smallStore]
  have same := eq_of_nodup_filterMap distinct aliasListed sourceListed small_alias_taken small_source_taken
  have parts := small_source_parts
  rw [← (Prod.mk.inj same).2] at parts
  exact absurd parts (by decide)

end VectorSeam.Aliases
