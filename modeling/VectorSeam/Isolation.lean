import VectorSeam.Keys
import VectorSeam.PendingParts

/-!
Cohorts do not meet in storage. Every key that a round lists, reads or writes is owned
by its cohort: it lies below one of the cohort's windows, or is one of its records.
Since the window marker ends the cohort in a key, no key is owned by two cohorts.
-/

namespace VectorSeam.Isolation
open VectorSeam.Model VectorSeam.Text VectorSeam.Cohort VectorSeam.Ulids VectorSeam.Window VectorSeam.ObjectStore
open VectorSeam.Accounting VectorSeam.Aggregate VectorSeam.Intermediate VectorSeam.Measure VectorSeam.Effects
open VectorSeam.Programs VectorSeam.Pipeline VectorSeam.Requests VectorSeam.Keys

variable {B : Type}

/-! ### Owned keys -/

/-- The key lies below a window of the cohort, or is a file beside its records. -/
def Owned (cohort : CohortName) (path : Path) : Prop :=
  (∃ tree timestamp rest, (tree = "cohorts" ∨ tree = "measurements") ∧
    path.parts = window_parts tree cohort timestamp rest) ∨
  ∃ file, path.parts = record_parts cohort file

theorem owned_unique {left right : CohortName} {path : Path} (first : Owned left path) (second : Owned right path) :
    left = right := by
  rcases first with ⟨tree, timestamp, rest, trees, parts⟩ | ⟨file, parts⟩
  · rcases second with ⟨tree', timestamp', rest', _, parts'⟩ | ⟨file', parts'⟩
    · exact (window_parts_injective (parts.symm.trans parts')).2.1
    · have roots := (List.cons.inj (parts.symm.trans parts')).1
      rcases trees with rfl | rfl
      · exact absurd roots (by decide)
      · exact absurd roots (by decide)
  · rcases second with ⟨tree', timestamp', rest', trees, parts'⟩ | ⟨file', parts'⟩
    · have roots := (List.cons.inj (parts.symm.trans parts')).1
      rcases trees with rfl | rfl
      · exact absurd roots (by decide)
      · exact absurd roots (by decide)
    · exact (record_parts_injective (parts.symm.trans parts')).1

/-- The keys that a request lists, reads or writes. -/
def Touches : Effect B → Path → Prop
  | .list lead, path => lead.below path = true
  | .get path, other => path = other
  | .put path _, other => path = other
  | _, _ => False
/-- A request for keys of the cohort only. -/
def Within (cohort : CohortName) (effect : Effect B) : Prop := ∀ path, Touches effect path → Owned cohort path

/-- The paths given for a listing lie below the listed prefix. -/
def Possible : (effect : Effect B) → Reply effect → Prop
  | .list lead, reply => ∀ paths, reply = .ok paths → ∀ path ∈ paths, lead.below path = true
  | _, _ => True

theorem answer_possible (world : World B) (choice : Choice) (effect : Effect B) :
    Possible effect (answer world choice effect).1 := by
  cases effect with
  | list lead =>
    intro paths same path member
    have below : ∀ found ∈ listing world.objects lead, lead.below found = true := fun found present =>
      (mem_listing.mp present).2
    change list_reply world.objects lead choice.listed = .ok paths at same
    cases order : choice.listed with
    | error message => rw [order] at same; cases same
    | ok proposed =>
      rw [order, list_reply] at same
      obtain rfl := Except.ok.inj same
      by_cases fits : proposed.isPerm (listing world.objects lead)
      · rw [if_pos fits] at member
        exact below path ((List.isPerm_iff.mp fits).mem_iff.mp member)
      · rw [if_neg fits] at member
        exact below path member
  | get path => trivial
  | put path body => trivial
  | measure_sample vector config => trivial
  | is_cancelled => trivial

/-! ### Requests of a round -/

section Requests
variable {ε α β : Type} {cohort : CohortName} {post : α → Prop}

/-- A program whose requests stay with the cohort and whose value satisfies `post`. -/
abbrev Stays (cohort : CohortName) (post : α → Prop) (program : Program B ε α) : Prop :=
  Safe Possible (Within cohort) post program

theorem within_get {path : Path} (owned : Owned cohort path) : Within cohort (.get path : Effect B) := by
  rintro other rfl
  exact owned

theorem within_put {path : Path} {body : B} (owned : Owned cohort path) : Within cohort (.put path body) := by
  rintro other rfl
  exact owned

theorem stays_wrap {rename : ε → PipelineError} {result : Except ε α} (holds : ∀ value, result = .ok value → post value) :
    Stays cohort post (wrap rename result : Program B PipelineError α) := safe_mapError (safe_lift holds)

theorem stays_check {rename : ε → PipelineError} {result : Except ε α} :
    Stays cohort (fun _ => True) (wrap rename result : Program B PipelineError α) := stays_wrap fun _ _ => trivial

theorem stays_get_bytes {path : Path} (owned : Owned cohort path) :
    Stays cohort (fun _ => True) (get_bytes path : Program B PipelineError B) :=
  Performs.safe (performs_get_bytes (within_get owned))

theorem stays_put_bytes {path : Path} {body : B} (owned : Owned cohort path) :
    Stays cohort (fun _ => True) (put_bytes path body) := Performs.safe (performs_put_bytes (within_put owned))

/-- Listing one window gives keys of the cohort. -/
theorem stays_list_paths {lead : Path} {tree timestamp : String} (trees : tree = "cohorts" ∨ tree = "measurements")
    (parts : lead.parts = window_parts tree cohort timestamp []) :
    Stays cohort (fun paths => ∀ path ∈ paths, Owned cohort path) (list_paths lead : Program B PipelineError (List Path)) := by
  have owned : ∀ path, lead.below path = true → Owned cohort path := by
    intro path below
    obtain ⟨rest, whole⟩ := (below_iff.mp below).1
    refine .inl ⟨tree, timestamp, rest, trees, ?_⟩
    rw [← whole, parts]
    simp [window_parts]
  refine safe_perform_bind owned fun reply possible => stays_wrap fun paths same path member => ?_
  exact owned path (possible paths same path member)

theorem stays_list_source_windows (window_starts : List Nat) :
    Stays cohort (fun objects => ∀ object ∈ objects, Owned cohort object.2)
      (list_source_windows cohort.name window_starts : Program B PipelineError (List (Nat × Path))) := by
  induction window_starts with
  | nil => exact safe_pure (by simp)
  | cons window_start rest ih =>
    refine safe_bind (stays_wrap fun timestamp formatted => formatted) fun timestamp formatted => ?_
    refine safe_bind (stays_list_paths (.inl rfl) (window_path_parts cohorts_segment formatted)) fun listed owned => ?_
    refine safe_bind ih fun objects later => safe_pure fun object member => ?_
    rcases List.mem_append.mp member with here | there
    · obtain ⟨path, present, rfl⟩ := List.mem_map.mp here
      exact owned path (List.mem_of_mem_filter present)
    · exact later object there

theorem stays_list_measurement_objects (window_starts : List Nat) :
    Stays cohort (fun _ => True) (list_measurement_objects cohort.name window_starts : Program B PipelineError (List Path)) := by
  induction window_starts with
  | nil => exact safe_pure trivial
  | cons window_start rest ih =>
    refine safe_bind (stays_wrap fun timestamp formatted => formatted) fun timestamp formatted => ?_
    refine safe_bind (stays_list_paths (.inr rfl) (window_path_parts measurements_segment formatted)) fun listed _ => ?_
    exact safe_bind ih fun objects _ => safe_pure trivial

/-- A source of the cohort with a canonical ULID. -/
def OwnSource (cohort : CohortName) (source : SourcePart) : Prop :=
  Owned cohort source.path ∧ ∃ part : Ulid, source.listed.part_ulid = part.to_string

variable (codec : Codec B)

theorem stays_load_headers (width : Nat) (objects : List (Nat × Path)) (by_ulid : BTreeMap String SourcePart)
    (owned : ∀ object ∈ objects, Owned cohort object.2)
    (own : ∀ (part_ulid : String) source, by_ulid[part_ulid]? = some source → OwnSource cohort source) :
    Stays cohort (fun loaded => ∀ (part_ulid : String) source, loaded[part_ulid]? = some source → OwnSource cohort source)
      (load_headers codec cohort.name width objects by_ulid) := by
  induction objects generalizing by_ulid with
  | nil => exact safe_pure own
  | cons object rest ih =>
    obtain ⟨window_start, path⟩ := object
    have later : ∀ object ∈ rest, Owned cohort object.2 := fun object member => owned object (List.mem_cons_of_mem _ member)
    unfold load_headers
    cases named : source_part_ulid path with
    | none => exact ih by_ulid later own
    | some part_ulid =>
      refine safe_bind (stays_get_bytes (owned (window_start, path) (by simp))) fun bytes _ => ?_
      refine safe_bind stays_check fun prepared _ => ?_
      by_cases repeated : part_ulid ∈ by_ulid
      · rw [if_pos repeated]
        trivial
      · rw [if_neg repeated]
        refine ih _ later fun key source found => ?_
        rw [SortedMaps.lookup_insert] at found
        split at found
        · obtain rfl := Option.some.inj found
          exact ⟨owned (window_start, path) (by simp), source_part_ulid_canonical named⟩
        · exact own key source found

theorem stays_load_source_headers (width : Nat) (objects : List (Nat × Path))
    (owned : ∀ object ∈ objects, Owned cohort object.2) :
    Stays cohort (fun sources => ∀ source ∈ sources, OwnSource cohort source)
      (load_source_headers codec cohort.name width objects) := by
  refine safe_bind (stays_load_headers codec width objects ∅ owned (by simp)) fun by_ulid own => safe_pure fun source member => ?_
  obtain ⟨entry, present, rfl⟩ := List.mem_map.mp member
  exact own entry.1 entry.2 (Std.ExtTreeMap.mem_toList_iff_getElem?_eq_some.mp present)

variable (config : AggregationConfig) (of : config.cohort = cohort.name)

theorem intermediate_paths_owned {cohort : CohortName} {window_start : Nat} {source : SourcePart} {paths : Path × Path}
    (own : OwnSource cohort source)
    (named : intermediate_paths cohort.name window_start source.listed.part_ulid = .ok paths) :
    Owned cohort paths.1 ∧ Owned cohort paths.2 := by
  obtain ⟨_, part, canonical⟩ := own
  rw [canonical] at named
  obtain ⟨timestamp, _, truth, sweep⟩ := intermediate_paths_parts named
  exact ⟨.inl ⟨_, timestamp, _, .inr rfl, truth⟩, .inl ⟨_, timestamp, _, .inr rfl, sweep⟩⟩

include of

theorem stays_classify (measurement_objects : List Path) (sources : List SourcePart) (classified : Classified)
    (own : ∀ source ∈ sources, OwnSource cohort source) (ownPending : ∀ source ∈ classified.pending, OwnSource cohort source) :
    Stays cohort (fun classified => ∀ source ∈ classified.pending, OwnSource cohort source)
      (classify codec config measurement_objects sources classified) := by
  induction sources generalizing classified with
  | nil => exact safe_pure ownPending
  | cons source rest ih =>
    have here : OwnSource cohort source := own source (by simp)
    have later : ∀ other ∈ rest, OwnSource cohort other := fun other member => own other (List.mem_cons_of_mem _ member)
    have pended : ∀ other ∈ classified.pending ++ [source], OwnSource cohort other := by
      intro other member
      rcases List.mem_append.mp member with earlier | last
      · exact ownPending other earlier
      · rw [List.mem_singleton.mp last]; exact here
    refine safe_bind (stays_wrap fun paths named => named) fun paths named => ?_
    rw [of] at named
    obtain ⟨truth, sweep⟩ := intermediate_paths_owned here named
    obtain ⟨truth_path, sweep_path⟩ := paths
    by_cases present : truth_path ∈ measurement_objects ∧ sweep_path ∈ measurement_objects
    · simp only [if_pos present]
      refine safe_bind (stays_get_bytes truth) fun truth_bytes _ => safe_bind (stays_get_bytes sweep) fun sweep_bytes _ => ?_
      refine safe_bind (stays_wrap fun filed paired => paired) fun filed paired => ih filed later ?_
      rcases PendingParts.classify_pair_ok paired with ⟨_, _, _, _, same, _⟩ | ⟨same, _⟩
      · rw [same]; exact ownPending
      · rw [same]; exact pended
    · simp only [if_neg present]
      exact ih _ later pended

theorem stays_survey_store (round_end : Nat) :
    Stays cohort (fun found => ∀ source ∈ found.2.pending, OwnSource cohort source) (survey_store codec config round_end) := by
  unfold survey_store
  rw [of]
  refine safe_bind stays_check fun window_starts _ => ?_
  have listed : Stays cohort (fun objects => ∀ object ∈ objects, Owned cohort object.2)
      (list_source_objects cohort.name window_starts : Program B PipelineError (List (Nat × Path))) := by
    refine safe_bind (stays_list_source_windows window_starts) fun objects owned => safe_pure fun object member => ?_
    exact owned object ((List.mergeSort_perm objects _).mem_iff.mp member)
  refine safe_bind listed fun source_objects owned => ?_
  refine safe_bind (stays_list_measurement_objects window_starts) fun measurement_objects _ => ?_
  refine safe_bind (stays_load_source_headers codec config.storage_window_seconds source_objects owned) fun sources own => ?_
  refine safe_bind (stays_classify codec config of measurement_objects sources _ own (by simp)) fun classified pending => ?_
  exact safe_pure pending

theorem stays_measure_pending (computed_at_us : Nat) (sources : List SourcePart)
    (compatible : BTreeMap String IntermediatePart) (own : ∀ source ∈ sources, OwnSource cohort source) :
    Stays cohort (fun _ => True) (measure_pending codec config computed_at_us sources compatible) := by
  induction sources generalizing compatible with
  | nil => exact safe_pure trivial
  | cons source rest ih =>
    have here : OwnSource cohort source := own source (by simp)
    refine safe_perform_bind (fun path touched => nomatch touched) fun cancelled _ => ?_
    cases cancelled with
    | true => exact safe_pure trivial
    | false =>
      refine safe_bind (Performs.safe (measure_source_performs codec config computed_at_us source (within_get here.1) ?_))
        fun outcome _ => ?_
      · intro effect measures path touched
        cases effect with
        | list lead => exact measures.elim
        | get other => exact measures.elim
        | put other body => exact measures.elim
        | measure_sample vector config => exact touched.elim
        | is_cancelled => exact touched.elim
      cases outcome with
      | TableSmallerThanK abort => exact safe_pure trivial
      | ConnectionUnavailable error => trivial
      | Cancelled => exact safe_pure trivial
      | Complete measured =>
        refine safe_bind (?_ : Stays cohort (fun _ => True) _) fun part _ =>
          ih _ fun other member => own other (List.mem_cons_of_mem _ member)
        unfold store_measured
        rw [of]
        refine safe_bind stays_check fun pair _ => safe_bind (stays_wrap fun paths named => named) fun paths named => ?_
        obtain ⟨truth, sweep⟩ := intermediate_paths_owned here named
        exact safe_bind (stays_put_bytes truth) fun _ _ => safe_bind (stays_put_bytes sweep) fun _ _ => stays_check

theorem stays_finish_round (beta_reg : Float → Float → Float → Float) (round_end : Nat) (computed_at : String)
    (sources : List SourcePart) (phase_a_incompatible_parts : Nat) (compatible : BTreeMap String IntermediatePart)
    (phase_a_abort : Option PhaseAAbort) :
    Stays cohort (fun _ => True) (finish_round codec beta_reg config round_end computed_at sources
      phase_a_incompatible_parts compatible phase_a_abort) := by
  refine safe_perform_bind (fun path touched => nomatch touched) fun cancelled _ => ?_
  cases cancelled with
  | true => exact safe_pure trivial
  | false =>
    refine safe_bind (stays_wrap fun paths named => named) fun paths named => ?_
    rw [of] at named
    obtain ⟨timestamp, _, round, latest⟩ := round_paths_parts named
    have latestOwned : Owned cohort paths.2 := .inr ⟨_, latest⟩
    refine safe_bind (safe_perform_bind (within_get latestOwned) fun reply _ => stays_check) fun previous_round _ => ?_
    refine safe_bind stays_check fun output _ => safe_bind stays_check fun round_bytes _ => ?_
    exact safe_bind (stays_put_bytes (.inr ⟨_, round⟩)) fun _ _ =>
      safe_bind (stays_put_bytes latestOwned) fun _ _ => safe_pure trivial

/-- A round lists, reads and writes keys of its own cohort only, whatever it is answered. -/
theorem stays_run_cohort_round (beta_reg : Float → Float → Float → Float) (round_end : Nat) (computed_at : String)
    (computed_at_us : Nat) :
    Stays cohort (fun _ => True) (run_cohort_round codec beta_reg config round_end computed_at computed_at_us) := by
  refine safe_bind (stays_survey_store codec config of round_end) fun found own => ?_
  refine safe_bind (stays_measure_pending codec config of computed_at_us _ _ own) fun outcome _ => ?_
  cases outcome with
  | Cancelled => exact safe_pure trivial
  | Measured compatible phase_a_abort => exact stays_finish_round codec config of beta_reg round_end computed_at _ _ _ _

end Requests

/-- Every request that a run adds to the log is within the cohort. -/
theorem runs_within {codec : Codec B} {beta_reg : Float → Float → Float → Float} {config : AggregationConfig}
    {cohort : CohortName} {round_end computed_at_us : Nat} {computed_at : String} {world world' : World B}
    {outcome : Outcome PipelineError CohortRoundOutcome} (of : config.cohort = cohort.name)
    (run : Runs answer (run_cohort_round codec beta_reg config round_end computed_at computed_at_us) world outcome world') :
    ∃ block, world'.log = world.log ++ block ∧ ∀ event ∈ block, Within cohort (request event) := by
  refine ((stays_run_cohort_round codec config of beta_reg round_end computed_at computed_at_us).runs answer_possible
    (fun state => ∃ block, state.log = world.log ++ block ∧ ∀ event ∈ block, Within cohort (request event)) ?_ run
    ⟨[], by simp⟩).1
  rintro state choice effect within ⟨block, logged, all⟩
  obtain ⟨event, appended, asked⟩ := answer_log state choice effect
  refine ⟨block ++ [event], by rw [appended, logged, List.append_assoc], fun other member => ?_⟩
  rcases List.mem_append.mp member with earlier | last
  · exact all other earlier
  · rw [List.mem_singleton.mp last, asked]
    exact within

/-! ### Listing one window -/

section Listing
variable {cohort : CohortName} {window_start : Nat} {timestamp : String} {objects : Objects B}

private theorem below_window {tree : String} {lead path : Path}
    (parts : lead.parts = window_parts tree cohort timestamp []) :
    lead.below path = true ↔ ∃ name rest, path.parts = window_parts tree cohort timestamp (name :: rest) := by
  rw [below_iff, parts]
  constructor
  · rintro ⟨⟨rest, whole⟩, longer⟩
    cases rest with
    | nil => rw [← whole] at longer; simp at longer
    | cons name rest => exact ⟨name, rest, by rw [← whole]; simp [window_parts]⟩
  · rintro ⟨name, rest, whole⟩
    rw [whole]
    refine ⟨⟨name :: rest, by simp [window_parts]⟩, by simp [window_parts]⟩

/-- An artifact below a window of a cohort is one of the cohort's parts in that window. -/
private theorem parts_below_window {tree timestamp' name : String} {rest : List String} {artifact : Artifact}
    (trees : tree = "cohorts" ∨ tree = "measurements")
    (same : artifact.parts timestamp' = window_parts tree cohort timestamp (name :: rest)) :
    timestamp' = timestamp ∧
      ((∃ part, tree = "cohorts" ∧ artifact = .segment cohort artifact.instant part) ∨
        ∃ part, tree = "measurements" ∧
          (artifact = .truth cohort artifact.instant part ∨ artifact = .sweep cohort artifact.instant part)) := by
  cases artifact with
  | segment cohort' window_start part =>
    obtain ⟨rfl, rfl, rfl, _⟩ := window_parts_injective same
    exact ⟨rfl, .inl ⟨part, rfl, rfl⟩⟩
  | truth cohort' window_start part =>
    obtain ⟨rfl, rfl, rfl, _⟩ := window_parts_injective same
    exact ⟨rfl, .inr ⟨part, rfl, .inl rfl⟩⟩
  | sweep cohort' window_start part =>
    obtain ⟨rfl, rfl, rfl, _⟩ := window_parts_injective same
    exact ⟨rfl, .inr ⟨part, rfl, .inr rfl⟩⟩
  | round cohort' round_end =>
    have roots := (List.cons.inj same).1
    rcases trees with rfl | rfl
    · exact absurd roots (by decide)
    · exact absurd roots (by decide)
  | latest cohort' round_end =>
    have roots := (List.cons.inj same).1
    rcases trees with rfl | rfl
    · exact absurd roots (by decide)
    · exact absurd roots (by decide)

/-- Every stored object was put under the key of an artifact. -/
def Kept (objects : Objects B) : Prop := ∀ path, (lookup objects path).isSome → ∃ artifact : Artifact, artifact.key = .ok path

private theorem artifact_below {tree : String} {lead path : Path} (trees : tree = "cohorts" ∨ tree = "measurements")
    (parts : lead.parts = window_parts tree cohort timestamp []) (kept : Kept objects)
    (member : path ∈ listing objects lead) : ∃ artifact : Artifact, artifact.key = .ok path ∧
      format_window_timestamp artifact.instant = .ok timestamp ∧
      ((∃ part, tree = "cohorts" ∧ artifact = .segment cohort artifact.instant part) ∨
        ∃ part, tree = "measurements" ∧
          (artifact = .truth cohort artifact.instant part ∨ artifact = .sweep cohort artifact.instant part)) := by
  obtain ⟨present, below⟩ := mem_listing.mp member
  obtain ⟨artifact, named⟩ := kept path present
  obtain ⟨timestamp', found, shape⟩ := Artifact.key_parts named
  obtain ⟨name, rest, whole⟩ := (below_window parts).mp below
  obtain ⟨rfl, kind⟩ := parts_below_window trees (shape.symm.trans whole)
  exact ⟨artifact, named, found, kind⟩

private theorem key_below {tree : String} {lead path : Path} {artifact : Artifact} {name : String}
    (parts : lead.parts = window_parts tree cohort timestamp []) (present : (lookup objects path).isSome)
    (named : artifact.key = .ok path) (found : format_window_timestamp artifact.instant = .ok timestamp)
    (shape : artifact.parts timestamp = window_parts tree cohort timestamp [name]) : path ∈ listing objects lead := by
  obtain ⟨timestamp', found', whole⟩ := Artifact.key_parts named
  obtain rfl := Except.ok.inj (found.symm.trans found')
  exact mem_listing.mpr ⟨present, (below_window parts).mpr ⟨name, [], whole.trans shape⟩⟩

/-- Listing the source window of a cohort gives its segments of that window. -/
theorem source_listing (formatted : format_window_timestamp window_start = .ok timestamp) (kept : Kept objects) (path : Path) :
    path ∈ listing objects (source_window cohort.name timestamp) ↔ (lookup objects path).isSome ∧
      ∃ start part, format_window_timestamp start = .ok timestamp ∧ (Artifact.segment cohort start part).key = .ok path := by
  have parts : (source_window cohort.name timestamp).parts = window_parts "cohorts" cohort timestamp [] :=
    window_path_parts cohorts_segment formatted
  constructor
  · intro member
    refine ⟨(mem_listing.mp member).1, ?_⟩
    obtain ⟨artifact, named, found, ⟨part, _, same⟩ | ⟨part, wrong, _⟩⟩ := artifact_below (.inl rfl) parts kept member
    · exact ⟨artifact.instant, part, found, same ▸ named⟩
    · exact absurd wrong (by decide)
  · rintro ⟨present, start, part, found, named⟩
    exact key_below parts present named found rfl

/-- Listing the measurement window of a cohort gives its pairs of that window. -/
theorem measurement_listing (formatted : format_window_timestamp window_start = .ok timestamp) (kept : Kept objects)
    (path : Path) :
    path ∈ listing objects (measurement_window cohort.name timestamp) ↔ (lookup objects path).isSome ∧
      ∃ start part, format_window_timestamp start = .ok timestamp ∧
        ((Artifact.truth cohort start part).key = .ok path ∨ (Artifact.sweep cohort start part).key = .ok path) := by
  have parts : (measurement_window cohort.name timestamp).parts = window_parts "measurements" cohort timestamp [] :=
    window_path_parts measurements_segment formatted
  constructor
  · intro member
    refine ⟨(mem_listing.mp member).1, ?_⟩
    obtain ⟨artifact, named, found, ⟨part, wrong, _⟩ | ⟨part, _, same | same⟩⟩ := artifact_below (.inr rfl) parts kept member
    · exact absurd wrong (by decide)
    · exact ⟨artifact.instant, part, found, .inl (same ▸ named)⟩
    · exact ⟨artifact.instant, part, found, .inr (same ▸ named)⟩
  · rintro ⟨present, start, part, found, named | named⟩
    · exact key_below parts present named found rfl
    · exact key_below parts present named found rfl

end Listing

/-! ### Cohorts in storage -/

/-- Two rounds of different cohorts meet in no key, however they run. -/
private theorem rounds_disjoint {codec : Codec B} {beta_reg : Float → Float → Float → Float} {left right : CohortName}
    {config config' : AggregationConfig} {round_end round_end' computed_at_us computed_at_us' : Nat}
    {computed_at computed_at' : String} {world after world' after' : World B}
    {outcome outcome' : Outcome PipelineError CohortRoundOutcome} (different : left ≠ right)
    (of : config.cohort = left.name) (of' : config'.cohort = right.name)
    (run : Runs answer (run_cohort_round codec beta_reg config round_end computed_at computed_at_us) world outcome after)
    (run' : Runs answer (run_cohort_round codec beta_reg config' round_end' computed_at' computed_at_us') world' outcome'
      after') :
    ∃ block block', after.log = world.log ++ block ∧ after'.log = world'.log ++ block' ∧
      ∀ path, (∃ event ∈ block, Touches (request event) path) → ¬∃ event ∈ block', Touches (request event) path := by
  obtain ⟨block, logged, within⟩ := runs_within of run
  obtain ⟨block', logged', within'⟩ := runs_within of' run'
  refine ⟨block, block', logged, logged', ?_⟩
  rintro path ⟨event, member, touched⟩ ⟨event', member', touched'⟩
  exact different (owned_unique (within event member path touched) (within' event' member' path touched'))

/-- Keys are shared only within a cohort, and then only by the mutable record or by equal arguments; listing a window
    of a cohort gives exactly its own objects of that window; rounds of two cohorts touch no common key. -/
theorem cohorts_isolated (codec : Codec B) (beta_reg : Float → Float → Float → Float) :
    (∀ (left right : Artifact) (path : Path), left.key = .ok path → right.key = .ok path →
      left.cohort = right.cohort ∧ (left.Timely → right.Timely → Shared left right)) ∧
    (∀ objects : Objects B, Kept objects → ∀ (cohort : CohortName) (window_start : Nat) (timestamp : String),
      format_window_timestamp window_start = .ok timestamp →
        (∀ path, path ∈ listing objects (source_window cohort.name timestamp) ↔ (lookup objects path).isSome ∧
          ∃ start part, format_window_timestamp start = .ok timestamp ∧
            (Artifact.segment cohort start part).key = .ok path) ∧
        ∀ path, path ∈ listing objects (measurement_window cohort.name timestamp) ↔ (lookup objects path).isSome ∧
          ∃ start part, format_window_timestamp start = .ok timestamp ∧
            ((Artifact.truth cohort start part).key = .ok path ∨ (Artifact.sweep cohort start part).key = .ok path)) ∧
    (∀ (left right : CohortName) (config config' : AggregationConfig) (round_end round_end' computed_at_us computed_at_us' : Nat)
      (computed_at computed_at' : String) (world after world' after' : World B)
      (outcome outcome' : Outcome PipelineError CohortRoundOutcome), left ≠ right → config.cohort = left.name →
      config'.cohort = right.name →
      Runs answer (run_cohort_round codec beta_reg config round_end computed_at computed_at_us) world outcome after →
      Runs answer (run_cohort_round codec beta_reg config' round_end' computed_at' computed_at_us') world' outcome' after' →
        ∃ block block', after.log = world.log ++ block ∧ after'.log = world'.log ++ block' ∧
          ∀ path, (∃ event ∈ block, Touches (request event) path) → ¬∃ event ∈ block', Touches (request event) path) :=
  ⟨fun _ _ _ namedLeft namedRight => Artifact.key_shared namedLeft namedRight,
    fun _ kept _ _ _ formatted => ⟨source_listing formatted kept, measurement_listing formatted kept⟩,
    fun _ _ _ _ _ _ _ _ _ _ _ _ _ _ _ _ different of of' run run' => rounds_disjoint different of of' run run'⟩

/-! ### Two small cohorts -/

def smallSegmentKey : Artifact := .segment smallCohort 60 ⟨0, by decide⟩
def smallSegmentPath : Path := Path.from_text "cohorts/prod/window=19700101T0001Z/part-00000000000000000000000000.vseam"
/-- A round of the inner cohort over the small store. -/
def smallInnerRound : Outcome PipelineError CohortRoundOutcome × World Body :=
  (run_cohort_round smallCodec smallBeta { smallConfig with cohort := smallInner.name } 120 "1970-01-01T00:02:05Z" 1).exec
    answer smallStore (List.replicate 15 smallChoice)

theorem small_cohorts_isolated :
    Shared smallSegmentKey smallSegmentKey ∧
    (smallSegmentPath ∈ listing (store ([] : Objects Body) smallSegmentPath (.segment []))
      (source_window smallCohort.name "19700101T0001Z")) ∧
    ∃ block block', smallFirst.2.log = smallStore.log ++ block ∧ smallInnerRound.2.log = smallStore.log ++ block' ∧
      ∀ path, (∃ event ∈ block, Touches (request event) path) → ¬∃ event ∈ block', Touches (request event) path := by
  obtain ⟨keys, listings, rounds⟩ := cohorts_isolated smallCodec smallBeta
  have named : smallSegmentKey.key = .ok smallSegmentPath := by decide +kernel
  have kept : Kept (store ([] : Objects Body) smallSegmentPath (.segment [])) := by
    intro path present
    rw [lookup_store] at present
    by_cases here : smallSegmentPath = path
    · exact ⟨smallSegmentKey, here ▸ named⟩
    · rw [if_neg here] at present
      cases present
  refine ⟨(keys _ _ _ named named).2 ⟨by decide, by decide⟩ ⟨by decide, by decide⟩, ?_, ?_⟩
  · refine ((listings _ kept smallCohort 60 "19700101T0001Z" (by decide)).1 _).mpr ⟨?_, 60, ⟨0, by decide⟩, ?_, named⟩
    · rw [lookup_store, if_pos rfl]
      rfl
    · decide +kernel
  · exact rounds smallCohort smallInner _ _ _ _ _ _ _ _ _ _ _ _ _ _ (by decide) rfl rfl
      (smallRound_runs smallFirst_published) ⟨List.replicate 15 smallChoice, rfl⟩

/-- Two seconds of one minute, and any two rounds of the latest record, name the same key. -/
theorem record_keys_shared : ∃ path latest, (Artifact.round smallCohort 0).key = .ok path ∧
    (Artifact.round smallCohort 1).key = .ok path ∧ (Artifact.latest smallCohort 0).key = .ok latest ∧
    (Artifact.latest smallCohort 60).key = .ok latest ∧
    Artifact.round smallCohort 0 ≠ .round smallCohort 1 ∧ Artifact.latest smallCohort 0 ≠ .latest smallCohort 60 :=
  ⟨Path.from_text "calibrations/prod/round-19700101T0000Z.json", smallLatest, by decide +kernel, by decide +kernel,
    by decide, by decide, by decide, by decide⟩

end VectorSeam.Isolation
