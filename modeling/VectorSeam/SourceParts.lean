import VectorSeam.Requests

/-!
The sources of a round: which objects the listing finds, which of them have a
canonical part name, and what their headers say. A returned survey holds exactly one
source for each canonical object in scope.
-/

namespace VectorSeam.SourceParts
open VectorSeam.Model VectorSeam.Text VectorSeam.ObjectStore VectorSeam.Window VectorSeam.Accounting VectorSeam.Aggregate
open VectorSeam.Intermediate VectorSeam.Measure VectorSeam.Effects VectorSeam.Programs VectorSeam.Pipeline
open VectorSeam.Requests VectorSeam.SortedMaps VectorSeam.Ulids

variable {B : Type} {codec : Codec B} {world world' : World B}

/-! ### Listing -/

/-- The segment objects stored below one window of a cohort. -/
def source_paths (objects : Objects B) (cohort : String) (window_start : Nat) : List Path :=
  match format_window_timestamp window_start with
  | .ok timestamp =>
    (listing objects (source_window cohort timestamp)).filter fun path => decide (path.extension = some "vseam")
  | .error _ => []
def source_objects (objects : Objects B) (cohort : String) (window_starts : List Nat) : List (Nat × Path) :=
  window_starts.flatMap fun window_start => (source_paths objects cohort window_start).map fun path => (window_start, path)
/-- The part ULIDs of the objects with a canonical name. -/
def canonical_ulids (objects : List (Nat × Path)) : List String := objects.filterMap fun object => source_part_ulid object.2

theorem runs_list_paths {lead : Path} {paths : List Path}
    (run : Runs answer (list_paths lead) world (.returned paths) world') :
    paths.Perm (listing world.objects lead) ∧ world'.objects = world.objects := by
  obtain ⟨reply, middle, asked, rest⟩ := runs_bind_returned.mp run
  obtain ⟨rfl, rfl⟩ := runs_wrap_returned.mp rest
  rcases runs_list asked with ⟨stopped, _⟩ | ⟨answered, same, rfl, listed⟩
  · cases stopped
  · exact ⟨listed paths (Outcome.returned.inj same).symm, rfl⟩

theorem runs_list_source_windows {cohort : String} {window_starts : List Nat} {objects : List (Nat × Path)}
    (run : Runs answer (list_source_windows cohort window_starts) world (.returned objects) world') :
    objects.Perm (source_objects world.objects cohort window_starts) ∧ world'.objects = world.objects := by
  induction window_starts generalizing world world' objects with
  | nil =>
    obtain ⟨same, rfl⟩ := runs_pure.mp run
    obtain rfl := Outcome.returned.inj same
    exact ⟨.refl _, rfl⟩
  | cons window_start rest ih =>
    obtain ⟨timestamp, middle, formatRun, afterFormat⟩ := runs_bind_returned.mp run
    obtain ⟨formatted, rfl⟩ := runs_wrap_returned.mp formatRun
    obtain ⟨listed, after, listRun, afterList⟩ := runs_bind_returned.mp afterFormat
    obtain ⟨permuted, kept⟩ := runs_list_paths listRun
    obtain ⟨others, last, later, afterRest⟩ := runs_bind_returned.mp afterList
    obtain ⟨tail, unchanged⟩ := ih later
    obtain ⟨same, rfl⟩ := runs_pure.mp afterRest
    obtain rfl := Outcome.returned.inj same
    refine ⟨?_, unchanged.trans kept⟩
    rw [kept] at tail
    have head : source_paths middle.objects cohort window_start =
        (ObjectStore.listing middle.objects (source_window cohort timestamp)).filter
          fun path => decide (path.extension = some "vseam") := by
      rw [source_paths, formatted]
    rw [source_objects, List.flatMap_cons, head]
    exact ((permuted.filter _).map _).append tail

/-- The sort of the listing, in a form that evaluates. -/
theorem list_source_objects_inserts (cohort : String) (window_starts : List Nat) :
    (list_source_objects cohort window_starts : Program B PipelineError (List (Nat × Path))) =
      (list_source_windows cohort window_starts >>= fun objects =>
        pure (objects.insertionSort fun left right => left.2.raw ≤ right.2.raw)) := by
  unfold list_source_objects
  refine congrArg _ (funext fun objects => congrArg _ ?_)
  rw [mergeSort_eq_insertionSort]
  · simp
  · exact fun a b c first second => by simpa using (of_decide_eq_true first).trans (of_decide_eq_true second)
  · exact fun a b => by simpa using String.le_total _ _

theorem runs_list_source_objects {cohort : String} {window_starts : List Nat} {objects : List (Nat × Path)}
    (run : Runs answer (list_source_objects cohort window_starts) world (.returned objects) world') :
    objects.Perm (source_objects world.objects cohort window_starts) ∧ world'.objects = world.objects := by
  obtain ⟨listed, middle, windows, rest⟩ := runs_bind_returned.mp run
  obtain ⟨permuted, kept⟩ := runs_list_source_windows windows
  obtain ⟨same, rfl⟩ := runs_pure.mp rest
  obtain rfl := Outcome.returned.inj same
  exact ⟨(List.mergeSort_perm _ _).trans permuted, kept⟩

/-! ### Headers -/

/-- The source was read from the object at its path, listed under the window start. -/
def Loaded (codec : Codec B) (objects : Objects B) (cohort : String) (width window_start : Nat) (source : SourcePart) :
    Prop :=
  ∃ part_ulid body prepared, source_part_ulid source.path = some part_ulid ∧
    lookup objects source.path = some body ∧
    prepare_segment (codec.content body) cohort window_start width = .ok prepared ∧
    source = source_part source.path part_ulid prepared

theorem Loaded.listed {objects : Objects B} {cohort : String} {width window_start : Nat} {source : SourcePart}
    (loaded : Loaded codec objects cohort width window_start source) :
    source_part_ulid source.path = some source.listed.part_ulid ∧ source.listed.window_start = window_start ∧
      source.listed.window_seconds = width := by
  obtain ⟨part_ulid, body, prepared, named, found, segment, same⟩ := loaded
  obtain ⟨_, start, seconds⟩ := prepare_segment_ok segment
  rw [same]
  exact ⟨named, start, seconds⟩

abbrev ulid_of (source : SourcePart) : String := source.listed.part_ulid

/-- A finished loop has filed one source for every object of a canonical name, under distinct ULIDs. -/
theorem runs_load_headers {cohort : String} {width : Nat} {objects : List (Nat × Path)}
    {by_ulid result : BTreeMap String SourcePart} {done : List SourcePart}
    (filled : Filled ulid_of (fun source filed => filed = source) done by_ulid) (distinct : (done.map ulid_of).Nodup)
    (run : Runs answer (load_headers codec cohort width objects by_ulid) world (.returned result) world') :
    ∃ loaded, Filled ulid_of (fun source filed => filed = source) (done ++ loaded) result ∧
      ((done ++ loaded).map ulid_of).Nodup ∧ loaded.map ulid_of = canonical_ulids objects ∧
      ∀ source ∈ loaded, ∃ window_start, (window_start, source.path) ∈ objects ∧
        Loaded codec world.objects cohort width window_start source := by
  induction objects generalizing world world' by_ulid done with
  | nil =>
    obtain ⟨same, rfl⟩ := runs_pure.mp run
    obtain rfl := Outcome.returned.inj same
    exact ⟨[], by simpa using filled, by simpa using distinct, rfl, by simp⟩
  | cons object rest ih =>
    obtain ⟨window_start, path⟩ := object
    unfold load_headers at run
    cases named : source_part_ulid path with
    | none =>
      rw [named] at run
      obtain ⟨loaded, all, nodup, ulids, each⟩ := ih filled distinct run
      refine ⟨loaded, all, nodup, by simpa [canonical_ulids, named] using ulids, fun source member => ?_⟩
      obtain ⟨start, present, holds⟩ := each source member
      exact ⟨start, List.mem_cons_of_mem _ present, holds⟩
    | some part_ulid =>
      rw [named] at run
      obtain ⟨bytes, middle, read, afterRead⟩ := runs_bind_returned.mp run
      obtain ⟨found, rfl⟩ := runs_get_bytes.mp read
      obtain ⟨prepared, middle, checkRun, later⟩ := runs_bind_returned.mp afterRead
      obtain ⟨checked, rfl⟩ := runs_wrap_returned.mp checkRun
      by_cases repeated : part_ulid ∈ by_ulid
      · rw [if_pos repeated] at later
        exact absurd (runs_fail.mp later).1 (by simp)
      rw [if_neg repeated] at later
      have source : Loaded codec world.objects cohort width window_start (source_part path part_ulid prepared) :=
        ⟨part_ulid, bytes, prepared, named, found, checked, rfl⟩
      have fresh : ((done ++ [source_part path part_ulid prepared]).map ulid_of).Nodup := by
        rw [List.map_append, List.nodup_append]
        refine ⟨distinct, by simp, fun left memberLeft right memberRight same => ?_⟩
        obtain ⟨earlier, member, rfl⟩ := List.mem_map.mp memberLeft
        have last := List.mem_singleton.mp memberRight
        exact repeated ((filled.keys part_ulid).mpr ⟨earlier, member, same.trans last⟩)
      have filed : Filled ulid_of (fun source filed => filed = source) (done ++ [source_part path part_ulid prepared])
          (by_ulid.insert part_ulid (source_part path part_ulid prepared)) := filled.insert rfl
      obtain ⟨loaded, all, nodup, ulids, each⟩ := ih filed fresh later
      refine ⟨source_part path part_ulid prepared :: loaded, by simpa using all, by simpa using nodup, ?_, ?_⟩
      · rw [List.map_cons, ulids]
        simp [canonical_ulids, named, source_part]
      · intro other member
        rcases List.mem_cons.mp member with rfl | later
        · exact ⟨window_start, by simp [source_part], source⟩
        · obtain ⟨start, present, holds⟩ := each other later
          exact ⟨start, List.mem_cons_of_mem _ present, holds⟩

/-! ### The surveyed sources -/

/-- The sources are the canonical objects in scope, once each and read from where they were listed. -/
structure SourcesFound (codec : Codec B) (objects : Objects B) (config : AggregationConfig) (window_starts : List Nat)
    (sources : List SourcePart) : Prop where
  ulids : (sources.map ulid_of).Perm (canonical_ulids (source_objects objects config.cohort window_starts))
  distinct : (sources.map ulid_of).Nodup
  loaded : ∀ source ∈ sources, ∃ window_start ∈ window_starts,
    source.path ∈ source_paths objects config.cohort window_start ∧
      Loaded codec objects config.cohort config.storage_window_seconds window_start source

theorem mem_source_objects {objects : Objects B} {cohort : String} {window_starts : List Nat} {window_start : Nat}
    {path : Path} : (window_start, path) ∈ source_objects objects cohort window_starts ↔
      window_start ∈ window_starts ∧ path ∈ source_paths objects cohort window_start := by
  simp only [source_objects, List.mem_flatMap, List.mem_map, Prod.mk.injEq]
  constructor
  · rintro ⟨start, member, found, present, rfl, rfl⟩
    exact ⟨member, present⟩
  · rintro ⟨member, present⟩
    exact ⟨window_start, member, path, present, rfl, rfl⟩

theorem runs_load_source_headers {config : AggregationConfig} {window_starts : List Nat} {objects : List (Nat × Path)}
    {sources : List SourcePart}
    (listed : objects.Perm (source_objects world.objects config.cohort window_starts))
    (run : Runs answer (load_source_headers codec config.cohort config.storage_window_seconds objects) world
      (.returned sources) world') : SourcesFound codec world.objects config window_starts sources := by
  obtain ⟨by_ulid, middle, loading, rest⟩ := runs_bind_returned.mp run
  obtain ⟨same, rfl⟩ := runs_pure.mp rest
  obtain rfl := Outcome.returned.inj same
  obtain ⟨loaded, filled, distinct, ulids, each⟩ := runs_load_headers Filled.empty (by simp) loading
  rw [List.nil_append] at filled distinct
  have keyed : ∀ entry ∈ by_ulid.toList, ulid_of entry.2 = entry.1 ∧ entry.2 ∈ loaded := by
    intro entry member
    obtain ⟨source, present, key, same⟩ := filled.mem_toList member
    rw [same]
    exact ⟨key, present⟩
  have keys : (by_ulid.toList.map Prod.snd).map ulid_of = by_ulid.toList.map Prod.fst := by
    rw [List.map_map]
    exact List.map_congr_left fun entry member => (keyed entry member).1
  refine ⟨?_, ?_, fun source member => ?_⟩
  · rw [keys]
    exact (filled.keys_perm distinct).trans (ulids ▸ listed.filterMap _)
  · rw [keys]
    exact (filled.keys_perm distinct).nodup_iff.mpr distinct
  · obtain ⟨entry, present, rfl⟩ := List.mem_map.mp member
    obtain ⟨window_start, object, holds⟩ := each entry.2 (keyed entry present).2
    obtain ⟨start, inside⟩ := mem_source_objects.mp (listed.mem_iff.mp object)
    exact ⟨window_start, start, inside, holds⟩

/-- The listed measurements are all those that are stored in the windows. -/
theorem runs_list_measurement_objects {cohort : String} {window_starts : List Nat} {listed : List Path}
    (run : Runs answer (list_measurement_objects cohort window_starts) world (.returned listed) world') :
    ∀ window_start ∈ window_starts, ∀ timestamp, format_window_timestamp window_start = .ok timestamp →
      ∀ path, path ∈ listing world.objects (measurement_window cohort timestamp) → path ∈ listed := by
  induction window_starts generalizing world listed with
  | nil => simp
  | cons first rest ih =>
    obtain ⟨stamp, start, formatRun, afterFormat⟩ := runs_bind_returned.mp run
    obtain ⟨formatted, rfl⟩ := runs_wrap_returned.mp formatRun
    obtain ⟨paths, middle, listRun, afterList⟩ := runs_bind_returned.mp afterFormat
    obtain ⟨perm, kept⟩ := runs_list_paths listRun
    obtain ⟨others, last, restRun, afterRest⟩ := runs_bind_returned.mp afterList
    obtain ⟨same, rfl⟩ := runs_pure.mp afterRest
    obtain rfl := Outcome.returned.inj same
    intro window_start member timestamp found path stored
    rcases List.mem_cons.mp member with rfl | later
    · obtain rfl := Except.ok.inj (formatted.symm.trans found)
      exact List.mem_append_left _ (perm.mem_iff.mpr stored)
    · exact List.mem_append_right _ (ih restRun window_start later timestamp found path (kept ▸ stored))

/-- The listing has every stored measurement of the windows. -/
def ListsMeasurements (objects : Objects B) (config : AggregationConfig) (window_starts : List Nat) (listed : List Path) :
    Prop :=
  ∀ window_start ∈ window_starts, ∀ timestamp, format_window_timestamp window_start = .ok timestamp →
    ∀ path, path ∈ listing objects (measurement_window config.cohort timestamp) → path ∈ listed

/-- A returned survey has found the sources in scope and classified them over the same store. -/
theorem runs_survey_store {config : AggregationConfig} {round_end : Nat} {sources : List SourcePart}
    {classified : Classified}
    (run : Runs answer (survey_store codec config round_end) world (.returned (sources, classified)) world') :
    ∃ window_starts measurement_objects middle,
      in_scope_window_starts round_end config.window_duration_seconds config.storage_window_seconds = .ok window_starts ∧
      SourcesFound codec world.objects config window_starts sources ∧ middle.objects = world.objects ∧
      ListsMeasurements world.objects config window_starts measurement_objects ∧
      Runs answer (classify codec config measurement_objects sources ⟨∅, [], 0⟩) middle (.returned classified) world' := by
  obtain ⟨window_starts, start, scopeRun, afterScope⟩ := runs_bind_returned.mp run
  obtain ⟨scope, rfl⟩ := runs_wrap_returned.mp scopeRun
  obtain ⟨source_objects, first, sourceRun, afterSources⟩ := runs_bind_returned.mp afterScope
  obtain ⟨listed, kept⟩ := runs_list_source_objects sourceRun
  obtain ⟨measurement_objects, second, measurementRun, afterMeasurements⟩ := runs_bind_returned.mp afterSources
  have keptAgain := performs_unchanged (list_measurement_objects_reads config.cohort window_starts) (fun _ _ => id)
    measurementRun
  obtain ⟨found, third, headerRun, afterHeaders⟩ := runs_bind_returned.mp afterMeasurements
  have headers : Performs Reads (load_source_headers codec config.cohort config.storage_window_seconds source_objects) :=
    performs_bind (load_headers_reads codec config.cohort config.storage_window_seconds source_objects ∅) fun _ =>
      performs_pure
  have keptHeaders := performs_unchanged headers (fun _ _ => id) headerRun
  obtain ⟨filed, last, classifyRun, rest⟩ := runs_bind_returned.mp afterHeaders
  obtain ⟨same, rfl⟩ := runs_pure.mp rest
  obtain ⟨rfl, rfl⟩ := Prod.mk.inj (Outcome.returned.inj same)
  have objects := keptAgain.trans kept
  have lists := runs_list_measurement_objects measurementRun
  rw [kept] at lists
  refine ⟨window_starts, measurement_objects, third, scope, ?_, keptHeaders.trans objects, lists, classifyRun⟩
  rw [← objects]
  refine runs_load_source_headers ?_ headerRun
  rw [objects]
  exact listed

end VectorSeam.SourceParts
