import VectorSeam.Simulations
import VectorSeam.RoundEffects
import VectorSeam.Isolation

/-!
Objects without a canonical name. A round over a store with such an object and a round
over the store without it are run side by side: they get the same answers, but for the
listings of the window the object lies in. The name is ignored exactly when it does not
parse; a name that parses to an identifier printed otherwise is taken for a part.
-/

namespace VectorSeam.Strays
open VectorSeam.Model VectorSeam.Text VectorSeam.Ulids VectorSeam.Window VectorSeam.ObjectStore VectorSeam.Accounting
open VectorSeam.Intermediate VectorSeam.Measure VectorSeam.Effects VectorSeam.Programs VectorSeam.Simulations
open VectorSeam.Pipeline VectorSeam.Requests VectorSeam.Publishing VectorSeam.PendingParts VectorSeam.SourceParts
open VectorSeam.RoundEffects VectorSeam.Isolation

variable {B : Type}

/-! ### Sorting without one item -/

/-- Items may be left out before or after a stable sort. -/
theorem filter_mergeSort {α : Type} {le : α → α → Bool} (trans : ∀ a b c, le a b → le b c → le a c)
    (total : ∀ a b, le a b || le b a) (keep : α → Bool) (items : List α) :
    (items.mergeSort le).filter keep = (items.filter keep).mergeSort le := by
  induction items with
  | nil => simp
  | cons item rest ih =>
    obtain ⟨before, after, whole, others, greater⟩ := List.mergeSort_cons trans total item rest
    rw [whole, List.filter_append]
    rw [others, List.filter_append] at ih
    cases kept : keep item with
    | false =>
      have dropped : ¬keep item = true := by rw [kept]; exact nofun
      rw [List.filter_cons_of_neg dropped, List.filter_cons_of_neg dropped, ih]
    | true =>
      rw [List.filter_cons_of_pos kept, List.filter_cons_of_pos kept]
      obtain ⟨front, back, whole', others', greater'⟩ := List.mergeSort_cons trans total item (rest.filter keep)
      rw [others'] at ih
      rw [whole']
      -- Both splits cut one list where the elements stop lying strictly below the item.
      have sorted := List.pairwise_mergeSort trans total (item :: rest)
      rw [whole] at sorted
      have sorted' := List.pairwise_mergeSort trans total (item :: rest.filter keep)
      rw [whole'] at sorted'
      have low : ∀ other ∈ before.filter keep, le item other = false := fun other member => by
        simpa using greater other (List.mem_of_mem_filter member)
      have low' : ∀ other ∈ front, le item other = false := fun other member => by simpa using greater' other member
      have high : ∀ other ∈ after.filter keep, le item other = true := fun other member =>
        (List.pairwise_cons.mp (List.pairwise_append.mp sorted).2.1).1 other (List.mem_of_mem_filter member)
      have high' : ∀ other ∈ back, le item other = true := fun other member =>
        (List.pairwise_cons.mp (List.pairwise_append.mp sorted').2.1).1 other member
      have cut : ∀ {left right : List α}, (∀ other ∈ left, le item other = false) → (∀ other ∈ right, le item other = true) →
          (left ++ right).filter (le item) = right ∧ (left ++ right).filter (fun other => !le item other) = left := by
        intro left right lower upper
        rw [List.filter_append, List.filter_append]
        constructor
        · rw [List.filter_eq_nil_iff.mpr (by simpa using lower), List.filter_eq_self.mpr upper, List.nil_append]
        · rw [List.filter_eq_self.mpr (by simpa using lower), List.filter_eq_nil_iff.mpr (by simpa using upper),
            List.append_nil]
      have backs : after.filter keep = back := by rw [← (cut low high).1, ih, (cut low' high').1]
      have fronts : before.filter keep = front := by rw [← (cut low high).2, ih, (cut low' high').2]
      rw [fronts, backs]

/-! ### The same answers with and without an object -/

def without (stray : Path) (paths : List Path) : List Path := paths.filter fun path => decide (path ≠ stray)
/-- A log entry with the object left out of a listing. -/
def hide (stray : Path) : Event B → Event B
  | .listed lead reply => .listed lead (reply.map (without stray))
  | event => event

/-- Two worlds that differ by one object, and by it in what was listed. -/
structure Hides (stray : Path) (body : B) (full bare : World B) : Prop where
  present : lookup full.objects stray = some body
  absent : lookup bare.objects stray = none
  others : ∀ path, path ≠ stray → lookup full.objects path = lookup bare.objects path
  log : bare.log = full.log.map (hide stray)

variable {stray : Path} {body : B} {full bare : World B}

theorem Hides.record (hides : Hides stray body full bare) {event event' : Event B} (same : event' = hide stray event) :
    Hides stray body (full.record event) (bare.record event') :=
  { hides with log := by simp [World.record, hides.log, same] }

theorem mem_without {paths : List Path} {path : Path} : path ∈ without stray paths ↔ path ∈ paths ∧ path ≠ stray := by
  simp [without]

theorem without_eq_self {paths : List Path} (absent : stray ∉ paths) : without stray paths = paths := by
  refine List.filter_eq_self.mpr fun path member => decide_eq_true ?_
  rintro rfl
  exact absent member

theorem Hides.listing (hides : Hides stray body full bare) (lead : Path) :
    (without stray (ObjectStore.listing full.objects lead)).Perm (ObjectStore.listing bare.objects lead) := by
  have distinct : (without stray (ObjectStore.listing full.objects lead)).Nodup := (nodup_listing _ _).filter _
  refine (List.perm_ext_iff_of_nodup distinct (nodup_listing _ _)).mpr fun path => ?_
  rw [mem_without, mem_listing, mem_listing]
  by_cases here : path = stray
  · subst here
    simp [hides.absent]
  · simp [here, hides.others path here]

theorem list_reply_perm {objects : Objects B} {lead : Path} {order : Except String (List Path)} {paths : List Path}
    (reply : list_reply objects lead order = .ok paths) : paths.Perm (listing objects lead) := by
  cases order with
  | error message => cases reply
  | ok proposed =>
    obtain rfl := Except.ok.inj reply
    by_cases fits : proposed.isPerm (listing objects lead)
    · rw [if_pos fits]
      exact List.isPerm_iff.mp fits
    · rw [if_neg fits]

theorem list_reply_of_perm {objects : Objects B} {lead : Path} {paths : List Path} (perm : paths.Perm (listing objects lead)) :
    list_reply objects lead (.ok paths) = .ok paths := by
  rw [list_reply, if_pos (List.isPerm_iff.mpr perm)]

/-- The listing with the object and the listing without it can be given together. -/
theorem answers_list (lead : Path) :
    Answers answer answer (Hides stray body) (.list lead) (fun reply reply' => reply' = reply.map (without stray)) ∧
      Answers answer answer (fun bare full => Hides stray body full bare) (.list lead)
        (fun reply' reply => reply' = reply.map (without stray)) := by
  constructor
  · intro full bare choice hides
    obtain ⟨reply, replied⟩ : ∃ reply, list_reply full.objects lead choice.listed = reply := ⟨_, rfl⟩
    have matched : list_reply bare.objects lead (reply.map (without stray)) = reply.map (without stray) := by
      cases reply with
      | error message => rfl
      | ok paths => exact list_reply_of_perm (((list_reply_perm replied).filter _).trans (hides.listing lead))
    refine ⟨{ choice with listed := reply.map (without stray) }, ?_, ?_⟩
    · show Hides stray body (full.record (.listed lead (list_reply full.objects lead choice.listed)))
        (bare.record (.listed lead (list_reply bare.objects lead (reply.map (without stray)))))
      rw [replied, matched]
      exact hides.record rfl
    · show list_reply bare.objects lead (reply.map (without stray)) = (list_reply full.objects lead choice.listed).map _
      rw [replied, matched]
  · intro bare full choice hides
    obtain ⟨reply', replied⟩ : ∃ reply, list_reply bare.objects lead choice.listed = reply := ⟨_, rfl⟩
    obtain ⟨reply, fits, same⟩ : ∃ reply, list_reply full.objects lead reply = reply ∧ reply' = reply.map (without stray) := by
      cases reply' with
      | error message => exact ⟨.error message, rfl, rfl⟩
      | ok paths =>
        have perm := list_reply_perm replied
        have absent : stray ∉ paths := fun member => by
          have stored := (mem_listing.mp (perm.mem_iff.mp member)).1
          rw [hides.absent] at stored
          cases stored
        by_cases below : lead.below stray = true
        · refine ⟨.ok (stray :: paths), list_reply_of_perm ?_, congrArg Except.ok ?_⟩
          · have listed : stray ∈ ObjectStore.listing full.objects lead := mem_listing.mpr ⟨by simp [hides.present], below⟩
            have distinct : (stray :: paths).Nodup := List.nodup_cons.mpr ⟨absent, perm.nodup_iff.mpr (nodup_listing _ _)⟩
            refine (List.perm_ext_iff_of_nodup distinct (nodup_listing _ _)).mpr fun path => ?_
            rw [List.mem_cons, perm.mem_iff, ← (hides.listing lead).mem_iff, mem_without]
            by_cases here : path = stray
            · subst here
              simp [listed]
            · simp [here]
          · rw [without, List.filter_cons_of_neg (by simp)]
            exact (without_eq_self absent).symm
        · refine ⟨.ok paths, list_reply_of_perm (perm.trans ?_), congrArg Except.ok (without_eq_self absent).symm⟩
          have unlisted : stray ∉ ObjectStore.listing full.objects lead := fun member => below (mem_listing.mp member).2
          rw [← without_eq_self unlisted]
          exact (hides.listing lead).symm
    refine ⟨{ choice with listed := reply }, ?_, ?_⟩
    · show Hides stray body (full.record (.listed lead (list_reply full.objects lead reply)))
        (bare.record (.listed lead (list_reply bare.objects lead choice.listed)))
      rw [replied, fits]
      exact hides.record (congrArg _ same)
    · show list_reply bare.objects lead choice.listed = (list_reply full.objects lead reply).map (without stray)
      rw [replied, fits, same]

theorem Hides.upload (hides : Hides stray body full bare) {path : Path} {bytes : B} {reply : Except String Unit}
    (stored : Bool) (elsewhere : path ≠ stray) :
    Hides stray body (full.upload path bytes reply stored) (bare.upload path bytes reply stored) where
  present := by
    cases stored
    · exact hides.present
    · exact (lookup_store_of_ne elsewhere).trans hides.present
  absent := by
    cases stored
    · exact hides.absent
    · exact (lookup_store_of_ne elsewhere).trans hides.absent
  others other different := by
    cases stored
    · exact hides.others other different
    · simp only [World.upload, ↓reduceIte, lookup_store, hides.others other different]
  log := by simp [World.upload, hides.log, hide]

/-- A request that does not touch the object is answered the same with and without it. -/
theorem answers_elsewhere {effect : Effect B} (elsewhere : ¬Touches effect stray) :
    Answers answer answer (Hides stray body) effect Eq ∧
      Answers answer answer (fun bare full => Hides stray body full bare) effect Eq := by
  cases effect with
  | list lead =>
    have unlisted : ∀ {objects : Objects B} {order : Except String (List Path)},
        (list_reply objects lead order).map (without stray) = list_reply objects lead order := by
      intro objects order
      cases replied : list_reply objects lead order with
      | error message => rfl
      | ok paths =>
        refine congrArg Except.ok (without_eq_self fun member => elsewhere ?_)
        exact (mem_listing.mp ((list_reply_perm replied).mem_iff.mp member)).2
    constructor
    · intro full bare choice hides
      obtain ⟨choice', after, same⟩ := (answers_list lead).1 full bare choice hides
      exact ⟨choice', after, (same.trans unlisted).symm⟩
    · intro bare full choice hides
      obtain ⟨choice', after, same⟩ := (answers_list lead).2 bare full choice hides
      exact ⟨choice', after, same.trans unlisted⟩
  | get path =>
    have same : ∀ {full bare : World B}, Hides stray body full bare → ∀ fetch,
        get_reply full.objects path fetch = get_reply bare.objects path fetch := by
      intro full bare hides fetch
      cases fetch <;> simp only [get_reply, hides.others path elsewhere]
    refine ⟨fun full bare choice hides => ⟨choice, ?_, same hides choice.fetch⟩,
      fun bare full choice hides => ⟨choice, ?_, (same hides choice.fetch).symm⟩⟩
    · exact hides.record (by rw [same hides]; rfl)
    · exact hides.record (by rw [same hides]; rfl)
  | put path bytes =>
    exact ⟨fun full bare choice hides => ⟨choice, hides.upload _ elsewhere, rfl⟩,
      fun bare full choice hides => ⟨choice, hides.upload _ elsewhere, rfl⟩⟩
  | measure_sample vector config =>
    exact ⟨fun full bare choice hides => ⟨choice, hides.record rfl, rfl⟩,
      fun bare full choice hides => ⟨choice, hides.record rfl, rfl⟩⟩
  | is_cancelled =>
    exact ⟨fun full bare choice hides => ⟨choice, hides.record rfl, rfl⟩,
      fun bare full choice hides => ⟨choice, hides.record rfl, rfl⟩⟩

/-! ### The requests that follow the listing -/

/-- A request that leaves the object alone. -/
def Avoids (stray : Path) (effect : Effect B) : Prop := ¬Touches effect stray

section Requests
variable {ε α : Type} {codec : Codec B} {config : AggregationConfig}

/-- A program that leaves the object alone, with a value as specified. -/
abbrev Clear (stray : Path) (holds : α → Prop) (program : Program B ε α) : Prop :=
  Safe (fun _ _ => True) (Avoids stray) holds program

theorem avoids_get {path : Path} (different : path ≠ stray) : Avoids stray (.get path : Effect B) := different
theorem avoids_put {path : Path} {bytes : B} (different : path ≠ stray) : Avoids stray (.put path bytes) := different

/-- Keys of another tree are not the object. -/
theorem other_root {path : Path} {tree : String} (root : stray.root = some "cohorts") (other : path.root = some tree)
    (different : tree ≠ "cohorts") : path ≠ stray := by
  rintro rfl
  exact different (Option.some.inj (other.symm.trans root))

theorem clear_wrap {rename : ε → PipelineError} {result : Except ε α} {holds : α → Prop}
    (found : ∀ value, result = .ok value → holds value) :
    Clear stray holds (wrap rename result : Program B PipelineError α) := safe_mapError (safe_lift found)

theorem clear_check {rename : ε → PipelineError} {result : Except ε α} :
    Clear stray (fun _ => True) (wrap rename result : Program B PipelineError α) := clear_wrap fun _ _ => trivial

theorem clear_get_bytes {path : Path} (different : path ≠ stray) :
    Clear stray (fun _ => True) (get_bytes path : Program B PipelineError B) :=
  Performs.safe (performs_get_bytes (avoids_get different))

theorem clear_list_measurement_objects (root : stray.root = some "cohorts") (cohort : String) (window_starts : List Nat) :
    Clear stray (fun _ => True) (list_measurement_objects cohort window_starts : Program B PipelineError (List Path)) := by
  induction window_starts with
  | nil => exact safe_pure trivial
  | cons window_start rest ih =>
    refine safe_bind clear_check fun timestamp _ => ?_
    refine safe_bind (Performs.safe (performs_list_paths ?_)) fun listed _ => safe_bind ih fun objects _ => safe_pure trivial
    intro below
    exact other_root root (root_of_below below (window_path_root measurements_segment cohort timestamp)) (by decide) rfl

theorem clear_load_headers (cohort : String) (width : Nat) {objects : List (Nat × Path)} (by_ulid : BTreeMap String SourcePart)
    (others : ∀ object ∈ objects, object.2 ≠ stray)
    (clean : ∀ (part_ulid : String) source, by_ulid[part_ulid]? = some source → source.path ≠ stray) :
    Clear stray (fun loaded => ∀ (part_ulid : String) source, loaded[part_ulid]? = some source → source.path ≠ stray)
      (load_headers codec cohort width objects by_ulid) := by
  induction objects generalizing by_ulid with
  | nil => exact safe_pure clean
  | cons object rest ih =>
    obtain ⟨window_start, path⟩ := object
    obtain ⟨here, later⟩ := List.forall_mem_cons.mp others
    unfold load_headers
    cases named : source_part_ulid path with
    | none => exact ih by_ulid later clean
    | some part_ulid =>
      refine safe_bind (clear_get_bytes here) fun bytes _ => safe_bind clear_check fun prepared _ => ?_
      by_cases repeated : part_ulid ∈ by_ulid
      · rw [if_pos repeated]
        trivial
      · rw [if_neg repeated]
        refine ih _ later fun key source found => ?_
        rw [SortedMaps.lookup_insert] at found
        by_cases own : part_ulid = key
        · rw [if_pos own] at found
          obtain rfl := Option.some.inj found
          exact here
        · rw [if_neg own] at found
          exact clean key source found

theorem clear_load_source_headers (cohort : String) (width : Nat) {objects : List (Nat × Path)}
    (others : ∀ object ∈ objects, object.2 ≠ stray) :
    Clear stray (fun sources => ∀ source ∈ sources, source.path ≠ stray) (load_source_headers codec cohort width objects) := by
  refine safe_bind (clear_load_headers cohort width ∅ others (by simp)) fun by_ulid clean => safe_pure fun source member => ?_
  obtain ⟨key, found⟩ := SortedMaps.mem_values.mp member
  exact clean key source found

theorem clear_classify (root : stray.root = some "cohorts") (measurement_objects : List Path) {sources : List SourcePart}
    (classified : Classified) (others : ∀ source ∈ sources, source.path ≠ stray)
    (clean : ∀ source ∈ classified.pending, source.path ≠ stray) :
    Clear stray (fun classified => ∀ source ∈ classified.pending, source.path ≠ stray)
      (classify codec config measurement_objects sources classified) := by
  induction sources generalizing classified with
  | nil => exact safe_pure clean
  | cons source rest ih =>
    obtain ⟨here, later⟩ := List.forall_mem_cons.mp others
    have pended : ∀ other ∈ classified.pending ++ [source], other.path ≠ stray := by
      intro other member
      rcases List.mem_append.mp member with earlier | last
      · exact clean other earlier
      · rw [List.mem_singleton.mp last]
        exact here
    refine safe_bind (clear_wrap fun paths named => named) fun paths named => ?_
    obtain ⟨truth, sweep⟩ := intermediate_paths_root named
    obtain ⟨truth_path, sweep_path⟩ := paths
    by_cases present : truth_path ∈ measurement_objects ∧ sweep_path ∈ measurement_objects
    · simp only [if_pos present]
      refine safe_bind (clear_get_bytes (other_root root truth (by decide))) fun truth_bytes _ => ?_
      refine safe_bind (clear_get_bytes (other_root root sweep (by decide))) fun sweep_bytes _ => ?_
      refine safe_bind (clear_wrap fun filed paired => paired) fun filed paired => ih filed later ?_
      rcases classify_pair_ok paired with ⟨_, _, _, _, same, _⟩ | ⟨same, _⟩
      · rw [same]
        exact clean
      · rw [same]
        exact pended
    · simp only [if_neg present]
      exact ih _ later pended

theorem performs_store_measured (root : stray.root = some "cohorts") (cohort : String) (source : SourcePart)
    (measured : MeasuredPart) : Performs (Avoids stray) (store_measured codec cohort source measured) := by
  refine performs_bind performs_wrap fun pair => performs_bind_wrap fun paths named => ?_
  obtain ⟨truth, sweep⟩ := intermediate_paths_root named
  exact performs_bind (performs_put_bytes (avoids_put (other_root root truth (by decide)))) fun _ =>
    performs_bind (performs_put_bytes (avoids_put (other_root root sweep (by decide)))) fun _ => performs_wrap

theorem clear_measure_pending (root : stray.root = some "cohorts") (computed_at_us : Nat) {sources : List SourcePart}
    (compatible : BTreeMap String IntermediatePart) (others : ∀ source ∈ sources, source.path ≠ stray) :
    Clear stray (fun _ => True) (measure_pending codec config computed_at_us sources compatible) := by
  induction sources generalizing compatible with
  | nil => exact safe_pure trivial
  | cons source rest ih =>
    obtain ⟨here, later⟩ := List.forall_mem_cons.mp others
    refine safe_perform_bind (fun touched => nomatch touched) fun cancelled _ => ?_
    cases cancelled with
    | true => exact safe_pure trivial
    | false =>
      refine safe_bind (Performs.safe (measure_source_performs codec config computed_at_us source (avoids_get here) ?_))
        fun outcome _ => ?_
      · intro effect measures touched
        cases effect with
        | list lead => exact measures.elim
        | get other => exact measures.elim
        | put other body => exact measures.elim
        | measure_sample vector config => exact touched.elim
        | is_cancelled => exact touched.elim
      cases outcome with
      | TableSmallerThanK abort => exact safe_pure trivial
      | ConnectionUnavailable error => trivial
      | Cancelled => exact safe_pure trivial
      | Complete measured =>
        refine safe_bind (Performs.safe (performs_store_measured root config.cohort source measured)) fun part _ => ih _ later

theorem clear_finish_round (root : stray.root = some "cohorts") (beta_reg : Float → Float → Float → Float) (round_end : Nat)
    (computed_at : String) (sources : List SourcePart) (phase_a_incompatible_parts : Nat)
    (compatible : BTreeMap String IntermediatePart) (phase_a_abort : Option PhaseAAbort) :
    Clear stray (fun _ => True) (finish_round codec beta_reg config round_end computed_at sources phase_a_incompatible_parts
      compatible phase_a_abort) := by
  refine Performs.safe ((finish_round_closes sources phase_a_incompatible_parts compatible phase_a_abort).mono ?_)
  intro effect closes touched
  cases effect with
  | list lead => exact closes
  | get path => exact other_root root closes (by decide) touched
  | put path bytes => exact other_root root (closes_root closes) (by decide) touched
  | measure_sample vector config => exact touched
  | is_cancelled => exact touched

end Requests

/-! ### Rounds side by side -/

/-- The first program over the store with the object and the second over the store without it match each other's runs. -/
def Matched {ε α β : Type} (stray : Path) (body : B) (same : α → β → Prop) (program : Program B ε α) (program' : Program B ε β) :
    Prop :=
  Simulates answer answer (Hides stray body) same program program' ∧
    Simulates answer answer (fun bare full => Hides stray body full bare) (fun value' value => same value value') program' program

section Matched
variable {ε α β α' β' : Type} {same : α → β → Prop}

theorem matched_pure {value : α} {value' : β} (holds : same value value') :
    Matched stray body same (pure value : Program B ε α) (pure value') := ⟨simulates_pure holds, simulates_pure holds⟩

theorem matched_bind {program : Program B ε α} {program' : Program B ε β} {next : α → Program B ε α'} {next' : β → Program B ε β'}
    {after : α' → β' → Prop} (first : Matched stray body same program program')
    (second : ∀ value value', same value value' → Matched stray body after (next value) (next' value')) :
    Matched stray body after (program >>= next) (program' >>= next') :=
  ⟨simulates_bind first.1 fun value value' holds => (second value value' holds).1,
    simulates_bind first.2 fun value' value holds => (second value value' holds).2⟩

theorem matched_clear {holds : α → Prop} {program : Program B ε α} (clear : Clear stray holds program) :
    Matched stray body (fun value value' => value = value' ∧ holds value) program program :=
  ⟨simulates_safe clear fun _ avoids => (answers_elsewhere avoids).1,
    (simulates_safe clear fun _ avoids => (answers_elsewhere avoids).2).mono fun _ _ both => ⟨both.1.symm, both.1 ▸ both.2⟩⟩

theorem matched_list_paths (lead : Path) :
    Matched stray body (fun paths paths' => paths' = without stray paths)
      (list_paths lead : Program B PipelineError (List Path)) (list_paths lead) := by
  refine matched_bind ⟨simulates_perform (answers_list lead).1, simulates_perform (answers_list lead).2⟩ fun reply reply' given => ?_
  subst given
  cases reply with
  | error message => exact ⟨simulates_fail, simulates_fail⟩
  | ok paths => exact matched_pure rfl

/-- Listed objects without those at one path. -/
def objects_without (stray : Path) (objects : List (Nat × Path)) : List (Nat × Path) :=
  objects.filter fun object => decide (object.2 ≠ stray)

theorem matched_list_source_windows (cohort : String) (window_starts : List Nat) :
    Matched stray body (fun objects objects' => objects' = objects_without stray objects)
      (list_source_windows cohort window_starts : Program B PipelineError (List (Nat × Path)))
      (list_source_windows cohort window_starts) := by
  induction window_starts with
  | nil => exact matched_pure rfl
  | cons window_start rest ih =>
    refine matched_bind (matched_clear clear_check) fun timestamp _ both => ?_
    obtain ⟨rfl, _⟩ := both
    refine matched_bind (matched_list_paths _) fun listed listed' given => matched_bind ih fun objects objects' later => ?_
    refine matched_pure ?_
    rw [given, later, objects_without, objects_without, without, List.filter_append, List.filter_map, List.filter_filter,
      List.filter_filter]
    refine congrArg (· ++ _) (congrArg (List.map _) (List.filter_congr fun path _ => Bool.and_comm _ _))

theorem matched_list_source_objects (cohort : String) (window_starts : List Nat) :
    Matched stray body (fun objects objects' => objects' = objects_without stray objects)
      (list_source_objects cohort window_starts : Program B PipelineError (List (Nat × Path)))
      (list_source_objects cohort window_starts) := by
  refine matched_bind (matched_list_source_windows cohort window_starts) fun objects objects' given => matched_pure ?_
  rw [given, objects_without, objects_without]
  refine (filter_mergeSort (fun left middle right first second => ?_) (fun left right => ?_) _ _).symm
  · exact decide_eq_true (le_trans (of_decide_eq_true first) (of_decide_eq_true second))
  · simpa using le_total left.2.raw right.2.raw

/-- An object whose name does not parse is passed over. -/
theorem load_headers_without {codec : Codec B} (unnamed : source_part_ulid stray = none) (cohort : String) (width : Nat)
    (objects : List (Nat × Path)) (by_ulid : BTreeMap String SourcePart) :
    load_headers codec cohort width objects by_ulid = load_headers codec cohort width (objects_without stray objects) by_ulid := by
  induction objects generalizing by_ulid with
  | nil => rfl
  | cons object rest ih =>
    obtain ⟨window_start, path⟩ := object
    by_cases here : path = stray
    · subst here
      rw [objects_without, List.filter_cons_of_neg (by simp), load_headers, unnamed]
      exact ih by_ulid
    · rw [objects_without, List.filter_cons_of_pos (by simpa using here), load_headers, load_headers]
      cases named : source_part_ulid path with
      | none => exact ih by_ulid
      | some part_ulid =>
        refine congrArg (bind _) (funext fun bytes => congrArg (bind _) (funext fun prepared => ?_))
        by_cases repeated : part_ulid ∈ by_ulid
        · rw [if_pos repeated, if_pos repeated]
        · rw [if_neg repeated, if_neg repeated]
          exact ih _

theorem objects_without_others (objects : List (Nat × Path)) : ∀ object ∈ objects_without stray objects, object.2 ≠ stray :=
  fun _ member => of_decide_eq_true (List.mem_filter.mp member).2

theorem matched_survey_store {codec : Codec B} {config : AggregationConfig} (root : stray.root = some "cohorts")
    (unnamed : source_part_ulid stray = none) (round_end : Nat) :
    Matched stray body (fun found found' => found = found' ∧ ∀ source ∈ found.2.pending, source.path ≠ stray)
      (survey_store codec config round_end) (survey_store codec config round_end) := by
  refine matched_bind (matched_clear clear_check) fun window_starts _ both => ?_
  obtain ⟨rfl, _⟩ := both
  refine matched_bind (matched_list_source_objects config.cohort window_starts) fun objects objects' given => ?_
  subst given
  refine matched_bind (matched_clear (clear_list_measurement_objects root config.cohort window_starts)) fun measurement_objects _ both => ?_
  obtain ⟨rfl, _⟩ := both
  have loaded : load_source_headers codec config.cohort config.storage_window_seconds objects =
      load_source_headers codec config.cohort config.storage_window_seconds (objects_without stray objects) := by
    rw [load_source_headers, load_headers_without unnamed]
    rfl
  rw [loaded]
  refine matched_bind (matched_clear (clear_load_source_headers _ _ (objects_without_others objects))) fun sources _ both => ?_
  obtain ⟨rfl, others⟩ := both
  refine matched_bind (matched_clear (clear_classify root _ _ others (by simp))) fun classified _ both => ?_
  obtain ⟨rfl, pending⟩ := both
  exact matched_pure ⟨rfl, pending⟩

variable (codec : Codec B) (beta_reg : Float → Float → Float → Float) (config : AggregationConfig) (round_end : Nat)
  (computed_at : String) (computed_at_us : Nat)

theorem matched_run_cohort_round (root : stray.root = some "cohorts") (unnamed : source_part_ulid stray = none) :
    Matched stray body (· = ·) (run_cohort_round codec beta_reg config round_end computed_at computed_at_us)
      (run_cohort_round codec beta_reg config round_end computed_at computed_at_us) := by
  refine matched_bind (matched_survey_store root unnamed round_end) fun found _ both => ?_
  obtain ⟨rfl, others⟩ := both
  obtain ⟨sources, classified⟩ := found
  refine matched_bind (matched_clear (clear_measure_pending root computed_at_us _ others)) fun outcome _ both => ?_
  obtain ⟨rfl, _⟩ := both
  cases outcome with
  | Cancelled => exact matched_pure rfl
  | Measured compatible phase_a_abort =>
    have clear : Clear stray (fun _ => True) (finish_round codec beta_reg config round_end computed_at sources
        classified.phase_a_incompatible_parts compatible phase_a_abort) := clear_finish_round root _ _ _ _ _ _ _
    have finished : Matched stray body _ _ _ := matched_clear clear
    exact ⟨finished.1.mono fun _ _ both => both.1, finished.2.mono fun _ _ both => both.1⟩

end Matched

/-! ### Names that parse -/

/-- The file name of a part: a text between the marks of a segment. -/
def Named (path : Path) (text : String) : Prop := path.filename = some ("part-" ++ text ++ ".vseam")
/-- The canonical name of a part. -/
def Canonical (path : Path) : Prop := ∃ part : Ulid, Named path part.to_string
/-- A name that parses to an identifier which is printed otherwise. -/
def Aliased (path : Path) : Prop := ∃ text, ∃ part : Ulid, Named path text ∧ Ulid.parse text = some part ∧ text ≠ part.to_string

theorem source_part_ulid_iff {path : Path} {part_ulid : String} : source_part_ulid path = some part_ulid ↔
    ∃ text, ∃ part : Ulid, Named path text ∧ Ulid.parse text = some part ∧ part.to_string = part_ulid := by
  simp only [source_part_ulid, Option.bind_eq_bind, Option.bind_eq_some_iff, Option.map_eq_some_iff, strip_start_iff,
    strip_end_iff]
  constructor
  · rintro ⟨filename, is_named, text, ⟨middle, rfl, rfl⟩, part, parsed, printed⟩
    exact ⟨text, part, by rw [Named, is_named, String.append_assoc], parsed, printed⟩
  · rintro ⟨text, part, is_named, parsed, printed⟩
    exact ⟨_, is_named, text, ⟨text ++ ".vseam", String.append_assoc, rfl⟩, part, parsed, printed⟩

/-- The name is that of the identifier it is taken for, except for the aliases. -/
theorem source_part_ulid_named {path : Path} (unaliased : ¬Aliased path) {part_ulid : String}
    (named : source_part_ulid path = some part_ulid) : Named path part_ulid := by
  obtain ⟨text, part, is_named, parsed, rfl⟩ := source_part_ulid_iff.mp named
  by_cases printed : text = part.to_string
  · rw [← printed]
    exact is_named
  · exact absurd ⟨text, part, is_named, parsed, printed⟩ unaliased

theorem unnamed_iff {path : Path} (stray : ¬Canonical path) : source_part_ulid path = none ↔ ¬Aliased path := by
  constructor
  · rintro unnamed ⟨text, part, is_named, parsed, _⟩
    rw [source_part_ulid_iff.mpr ⟨text, part, is_named, parsed, rfl⟩] at unnamed
    cases unnamed
  · intro unaliased
    cases named : source_part_ulid path with
    | none => rfl
    | some part_ulid =>
      obtain ⟨text, part, is_named, parsed, rfl⟩ := source_part_ulid_iff.mp named
      exact absurd ⟨part, source_part_ulid_named unaliased named⟩ stray

end VectorSeam.Strays
