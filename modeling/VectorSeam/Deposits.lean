import VectorSeam.Keys
import VectorSeam.PendingParts

/-!
What a round uploads while it measures. Each upload is one file of the pair of a listed
source, encoded from a measurement that completed in this round; the truth file comes
first, and once a measurement has ended otherwise nothing is uploaded any more.
-/

namespace VectorSeam.Deposits
open VectorSeam.Model VectorSeam.ObjectStore VectorSeam.Window VectorSeam.Intermediate VectorSeam.Measure
open VectorSeam.Effects VectorSeam.Programs VectorSeam.Pipeline VectorSeam.Requests VectorSeam.Histories
open VectorSeam.SourceParts VectorSeam.Publishing VectorSeam.PendingParts VectorSeam.Ulids VectorSeam.Keys

variable {B : Type} {codec : Codec B} {config : AggregationConfig} {computed_at_us : Nat} {world world' : World B}

/-! ### Keys of pairs -/

/-- The keys of a source's pair. -/
def pair_paths (config : AggregationConfig) (source : SourcePart) : Except WindowError (Path × Path) :=
  intermediate_paths config.cohort source.listed.window_start source.listed.part_ulid

private theorem intermediate_paths_filenames {cohort : String} {window_start : Nat} {part : Ulid} {paths : Path × Path}
    (named : intermediate_paths cohort window_start part.to_string = .ok paths) :
    paths.1.filename = some ("part-" ++ part.to_string ++ ".truth.parquet") ∧
      paths.2.filename = some ("part-" ++ part.to_string ++ ".sweep.parquet") := by
  obtain ⟨timestamp, _, built⟩ := Results.bind_ok.mp named
  obtain rfl := Except.ok.inj built
  have file : ∀ finish, Allowed finish → (Path.from_text ("measurements/" ++ cohort ++ "/window=" ++ timestamp ++ "/" ++
      ("part-" ++ part.to_string ++ finish))).filename = some ("part-" ++ part.to_string ++ finish) :=
    fun finish allowed => Path.filename_of_plain (part_segment part allowed)
  refine ⟨?_, ?_⟩
  · simpa [String.append_assoc, slash_part] using file ".truth.parquet" rfl
  · simpa [String.append_assoc, slash_part] using file ".sweep.parquet" rfl

/-- The files of one part are not those of another, nor is its truth file its sweep file. -/
theorem pair_paths_disjoint {cohort cohort' : String} {window_start window_start' : Nat} {part part' : Ulid}
    {paths paths' : Path × Path} (first : intermediate_paths cohort window_start part.to_string = .ok paths)
    (second : intermediate_paths cohort' window_start' part'.to_string = .ok paths') :
    paths.1 ≠ paths'.2 ∧ (paths.1 = paths'.1 → part = part') ∧ (paths.2 = paths'.2 → part = part') := by
  obtain ⟨truth, sweep⟩ := intermediate_paths_filenames first
  obtain ⟨truth', sweep'⟩ := intermediate_paths_filenames second
  refine ⟨fun same => ?_, fun same => ?_, fun same => ?_⟩
  · rw [same, sweep'] at truth
    have ends := (part_name_injective (by decide) (Option.some.inj truth)).2
    exact absurd ends (by decide)
  · rw [same, truth'] at truth
    exact (part_name_injective rfl (Option.some.inj truth)).1.symm
  · rw [same, sweep'] at sweep
    exact (part_name_injective rfl (Option.some.inj sweep)).1.symm

/-! ### Events that end a measurement -/

/-- The cancellation token fired, or a sample was answered with something other than a measurement or a database failure. -/
def Ends : Event B → Prop
  | .measured _ _ (.error (.Database _)) => False
  | .measured _ _ (.error _) => True
  | .polled cancelled => cancelled = true
  | _ => False

/-- The object fetched last, while nothing has been uploaded since. -/
def in_hand (log : List (Event B)) : Option Path :=
  log.foldl (fun path event =>
    match event with
    | .got path _ => some path
    | .uploaded _ _ _ _ => none
    | _ => path) none

/-- Some upload to the path was tried. -/
def Tried (log : List (Event B)) (path : Path) : Prop := ∃ body reply stored, .uploaded path body reply stored ∈ log

theorem in_hand_append (log block : List (Event B)) (quiet : ∀ event ∈ block, Measures (request event)) :
    in_hand (log ++ block) = in_hand log := by
  induction block using List.reverseRecOn with
  | nil => rw [List.append_nil]
  | append_singleton front event ih =>
    have earlier := ih fun other member => quiet other (List.mem_append_left _ member)
    have last := quiet event (by simp)
    rw [← List.append_assoc, in_hand, List.foldl_append, ← in_hand, earlier]
    cases event with
    | listed lead reply => rfl
    | got path reply => exact absurd last id
    | uploaded path body reply stored => exact absurd last id
    | measured vector config reply => rfl
    | polled cancelled => rfl

theorem tried_append_quiet {log block : List (Event B)} {path : Path}
    (quiet : ∀ event ∈ block, ¬∃ path body, request event = .put path body) :
    Tried (log ++ block) path ↔ Tried log path := by
  constructor
  · rintro ⟨body, reply, stored, member⟩
    rcases List.mem_append.mp member with early | late
    · exact ⟨body, reply, stored, early⟩
    · exact absurd ⟨path, body, rfl⟩ (quiet _ late)
  · rintro ⟨body, reply, stored, member⟩
    exact ⟨body, reply, stored, List.mem_append_left _ member⟩

theorem tried_snoc {log : List (Event B)} {path other : Path} {body : B} {reply : Except String Unit} {stored : Bool} :
    Tried (log ++ [.uploaded other body reply stored]) path ↔ Tried log path ∨ other = path := by
  constructor
  · rintro ⟨body', reply', stored', member⟩
    rcases List.mem_append.mp member with early | late
    · exact .inl ⟨body', reply', stored', early⟩
    · cases List.mem_singleton.mp late
      exact .inr rfl
  · rintro (⟨body', reply', stored', member⟩ | rfl)
    · exact ⟨body', reply', stored', List.mem_append_left _ member⟩
    · exact ⟨body, reply, stored, by simp⟩

/-! ### Measurements that complete -/

/-- The part was measured from an object body read at the source's path, with answers that the log holds. -/
def Sampled (codec : Codec B) (config : AggregationConfig) (computed_at_us : Nat) (log : List (Event B)) (source : SourcePart)
    (measured : MeasuredPart) : Prop :=
  ∃ body prepared start finish, .got source.path (.found body) ∈ log ∧
    prepare_segment (codec.content body) config.cohort source.listed.window_start config.storage_window_seconds =
      .ok prepared ∧
    Runs answer (measure_samples prepared source.listed.part_ulid config computed_at_us prepared.samples ⟨0, [], []⟩) start
      (.returned (.Complete measured)) finish ∧ finish.log <+: log

theorem Sampled.mono {log later : List (Event B)} {source : SourcePart} {measured : MeasuredPart}
    (sampled : Sampled codec config computed_at_us log source measured) (extends' : log <+: later) :
    Sampled codec config computed_at_us later source measured := by
  obtain ⟨body, prepared, start, finish, fetched, checked, run, inside⟩ := sampled
  exact ⟨body, prepared, start, finish, extends'.subset fetched, checked, run, inside.trans extends'⟩

/-- The path and body are one file of the source's pair, encoded from a completed measurement. -/
structure Deposit (codec : Codec B) (config : AggregationConfig) (computed_at_us : Nat) (log : List (Event B))
    (source : SourcePart) (path : Path) (body : B) : Prop where
  encoded : ∃ paths measured truth sweep, pair_paths config source = .ok paths ∧
    Sampled codec config computed_at_us log source measured ∧
    encode_intermediate_pair codec measured.metadata measured.truth_rows measured.sweep_rows = .ok (truth, sweep) ∧
    (path = paths.1 ∧ body = truth ∨ path = paths.2 ∧ body = sweep)

/-- A measurement that completed got no answer that ends it. -/
theorem measure_samples_calm {part : PreparedPart} {part_ulid : String} {samples : List PreparedSample}
    {measuring : Measuring} {measured : MeasuredPart}
    (run : Runs answer (measure_samples part part_ulid config computed_at_us samples measuring) world
      (.returned (.Complete measured)) world') :
    ∃ block, world'.log = world.log ++ block ∧ ∀ event ∈ block, Measures (request event) ∧ ¬Ends event := by
  induction samples generalizing world measuring with
  | nil =>
    obtain ⟨_, rfl⟩ := runs_pure.mp run
    exact ⟨[], by simp⟩
  | cons sample rest ih =>
    unfold measure_samples at run
    rcases runs_bind_is_cancelled.mp run with ⟨same, _⟩ | ⟨cancelled, afterPoll⟩
    · cases same
    cases cancelled with
    | true => cases (runs_pure.mp afterPoll).1
    | false =>
      have extend : ∀ (start : World B) (first : List (Event B)), start.log = world.log ++ first →
          (∀ event ∈ first, Measures (request event) ∧ ¬Ends event) →
          (∃ block, world'.log = start.log ++ block ∧ ∀ event ∈ block, Measures (request event) ∧ ¬Ends event) →
          ∃ block, world'.log = world.log ++ block ∧ ∀ event ∈ block, Measures (request event) ∧ ¬Ends event := by
        rintro start first logged calm ⟨block, later, all⟩
        refine ⟨first ++ block, by rw [later, logged, List.append_assoc], fun event member => ?_⟩
        exact (List.mem_append.mp member).elim (calm event) (all event)
      have poll : Measures (request (.polled false : Event B)) ∧ ¬Ends (.polled false : Event B) := ⟨trivial, Bool.false_ne_true⟩
      simp only [Bool.false_eq_true, ↓reduceIte] at afterPoll
      split at afterPoll
      · rename_i receive_time_us vector _ _
        rcases runs_bind_measure_sample.mp afterPoll with ⟨same, _⟩ | ⟨reply, afterReply⟩
        · cases same
        have answered : ¬Ends (.measured vector config reply : Event B) →
            ∀ event ∈ [(.polled false : Event B), .measured vector config reply],
              Measures (request event) ∧ ¬Ends event := by
          intro fine event member
          rcases List.mem_pair.mp member with rfl | rfl
          · exact poll
          · exact ⟨trivial, fine⟩
        have logged : ((world.record (.polled false)).record (.measured vector config reply)).log =
            world.log ++ [(.polled false : Event B), .measured vector config reply] := by simp [World.record]
        rcases reply with (_ | _ | _ | _) | sampled
        · exact extend _ _ logged (answered id) (ih afterReply)
        · cases (runs_pure.mp afterReply).1
        · cases (runs_pure.mp afterReply).1
        · cases (runs_pure.mp afterReply).1
        · obtain ⟨taken, last, takeRun, restRun⟩ := runs_bind_returned.mp afterReply
          obtain ⟨rfl, _⟩ := runs_lift.mp takeRun
          exact extend _ _ logged (answered id) (ih restRun)
      · exact extend _ [.polled false] rfl (by simpa using poll) (ih afterPoll)

/-- A completed measurement of a source, with its object and its answers. -/
theorem runs_measure_source {source : SourcePart} {measured : MeasuredPart}
    (run : Runs answer (measure_source codec config computed_at_us source) world (.returned (.Complete measured)) world') :
    ∃ body prepared block, lookup world.objects source.path = some body ∧
      prepare_segment (codec.content body) config.cohort source.listed.window_start config.storage_window_seconds =
        .ok prepared ∧
      Runs answer (measure_samples prepared source.listed.part_ulid config computed_at_us prepared.samples ⟨0, [], []⟩)
        (world.record (.got source.path (.found body))) (.returned (.Complete measured)) world' ∧
      world'.log = world.log ++ .got source.path (.found body) :: block ∧
      ∀ event ∈ block, Measures (request event) ∧ ¬Ends event := by
  obtain ⟨body, middle, readRun, afterRead⟩ := runs_bind_returned.mp run
  obtain ⟨found, rfl⟩ := runs_get_bytes.mp readRun
  obtain ⟨prepared, last, checkRun, afterCheck⟩ := runs_bind_returned.mp afterRead
  obtain ⟨checked, rfl⟩ := runs_wrap_returned.mp checkRun
  rcases runs_mapError.mp afterCheck with ⟨outcome, inner, same⟩ | ⟨_, _, same⟩ | ⟨_, same⟩
  · obtain rfl := Outcome.returned.inj same
    obtain ⟨block, logged, calm⟩ := measure_samples_calm inner
    exact ⟨body, prepared, block, found, checked, inner, by simpa [World.record] using logged, calm⟩
  · cases same
  · cases same

/-- Measuring a source fetches it first. -/
theorem measure_source_log {source : SourcePart} {outcome : Outcome PipelineError MeasurePartOutcome}
    (run : Runs answer (measure_source codec config computed_at_us source) world outcome world') :
    world' = world ∨ ∃ reply answers, world'.log = world.log ++ .got source.path reply :: answers ∧
      ∀ event ∈ answers, Measures (request event) := by
  unfold measure_source get_bytes at run
  rw [bind_assoc] at run
  rcases runs_bind_get.mp run with ⟨_, rfl⟩ | ⟨reply, _, afterGet⟩
  · exact .inl rfl
  refine .inr ⟨reply, ?_⟩
  have nothing : ∃ answers, (world.record (.got source.path reply)).log = world.log ++ .got source.path reply :: answers ∧
      ∀ event ∈ answers, Measures (request event) := ⟨[], rfl, by simp⟩
  cases reply with
  | found body =>
    rcases runs_bind_wrap.mp afterGet with ⟨prepared, _, inner⟩ | ⟨_, _, _, rfl⟩
    · obtain ⟨block, logged, all⟩ := performs_log (performs_mapError
        (measure_samples_measures prepared source.listed.part_ulid config computed_at_us prepared.samples ⟨0, [], []⟩)) inner
      exact ⟨block, by simp [logged, World.record], all⟩
    · exact nothing
  | body_failed message =>
    obtain ⟨_, rfl⟩ := runs_fail.mp afterGet
    exact nothing
  | not_found =>
    obtain ⟨_, rfl⟩ := runs_fail.mp afterGet
    exact nothing
  | failed message =>
    obtain ⟨_, rfl⟩ := runs_fail.mp afterGet
    exact nothing

/-! ### Orderly logs -/

/-- An upload of a measurement is a deposit of one of the sources, its truth file first, and no measurement ended before.
    A sample is measured while its source is in hand. -/
def Proper (codec : Codec B) (config : AggregationConfig) (computed_at_us : Nat) (start : List (Event B))
    (sources : List SourcePart) (before : List (Event B)) : Event B → Prop
  | .uploaded path body _ _ => path.root = some "measurements" → (∀ earlier ∈ before, ¬Ends earlier) ∧
      ∃ source ∈ sources, Deposit codec config computed_at_us (start ++ before) source path body ∧
        ∀ paths, pair_paths config source = .ok paths → path = paths.2 →
          ∃ truth, .uploaded paths.1 truth (.ok ()) true ∈ before
  | .measured _ _ _ => ∃ source ∈ sources, in_hand before = some source.path
  | _ => True

/-- Neither file of the source was uploaded. -/
def Untouched (config : AggregationConfig) (log : List (Event B)) (source : SourcePart) : Prop :=
  ∀ paths, pair_paths config source = .ok paths → ¬Tried log paths.1 ∧ ¬Tried log paths.2

/-- The source in hand has had no file uploaded. -/
def Clean (config : AggregationConfig) (sources : List SourcePart) (log : List (Event B)) : Prop :=
  ∀ source ∈ sources, in_hand log = some source.path → Untouched config log source

/-- The block of a round's events after `start` so far. -/
structure Orderly (codec : Codec B) (config : AggregationConfig) (computed_at_us : Nat) (start : List (Event B))
    (sources : List SourcePart) (block : List (Event B)) : Prop where
  uploads : Always (Proper codec config computed_at_us start sources) block
  clean : ∀ before, before <+: block → Clean config sources before

variable {start past : List (Event B)} {sources : List SourcePart}

theorem Orderly.snoc (orderly : Orderly codec config computed_at_us start sources past) {event : Event B}
    (proper : Proper codec config computed_at_us start sources past event) (clean : Clean config sources (past ++ [event])) :
    Orderly codec config computed_at_us start sources (past ++ [event]) := by
  refine ⟨always_snoc.mpr ⟨orderly.uploads, proper⟩, fun before inside => ?_⟩
  rcases List.prefix_concat_iff.mp inside with rfl | earlier
  · exact clean
  · exact orderly.clean before earlier

/-- Events that upload nothing leave every source as touched as it was. -/
theorem untouched_append {block : List (Event B)} {source : SourcePart}
    (quiet : ∀ event ∈ block, ¬∃ path body, request event = .put path body) :
    Untouched config (past ++ block) source ↔ Untouched config past source := by
  simp only [Untouched, tried_append_quiet quiet]

theorem Orderly.fetch (orderly : Orderly codec config computed_at_us start sources past) {path : Path} {reply : GetReply B}
    (untouched : ∀ source ∈ sources, source.path = path → Untouched config past source) :
    Orderly codec config computed_at_us start sources (past ++ [.got path reply]) := by
  refine orderly.snoc trivial fun source member held => ?_
  rw [in_hand, List.foldl_append] at held
  rw [untouched_append (by simp [request])]
  exact untouched source member (Option.some.inj held).symm

theorem Orderly.poll (orderly : Orderly codec config computed_at_us start sources past) (cancelled : Bool) :
    Orderly codec config computed_at_us start sources (past ++ [.polled cancelled]) := by
  refine orderly.snoc trivial fun source member held => ?_
  rw [in_hand_append past [.polled cancelled] (by simp [request, Measures])] at held
  rw [untouched_append (by simp [request])]
  exact orderly.clean past (List.prefix_refl _) source member held

/-- Polls and samples of the source in hand. -/
theorem Orderly.answers (orderly : Orderly codec config computed_at_us start sources past) {source : SourcePart}
    (member : source ∈ sources) (held : in_hand past = some source.path) {block : List (Event B)}
    (fine : ∀ event ∈ block, Measures (request event)) :
    Orderly codec config computed_at_us start sources (past ++ block) := by
  induction block using List.reverseRecOn with
  | nil => rwa [List.append_nil]
  | append_singleton front event ih =>
    have frontFine : ∀ other ∈ front, Measures (request other) := fun other inside => fine other (List.mem_append_left _ inside)
    have earlier := ih frontFine
    rw [← List.append_assoc]
    have inHand : in_hand (past ++ front) = some source.path := by rw [in_hand_append past front frontFine, held]
    have measures := fine event (by simp)
    cases event with
    | polled cancelled => exact earlier.poll cancelled
    | measured vector config' reply =>
      refine earlier.snoc ⟨source, member, inHand⟩ fun other listed still => ?_
      rw [in_hand_append (past ++ front) [.measured vector config' reply] (by simp [request, Measures])] at still
      rw [untouched_append (by simp [request])]
      exact earlier.clean _ (List.prefix_refl _) other listed still
    | listed lead reply => exact absurd measures id
    | got path reply => exact absurd measures id
    | uploaded path body reply stored => exact absurd measures id

theorem in_hand_upload {log : List (Event B)} {path : Path} {body : B} {reply : Except String Unit} {stored : Bool} :
    in_hand (log ++ [.uploaded path body reply stored]) = none := by
  rw [in_hand, List.foldl_append]
  rfl

theorem Orderly.upload (orderly : Orderly codec config computed_at_us start sources past) {path : Path} {body : B}
    {reply : Except String Unit} {stored : Bool}
    (proper : Proper codec config computed_at_us start sources past (.uploaded path body reply stored)) :
    Orderly codec config computed_at_us start sources (past ++ [.uploaded path body reply stored]) := by
  refine orderly.snoc proper fun source _ held => ?_
  rw [in_hand_upload] at held
  cases held

/-! ### Storing a pair -/

/-- The files of a source, in the order in which they are uploaded. -/
theorem store_measured_orderly {source : SourcePart} {measured : MeasuredPart} {outcome : Outcome PipelineError IntermediatePart}
    (run : Runs answer (store_measured codec config.cohort source measured) world outcome world')
    (orderly : Orderly codec config computed_at_us start sources past) (logged : world.log = start ++ past)
    (calm : ∀ event ∈ past, ¬Ends event) (member : source ∈ sources)
    (canonical : ∃ part : Ulid, source.listed.part_ulid = part.to_string)
    (sampled : Sampled codec config computed_at_us world.log source measured) :
    ∃ block, world'.log = start ++ (past ++ block) ∧ Orderly codec config computed_at_us start sources (past ++ block) ∧
      (∀ event ∈ block, ¬Ends event) ∧
      ∀ path, Tried (past ++ block) path → Tried past path ∨
        ∃ paths, pair_paths config source = .ok paths ∧ (path = paths.1 ∨ path = paths.2) := by
  have nothing : ∃ block, world.log = start ++ (past ++ block) ∧
      Orderly codec config computed_at_us start sources (past ++ block) ∧ (∀ event ∈ block, ¬Ends event) ∧
      ∀ path, Tried (past ++ block) path → Tried past path ∨
        ∃ paths, pair_paths config source = .ok paths ∧ (path = paths.1 ∨ path = paths.2) :=
    ⟨[], by simpa using logged, by simpa using orderly, by simp, fun path tried => .inl (by simpa using tried)⟩
  rcases runs_bind_wrap.mp run with ⟨⟨truth, sweep⟩, encoded, rest⟩ | ⟨_, _, rfl, rfl⟩
  swap
  · exact nothing
  rcases runs_bind_wrap.mp rest with ⟨paths, named, rest⟩ | ⟨_, _, rfl, rfl⟩
  swap
  · exact nothing
  obtain ⟨part, ulid⟩ := canonical
  have named' : intermediate_paths config.cohort source.listed.window_start part.to_string = .ok paths := ulid ▸ named
  obtain ⟨split, _, _⟩ := pair_paths_disjoint named' named'
  have first : ∀ reply stored, Proper codec config computed_at_us start sources past (.uploaded paths.1 truth reply stored) := by
    intro reply stored _
    refine ⟨calm, source, member, ⟨paths, measured, truth, sweep, named, logged ▸ sampled, encoded, .inl ⟨rfl, rfl⟩⟩, ?_⟩
    intro paths' named'' same
    obtain rfl := Except.ok.inj (named.symm.trans named'')
    exact absurd same split
  have second : ∀ reply stored, Proper codec config computed_at_us start sources
      (past ++ [.uploaded paths.1 truth (.ok ()) true]) (.uploaded paths.2 sweep reply stored) := by
    intro reply stored _
    refine ⟨fun earlier inside => ?_, source, member,
      ⟨paths, measured, truth, sweep, named, ?_, encoded, .inr ⟨rfl, rfl⟩⟩, fun paths' named'' _ => ⟨truth, ?_⟩⟩
    · rcases List.mem_append.mp inside with old | new
      · exact calm earlier old
      · rw [List.mem_singleton.mp new]
        exact id
    · exact (logged ▸ sampled).mono (by rw [← List.append_assoc]; exact List.prefix_append _ _)
    · obtain rfl := Except.ok.inj (named.symm.trans named'')
      simp
  have one : ∀ reply stored, Orderly codec config computed_at_us start sources
      (past ++ [.uploaded paths.1 truth reply stored]) := fun reply stored => orderly.upload (first reply stored)
  have triedOne : ∀ (reply : Except String Unit) stored path, Tried (past ++ [.uploaded paths.1 truth reply stored]) path →
      Tried past path ∨ ∃ paths, pair_paths config source = .ok paths ∧ (path = paths.1 ∨ path = paths.2) := by
    intro reply stored path tried
    rcases tried_snoc.mp tried with old | rfl
    · exact .inl old
    · exact .inr ⟨paths, named, .inl rfl⟩
  have two : ∀ reply stored, Orderly codec config computed_at_us start sources
      (past ++ [.uploaded paths.1 truth (.ok ()) true, .uploaded paths.2 sweep reply stored]) := by
    intro reply stored
    have both := (one (.ok ()) true).upload (second reply stored)
    rwa [List.append_assoc] at both
  have triedTwo : ∀ (reply : Except String Unit) stored path,
      Tried (past ++ [.uploaded paths.1 truth (.ok ()) true, .uploaded paths.2 sweep reply stored]) path →
      Tried past path ∨ ∃ paths, pair_paths config source = .ok paths ∧ (path = paths.1 ∨ path = paths.2) := by
    intro reply stored path tried
    rw [← List.singleton_append, ← List.append_assoc] at tried
    rcases tried_snoc.mp tried with old | rfl
    · exact triedOne (.ok ()) true path old
    · exact .inr ⟨paths, named, .inr rfl⟩
  rcases runs_bind_put_bytes.mp rest with ⟨rfl, rfl⟩ | ⟨message, stored, rfl, rfl⟩ | rest
  · exact nothing
  · exact ⟨[.uploaded paths.1 truth (.error message) stored], by simp [World.upload, logged], one _ _, by simp [Ends], triedOne _ _⟩
  rcases runs_bind_put_bytes.mp rest with ⟨rfl, rfl⟩ | ⟨message, stored, rfl, rfl⟩ | rest
  · exact ⟨[.uploaded paths.1 truth (.ok ()) true], by simp [World.upload, logged], one _ _, by simp [Ends], triedOne _ _⟩
  · exact ⟨[.uploaded paths.1 truth (.ok ()) true, .uploaded paths.2 sweep (.error message) stored],
      by simp [World.upload, logged], two _ _, by simp [Ends], triedTwo _ _⟩
  obtain ⟨rfl, _⟩ := runs_wrap.mp rest
  exact ⟨[.uploaded paths.1 truth (.ok ()) true, .uploaded paths.2 sweep (.ok ()) true], by simp [World.upload, logged],
    two _ _, by simp [Ends], triedTwo _ _⟩

/-! ### The measuring phase -/

/-- The listed sources have canonical names, one for each ULID. -/
structure Named (sources : List SourcePart) : Prop where
  names : ∀ source ∈ sources, source_part_ulid source.path = some (ulid_of source)
  distinct : (sources.map ulid_of).Nodup

theorem Named.canonical (named : Named sources) {source : SourcePart} (member : source ∈ sources) :
    ∃ part : Ulid, source.listed.part_ulid = part.to_string := source_part_ulid_canonical (named.names source member)

theorem Named.same_path (named : Named sources) {source other : SourcePart} (member : source ∈ sources)
    (member' : other ∈ sources) (same : source.path = other.path) : source = other := by
  refine List.inj_on_of_nodup_map named.distinct member member' (Option.some.inj ?_)
  rw [← named.names source member, ← named.names other member', same]

private theorem untouched_after {source other : SourcePart} {log log' : List (Event B)}
    (canonical : ∃ part : Ulid, source.listed.part_ulid = part.to_string)
    (canonical' : ∃ part : Ulid, other.listed.part_ulid = part.to_string) (different : ulid_of source ≠ ulid_of other)
    (tried : ∀ path, Tried log' path → Tried log path ∨
      ∃ paths, pair_paths config source = .ok paths ∧ (path = paths.1 ∨ path = paths.2))
    (untouched : Untouched config log other) : Untouched config log' other := by
  intro paths named
  obtain ⟨part, ulid⟩ := canonical
  obtain ⟨part', ulid'⟩ := canonical'
  obtain ⟨noTruth, noSweep⟩ := untouched paths named
  have apart : ∀ paths', pair_paths config source = .ok paths' →
      paths'.1 ≠ paths.1 ∧ paths'.1 ≠ paths.2 ∧ paths'.2 ≠ paths.1 ∧ paths'.2 ≠ paths.2 := by
    intro paths' named'
    have first : intermediate_paths config.cohort source.listed.window_start part.to_string = .ok paths' := ulid ▸ named'
    have second : intermediate_paths config.cohort other.listed.window_start part'.to_string = .ok paths := ulid' ▸ named
    obtain ⟨truthSweep, truths, sweeps⟩ := pair_paths_disjoint first second
    obtain ⟨sweepTruth, _, _⟩ := pair_paths_disjoint second first
    have parts : part ≠ part' := fun same => different (by rw [ulid_of, ulid, same, ← ulid'])
    exact ⟨fun same => parts (truths same), truthSweep, sweepTruth.symm, fun same => parts (sweeps same)⟩
  constructor
  · intro later
    rcases tried _ later with early | ⟨paths', named', same | same⟩
    · exact noTruth early
    · exact (apart paths' named').1 same.symm
    · exact (apart paths' named').2.2.1 same.symm
  · intro later
    rcases tried _ later with early | ⟨paths', named', same | same⟩
    · exact noSweep early
    · exact (apart paths' named').2.1 same.symm
    · exact (apart paths' named').2.2.2 same.symm

/-- What a round uploads while it measures is orderly, wherever it stops. -/
theorem measure_pending_orderly {pending : List SourcePart} {compatible : BTreeMap String IntermediatePart}
    {outcome : Outcome PipelineError PendingOutcome}
    (run : Runs answer (measure_pending codec config computed_at_us pending compatible) world outcome world')
    (orderly : Orderly codec config computed_at_us start sources past) (logged : world.log = start ++ past)
    (calm : ∀ event ∈ past, ¬Ends event) (named : Named sources) (sub : pending.Sublist sources)
    (untouched : ∀ source ∈ pending, Untouched config past source) :
    ∃ block, world'.log = start ++ (past ++ block) ∧ Orderly codec config computed_at_us start sources (past ++ block) := by
  induction pending generalizing world compatible past with
  | nil =>
    obtain ⟨_, rfl⟩ := runs_pure.mp run
    exact ⟨[], by simpa using logged, by simpa using orderly⟩
  | cons source rest ih =>
    have member : source ∈ sources := sub.subset (by simp)
    have looked : ∀ (reply : GetReply B) (answers : List (Event B)), (∀ event ∈ answers, Measures (request event)) →
        Orderly codec config computed_at_us start sources
          (past ++ (.polled false :: .got source.path reply :: answers)) := by
      intro reply answers fine
      have fetched : Orderly codec config computed_at_us start sources (past ++ [.polled false] ++ [.got source.path reply]) := by
        refine (orderly.poll false).fetch fun other listed same => ?_
        rw [named.same_path listed member same, untouched_append (by simp [request])]
        exact untouched source (by simp)
      have all := fetched.answers member (by rw [in_hand, List.foldl_append]; rfl) fine
      simpa using all
    rcases runs_bind_is_cancelled.mp run with ⟨_, rfl⟩ | ⟨cancelled, afterPoll⟩
    · exact ⟨[], by simpa using logged, by simpa using orderly⟩
    cases cancelled with
    | true =>
      obtain ⟨_, rfl⟩ := runs_pure.mp afterPoll
      exact ⟨[.polled true], by simp [World.record, logged], orderly.poll true⟩
    | false =>
      simp only [Bool.false_eq_true, ↓reduceIte] at afterPoll
      have stop : ∀ (last : World B) (ended : Outcome PipelineError MeasurePartOutcome),
          Runs answer (measure_source codec config computed_at_us source) (world.record (.polled false)) ended last →
          ∃ block, last.log = start ++ (past ++ block) ∧ Orderly codec config computed_at_us start sources (past ++ block) := by
        intro last ended inner
        rcases measure_source_log inner with rfl | ⟨reply, answers, appended, all⟩
        · exact ⟨[.polled false], by simp [World.record, logged], orderly.poll false⟩
        · exact ⟨.polled false :: .got source.path reply :: answers, by simp [appended, World.record, logged],
            looked reply answers all⟩
      rcases runs_bind.mp afterPoll with ⟨ended, middle, measureRun, afterMeasure⟩ | ⟨_, failed, _⟩ | ⟨stopped, _⟩
      swap
      · exact stop _ _ failed
      swap
      · exact stop _ _ stopped
      cases ended with
      | Complete measured =>
        obtain ⟨body, prepared, answers, found, checked, inner, appended, answersCalm⟩ := runs_measure_source measureRun
        obtain ⟨quiet, quietSame⟩ : ∃ quiet, quiet = (.polled false :: .got source.path (.found body) :: answers : List (Event B)) :=
          ⟨_, rfl⟩
        have middleLog : middle.log = start ++ (past ++ quiet) := by simp [appended, World.record, logged, quietSame]
        have orderlyQuiet : Orderly codec config computed_at_us start sources (past ++ quiet) :=
          quietSame ▸ looked (.found body) answers fun event inside => (answersCalm event inside).1
        have calmQuiet : ∀ event ∈ past ++ quiet, ¬Ends event := by
          intro event inside
          rcases List.mem_append.mp inside with early | late
          · exact calm event early
          rw [quietSame] at late
          rcases List.mem_cons.mp late with rfl | late
          · exact Bool.false_ne_true
          rcases List.mem_cons.mp late with rfl | late
          · exact id
          · exact (answersCalm event late).2
        have triedQuiet : ∀ path, Tried (past ++ quiet) path → Tried past path := by
          intro path
          refine (tried_append_quiet fun event inside => ?_).mp
          rintro ⟨put, bytes, same⟩
          rw [quietSame] at inside
          rcases List.mem_cons.mp inside with rfl | inside
          · cases same
          rcases List.mem_cons.mp inside with rfl | inside
          · cases same
          · have measures := (answersCalm event inside).1
            rw [same] at measures
            exact measures
        have sampled : Sampled codec config computed_at_us middle.log source measured := by
          refine ⟨body, prepared, _, middle, ?_, checked, inner, List.prefix_refl _⟩
          rw [appended]
          simp
        have storing : ∀ (last : World B) (stored : Outcome PipelineError IntermediatePart),
            Runs answer (store_measured codec config.cohort source measured) middle stored last →
            ∃ block, last.log = start ++ (past ++ quiet ++ block) ∧
              Orderly codec config computed_at_us start sources (past ++ quiet ++ block) ∧
              (∀ event ∈ past ++ quiet ++ block, ¬Ends event) ∧
              ∀ other ∈ rest, Untouched config (past ++ quiet ++ block) other := by
          intro last stored storeRun
          obtain ⟨block, lastLog, orderlyLast, calmLast, tried⟩ := store_measured_orderly storeRun orderlyQuiet middleLog
            calmQuiet member (named.canonical member) sampled
          refine ⟨block, lastLog, orderlyLast, fun event inside => ?_, fun other later => ?_⟩
          · exact (List.mem_append.mp inside).elim (calmQuiet event) (calmLast event)
          · have distinct := (named.distinct.sublist (sub.map ulid_of))
            rw [List.map_cons, List.nodup_cons] at distinct
            refine untouched_after (named.canonical member) (named.canonical (sub.subset (List.mem_cons_of_mem _ later)))
              (fun same => distinct.1 (same ▸ List.mem_map_of_mem later))
              (fun path after => (tried path after).imp (triedQuiet path) id) (untouched other (List.mem_cons_of_mem _ later))
        rcases runs_bind.mp afterMeasure with ⟨part, last, storeRun, restRun⟩ | ⟨_, failed, _⟩ | ⟨stopped, _⟩
        · obtain ⟨block, lastLog, orderlyLast, calmLast, untouchedLast⟩ := storing _ _ storeRun
          obtain ⟨more, finalLog, orderlyFinal⟩ := ih restRun orderlyLast lastLog calmLast
            ((List.sublist_cons_self _ _).trans sub) untouchedLast
          exact ⟨quiet ++ block ++ more, by simpa using finalLog, by simpa using orderlyFinal⟩
        · obtain ⟨block, lastLog, orderlyLast, _⟩ := storing _ _ failed
          exact ⟨quiet ++ block, by simpa using lastLog, by simpa using orderlyLast⟩
        · obtain ⟨block, lastLog, orderlyLast, _⟩ := storing _ _ stopped
          exact ⟨quiet ++ block, by simpa using lastLog, by simpa using orderlyLast⟩
      | TableSmallerThanK abort =>
        obtain ⟨_, rfl⟩ := runs_pure.mp afterMeasure
        exact stop _ _ measureRun
      | ConnectionUnavailable error =>
        obtain ⟨_, rfl⟩ := runs_fail.mp afterMeasure
        exact stop _ _ measureRun
      | Cancelled =>
        obtain ⟨_, rfl⟩ := runs_pure.mp afterMeasure
        exact stop _ _ measureRun

end VectorSeam.Deposits
