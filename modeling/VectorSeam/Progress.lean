import VectorSeam.SourceParts

/-!
What a round needs to go on. A program proceeds when each of its runs is stopped, meets
a disturbance (a storage failure or a cancellation), or returns; sequences proceed part
by part, and requests of a round proceed when the store has what they ask for.
-/

namespace VectorSeam.Progress
open VectorSeam.Model VectorSeam.ObjectStore VectorSeam.Window VectorSeam.Intermediate VectorSeam.Measure
open VectorSeam.Effects VectorSeam.Programs VectorSeam.Pipeline VectorSeam.Requests VectorSeam.SourceParts

variable {B ε α β : Type} {codec : Codec B} {world world' middle : World B}

/-- A storage failure, or a cancellation. -/
def Disturbs : Event B → Prop
  | .listed _ (.error _) => True
  | .got _ (.failed _) => True
  | .got _ (.body_failed _) => True
  | .uploaded _ _ (.error _) _ => True
  | .polled cancelled => cancelled = true
  | _ => False

/-- Something has disturbed the run that led from one world to the other. -/
def Disturbed (world world' : World B) : Prop :=
  ∃ block, world'.log = world.log ++ block ∧ ∃ event ∈ block, Disturbs event

theorem Disturbed.before (disturbed : Disturbed world middle) (longer : middle.log <+: world'.log) :
    Disturbed world world' := by
  obtain ⟨block, logged, event, member, disturbs⟩ := disturbed
  obtain ⟨rest, whole⟩ := longer
  exact ⟨block ++ rest, by rw [← whole, logged, List.append_assoc], event, List.mem_append_left _ member, disturbs⟩

theorem Disturbed.after (disturbed : Disturbed middle world') (longer : world.log <+: middle.log) :
    Disturbed world world' := by
  obtain ⟨block, logged, event, member, disturbs⟩ := disturbed
  obtain ⟨rest, whole⟩ := longer
  exact ⟨rest ++ block, by rw [logged, ← whole, List.append_assoc], event, List.mem_append_right _ member, disturbs⟩

theorem run_extends {program : Program B ε α} {outcome : Outcome ε α} (run : Runs answer program world outcome world') :
    world.log <+: world'.log := by
  obtain ⟨block, logged, _⟩ := performs_log (performs_any program) run
  exact ⟨block, logged.symm⟩

/-- Every run is stopped, disturbed, or returns a value as asked for. -/
def Proceeds (program : Program B ε α) (world : World B) (good : α → Prop) : Prop :=
  ∀ outcome world', Runs answer program world outcome world' →
    outcome = .stopped ∨ Disturbed world world' ∨ ∃ value, outcome = .returned value ∧ good value

/-- Every run is stopped, disturbed or returns. -/
abbrev GoesOn (program : Program B ε α) (world : World B) : Prop := Proceeds program world fun _ => True

theorem proceeds_pure {value : α} {good : α → Prop} (holds : good value) :
    Proceeds (pure value : Program B ε α) world good := by
  intro outcome world' run
  obtain ⟨rfl, _⟩ := runs_pure.mp run
  exact .inr (.inr ⟨value, rfl, holds⟩)

/-- The second part only has to proceed after an undisturbed first one. -/
theorem proceeds_bind {program : Program B ε α} {next : α → Program B ε β} {good : β → Prop} (first : GoesOn program world)
    (second : ∀ value middle, Runs answer program world (.returned value) middle → ¬Disturbed world middle →
      Proceeds (next value) middle good) : Proceeds (program >>= next) world good := by
  intro outcome world' run
  rcases runs_bind.mp run with ⟨value, middle, firstRun, secondRun⟩ | ⟨error, failed, _⟩ | ⟨_, rfl⟩
  · by_cases disturbed : Disturbed world middle
    · exact .inr (.inl (disturbed.before (run_extends secondRun)))
    rcases second value middle firstRun disturbed outcome world' secondRun with stopped | later | returned
    · exact .inl stopped
    · exact .inr (.inl (later.after (run_extends firstRun)))
    · exact .inr (.inr returned)
  · rcases first _ world' failed with same | disturbed | ⟨value, same, _⟩
    · cases same
    · exact .inr (.inl disturbed)
    · cases same
  · exact .inl rfl

theorem proceeds_wrap {rename : ε → PipelineError} {value : α} {result : Except ε α} (found : result = .ok value) :
    GoesOn (wrap rename result : Program B PipelineError α) world := by
  intro outcome world' run
  rcases (runs_wrap.mp run).2 with ⟨other, _, rfl⟩ | ⟨error, failed, _⟩
  · exact .inr (.inr ⟨other, rfl, trivial⟩)
  · cases found.symm.trans failed

theorem proceeds_list_paths (lead : Path) : GoesOn (list_paths lead) world := by
  intro outcome world' run
  rcases runs_bind.mp run with ⟨reply, middle, listRun, rest⟩ | ⟨error, failed, rfl⟩ | ⟨_, rfl⟩
  · rcases runs_list listRun with ⟨same, _⟩ | ⟨found, same, rfl, _⟩
    · cases same
    cases same
    obtain ⟨rfl, returned | ⟨message, failed, _⟩⟩ := runs_wrap.mp rest
    · obtain ⟨paths, _, rfl⟩ := returned
      exact .inr (.inr ⟨paths, rfl, trivial⟩)
    · refine .inr (.inl ⟨[.listed lead reply], rfl, _, List.mem_singleton_self _, ?_⟩)
      rw [failed]
      trivial
  · rcases runs_list failed with ⟨same, _⟩ | ⟨_, same, _⟩
    · cases same
    · cases same
  · exact .inl rfl

theorem proceeds_get_bytes {path : Path} {body : B} (found : lookup world.objects path = some body) :
    GoesOn (get_bytes path) world := by
  intro outcome world' run
  unfold get_bytes at run
  rcases runs_bind_get.mp run with ⟨rfl, _⟩ | ⟨reply, readable, rest⟩
  · exact .inl rfl
  have disturbed : Disturbs (.got path reply : Event B) → world' = world.record (.got path reply) →
      Disturbed world world' := by
    rintro disturbs rfl
    exact ⟨[.got path reply], rfl, _, List.mem_singleton_self _, disturbs⟩
  cases reply with
  | found other =>
    obtain ⟨rfl, _⟩ := runs_pure.mp rest
    exact .inr (.inr ⟨other, rfl, trivial⟩)
  | body_failed message => exact .inr (.inl (disturbed trivial (runs_fail.mp rest).2))
  | not_found => cases found.symm.trans readable
  | failed message => exact .inr (.inl (disturbed trivial (runs_fail.mp rest).2))

theorem proceeds_put_bytes (path : Path) (bytes : B) : GoesOn (put_bytes path bytes) world := by
  intro outcome world' run
  rcases runs_put_bytes.mp run with ⟨rfl, _⟩ | ⟨reply, stored, _, rfl, ⟨_, rfl⟩ | ⟨message, failed, _⟩⟩
  · exact .inl rfl
  · exact .inr (.inr ⟨(), rfl, trivial⟩)
  · refine .inr (.inl ⟨[.uploaded path bytes reply stored], rfl, _, List.mem_singleton_self _, ?_⟩)
    rw [failed]
    trivial

theorem proceeds_is_cancelled : GoesOn (is_cancelled : Program B ε Bool) world := by
  intro outcome world' run
  rcases runs_is_cancelled.mp run with ⟨rfl, _⟩ | ⟨cancelled, rfl, _⟩
  · exact .inl rfl
  · exact .inr (.inr ⟨cancelled, rfl, trivial⟩)

/-- A poll that does not cancel. -/
theorem proceeds_poll {next : Program B ε α} {cancelled_value : α} {good : α → Prop}
    (later : Proceeds next (world.record (.polled false)) good) :
    Proceeds (is_cancelled >>= fun cancelled => if cancelled then pure cancelled_value else next) world good := by
  refine proceeds_bind proceeds_is_cancelled fun cancelled middle run undisturbed => ?_
  rcases runs_is_cancelled.mp run with ⟨same, _⟩ | ⟨_, same, rfl⟩
  · cases same
  cases same
  cases cancelled with
  | true => exact absurd ⟨[.polled true], rfl, _, List.mem_singleton_self _, rfl⟩ undisturbed
  | false => exact later

/-- A GET of a stored object that is not disturbed finds it. -/
theorem proceeds_bind_get {path : Path} {body : B} {next : GetReply B → Program B ε β} {good : β → Prop}
    (found : lookup world.objects path = some body)
    (later : Proceeds (next (.found body)) (world.record (.got path (.found body))) good) :
    Proceeds (get path >>= next) world good := by
  intro outcome world' run
  rcases runs_bind_get.mp run with ⟨rfl, _⟩ | ⟨reply, readable, rest⟩
  · exact .inl rfl
  have extends' : (world.record (.got path reply)).log <+: world'.log := run_extends rest
  have disturbed : Disturbs (.got path reply : Event B) → Disturbed world world' := fun disturbs =>
    Disturbed.before ⟨[.got path reply], rfl, _, List.mem_singleton_self _, disturbs⟩ extends'
  cases reply with
  | found other =>
    obtain rfl := Option.some.inj (found.symm.trans readable)
    rcases later outcome world' rest with stopped | after | returned
    · exact .inl stopped
    · exact .inr (.inl (after.after ⟨[.got path (.found body)], rfl⟩))
    · exact .inr (.inr returned)
  | body_failed message => exact .inr (.inl (disturbed trivial))
  | not_found => cases found.symm.trans readable
  | failed message => exact .inr (.inl (disturbed trivial))

/-! ### The phases of a survey -/

theorem proceeds_list_source_windows {cohort : String} {window_starts : List Nat}
    (formatted : ∀ window_start ∈ window_starts, ∃ timestamp, format_window_timestamp window_start = .ok timestamp) :
    GoesOn (list_source_windows cohort window_starts) world := by
  induction window_starts generalizing world with
  | nil => exact proceeds_pure trivial
  | cons window_start rest ih =>
    obtain ⟨timestamp, found⟩ := formatted window_start (by simp)
    refine proceeds_bind (proceeds_wrap found) fun _ _ _ _ => ?_
    refine proceeds_bind (proceeds_list_paths _) fun _ _ _ _ => ?_
    refine proceeds_bind (ih fun other member => formatted other (List.mem_cons_of_mem _ member)) fun _ _ _ _ => ?_
    exact proceeds_pure trivial

theorem proceeds_list_measurement_objects {cohort : String} {window_starts : List Nat}
    (formatted : ∀ window_start ∈ window_starts, ∃ timestamp, format_window_timestamp window_start = .ok timestamp) :
    GoesOn (list_measurement_objects cohort window_starts) world := by
  induction window_starts generalizing world with
  | nil => exact proceeds_pure trivial
  | cons window_start rest ih =>
    obtain ⟨timestamp, found⟩ := formatted window_start (by simp)
    refine proceeds_bind (proceeds_wrap found) fun _ _ _ _ => ?_
    refine proceeds_bind (proceeds_list_paths _) fun _ _ _ _ => ?_
    refine proceeds_bind (ih fun other member => formatted other (List.mem_cons_of_mem _ member)) fun _ _ _ _ => ?_
    exact proceeds_pure trivial

/-- The header loop over readable segments under distinct ULIDs. -/
theorem proceeds_load_headers {cohort : String} {width : Nat} {objects : List (Nat × Path)}
    {by_ulid : BTreeMap String SourcePart}
    (readable : ∀ object ∈ objects, (source_part_ulid object.2).isSome → ∃ body prepared,
      lookup world.objects object.2 = some body ∧ prepare_segment (codec.content body) cohort object.1 width = .ok prepared)
    (distinct : (canonical_ulids objects).Nodup) (fresh : ∀ ulid ∈ canonical_ulids objects, ulid ∉ by_ulid) :
    GoesOn (load_headers codec cohort width objects by_ulid) world := by
  induction objects generalizing world by_ulid with
  | nil => exact proceeds_pure trivial
  | cons object rest ih =>
    obtain ⟨window_start, path⟩ := object
    have readableRest : ∀ other ∈ rest, (source_part_ulid other.2).isSome → ∃ body prepared,
        lookup world.objects other.2 = some body ∧ prepare_segment (codec.content body) cohort other.1 width = .ok prepared :=
      fun other member => readable other (List.mem_cons_of_mem _ member)
    unfold load_headers
    cases named : source_part_ulid path with
    | none =>
      have same : canonical_ulids ((window_start, path) :: rest) = canonical_ulids rest := by simp [canonical_ulids, named]
      rw [same] at distinct fresh
      exact ih readableRest distinct fresh
    | some part_ulid =>
      have same : canonical_ulids ((window_start, path) :: rest) = part_ulid :: canonical_ulids rest := by
        simp [canonical_ulids, named]
      rw [same] at distinct fresh
      obtain ⟨absent, distinctRest⟩ := List.nodup_cons.mp distinct
      obtain ⟨body, prepared, found, checked⟩ := readable (window_start, path) (by simp) (by simp [named])
      refine proceeds_bind (proceeds_get_bytes found) fun bytes middle readRun _ => ?_
      obtain ⟨again, rfl⟩ := runs_get_bytes.mp readRun
      obtain rfl := Option.some.inj (found.symm.trans again)
      refine proceeds_bind (proceeds_wrap checked) fun other middle checkRun _ => ?_
      obtain ⟨_, rfl⟩ := runs_wrap_returned.mp checkRun
      rw [if_neg (fresh part_ulid (by simp))]
      refine ih readableRest distinctRest fun ulid member => ?_
      rw [Std.ExtTreeMap.mem_insert, Std.LawfulEqCmp.compare_eq_iff_eq]
      rintro (rfl | present)
      · exact absent member
      · exact fresh ulid (List.mem_cons_of_mem _ member) present

end VectorSeam.Progress
