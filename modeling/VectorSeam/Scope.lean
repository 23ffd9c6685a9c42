import VectorSeam.Counters

/-!
The rolling window of a round, as the listing enumerates it and as the aggregation tests
part headers against it. The two agree: what is loaded from the listed windows is in scope.
-/

namespace VectorSeam.Scope
open VectorSeam.Model VectorSeam.ObjectStore VectorSeam.Accounting VectorSeam.Aggregate VectorSeam.SortedMaps VectorSeam.Effects
open VectorSeam.Programs VectorSeam.Pipeline VectorSeam.Intermediate VectorSeam.SourceParts VectorSeam.Publishing
open VectorSeam.Rounds VectorSeam.Counters

variable {width duration round_end lower : Nat}

/-! ### Enumeration -/

theorem starts_below_fits {room candidate_end start : Nat} (member : start ∈ starts_below width lower room candidate_end) :
    start + width ≤ candidate_end := by
  induction room generalizing candidate_end with
  | zero => cases member
  | succ room ih =>
    unfold starts_below at member
    cases found : checked_sub candidate_end width with
    | none => simp [found] at member
    | some first =>
      obtain ⟨wide, rfl⟩ := checked_sub_eq_some.mp found
      simp only [found] at member
      by_cases low : candidate_end - width < lower
      · rw [if_pos low] at member
        cases member
      · rw [if_neg low] at member
        rcases List.mem_cons.mp member with rfl | later
        · omega
        · have := ih later
          omega

theorem starts_below_descending (positive : 0 < width) (room candidate_end : Nat) :
    (starts_below width lower room candidate_end).Pairwise (· > ·) := by
  induction room generalizing candidate_end with
  | zero => exact List.Pairwise.nil
  | succ room ih =>
    unfold starts_below
    cases checked_sub candidate_end width with
    | none => exact List.Pairwise.nil
    | some first =>
      by_cases low : first < lower
      · simp [low]
      · simp only [if_neg low]
        refine List.pairwise_cons.mpr ⟨fun start member => ?_, ih first⟩
        have := starts_below_fits member
        omega

/-- The loop ends by itself: it never takes more steps than there are whole widths below its start. -/
theorem starts_below_terminates (lower : Nat) {room candidate_end : Nat} (enough : candidate_end < (room + 1) * width)
    (more : Nat) : starts_below width lower (room + more) candidate_end = starts_below width lower room candidate_end := by
  induction room generalizing candidate_end with
  | zero =>
    cases more with
    | zero => rfl
    | succ more =>
      have short : checked_sub candidate_end width = none := if_neg (by omega)
      rw [Nat.zero_add]
      simp only [starts_below, short]
  | succ room ih =>
    rw [Nat.add_right_comm room 1 more, starts_below, starts_below]
    cases found : checked_sub candidate_end width with
    | none => rfl
    | some first =>
      obtain ⟨wide, rfl⟩ := checked_sub_eq_some.mp found
      simp only []
      rw [ih (by rw [Nat.succ_mul] at enough; omega)]

/-- An aligned round end that leaves room for the rolling window has its storage windows enumerated. -/
theorem in_scope_window_starts_defined (positive : 0 < width) (aligned : width ∣ round_end) (long : duration ≤ round_end) :
    in_scope_window_starts round_end duration width =
      .ok (starts_below width (round_end - duration) (round_end / width) round_end).reverse := by
  have found : checked_sub round_end duration = some (round_end - duration) := checked_sub_eq_some.mpr ⟨long, rfl⟩
  rw [in_scope_window_starts, if_neg positive.ne', if_neg (by simp [Nat.mod_eq_zero_of_dvd aligned]), found]
  rfl

/-! ### Membership of parts -/

/-- A part of an enumerated window lies in scope. -/
theorem listed_in_scope {starts : List Nat} (found : in_scope_window_starts round_end duration width = .ok starts)
    (fits : round_end ≤ U64_MAX) {part : ListedPart} (member : part.window_start ∈ starts)
    (wide : part.window_seconds = width) : in_scope (round_end - duration) round_end part = .ok true := by
  obtain ⟨_, above, below⟩ := (mem_in_scope_window_starts found _).mp member
  have finish : checked_add part.window_start part.window_seconds = some (part.window_start + width) :=
    checked_add_eq_some.mpr ⟨by rw [wide], by omega⟩
  rw [in_scope, finish]
  simp [above, below]

/-- Parts with different ULIDs, all in scope, are all kept. -/
theorem unique_in_scope_parts_all {parts : List ListedPart} (distinct : (parts.map ListedPart.part_ulid).Nodup)
    (inside : ∀ part ∈ parts, in_scope lower round_end part = .ok true) :
    ∃ listed, unique_in_scope_parts parts lower round_end = .ok listed ∧ (listed.toList.map Prod.snd).Perm parts := by
  obtain ⟨listed, found, files⟩ : ∃ listed, unique_in_scope_parts parts lower round_end = .ok listed ∧
      Files (in_scope lower round_end) ListedPart.part_ulid ([] ++ parts) listed :=
    collect_distinct Files.empty (fun part member => ⟨true, inside part member⟩) (List.pairwise_map.mp distinct)
  refine ⟨listed, found, (List.perm_ext_iff_of_nodup ?_ distinct.of_map).mpr fun part => ?_⟩
  · have keys : (listed.toList.map Prod.snd).map ListedPart.part_ulid = listed.toList.map Prod.fst := by
      rw [List.map_map]
      refine List.map_congr_left fun entry member => ?_
      exact ((files _ _).mp (Std.ExtTreeMap.mem_toList_iff_getElem?_eq_some.mp member)).2.2
    exact List.Nodup.of_map ListedPart.part_ulid (keys ▸ nodup_keys listed)
  · rw [mem_values]
    constructor
    · rintro ⟨key, stored⟩
      exact ((files key part).mp stored).1
    · intro member
      exact ⟨part.part_ulid, (files _ _).mpr ⟨member, inside part member, rfl⟩⟩

/-- The kept parts are those that lie in the rolling window. -/
theorem mem_unique_in_scope_parts {parts : List ListedPart} {listed : BTreeMap String ListedPart}
    (found : unique_in_scope_parts parts lower round_end = .ok listed) (part : ListedPart) :
    part ∈ listed.toList.map Prod.snd ↔
      part ∈ parts ∧ lower ≤ part.window_start ∧ part.window_start + part.window_seconds ≤ round_end := by
  obtain ⟨consistent, files⟩ := (collect_ok_iff (listed_faithful _)).mp found
  have judged : ∀ part ∈ parts, in_scope lower round_end part = .ok true ↔
      lower ≤ part.window_start ∧ part.window_start + part.window_seconds ≤ round_end := by
    intro part member
    obtain ⟨verdict, judged⟩ := consistent.judged part member
    unfold in_scope at judged ⊢
    cases finish : checked_add part.window_start part.window_seconds with
    | none => rw [finish] at judged; cases judged
    | some part_end =>
      obtain ⟨rfl, _⟩ := checked_add_eq_some.mp finish
      simp
  rw [mem_values]
  constructor
  · rintro ⟨key, stored⟩
    obtain ⟨member, inside, _⟩ := (files key part).mp stored
    exact ⟨member, (judged part member).mp inside⟩
  · rintro ⟨member, inside⟩
    exact ⟨part.part_ulid, (files _ _).mpr ⟨member, (judged part member).mpr inside, rfl⟩⟩

/-! ### Loaded parts -/

variable {B : Type} {codec : Codec B} {beta_reg : Float → Float → Float → Float} {config : AggregationConfig}

/-- Every part loaded from the listed windows is counted. -/
theorem available_of_sources {objects : Objects B} {starts : List Nat} {sources : List SourcePart}
    (sourced : SourcesFound codec objects config starts sources)
    (windows : in_scope_window_starts round_end config.window_duration_seconds config.storage_window_seconds = .ok starts)
    (fits : round_end ≤ U64_MAX) {input : AggregationInput} {output : RoundOutput} (same : input.config = config)
    (ended : input.round_end = round_end) (parts : input.listed_parts = sources.map SourcePart.listed)
    (published : aggregate beta_reg input = .ok output) :
    output.samples.available = (sources.map (·.listed.record_count)).sum := by
  subst same ended
  obtain ⟨surveyed, surveyFound, concluded⟩ := Results.bind_ok.mp published
  obtain ⟨_, selection, window_start, window_end, _, _, _, rfl⟩ := conclude_ok concluded
  obtain ⟨_, _, _, available, _⟩ := survey_counters surveyFound
  have surveyed' := survey_ok surveyFound
  have distinct : ((sources.map SourcePart.listed).map ListedPart.part_ulid).Nodup := by
    rw [List.map_map]
    exact sourced.distinct
  obtain ⟨listed, found, permuted⟩ := unique_in_scope_parts_all distinct (fun part member => by
    obtain ⟨source, inside, rfl⟩ := List.mem_map.mp member
    obtain ⟨window_start, among, _, loaded⟩ := sourced.loaded source inside
    obtain ⟨_, starts, wide⟩ := loaded.listed
    exact listed_in_scope windows fits (starts ▸ among) wide)
  have filed := ((collect_ok_iff (listed_faithful _)).mp found).2
  rw [← parts, ← surveyed'.lower] at filed
  change surveyed.available = _
  rw [available, surveyed'.listed.unique filed, (permuted.map _).sum_eq, List.map_map]
  rfl

/-- Of a published round, all parts that the round has loaded are counted. -/
theorem published_available {computed_at : String} {computed_at_us : Nat} {world world' : World B} {output : RoundOutput}
    (fits : round_end ≤ U64_MAX)
    (run : Runs answer (run_cohort_round codec beta_reg config round_end computed_at computed_at_us) world
      (.returned (.Published output)) world') :
    ∃ starts sources,
      in_scope_window_starts round_end config.window_duration_seconds config.storage_window_seconds = .ok starts ∧
      SourcesFound codec world.objects config starts sources ∧
      output.samples.available = (sources.map (·.listed.record_count)).sum := by
  rcases runs_round run with ⟨_, unpublished⟩ | ⟨ending, middle, rfl, rfl, _, supplied, _, ends⟩
  · exact absurd rfl (unpublished output)
  obtain ⟨starts, windows, sourced⟩ := supplied.sources
  refine ⟨starts, ending.sources, windows, sourced, ?_⟩
  rcases runs_finish ends with withheld | ⟨paths, reply, found, body, prepared, puts⟩
  · exact absurd rfl (withheld.unpublished output)
  obtain ⟨previous_round, _, aggregated⟩ := prepared.aggregated
  have same : found = output := by
    rcases runs_put_round.mp puts with ⟨other, _⟩ | ⟨_, _, other, _⟩ | ⟨other, _⟩ | ⟨_, _, other, _⟩ | ⟨other, _⟩
    · cases other
    · cases other
    · cases other
    · cases other
    · cases other
      rfl
  subst same
  refine available_of_sources sourced windows fits ?_ ?_ ?_ aggregated
  · rfl
  · rfl
  · rfl

/-! ### Both together -/

/-- The aligned ends of the rolling windows that hold a storage window. -/
theorem consecutive_round_ends {start : Nat} (positive : 0 < width) (whole : width ∣ duration) (aligned : width ∣ round_end)
    (divides : width ∣ start) :
    (width ∣ start ∧ round_end - duration ≤ start ∧ start + width ≤ round_end) ↔
      ∃ index < duration / width, round_end = start + (index + 1) * width := by
  obtain ⟨windows, rfl⟩ := whole
  obtain ⟨last, rfl⟩ := aligned
  obtain ⟨first, rfl⟩ := divides
  rw [Nat.mul_div_cancel_left _ positive]
  have scaled : ∀ left right, width * left ≤ width * right ↔ left ≤ right := fun left right =>
    Nat.mul_le_mul_left_iff positive
  constructor
  · rintro ⟨_, above, below⟩
    have above := (scaled last (first + windows)).mp (by rw [Nat.mul_add]; omega)
    have below := (scaled (first + 1) last).mp (by rw [Nat.mul_succ]; omega)
    refine ⟨last - first - 1, by omega, ?_⟩
    rw [Nat.mul_comm (last - first - 1 + 1), ← Nat.mul_add]
    congr 1
    omega
  · rintro ⟨index, inside, same⟩
    rw [Nat.mul_comm (index + 1), ← Nat.mul_add] at same
    have reached : last = first + (index + 1) := Nat.eq_of_mul_eq_mul_left positive same
    have above := (scaled last (first + windows)).mpr (by omega)
    have below := (scaled (first + 1) last).mpr (by omega)
    rw [Nat.mul_add] at above
    rw [Nat.mul_succ] at below
    exact ⟨Nat.dvd_mul_right _ _, by omega, below⟩

theorem scope_agrees (width duration round_end : Nat) (positive : 0 < width) (whole : width ∣ duration)
    (nonempty : 0 < duration) (aligned : width ∣ round_end) (long : duration ≤ round_end) (fits : round_end ≤ U64_MAX) :
    ∃ starts, in_scope_window_starts round_end duration width = .ok starts ∧
      (∀ more, starts_below width (round_end - duration) (round_end / width + more) round_end = starts.reverse) ∧
      starts.Pairwise (· < ·) ∧ starts.length = duration / width ∧
      (∀ start, start ∈ starts ↔ width ∣ start ∧ round_end - duration ≤ start ∧ start + width ≤ round_end) ∧
      (∀ parts : List ListedPart, (parts.map ListedPart.part_ulid).Nodup →
        (∀ part ∈ parts, part.window_start ∈ starts ∧ part.window_seconds = width) →
        ∃ listed, unique_in_scope_parts parts (round_end - duration) round_end = .ok listed ∧
          (listed.toList.map Prod.snd).Perm parts) ∧
      (∀ (B : Type) (codec : Codec B) (beta_reg : Float → Float → Float → Float) (config : AggregationConfig)
        (computed_at : String) (computed_at_us : Nat) (world world' : World B) (output : RoundOutput),
        config.window_duration_seconds = duration → config.storage_window_seconds = width →
        Runs answer (run_cohort_round codec beta_reg config round_end computed_at computed_at_us) world
          (.returned (.Published output)) world' →
        ∃ sources, SourcesFound codec world.objects config starts sources ∧
          output.samples.available = (sources.map (·.listed.record_count)).sum) ∧
      (∀ parts listed, unique_in_scope_parts parts (round_end - duration) round_end = .ok listed →
        ∀ part, part ∈ listed.toList.map Prod.snd ↔
          part ∈ parts ∧ round_end - duration ≤ part.window_start ∧ part.window_start + part.window_seconds ≤ round_end) ∧
      (∀ listed, (coverage starts listed).windows_with_parts ≤ (coverage starts listed).windows_in_scope) ∧
      ∀ start, width ∣ start →
        (start ∈ starts ↔ ∃ index < duration / width, round_end = start + (index + 1) * width) := by
  have found := in_scope_window_starts_defined positive aligned long
  obtain ⟨starts, same⟩ : ∃ starts, starts =
      (starts_below width (round_end - duration) (round_end / width) round_end).reverse := ⟨_, rfl⟩
  rw [← same] at found
  have membership := mem_in_scope_window_starts found
  refine ⟨starts, found, fun more => ?_, ?_, (in_scope_window_starts_length found (Nat.mod_eq_zero_of_dvd whole)).1,
    membership, ?_, ?_, fun parts listed kept => mem_unique_in_scope_parts kept, windows_with_parts_le starts, ?_⟩
  · rw [same, List.reverse_reverse]
    exact starts_below_terminates _ (Nat.lt_mul_of_div_lt (Nat.lt_succ_self _) positive) more
  · rw [same, List.pairwise_reverse]
    exact starts_below_descending positive _ _
  · intro parts distinct loaded
    exact unique_in_scope_parts_all distinct fun part member =>
      listed_in_scope found fits (loaded part member).1 (loaded part member).2
  · intro B codec beta_reg config computed_at computed_at_us world world' output lasting wide run
    subst lasting wide
    obtain ⟨others, sources, windows, sourced, available⟩ := published_available fits run
    obtain rfl := Except.ok.inj (found.symm.trans windows)
    exact ⟨sources, sourced, available⟩
  · intro start divides
    rw [membership]
    exact consecutive_round_ends positive whole aligned divides

theorem hour_scope_agrees :
    in_scope_window_starts 43200 3600 600 = .ok [39600, 40200, 40800, 41400, 42000, 42600] ∧
      (39600 ∈ [39600, 40200, 40800, 41400, 42000, 42600] ↔ ∃ index < 3600 / 600, 43200 = 39600 + (index + 1) * 600) := by
  obtain ⟨starts, found, _, _, _, _, _, _, _, _, consecutive⟩ := scope_agrees 600 3600 43200 (by decide) (by decide) (by decide)
    (by decide) (by decide) (by decide)
  have enumerated : in_scope_window_starts 43200 3600 600 = .ok [39600, 40200, 40800, 41400, 42000, 42600] := by decide
  obtain rfl := Except.ok.inj (found.symm.trans enumerated)
  exact ⟨enumerated, consecutive 39600 (by decide)⟩

end VectorSeam.Scope
