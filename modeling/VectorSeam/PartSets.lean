import VectorSeam.Decision

/-!
Aggregation reads its parts as sets. Listing order and repetitions change nothing,
the population holds the least sample of every vector hash, and a part that brings
no new hash leaves the decision alone. Stored floats are compared with the IEEE
equality of the source, so these results ask that it tells the given intermediates
apart exactly when they differ: no stored NaN, and no two intermediates that differ
in the sign of a zero only.
-/

namespace VectorSeam.PartSets
open VectorSeam.Model VectorSeam.Estimators VectorSeam.Accounting VectorSeam.Population VectorSeam.Aggregate
open VectorSeam.SortedMaps VectorSeam.Decision

variable {beta_reg : Float → Float → Float → Float}

/-- The source's equality is identity on these intermediates. -/
def Distinguished (parts : List IntermediatePart) : Prop :=
  ∀ left ∈ parts, ∀ right ∈ parts, ((left == right) = true ↔ left = right)

/-- Two inputs that agree on everything but their parts. -/
structure SameSettings (left right : AggregationInput) : Prop where
  config : left.config = right.config
  round_end : left.round_end = right.round_end
  computed_at : left.computed_at = right.computed_at
  phase_a_abort : left.phase_a_abort = right.phase_a_abort
  phase_a_incompatible_parts : left.phase_a_incompatible_parts = right.phase_a_incompatible_parts
  previous_round : left.previous_round = right.previous_round

/-- Two inputs with the same listed parts and intermediates, read as sets. -/
structure SameParts (left right : AggregationInput) : Prop extends SameSettings left right where
  listed : ∀ part, part ∈ left.listed_parts ↔ part ∈ right.listed_parts
  intermediates : ∀ part, part ∈ left.intermediates ↔ part ∈ right.intermediates

theorem SameParts.symm {left right : AggregationInput} (same : SameParts left right) : SameParts right left :=
  ⟨⟨same.config.symm, same.round_end.symm, same.computed_at.symm, same.phase_a_abort.symm,
    same.phase_a_incompatible_parts.symm, same.previous_round.symm⟩, fun part => (same.listed part).symm,
    fun part => (same.intermediates part).symm⟩

theorem Distinguished.congr {left right : List IntermediatePart} (same : ∀ part, part ∈ left ↔ part ∈ right)
    (distinguished : Distinguished left) : Distinguished right := fun one memberOne two memberTwo =>
  distinguished one ((same one).mpr memberOne) two ((same two).mpr memberTwo)

theorem Distinguished.faithful {parts : List IntermediatePart} (distinguished : Distinguished parts) :
    Faithful (fun existing part => !(existing == part)) parts := by
  intro left memberLeft right memberRight
  rw [Bool.not_eq_false', distinguished left memberLeft right memberRight]

/-! ### Order and repetitions -/

private theorem survey_same {left right : AggregationInput} {result : Survey} (same : SameParts left right)
    (distinguished : Distinguished left.intermediates) (found : survey left = .ok result) :
    survey right = .ok result := by
  obtain ⟨valid, rest⟩ := Results.check_ok.mp found
  obtain ⟨expected, expectedFound, rest⟩ := Results.bind_ok.mp rest
  obtain ⟨lower, lowerFound, rest⟩ := Results.bind_ok.mp rest
  obtain ⟨listed, listedFound, rest⟩ := Results.bind_ok.mp rest
  obtain ⟨available, availableFound, rest⟩ := Results.bind_ok.mp rest
  obtain ⟨drops, dropsFound, rest⟩ := Results.bind_ok.mp rest
  obtain ⟨intermediates, uniqueFound, rest⟩ := Results.bind_ok.mp rest
  rw [same.config] at valid
  rw [same.config, same.round_end] at expectedFound lowerFound
  rw [same.round_end] at listedFound
  rw [same.config, same.phase_a_incompatible_parts] at rest
  exact Results.check_ok.mpr ⟨valid, Results.bind_ok.mpr ⟨expected, expectedFound, Results.bind_ok.mpr ⟨lower, lowerFound,
    Results.bind_ok.mpr ⟨listed, collect_congr same.listed (listed_faithful _) listedFound,
      Results.bind_ok.mpr ⟨available, availableFound, Results.bind_ok.mpr ⟨drops, dropsFound,
        Results.bind_ok.mpr ⟨intermediates, collect_congr same.intermediates distinguished.faithful uniqueFound,
          rest⟩⟩⟩⟩⟩⟩⟩

/-- The second half of an aggregation reads the settings and the survey only. -/
private theorem conclude_congr {left right : AggregationInput} (same : SameSettings left right) (surveyed : Survey) :
    conclude beta_reg left surveyed = conclude beta_reg right surveyed := by
  cases left
  cases right
  obtain ⟨rfl, rfl, rfl, rfl, rfl, rfl⟩ := same
  rfl

private theorem aggregate_same {left right : AggregationInput} {output : RoundOutput} (same : SameParts left right)
    (distinguished : Distinguished left.intermediates) (found : aggregate beta_reg left = .ok output) :
    aggregate beta_reg right = .ok output := by
  obtain ⟨surveyed, surveyFound, concluded⟩ := Results.bind_ok.mp found
  refine Results.bind_ok.mpr ⟨surveyed, survey_same same distinguished surveyFound, ?_⟩
  rw [← conclude_congr same.toSameSettings, concluded]

/-- Order and repetitions decide neither success nor the record. -/
theorem aggregate_congr {left right : AggregationInput} (same : SameParts left right)
    (distinguished : Distinguished left.intermediates) :
    (aggregate beta_reg left).toOption = (aggregate beta_reg right).toOption := by
  cases first : aggregate beta_reg left with
  | ok output => rw [aggregate_same same distinguished first]
  | error error =>
    cases second : aggregate beta_reg right with
    | error other => rfl
    | ok output =>
      have back := aggregate_same same.symm (distinguished.congr same.intermediates) second
      rw [first] at back
      cases back

/-! ### The population -/

/-- A compatible intermediate whose part is listed in scope. -/
def Used (input : AggregationInput) (part : IntermediatePart) : Prop :=
  part ∈ input.intermediates ∧ is_compatible input.config part = true ∧
    ∃ header ∈ input.listed_parts, header.part_ulid = part.metadata.part_ulid ∧ InScope input header

/-- One sample for every hash among the used parts, the one with the least part ULID
    and record ordinal, in hash order. -/
structure LeastSamples (input : AggregationInput) (population : List PopulationSample) : Prop where
  one_each : population.Pairwise fun left right => left.vector_hash < right.vector_hash
  member : ∀ survivor ∈ population, ∃ part, Used input part ∧
    ∃ sample ∈ part.samples, survivor = candidate part.metadata.part_ulid sample
  least : ∀ survivor ∈ population, ∀ part, Used input part → ∀ sample ∈ part.samples,
    sample.vector_hash = survivor.vector_hash → survivor.rank ≤ (candidate part.metadata.part_ulid sample).rank
  total : ∀ part, Used input part → ∀ sample ∈ part.samples,
    ∃ survivor ∈ population, survivor.vector_hash = sample.vector_hash

/-- The used parts in ULID order, each once. -/
structure UsedListing (input : AggregationInput) (used : List IntermediatePart) : Prop where
  ordered : used.Pairwise fun left right => left.metadata.part_ulid < right.metadata.part_ulid
  member : ∀ part, part ∈ used ↔ Used input part

theorem used_listing {input : AggregationInput} {result : Survey} (distinguished : Distinguished input.intermediates)
    (found : survey input = .ok result) : UsedListing input result.gathered.used := by
  have surveyed := survey_ok found
  obtain ⟨intermediates, unique, used⟩ := surveyed.intermediates
  obtain ⟨_, files⟩ := (collect_ok_iff distinguished.faithful).mp unique
  have keyed : ∀ entry ∈ intermediates.toList, entry.1 = entry.2.metadata.part_ulid ∧ entry.2 ∈ input.intermediates := by
    rintro ⟨key, part⟩ member
    obtain ⟨present, _, same⟩ := (files key part).mp (Std.ExtTreeMap.mem_toList_iff_getElem?_eq_some.mp member)
    exact ⟨same.symm, present⟩
  constructor
  · rw [used, List.pairwise_map]
    refine (Std.ExtTreeMap.ordered_keys_toList.filter _).imp_of_mem ?_
    intro left right memberLeft memberRight before
    rw [← (keyed left (List.mem_of_mem_filter memberLeft)).1, ← (keyed right (List.mem_of_mem_filter memberRight)).1]
    exact compare_lt_iff_lt.mp before
  · intro part
    rw [used, List.mem_map]
    constructor
    · rintro ⟨⟨key, other⟩, member, rfl⟩
      obtain ⟨present, accepted⟩ := List.mem_filter.mp member
      obtain ⟨same, given⟩ := keyed _ present
      change key = other.metadata.part_ulid at same
      subst same
      simp only [Bool.and_eq_true, decide_eq_true_eq] at accepted
      exact ⟨given, accepted.2, (surveyed.mem_listed _).mp accepted.1⟩
    · rintro ⟨given, compatible, listed⟩
      refine ⟨(part.metadata.part_ulid, part), List.mem_filter.mpr ⟨?_, ?_⟩, rfl⟩
      · rw [Std.ExtTreeMap.mem_toList_iff_getElem?_eq_some]
        exact (files _ part).mpr ⟨given, rfl, rfl⟩
      · simp only [Bool.and_eq_true, decide_eq_true_eq]
        exact ⟨(surveyed.mem_listed _).mpr listed, compatible⟩

private theorem hash_lt_of_compare {left right : UInt64} (before : compare left right = .lt) : left < right := by
  by_cases less : left < right
  · exact less
  · simp only [compare, compareOfLessAndEq, less, ↓reduceIte] at before
    by_cases same : left = right
    · simp [same] at before
    · simp [same] at before

theorem population_least {input : AggregationInput} {population : List PopulationSample}
    (distinguished : Distinguished input.intermediates) (found : population_of input = .ok population) :
    LeastSamples input population := by
  obtain ⟨result, surveyFound, built⟩ := Results.bind_ok.mp found
  obtain rfl := Except.ok.inj built
  have used := used_listing distinguished surveyFound
  have holds : Least PopulationSample.vector_hash PopulationSample.rank _ _ :=
    keep_least_spec ((samples_of result.gathered.used).map fun entry => candidate entry.1 entry.2)
  have candidates : ∀ survivor, survivor ∈ (samples_of result.gathered.used).map (fun entry => candidate entry.1 entry.2) ↔
      ∃ part, Used input part ∧ ∃ sample ∈ part.samples, survivor = candidate part.metadata.part_ulid sample := by
    intro survivor
    simp only [samples_of, List.mem_map, List.mem_flatMap, ← used.member]
    constructor
    · rintro ⟨_, ⟨part, member, sample, inside, rfl⟩, rfl⟩
      exact ⟨part, member, sample, inside, rfl⟩
    · rintro ⟨part, member, sample, inside, rfl⟩
      exact ⟨_, ⟨part, member, sample, inside, rfl⟩, rfl⟩
  have kept : ∀ survivor, survivor ∈ result.population ↔ ∃ hash : UInt64, (keep_least PopulationSample.vector_hash
      (fun left right => decide (left.rank < right.rank))
      ((samples_of result.gathered.used).map fun entry => candidate entry.1 entry.2))[hash]? = some survivor := by
    intro survivor
    rw [(survey_ok surveyFound).population, deduplicate_samples, mem_values]
  refine ⟨?_, ?_, ?_, ?_⟩
  · rw [(survey_ok surveyFound).population, deduplicate_samples, List.pairwise_map]
    refine Std.ExtTreeMap.ordered_keys_toList.imp_of_mem ?_
    rintro ⟨one, left⟩ ⟨two, right⟩ memberLeft memberRight before
    have keyLeft := (holds.member one left (Std.ExtTreeMap.mem_toList_iff_getElem?_eq_some.mp memberLeft)).2
    have keyRight := (holds.member two right (Std.ExtTreeMap.mem_toList_iff_getElem?_eq_some.mp memberRight)).2
    rw [keyLeft, keyRight]
    exact hash_lt_of_compare before
  · intro survivor member
    obtain ⟨hash, filed⟩ := (kept survivor).mp member
    exact (candidates survivor).mp (holds.member hash survivor filed).1
  · intro survivor member part partUsed sample inside sameHash
    obtain ⟨hash, filed⟩ := (kept survivor).mp member
    have keyed := (holds.member hash survivor filed).2
    exact holds.least hash survivor filed _ ((candidates _).mpr ⟨part, partUsed, sample, inside, rfl⟩)
      (sameHash.trans keyed)
  · intro part partUsed sample inside
    obtain ⟨winner, filed⟩ := holds.total _ ((candidates _).mpr ⟨part, partUsed, sample, inside, rfl⟩)
    exact ⟨winner, (kept winner).mpr ⟨_, filed⟩, (holds.member _ winner filed).2⟩

/-! ### A part that brings nothing new -/

/-- `added` is `input` with one more in-scope compatible part, all of whose hashes
    occur in used parts of smaller ULID. -/
structure AddsSeen (input : AggregationInput) (header : ListedPart) (part : IntermediatePart) (added : AggregationInput) :
    Prop extends SameSettings input added where
  listed : ∀ other, other ∈ added.listed_parts ↔ other = header ∨ other ∈ input.listed_parts
  intermediates : ∀ other, other ∈ added.intermediates ↔ other = part ∨ other ∈ input.intermediates
  named : header.part_ulid = part.metadata.part_ulid
  inside : InScope input header
  compatible : is_compatible input.config part = true
  seen : ∀ sample ∈ part.samples, ∃ earlier, Used input earlier ∧ earlier.metadata.part_ulid < part.metadata.part_ulid ∧
    ∃ other ∈ earlier.samples, other.vector_hash = sample.vector_hash

/-- The fields that the population decides. -/
structure SameDecision (left right : RoundOutput) : Prop where
  unique : left.samples.unique = right.samples.unique
  train : left.samples.train = right.samples.train
  test : left.samples.test = right.samples.test
  per_ef : left.per_ef = right.per_ef
  ground_truth_latency_mean_ms : left.ground_truth_latency_mean_ms = right.ground_truth_latency_mean_ms
  status : left.status = right.status
  recommended_ef : left.recommended_ef = right.recommended_ef
  confidence : left.confidence = right.confidence
  train_confidence : left.train_confidence = right.train_confidence
  effective : left.effective = right.effective

private theorem AddsSeen.used_iff {input added : AggregationInput} {header : ListedPart} {part : IntermediatePart}
    (adds : AddsSeen input header part added) (agree : ∀ left ∈ added.intermediates, ∀ right ∈ added.intermediates,
      left.metadata.part_ulid = right.metadata.part_ulid → left = right) (other : IntermediatePart) :
    Used added other ↔ other = part ∨ Used input other := by
  have scope : ∀ candidate, InScope added candidate ↔ InScope input candidate := by
    intro candidate
    simp only [InScope, adds.config, adds.round_end]
  constructor
  · rintro ⟨given, compatible, found, member, same, scopedIn⟩
    by_cases new : other = part
    · exact .inl new
    have old := ((adds.intermediates other).mp given).resolve_left new
    rcases (adds.listed found).mp member with rfl | listed
    · exact absurd (agree other given part ((adds.intermediates part).mpr (.inl rfl)) (same.symm.trans adds.named)) new
    · exact .inr ⟨old, adds.config ▸ compatible, found, listed, same, (scope found).mp scopedIn⟩
  · rintro (rfl | ⟨given, compatible, found, member, same, scopedIn⟩)
    · exact ⟨(adds.intermediates other).mpr (.inl rfl), adds.config ▸ adds.compatible, header,
        (adds.listed header).mpr (.inl rfl), adds.named, (scope header).mpr adds.inside⟩
    · exact ⟨(adds.intermediates other).mpr (.inr given), adds.config ▸ compatible, found,
        (adds.listed found).mpr (.inr member), same, (scope found).mpr scopedIn⟩

/-- Two listings in ULID order of the same parts are equal. -/
private theorem listing_unique {left right : List IntermediatePart}
    (ordered : left.Pairwise fun one two => one.metadata.part_ulid < two.metadata.part_ulid)
    (ordered' : right.Pairwise fun one two => one.metadata.part_ulid < two.metadata.part_ulid)
    (same : ∀ part, part ∈ left ↔ part ∈ right) : left = right := by
  have distinct : ∀ {parts : List IntermediatePart},
      (parts.Pairwise fun one two => one.metadata.part_ulid < two.metadata.part_ulid) → parts.Nodup := by
    intro parts pairs
    refine pairs.imp ?_
    rintro one two less rfl
    exact absurd less (lt_irrefl _)
  refine List.Perm.eq_of_pairwise ?_ ordered ordered'
    ((List.perm_ext_iff_of_nodup (distinct ordered) (distinct ordered')).mpr same)
  intro one two _ _ less more
  exact absurd (less.trans more) (lt_irrefl _)

private theorem population_added {input added : AggregationInput} {header : ListedPart} {part : IntermediatePart}
    {before after : Survey} (adds : AddsSeen input header part added) (distinguished : Distinguished added.intermediates)
    (first : survey input = .ok before) (second : survey added = .ok after) : after.population = before.population := by
  have distinguishedInput : Distinguished input.intermediates := fun left memberLeft right memberRight =>
    distinguished left ((adds.intermediates left).mpr (.inr memberLeft)) right
      ((adds.intermediates right).mpr (.inr memberRight))
  have agree : ∀ left ∈ added.intermediates, ∀ right ∈ added.intermediates,
      left.metadata.part_ulid = right.metadata.part_ulid → left = right := by
    obtain ⟨intermediates, unique, _⟩ := (survey_ok second).intermediates
    have consistent := ((collect_ok_iff distinguished.faithful).mp unique).1
    exact fun left memberLeft right memberRight => consistent.agree left memberLeft right memberRight rfl rfl
  have usedBefore := used_listing distinguishedInput first
  have usedAfter := used_listing distinguished second
  have membership : ∀ other, other ∈ after.gathered.used ↔ other = part ∨ other ∈ before.gathered.used := by
    intro other
    rw [usedAfter.member, usedBefore.member, adds.used_iff agree]
  rw [(survey_ok second).population, (survey_ok first).population]
  obtain ⟨smaller, larger, shape⟩ := List.append_of_mem ((membership part).mpr (.inl rfl))
  have ordered := usedAfter.ordered
  rw [shape] at ordered
  obtain ⟨orderedSmaller, orderedRest, across⟩ := List.pairwise_append.mp ordered
  obtain ⟨above, orderedLarger⟩ := List.pairwise_cons.mp orderedRest
  by_cases known : part ∈ before.gathered.used
  · have same : after.gathered.used = before.gathered.used := by
      refine listing_unique usedAfter.ordered usedBefore.ordered fun other => ?_
      rw [membership]
      exact ⟨fun either => either.elim (fun new => new ▸ known) id, .inr⟩
    rw [same]
  · -- The new part sits between the smaller and the larger ULIDs of the old listing.
    have old : before.gathered.used = smaller ++ larger := by
      refine listing_unique usedBefore.ordered (List.pairwise_append.mpr ⟨orderedSmaller, orderedLarger,
        fun one memberOne two memberTwo => across one memberOne two (List.mem_cons_of_mem _ memberTwo)⟩) fun other => ?_
      have either := membership other
      rw [shape, List.mem_append, List.mem_cons] at either
      rw [List.mem_append]
      constructor
      · intro member
        rcases either.mpr (.inr member) with inside | rfl | inside
        · exact .inl inside
        · exact absurd member known
        · exact .inr inside
      · intro inside
        rcases either.mp (inside.elim .inl fun later => .inr (.inr later)) with rfl | member
        · rcases inside with inside | inside
          · exact absurd (across _ inside _ List.mem_cons_self) (lt_irrefl _)
          · exact absurd (above _ inside) (lt_irrefl _)
        · exact member
    have apart : samples_of (smaller ++ part :: larger) = samples_of smaller ++
        (part.samples.map fun sample => (part.metadata.part_ulid, sample)) ++ samples_of larger := by
      simp [samples_of]
    have joined : samples_of (smaller ++ larger) = samples_of smaller ++ samples_of larger := by simp [samples_of]
    rw [shape, old, apart, joined]
    unfold deduplicate_samples
    rw [List.map_append, List.map_append, List.map_append, keep_least_beaten]
    intro item member
    obtain ⟨entry, inside, rfl⟩ := List.mem_map.mp member
    obtain ⟨sample, present, rfl⟩ := List.mem_map.mp inside
    obtain ⟨earlier, used, less, other, owned, sameHash⟩ := adds.seen sample present
    have located : earlier ∈ smaller := by
      have member := (membership earlier).mpr (.inr ((usedBefore.member earlier).mpr used))
      rw [shape] at member
      rcases List.mem_append.mp member with inside | inside
      · exact inside
      · rcases List.mem_cons.mp inside with rfl | inside
        · exact absurd less (lt_irrefl _)
        · exact absurd (less.trans (above earlier inside)) (lt_irrefl _)
    refine ⟨candidate earlier.metadata.part_ulid other, List.mem_map.mpr ⟨(earlier.metadata.part_ulid, other), ?_, rfl⟩,
      sameHash, ?_⟩
    · exact List.mem_flatMap.mpr ⟨earlier, located, List.mem_map.mpr ⟨other, owned, rfl⟩⟩
    · exact le_of_lt (Prod.Lex.toLex_lt_toLex.mpr (.inl less))

/-- The decision fields depend on the settings and the population. -/
private theorem conclude_same {left right : AggregationInput} {before after : Survey} {output output' : RoundOutput}
    (same : SameSettings left right) (population : after.population = before.population)
    (first : conclude beta_reg left before = .ok output) (second : conclude beta_reg right after = .ok output') :
    SameDecision output output' := by
  rw [← conclude_congr same after] at second
  obtain ⟨per_ef, selection, start, finish, summarised, decided, ended, rfl⟩ := conclude_ok first
  obtain ⟨per_ef', selection', start', finish', summarised', decided', ended', rfl⟩ := conclude_ok second
  rw [population, summarised] at summarised'
  rw [population, decided] at decided'
  rw [ended] at ended'
  obtain rfl := Except.ok.inj summarised'
  obtain rfl := Except.ok.inj decided'
  obtain rfl := Except.ok.inj ended'
  refine ⟨?_, ?_, ?_, rfl, ?_, rfl, rfl, rfl, rfl, rfl⟩ <;> simp only [round_record, population]

theorem aggregate_added {input added : AggregationInput} {header : ListedPart} {part : IntermediatePart}
    {output output' : RoundOutput} (adds : AddsSeen input header part added)
    (distinguished : Distinguished added.intermediates) (first : aggregate beta_reg input = .ok output)
    (second : aggregate beta_reg added = .ok output') : SameDecision output output' := by
  obtain ⟨before, surveyBefore, concludedBefore⟩ := Results.bind_ok.mp first
  obtain ⟨after, surveyAfter, concludedAfter⟩ := Results.bind_ok.mp second
  exact conclude_same adds.toSameSettings (population_added adds distinguished surveyBefore surveyAfter)
    concludedBefore concludedAfter

/-- Aggregation reads its parts as sets, on intermediates that equality tells apart:
    order and repetitions do not matter, the population is the least sample of every
    hash, and a part without new hashes leaves the decision unchanged. -/
theorem aggregation_reads_part_sets (beta_reg : Float → Float → Float → Float) :
    (∀ left right, SameParts left right → Distinguished left.intermediates →
      (aggregate beta_reg left).toOption = (aggregate beta_reg right).toOption) ∧
    (∀ input population, Distinguished input.intermediates → population_of input = .ok population →
      LeastSamples input population) ∧
    (∀ input added header part output output', AddsSeen input header part added → Distinguished added.intermediates →
      aggregate beta_reg input = .ok output → aggregate beta_reg added = .ok output' → SameDecision output output') :=
  ⟨fun _ _ same distinguished => aggregate_congr same distinguished,
    fun _ _ distinguished found => population_least distinguished found,
    fun _ _ _ _ _ _ adds distinguished first second => aggregate_added adds distinguished first second⟩

/-- The small round with its part listed and read twice. -/
def repeatedInput : AggregationInput :=
  { smallInput with listed_parts := [⟨"A", 60, 60, 2, 2⟩, ⟨"A", 60, 60, 2, 2⟩], intermediates := [smallPart, smallPart] }

theorem small_round_repeated : (aggregate smallBeta smallInput).toOption = (aggregate smallBeta repeatedInput).toOption := by
  refine (aggregation_reads_part_sets smallBeta).1 smallInput repeatedInput
    ⟨⟨rfl, rfl, rfl, rfl, rfl, rfl⟩, by simp [smallInput, repeatedInput], by simp [smallInput, repeatedInput]⟩ ?_
  intro left memberLeft right memberRight
  obtain rfl := List.mem_singleton.mp memberLeft
  obtain rfl := List.mem_singleton.mp memberRight
  simp only [iff_true]
  decide

/-- The small round with other intermediates. -/
def withParts (parts : List IntermediatePart) : AggregationInput := { smallInput with intermediates := parts }
/-- The small part with another ground-truth latency in both samples. -/
def timedPart (latency : Float) : IntermediatePart := ⟨smallMetadata, [smallSample 0 0 latency, smallSample 1 1 latency]⟩

/-- Equality and identity part ways in both directions. An intermediate of an
    unlisted part that stores NaN is accepted once and contradicts itself when
    repeated; two intermediates that differ in the sign of a zero both pass, and the
    later one decides the record. -/
theorem nan_and_signed_zero_break_part_sets :
    ((aggregate smallBeta (withParts [{ timedPart (0.0 / 0.0) with metadata := { smallMetadata with part_ulid := "B" } }])).isOk =
        true ∧
      (aggregate smallBeta (withParts [{ timedPart (0.0 / 0.0) with metadata := { smallMetadata with part_ulid := "B" } },
        { timedPart (0.0 / 0.0) with metadata := { smallMetadata with part_ulid := "B" } }])).isOk = false) ∧
    (aggregate smallBeta (withParts [timedPart 0.0, timedPart (-0.0)])).toOption ≠
      (aggregate smallBeta (withParts [timedPart (-0.0), timedPart 0.0])).toOption := by
  decide +kernel

end VectorSeam.PartSets
