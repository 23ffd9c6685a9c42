import VectorSeam.SegmentFormat
import VectorSeam.Measure

/-!
Deduplication within a part, exactly. The entries built by the record loop stand for the
distinct vector byte strings in order of first occurrence: each carries the data of its
first record and the number of records with its bytes, and the loop fails only where an
index or a count leaves 32 bits.
-/

namespace VectorSeam.Occurrences
open VectorSeam.LittleEndian VectorSeam.Frame VectorSeam.FrameLayout VectorSeam.Segments VectorSeam.SegmentLayout
open VectorSeam.Model VectorSeam.Measure VectorSeam.Estimators

/-- The vector bytes of a record: all that follows the name. -/
def payload (record : SegmentRecord) : Bytes :=
  match parse_frame_header record.frame with
  | .ok header => record.frame.drop (FIXED_FRAME_HEADER_LEN + header.name_len)
  | .error _ => []
/-- The number of records with the given vector bytes. -/
def occurrences (records : List SegmentRecord) (vector : Bytes) : Nat := (records.map payload).count vector

theorem occurrences_append (left right : List SegmentRecord) (vector : Bytes) :
    occurrences (left ++ right) vector = occurrences left vector + occurrences right vector := by
  rw [occurrences, List.map_append, List.count_append]
  rfl

theorem occurrences_singleton (record : SegmentRecord) (vector : Bytes) :
    occurrences [record] vector = if payload record = vector then 1 else 0 := by
  rw [occurrences, List.map_singleton, List.count_singleton]
  simp [beq_iff_eq]

/-- The record that comes first with its bytes, at the place of the ones before it. -/
structure First (records before : List SegmentRecord) (record : SegmentRecord) (header : FrameHeader) : Prop where
  present : before ++ [record] <+: records
  parsed : parse_frame_header record.frame = .ok header
  fresh : ∀ earlier ∈ before, payload earlier ≠ payload record

/-- The sample made of a first record, counting all records with its bytes. -/
def counted_sample (expected_cohort : String) (records before : List SegmentRecord) (record : SegmentRecord)
    (header : FrameHeader) : PreparedSample :=
  { prepared_sample expected_cohort before.length record.receive_time header (payload record) with
    dup_count := occurrences records (payload record) }

/-- An entry stands for the first record with its bytes. -/
def Stands (expected_cohort : String) (records : List SegmentRecord) (entry : Bytes × PreparedSample) : Prop :=
  ∃ before record header, First records before record header ∧
    entry = (payload record, counted_sample expected_cohort records before record header)

/-- The entries are the distinct vector bytes in order of first occurrence. -/
structure Deduplicated (expected_cohort : String) (records : List SegmentRecord) (entries : Entries) : Prop where
  stands : ∀ entry ∈ entries, Stands expected_cohort records entry
  distinct : (entries.map Prod.fst).Nodup
  covered : ∀ record ∈ records, payload record ∈ entries.map Prod.fst
  ordered : entries.Pairwise fun left right => left.2.record_index < right.2.record_index
  fits : ∀ entry ∈ entries, entry.2.record_index ≤ I32_MAX ∧ entry.2.dup_count ≤ I32_MAX

theorem payload_of_parse {record : SegmentRecord} {header : FrameHeader}
    (parsed : parse_frame_header record.frame = .ok header) :
    payload record = record.frame.drop (FIXED_FRAME_HEADER_LEN + header.name_len) := by
  rw [payload, parsed]

/-! ### One record -/

/-- One more occurrence of an entry's bytes. -/
def bump (vector : Bytes) (entry : Bytes × PreparedSample) : Bytes × PreparedSample :=
  if entry.1 = vector then (entry.1, { entry.2 with dup_count := entry.2.dup_count + 1 }) else entry

theorem bump_key (vector : Bytes) (entry : Bytes × PreparedSample) : (bump vector entry).1 = entry.1 := by
  unfold bump
  by_cases here : entry.1 = vector
  · rw [if_pos here]
  · rw [if_neg here]

theorem bump_index (vector : Bytes) (entry : Bytes × PreparedSample) :
    (bump vector entry).2.record_index = entry.2.record_index := by
  unfold bump
  by_cases here : entry.1 = vector
  · rw [if_pos here]
  · rw [if_neg here]

theorem map_bump_absent {vector : Bytes} {entries : Entries} (absent : vector ∉ entries.map Prod.fst) :
    entries.map (bump vector) = entries := by
  have same : ∀ entry ∈ entries, bump vector entry = entry := by
    intro entry member
    rw [bump, if_neg]
    rintro rfl
    exact absent (List.mem_map_of_mem member)
  rw [List.map_congr_left same, List.map_id']

theorem count_duplicate_ok {vector : Bytes} {entries result : Entries} (distinct : (entries.map Prod.fst).Nodup) :
    count_duplicate vector entries = .ok result ↔
      result = entries.map (bump vector) ∧ ∀ entry ∈ entries, entry.1 = vector → entry.2.dup_count + 1 ≤ I32_MAX := by
  induction entries generalizing result with
  | nil =>
    constructor
    · intro found
      obtain rfl := Except.ok.inj found
      exact ⟨rfl, fun entry member => absurd member List.not_mem_nil⟩
    · rintro ⟨rfl, _⟩
      rfl
  | cons entry rest ih =>
    rw [List.map_cons, List.nodup_cons] at distinct
    rw [count_duplicate, List.map_cons, List.forall_mem_cons]
    by_cases here : entry.1 = vector
    · have absent : ∀ other ∈ rest, other.1 ≠ vector := by
        rintro other member rfl
        exact distinct.1 (here ▸ List.mem_map_of_mem member)
      have others : rest.map (bump vector) = rest := map_bump_absent (here ▸ distinct.1)
      rw [if_pos here, others, bump, if_pos here]
      by_cases full : I32_MAX < entry.2.dup_count + 1
      · rw [if_pos full]
        constructor
        · intro found; cases found
        · rintro ⟨_, small, _⟩; exact absurd (small here) (not_le.mpr full)
      · rw [if_neg full]
        constructor
        · intro found
          exact ⟨(Except.ok.inj found).symm, fun _ => not_lt.mp full, fun other member same => absurd same (absent other member)⟩
        · rintro ⟨rfl, _⟩
          rfl
    · rw [if_neg here, Results.bind_ok, bump, if_neg here]
      constructor
      · rintro ⟨others, later, built⟩
        obtain rfl := Except.ok.inj built
        obtain ⟨rfl, small⟩ := (ih distinct.2).mp later
        exact ⟨rfl, fun same => absurd same here, small⟩
      · rintro ⟨rfl, _, small⟩
        exact ⟨_, (ih distinct.2).mpr ⟨rfl, small⟩, rfl⟩

theorem First.snoc {records before : List SegmentRecord} {record : SegmentRecord} {header : FrameHeader}
    (first : First records before record header) (next : SegmentRecord) : First (records ++ [next]) before record header :=
  ⟨first.present.trans (List.prefix_append _ _), first.parsed, first.fresh⟩

/-- An entry stays what it stands for; the next record shows in its count. -/
theorem Stands.snoc {expected_cohort : String} {records : List SegmentRecord} {entry : Bytes × PreparedSample}
    (stands : Stands expected_cohort records entry) (next : SegmentRecord) :
    Stands expected_cohort (records ++ [next]) (bump (payload next) entry) := by
  obtain ⟨before, record, header, first, rfl⟩ := stands
  refine ⟨before, record, header, first.snoc next, ?_⟩
  unfold bump counted_sample
  rw [occurrences_append, occurrences_singleton]
  by_cases same : payload record = payload next
  · rw [if_pos same, if_pos same.symm]
    simp
  · rw [if_neg same, if_neg (Ne.symm same)]
    simp

section Step
variable {expected_cohort : String} {records : List SegmentRecord} {record : SegmentRecord} {entries : Entries}

theorem Deduplicated.empty : Deduplicated expected_cohort [] [] :=
  ⟨by simp, by simp, by simp, .nil, by simp⟩

theorem Deduplicated.mem_keys (held : Deduplicated expected_cohort records entries) {vector : Bytes} :
    vector ∈ entries.map Prod.fst ↔ vector ∈ records.map payload := by
  constructor
  · intro member
    obtain ⟨entry, present, rfl⟩ := List.mem_map.mp member
    obtain ⟨before, first, header, found, rfl⟩ := held.stands entry present
    exact List.mem_map_of_mem (found.present.subset (by simp))
  · intro member
    obtain ⟨first, present, rfl⟩ := List.mem_map.mp member
    exact held.covered first present

theorem Deduplicated.count (held : Deduplicated expected_cohort records entries) {entry : Bytes × PreparedSample}
    (member : entry ∈ entries) : entry.2.dup_count = occurrences records entry.1 := by
  obtain ⟨before, first, header, found, rfl⟩ := held.stands entry member
  rfl

theorem Deduplicated.index_lt (held : Deduplicated expected_cohort records entries) {entry : Bytes × PreparedSample}
    (member : entry ∈ entries) : entry.2.record_index < records.length := by
  obtain ⟨before, first, header, found, rfl⟩ := held.stands entry member
  have size := found.present.length_le
  rw [List.length_append, List.length_singleton] at size
  show ((before.length : Nat) : Int) < records.length
  omega

/-- Counting one more occurrence of bytes that are there. -/
theorem Deduplicated.bumped (held : Deduplicated expected_cohort records entries)
    (present : payload record ∈ entries.map Prod.fst)
    (small : ∀ entry ∈ entries, entry.1 = payload record → entry.2.dup_count + 1 ≤ I32_MAX) :
    Deduplicated expected_cohort (records ++ [record]) (entries.map (bump (payload record))) := by
  have keys : (entries.map (bump (payload record))).map Prod.fst = entries.map Prod.fst := by
    rw [List.map_map]
    exact List.map_congr_left fun entry _ => bump_key _ entry
  refine ⟨?_, keys ▸ held.distinct, ?_, ?_, ?_⟩
  · intro entry member
    obtain ⟨source, sourceMember, rfl⟩ := List.mem_map.mp member
    exact (held.stands source sourceMember).snoc record
  · intro other member
    rw [keys]
    rcases List.mem_append.mp member with earlier | last
    · exact held.covered other earlier
    · obtain rfl := List.mem_singleton.mp last
      exact present
  · rw [List.pairwise_map]
    exact held.ordered.imp fun less => by rwa [bump_index, bump_index]
  · intro entry member
    obtain ⟨source, sourceMember, rfl⟩ := List.mem_map.mp member
    rw [bump_index]
    refine ⟨(held.fits source sourceMember).1, ?_⟩
    unfold bump
    by_cases here : source.1 = payload record
    · rw [if_pos here]
      exact small source sourceMember here
    · rw [if_neg here]
      exact (held.fits source sourceMember).2

/-- Entering bytes that are not there yet. -/
theorem Deduplicated.entered (held : Deduplicated expected_cohort records entries) {header : FrameHeader}
    (parsed : parse_frame_header record.frame = .ok header) (fresh : payload record ∉ entries.map Prod.fst)
    (small : (records.length : Int) ≤ I32_MAX) :
    Deduplicated expected_cohort (records ++ [record]) (entries ++ [(payload record,
      prepared_sample expected_cohort records.length record.receive_time header (payload record))]) := by
  have unseen : payload record ∉ records.map payload := fun seen => fresh (held.mem_keys.mpr seen)
  refine ⟨?_, ?_, ?_, ?_, ?_⟩
  · intro entry member
    rcases List.mem_append.mp member with earlier | last
    · have stands := (held.stands entry earlier).snoc record
      rw [bump, if_neg] at stands
      · exact stands
      · intro same
        exact fresh (same ▸ List.mem_map_of_mem earlier)
    · obtain rfl := List.mem_singleton.mp last
      refine ⟨records, record, header, ⟨List.prefix_rfl, parsed, fun earlier member same => ?_⟩, ?_⟩
      · exact unseen (same ▸ List.mem_map_of_mem member)
      · rw [counted_sample, occurrences_append, occurrences_singleton, if_pos rfl, occurrences,
          List.count_eq_zero_of_not_mem unseen]
        rfl
  · rw [List.map_append, List.nodup_append]
    refine ⟨held.distinct, List.nodup_singleton _, fun left leftMember right rightMember same => ?_⟩
    rw [same, List.mem_singleton.mp rightMember] at leftMember
    exact fresh leftMember
  · intro other member
    rw [List.map_append, List.mem_append]
    rcases List.mem_append.mp member with earlier | last
    · exact .inl (held.covered other earlier)
    · obtain rfl := List.mem_singleton.mp last
      exact .inr (List.mem_singleton_self _)
  · rw [List.pairwise_append]
    refine ⟨held.ordered, List.pairwise_singleton _ _, fun left leftMember right rightMember => ?_⟩
    obtain rfl := List.mem_singleton.mp rightMember
    exact held.index_lt leftMember
  · intro entry member
    rcases List.mem_append.mp member with earlier | last
    · exact held.fits entry earlier
    · obtain rfl := List.mem_singleton.mp last
      exact ⟨small, show (1 : Int) ≤ I32_MAX by decide⟩

theorem prepare_record_deduplicated {result : Entries} (held : Deduplicated expected_cohort records entries)
    (found : prepare_record expected_cohort records.length record entries = .ok result) :
    Deduplicated expected_cohort (records ++ [record]) result := by
  unfold prepare_record at found
  cases parsed : parse_frame_header record.frame with
  | error error => rw [parsed] at found; cases found
  | ok header =>
    rw [parsed] at found
    simp only [← payload_of_parse parsed] at found
    by_cases present : ∃ entry ∈ entries, entry.1 = payload record
    · rw [if_pos present, count_duplicate_ok held.distinct] at found
      obtain ⟨entry, member, same⟩ := present
      obtain ⟨rfl, small⟩ := found
      exact held.bumped (same ▸ List.mem_map_of_mem member) small
    · rw [if_neg present] at found
      by_cases large : I32_MAX < records.length
      · rw [if_pos large] at found
        cases found
      · rw [if_neg large] at found
        obtain rfl := Except.ok.inj found
        refine held.entered parsed (fun seen => present ?_) (not_lt.mp large)
        obtain ⟨entry, member, same⟩ := List.mem_map.mp seen
        exact ⟨entry, member, same⟩

theorem prepare_record_succeeds (held : Deduplicated expected_cohort records entries)
    (parsed : ∃ header, parse_frame_header record.frame = .ok header)
    (first : payload record ∉ records.map payload → (records.length : Int) ≤ I32_MAX)
    (counted : (occurrences (records ++ [record]) (payload record) : Int) ≤ I32_MAX) :
    ∃ result, prepare_record expected_cohort records.length record entries = .ok result := by
  obtain ⟨header, parsed⟩ := parsed
  unfold prepare_record
  rw [parsed]
  simp only [← payload_of_parse parsed]
  by_cases present : ∃ entry ∈ entries, entry.1 = payload record
  · rw [if_pos present]
    refine ⟨_, (count_duplicate_ok held.distinct).mpr ⟨rfl, fun entry member same => ?_⟩⟩
    rw [held.count member, same]
    rw [occurrences_append, occurrences_singleton, if_pos rfl] at counted
    exact_mod_cast counted
  · have unseen : payload record ∉ records.map payload := by
      rw [← held.mem_keys]
      intro seen
      obtain ⟨entry, member, same⟩ := List.mem_map.mp seen
      exact present ⟨entry, member, same⟩
    rw [if_neg present, if_neg (not_lt.mpr (first unseen))]
    exact ⟨_, rfl⟩

end Step

/-! ### All records -/

theorem prepare_records_deduplicated {expected_cohort : String} {seen records : List SegmentRecord} {entries result : Entries}
    (held : Deduplicated expected_cohort seen entries)
    (found : prepare_records expected_cohort seen.length records entries = .ok result) :
    Deduplicated expected_cohort (seen ++ records) result := by
  induction records generalizing seen entries with
  | nil =>
    obtain rfl := Except.ok.inj found
    rwa [List.append_nil]
  | cons record rest ih =>
    obtain ⟨middle, first, later⟩ := Results.bind_ok.mp found
    have next := prepare_record_deduplicated held first
    have all := ih next (by rwa [List.length_append])
    rwa [List.append_assoc] at all

/-- Indices of first occurrences and numbers of occurrences that a signed 32-bit integer holds. -/
structure Countable (records : List SegmentRecord) : Prop where
  first : ∀ before record, before ++ [record] <+: records → payload record ∉ before.map payload →
    (before.length : Int) ≤ I32_MAX
  occurrences : ∀ record ∈ records, (occurrences records (payload record) : Int) ≤ I32_MAX

theorem prepare_records_succeeds {expected_cohort : String} {seen records : List SegmentRecord} {entries : Entries}
    (held : Deduplicated expected_cohort seen entries)
    (parsed : ∀ record ∈ records, ∃ header, parse_frame_header record.frame = .ok header)
    (countable : Countable (seen ++ records)) :
    ∃ result, prepare_records expected_cohort seen.length records entries = .ok result := by
  induction records generalizing seen entries with
  | nil => exact ⟨entries, rfl⟩
  | cons record rest ih =>
    obtain ⟨firstParsed, restParsed⟩ := List.forall_mem_cons.mp parsed
    have split : seen ++ record :: rest = (seen ++ [record]) ++ rest := by rw [List.append_assoc]; rfl
    rw [split] at countable
    have bounded := countable.occurrences record (by simp)
    rw [occurrences_append] at bounded
    obtain ⟨middle, taken⟩ := prepare_record_succeeds held firstParsed
      (countable.first seen record (List.prefix_append _ _)) (by omega)
    obtain ⟨result, found⟩ := ih (prepare_record_deduplicated held taken) restParsed countable
    rw [List.length_append] at found
    exact ⟨result, Results.bind_ok.mpr ⟨middle, taken, found⟩⟩

theorem earlier_of_shorter {records before other : List SegmentRecord} {record next : SegmentRecord}
    (here : before ++ [record] <+: records) (there : other ++ [next] <+: records) (shorter : before.length < other.length) :
    record ∈ other := by
  have inside : before ++ [record] <+: other := by
    refine List.prefix_of_prefix_length_le here ((List.prefix_append _ _).trans there) ?_
    rw [List.length_append, List.length_singleton]
    omega
  exact inside.subset (by simp)

/-- Bytes have one first occurrence. -/
theorem first_unique {records before other : List SegmentRecord} {record next : SegmentRecord}
    (here : before ++ [record] <+: records) (there : other ++ [next] <+: records) (same : payload record = payload next)
    (fresh : payload record ∉ before.map payload) (freshNext : payload next ∉ other.map payload) :
    before = other ∧ record = next := by
  have length : before.length = other.length := by
    rcases Nat.lt_trichotomy before.length other.length with shorter | equal | longer
    · exact absurd (same ▸ List.mem_map_of_mem (earlier_of_shorter here there shorter)) freshNext
    · exact equal
    · exact absurd (same.symm ▸ List.mem_map_of_mem (earlier_of_shorter there here longer)) fresh
  have inside : before ++ [record] <+: other ++ [next] := by
    refine List.prefix_of_prefix_length_le here there ?_
    rw [List.length_append, List.length_append, length]
    rfl
  have equal : before ++ [record] = other ++ [next] :=
    inside.eq_of_length (by rw [List.length_append, List.length_append, length]; rfl)
  obtain ⟨rfl, singles⟩ := List.append_inj equal length
  exact ⟨rfl, List.singleton_inj.mp singles⟩

theorem Deduplicated.countable {expected_cohort : String} {records : List SegmentRecord} {entries : Entries}
    (held : Deduplicated expected_cohort records entries) : Countable records := by
  constructor
  · intro before record present fresh
    obtain ⟨entry, entryMember, same⟩ := List.mem_map.mp (held.covered record (present.subset (by simp)))
    have bound := (held.fits entry entryMember).1
    obtain ⟨other, next, header, first, rfl⟩ := held.stands entry entryMember
    have freshNext : payload next ∉ other.map payload := by
      intro seen
      obtain ⟨earlier, member, repeated⟩ := List.mem_map.mp seen
      exact first.fresh earlier member repeated
    obtain ⟨rfl, rfl⟩ := first_unique present first.present same.symm fresh freshNext
    exact bound
  · intro record member
    obtain ⟨entry, entryMember, same⟩ := List.mem_map.mp (held.covered record member)
    have bound := (held.fits entry entryMember).2
    rwa [held.count entryMember, same] at bound

/-! ### The samples of a part -/

/-- The least index of a record with the bytes of the record there. -/
structure Least (records : List SegmentRecord) (index : Nat) (record : SegmentRecord) : Prop where
  here : records[index]? = some record
  earlier : ∀ other < index, ∀ before, records[other]? = some before → payload before ≠ payload record

theorem First.least {records before : List SegmentRecord} {record : SegmentRecord} {header : FrameHeader}
    (first : First records before record header) : Least records before.length record := by
  obtain ⟨after, split⟩ := first.present
  constructor
  · rw [← split, List.append_assoc, List.getElem?_append_right (Nat.le_refl _), Nat.sub_self]
    rfl
  · intro other less earlier found
    rw [← split, List.append_assoc, List.getElem?_append_left less] at found
    exact first.fresh earlier (List.mem_of_getElem? found)

/-- The vector bytes of the record that a sample names. -/
def sample_bytes (records : List SegmentRecord) (sample : PreparedSample) : Option Bytes :=
  records[sample.record_index.toNat]?.map payload

/-- The samples divide the records by their vector bytes. -/
structure Partitioned (records : List SegmentRecord) (samples : List PreparedSample) : Prop where
  ordered : samples.Pairwise fun left right => left.record_index < right.record_index
  distinct : (samples.map (sample_bytes records)).Nodup
  sample : ∀ sample ∈ samples, ∃ index record, sample.record_index = (index : Nat) ∧ Least records index record ∧
    sample.dup_count = occurrences records (payload record) ∧ sample.vector_hash = fnv1a64 (payload record)
  covered : ∀ record ∈ records, ∃! sample, sample ∈ samples ∧ sample_bytes records sample = some (payload record)
  total : (samples.map (·.dup_count)).sum = records.length

section Samples
variable {expected_cohort : String} {records : List SegmentRecord} {entries : Entries}

theorem Deduplicated.bytes (held : Deduplicated expected_cohort records entries) {entry : Bytes × PreparedSample}
    (member : entry ∈ entries) : sample_bytes records entry.2 = some entry.1 := by
  obtain ⟨before, record, header, first, rfl⟩ := held.stands entry member
  show records[((before.length : Nat) : Int).toNat]?.map payload = some (payload record)
  rw [Int.toNat_natCast, first.least.here]
  rfl

theorem Deduplicated.total (held : Deduplicated expected_cohort records entries) :
    (entries.map fun entry => entry.2.dup_count).sum = records.length := by
  have counts : (entries.map fun entry => entry.2.dup_count) =
      ((entries.map Prod.fst).map (occurrences records)).map (Nat.cast : Nat → Int) := by
    rw [List.map_map, List.map_map]
    exact List.map_congr_left fun entry member => held.count member
  have perm : (entries.map Prod.fst).Perm (records.map payload).dedup :=
    (List.perm_ext_iff_of_nodup held.distinct (List.nodup_dedup _)).mpr fun vector => by
      rw [held.mem_keys, List.mem_dedup]
  have whole : ((records.map payload).dedup.map (occurrences records)).sum = records.length := by
    rw [← List.length_map payload, ← List.sum_map_count_dedup_eq_length (records.map payload)]
    congr 1
    refine List.map_congr_left fun vector _ => ?_
    rw [occurrences]
    congr 1
    exact lawful_beq_subsingleton _ _
  rw [counts, ← Nat.cast_list_sum, (perm.map _).sum_eq, whole]

theorem Deduplicated.partitioned (held : Deduplicated expected_cohort records entries) :
    Partitioned records (entries.map Prod.snd) := by
  have bytes : (entries.map Prod.snd).map (sample_bytes records) = (entries.map Prod.fst).map some := by
    rw [List.map_map, List.map_map]
    exact List.map_congr_left fun entry member => held.bytes member
  refine ⟨?_, ?_, ?_, ?_, ?_⟩
  · rw [List.pairwise_map]
    exact held.ordered
  · rw [bytes]
    exact held.distinct.map (Option.some_injective _)
  · intro sample member
    obtain ⟨entry, entryMember, rfl⟩ := List.mem_map.mp member
    obtain ⟨before, record, header, first, rfl⟩ := held.stands entry entryMember
    exact ⟨before.length, record, rfl, first.least, rfl, rfl⟩
  · intro record member
    obtain ⟨entry, entryMember, same⟩ := List.mem_map.mp (held.covered record member)
    refine ⟨entry.2, ⟨List.mem_map_of_mem entryMember, by rw [held.bytes entryMember, same]⟩, ?_⟩
    rintro other ⟨otherMember, otherBytes⟩
    obtain ⟨next, nextMember, rfl⟩ := List.mem_map.mp otherMember
    rw [held.bytes nextMember, ← same] at otherBytes
    rw [List.inj_on_of_nodup_map held.distinct nextMember entryMember (Option.some.inj otherBytes)]
  · rw [List.map_map]
    exact held.total

end Samples

/-! ### No panic -/

section Indexed
open VectorSeam.Panics VectorSeam.SegmentFormat

/-- The taking in of one record, with the slice behind the name spelled out. -/
def prepare_record_indexed (expected_cohort : String) (record_index : Nat) (record : SegmentRecord) (entries : Entries) :
    Panicking PreparePartError Entries := do
  let header ← ExceptT.mk ((parse_frame_header_indexed record.frame).run.map (Except.mapError PreparePartError.Frame))
  let vector_start := FIXED_FRAME_HEADER_LEN + header.name_len
  let vector_bytes ← index_range record.frame vector_start record.frame.length
  plain (
    if ∃ entry ∈ entries, entry.1 = vector_bytes then count_duplicate vector_bytes entries
    else if I32_MAX < record_index then .error (.RecordIndex record_index)
    else .ok (entries ++ [(vector_bytes,
      prepared_sample expected_cohort record_index record.receive_time header vector_bytes)]))

def prepare_records_indexed (expected_cohort : String) :
    Nat → List SegmentRecord → Entries → Panicking PreparePartError Entries
  | _, [], entries => pure entries
  | record_index, record :: rest, entries => do
    let entries ← prepare_record_indexed expected_cohort record_index record entries
    prepare_records_indexed expected_cohort (record_index + 1) rest entries

def prepare_segment_indexed (bytes : Bytes) (expected_cohort : String)
    (expected_window_start expected_window_seconds : Nat) : Panicking PreparePartError PreparedPart := do
  let segment ← ExceptT.mk ((read_segment_indexed (bytes.length + 1) bytes).run.map (Except.mapError PreparePartError.Segment))
  plain (check_header segment.header segment.records.length expected_cohort expected_window_start expected_window_seconds)
  let entries ← prepare_records_indexed expected_cohort 0 segment.records []
  return {
    cohort := segment.header.cohort.name
    window_start := segment.header.window_start
    window_seconds := segment.header.window_seconds
    received_frame_count := segment.header.received_frame_count
    record_count := segment.header.record_count
    samples := entries.map Prod.snd }

theorem prepare_record_agrees (expected_cohort : String) (record_index : Nat) (record : SegmentRecord) (entries : Entries) :
    Agrees (prepare_record_indexed expected_cohort record_index record entries)
      (prepare_record expected_cohort record_index record entries) := by
  have parsed := parse_frame_header_agrees record.frame
  unfold Agrees at parsed
  unfold prepare_record_indexed prepare_record
  rw [parsed]
  cases outcome : parse_frame_header record.frame with
  | error error => rfl
  | ok header =>
    obtain ⟨vector, framed⟩ := parse_frame_header_iff.mp outcome
    have inside := framed.length_min
    show Agrees (index_range record.frame (FIXED_FRAME_HEADER_LEN + header.name_len) record.frame.length >>= _) _
    apply agrees_index inside (Nat.le_refl _)
    rw [List.take_length]
    rfl

theorem prepare_records_agrees (expected_cohort : String) (record_index : Nat) (records : List SegmentRecord)
    (entries : Entries) : Agrees (prepare_records_indexed expected_cohort record_index records entries)
      (prepare_records expected_cohort record_index records entries) := by
  induction records generalizing record_index entries with
  | nil => exact agrees_pure _
  | cons record rest ih =>
    apply agrees_bind (prepare_record_agrees _ _ _ _)
    intro entries _
    exact ih (record_index + 1) entries

/-- Preparing a segment takes no slice outside a frame or the buffer. -/
theorem prepare_segment_agrees (bytes : Bytes) (expected_cohort : String) (expected_window_start expected_window_seconds : Nat) :
    Agrees (prepare_segment_indexed bytes expected_cohort expected_window_start expected_window_seconds)
      (prepare_segment bytes expected_cohort expected_window_start expected_window_seconds) := by
  have read := read_segment_agrees (Nat.lt_succ_self bytes.length)
  unfold Agrees at read
  unfold prepare_segment_indexed prepare_segment
  rw [read]
  cases read_segment bytes with
  | error error => rfl
  | ok segment =>
    show Agrees (plain (check_header _ _ _ _ _) >>= fun _ => _) (check_header _ _ _ _ _ >>= fun _ => _)
    apply agrees_bind (agrees_plain _)
    intro _ _
    apply agrees_bind (prepare_records_agrees _ _ _ _)
    intro entries _
    exact agrees_pure _

end Indexed

/-- A prepared part comes from a segment whose records its samples divide. -/
theorem prepared_records {bytes : Bytes} {expected_cohort : String} {expected_window_start expected_window_seconds : Nat}
    {prepared : PreparedPart}
    (found : prepare_segment bytes expected_cohort expected_window_start expected_window_seconds = .ok prepared) :
    ∃ segment entries, read_segment bytes = .ok segment ∧ prepared.record_count = segment.header.record_count ∧
      segment.records.length = segment.header.record_count ∧ prepared.samples = entries.map Prod.snd ∧
      Deduplicated expected_cohort segment.records entries := by
  unfold prepare_segment at found
  cases read : read_segment bytes with
  | error error => rw [read] at found; cases found
  | ok segment =>
    rw [read] at found
    obtain ⟨checked, found⟩ := Results.check_ok.mp found
    obtain ⟨entries, entered, built⟩ := Results.bind_ok.mp found
    obtain rfl := Except.ok.inj built
    refine ⟨segment, entries, rfl, rfl, ?_, rfl, prepare_records_deduplicated .empty entered⟩
    unfold check_header at checked
    split at checked <;> try cases checked
    split at checked <;> try cases checked
    split at checked <;> try cases checked
    split at checked <;> try cases checked
    rename_i counted
    exact not_not.mp counted

/-- Deduplication within a part is an exact partition of its records, and no slice of a frame taken
    for it goes out of range. -/
theorem samples_partition_records (bytes : Bytes) (expected_cohort : String)
    (expected_window_start expected_window_seconds : Nat) :
    (∀ prepared, prepare_segment bytes expected_cohort expected_window_start expected_window_seconds = .ok prepared →
      ∃ segment, read_segment bytes = .ok segment ∧ Partitioned segment.records prepared.samples ∧
        (prepared.samples.map (·.dup_count)).sum = segment.header.record_count) ∧
    prepare_segment_indexed bytes expected_cohort expected_window_start expected_window_seconds =
      Panics.plain (prepare_segment bytes expected_cohort expected_window_start expected_window_seconds) := by
  refine ⟨fun prepared found => ?_, prepare_segment_agrees _ _ _ _⟩
  obtain ⟨segment, entries, read, _, counted, samples, held⟩ := prepared_records found
  have partitioned := held.partitioned
  rw [← samples] at partitioned
  exact ⟨segment, read, partitioned, by rw [partitioned.total, counted]⟩

end VectorSeam.Occurrences
