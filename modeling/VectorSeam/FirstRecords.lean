import VectorSeam.Occurrences
import VectorSeam.Measurements

/-!
Which vectors of a part reach the measurer. Validity is judged on the first record with
the vector bytes, after deduplication: a later record with the same bytes is only
counted, be it valid or not.
-/

namespace VectorSeam.FirstRecords
open VectorSeam.LittleEndian VectorSeam.Frame VectorSeam.FrameLayout VectorSeam.Segments VectorSeam.SegmentLayout
open VectorSeam.Cohort VectorSeam.Model VectorSeam.Measure VectorSeam.Occurrences VectorSeam.Effects VectorSeam.Programs
open VectorSeam.Measurements

/-- A record that can be measured: a nonempty f32 vector of its cohort with a receive time that fits the truth schema. -/
structure Valid (expected_cohort : String) (record : SegmentRecord) : Prop where
  frame : ∃ header, parse_frame_header record.frame = .ok header ∧ header.name = expected_cohort ∧ header.dtype = F32_DTYPE ∧
    header.dimension ≠ 0 ∧ F32_BYTES * header.dimension = (payload record).length
  receive_time : record.receive_time < 2 ^ 63

/-- The query vector of a sample, when both its vector and its receive time are there. -/
def query (sample : PreparedSample) : Option (List UInt32) :=
  match sample.receive_time_us, sample.vector with
  | .ok _, .ok vector => some vector
  | _, _ => none
/-- The vector that an event asked the measurer about. -/
def asked {B : Type} : Event B → Option (List UInt32)
  | .measured vector _ _ => some vector
  | _ => none

theorem semantic_error_none {expected_cohort : String} {header : FrameHeader} {vector : Bytes} :
    semantic_error expected_cohort header vector = none ↔ header.name = expected_cohort ∧ header.dtype = F32_DTYPE ∧
      header.dimension ≠ 0 ∧ F32_BYTES * header.dimension = vector.length := by
  unfold semantic_error
  by_cases cohort : header.name ≠ expected_cohort
  · rw [if_pos cohort]
    exact ⟨nofun, fun sound => absurd sound.1 cohort⟩
  rw [if_neg cohort]
  by_cases dtype : header.dtype ≠ F32_DTYPE
  · rw [if_pos dtype]
    exact ⟨nofun, fun sound => absurd sound.2.1 dtype⟩
  rw [if_neg dtype]
  by_cases dimension : header.dimension = 0 ∨ header.dimension * F32_BYTES ≠ vector.length
  · rw [if_pos dimension]
    refine ⟨nofun, fun sound => ?_⟩
    rcases dimension with zero | other
    · exact absurd zero sound.2.2.1
    · exact absurd (by rw [Nat.mul_comm]; exact sound.2.2.2) other
  · rw [if_neg dimension]
    obtain ⟨nonzero, exact⟩ := not_or.mp dimension
    refine ⟨fun _ => ⟨not_not.mp cohort, not_not.mp dtype, nonzero, ?_⟩, fun _ => rfl⟩
    rw [Nat.mul_comm]
    exact not_not.mp exact

/-- Whether a sample can be asked for depends on its first record alone. -/
theorem query_counted {expected_cohort : String} {records before : List SegmentRecord} {record : SegmentRecord}
    {header : FrameHeader} :
    query (counted_sample expected_cohort records before record header) =
      if record.receive_time < 2 ^ 63 ∧ semantic_error expected_cohort header (payload record) = none then
        some (f32_bits (payload record)) else none := by
  simp only [query, counted_sample, prepared_sample, receive_time_us]
  by_cases time : record.receive_time < 2 ^ 63
  · rw [if_pos time]
    cases wrong : semantic_error expected_cohort header (payload record) with
    | none => rw [if_pos ⟨time, rfl⟩]
    | some error => rw [if_neg (by rintro ⟨_, absent⟩; cases absent)]
  · rw [if_neg time, if_neg (fun both => time both.1)]

theorem valid_iff {expected_cohort : String} {record : SegmentRecord} {header : FrameHeader}
    (parsed : parse_frame_header record.frame = .ok header) :
    Valid expected_cohort record ↔ record.receive_time < 2 ^ 63 ∧
      semantic_error expected_cohort header (payload record) = none := by
  rw [semantic_error_none]
  constructor
  · rintro ⟨⟨other, otherParsed, sound⟩, time⟩
    obtain rfl := Except.ok.inj (otherParsed.symm.trans parsed)
    exact ⟨time, sound⟩
  · rintro ⟨time, sound⟩
    exact ⟨⟨header, parsed, sound⟩, time⟩

/-- A completed measurement asked for every sample that has a query vector, in order. -/
theorem measure_samples_asks {B : Type} {part : PreparedPart} {part_ulid : String} {config : AggregationConfig}
    {computed_at_us : Nat} {samples : List PreparedSample} {measuring : Measuring} {measured : MeasuredPart}
    {world world' : World B}
    (run : Runs answer (measure_samples part part_ulid config computed_at_us samples measuring) world
      (.returned (.Complete measured)) world') :
    ∃ block, world'.log = world.log ++ block ∧ block.filterMap asked = samples.filterMap query := by
  obtain ⟨block, finish, logged, -, measures⟩ := measure_samples_complete run
  refine ⟨block, logged, ?_⟩
  clear run logged
  induction measures with
  | done => rfl
  | @unasked sample _ _ _ _ unmeasurable _ all =>
    have silent : query sample = none := by
      unfold query
      split
      · rename_i time vector
        exact absurd vector (unmeasurable _ _ time)
      · rfl
    rw [List.filterMap_cons_none rfl, List.filterMap_cons_none silent, all]
  | @failed sample _ _ _ _ _ vector _ time query_vector _ all =>
    have asks : query sample = some vector := by rw [query, time, query_vector]
    rw [List.filterMap_cons_some asks, ← all]
    rfl
  | @answered sample _ _ _ _ _ vector _ _ time query_vector _ _ all =>
    have asks : query sample = some vector := by rw [query, time, query_vector]
    rw [List.filterMap_cons_some asks, ← all]
    rfl

/-! ### The first record decides -/

/-- Vector bytes of a part that it sends to the measurer. -/
def Reaches (records : List SegmentRecord) (samples : List PreparedSample) (vector : Bytes) : Prop :=
  ∃ sample ∈ samples, sample_bytes records sample = some vector ∧ query sample = some (f32_bits vector)

theorem Least.unique {records : List SegmentRecord} {index other : Nat} {record next : SegmentRecord}
    (here : Least records index record) (there : Least records other next) (same : payload record = payload next) :
    record = next := by
  rcases Nat.lt_trichotomy index other with less | rfl | greater
  · exact absurd same (there.earlier index less record here.here)
  · exact Option.some.inj (here.here.symm.trans there.here)
  · exact absurd same.symm (here.earlier other greater next there.here)

theorem reaches_iff {expected_cohort : String} {records : List SegmentRecord} {entries : Entries} {record : SegmentRecord}
    (held : Deduplicated expected_cohort records entries) (member : record ∈ records) :
    Reaches records (entries.map Prod.snd) (payload record) ↔
      ∃ index first, Least records index first ∧ payload first = payload record ∧ Valid expected_cohort first := by
  obtain ⟨entry, entryMember, same⟩ := List.mem_map.mp (held.covered record member)
  obtain ⟨before, first, header, found, built⟩ := held.stands entry entryMember
  have bytes : payload first = payload record := by rw [← same, built]
  have asks : query (counted_sample expected_cohort records before first header) = _ := query_counted
  constructor
  · rintro ⟨sample, sampleMember, sampleBytes, queried⟩
    obtain ⟨other, otherMember, rfl⟩ := List.mem_map.mp sampleMember
    rw [held.bytes otherMember, ← same] at sampleBytes
    obtain rfl := List.inj_on_of_nodup_map held.distinct otherMember entryMember (Option.some.inj sampleBytes)
    refine ⟨before.length, first, found.least, bytes, (valid_iff found.parsed).mpr ?_⟩
    rw [built, asks] at queried
    by_cases sound : first.receive_time < 2 ^ 63 ∧ semantic_error expected_cohort header (payload first) = none
    · exact sound
    · rw [if_neg sound] at queried
      cases queried
  · rintro ⟨index, next, least, nextBytes, valid⟩
    obtain rfl := Least.unique least found.least (nextBytes.trans bytes.symm)
    refine ⟨entry.2, List.mem_map_of_mem entryMember, by rw [held.bytes entryMember, same], ?_⟩
    rw [built, asks, if_pos ((valid_iff found.parsed).mp valid), bytes]

/-- The first record with some vector bytes decides whether they reach the measurer, whatever records
    with the same bytes follow it; and the measurer is asked for exactly the samples that do. -/
theorem first_record_decides {bytes : Bytes} {expected_cohort : String} {expected_window_start expected_window_seconds : Nat}
    {prepared : PreparedPart}
    (found : prepare_segment bytes expected_cohort expected_window_start expected_window_seconds = .ok prepared) :
    ∃ segment, read_segment bytes = .ok segment ∧
      (∀ record ∈ segment.records, Reaches segment.records prepared.samples (payload record) ↔
        ∃ index first, Least segment.records index first ∧ payload first = payload record ∧ Valid expected_cohort first) ∧
      ∀ (B : Type) (part_ulid : String) (config : AggregationConfig) (computed_at_us : Nat) (measured : MeasuredPart)
        (world world' : World B), Runs answer (measure_prepared_part prepared part_ulid config computed_at_us) world
          (.returned (.Complete measured)) world' →
        ∃ block, world'.log = world.log ++ block ∧ block.filterMap asked = prepared.samples.filterMap query := by
  obtain ⟨segment, entries, read, _, _, samples, held⟩ := prepared_records found
  refine ⟨segment, read, fun record member => ?_, fun B part_ulid config computed_at_us measured world world' run => ?_⟩
  · rw [samples]
    exact reaches_iff held member
  · exact measure_samples_asks run

/-! ### A bad frame in front of a good one -/

/-- The same vector bytes, first with a dtype that is not supported and then as a valid sample. -/
def badRecord : SegmentRecord := ⟨61000000, frame_bytes 2 1 (utf8 "a") [0, 0, 128, 63]⟩
def goodRecord : SegmentRecord := ⟨62000000, frame_bytes 1 1 (utf8 "a") [0, 0, 128, 63]⟩
def shadowedHeader : SegmentHeader := ⟨60, 60, 61000000, 62000000, 2, 2, ⟨"a", SegmentFormat.a_validates⟩⟩
def shadowedSegment : Bytes := segment_bytes shadowedHeader [] [badRecord, goodRecord]

theorem bad_record_parses : parse_frame_header badRecord.frame = .ok ⟨29, 2, 1, 1, 4, "a"⟩ :=
  parse_frame_header_iff.mpr ⟨[0, 0, 128, 63], ⟨by decide, by decide, by decide, by decide, by decide, by decide⟩, rfl⟩

theorem good_record_parses : parse_frame_header goodRecord.frame = .ok ⟨29, 1, 1, 1, 4, "a"⟩ :=
  parse_frame_header_iff.mpr ⟨[0, 0, 128, 63], ⟨by decide, by decide, by decide, by decide, by decide, by decide⟩, rfl⟩

theorem good_record_valid : Valid "a" goodRecord :=
  ⟨⟨_, good_record_parses, rfl, rfl, by decide, by rw [payload_of_parse good_record_parses]; decide⟩, by decide⟩

theorem shadowed_segment_reads :
    read_segment shadowedSegment = .ok { header := shadowedHeader, records := [badRecord, goodRecord] } := by
  refine read_segment_iff.mpr ⟨[], ⟨⟨by decide, by decide, by decide, by decide, by decide, by decide⟩, ?_, by decide⟩, rfl⟩
  intro record member
  rcases List.mem_pair.mp member with rfl | rfl
  · exact ⟨by decide, _, bad_record_parses⟩
  · exact ⟨by decide, _, good_record_parses⟩

theorem shadowed_segment_prepared : ∃ prepared, prepare_segment shadowedSegment "a" 60 60 = .ok prepared ∧
    prepared.samples.map query = [none] := by
  have queries : ((prepare_segment shadowedSegment "a" 60 60).toOption.map fun prepared => prepared.samples.map query) =
      some [none] := by decide +kernel
  cases outcome : prepare_segment shadowedSegment "a" 60 60 with
  | error error => rw [outcome] at queries; cases queries
  | ok prepared =>
    rw [outcome] at queries
    exact ⟨prepared, rfl, Option.some.inj queries⟩

/-- A valid record whose vector bytes are not sent to the measurer, since an invalid record has them first. -/
theorem good_record_suppressed : ∃ prepared,
    prepare_segment shadowedSegment "a" 60 60 = .ok prepared ∧
      read_segment shadowedSegment = .ok { header := shadowedHeader, records := [badRecord, goodRecord] } ∧
      Valid "a" goodRecord ∧ ¬Reaches [badRecord, goodRecord] prepared.samples (payload goodRecord) := by
  obtain ⟨prepared, found, queries⟩ := shadowed_segment_prepared
  refine ⟨prepared, found, shadowed_segment_reads, good_record_valid, ?_⟩
  rintro ⟨sample, member, _, queried⟩
  have silent : query sample ∈ prepared.samples.map query := List.mem_map_of_mem member
  rw [queries, queried] at silent
  exact absurd (List.mem_singleton.mp silent) nofun

/-- On the same part the samples are still as their first records decide. -/
theorem shadowed_first_decides : ∃ prepared segment,
    prepare_segment shadowedSegment "a" 60 60 = .ok prepared ∧ read_segment shadowedSegment = .ok segment ∧
      ∀ record ∈ segment.records, Reaches segment.records prepared.samples (payload record) ↔
        ∃ index first, Least segment.records index first ∧ payload first = payload record ∧ Valid "a" first := by
  obtain ⟨prepared, found, _⟩ := shadowed_segment_prepared
  obtain ⟨segment, read, decides, _⟩ := first_record_decides found
  exact ⟨prepared, segment, found, read, decides⟩

end VectorSeam.FirstRecords
