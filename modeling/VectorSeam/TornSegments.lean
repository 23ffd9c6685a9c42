import VectorSeam.Occurrences

/-!
Torn segments. A proper prefix of a segment with true counts is rejected wherever it is
cut: the header needs its declared length, records delimit themselves, and a cut between
two records leaves fewer of them than the header counts.
-/

namespace VectorSeam.TornSegments
open VectorSeam.LittleEndian VectorSeam.Frame VectorSeam.FrameLayout VectorSeam.Segments VectorSeam.SegmentLayout
open VectorSeam.Cohort VectorSeam.Model VectorSeam.Measure VectorSeam.Occurrences VectorSeam.SegmentFormat

/-! ### Decoding is unique -/

theorem record_unique {left right : SegmentRecord} {rest other : Bytes} (leftFits : RecordFits left)
    (rightFits : RecordFits right) (same : record_bytes left ++ rest = record_bytes right ++ other) :
    left = right ∧ rest = other := by
  have here : (record_bytes left ++ rest).drop 0 = record_bytes left ++ rest := rfl
  have there : (record_bytes left ++ rest).drop 0 = record_bytes right ++ other := same
  obtain ⟨time, total, frame, behind, _⟩ := read_record leftFits here
  obtain ⟨otherTime, otherTotal, otherFrame, otherBehind, _⟩ := read_record rightFits there
  have length : left.frame.length = right.frame.length := Except.ok.inj (total.symm.trans otherTotal)
  have times : left.receive_time = right.receive_time := Option.some.inj (time.symm.trans otherTime)
  rw [length] at frame behind
  refine ⟨?_, behind.symm.trans otherBehind⟩
  have frames : left.frame = right.frame := frame.symm.trans otherFrame
  cases left
  cases right
  cases times
  cases frames
  rfl

/-- Records that fill a start of what other records fill are a start of them. -/
theorem records_prefix {left right : List SegmentRecord} {rest : Bytes} (leftFits : ∀ record ∈ left, RecordFits record)
    (rightFits : ∀ record ∈ right, RecordFits record)
    (same : left.flatMap record_bytes ++ rest = right.flatMap record_bytes) : left <+: right := by
  induction left generalizing right with
  | nil => exact List.nil_prefix
  | cons record left ih =>
    obtain ⟨recordFits, restFit⟩ := List.forall_mem_cons.mp leftFits
    cases right with
    | nil =>
      have size := congrArg List.length same
      rw [List.flatMap_cons, List.length_append, List.length_append, length_record_bytes, List.flatMap_nil,
        List.length_nil] at size
      omega
    | cons next right =>
      obtain ⟨nextFits, othersFit⟩ := List.forall_mem_cons.mp rightFits
      rw [List.flatMap_cons, List.flatMap_cons, List.append_assoc] at same
      obtain ⟨rfl, behind⟩ := record_unique recordFits nextFits same
      exact List.cons_prefix_cons.mpr ⟨rfl, ih restFit othersFit behind⟩

theorem head_unique {header other : SegmentHeader} {extra more body rest : Bytes} (fits : HeaderFits header)
    (otherFits : HeaderFits other) (short : (head_bytes header extra).length < 8 + 2 ^ 32)
    (otherShort : (head_bytes other more).length < 8 + 2 ^ 32)
    (same : head_bytes header extra ++ body = head_bytes other more ++ rest) : header = other ∧ body = rest := by
  have here := read_header_iff.mpr ⟨extra, body, fits, rfl, rfl, short⟩
  have there := read_header_iff.mpr ⟨more, rest, otherFits, same, rfl, otherShort⟩
  obtain ⟨headers, lengths⟩ := Prod.mk.inj (Except.ok.inj (here.symm.trans there))
  exact ⟨headers, (List.append_inj same lengths).2⟩

/-! ### Cuts -/

/-- What can still be read of a torn segment has the header of the whole and not all of its records. -/
theorem torn_records {segment torn : Segment} {extra : Bytes} {cut : Nat} (fits : SegmentFits segment extra)
    (proper : cut < (segment_bytes segment.header extra segment.records).length)
    (read : read_segment ((segment_bytes segment.header extra segment.records).take cut) = .ok torn) :
    torn.header = segment.header ∧ torn.records <+: segment.records ∧ torn.records ≠ segment.records := by
  obtain ⟨more, tornFits, laid⟩ := read_segment_iff.mp read
  have whole := List.take_append_drop cut (segment_bytes segment.header extra segment.records)
  have rest_nonempty : 0 < ((segment_bytes segment.header extra segment.records).drop cut).length := by
    rw [List.length_drop]
    omega
  rw [laid] at whole
  generalize (segment_bytes segment.header extra segment.records).drop cut = rest at whole rest_nonempty
  rw [segment_bytes, segment_bytes, List.append_assoc] at whole
  obtain ⟨headers, bodies⟩ := head_unique tornFits.header fits.header tornFits.short fits.short whole
  refine ⟨headers, records_prefix tornFits.records fits.records bodies, fun same => ?_⟩
  rw [same] at bodies
  have size := congrArg List.length bodies
  rw [List.length_append] at size
  omega

/-- Bytes written for a header with true counts. -/
structure Intact (header : SegmentHeader) (records : List SegmentRecord) (bytes : Bytes) : Prop where
  header_fits : HeaderFits header
  times_fit : ∀ record ∈ records, record.receive_time < 2 ^ 64
  written : write_segment header records = .ok bytes
  record_count : header.record_count = records.length
  received_frame_count : header.record_count ≤ header.received_frame_count

section Intact
variable {header : SegmentHeader} {records : List SegmentRecord} {bytes : Bytes} (intact : Intact header records bytes)
include intact

theorem Intact.fits : SegmentFits { header, records } [] ∧ bytes = segment_bytes header [] records := by
  obtain ⟨parsed, laid, _⟩ := write_segment_ok.mp intact.written
  have short := cohort_length header.cohort
  simp only [MAX_COHORT_NAME_BYTES] at short
  refine ⟨⟨intact.header_fits, fun record member => ⟨intact.times_fit record member, parsed record member⟩, ?_⟩, laid⟩
  simp only [BASE_HEADER_LEN, List.length_nil]
  omega

theorem Intact.torn_rejected {cut : Nat} (proper : cut < bytes.length) (expected_cohort : String)
    (expected_window_start expected_window_seconds : Nat) : ∃ error,
      prepare_segment (bytes.take cut) expected_cohort expected_window_start expected_window_seconds = .error error := by
  cases outcome : prepare_segment (bytes.take cut) expected_cohort expected_window_start expected_window_seconds with
  | error error => exact ⟨error, rfl⟩
  | ok prepared =>
    obtain ⟨fits, rfl⟩ := intact.fits
    obtain ⟨torn, entries, read, _, counted, _, _⟩ := prepared_records outcome
    obtain ⟨headers, inside, fewer⟩ := torn_records fits proper read
    rw [headers] at counted
    exact absurd (inside.eq_of_length (counted.trans intact.record_count)) fewer

/-- The whole segment is accepted where it belongs, as far as 32 bits count its records. -/
theorem Intact.whole_accepted :
    (∃ prepared, prepare_segment bytes header.cohort.name header.window_start header.window_seconds = .ok prepared) ↔
      Countable records := by
  have read : read_segment bytes = .ok { header, records } :=
    written_segment_reads intact.header_fits intact.times_fit intact.written
  constructor
  · rintro ⟨prepared, found⟩
    obtain ⟨segment, entries, segmentRead, _, _, _, held⟩ := prepared_records found
    obtain rfl := Except.ok.inj (segmentRead.symm.trans read)
    exact held.countable
  · intro countable
    obtain ⟨parsed, _, _⟩ := write_segment_ok.mp intact.written
    have numbered := intact.record_count
    have received := intact.received_frame_count
    obtain ⟨entries, entered⟩ :=
      prepare_records_succeeds (Deduplicated.empty : Deduplicated header.cohort.name [] []) parsed countable
    unfold prepare_segment
    rw [read]
    have checked : check_header header records.length header.cohort.name header.window_start header.window_seconds = .ok () := by
      unfold check_header
      rw [if_neg (not_not.mpr rfl), if_neg (not_not.mpr rfl), if_neg (not_not.mpr rfl), if_neg (not_not.mpr numbered.symm),
        if_neg (by omega)]
    exact ⟨_, Results.check_ok.mpr ⟨checked, Results.bind_ok.mpr ⟨entries, entered, rfl⟩⟩⟩

end Intact

/-- Fewer records than 32 bits count are counted. -/
theorem countable_of_few {records : List SegmentRecord} (few : (records.length : Int) ≤ I32_MAX) : Countable records := by
  refine ⟨fun before record present _ => ?_, fun record _ => ?_⟩
  · have shorter := present.length_le
    rw [List.length_append, List.length_singleton] at shorter
    omega
  · have counted : occurrences records (payload record) ≤ records.length := by
      have bound := List.count_le_length (a := payload record) (l := records.map payload)
      rwa [List.length_map] at bound
    omega

/-- Every proper prefix of a segment with true counts is rejected, and the whole is accepted exactly when
    indices of first occurrences and numbers of occurrences fit the durable 32-bit fields, which those of at most
    2^31 - 1 records do. -/
theorem torn_segments_detected {header : SegmentHeader} {records : List SegmentRecord} {bytes : Bytes}
    (intact : Intact header records bytes) :
    (∀ cut < bytes.length, ∃ error, prepare_segment (bytes.take cut) header.cohort.name header.window_start
      header.window_seconds = .error error) ∧
    ((∃ prepared, prepare_segment bytes header.cohort.name header.window_start header.window_seconds = .ok prepared) ↔
      Countable records) ∧
    ((records.length : Int) ≤ I32_MAX → ∃ prepared, prepare_segment bytes header.cohort.name header.window_start
      header.window_seconds = .ok prepared) :=
  ⟨fun _ proper => intact.torn_rejected proper _ _ _, intact.whole_accepted,
    fun few => intact.whole_accepted.mpr (countable_of_few few)⟩

theorem short_intact : Intact shortHeader [shortRecord] (segment_bytes shortHeader [] [shortRecord]) where
  header_fits := ⟨by decide, by decide, by decide, by decide, by decide, by decide⟩
  times_fit := List.forall_mem_singleton.mpr (by decide)
  written := write_segment_ok.mpr ⟨List.forall_mem_singleton.mpr ⟨_, short_frame_parses⟩, rfl, by decide⟩
  record_count := rfl
  received_frame_count := by decide

theorem short_segment_torn : (∀ cut < (segment_bytes shortHeader [] [shortRecord]).length, ∃ error,
      prepare_segment ((segment_bytes shortHeader [] [shortRecord]).take cut) "a" 60 60 = .error error) ∧
    ∃ prepared, prepare_segment (segment_bytes shortHeader [] [shortRecord]) "a" 60 60 = .ok prepared := by
  obtain ⟨torn, _, whole⟩ := torn_segments_detected short_intact
  exact ⟨torn, whole (by decide)⟩

/-! ### More records than 32 bits count -/

def repeatedHeader (count : Nat) : SegmentHeader := ⟨60, 60, 61000000, 61000000, count, count, ⟨"a", a_validates⟩⟩

theorem repeated_intact {count : Nat} (held : count ≤ 2 ^ 32) : Intact (repeatedHeader count)
    (List.replicate count shortRecord) (segment_bytes (repeatedHeader count) [] (List.replicate count shortRecord)) := by
  have size : ((List.replicate count shortRecord).flatMap record_bytes).length = count * 41 := by
    have each : (record_bytes shortRecord).length = 41 := by decide
    rw [List.flatMap_replicate, List.length_flatten, List.map_replicate, List.sum_replicate, each, smul_eq_mul]
  have small : count < 2 ^ 64 := Nat.lt_of_le_of_lt held (by decide)
  refine ⟨⟨?_, ?_, ?_, ?_, small, small⟩, fun record member => ?_, ?_, ?_, Nat.le_refl _⟩
  · show 60 < 2 ^ 64
    decide
  · show 60 < 2 ^ 32
    decide
  · show 61000000 < 2 ^ 64
    decide
  · show 61000000 < 2 ^ 64
    decide
  · rw [List.eq_of_mem_replicate member]
    decide
  · refine write_segment_ok.mpr ⟨fun record member => ?_, rfl, ?_⟩
    · rw [List.eq_of_mem_replicate member]
      exact ⟨_, short_frame_parses⟩
    · have head : (head_bytes (repeatedHeader count) []).length = 55 := by
        rw [length_head_bytes]
        rfl
      rw [segment_bytes, List.length_append, head, size]
      simp only [U64_MAX]
      omega
  · rw [List.length_replicate]
    rfl

theorem repeated_not_countable {count : Nat} (many : I32_MAX < count) :
    ¬Countable (List.replicate count shortRecord) := by
  intro countable
  have nonempty : count ≠ 0 := by
    rintro rfl
    exact absurd many (by decide)
  have bound := countable.occurrences shortRecord (List.mem_replicate.mpr ⟨nonempty, rfl⟩)
  rw [Occurrences.occurrences, List.map_replicate, List.count_replicate_self] at bound
  omega

/-- A segment with true counts that is rejected as a whole: one vector more often than 32 bits count. -/
theorem repeated_segment_rejected : ∃ bytes,
    Intact (repeatedHeader (2 ^ 31)) (List.replicate (2 ^ 31) shortRecord) bytes ∧
      ¬∃ prepared, prepare_segment bytes "a" 60 60 = .ok prepared := by
  have intact := repeated_intact (show 2 ^ 31 ≤ 2 ^ 32 by decide)
  exact ⟨_, intact, fun accepted => repeated_not_countable (by decide) (intact.whole_accepted.mp accepted)⟩

end VectorSeam.TornSegments
